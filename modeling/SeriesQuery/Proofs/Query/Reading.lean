import SeriesQuery.Proofs.Text.Ensures
import SeriesQuery.Proofs.Windows
import SeriesQuery.Query.Grammar

/-!
# What is read from the text of a query

Offsets that are read fit into 64 bits, and steps are positive as well.

* `Bracket.InRange`, `Expr.InRange`, `Clause.InRange`, `Statement.InRange` : this of all that is
  written in a part of a query;
* `Grammar.expr_ensures`, `Grammar.statements_ensures` : so for all that the grammar reads;
* `Statement.allInRange_of_ofText` : and for whole queries.
-/

namespace SeriesQuery

open Text (Located)

/-! ## Ranges -/

def Bracket.InRange : Bracket → Prop
  | .offset ms => Time.fits ms = true
  | .step ms => 0 < ms ∧ Time.fits ms = true

namespace Expr

mutual

def InRange : Expr → Prop
  | .event .. | .number _ => True
  | .call _ args => AllInRange args
  | .binary _ lhs rhs => lhs.node.InRange ∧ rhs.node.InRange
  | .shift e bracket => e.node.InRange ∧ bracket.InRange
  | .paren e => e.node.InRange

def AllInRange : List (Located Expr) → Prop
  | [] => True
  | e :: es => e.node.InRange ∧ AllInRange es

end

theorem allInRange_of_forall {es : List (Located Expr)} (h : ∀ e ∈ es, e.node.InRange) :
    AllInRange es := by
  induction es with
  | nil => exact trivial
  | cons e es ih =>
    exact ⟨h e List.mem_cons_self, ih fun f hf => h f (List.mem_cons_of_mem e hf)⟩

end Expr

def Clause.InRange : Clause → Prop
  | .filter _ | .group _ => True
  | .offset ms => Time.fits ms = true

namespace Statement

mutual

def InRange : Statement → Prop
  | .expr _ e => e.node.InRange
  | .block body => AllInRange body
  | .clause c => c.InRange

def AllInRange : List (Located Statement) → Prop
  | [] => True
  | s :: rest => s.node.InRange ∧ AllInRange rest

end

theorem allInRange_iff {body : List (Located Statement)} :
    AllInRange body ↔ ∀ s ∈ body, s.node.InRange := by
  induction body with
  | nil => exact ⟨fun _ _ h => absurd h List.not_mem_nil, fun _ => trivial⟩
  | cons s rest ih => rw [AllInRange, ih, List.forall_mem_cons]

end Statement

/-! ## The grammar -/

namespace Grammar

open SeriesQuery.Parser

theorem scale_ensures (place : List Char) (n unit : Int) :
    (scale place n unit).Ensures (Time.fits · = true) := by
  intro s ms rest h
  unfold scale at h
  split at h
  · next ms' hms =>
    obtain ⟨rfl, -⟩ := Reply.done.inj h
    exact Time.fits_of_checked? hms
  · contradiction

theorem offsetSpec_ensures : offsetSpec.Ensures (Time.fits · = true) := by
  intro s
  unfold offsetSpec
  refine ensures_bind (fun n => ?_) s
  refine ensures_bind fun _ => ensures_bind fun _ => ensures_bind fun _ => ?_
  exact ensures_bind fun unit => scale_ensures s n unit

theorem stepSpec_ensures : stepSpec.Ensures fun ms => 0 < ms ∧ Time.fits ms = true := by
  intro s
  unfold stepSpec
  refine ensures_bind (fun n => ?_) s
  refine ensures_bind fun unit => ?_
  refine (scale_ensures s (n.getD 1) unit).bind fun ms hms => ?_
  split
  · exact ensures_refuse
  · next hpos => exact ensures_pure ⟨by omega, hms⟩

theorem inBrackets_ensures {p : Parser α} {P : α → Prop} (h : p.Ensures P) :
    (inBrackets p).Ensures P := by
  refine ensures_bind fun _ => ensures_bind fun _ => h.bind fun a ha => ?_
  exact ensures_bind fun _ => ensures_bind fun _ => ensures_pure ha

theorem bracket_ensures : bracket.Ensures Bracket.InRange :=
  inBrackets_ensures <|
    (offsetSpec_ensures.map Bracket.offset fun _ h => h).orElse
      (stepSpec_ensures.map Bracket.step fun _ h => h)

/-! ### Expressions -/

theorem braceRest_ensures {item : Parser α} {P : α → Prop} (h : item.Ensures P) :
    (braceRest item).Ensures fun items => ∀ a ∈ items, P a := by
  refine (h.listOf comma).bind fun items hitems => ?_
  exact ensures_bind fun _ => ensures_bind fun _ => ensures_bind fun _ => ensures_pure hitems

theorem number_ensures : number.Ensures Expr.InRange :=
  ensures_bind fun _ => ensures_bind fun _ => ensures_bind fun _ => ensures_pure trivial

theorem event_ensures : event.Ensures Expr.InRange :=
  ensures_bind fun _ => ensures_bind fun _ => ensures_pure trivial

section Within

variable {inner : Parser (Located Expr)} (h : inner.Ensures fun e => e.node.InRange)
include h

theorem paren_ensures : (paren inner).Ensures Expr.InRange := by
  refine ensures_bind fun _ => ensures_bind fun _ => h.commit.bind fun e he => ?_
  exact Ensures.commit (ensures_bind fun _ => ensures_bind fun _ => ensures_pure he)

theorem call_ensures : (call inner).Ensures Expr.InRange := by
  refine ensures_bind fun _ => ensures_bind fun _ => ensures_bind fun _ => ?_
  refine Ensures.bind (Ensures.commit (ensures_bind fun _ => braceRest_ensures h)) fun es hes => ?_
  exact ensures_pure (Expr.allInRange_of_forall hes)

theorem primary_ensures : (primary inner).Ensures fun e => e.node.InRange :=
  (number_ensures.orElse ((paren_ensures h).orElse
    ((call_ensures h).orElse event_ensures))).located

theorem postfixed_ensures : (postfixed inner).Ensures fun e => e.node.InRange := by
  refine (primary_ensures h).bind fun e he => ?_
  refine Ensures.fold (P := fun e : Located Expr => e.node.InRange) bracket_ensures ?_ he
  exact fun e b he hb => And.intro he hb

omit h in
theorem chain_ensures {operand : Parser (Located Expr)} (ops : List (Char × Merger))
    (hop : operand.Ensures fun e => e.node.InRange) :
    (chain operand ops).Ensures fun e => e.node.InRange := by
  refine hop.bind fun e he => ?_
  have hright : Parser.Ensures (do let op ← operator ops; return (op, ← commit operand))
      fun opRhs : Merger × Located Expr => opRhs.2.node.InRange :=
    ensures_bind fun op => hop.commit.bind fun e he => ensures_pure he
  refine Ensures.fold (P := fun e : Located Expr => e.node.InRange) hright ?_ he
  exact fun lhs opRhs hl hr => And.intro hl hr

theorem sum_ensures : (sum inner).Ensures fun e => e.node.InRange :=
  chain_ensures _ (chain_ensures _ (postfixed_ensures h))

end Within

theorem exprWithin_ensures (depth : Nat) :
    (exprWithin depth).Ensures fun e => e.node.InRange := by
  induction depth with
  | zero => exact ensures_refuse
  | succ depth ih => exact sum_ensures ih

theorem expr_ensures : expr.Ensures fun e => e.node.InRange :=
  fun s => exprWithin_ensures (s.length + 1) s

/-! ### Statements -/

theorem offsetClause_ensures : offsetClause.Ensures Clause.InRange :=
  ensures_bind fun _ => ensures_bind fun _ =>
    (inBrackets_ensures offsetSpec_ensures).bind fun _ h => ensures_pure h

theorem clause_ensures : clause.Ensures Clause.InRange := by
  have hfilter : filterClause.Ensures Clause.InRange :=
    ensures_bind fun _ => ensures_bind fun _ => ensures_bind fun _ => ensures_pure trivial
  have hgroup : groupClause.Ensures Clause.InRange :=
    ensures_bind fun _ => ensures_bind fun _ => ensures_bind fun _ => ensures_bind fun _ =>
      ensures_bind fun _ => ensures_bind fun _ => ensures_pure trivial
  exact ensures_bind fun _ => Ensures.commit (hfilter.orElse (hgroup.orElse offsetClause_ensures))

theorem named_ensures : named.Ensures Statement.InRange :=
  ensures_bind fun _ => ensures_bind fun _ => ensures_bind fun _ => ensures_bind fun _ =>
    expr_ensures.commit.bind fun _ h => ensures_pure h

/-- What holds of each statement holds of all that are read. -/
theorem statementsRest_ensures {statement : Parser (Located Statement)} {P : Statement → Prop}
    (h : statement.Ensures fun x => P x.node) {found : List (Located Statement)}
    (hfound : ∀ x ∈ found, P x.node) :
    (statementsRest statement found).Ensures fun body => ∀ x ∈ body, P x.node := by
  have hone : Parser.Ensures (do let x ← statement; blanks; return x)
      fun x : Located Statement => P x.node :=
    h.bind fun x hx => ensures_bind fun _ => ensures_pure hx
  intro s body rest hs
  induction hn : s.length using Nat.strongRecOn generalizing s found with
  | ind n ih =>
    rw [statementsRest] at hs
    split at hs
    · exact (Reply.done.inj hs).1 ▸ hfound
    · split at hs
      · next x mid hx =>
        have hmore : ∀ y ∈ found ++ [x], P y.node :=
          List.forall_mem_append.mpr ⟨hfound, List.forall_mem_singleton.mpr (hone s x mid hx)⟩
        split at hs
        · exact (Reply.done.inj hs).1 ▸ hmore
        · split at hs
          · split at hs
            · next hlt => exact ih _ (hn ▸ hlt) hmore _ hs rfl
            · contradiction
          · contradiction
          · contradiction
      · contradiction
      · contradiction

theorem statement_ensures {body : Parser (List (Located Statement))}
    (h : body.Ensures Statement.AllInRange) :
    (statement body).Ensures fun x => x.node.InRange := by
  have hblock : (block body).Ensures Statement.InRange :=
    ensures_bind fun _ => h.commit.bind fun _ hbody => ensures_bind fun _ => ensures_pure hbody
  exact ((clause_ensures.map Statement.clause fun _ hc => hc).orElse
    (hblock.orElse (named_ensures.orElse
      (expr_ensures.map (Statement.expr none) fun _ he => he)))).located

theorem statementsWithin_ensures (depth : Nat) :
    (statementsWithin depth).Ensures Statement.AllInRange := by
  induction depth with
  | zero => exact ensures_refuse
  | succ depth ih =>
    refine ensures_bind fun _ s body rest hs => Statement.allInRange_iff.mpr ?_
    exact statementsRest_ensures (statement_ensures ih) (List.forall_mem_nil _) s body rest hs

theorem statements_ensures : statements.Ensures Statement.AllInRange :=
  fun s => statementsWithin_ensures (s.length + 1) s

end Grammar

theorem Statement.exists_of_ofText {source : String} {body : List (Located Statement)}
    (h : Statement.ofText source = .ok body) :
    ∃ rest, Grammar.statements source.toList = .done body rest := by
  unfold Statement.ofText at h
  dsimp only at h
  split at h
  · next found rest hfound =>
    split at h
    · exact ⟨rest, Except.ok.inj h ▸ hfound⟩
    · contradiction
  · contradiction
  · contradiction

theorem Statement.allInRange_of_ofText {source : String} {body : List (Located Statement)}
    (h : Statement.ofText source = .ok body) : Statement.AllInRange body := by
  obtain ⟨rest, hbody⟩ := exists_of_ofText h
  exact Grammar.statements_ensures _ _ _ hbody

end SeriesQuery
