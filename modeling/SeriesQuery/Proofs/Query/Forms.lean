import SeriesQuery.Proofs.Query.Conditions
import SeriesQuery.Proofs.Query.Origins

/-!
# The form of the expressions that are read

A tree that is read keeps the order of the operators: what binds less tightly stands in a tighter
one only between parentheses or braces.

* `Expr.parts` : an expression and all that it is made of, `Expr.numbers` and `Expr.predicates`;
* `Expr.rank` : which level of the grammar reads an expression, `Merger.rank` for its chains;
* `Expr.Formed`, `Expr.WellFormed` : what the grammar reads, at the top and throughout;
* `Expr.IsRead` : read from some text, by itself, in a query or inside of what is;
* `Grammar.expr_ensures_wellFormed`, `Expr.IsRead.wellFormed` : all that is read is well formed.
-/

namespace SeriesQuery

open Text (Located)

/-- The level of the chains of an operation; the lower one binds more tightly. -/
def Merger.rank : Merger → Nat
  | .mul | .div => 2
  | .add | .sub => 3

theorem Merger.rank_le (op : Merger) : op.rank ≤ 3 := by cases op <;> decide

theorem Statement.exprsOf_eq (body : List (Located Statement)) :
    exprsOf body = body.flatMap (·.node.exprs) := by
  induction body with
  | nil => rfl
  | cons s rest ih => rw [exprsOf, ih, List.flatMap_cons]

namespace Expr

/-! ## Parts -/

mutual

def parts : Expr → List Expr
  | .event name labels => [.event name labels]
  | .number v => [.number v]
  | .call name args => .call name args :: partsOf args
  | .binary op lhs rhs => .binary op lhs rhs :: (lhs.node.parts ++ rhs.node.parts)
  | .shift e bracket => .shift e bracket :: e.node.parts
  | .paren e => .paren e :: e.node.parts

def partsOf : List (Located Expr) → List Expr
  | [] => []
  | e :: es => e.node.parts ++ partsOf es

end

/-- The literals in an expression. -/
def numbers (e : Expr) : List Float :=
  e.parts.filterMap fun
    | .number v => some v
    | _ => none

/-- The conditions in an expression. -/
def predicates (e : Expr) : List Predicate :=
  e.parts.flatMap fun
    | .event _ labels => labels.flatMap fun m => m.predicates.map (·.node)
    | _ => []

theorem mem_parts_self (e : Expr) : e ∈ e.parts := by
  cases e <;> rw [parts] <;> exact List.mem_cons_self

theorem partsOf_eq (es : List (Located Expr)) : partsOf es = es.flatMap (·.node.parts) := by
  induction es with
  | nil => rfl
  | cons e es ih => rw [partsOf, ih, List.flatMap_cons]

theorem parts_subset_cons {e f : Expr} {rest : List Expr} (he : e.parts = e :: rest)
    (hrest : f ∈ rest → f.parts ⊆ rest) (h : f ∈ e.parts) : f.parts ⊆ e.parts := by
  rw [he] at h
  rcases List.mem_cons.mp h with rfl | h
  · exact List.Subset.refl _
  · rw [he]
    exact List.subset_cons_of_subset _ (hrest h)

mutual

theorem parts_subset_of_mem : ∀ {e f : Expr}, f ∈ e.parts → f.parts ⊆ e.parts
  | .event .., _, h => parts_subset_cons rfl (fun h => absurd h List.not_mem_nil) h
  | .number _, _, h => parts_subset_cons rfl (fun h => absurd h List.not_mem_nil) h
  | .call name args, _, h => parts_subset_cons rfl (fun h => parts_subset_of_mem_partsOf h) h
  | .binary op lhs rhs, f, h => by
    refine parts_subset_cons rfl (fun h => ?_) h
    rcases List.mem_append.mp h with h | h
    · exact List.subset_append_of_subset_left _ (parts_subset_of_mem h)
    · exact List.subset_append_of_subset_right _ (parts_subset_of_mem h)
  | .shift e bracket, _, h => parts_subset_cons rfl (fun h => parts_subset_of_mem h) h
  | .paren e, _, h => parts_subset_cons rfl (fun h => parts_subset_of_mem h) h

theorem parts_subset_of_mem_partsOf : ∀ {es : List (Located Expr)} {f : Expr},
    f ∈ partsOf es → f.parts ⊆ partsOf es
  | [], _, h => absurd h List.not_mem_nil
  | e :: es, f, h => by
    rw [partsOf] at h ⊢
    rcases List.mem_append.mp h with h | h
    · exact List.subset_append_of_subset_left _ (parts_subset_of_mem h)
    · exact List.subset_append_of_subset_right _ (parts_subset_of_mem_partsOf h)

end

/-! ## Form -/

def rank : Expr → Nat
  | .shift .. => 1
  | .binary op .. => op.rank
  | _ => 0

theorem rank_le (e : Expr) : e.rank ≤ 3 := by
  cases e with
  | shift => exact Nat.le_add_left 1 2
  | binary op => exact op.rank_le
  | _ => exact Nat.zero_le 3

/-- Words and brackets are such as can be read. The right operand binds more tightly than the
operation, the left one no less. -/
def Formed : Expr → Prop
  | .event name labels => IsIdentifier name ∧ ∀ m ∈ labels, m.Formed
  | .number _ | .paren _ => True
  | .call name _ => IsIdentifier name
  | .binary op lhs rhs => lhs.node.rank ≤ op.rank ∧ rhs.node.rank < op.rank
  | .shift e bracket => e.node.rank ≤ 1 ∧ bracket.Formed

def WellFormed (e : Expr) : Prop := ∀ f ∈ e.parts, f.Formed

end Expr

/-! ## The grammar -/

namespace Grammar

open SeriesQuery.Parser

/-- A well-formed expression of one of the levels up to `k`. -/
def UpTo (k : Nat) (e : Located Expr) : Prop := e.node.WellFormed ∧ e.node.rank ≤ k

section Within

variable {inner : Parser (Located Expr)} (h : inner.Ensures fun e => e.node.WellFormed)
include h

theorem primary_ensures_upTo : (primary inner).Ensures (UpTo 0) := by
  have hnumber : number.Ensures fun e => e.WellFormed ∧ e.rank ≤ 0 := by
    refine ensures_bind fun _ => ensures_bind fun _ => ensures_bind fun _ => ensures_pure ?_
    exact ⟨List.forall_mem_singleton.mpr trivial, Nat.le_refl 0⟩
  have hparen : (paren inner).Ensures fun e => e.WellFormed ∧ e.rank ≤ 0 := by
    refine ensures_bind fun _ => ensures_bind fun _ => h.commit.bind fun e he => ?_
    refine Ensures.commit (ensures_bind fun _ => ensures_bind fun _ => ensures_pure ?_)
    exact ⟨List.forall_mem_cons.mpr ⟨trivial, he⟩, Nat.le_refl 0⟩
  have hcall : (call inner).Ensures fun e => e.WellFormed ∧ e.rank ≤ 0 := by
    refine ensures_bind fun _ => identifier_ensures.commit.bind fun name hname => ?_
    refine ensures_bind fun _ => ?_
    have hargs := (ensures_bind (p := openBrace) fun _ => braceRest_ensures h).commit
    refine hargs.bind fun es hes => ?_
    refine ensures_pure ⟨List.forall_mem_cons.mpr ⟨hname, ?_⟩, Nat.le_refl 0⟩
    rw [Expr.partsOf_eq]
    exact List.forall_mem_flatMap.mpr hes
  have hevent : event.Ensures fun e => e.WellFormed ∧ e.rank ≤ 0 := by
    intro s e rest he
    obtain ⟨name, labels, rfl, hevent⟩ := event_ensures_formed s e rest he
    exact ⟨List.forall_mem_singleton.mpr hevent, Nat.le_refl 0⟩
  exact (hnumber.orElse (hparen.orElse (hcall.orElse hevent))).located

theorem postfixed_ensures_upTo : (postfixed inner).Ensures (UpTo 1) := by
  refine (primary_ensures_upTo h).bind fun e he => ?_
  refine Ensures.fold (P := UpTo 1) bracket_ensures_formed ?_ ⟨he.1, Nat.le_succ_of_le he.2⟩
  intro e b he hb
  exact ⟨List.forall_mem_cons.mpr ⟨⟨he.2, hb⟩, he.1⟩, Nat.le_refl 1⟩

omit h in
theorem operator_ensures {ops : List (Char × Merger)} {k : Nat}
    (hops : ∀ op ∈ ops, op.2.rank = k) : (operator ops).Ensures fun op => op.rank = k := by
  have hsymbol : (oneOf (ops.map (·.1))).Ensures fun c => ∃ op ∈ ops, op.1 = c :=
    fun s c rest hc => List.mem_map.mp (oneOf_ensures _ s c rest hc)
  refine ensures_bind fun _ => hsymbol.bind fun c hc => ensures_bind fun _ => ensures_pure ?_
  obtain ⟨op, hop, hc⟩ := hc
  cases hfind : ops.find? (·.1 = c) with
  | none =>
    have := List.find?_eq_none.mp hfind op hop
    exact absurd hc (by simpa using this)
  | some op => exact hops op (List.mem_of_find?_eq_some hfind)

omit h in
theorem chain_ensures_upTo {operand : Parser (Located Expr)} {ops : List (Char × Merger)} {k : Nat}
    (hoperand : operand.Ensures (UpTo k)) (hops : ∀ op ∈ ops, op.2.rank = k + 1) :
    (chain operand ops).Ensures (UpTo (k + 1)) := by
  refine hoperand.bind fun e he => ?_
  have hright : Parser.Ensures (do let op ← operator ops; return (op, ← commit operand))
      fun opRhs : Merger × Located Expr => opRhs.1.rank = k + 1 ∧ UpTo k opRhs.2 :=
    (operator_ensures hops).bind fun op hop => hoperand.commit.bind fun e he =>
      ensures_pure ⟨hop, he⟩
  refine Ensures.fold (P := UpTo (k + 1)) hright ?_ ⟨he.1, Nat.le_succ_of_le he.2⟩
  intro lhs ⟨op, rhs⟩ hlhs ⟨hop, hrhs⟩
  refine ⟨List.forall_mem_cons.mpr ⟨⟨?_, ?_⟩, List.forall_mem_append.mpr ⟨hlhs.1, hrhs.1⟩⟩, ?_⟩
  · exact hop ▸ hlhs.2
  · exact hop ▸ Nat.lt_succ_of_le hrhs.2
  · exact Nat.le_of_eq hop

theorem sum_ensures_upTo : (sum inner).Ensures (UpTo 3) :=
  chain_ensures_upTo (chain_ensures_upTo (postfixed_ensures_upTo h) (by decide)) (by decide)

end Within

theorem expr_ensures_wellFormed : expr.Ensures fun e => e.node.WellFormed := by
  have hwithin (depth : Nat) : (exprWithin depth).Ensures fun e => e.node.WellFormed := by
    induction depth with
    | zero => exact ensures_refuse
    | succ depth ih => exact fun s e rest he => (sum_ensures_upTo ih s e rest he).1
  exact fun s => hwithin (s.length + 1) s

/-! ### Statements -/

/-- What holds of all expressions that are read holds of those in statements. -/
theorem statements_ensures_exprs {P : Expr → Prop} (h : expr.Ensures fun e => P e.node) :
    statements.Ensures fun body => ∀ x ∈ Statement.exprsOf body, P x.2.node := by
  have hstatement {body : Parser (List (Located Statement))}
      (hbody : body.Ensures fun body => ∀ x ∈ Statement.exprsOf body, P x.2.node) :
      (statement body).Ensures fun s => ∀ x ∈ s.node.exprs, P x.2.node := by
    have hclause : (Statement.clause <$> clause).Ensures fun s => ∀ x ∈ s.exprs, P x.2.node :=
      (ensures_true clause).map _ fun _ _ => List.forall_mem_nil _
    have hblock : (block body).Ensures fun s => ∀ x ∈ s.exprs, P x.2.node :=
      ensures_bind fun _ => hbody.commit.bind fun _ hbody => ensures_bind fun _ =>
        ensures_pure hbody
    have hnamed : named.Ensures fun s => ∀ x ∈ s.exprs, P x.2.node :=
      ensures_bind fun _ => ensures_bind fun _ => ensures_bind fun _ => ensures_bind fun _ =>
        h.commit.bind fun _ he => ensures_pure (List.forall_mem_singleton.mpr he)
    have halone : (Statement.expr none <$> expr).Ensures fun s => ∀ x ∈ s.exprs, P x.2.node :=
      h.map _ fun _ he => List.forall_mem_singleton.mpr he
    exact (hclause.orElse (hblock.orElse (hnamed.orElse halone))).located
  have hwithin (depth : Nat) : (statementsWithin depth).Ensures
      fun body => ∀ x ∈ Statement.exprsOf body, P x.2.node := by
    induction depth with
    | zero => exact ensures_refuse
    | succ depth ih =>
      refine ensures_bind fun _ s body rest hs => ?_
      rw [Statement.exprsOf_eq]
      exact List.forall_mem_flatMap.mpr <|
        statementsRest_ensures (P := fun s => ∀ x ∈ s.exprs, P x.2.node) (hstatement ih)
          (List.forall_mem_nil _) s body rest hs
  exact fun s => hwithin (s.length + 1) s

end Grammar

/-! ## Expressions that are read -/

/-- Read from some text: by itself, in a statement of a query, or inside of what is read. -/
inductive Expr.IsRead : Expr → Prop where
  | alone {source rest : List Char} {x : Located Expr} (h : Grammar.expr source = .done x rest) :
    IsRead x.node
  | statement {source : String} {body : List (Located Statement)}
    (h : Statement.ofText source = .ok body) {x : Option String × Located Expr}
    (hx : x ∈ Statement.exprsOf body) : IsRead x.2.node
  | part {e f : Expr} (h : IsRead e) (hf : f ∈ e.parts) : IsRead f

theorem Expr.IsRead.wellFormed {e : Expr} (h : e.IsRead) : e.WellFormed := by
  induction h with
  | alone h => exact Grammar.expr_ensures_wellFormed _ _ _ h
  | statement h hx =>
    obtain ⟨rest, hbody⟩ := Statement.exists_of_ofText h
    exact Grammar.statements_ensures_exprs Grammar.expr_ensures_wellFormed _ _ _ hbody _ hx
  | part _ hf ih => exact fun g hg => ih g (Expr.parts_subset_of_mem hf hg)

end SeriesQuery
