import SeriesQuery.Proofs.Query.Rules

/-!
# Where the parts of a query begin

Syntax nodes keep the text from where they begin. That is where their parser was started, so it is
the text of the node itself, and what a node is made of begins no earlier than the node.

* `Text.Word name s`, `Text.Call name s` : a whole word, or an exclamation mark and a whole word,
  begins `s`;
* `Expr.PlacedAt`, `Statement.PlacedAt`, ... : a node and its parts are where they say;
* `Grammar.expr_within`, `Grammar.statements_within` : the grammar stays within the text;
* `Grammar.expr_placed`, `Grammar.statements_placed` : all that is read is placed.
-/

namespace SeriesQuery

open Text (Located)

/-! ## Placed nodes -/

/-- `name` begins `s` and ends there. -/
def Text.Word (name : String) (s : List Char) : Prop :=
  ∃ rest, s = name.toList ++ rest ∧ IsIdentifier name ∧ Stops isWordChar rest

/-- `!name` begins `s` and ends there. -/
def Text.Call (name : String) (s : List Char) : Prop := ∃ rest, s = '!' :: rest ∧ Word name rest

def Predicate.PlacedAt (start : List Char) : Predicate → Prop
  | .value s => ∃ rest, Grammar.value start = .done s rest
  | .call name _ => Text.Call name start

/-- The predicates begin no earlier than the node that they belong to. -/
def LabelMatch.PlacedIn (start : List Char) (m : LabelMatch) : Prop :=
  ∀ p ∈ m.predicates, p.start <:+ start ∧ p.node.PlacedAt p.start

namespace Expr

mutual

def PlacedAt (start : List Char) : Expr → Prop
  | .event name labels => Text.Word name start ∧ ∀ m ∈ labels, m.PlacedIn start
  | .number v => ∃ rest, Grammar.number start = .done (.number v) rest
  | .call name args => Text.Call name start ∧ AllPlacedIn start args
  | .binary _ lhs rhs => (lhs.start = start ∧ lhs.node.PlacedAt lhs.start) ∧
    rhs.start <:+ start ∧ rhs.node.PlacedAt rhs.start
  | .shift e _ => e.start = start ∧ e.node.PlacedAt e.start
  | .paren e => ['('] <+: start ∧ e.start <:+ start ∧ e.node.PlacedAt e.start

def AllPlacedIn (start : List Char) : List (Located Expr) → Prop
  | [] => True
  | e :: es => (e.start <:+ start ∧ e.node.PlacedAt e.start) ∧ AllPlacedIn start es

end

theorem allPlacedIn_iff {start : List Char} {es : List (Located Expr)} :
    AllPlacedIn start es ↔ ∀ e ∈ es, e.start <:+ start ∧ e.node.PlacedAt e.start := by
  induction es with
  | nil => exact ⟨fun _ _ h => absurd h List.not_mem_nil, fun _ => trivial⟩
  | cons e es ih => rw [AllPlacedIn, ih, List.forall_mem_cons]

end Expr

def Clause.PlacedIn (start : List Char) : Clause → Prop
  | .filter labels => ∀ m ∈ labels, m.PlacedIn start
  | .group args => ∀ name ∈ args.reduction, name.start <:+ start ∧ Text.Call name.node name.start
  | .offset _ => True

namespace Statement

mutual

def PlacedAt (start : List Char) : Statement → Prop
  | .expr none e => e.start = start ∧ e.node.PlacedAt e.start
  | .expr (some name) e => Text.Word name start ∧ e.start <:+ start ∧ e.node.PlacedAt e.start
  | .block body => ['\x7b'] <+: start ∧ AllPlacedIn start body
  | .clause c => ['*'] <+: start ∧ c.PlacedIn start

def AllPlacedIn (start : List Char) : List (Located Statement) → Prop
  | [] => True
  | x :: rest => (x.start <:+ start ∧ x.node.PlacedAt x.start) ∧ AllPlacedIn start rest

end

theorem allPlacedIn_iff {start : List Char} {body : List (Located Statement)} :
    AllPlacedIn start body ↔ ∀ x ∈ body, x.start <:+ start ∧ x.node.PlacedAt x.start := by
  induction body with
  | nil => exact ⟨fun _ _ h => absurd h List.not_mem_nil, fun _ => trivial⟩
  | cons x rest ih => rw [AllPlacedIn, ih, List.forall_mem_cons]

theorem AllPlacedIn.mono {start source : List Char} {body : List (Located Statement)}
    (h : AllPlacedIn start body) (hstart : start <:+ source) : AllPlacedIn source body :=
  allPlacedIn_iff.mpr fun x hx =>
    (allPlacedIn_iff.mp h x hx).imp_left fun hin => hin.trans hstart

end Statement

namespace Grammar

open SeriesQuery.Parser

variable {source s rest : List Char}

/-! ## Staying within the text -/

theorem identifier_within : identifier.Within source :=
  (within_takeWhile1 _).bind fun _ => (within_takeWhile _).bind fun _ => within_pure _

theorem quoted_within : quoted.Within source := by
  have hmark (mark : Char) : (quotedBy mark).Within source :=
    (within_char _).bind fun _ => (within_takeWhile _).bind fun _ => (within_char _).bind fun _ =>
      within_pure _
  exact (hmark _).orElse (hmark _)

theorem comma_within : comma.Within source :=
  within_gap.bind fun _ => (within_char _).bind fun _ => within_gap.bind fun _ => within_pure _

theorem number_within : number.Within source := by
  have hfraction : (do let _ ← char '.'; digits : Parser _).Within source :=
    (within_char _).bind fun _ => within_takeWhile1 _
  exact (within_char _).optional.bind fun _ => (within_takeWhile1 _).bind fun _ =>
    hfraction.optional.bind fun _ => within_pure _

/-! ### Brackets -/

theorem unit_within : Grammar.unit.Within source := (within_oneOf _).bind fun _ => within_pure _

theorem scale_within (hs : s <:+ source) (n unit : Int) : (scale s n unit).Within source := by
  intro text htext
  unfold scale
  split
  · exact htext
  · exact hs

theorem signedDigits_within : signedDigits.Within source :=
  (within_oneOf _).optional.bind fun _ => (within_takeWhile1 _).bind fun _ => within_pure _

/-- An overflow is reported where the number begins. -/
theorem offsetSpec_within : offsetSpec.Within source := fun s hs =>
  ((signedDigits_within.filterMap _).bind fun _ => within_blanks.bind fun _ =>
    (within_char _).bind fun _ => within_blanks.bind fun _ => unit_within.bind fun _ =>
      scale_within hs _ _) s hs

theorem stepSpec_within : stepSpec.Within source := by
  intro s hs
  have hn : (do let n ← boundedInt digits; blanks; return n : Parser Int).Within source :=
    ((within_takeWhile1 _).filterMap _).bind fun _ => within_blanks.bind fun _ => within_pure _
  refine (hn.optional.bind fun _ => unit_within.bind fun _ => (scale_within hs _ _).bind ?_) s hs
  intro ms
  split
  · exact within_refuse
  · exact within_pure _

theorem inBrackets_within {p : Parser α} (h : p.Within source) : (inBrackets p).Within source :=
  (within_char _).bind fun _ => within_blanks.bind fun _ => h.bind fun _ =>
    within_blanks.bind fun _ => (within_char _).bind fun _ => within_pure _

theorem bracket_within : bracket.Within source :=
  inBrackets_within ((offsetSpec_within.map _).orElse (stepSpec_within.map _))

/-! ### Conditions -/

theorem value_within : value.Within source := quoted_within.orElse ((within_takeWhile1 _).map _)

theorem predicate_within : predicate.Within source := by
  have hraw : rawArgument.Within source := (within_takeWhile1 _).bind fun _ => within_pure _
  have hcall : predicateCall.Within source :=
    (within_char _).bind fun _ => identifier_within.commit.bind fun _ => Within.commit <|
      (within_char _).bind fun _ => within_blanks.bind fun _ => (quoted_within.orElse hraw).bind
        fun _ => within_blanks.bind fun _ => (within_char _).bind fun _ => within_pure _
  exact (hcall.orElse (value_within.map _)).located

theorem bar_within : bar.Within source :=
  within_blanks.bind fun _ => (within_char _).bind fun _ => within_blanks

theorem labelMatch_within : labelMatch.Within source :=
  identifier_within.bind fun _ => within_blanks.bind fun _ => (within_char _).bind fun _ =>
    within_blanks.bind fun _ => (predicate_within.nonEmptyListOf bar_within).bind fun _ =>
      within_pure _

theorem openBrace_within : openBrace.Within source := (within_char _).bind fun _ => within_gap

theorem braceRest_within {item : Parser α} (h : item.Within source) :
    (braceRest item).Within source :=
  (h.listOf comma_within).bind fun _ => comma_within.optional.bind fun _ => within_gap.bind fun _ =>
    (within_char _).bind fun _ => within_pure _

theorem matchBody_within : matchBody.Within source :=
  openBrace_within.bind fun _ => (braceRest_within labelMatch_within).commit

/-! ### Expressions -/

theorem event_within : event.Within source :=
  identifier_within.bind fun _ =>
    (within_blanks.bind fun _ => matchBody_within).optional.bind fun _ => within_pure _

section Inner

variable {inner : Parser (Located Expr)} (h : inner.Within source)
include h

theorem paren_within : (paren inner).Within source :=
  (within_char _).bind fun _ => within_gap.bind fun _ => h.commit.bind fun _ => Within.commit <|
    within_gap.bind fun _ => (within_char _).bind fun _ => within_pure _

theorem call_within : (call inner).Within source :=
  (within_char _).bind fun _ => identifier_within.commit.bind fun _ => within_blanks.bind fun _ =>
    (openBrace_within.bind fun _ => braceRest_within h).commit.bind fun _ => within_pure _

theorem postfixed_within : (postfixed inner).Within source :=
  (number_within.orElse ((paren_within h).orElse ((call_within h).orElse
    event_within))).located.bind fun _ => bracket_within.fold _ _

omit h in
theorem operator_within (ops : List (Char × Merger)) : (operator ops).Within source :=
  within_blanks.bind fun _ => (within_oneOf _).bind fun _ => within_gap.bind fun _ => within_pure _

omit h in
theorem chain_within {operand : Parser (Located Expr)} (ops : List (Char × Merger))
    (hop : operand.Within source) : (chain operand ops).Within source :=
  hop.bind fun _ => ((operator_within ops).bind fun _ => hop.commit.bind fun _ =>
    within_pure _).fold _ _

end Inner

theorem exprWithin_within (depth : Nat) : (exprWithin depth).Within source := by
  induction depth with
  | zero => exact within_refuse
  | succ depth ih => exact chain_within _ (chain_within _ (postfixed_within ih))

theorem expr_within : expr.Within source := fun s => exprWithin_within (s.length + 1) s

/-! ### Statements -/

theorem groupArg_within : groupArg.Within source := by
  have hname : reductionArg.Within source :=
    ((within_char _).bind fun _ => identifier_within).located
  exact (quoted_within.map _).orElse ((hname.map _).orElse (identifier_within.map _))

theorem clause_within : clause.Within source := by
  have hfilter : filterClause.Within source :=
    (within_keyword _).bind fun _ => within_gap.bind fun _ => matchBody_within.bind fun _ =>
      within_pure _
  have hgroup : groupClause.Within source :=
    ((within_keyword _).orElse (within_keyword _)).bind fun _ => within_gap.bind fun _ =>
      openBrace_within.bind fun _ => (groupArg_within.listOf comma_within).bind fun _ =>
        within_gap.bind fun _ => (within_char _).bind fun _ => within_pure _
  have hoffset : offsetClause.Within source :=
    (within_keyword _).bind fun _ => within_blanks.bind fun _ =>
      (inBrackets_within offsetSpec_within).bind fun _ => within_pure _
  exact (within_char _).bind fun _ => Within.commit (hfilter.orElse (hgroup.orElse hoffset))

theorem named_within : named.Within source :=
  identifier_within.bind fun _ => within_blanks.bind fun _ => (within_char _).bind fun _ =>
    within_gap.bind fun _ => expr_within.commit.bind fun _ => within_pure _

theorem separators_within : separators.Within source :=
  (within_takeWhile _).bind fun _ => within_pure _

theorem separator_within : separator.Within source :=
  (within_oneOf _).bind fun _ => separators_within

theorem statementsRest_within {statement : Parser (Located Statement)}
    (h : statement.Within source) (found : List (Located Statement)) :
    (statementsRest statement found).Within source := by
  have hone : (do let x ← statement; blanks; return x : Parser (Located Statement)).Within source :=
    h.bind fun _ => within_blanks.bind fun _ => within_pure _
  intro s hs
  induction hn : s.length using Nat.strongRecOn generalizing s found with
  | ind n ih =>
    have hleft := hone s hs
    rw [statementsRest]
    split
    · exact hs
    · split
      · next x mid hx =>
        rw [hx] at hleft
        have hnext := separator_within mid hleft
        split
        · exact hleft
        · split
          · next _ next hnext' =>
            rw [hnext'] at hnext
            split
            · next hlt => exact ih next.length (hn ▸ hlt) _ next hnext rfl
            · exact hnext
          · next heq => rwa [heq] at hnext
          · next heq => rwa [heq] at hnext
      · next heq => rwa [heq] at hleft
      · next heq => rwa [heq] at hleft

theorem statement_within {body : Parser (List (Located Statement))} (h : body.Within source) :
    (statement body).Within source := by
  have hblock : (block body).Within source :=
    (within_char _).bind fun _ => h.commit.bind fun _ => (within_char _).commit.bind fun _ =>
      within_pure _
  exact ((clause_within.map _).orElse (hblock.orElse (named_within.orElse
    (expr_within.map _)))).located

theorem statementsWithin_within (depth : Nat) : (statementsWithin depth).Within source := by
  induction depth with
  | zero => exact within_refuse
  | succ depth ih =>
    exact separators_within.bind fun _ => statementsRest_within (statement_within ih) []

theorem statements_within : statements.Within source :=
  fun s => statementsWithin_within (s.length + 1) s

/-! ## Placed nodes are read -/

theorem word_of_identifier {name : String} (h : identifier s = .done name rest) :
    Text.Word name s :=
  ⟨rest, identifier_eq_done.mp h⟩

theorem predicate_placed {x : Located Predicate} (h : predicate s = .done x rest) :
    x.start = s ∧ x.node.PlacedAt x.start := by
  obtain ⟨rfl, h⟩ := predicate_eq_done.mp h
  refine ⟨rfl, ?_⟩
  rcases h with h | ⟨-, v, hv, hnode⟩
  · obtain ⟨name, arg, s₁, s₂, s₃, s₄, hnode, hstart, hname, -⟩ := predicateCall_eq_done.mp h
    rw [hnode]
    exact ⟨s₁, hstart, word_of_identifier hname⟩
  · exact hnode ▸ ⟨rest, hv⟩

theorem labelMatch_placed {m : LabelMatch} (hs : s <:+ source)
    (h : labelMatch s = .done m rest) : m.PlacedIn source := by
  obtain ⟨s₁, s₂, s₃, hlabel, h₁, h₂, hps⟩ := labelMatch_eq_done.mp h
  have hs₂ := within_blanks.of_done (identifier_within.of_done hs hlabel) h₁
  have hs₃ := within_blanks.of_done ((List.suffix_cons _ _).trans hs₂) h₂
  refine forall_of_nonEmptyListOf predicate_within bar_within ?_ hs₃ hps
  intro s hs x rest hx
  obtain ⟨rfl, hplaced⟩ := predicate_placed hx
  exact ⟨hs, hplaced⟩

theorem forall_of_braceRest {item : Parser α} {P : α → Prop} (hin : item.Within source)
    (hitem : ∀ s, s <:+ source → ∀ a rest, item s = .done a rest → P a) (hs : s <:+ source)
    {items : List α} (h : braceRest item s = .done items rest) : ∀ a ∈ items, P a := by
  obtain ⟨s₁, s₂, hitems, -⟩ := braceRest_eq_done.mp h
  exact forall_of_listOf hin comma_within hitem hs hitems

theorem matchBody_placed {labels : List LabelMatch} (hs : s <:+ source)
    (h : matchBody s = .done labels rest) : ∀ m ∈ labels, m.PlacedIn source := by
  obtain ⟨mid, hopen, h⟩ := matchBody_eq_done.mp h
  exact forall_of_braceRest labelMatch_within (fun _ hs _ _ => labelMatch_placed hs)
    (openBrace_within.of_done hs hopen) h

/-! ### Expressions -/

theorem event_placed {e : Expr} (h : event s = .done e rest) : e.PlacedAt s := by
  obtain ⟨name, labels, mid, rfl, hname, hlabels⟩ := event_eq_done.mp h
  refine ⟨word_of_identifier hname, ?_⟩
  rcases hlabels with ⟨mid', hblanks, hlabels⟩ | ⟨rfl, -⟩
  · have hmid := identifier_within.of_done (List.suffix_refl s) hname
    exact matchBody_placed (within_blanks.of_done hmid hblanks) hlabels
  · exact List.forall_mem_nil _

/-- All that `inner` reads begins where it was started, and is placed. -/
def ReadsPlaced (inner : Parser (Located Expr)) : Prop :=
  ∀ s e rest, inner s = .done e rest → e.start = s ∧ e.node.PlacedAt e.start

section Inner

variable {inner : Parser (Located Expr)} (hinner : ReadsPlaced inner)
include hinner

theorem paren_placed {e : Expr} (h : paren inner s = .done e rest) : e.PlacedAt s := by
  obtain ⟨x, mid, mid', mid'', rfl, rfl, hgap, hx, -⟩ := paren_eq_done.mp h
  obtain ⟨rfl, hplaced⟩ := hinner _ _ _ hx
  exact ⟨List.prefix_append ['('] mid, within_gap.of_done (List.suffix_cons '(' mid) hgap, hplaced⟩

theorem call_placed (hin : ∀ source, inner.Within source) {e : Expr}
    (h : call inner s = .done e rest) : e.PlacedAt s := by
  obtain ⟨name, args, mid, s₁, s₂, s₃, rfl, rfl, hname, hblanks, hopen, hargs⟩ := call_eq_done.mp h
  refine ⟨⟨mid, rfl, word_of_identifier hname⟩, Expr.allPlacedIn_iff.mpr ?_⟩
  have hs₁ := identifier_within.of_done (List.suffix_cons '!' mid) hname
  have hs₃ := openBrace_within.of_done (within_blanks.of_done hs₁ hblanks) hopen
  refine forall_of_braceRest (hin _) (fun s hs e rest he => ?_) hs₃ hargs
  obtain ⟨rfl, hplaced⟩ := hinner _ _ _ he
  exact ⟨hs, hplaced⟩

theorem primary_placed (hin : ∀ source, inner.Within source) : ReadsPlaced (primary inner) := by
  intro s e rest h
  obtain ⟨rfl, h⟩ := primary_eq_done.mp h
  refine ⟨rfl, ?_⟩
  rcases orElse_eq_done.mp h with h | ⟨-, h⟩
  · obtain ⟨v, hv⟩ : ∃ v, e.node = .number v := by
      simp only [number, bind_eq_done, pure_eq_done] at h
      obtain ⟨_, _, _, _, _, _, _, _, _, hnode, _⟩ := h
      exact ⟨_, hnode.symm⟩
    rw [hv] at h ⊢
    exact ⟨rest, h⟩
  · rcases orElse_eq_done.mp h with h | ⟨-, h⟩
    · exact paren_placed hinner h
    · rcases orElse_eq_done.mp h with h | ⟨-, h⟩
      · exact call_placed hinner hin h
      · exact event_placed h

theorem postfixed_placed (hin : ∀ source, inner.Within source) : ReadsPlaced (postfixed inner) := by
  intro s e rest h
  obtain ⟨e, mid, he, h⟩ := bind_eq_done.mp h
  refine fold_eq_done (I := fun _ (e : Located Expr) => e.start = s ∧ e.node.PlacedAt e.start) ?_
    (primary_placed hinner hin _ _ _ he) h
  exact fun _ e _ _ h _ => ⟨h.1, rfl, h.2⟩

omit hinner in
theorem chain_placed {operand : Parser (Located Expr)} (ops : List (Char × Merger))
    (hoperand : ReadsPlaced operand) (hin : ∀ source, operand.Within source) :
    ReadsPlaced (chain operand ops) := by
  intro s e rest h
  obtain ⟨e, mid, he, h⟩ := bind_eq_done.mp h
  -- A chain begins where its first operand does, and goes on behind it.
  refine (fold_eq_done (I := fun text (e : Located Expr) =>
    text <:+ s ∧ e.start = s ∧ e.node.PlacedAt e.start) ?_
    ⟨(hin s).of_done (List.suffix_refl s) he, hoperand _ _ _ he⟩ h).2
  intro text lhs ⟨op, rhs⟩ next ⟨htext, hstart, hlhs⟩ hright
  obtain ⟨place, hop, hrhs⟩ := right_eq_done.mp hright
  obtain ⟨rfl, hplaced⟩ := hoperand _ _ _ hrhs
  have hplace := (operator_within ops).of_done htext hop
  exact ⟨(hin s).of_done hplace hrhs, hstart, ⟨rfl, hlhs⟩, hstart ▸ hplace, hplaced⟩

theorem sum_placed (hin : ∀ source, inner.Within source) : ReadsPlaced (sum inner) :=
  chain_placed _ (chain_placed _ (postfixed_placed hinner hin) fun _ => postfixed_within (hin _))
    fun _ => chain_within _ (postfixed_within (hin _))

end Inner

theorem expr_placed : ReadsPlaced expr := by
  have hwithin (depth : Nat) : ReadsPlaced (exprWithin depth) := by
    induction depth with
    | zero => exact fun _ _ _ h => absurd h nofun
    | succ depth ih => exact sum_placed ih fun _ => exprWithin_within depth
  exact fun s => hwithin (s.length + 1) s

/-! ### Statements -/

/-- The reduction that is left of the arguments of a grouping is one of them. -/
theorem mem_reduction_foldl {P : Located String → Prop} {given : List GroupArg} {args : GroupArgs}
    (hgiven : ∀ name, .reduction name ∈ given → P name) (hargs : ∀ name ∈ args.reduction, P name) :
    ∀ name ∈ (given.foldl GroupArg.addTo args).reduction, P name := by
  induction given generalizing args with
  | nil => exact hargs
  | cons a given ih =>
    refine ih (fun name h => hgiven name (List.mem_cons_of_mem a h)) ?_
    cases a with
    | reduction name =>
      rintro _ ⟨⟩
      exact hgiven name List.mem_cons_self
    | missing => exact hargs
    | label => exact hargs

theorem clause_placed {c : Clause} (h : clause s = .done c rest) :
    ['*'] <+: s ∧ c.PlacedIn s := by
  obtain ⟨mid, rfl, hclause⟩ := clause_eq_done.mp h
  refine ⟨List.prefix_append ['*'] mid, ?_⟩
  have hmid := List.suffix_cons '*' mid
  rcases orElse_eq_done.mp hclause with h | ⟨-, h⟩
  · obtain ⟨labels, s₁, s₂, rfl, hword, hgap, hlabels⟩ := filterClause_eq_done.mp h
    exact matchBody_placed (within_gap.of_done ((within_keyword _).of_done hmid hword) hgap) hlabels
  · rcases orElse_eq_done.mp h with h | ⟨-, h⟩
    · obtain ⟨args, s₁, s₂, s₃, s₄, rfl, hword, hgap, hopen, hargs, -⟩ := groupClause_eq_done.mp h
      have hs₁ := ((within_keyword _).orElse (within_keyword _)).of_done hmid hword
      have hs₃ := openBrace_within.of_done (within_gap.of_done hs₁ hgap) hopen
      refine mem_reduction_foldl (fun name hname => ?_)
        (fun _ h => absurd h (Option.not_mem_none _))
      refine forall_of_listOf (P := fun a => ∀ name, a = .reduction name →
        name.start <:+ '*' :: mid ∧ Text.Call name.node name.start) groupArg_within comma_within ?_
        hs₃ hargs _ hname _ rfl
      rintro s hs a rest ha name rfl
      rcases groupArg_eq_done.mp ha with ⟨_, _, ⟨⟩⟩ | ⟨-, ⟨x, hx, ⟨⟩⟩ | ⟨-, _, _, ⟨⟩⟩⟩
      obtain ⟨rfl, mid, hmark, hname⟩ := reductionArg_eq_done.mp hx
      exact ⟨hs, mid, hmark, word_of_identifier hname⟩
    · obtain ⟨ms, s₁, s₂, rfl, -⟩ := offsetClause_eq_done.mp h
      exact trivial

theorem named_placed {x : Statement} (h : named s = .done x rest) : x.PlacedAt s := by
  obtain ⟨name, e, s₁, s₂, s₃, rfl, hname, hblanks, hgap, he⟩ := named_eq_done.mp h
  obtain ⟨rfl, hplaced⟩ := expr_placed _ _ _ he
  have hs₁ := identifier_within.of_done (List.suffix_refl s) hname
  have hs₂ := (List.suffix_cons _ _).trans (within_blanks.of_done hs₁ hblanks)
  exact ⟨word_of_identifier hname, within_gap.of_done hs₂ hgap, hplaced⟩

theorem statement_placed {body : Parser (List (Located Statement))}
    (hbody : ∀ s xs rest, body s = .done xs rest → Statement.AllPlacedIn s xs)
    {x : Located Statement} (h : statement body s = .done x rest) :
    x.start = s ∧ x.node.PlacedAt x.start := by
  obtain ⟨rfl, h⟩ := located_eq_done.mp h
  refine ⟨rfl, ?_⟩
  rcases orElse_eq_done.mp h with h | ⟨-, h⟩
  · obtain ⟨c, hc, hnode⟩ := map_eq_done.mp h
    exact hnode ▸ clause_placed hc
  · rcases orElse_eq_done.mp h with h | ⟨-, h⟩
    · obtain ⟨xs, mid, hnode, hstart, hxs⟩ := block_eq_done.mp h
      rw [hnode, hstart]
      refine ⟨List.prefix_append ['\x7b'] mid, Statement.allPlacedIn_iff.mpr fun x hx => ?_⟩
      obtain ⟨hin, hplaced⟩ := Statement.allPlacedIn_iff.mp (hbody _ _ _ hxs) x hx
      exact ⟨hin.trans (List.suffix_cons _ _), hplaced⟩
    · rcases orElse_eq_done.mp h with h | ⟨-, h⟩
      · exact named_placed h
      · obtain ⟨e, he, hnode⟩ := map_eq_done.mp h
        exact hnode ▸ expr_placed _ _ _ he

theorem statementsRest_placed {statement : Parser (Located Statement)}
    (hin : statement.Within source)
    (h : ∀ s x rest, statement s = .done x rest → x.start = s ∧ x.node.PlacedAt x.start)
    {found body : List (Located Statement)} (hfound : Statement.AllPlacedIn source found)
    (hs : s <:+ source) (hbody : statementsRest statement found s = .done body rest) :
    Statement.AllPlacedIn source body := by
  induction hn : s.length using Nat.strongRecOn generalizing s found with
  | ind n ih =>
    rcases statementsRest_eq_done.mp hbody with ⟨-, rfl, -⟩ | ⟨-, x, mid, after, hx, hblanks, hmore⟩
    · exact hfound
    · obtain ⟨rfl, hplaced⟩ := h _ _ _ hx
      have hnext : Statement.AllPlacedIn source (found ++ [x]) :=
        Statement.allPlacedIn_iff.mpr <| List.forall_mem_append.mpr
          ⟨Statement.allPlacedIn_iff.mp hfound, List.forall_mem_singleton.mpr ⟨hs, hplaced⟩⟩
      rcases hmore with ⟨-, rfl, -⟩ | ⟨-, next, hseparator, hlt, hrest⟩
      · exact hnext
      · have hafter := within_blanks.of_done (hin.of_done hs hx) hblanks
        exact ih next.length (hn ▸ hlt) hnext (separator_within.of_done hafter hseparator) hrest rfl

theorem statementsWithin_placed (depth : Nat) {body : List (Located Statement)}
    (h : statementsWithin depth s = .done body rest) : Statement.AllPlacedIn s body := by
  induction depth generalizing s body rest with
  | zero => exact absurd h nofun
  | succ depth ih =>
    obtain ⟨_, mid, hseparators, h⟩ := bind_eq_done.mp h
    exact statementsRest_placed (statement_within (statementsWithin_within depth))
      (fun _ _ _ => statement_placed fun _ _ _ => ih)
      (Statement.allPlacedIn_iff.mpr (List.forall_mem_nil _))
      (separators_within.of_done (List.suffix_refl s) hseparators) h

theorem statements_placed {body : List (Located Statement)}
    (h : statements s = .done body rest) : Statement.AllPlacedIn s body :=
  statementsWithin_placed _ h

end Grammar

end SeriesQuery
