import SeriesQuery.Proofs.Query.Locality
import SeriesQuery.Proofs.Query.Placement

/-!
# Queries put together

Two queries with a semicolon or a new line between them are one query with the statements of both,
unless a quotation mark that the first one leaves open is closed by the second one.

* `Statement.conditions`, `Statement.conditionsOf` : the conditions in statements, where they stand;
* `Grammar.clause_append`, `Grammar.statement_append` : statements are read alike before any text
  that spares them;
* `Grammar.statementsRest_append` : so are all statements of a block, and those of a query, behind
  which reading goes on;
* `Statement.appended_spec` : the statements of two queries.
-/

namespace SeriesQuery

open Text (Located)

/-! ## Conditions -/

namespace Statement

mutual

/-- The conditions in a statement, where they stand. -/
def conditions : Statement → List (Located Predicate)
  | .expr _ e => e.node.conditions
  | .block body => conditionsOf body
  | .clause (.filter labels) => labels.flatMap (·.predicates)
  | .clause _ => []

def conditionsOf : List (Located Statement) → List (Located Predicate)
  | [] => []
  | s :: rest => s.node.conditions ++ conditionsOf rest

end

theorem conditionsOf_eq (body : List (Located Statement)) :
    conditionsOf body = body.flatMap (·.node.conditions) := by
  induction body with
  | nil => rfl
  | cons s rest ih => rw [conditionsOf, ih, List.flatMap_cons]

/-- `t` does not change how the conditions are read. -/
def Spared (t : List Char) (s : Statement) : Prop := ∀ x ∈ s.conditions, Text.Spares t x.start

theorem spared_block {t : List Char} {body : List (Located Statement)} :
    (Statement.block body).Spared t ↔ ∀ s ∈ body, s.node.Spared t := by
  unfold Spared
  rw [conditions, conditionsOf_eq]
  exact List.forall_mem_flatMap

theorem unplacedAll_eq (body : List (Located Statement)) :
    unplacedAll body = body.map fun s => ⟨[], s.node.unplaced⟩ := by
  induction body with
  | nil => rfl
  | cons s rest ih => rw [unplacedAll, ih, List.map_cons]

end Statement

namespace Grammar

open SeriesQuery.Parser

variable {s rest t : List Char}

/-! ## Clauses -/

/-- The text begins with the letter `c`, be it a small one. -/
def Initial (c : Char) (s : List Char) : Prop := ∃ d mid, s = d :: mid ∧ d.toUpper = c

theorem initial_of_keyword {c : Char} {word : List Char}
    (h : keyword (c :: word) s = .done () rest) : Initial c s := by
  unfold keyword at h
  split at h
  · next heq =>
    cases s with
    | nil => contradiction
    | cons d mid => exact ⟨d, mid, rfl, (List.cons.inj heq).1⟩
  · contradiction

theorem refuses_keyword {c d : Char} (h : Initial c s) (hne : c ≠ d) (word : List Char) :
    (keyword (d :: word)).Refuses s := by
  obtain ⟨e, mid, rfl, rfl⟩ := h
  exact ⟨_, if_neg fun heq => hne (List.cons.inj heq).1⟩

def GroupArg.unplaced : GroupArg → GroupArg
  | .reduction name => .reduction ⟨[], name.node⟩
  | a => a

theorem unplaced_addTo (args : GroupArgs) (a : GroupArg) :
    (a.addTo args).unplaced = a.unplaced.addTo args.unplaced := by
  cases a <;> rfl

theorem unplaced_foldl {given given' : List GroupArg}
    (h : List.Forall₂ (fun a b : GroupArg => b.unplaced = a.unplaced) given given')
    {args args' : GroupArgs} (hargs : args'.unplaced = args.unplaced) :
    (given'.foldl GroupArg.addTo args').unplaced = (given.foldl GroupArg.addTo args).unplaced := by
  induction h generalizing args args' with
  | nil => exact hargs
  | cons hab _ ih => exact ih (by rw [unplaced_addTo, unplaced_addTo, hab, hargs])

theorem groupArg_refused (h : Idle s) : groupArg.Refuses s := by
  have hword : Stops isWordStart s := h.stops any_isWordStart_idleChars
  simp only [groupArg, reductionArg, refuses_orElse, refuses_map, refuses_located]
  exact ⟨⟨s, quoted_refused (h.stops (by decide)) (h.stops (by decide))⟩,
    refuses_bind.mpr (.inl (refuses_char.mpr (h.stops (by decide)))), s, identifier_refused hword⟩

section Parted

variable (ht : Parted t)
include ht

theorem keyword_local {word : List Char}
    (hword : [';', '\n'].any (fun c => word.contains c.toUpper) = false) :
    Local t (keyword word) (keyword word) :=
  .keyword fun c hc hmem =>
    absurd (List.contains_iff_mem.mpr hmem) (Bool.eq_false_iff.mp (eq_false_of_any hword (ht c hc)))

theorem groupArg_append {a : GroupArg} (h : groupArg s = .done a rest) :
    ∃ b, groupArg (s ++ t) = .done b (rest ++ t) ∧ b.unplaced = a.unplaced := by
  rcases groupArg_eq_done.mp h with ⟨v, hv, rfl⟩ | ⟨-, ⟨x, hx, rfl⟩ | ⟨-, name, hname, rfl⟩⟩
  · exact ⟨_, groupArg_eq_done.mpr (.inl ⟨v, quoted_append' hv t, rfl⟩), rfl⟩
  · obtain ⟨rfl, mid, hstart, hname⟩ := reductionArg_eq_done.mp hx
    have hquoted : quoted.Refuses (x.start ++ t) := by
      rw [hstart]
      exact ⟨_, quoted_refused (Stops.cons (by decide)) (Stops.cons (by decide))⟩
    have hname' : reductionArg (x.start ++ t) = .done ⟨x.start ++ t, x.node⟩ (rest ++ t) :=
      reductionArg_eq_done.mpr
        ⟨rfl, mid ++ t, congrArg (· ++ t) hstart, (identifier_local ht).done hname⟩
    exact ⟨_, groupArg_eq_done.mpr (.inr ⟨hquoted, .inl ⟨_, hname', rfl⟩⟩), rfl⟩
  · have hname' := (identifier_local ht).done hname
    obtain ⟨hs, hid, -⟩ := identifier_eq_done.mp hname'
    have hstops {cs : List Char} (hcs : cs ⊆ marks) : Stops cs.contains (s ++ t) :=
      hs ▸ hid.stops hcs _
    exact ⟨.label name, groupArg_eq_done.mpr (.inr
      ⟨⟨_, quoted_refused (hstops (by decide)) (hstops (by decide))⟩, .inr
        ⟨refuses_located.mpr (refuses_bind.mpr (.inl (refuses_char.mpr (hstops (by decide))))),
          name, hname', rfl⟩⟩), rfl⟩

theorem filterClause_append {c : Clause} (h : filterClause s = .done c rest)
    (hspared : (Statement.clause c).Spared t) :
    ∃ d, filterClause (s ++ t) = .done d (rest ++ t) ∧ d.unplaced = c.unplaced := by
  obtain ⟨labels, s₁, s₂, rfl, hword, hgap, hbody⟩ := filterClause_eq_done.mp h
  have hs₂ : s₂ ≠ [] := by
    rintro rfl
    exact absurd hbody nofun
  obtain ⟨labels', hbody', hsame⟩ := matchBody_append' ht hbody fun m hm x hx =>
    hspared x (List.mem_flatMap.mpr ⟨m, hm, hx⟩)
  refine ⟨.filter labels', filterClause_eq_done.mpr ⟨labels', _, _, rfl,
    (keyword_local ht (by decide)).done hword, gap_append hgap hs₂ t, hbody'⟩, ?_⟩
  rw [Clause.unplaced, Clause.unplaced, hsame]

theorem groupClause_append {c : Clause} (h : groupClause s = .done c rest) :
    ∃ d, groupClause (s ++ t) = .done d (rest ++ t) ∧ d.unplaced = c.unplaced := by
  obtain ⟨args, s₁, s₂, s₃, s₄, rfl, hword, hgap, hopen, hargs, hclose⟩ := groupClause_eq_done.mp h
  have hs₂ : s₂ ≠ [] := by
    rintro rfl
    exact absurd hopen nofun
  have hs₃ : s₃ ≠ [] := by
    rintro rfl
    obtain ⟨place, hplace⟩ := groupArg_refused Idle.nil
    obtain ⟨-, rfl⟩ := Reply.done.inj (hargs.symm.trans (listOf_of_refused hplace))
    exact absurd hclose nofun
  have hclose' := gap_append hclose (List.cons_ne_nil _ _) t
  obtain ⟨args', hargs', hS⟩ := listOf_comma_append (H := fun _ => True)
    (fun s a mid ha _ _ => groupArg_append ht ha) (groupArg_refused .nil)
    (fun s hs => groupArg_refused hs) hargs ⟨_, hclose, '\x7d', rest, rfl, by decide⟩
    (fun _ => refuses_bind.mpr (.inl (refuses_comma hclose'))) (fun _ _ => trivial)
  have hgroup : Local t (keyword "GROUP".toList) (keyword "GROUP".toList) :=
    keyword_local ht (by decide)
  have hby : Local t (keyword "BY".toList) (keyword "BY".toList) := keyword_local ht (by decide)
  exact ⟨_, groupClause_eq_done.mpr ⟨args', _, _, _, _, rfl, (hgroup.orElse hby).done hword,
    gap_append hgap hs₂ t, openBrace_append hopen hs₃ t, hargs', hclose'⟩,
    congrArg Clause.group (unplaced_foldl hS rfl)⟩

theorem offsetClause_local : Local t offsetClause offsetClause :=
  (keyword_local ht (by decide)).bind fun _ => (blanks_local ht).bind fun _ =>
    (inBrackets_local ht (offsetSpec_local ht)).bind fun _ => .pure _

theorem clause_append {c : Clause} (h : clause s = .done c rest)
    (hspared : (Statement.clause c).Spared t) :
    ∃ d, clause (s ++ t) = .done d (rest ++ t) ∧ d.unplaced = c.unplaced := by
  obtain ⟨mid, rfl, hclause⟩ := clause_eq_done.mp h
  suffices hd : ∃ d, (filterClause <|> groupClause <|> offsetClause : Parser Clause) (mid ++ t) =
      .done d (rest ++ t) ∧ d.unplaced = c.unplaced by
    obtain ⟨d, hd, hsame⟩ := hd
    exact ⟨d, clause_eq_done.mpr ⟨mid ++ t, rfl, hd⟩, hsame⟩
  -- The words of the clauses begin with different letters.
  have hwhere {c : Char} (hinitial : Initial c (mid ++ t)) (hne : c ≠ 'W') :
      filterClause.Refuses (mid ++ t) :=
    refuses_bind.mpr (.inl (refuses_keyword hinitial hne _))
  rcases orElse_eq_done.mp hclause with h | ⟨-, h⟩
  · obtain ⟨d, hd, hsame⟩ := filterClause_append ht h hspared
    exact ⟨d, orElse_of_done _ hd, hsame⟩
  rcases orElse_eq_done.mp h with h | ⟨-, h⟩
  · obtain ⟨d, hd, hsame⟩ := groupClause_append ht h
    obtain ⟨args, s₁, s₂, s₃, s₄, -, hword, -⟩ := groupClause_eq_done.mp hd
    obtain ⟨c, hinitial, hne⟩ : ∃ c, Initial c (mid ++ t) ∧ c ≠ 'W' := by
      rcases orElse_eq_done.mp hword with hword | ⟨-, hword⟩
      · exact ⟨'G', initial_of_keyword hword, by decide⟩
      · exact ⟨'B', initial_of_keyword hword, by decide⟩
    obtain ⟨place, hplace⟩ := hwhere hinitial hne
    exact ⟨d, (orElse_of_refused _ hplace).trans (orElse_of_done _ hd), hsame⟩
  · have hd := (offsetClause_local ht).done h
    obtain ⟨ms, s₁, s₂, -, hword, -⟩ := offsetClause_eq_done.mp hd
    have hinitial : Initial 'O' (mid ++ t) := initial_of_keyword hword
    obtain ⟨place, hplace⟩ := hwhere hinitial (by decide)
    obtain ⟨place', hplace'⟩ : groupClause.Refuses (mid ++ t) :=
      refuses_bind.mpr (.inl (refuses_orElse.mpr
        ⟨refuses_keyword hinitial (by decide) _, refuses_keyword hinitial (by decide) _⟩))
    exact ⟨c, (orElse_of_refused _ hplace).trans ((orElse_of_refused _ hplace').trans hd), rfl⟩

/-! ## Statements -/

theorem named_append {x : Statement} (h : named s = .done x rest) (hspared : x.Spared t) :
    ∃ y, named (s ++ t) = .done y (rest ++ t) ∧ y.unplaced = x.unplaced := by
  obtain ⟨name, e, s₁, s₂, s₃, rfl, hname, hblanks, hgap, he⟩ := named_eq_done.mp h
  have hs₃ : s₃ ≠ [] := by
    rintro rfl
    obtain ⟨place, hplace⟩ := expr_refused Idle.nil
    exact absurd (hplace.symm.trans he) nofun
  obtain ⟨f, hf, hsame⟩ := expr_append ht s₃ e rest he hspared
  refine ⟨.expr (some name) f, named_eq_done.mpr ⟨name, f, _, _, _, rfl,
    (identifier_local ht).done hname, (blanks_local ht).done hblanks,
    gap_append hgap hs₃ t, hf⟩, ?_⟩
  rw [Statement.unplaced, Statement.unplaced, hsame]

/-- What follows the colon of a name is no reason to refuse it. -/
theorem refuses_named_append (h : named.Refuses s) : named.Refuses (s ++ t) := by
  have hcolon : Local t (do let _ ← identifier; blanks; char ':' : Parser Char)
      (do let _ ← identifier; blanks; char ':') :=
    (identifier_local ht).bind fun _ => (blanks_local ht).bind fun _ => .char (ht.stops (by decide))
  have hiff (s : List Char) :
      named.Refuses s ↔ (do let _ ← identifier; blanks; char ':' : Parser Char).Refuses s := by
    simp [named, refuses_bind]
  exact (hiff _).mpr (hcolon.refuses ((hiff s).mp h))

end Parted

theorem refuses_clause : clause.Refuses s ↔ Stops ['*'].contains s := by
  simp [clause, refuses_bind, refuses_char]

theorem refuses_block {body : Parser (List (Located Statement))} :
    (block body).Refuses s ↔ Stops ['\x7b'].contains s := by
  simp [block, refuses_bind, refuses_char]

/-- What `statement` reads, that `statement'` reads with `t` behind it, if `t` spares it. -/
def StatementBefore (t : List Char) (statement statement' : Parser (Located Statement)) : Prop :=
  ∀ s x rest, statement s = .done x rest → x.node.Spared t →
    ∃ y, statement' (s ++ t) = .done y (rest ++ t) ∧ y.node.unplaced = x.node.unplaced

/-- The same for the statements of a block, up to its end. -/
def BodyBefore (t : List Char) (body body' : Parser (List (Located Statement))) : Prop :=
  ∀ s xs rest, body s = .done xs ('\x7d' :: rest) → (∀ x ∈ xs, x.node.Spared t) →
    ∃ ys, body' (s ++ t) = .done ys ('\x7d' :: rest ++ t) ∧
      Statement.unplacedAll ys = Statement.unplacedAll xs

theorem block_append {body body' : Parser (List (Located Statement))}
    (hbody : BodyBefore t body body') {x : Statement} (h : block body s = .done x rest)
    (hspared : x.Spared t) :
    ∃ y, block body' (s ++ t) = .done y (rest ++ t) ∧ y.unplaced = x.unplaced := by
  obtain ⟨xs, mid, rfl, rfl, hxs⟩ := block_eq_done.mp h
  obtain ⟨ys, hys, hsame⟩ := hbody mid xs rest hxs (Statement.spared_block.mp hspared)
  refine ⟨.block ys, block_eq_done.mpr ⟨ys, mid ++ t, rfl, rfl, hys⟩, ?_⟩
  rw [Statement.unplaced, Statement.unplaced, hsame]

theorem statement_append (ht : Parted t) {body body' : Parser (List (Located Statement))}
    (hbody : BodyBefore t body body') : StatementBefore t (statement body) (statement body') := by
  intro s x rest h hspared
  obtain ⟨rfl, h⟩ := located_eq_done.mp h
  suffices hy : ∃ y, (Statement.clause <$> clause <|> block body' <|> named <|>
      Statement.expr none <$> expr : Parser Statement) (x.start ++ t) = .done y (rest ++ t) ∧
      y.unplaced = x.node.unplaced by
    obtain ⟨y, hy, hsame⟩ := hy
    exact ⟨⟨_, y⟩, located_eq_done.mpr ⟨rfl, hy⟩, hsame⟩
  rcases orElse_eq_done.mp h with h | ⟨hclause, h⟩
  · obtain ⟨c, hc, hnode⟩ := map_eq_done.mp h
    obtain ⟨d, hd, hsame⟩ := clause_append ht hc (hnode ▸ hspared)
    refine ⟨.clause d, orElse_of_done _ (map_of_done _ hd), ?_⟩
    rw [← hnode, Statement.unplaced, Statement.unplaced, hsame]
  obtain ⟨_, hclause⟩ : (Statement.clause <$> clause).Refuses (x.start ++ t) := by
    rw [refuses_map, refuses_clause] at hclause ⊢
    exact hclause.append_stops (ht.stops (by decide))
  rw [orElse_of_refused _ hclause]
  rcases orElse_eq_done.mp h with h | ⟨hblock, h⟩
  · obtain ⟨y, hy, hsame⟩ := block_append hbody h hspared
    exact ⟨y, orElse_of_done _ hy, hsame⟩
  obtain ⟨_, hblock⟩ : (block body').Refuses (x.start ++ t) :=
    refuses_block.mpr ((refuses_block.mp hblock).append_stops (ht.stops (by decide)))
  rw [orElse_of_refused _ hblock]
  rcases orElse_eq_done.mp h with h | ⟨hnamed, h⟩
  · obtain ⟨y, hy, hsame⟩ := named_append ht h hspared
    exact ⟨y, orElse_of_done _ hy, hsame⟩
  obtain ⟨_, hnamed⟩ := refuses_named_append ht hnamed
  rw [orElse_of_refused _ hnamed]
  obtain ⟨e, he, hnode⟩ := map_eq_done.mp h
  rw [← hnode] at hspared
  obtain ⟨f, hf, hsame⟩ := expr_append ht _ e rest he hspared
  refine ⟨.expr none f, map_of_done _ hf, ?_⟩
  rw [← hnode, Statement.unplaced, Statement.unplaced, hsame]

/-! ## Blocks and queries -/

section Bodies

variable {st st' : Parser (Located Statement)} {found body : List (Located Statement)}

theorem atEnd_append (h : atEnd s = false) (t : List Char) : atEnd (s ++ t) = false := by
  cases s with
  | nil => contradiction
  | cons c s => exact h

theorem ne_nil_of_atEnd (h : atEnd s = false) : s ≠ [] := by
  rintro rfl
  contradiction

/-- What can stand between statements. -/
def isSeparating (c : Char) : Bool := Text.isBlank c || c == ';' || c == ','

theorem separators_eq (s : List Char) : separators s = .done () (s.dropWhile isSeparating) := rfl

/-- The statements behind the separators that come first. -/
def statementsFrom (statement : Parser (Located Statement)) (found : List (Located Statement)) :
    Parser (List (Located Statement)) :=
  fun s => statementsRest statement found (s.dropWhile isSeparating)

theorem statementsWithin_eq (depth : Nat) : statementsWithin (depth + 1) =
    statementsFrom (statement (statementsWithin depth)) [] := rfl

theorem statementsFrom_nil (found : List (Located Statement)) :
    statementsFrom st found [] = .done found [] :=
  statementsRest_eq_done.mpr (.inl ⟨rfl, rfl, rfl⟩)

/-- What begins with the end of a statement goes on behind it. -/
theorem statementsFrom_tail (ht : Parted t) (found : List (Located Statement)) :
    statementsFrom st found t = statementsFrom st found t.tail := by
  cases t with
  | nil => rfl
  | cons c q =>
    have hends : ∀ c ∈ [';', '\n'], isSeparating c = true :=
      List.all_eq_true.mp (by decide +kernel)
    unfold statementsFrom
    rw [List.dropWhile_cons_of_pos (hends c (ht c rfl)), List.tail_cons]

theorem exists_separator {c : Char} (hc : c ∈ [';', ',', '\n', '\r']) {n : Nat} (hn : s.length < n)
    (h : statementsFrom st found s = .done body rest) : ∃ next, separator (c :: s) = .done () next ∧
      next.length < n ∧ statementsRest st found next = .done body rest :=
  ⟨_, separator_eq_done.mpr ⟨c, s, hc, rfl, separators_eq s⟩,
    Nat.lt_of_le_of_lt (List.dropWhile_suffix _).length_le hn, h⟩

theorem statementsFrom_append_eq (found : List (Located Statement)) (s t : List Char) :
    statementsFrom st found (s ++ t) =
      if s.dropWhile isSeparating = [] then statementsFrom st found t else
        statementsRest st found (s.dropWhile isSeparating ++ t) := by
  unfold statementsFrom
  rw [List.dropWhile_append]
  split <;> simp_all

/-- Where reading goes on with `t` behind a query, or ends with `t` behind a block. -/
def goOn (t : List Char) (st : Parser (Located Statement)) (rest : List Char)
    (found : List (Located Statement)) : Reply (List (Located Statement)) :=
  match rest with
  | [] => statementsFrom st found t.tail
  | c :: rest => .done found (c :: rest ++ t)

/-- At the end of what is in front of `t`, all is read, or what begins with `t` is. -/
theorem goOn_cases (ht : Parted t) {found' body' : List (Located Statement)} {rest' : List Char}
    (hend : atEnd rest = true) (h : goOn t st' rest found' = .done body' rest') :
    atEnd (rest ++ t) = true ∧ body' = found' ∧ rest' = rest ++ t ∨
      ∃ c q, c ∈ [';', ',', '\n', '\r'] ∧ rest ++ t = c :: q ∧
        statementsFrom st' found' q = .done body' rest' := by
  cases rest with
  | cons c rest =>
    obtain ⟨rfl, rfl⟩ := Reply.done.inj h
    exact .inl ⟨hend, rfl, rfl⟩
  | nil =>
    cases t with
    | nil =>
      obtain ⟨rfl, rfl⟩ := Reply.done.inj ((statementsFrom_nil _).symm.trans h)
      exact .inl ⟨rfl, rfl, rfl⟩
    | cons c q =>
      have hends : [';', '\n'] ⊆ [';', ',', '\n', '\r'] := by decide
      exact .inr ⟨c, q, hends (ht c rfl), rfl, h⟩

/-- Where there are no more statements in front of `t`. -/
theorem statementsFrom_goOn (ht : Parted t) {found' body' : List (Located Statement)}
    {rest' : List Char} (hrest : s.dropWhile isSeparating = rest) (hend : atEnd rest = true)
    (h : goOn t st' rest found' = .done body' rest') :
    statementsFrom st' found' (s ++ t) = .done body' rest' := by
  rw [statementsFrom_append_eq, hrest]
  cases rest with
  | nil => rwa [if_pos rfl, statementsFrom_tail ht]
  | cons c rest =>
    obtain ⟨rfl, rfl⟩ := Reply.done.inj h
    rw [if_neg (List.cons_ne_nil c rest)]
    exact statementsRest_eq_done.mpr (.inl ⟨hend, rfl, rfl⟩)

/-- With a statement read, what is behind it decides. -/
theorem statementsRest_step (ht : Parted t) {begun mid after : List Char} {y : Located Statement}
    {found' body' : List (Located Statement)} {rest' : List Char} (hend : atEnd begun = false)
    (hy : st' (begun ++ t) = .done y (mid ++ t)) (hblanks : blanks mid = .done () after)
    (hafter : after <:+ begun)
    (hnext : atEnd (after ++ t) = true ∧ body' = found' ++ [y] ∧ rest' = after ++ t ∨
      ∃ c q, c ∈ [';', ',', '\n', '\r'] ∧ after ++ t = c :: q ∧
        statementsFrom st' (found' ++ [y]) q = .done body' rest') :
    statementsRest st' found' (begun ++ t) = .done body' rest' := by
  refine statementsRest_eq_done.mpr (.inr ⟨atEnd_append hend t, y, _, _, hy,
    (blanks_local ht).done hblanks, hnext.imp_right ?_⟩)
  rintro ⟨c, q, hc, hcq, hfrom⟩
  have hq : q.length < (begun ++ t).length := by
    have hlength := congrArg List.length hcq
    have hle := hafter.length_le
    rw [List.length_append, List.length_cons] at hlength
    rw [List.length_append]
    omega
  have hends : [';', ',', '\n', '\r'].any (· == '\x7d') = false := by decide
  rw [hcq]
  exact ⟨eq_false_of_any hends hc, exists_separator hc hq hfrom⟩

/-- Statements that are read in front of `t` are read with `t` behind them, whatever was read before
them, and then reading goes on. -/
theorem statementsFrom_append (ht : Parted t) (hst : StatementBefore t st st')
    (hin : ∀ source, st.Within source) (h : statementsFrom st found s = .done body rest)
    (hspared : ∀ x ∈ body, x.node.Spared t) :
    ∃ more more', body = found ++ more ∧
      Statement.unplacedAll more' = Statement.unplacedAll more ∧
      ∀ found' body' rest', goOn t st' rest (found' ++ more') = .done body' rest' →
        statementsFrom st' found' (s ++ t) = .done body' rest' := by
  induction hn : s.length using Nat.strongRecOn generalizing s found with
  | ind n ih =>
    unfold statementsFrom at h
    have hsuffix : s.dropWhile isSeparating <:+ s := List.dropWhile_suffix _
    rcases statementsRest_eq_done.mp h with ⟨hend, rfl, hrest⟩ |
      ⟨hend, x, mid, after, hx, hblanks, hmore⟩
    · refine ⟨[], [], (List.append_nil _).symm, rfl, fun found' body' rest' hgo => ?_⟩
      rw [List.append_nil] at hgo
      exact statementsFrom_goOn ht hrest.symm (hrest ▸ hend) hgo
    have hdrop (found' : List (Located Statement)) : statementsFrom st' found' (s ++ t) =
        statementsRest st' found' (s.dropWhile isSeparating ++ t) :=
      (statementsFrom_append_eq found' s t).trans (if_neg (ne_nil_of_atEnd hend))
    generalize s.dropWhile isSeparating = begun at *
    have hafter : after <:+ begun :=
      within_blanks.of_done ((hin begun).of_done (List.suffix_refl begun) hx) hblanks
    rcases hmore with ⟨hlast, rfl, rfl⟩ | ⟨-, next, hseparator, -, hrest⟩
    · -- The statement is the last one.
      obtain ⟨y, hy, hsame⟩ := hst begun x mid hx (hspared x (by simp))
      refine ⟨[x], [y], rfl, by rw [Statement.unplacedAll, Statement.unplacedAll, hsame]; rfl, ?_⟩
      intro found' body' rest' hgo
      rw [hdrop]
      exact statementsRest_step ht hend hy hblanks hafter (goOn_cases ht hlast hgo)
    · obtain ⟨c, q, hc, rfl, hq⟩ := separator_eq_done.mp hseparator
      have hlt : q.length < n := by
        have hle := (hafter.trans hsuffix).length_le
        rw [List.length_cons] at hle
        omega
      obtain ⟨-, rfl⟩ := Reply.done.inj hq
      obtain ⟨more, more', rfl, hsames, hgo⟩ := ih q.length hlt hrest rfl
      obtain ⟨y, hy, hsame⟩ := hst begun x mid hx (hspared x (by simp))
      refine ⟨x :: more, y :: more', by simp, by
        rw [Statement.unplacedAll, Statement.unplacedAll, hsame, hsames], ?_⟩
      intro found' body' rest' hgo'
      rw [hdrop]
      refine statementsRest_step ht hend hy hblanks hafter (.inr ⟨c, q ++ t, hc, rfl, hgo _ _ _ ?_⟩)
      rwa [List.append_assoc, List.singleton_append]

/-- More depth than it takes changes nothing, either. -/
theorem statementsWithin_append (ht : Parted t) {depth depth' : Nat} (hle : depth ≤ depth') :
    BodyBefore t (statementsWithin depth) (statementsWithin depth') := by
  induction depth generalizing depth' with
  | zero => exact fun _ _ _ h => absurd h nofun
  | succ depth ih =>
    obtain ⟨depth', rfl⟩ : ∃ d, depth' = d + 1 := ⟨depth' - 1, by omega⟩
    intro s xs rest h hspared
    rw [statementsWithin_eq] at h ⊢
    obtain ⟨more, more', rfl, hsame, hgo⟩ := statementsFrom_append ht
      (statement_append ht (ih (Nat.le_of_succ_le_succ hle)))
      (fun _ => statement_within (statementsWithin_within depth)) h hspared
    exact ⟨more', hgo [] _ _ rfl, hsame⟩

theorem atEnd_of_statementsRest (h : statementsRest st found s = .done body rest) :
    atEnd rest = true := by
  induction hn : s.length using Nat.strongRecOn generalizing s found with
  | ind n ih =>
    rcases statementsRest_eq_done.mp h with ⟨hend, -, rfl⟩ | ⟨-, x, mid, after, -, -, hmore⟩
    · exact hend
    · rcases hmore with ⟨hend, -, rfl⟩ | ⟨-, next, -, hlt, hrest⟩
      · exact hend
      · exact ih next.length (hn ▸ hlt) hrest rfl

/-- The statements of two texts, with `t` behind the first one and the second one in `t`. -/
theorem statements_append (ht : Parted t) {more : List (Located Statement)}
    (hs : statements s = .done body []) (hmore : statements t.tail = .done more [])
    (hspared : ∀ x ∈ body, x.node.Spared t) : ∃ all, statements (s ++ t) = .done all [] ∧
      Statement.unplacedAll all = Statement.unplacedAll (body ++ more) := by
  have hlength : (s ++ t).length = s.length + t.length := List.length_append
  have htail : t.tail.length = t.length - 1 := List.length_tail
  have hin (depth : Nat) (source : List Char) :
      (statement (statementsWithin depth)).Within source :=
    statement_within (statementsWithin_within depth)
  have hbefore (u : List Char) (hu : Parted u) {depth : Nat} (hle : depth ≤ (s ++ t).length) :
      StatementBefore u (statement (statementsWithin depth))
        (statement (statementsWithin (s ++ t).length)) :=
    statement_append hu (statementsWithin_append hu hle)
  obtain ⟨_, xs, rfl, hxs, hfirst⟩ := statementsFrom_append ht (hbefore t ht (by omega)) (hin _)
    (show statementsFrom _ [] s = .done body [] from hs) hspared
  -- The second text is read to its end, with no text behind it.
  have hnil (x : Located Statement) : x.node.Spared [] := fun _ _ _ _ _ => List.not_mem_nil
  obtain ⟨_, ys, rfl, hys, hsecond⟩ := statementsFrom_append .nil (hbefore [] .nil (by omega))
    (hin _) (show statementsFrom _ [] t.tail = .done more [] from hmore) fun x _ => hnil x
  have hgo := hsecond ([] ++ xs) _ _ (statementsFrom_nil _)
  rw [List.append_nil] at hgo
  refine ⟨_, hfirst [] _ _ hgo, ?_⟩
  simp only [Statement.unplacedAll_eq, List.nil_append, List.map_append] at hxs hys ⊢
  rw [hxs, hys]

end Bodies

end Grammar

namespace Statement

/-- A query is read to the end of its text. -/
theorem ofText_eq_ok {source : String} {body : List (Located Statement)} :
    ofText source = .ok body ↔ Grammar.statements source.toList = .done body [] := by
  unfold ofText
  dsimp only
  split
  · next found rest hdone =>
    have hend : Grammar.atEnd rest = true := Grammar.atEnd_of_statementsRest hdone
    rw [hdone]
    cases rest with
    | nil => exact ⟨fun h => by rw [Except.ok.inj h], fun h => by rw [(Reply.done.inj h).1]; rfl⟩
    | cons c rest =>
      obtain rfl : c = '\x7d' := by simpa [Grammar.atEnd] using hend
      rw [List.dropWhile_cons_of_neg (by decide)]
      exact ⟨nofun, nofun⟩
  · next hrefused => exact ⟨nofun, fun h => absurd (hrefused.symm.trans h) nofun⟩
  · next hfailed => exact ⟨nofun, fun h => absurd (hfailed.symm.trans h) nofun⟩

/-- **Two queries with a semicolon or a new line between them are one query, with the statements of
the first one and then those of the second one, at other places, if no quotation mark that a
condition of the first one leaves open stands in the second one.** -/
theorem appended_spec {p q between : String} {body more : List (Located Statement)}
    (hp : ofText p = .ok body) (hq : ofText q = .ok more) (hbetween : between ∈ [";", "\n"])
    (hopen : ∀ x ∈ conditionsOf body, ∀ mark ∈ Grammar.quoteMarks,
      Text.Unclosed mark x.start → mark ∉ q.toList) :
    ∃ all, ofText (p ++ between ++ q) = .ok all ∧
      unplacedAll all = unplacedAll (body ++ more) := by
  obtain ⟨c, hc, hchar⟩ : ∃ c, c ∈ [';', '\n'] ∧ between.toList = [c] := by
    rcases List.mem_pair.mp hbetween with rfl | rfl
    · exact ⟨';', List.mem_cons_self, rfl⟩
    · exact ⟨'\n', List.mem_cons_of_mem _ List.mem_cons_self, rfl⟩
  have hmarks : Grammar.quoteMarks.any [';', '\n'].contains = false := by decide
  have hspared : ∀ x ∈ body, x.node.Spared (c :: q.toList) := by
    intro x hx y hy mark hmark hunclosed
    rw [List.mem_cons, not_or]
    refine ⟨fun heq => not_mem_of_any hmarks hmark (heq ▸ hc), hopen y ?_ mark hmark hunclosed⟩
    rw [conditionsOf_eq]
    exact List.mem_flatMap.mpr ⟨x, hx, hy⟩
  obtain ⟨all, hall, hsame⟩ := Grammar.statements_append (t := c :: q.toList) (Parted.cons hc _)
    (ofText_eq_ok.mp hp) (ofText_eq_ok.mp hq) hspared
  refine ⟨all, ofText_eq_ok.mpr ?_, hsame⟩
  rw [String.toList_append, String.toList_append, hchar, List.append_assoc]
  exact hall

/-- A mark is left open, and the other query has no quotes. -/
theorem appended_spec_open : ∃ body more all,
    ofText "foo\x7bx: !prefix(\"a)\x7d" = .ok body ∧ ofText "bar\x7by: b\x7d" = .ok more ∧
      ofText ("foo\x7bx: !prefix(\"a)\x7d" ++ ";" ++ "bar\x7by: b\x7d") = .ok all ∧
      unplacedAll all = unplacedAll (body ++ more) := by
  obtain ⟨body, hp, -⟩ := exists_of_toOption_any
    (x := ofText "foo\x7bx: !prefix(\"a)\x7d") (p := fun _ => true) (by decide +kernel)
  obtain ⟨more, hq, -⟩ := exists_of_toOption_any
    (x := ofText "bar\x7by: b\x7d") (p := fun _ => true) (by decide +kernel)
  have hmarks : Grammar.quoteMarks.any "bar\x7by: b\x7d".toList.contains = false := by decide
  have hbetween : ";" ∈ [";", "\n"] := List.mem_cons_self
  obtain ⟨all, hall, hsame⟩ :=
    appended_spec hp hq hbetween fun _ _ _ hmark _ => not_mem_of_any hmarks hmark
  exact ⟨body, more, all, hp, hq, hall, hsame⟩

/-- What is left open is closed by the other query, and the parenthesis is not. -/
theorem not_appended :
    (∃ body, ofText "foo\x7bx: !prefix(\"a)\x7d" = .ok body) ∧
      (∃ more, ofText "bar\x7by: \"b\"\x7d" = .ok more) ∧
      ∀ between ∈ [";", "\n"], ∀ all,
        ofText ("foo\x7bx: !prefix(\"a)\x7d" ++ between ++ "bar\x7by: \"b\"\x7d") ≠ .ok all := by
  have hfails : ∀ between ∈ [";", "\n"],
      (ofText ("foo\x7bx: !prefix(\"a)\x7d" ++ between ++ "bar\x7by: \"b\"\x7d")).toBool =
        false := by decide +kernel
  refine ⟨?_, ?_, fun between hbetween all hall => ?_⟩
  · obtain ⟨body, hp, -⟩ := exists_of_toOption_any
      (x := ofText "foo\x7bx: !prefix(\"a)\x7d") (p := fun _ => true) (by decide +kernel)
    exact ⟨body, hp⟩
  · obtain ⟨more, hq, -⟩ := exists_of_toOption_any
      (x := ofText "bar\x7by: \"b\"\x7d") (p := fun _ => true) (by decide +kernel)
    exact ⟨more, hq⟩
  · exact absurd (hfails between hbetween) (by rw [hall]; nofun)

end Statement

end SeriesQuery
