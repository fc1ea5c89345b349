import SeriesQuery.Proofs.Query.Gathering
import SeriesQuery.Proofs.Query.Stamps

/-!
# Bare events

An event with nothing but parentheses and brackets around it is compiled in two ways: to a leaf, for
raw outputs and for calls, and to an aggregate like any other expression. Both put the brackets into
one shift, so it makes no difference to what is scanned which way is taken.

* `Scope.exists_of_isBare` : both ways come to the same leaf, or to the same error;
* `Scope.bareLeaf_congr` : a grouping has no part in the leaf;
* `Statement.Shows e` : the statements that show one expression, as it is, named or in a call;
* `Scope.asks` : what a statement of a block asks for, `Scope.queries_perm` that a block asks for
  what its statements do;
* `Scope.bare_spec` : all ways to show a bare event ask for the series of its leaf.
-/

namespace SeriesQuery

open Text (Located)

namespace Scope

variable {source : List Char} {missing : String} {scope : Scope}

/-! ## Two ways to compile -/

theorem bareLeaf_of_not_isBare : ∀ {start : List Char} (e : Expr), e.isBare = false →
    bareLeaf source scope start e = .ok none
  | _, .event .., h => nomatch h
  | _, .paren e, h => by
    rw [bareLeaf]
    exact bareLeaf_of_not_isBare e.node h
  | _, .shift e bracket, h => by
    have hnone : bareLeaf source scope e.start e.node = .ok none := bareLeaf_of_not_isBare e.node h
    rw [bareLeaf, hnone]
    rfl
  | _, .number _, _ | _, .call .., _ | _, .binary .., _ => rfl

/-- Brackets compose on the aggregate of an event as they do on its leaf. -/
theorem exists_of_isBare (source : List Char) (scope : Scope) : ∀ (start : List Char) (e : Expr),
    e.isBare = true → ∃ x : Except QueryError Leaf, bareLeaf source scope start e = some <$> x ∧
      agg source scope start e = (Agg.scan · scope.reduction) <$> x
  | _, .event name labels, _ => by
    refine ⟨leaf source scope name labels, rfl, ?_⟩
    show (leaf source scope name labels >>= fun l => .ok (Agg.scan l scope.reduction)) = _
    cases leaf source scope name labels <;> rfl
  | _, .paren e, h => exists_of_isBare source scope e.start e.node h
  | start, .shift e bracket, h => by
    obtain ⟨x, hbare, hagg⟩ := exists_of_isBare source scope e.start e.node h
    unfold bareLeaf agg
    rw [hbare, hagg]
    cases x with
    | error err => exact ⟨.error err, rfl, rfl⟩
    | ok leaf =>
      cases bracket with
      | step ms => exact ⟨.ok { leaf with shift := leaf.shift.setStep ms }, rfl, rfl⟩
      | offset ms =>
        -- the sum is checked once in each way, and the error is the same
        refine ⟨do
          let shift ← orOutOfRange source start (.shift e (.offset ms)) (leaf.shift.addOffset? ms)
          return { leaf with shift }, ?_, ?_⟩
        · show (orOutOfRange source start _ (leaf.shift.addOffset? ms) >>= _) = _
          cases leaf.shift.addOffset? ms <;> rfl
        · show orOutOfRange source start _ ((leaf.shift.addOffset? ms).map _) = _
          cases leaf.shift.addOffset? ms <;> rfl
  | _, .number _, h | _, .call .., h | _, .binary .., h => nomatch h

theorem agg_of_bareLeaf {start : List Char} {e : Expr} {leaf : Leaf}
    (h : bareLeaf source scope start e = .ok (some leaf)) :
    agg source scope start e = .ok (.scan leaf scope.reduction) := by
  obtain ⟨x, hbare, hagg⟩ := exists_of_isBare source scope start e (isSome_bareLeaf e h).symm
  obtain ⟨leaf', rfl, hleaf⟩ := map_eq_ok.mp (hbare ▸ h)
  rw [hagg, ← Option.some.inj hleaf]
  rfl

theorem agg_error_of_bareLeaf {start : List Char} {e : Expr} {err : QueryError}
    (h : bareLeaf source scope start e = .error err) : agg source scope start e = .error err := by
  by_cases he : e.isBare = true
  · obtain ⟨x, hbare, hagg⟩ := exists_of_isBare source scope start e he
    rw [hbare] at h
    cases x with
    | error err' => rw [hagg, ← Except.error.inj h]; rfl
    | ok leaf => contradiction
  · rw [bareLeaf_of_not_isBare e (Bool.eq_false_iff.mpr he)] at h
    contradiction

theorem exists_of_agg {start : List Char} {e : Expr} (he : e.isBare = true) {a : Agg Float}
    (h : agg source scope start e = .ok a) :
    ∃ leaf, bareLeaf source scope start e = .ok (some leaf) ∧ a = .scan leaf scope.reduction := by
  obtain ⟨x, hbare, hagg⟩ := exists_of_isBare source scope start e he
  obtain ⟨leaf, rfl, ha⟩ := map_eq_ok.mp (hagg ▸ h)
  exact ⟨leaf, hbare, ha.symm⟩

/-- Only the filters and the offset around an event go into its leaf. -/
theorem bareLeaf_congr {inner : Scope} (hfilter : inner.filter = scope.filter)
    (hoffset : inner.offset = scope.offset) : ∀ (start : List Char) (e : Expr),
    bareLeaf source inner start e = bareLeaf source scope start e
  | _, .event .. => by rw [bareLeaf, bareLeaf, leaf, leaf, hfilter, hoffset]
  | _, .paren e => bareLeaf_congr hfilter hoffset e.start e.node
  | _, .shift e _ => by
    rw [bareLeaf, bareLeaf, bareLeaf_congr hfilter hoffset e.start e.node]
  | _, .number _ | _, .call .. | _, .binary .. => rfl

/-- Any call of a bare event asks for the series of its leaf, over a window that fits. -/
theorem exists_agg_call (start : List Char) {name : String} {kind : CallKind}
    (hkind : CallKind.ofName? name = some kind) {e : Located Expr} {x : Except QueryError Leaf}
    (hbare : bareLeaf source scope e.start e.node = some <$> x)
    (hagg : agg source scope e.start e.node = (Agg.scan · scope.reduction) <$> x) :
    ∃ mk : Leaf → Agg Float, agg source scope start (.call name [e]) = mk <$> x ∧
      ∀ leaf (w : Window), Time.fits w.start = true → Time.fits w.stop = true →
        (mk leaf).queries w = [leaf.query w] := by
  unfold agg
  rw [hkind]
  cases kind with
  | plain f =>
    refine ⟨(Agg.scan · f), ?_, fun _ _ _ _ => rfl⟩
    dsimp only
    rw [hbare]
    cases x <;> rfl
  | zip f =>
    refine ⟨fun leaf => .zip [.scan leaf scope.reduction] f {}, ?_, fun leaf w hstart hstop => ?_⟩
    · dsimp only
      rw [aggs, hagg]
      cases x <;> rfl
    · rw [Agg.queries, Shift.apply_neutral hstart hstop]
      rfl
  | collapse f =>
    refine ⟨fun leaf => .collapse (.scan leaf scope.reduction) f, ?_, fun _ _ _ _ => rfl⟩
    dsimp only
    rw [hagg]
    cases x <;> rfl

end Scope

/-! ## What statements ask for -/

/-- The requests over a window. -/
def Gatherer.queries (w : Window) : Gatherer ScanQuery :=
  ⟨fun leaf => [leaf.query w], (·.queries w)⟩

namespace Node

mutual

theorem queries_eq_gather (w : Window) : ∀ node : Node Float,
    node.queries w = node.gather (.queries w)
  | .scan _ | .group _ => rfl
  | .block nodes => by rw [queries, gather, queriesOf_eq_gatherOf w nodes]

theorem queriesOf_eq_gatherOf (w : Window) : ∀ nodes : List (Node Float),
    queriesOf nodes w = gatherOf (.queries w) nodes
  | [] => rfl
  | node :: nodes => by
    rw [queriesOf, gatherOf, queries_eq_gather w node, queriesOf_eq_gatherOf w nodes]

end

end Node

/-- The statement shows the expression: as it is or in a call of any kind, with a name or without
one. -/
inductive Statement.Shows (e : Located Expr) : Statement → Prop where
  | plain (name : Option String) : Shows e (.expr name e)
  | called (name : Option String) (start : List Char) {fn : String} {kind : Scope.CallKind}
    (h : Scope.CallKind.ofName? fn = some kind) : Shows e (.expr name ⟨start, .call fn [e]⟩)

namespace Scope

section

variable (source : List Char) (missing : String) (scope : Scope)

/-- What the node or the named aggregate of a statement asks for. -/
def asks (s : Statement) (w : Window) : Except QueryError (List ScanQuery) :=
  (·.toList.flatMap fun i => (i.run (.queries w)).elements) <$> nodeItem source missing scope s

end

variable {source : List Char} {missing : String} {scope : Scope}

/-- Named or not, an expression asks for what it compiles to. -/
theorem asks_expr {name : Option String} {e : Located Expr} {x : Except QueryError Leaf}
    {mk : Leaf → Agg Float} {w : Window}
    (hbare : bareLeaf source scope e.start e.node = some <$> x ∨
      bareLeaf source scope e.start e.node = .ok none)
    (hagg : agg source scope e.start e.node = mk <$> x)
    (hqueries : ∀ leaf, (mk leaf).queries w = [leaf.query w]) :
    asks source missing scope (.expr name e) w = (fun leaf => [leaf.query w]) <$> x := by
  have hnamed : asks source missing scope (.expr name e) w =
      (·.toList.flatMap fun i => (i.run (.queries w)).elements) <$> (some <$>
        (do return .named ⟨name.getD e.node.text, ← agg source scope e.start e.node⟩ :
          Except QueryError Item)) →
      asks source missing scope (.expr name e) w = (fun leaf => [leaf.query w]) <$> x := by
    intro h
    rw [h, hagg]
    cases x with
    | error err => rfl
    | ok leaf =>
      show Except.ok ((mk leaf).queries w ++ []) = _
      rw [List.append_nil, hqueries]
      rfl
  by_cases hplain : (scope.grouping.isNone && name.isNone) = true
  · rcases hbare with hbare | hbare
    · rw [asks, nodeItem, item, if_pos hplain, hbare]
      cases x <;> rfl
    · refine hnamed ?_
      rw [asks, nodeItem, item, if_pos hplain, hbare]
      rfl
  · refine hnamed ?_
    rw [asks, nodeItem, item, if_neg hplain]

/-- All statements that show a bare event ask for the series of its leaf. -/
theorem asks_of_shows {e : Located Expr} (he : e.node.isBare = true) {s : Statement}
    (hs : s.Shows e) {w : Window} (hstart : Time.fits w.start = true)
    (hstop : Time.fits w.stop = true) :
    asks source missing scope s w =
      (fun leaf => (leaf.map (·.query w)).toList) <$> bareLeaf source scope e.start e.node := by
  obtain ⟨x, hbare, hagg⟩ := exists_of_isBare source scope e.start e.node he
  have hleaf : (fun leaf => [leaf.query w]) <$> x = (fun leaf : Option Leaf =>
      (leaf.map (·.query w)).toList) <$> bareLeaf source scope e.start e.node := by
    rw [hbare]
    cases x <;> rfl
  rw [← hleaf]
  cases hs with
  | plain name => exact asks_expr (.inl hbare) hagg fun _ => rfl
  | called name start hkind =>
    obtain ⟨mk, hcall, hqueries⟩ := exists_agg_call start hkind hbare hagg
    exact asks_expr (.inr rfl) hcall fun leaf => hqueries leaf w hstart hstop

theorem exists_of_items : ∀ {body : List (Located Statement)} {is : List Item},
    items source missing scope body = .ok is →
      ∃ os, List.Forall₂ (fun s o => nodeItem source missing scope s.node = .ok o) body os ∧
        is = os.flatMap Option.toList
  | [], _, h => ⟨[], .nil, (Except.ok.inj h).symm⟩
  | s :: rest, _, h => by
    obtain ⟨first, hfirst, h⟩ := bind_eq_ok.mp h
    obtain ⟨more, hmore, h⟩ := bind_eq_ok.mp h
    obtain ⟨os, hos, rfl⟩ := exists_of_items hmore
    exact ⟨first :: os, .cons hfirst hos, (Except.ok.inj h).symm⟩

/-- A block asks for what its statements ask for. -/
theorem queries_perm {outer inner : Scope} {body : List (Located Statement)}
    {ns : List (Node Float)} (hinner : outer.inside source body = .ok inner)
    (h : nodes source missing outer body = .ok ns) (w : Window) :
    ∃ qss, List.Forall₂ (fun s qs => asks source missing inner s.node w = .ok qs) body qss ∧
      (Node.queriesOf ns w).Perm qss.flatten := by
  obtain ⟨inner', hinner', h⟩ := bind_eq_ok.mp h
  obtain rfl := Except.ok.inj (hinner.symm.trans hinner')
  obtain ⟨is, his, h⟩ := bind_eq_ok.mp h
  obtain ⟨os, hos, rfl⟩ := exists_of_items his
  let elements (o : Option Item) : List ScanQuery :=
    o.toList.flatMap fun i => (i.run (.queries w)).elements
  refine ⟨os.map elements, List.forall₂_map_right_iff.mpr (hos.imp fun s o ho => ?_), ?_⟩
  · rw [asks, ho]
    rfl
  · rw [← Except.ok.inj h, Node.queriesOf_eq_gatherOf, gatherOf_assemble]
    refine (Run.gathered_perm _).trans ?_
    rw [List.flatMap_map, List.flatMap_assoc, ← List.flatMap_def]

/-- **The two ways to compile a bare event agree. The leaf of an expression, where there is one, is
that of its aggregate, which scans with the reduction of the scope, and where there is an error it
is the same one; only bare events have a leaf, and their aggregates scan nothing else. So every
statement that shows a bare event, named or not, grouped or not, by itself or in a call, asks for
just the series of its leaf, or fails as its leaf does; and what a block asks for is what its
statements do.** -/
theorem bare_spec (source : List Char) (missing : String) (scope : Scope) (e : Located Expr) :
    (∀ leaf, bareLeaf source scope e.start e.node = .ok (some leaf) →
      agg source scope e.start e.node = .ok (.scan leaf scope.reduction)) ∧
    (∀ err, bareLeaf source scope e.start e.node = .error err →
      agg source scope e.start e.node = .error err) ∧
    (e.node.isBare = false → bareLeaf source scope e.start e.node = .ok none) ∧
    (e.node.isBare = true →
      (∀ a, agg source scope e.start e.node = .ok a →
        ∃ leaf, bareLeaf source scope e.start e.node = .ok (some leaf) ∧
          a = .scan leaf scope.reduction) ∧
      ∀ inner : Scope, inner.filter = scope.filter → inner.offset = scope.offset →
        ∀ s, Statement.Shows e s → ∀ w : Window, Time.fits w.start = true →
          Time.fits w.stop = true → asks source missing inner s w =
            (fun leaf => (leaf.map (·.query w)).toList) <$>
              bareLeaf source scope e.start e.node) ∧
    ∀ (body : List (Located Statement)) (inner : Scope) (ns : List (Node Float)),
      scope.inside source body = .ok inner → nodes source missing scope body = .ok ns →
        ∀ w, ∃ qss, List.Forall₂ (fun s qs => asks source missing inner s.node w = .ok qs) body
          qss ∧ (Node.queriesOf ns w).Perm qss.flatten := by
  refine ⟨fun _ => agg_of_bareLeaf, fun _ => agg_error_of_bareLeaf, bareLeaf_of_not_isBare e.node,
    fun he => ⟨fun _ => exists_of_agg he, fun inner hfilter hoffset s hs w hstart hstop => ?_⟩,
    fun _ _ _ hinner h w => queries_perm hinner h w⟩
  rw [asks_of_shows he hs hstart hstop, bareLeaf_congr hfilter hoffset]

/-- An event a second back below an offset of two seconds, as it is, named in a group, and in a
call. -/
theorem bare_spec_back :
    let e : Located Expr := ⟨[], .shift ⟨[], .paren ⟨[], .event "foo" []⟩⟩ (.offset (-1000))⟩
    let scope : Scope := { offset := -2000 }
    let grouped : Scope := { scope with grouping := some ⟨["size"], .max, none⟩ }
    let w : Window := ⟨10000, 12000, 1000⟩
    let leaf : Leaf := ⟨"foo", .empty, { offset := -3000 }⟩
    bareLeaf [] scope [] e.node = .ok (some leaf) ∧
      agg [] scope [] e.node = .ok (.scan leaf .sum) ∧
      (∀ s ∈ [(scope, Statement.expr none e), (grouped, .expr (some "x") e),
          (grouped, .expr none ⟨[], .call "zipavg" [e]⟩),
          (scope, .expr none ⟨[], .call "Max" [e]⟩)],
        asks [] "" s.1 s.2 w = .ok [⟨⟨7000, 9000, 1000⟩, "foo", .empty⟩]) ∧
      ∃ ns, nodes [] "" scope [⟨[], .expr none e⟩] = .ok ns ∧
        (Node.queriesOf ns w).Perm [⟨⟨7000, 9000, 1000⟩, "foo", .empty⟩] := by
  intro e scope grouped w leaf
  have hbare : bareLeaf [] scope [] e.node = .ok (some leaf) := rfl
  obtain ⟨hscan, -, -, hshown, hblock⟩ := bare_spec [] "" scope e
  have hasks (inner : Scope) (hfilter : inner.filter = scope.filter)
      (hoffset : inner.offset = scope.offset) (s : Statement) (hs : s.Shows e) :
      asks [] "" inner s w = .ok [⟨⟨7000, 9000, 1000⟩, "foo", .empty⟩] :=
    ((hshown rfl).2 inner hfilter hoffset s hs w (by decide) (by decide)).trans
      (congrArg (_ <$> ·) hbare)
  have hzip : CallKind.ofName? "zipavg" = some (.zip .avg) := by decide +kernel
  have hplain : CallKind.ofName? "Max" = some (.plain .max) := by decide +kernel
  refine ⟨hbare, hscan leaf hbare, ?_, _, rfl, ?_⟩
  · intro s hs
    simp only [List.mem_cons, List.not_mem_nil, or_false] at hs
    rcases hs with rfl | rfl | rfl | rfl
    · exact hasks scope rfl rfl _ (.plain none)
    · exact hasks grouped rfl rfl _ (.plain (some "x"))
    · exact hasks grouped rfl rfl _ (.called none [] hzip)
    · exact hasks scope rfl rfl _ (.called none [] hplain)
  · obtain ⟨qss, hqss, hperm⟩ := hblock [⟨[], .expr none e⟩] scope _ rfl rfl w
    rcases hqss with _ | ⟨hqs, ⟨⟩⟩
    obtain rfl := Except.ok.inj ((hasks scope rfl rfl _ (.plain none)).symm.trans hqs)
    exact hperm

end Scope

end SeriesQuery
