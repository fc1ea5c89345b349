import SeriesQuery.Proofs.Query.Clauses

/-!
# Blocks inside of blocks

A block is compiled in the scope of the clauses around it, and what it compiles to stands as one
node where the block stands. So nothing else around a block depends on what is in it.

* `Frame`, `Frame.enclose` : the statements around a block, one frame for each block around it;
* `Slot`, `Slot.enclose` : the nodes around a block's nodes;
* `Scope.within` : the scope that a block stands in;
* `Scope.nodes_around_eq_ok`, `Scope.exists_slots` : the nodes of an enclosing block are a slot with
  the nodes of the enclosed one in it, whichever that is;
* `Statement.Rearranged`, `Scope.hoisted_spec` : clauses may stand anywhere in their block;
* `Scope.local_spec` : what a block takes from the blocks around it, and that it gives them nothing.
-/

namespace SeriesQuery

open Text (Located)

/-! ## Frames and slots -/

/-- A block but for one block in it. -/
structure Frame where
  before : List (Located Statement)
  start : List Char
  after : List (Located Statement)

namespace Frame

/-- The block with `body` as the block in it. -/
def around (f : Frame) (body : List (Located Statement)) : List (Located Statement) :=
  f.before ++ ⟨f.start, .block body⟩ :: f.after

/-- A block inside of blocks, the outermost first. -/
def enclose (fs : List Frame) (body : List (Located Statement)) : List (Located Statement) :=
  fs.foldr around body

end Frame

/-- The nodes of a block but for one block in it. -/
structure Slot where
  before : List (Node Float)
  after : List (Node Float)

namespace Slot

def around (slot : Slot) (ns : List (Node Float)) : List (Node Float) :=
  slot.before ++ .block ns :: slot.after

def enclose (slots : List Slot) (ns : List (Node Float)) : List (Node Float) :=
  slots.foldr around ns

end Slot

namespace Statement

theorem clausesOf_around (k : Clause.Kind) (f : Frame) (body : List (Located Statement)) :
    clausesOf k (f.around body) = clausesOf k f.before ++ clausesOf k f.after := by
  unfold clausesOf Frame.around
  rw [List.filterMap_append, List.filter_append]
  rfl

end Statement

namespace Scope

open Statement

variable {source : List Char} {missing : String}

/-- The scope that a block inside of `fs` stands in. -/
def within (source : List Char) : Scope → List Frame → Except QueryError Scope
  | outer, [] => .ok outer
  | outer, f :: fs => do within source (← outer.inside source (f.around [])) fs

/-! ## One block around another -/

/-- A block says nothing about the scope that it stands in. -/
theorem inside_around (outer : Scope) (f : Frame) (body body' : List (Located Statement))
    (inner : Scope) :
    outer.inside source (f.around body) = .ok inner ↔
      outer.inside source (f.around body') = .ok inner := by
  rw [inside_eq_ok, inside_eq_ok]
  simp only [clausesOf_around]

theorem items_append (scope : Scope) (xs ys : List (Located Statement)) :
    items source missing scope (xs ++ ys) = (do
      let is ← items source missing scope xs
      let js ← items source missing scope ys
      return is ++ js) := by
  induction xs with
  | nil =>
    rw [List.nil_append, items]
    cases items source missing scope ys <;> rfl
  | cons x xs ih =>
    rw [List.cons_append, items, items, ih]
    simp only [bind_assoc, pure_bind, List.append_assoc]

theorem items_around_eq_ok {scope : Scope} {f : Frame} {body : List (Located Statement)}
    {is : List Item} :
    items source missing scope (f.around body) = .ok is ↔
      ∃ xs own ys, items source missing scope f.before = .ok xs ∧
        nodes source missing scope body = .ok own ∧
        items source missing scope f.after = .ok ys ∧ xs ++ .node (.block own) :: ys = is := by
  simp only [Frame.around, items_append, items, nodeItem_block, bind_eq_ok, map_eq_ok]
  constructor
  · rintro ⟨xs, hxs, js, ⟨o, ⟨own, hown, rfl⟩, ys, hys, hjs⟩, his⟩
    rw [← Except.ok.inj hjs] at his
    exact ⟨xs, own, ys, hxs, hown, hys, Except.ok.inj his⟩
  · rintro ⟨xs, own, ys, hxs, hown, hys, rfl⟩
    exact ⟨xs, hxs, _, ⟨_, ⟨own, hown, rfl⟩, ys, hys, rfl⟩, rfl⟩

theorem nodes_around_eq_ok {outer : Scope} {f : Frame} {body : List (Located Statement)}
    {ns : List (Node Float)} :
    nodes source missing outer (f.around body) = .ok ns ↔
      ∃ inner xs own ys, outer.inside source (f.around []) = .ok inner ∧
        items source missing inner f.before = .ok xs ∧
        nodes source missing inner body = .ok own ∧
        items source missing inner f.after = .ok ys ∧
        inner.assemble missing (xs ++ .node (.block own) :: ys) = ns := by
  rw [nodes_eq_ok]
  simp only [items_contents, items_around_eq_ok, inside_around outer f body []]
  constructor
  · rintro ⟨inner, _, hinner, ⟨xs, own, ys, hxs, hown, hys, rfl⟩, hns⟩
    exact ⟨inner, xs, own, ys, hinner, hxs, hown, hys, hns⟩
  · rintro ⟨inner, xs, own, ys, hinner, hxs, hown, hys, hns⟩
    exact ⟨inner, _, hinner, ⟨xs, own, ys, hxs, hown, hys, rfl⟩, hns⟩

theorem toOption_nodes_around {outer : Scope} {f : Frame} {body body' : List (Located Statement)}
    (h : ∀ scope, (nodes source missing scope body).toOption =
      (nodes source missing scope body').toOption) :
    (nodes source missing outer (f.around body)).toOption =
      (nodes source missing outer (f.around body')).toOption := by
  refine toOption_eq_iff.mpr fun ns => ?_
  rw [nodes_around_eq_ok, nodes_around_eq_ok]
  simp only [fun scope => toOption_eq_iff.mp (h scope)]

/-! ## Slots for blocks -/

/-- The nodes before and behind one of the items do not depend on it. -/
theorem exists_slot_withGroup (g : Group Float) (xs ys : List Item) :
    ∃ slot : Slot, ∀ n, withGroup g (xs ++ .node n :: ys) = slot.before ++ n :: slot.after := by
  induction xs with
  | nil => exact ⟨⟨[], withGroup g ys⟩, fun n => rfl⟩
  | cons x xs ih =>
    cases x with
    | node m =>
      obtain ⟨slot, hslot⟩ := ih
      exact ⟨⟨m :: slot.before, slot.after⟩, fun n => congrArg (m :: ·) (hslot n)⟩
    | named m =>
      refine ⟨⟨.group g :: xs.filterMap Item.node?, ys.filterMap Item.node?⟩, fun n => ?_⟩
      rw [List.cons_append, withGroup, List.filterMap_append, List.cons_append]
      rfl

theorem exists_slot_assemble (missing : String) (scope : Scope) (xs ys : List Item) :
    ∃ slot : Slot, ∀ ns, scope.assemble missing (xs ++ .node (.block ns) :: ys) =
      slot.around ns := by
  obtain ⟨slot, hslot⟩ := exists_slot_withGroup
    (scope.group missing ((xs ++ ys).filterMap Item.named?)) xs ys
  refine ⟨slot, fun ns => ?_⟩
  have hnamed : (xs ++ .node (.block ns) :: ys).filterMap Item.named? =
      (xs ++ ys).filterMap Item.named? := by
    rw [List.filterMap_append, List.filterMap_append]
    rfl
  rw [assemble, hnamed, hslot]
  rfl

/-- Around a block that compiles there is a slot for whatever compiles in its place. -/
theorem exists_slot {outer : Scope} {f : Frame} {body : List (Located Statement)}
    {ns : List (Node Float)} (h : nodes source missing outer (f.around body) = .ok ns) :
    ∃ (inner : Scope) (slot : Slot), outer.inside source (f.around []) = .ok inner ∧
      ∀ body' ns', nodes source missing outer (f.around body') = .ok ns' ↔
        ∃ own, nodes source missing inner body' = .ok own ∧ slot.around own = ns' := by
  obtain ⟨inner, xs, -, ys, hinner, hxs, -, hys, -⟩ := nodes_around_eq_ok.mp h
  obtain ⟨slot, hslot⟩ := exists_slot_assemble missing inner xs ys
  refine ⟨inner, slot, hinner, fun body' ns' => ?_⟩
  rw [nodes_around_eq_ok, hinner]
  constructor
  · rintro ⟨inner', xs', own, ys', hinner', hxs', hown, hys', rfl⟩
    obtain rfl := Except.ok.inj hinner'
    obtain rfl := Except.ok.inj (hxs.symm.trans hxs')
    obtain rfl := Except.ok.inj (hys.symm.trans hys')
    exact ⟨own, hown, (hslot own).symm⟩
  · rintro ⟨own, hown, rfl⟩
    exact ⟨inner, xs, own, ys, rfl, hxs, hown, hys, hslot own⟩

theorem exists_slots {body : List (Located Statement)} : ∀ {fs : List Frame} {outer : Scope}
    {ns : List (Node Float)}, nodes source missing outer (Frame.enclose fs body) = .ok ns →
      ∃ inner slots, outer.within source fs = .ok inner ∧ slots.length = fs.length ∧
        ∀ body' ns', nodes source missing outer (Frame.enclose fs body') = .ok ns' ↔
          ∃ own, nodes source missing inner body' = .ok own ∧ Slot.enclose slots own = ns'
  | [], outer, _, _ => by
    refine ⟨outer, [], rfl, rfl, fun body' ns' => ⟨fun h => ⟨ns', h, rfl⟩, ?_⟩⟩
    rintro ⟨own, hown, rfl⟩
    exact hown
  | f :: fs, outer, ns, h => by
    obtain ⟨middle, slot, hmiddle, hslot⟩ := exists_slot (f := f) h
    obtain ⟨ns', hns', -⟩ := (hslot _ _).mp h
    obtain ⟨inner, slots, hinner, hlen, hslots⟩ := exists_slots hns'
    refine ⟨inner, slot :: slots, bind_eq_ok.mpr ⟨middle, hmiddle, hinner⟩,
      congrArg (· + 1) hlen, fun body' ns'' => (hslot (Frame.enclose fs body') ns'').trans ?_⟩
    simp only [hslots]
    constructor
    · rintro ⟨_, ⟨own, hown, rfl⟩, rfl⟩
      exact ⟨own, hown, rfl⟩
    · rintro ⟨own, hown, rfl⟩
      exact ⟨_, ⟨own, hown, rfl⟩, rfl⟩

end Scope

/-! ## Clauses in other places -/

namespace Statement

/-- Blocks with the same clauses of each kind and with the same contents, each in the same order,
and blocks that this is done in at any depth. -/
inductive Rearranged : List (Located Statement) → List (Located Statement) → Prop where
  | here {body body' : List (Located Statement)}
      (hclauses : ∀ k, clausesOf k body = clausesOf k body')
      (hcontents : contents body = contents body') : Rearranged body body'
  | inside (f : Frame) {body body' : List (Located Statement)} (h : Rearranged body body') :
      Rearranged (f.around body) (f.around body')
  | trans {body body' body'' : List (Located Statement)} (h : Rearranged body body')
      (h' : Rearranged body' body'') : Rearranged body body''

theorem Rearranged.toOption_nodes {source : List Char} {missing : String}
    {body body' : List (Located Statement)} (h : Rearranged body body') (outer : Scope) :
    (Scope.nodes source missing outer body).toOption =
      (Scope.nodes source missing outer body').toOption := by
  induction h generalizing outer with
  | here hclauses hcontents =>
    refine Scope.toOption_nodes_congr (fun inner => ?_) hcontents
    rw [Scope.inside_eq_ok, Scope.inside_eq_ok, hclauses, hclauses, hclauses]
  | inside f _ ih => exact Scope.toOption_nodes_around ih
  | trans _ _ ih ih' => exact (ih outer).trans (ih' outer)

theorem clausesOf_unplacedAll (k : Clause.Kind) (body : List (Located Statement)) :
    clausesOf k (unplacedAll body) = (clausesOf k body).map Clause.unplaced := by
  induction body with
  | nil => rfl
  | cons s rest ih =>
    obtain ⟨start, s⟩ := s
    cases s with
    | clause c =>
      have hkind : c.unplaced.kind = c.kind := by cases c <;> rfl
      rw [unplacedAll, unplaced, clausesOf_clause, clausesOf_clause, hkind, ih]
      split <;> rfl
    | expr name e => exact ih
    | block body => exact ih

end Statement

namespace Scope

open Statement

variable {source : List Char} {missing : String}

/-- **Clauses are hoisted. Take two blocks, read from any texts, that differ only in where their
clauses stand, in themselves and in blocks at any depth: each has the same clauses of each kind in
the same order, and the same expressions and blocks in the same order. Then in every scope one of
them compiles if and only if the other does, and to the same nodes.** -/
theorem hoisted_spec {body body' : List (Located Statement)}
    (h : Rearranged (unplacedAll body) (unplacedAll body')) (source source' : List Char)
    (missing : String) (outer : Scope) (ns : List (Node Float)) :
    nodes source missing outer body = .ok ns ↔ nodes source' missing outer body' = .ok ns := by
  refine toOption_eq_iff.mp ?_ ns
  rw [toOption_nodes, h.toOption_nodes, ← toOption_nodes]

/-- Two filters, one of them moved to the front, around a block with a grouping behind its event. -/
theorem hoisted_spec_nested :
    let event (name : String) : Located Statement := ⟨[], .expr none ⟨[], .event name []⟩⟩
    let filter (label value : String) : Located Statement :=
      ⟨[], .clause (.filter [⟨label, [⟨[], .value value⟩]⟩])⟩
    let group : Located Statement := ⟨[], .clause (.group { labels := ["size"] })⟩
    let body : List (Located Statement) := [event "foo", filter "color" "blue",
      ⟨[], .block [event "bar", group]⟩, filter "shape" "round"]
    let body' : List (Located Statement) := [filter "color" "blue", event "foo",
      filter "shape" "round", ⟨[], .block [group, event "bar"]⟩]
    Rearranged (unplacedAll body) (unplacedAll body') ∧ ∃ ns : List (Node Float),
      nodes [] "" {} body = .ok ns ∧ nodes [] "" {} body' = .ok ns := by
  intro event filter group body body'
  have h : Rearranged (unplacedAll body) (unplacedAll body') := by
    have hinner : Rearranged [event "bar", group] [group, event "bar"] :=
      .here (fun k => by cases k <;> rfl) rfl
    have houter : Rearranged (unplacedAll body) [filter "color" "blue", event "foo",
        filter "shape" "round", ⟨[], .block [event "bar", group]⟩] :=
      .here (fun k => by cases k <;> rfl) rfl
    exact houter.trans
      (hinner.inside ⟨[filter "color" "blue", event "foo", filter "shape" "round"], [], []⟩)
  have hcompiles : (nodes [] "" {} body).toOption.any (fun _ => true) = true := by decide +kernel
  obtain ⟨ns, hns, -⟩ := exists_of_toOption_any hcompiles
  exact ⟨h, ns, hns, (hoisted_spec h [] [] "" {} ns).mp hns⟩

/-! ## Scopes of blocks -/

theorem exists_of_within_append {outer inner : Scope} {fs : List Frame} {f : Frame}
    (h : outer.within source (fs ++ [f]) = .ok inner) :
    ∃ middle, outer.within source fs = .ok middle ∧
      middle.inside source (f.around []) = .ok inner := by
  induction fs generalizing outer with
  | nil =>
    obtain ⟨inner', hinner', h⟩ := bind_eq_ok.mp h
    exact ⟨outer, rfl, (Except.ok.inj h) ▸ hinner'⟩
  | cons g fs ih =>
    obtain ⟨next, hnext, h⟩ := bind_eq_ok.mp h
    obtain ⟨middle, hmiddle, hinner⟩ := ih h
    exact ⟨middle, bind_eq_ok.mpr ⟨next, hnext, hmiddle⟩, hinner⟩

theorem nodes_iff_of_unplaced (source source' : List Char) {outer : Scope}
    {body body' : List (Located Statement)} {ns : List (Node Float)}
    (h : unplacedAll body = unplacedAll body') :
    nodes source missing outer body = .ok ns ↔ nodes source' missing outer body' = .ok ns :=
  ⟨fun hns => nodes_of_unplaced hns h.symm, fun hns => nodes_of_unplaced hns h⟩

/-- What holds of the block `body` inside of the blocks `fs` and `f`, where `f` is the innermost one
and `inner` is the scope of its clauses. -/
structure Standing (source : List Char) (missing : String) (outer : Scope) (fs : List Frame)
    (f : Frame) (body : List (Located Statement)) (inner : Scope) : Prop where
  /-- Around it there are slots for its nodes, and for those of any other block in its place. -/
  placed : ∀ ns, nodes source missing outer (Frame.enclose (fs ++ [f]) body) = .ok ns →
    ∃ slots : List Slot, slots.length = (fs ++ [f]).length ∧
      ∀ (source' : List Char) (program body' : List (Located Statement)),
        unplacedAll program = unplacedAll (Frame.enclose (fs ++ [f]) body') →
          ∀ ns', nodes source' missing outer program = .ok ns' ↔
            ∃ own, nodes source' missing inner body' = .ok own ∧ Slot.enclose slots own = ns'
  /-- Of the scope around it only the kinds count that it has no clauses of. -/
  overridden : ∀ scope : Scope, (∀ k, clausesOf k body = [] → scope.SameAt inner k) →
    ∀ own, nodes source missing scope body = .ok own ↔ nodes source missing inner body = .ok own
  /-- For a kind that it has no clauses of, those of the block around it may be copied into it. -/
  inherited : ∀ k, clausesOf k body = [] →
    ∀ (source' : List Char) (body' : List (Located Statement)),
      Copied k (unplacedAll (f.around body)) (unplacedAll body) (unplacedAll body') →
        ∀ own, nodes source' missing inner body' = .ok own ↔
          nodes source missing inner body = .ok own

/-- **Clauses are local. A block at any depth stands in the scope of the clauses around it. If all
compiles, its nodes have one place among those of the enclosing blocks: whatever is put in the
block's place, with the clauses in it, the nodes of the enclosing blocks stay as they are. For the
kinds that the block has clauses of, the scope around it does not matter; for a kind that it has
none of, it compiles as it would with all clauses of this kind of the block directly around it.** -/
theorem local_spec {outer inner : Scope} {fs : List Frame} {f : Frame}
    (hinner : outer.within source (fs ++ [f]) = .ok inner) (missing : String)
    (body : List (Located Statement)) : Standing source missing outer fs f body inner := by
  refine ⟨fun ns h => ?_, fun scope hscope => toOption_eq_iff.mp (toOption_nodes_of_sameAt hscope),
    fun k hnone source' body' hcopied => toOption_eq_iff.mp ?_⟩
  · obtain ⟨inner', slots, hinner', hlen, hslots⟩ := exists_slots h
    obtain rfl := Except.ok.inj (hinner.symm.trans hinner')
    refine ⟨slots, hlen, fun source' program body' hprogram ns' => ?_⟩
    rw [nodes_iff_of_unplaced source' source hprogram, hslots]
    refine exists_congr fun own => and_congr_left fun _ => ?_
    exact nodes_iff_of_unplaced source source' rfl
  · obtain ⟨middle, -, hmiddle⟩ := exists_of_within_append hinner
    have haround : middle.inside [] (unplacedAll (f.around body)) = .ok inner :=
      eq_ok_of_toOption (toOption_inside middle _)
        ((inside_around middle f [] body inner).mp hmiddle)
    have hnone' : clausesOf k (unplacedAll body) = [] := by
      rw [clausesOf_unplacedAll, hnone, List.map_nil]
    calc (nodes source' missing inner body').toOption
      _ = (nodes [] missing inner (unplacedAll body')).toOption := toOption_nodes ..
      _ = (nodes [] missing inner (unplacedAll body)).toOption :=
        toOption_nodes_of_copied haround hnone' hcopied
      _ = (nodes source missing inner body).toOption := (toOption_nodes ..).symm

/-- A block with a filter of its own, in a block with an offset, in one with a filter and a
grouping. -/
theorem local_spec_two_deep :
    let event (name : String) : Located Statement := ⟨[], .expr none ⟨[], .event name []⟩⟩
    let filter (value : String) : Located Statement :=
      ⟨[], .clause (.filter [⟨"color", [⟨[], .value value⟩]⟩])⟩
    let group : Located Statement := ⟨[], .clause (.group { labels := ["size"] })⟩
    let offset : Located Statement := ⟨[], .clause (.offset (-3600000))⟩
    let body : List (Located Statement) := [filter "red", event "foo"]
    let f : Frame := ⟨[event "bar", offset], [], []⟩
    let g : Frame := ⟨[filter "blue", group], [], [event "baz"]⟩
    ∃ inner ns, within [] {} [g, f] = .ok inner ∧ inner.offset = -3600000 ∧
      nodes [] "" {} (Frame.enclose [g, f] body) = .ok ns ∧
      Standing [] "" {} [g] f body inner := by
  intro event filter group offset body f g
  have hscope : (within [] {} [g, f]).toOption.any (·.offset = -3600000) = true := by
    decide +kernel
  have hcompiles : (nodes [] "" {} (Frame.enclose [g, f] body)).toOption.any (fun _ => true) =
      true := by decide +kernel
  obtain ⟨inner, hinner, hoffset⟩ := exists_of_toOption_any hscope
  obtain ⟨ns, hns, -⟩ := exists_of_toOption_any hcompiles
  have hwithin : within [] {} ([g] ++ [f]) = .ok inner := hinner
  exact ⟨inner, ns, hinner, of_decide_eq_true hoffset, hns, local_spec hwithin "" body⟩

end Scope

end SeriesQuery
