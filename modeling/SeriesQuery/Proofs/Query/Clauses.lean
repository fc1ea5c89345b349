import SeriesQuery.Proofs.Query.Places

/-!
# Clauses by their kinds

Of the clauses in a block each kind is read by itself: filters add up, and of the others the last
one counts. What a block compiles to depends on these three lists and on the rest of the block, not
on how they are mixed.

* `Statement.clausesOf k body`, `Statement.contents body` : the clauses of one kind, and all that is
  no clause;
* `Scope.filterOf`, `Scope.groupingOf`, `Scope.offsetOf` : what the clauses of one kind say;
* `Scope.inside_eq_ok`, `Scope.nodes_eq_ok` : the scope and the nodes of a block from these lists;
* `Scope.SameAt k` : scopes with the same value of one kind;
* `Scope.toOption_nodes_of_sameAt` : a kind that a block has clauses of comes from nowhere else;
* `Scope.toOption_nodes_of_copied` : a kind that it has no clauses of comes from the block around
  it, as if that block's clauses were its own.
-/

namespace SeriesQuery

open Text (Located)

/-! ## Kinds -/

/-- Each kind has one value in a scope. -/
inductive Clause.Kind where
  | filter
  | group
  | offset
deriving DecidableEq

def Clause.kind : Clause → Kind
  | .filter _ => .filter
  | .group _ => .group
  | .offset _ => .offset

namespace Statement

def clause? : Statement → Option Clause
  | .clause c => some c
  | _ => none

/-- The clauses of one kind that a block itself has, in their order. -/
def clausesOf (k : Clause.Kind) (body : List (Located Statement)) : List Clause :=
  (body.filterMap (·.node.clause?)).filter (·.kind = k)

theorem clausesOf_clause (k : Clause.Kind) (start : List Char) (c : Clause)
    (rest : List (Located Statement)) :
    clausesOf k (⟨start, .clause c⟩ :: rest) =
      if c.kind = k then c :: clausesOf k rest else clausesOf k rest := by
  have hcons : clausesOf k (⟨start, .clause c⟩ :: rest) =
      (c :: rest.filterMap (·.node.clause?)).filter (·.kind = k) := rfl
  rw [hcons, List.filter_cons]
  simp only [decide_eq_true_eq]
  rfl

/-- The expressions and the blocks of a block. -/
def contents (body : List (Located Statement)) : List (Located Statement) :=
  body.filter (·.node.clause?.isNone)

end Statement

namespace Scope

open Statement

variable {source : List Char} {missing : String}

/-! ## Scopes -/

section

variable (source)

/-- All filters among `cs` together, behind the filter of those before them. -/
def filterOf (own : Option Filter) : List Clause → Except QueryError (Option Filter)
  | [] => .ok own
  | .filter labels :: cs => do
    let f ← Filter.ofLabels source labels
    filterOf (some (match own with | some g => g.and f | none => f)) cs
  | _ :: cs => filterOf own cs

/-- The last grouping among `cs`, or the one before them. -/
def groupingOf (grouping : Option Grouping) : List Clause → Except QueryError (Option Grouping)
  | [] => .ok grouping
  | .group args :: cs => do
    let g ← Grouping.ofArgs source args
    groupingOf (some g) cs
  | _ :: cs => groupingOf grouping cs

end

/-- The last offset among `cs`, or the one before them. -/
def offsetOf (offset : Int) : List Clause → Int
  | [] => offset
  | .offset ms :: cs => offsetOf ms cs
  | _ :: cs => offsetOf offset cs

/-- The walk takes clauses as they come. Each kind has its own part of the scope, so the three parts
may be computed one after another. -/
theorem withClauses_eq_ok : ∀ {scope inner : Scope} {own : Option Filter}
    (body : List (Located Statement)), withClauses source scope own body = .ok inner ↔
      ∃ f g, filterOf source own (clausesOf .filter body) = .ok f ∧
        groupingOf source scope.grouping (clausesOf .group body) = .ok g ∧
        ⟨f.getD scope.filter, g, offsetOf scope.offset (clausesOf .offset body)⟩ = inner
  | scope, _, own, [] => by
    refine ⟨fun h => ⟨own, scope.grouping, rfl, rfl, Except.ok.inj h⟩, ?_⟩
    rintro ⟨f, g, hf, hg, rfl⟩
    rw [← Except.ok.inj hf, ← Except.ok.inj hg]
    rfl
  | scope, _, own, ⟨_, .clause (.filter labels)⟩ :: rest => by
    rw [withClauses, bind_eq_ok]
    simp only [withClauses_eq_ok rest]
    constructor
    · rintro ⟨f, hf, f', g, hf', hg, hinner⟩
      exact ⟨f', g, bind_eq_ok.mpr ⟨f, hf, hf'⟩, hg, hinner⟩
    · rintro ⟨f', g, hf', hg, hinner⟩
      obtain ⟨f, hf, hf'⟩ := bind_eq_ok.mp hf'
      exact ⟨f, hf, f', g, hf', hg, hinner⟩
  | scope, _, own, ⟨_, .clause (.group args)⟩ :: rest => by
    rw [withClauses, bind_eq_ok]
    simp only [withClauses_eq_ok rest]
    constructor
    · rintro ⟨g, hg, f, g', hf, hg', hinner⟩
      exact ⟨f, g', hf, bind_eq_ok.mpr ⟨g, hg, hg'⟩, hinner⟩
    · rintro ⟨f, g', hf, hg', hinner⟩
      obtain ⟨g, hg, hg'⟩ := bind_eq_ok.mp hg'
      exact ⟨g, hg, f, g', hf, hg', hinner⟩
  | scope, _, own, ⟨_, .clause (.offset ms)⟩ :: rest =>
    @withClauses_eq_ok { scope with offset := ms } _ _ rest
  | _, _, _, ⟨_, .expr ..⟩ :: rest | _, _, _, ⟨_, .block _⟩ :: rest => withClauses_eq_ok rest

theorem inside_eq_ok {outer inner : Scope} {body : List (Located Statement)} :
    outer.inside source body = .ok inner ↔
      ∃ f g, filterOf source none (clausesOf .filter body) = .ok f ∧
        groupingOf source outer.grouping (clausesOf .group body) = .ok g ∧
        ⟨f.getD outer.filter, g, offsetOf outer.offset (clausesOf .offset body)⟩ = inner :=
  withClauses_eq_ok body

/-! ## Nodes -/

theorem items_contents (scope : Scope) (body : List (Located Statement)) :
    items source missing scope (contents body) = items source missing scope body := by
  induction body with
  | nil => rfl
  | cons s rest ih =>
    obtain ⟨start, s⟩ := s
    cases s with
    | clause c =>
      have hcons : contents (⟨start, .clause c⟩ :: rest) = contents rest := rfl
      rw [hcons, ih, items, nodeItem]
      cases items source missing scope rest <;> rfl
    | expr name e =>
      have hcons : contents (⟨start, .expr name e⟩ :: rest) =
          ⟨start, .expr name e⟩ :: contents rest := rfl
      rw [hcons, items, items, ih]
    | block body =>
      have hcons : contents (⟨start, .block body⟩ :: rest) =
          ⟨start, .block body⟩ :: contents rest := rfl
      rw [hcons, items, items, ih]

theorem nodes_eq_ok {outer : Scope} {body : List (Located Statement)} {ns : List (Node Float)} :
    nodes source missing outer body = .ok ns ↔ ∃ inner is, outer.inside source body = .ok inner ∧
      items source missing inner (contents body) = .ok is ∧ inner.assemble missing is = ns := by
  simp only [nodes, bind_eq_ok, items_contents]
  constructor
  · rintro ⟨inner, hinner, is, his, h⟩
    exact ⟨inner, is, hinner, his, Except.ok.inj h⟩
  · rintro ⟨inner, is, hinner, his, rfl⟩
    exact ⟨inner, hinner, is, his, rfl⟩

/-- Blocks with the same scope and the same contents have the same nodes. -/
theorem toOption_nodes_congr {outer outer' : Scope} {body body' : List (Located Statement)}
    (hscope : ∀ inner, outer.inside source body = .ok inner ↔
      outer'.inside source body' = .ok inner) (hcontents : contents body = contents body') :
    (nodes source missing outer body).toOption = (nodes source missing outer' body').toOption := by
  refine toOption_eq_iff.mpr fun ns => ?_
  rw [nodes_eq_ok, nodes_eq_ok, hcontents]
  simp only [hscope]

/-- A block is compiled by itself, in the scope that it stands in. -/
theorem nodeItem_block (scope : Scope) (body : List (Located Statement)) :
    nodeItem source missing scope (.block body) =
      (fun ns => some (.node (.block ns))) <$> nodes source missing scope body := by
  rw [nodeItem, nodes, map_bind]
  refine bind_congr fun inner => ?_
  rw [map_bind]
  rfl

/-! ## Kinds that a block has clauses of -/

theorem kind_of_mem_clausesOf {k : Clause.Kind} {body : List (Located Statement)} {c : Clause}
    (h : c ∈ clausesOf k body) : c.kind = k :=
  of_decide_eq_true (List.mem_filter.mp h).2

theorem exists_kind_of_cons {k : Clause.Kind} {c : Clause} {cs : List Clause}
    (hc : decide (c.kind = k) = false) (h : ∃ d ∈ c :: cs, d.kind = k) :
    ∃ d ∈ cs, d.kind = k := by
  obtain ⟨d, hd, hk⟩ := h
  rcases List.mem_cons.mp hd with rfl | hd
  · exact absurd hk (of_decide_eq_false hc)
  · exact ⟨d, hd, hk⟩

/-- A filter of the block itself is all that counts. -/
theorem isSome_of_filterOf {own f : Option Filter} : ∀ (cs : List Clause),
    filterOf source own cs = .ok f → own.isSome = true ∨ (∃ c ∈ cs, c.kind = .filter) →
      f.isSome = true
  | [], h, hsome => by
    rw [← Except.ok.inj h]
    exact hsome.resolve_right fun ⟨_, hc, _⟩ => List.not_mem_nil hc
  | .filter _ :: _, h, _ => by
    obtain ⟨_, -, h⟩ := bind_eq_ok.mp h
    exact isSome_of_filterOf _ h (.inl rfl)
  | .group _ :: cs, h, hsome | .offset _ :: cs, h, hsome =>
    isSome_of_filterOf cs h (hsome.imp_right (exists_kind_of_cons rfl))

theorem groupingOf_eq (g g' : Option Grouping) : ∀ (cs : List Clause),
    (∃ c ∈ cs, c.kind = .group) → groupingOf source g cs = groupingOf source g' cs
  | [], ⟨_, hc, _⟩ => absurd hc List.not_mem_nil
  | .group _ :: _, _ => rfl
  | .filter _ :: cs, h | .offset _ :: cs, h =>
    groupingOf_eq g g' cs (exists_kind_of_cons rfl h)

theorem offsetOf_eq (ms ms' : Int) : ∀ (cs : List Clause),
    (∃ c ∈ cs, c.kind = .offset) → offsetOf ms cs = offsetOf ms' cs
  | [], ⟨_, hc, _⟩ => absurd hc List.not_mem_nil
  | .offset _ :: _, _ => rfl
  | .filter _ :: cs, h | .group _ :: cs, h =>
    offsetOf_eq ms ms' cs (exists_kind_of_cons rfl h)

/-- The two scopes say the same of one kind. -/
def SameAt (s t : Scope) : Clause.Kind → Prop
  | .filter => s.filter = t.filter
  | .group => s.grouping = t.grouping
  | .offset => s.offset = t.offset

theorem exists_kind_of_ne_nil {k : Clause.Kind} {body : List (Located Statement)}
    (h : clausesOf k body ≠ []) : ∃ c ∈ clausesOf k body, c.kind = k := by
  obtain ⟨c, hc⟩ := List.exists_mem_of_ne_nil _ h
  exact ⟨c, hc, kind_of_mem_clausesOf hc⟩

/-- A block's scope takes from the one around it only the kinds that it has no clauses of. -/
theorem inside_of_sameAt {outer outer' : Scope} {body : List (Located Statement)}
    (h : ∀ k, clausesOf k body = [] → outer.SameAt outer' k) (inner : Scope) :
    outer.inside source body = .ok inner ↔ outer'.inside source body = .ok inner := by
  have hfilter : ∀ f, filterOf source none (clausesOf .filter body) = .ok f →
      f.getD outer.filter = f.getD outer'.filter := by
    intro f hf
    by_cases hnil : clausesOf .filter body = []
    · rw [h .filter hnil]
    · obtain ⟨g, rfl⟩ := Option.isSome_iff_exists.mp
        (isSome_of_filterOf _ hf (.inr (exists_kind_of_ne_nil hnil)))
      rfl
  have hgrouping : groupingOf source outer.grouping (clausesOf .group body) =
      groupingOf source outer'.grouping (clausesOf .group body) := by
    by_cases hnil : clausesOf .group body = []
    · rw [h .group hnil]
    · exact groupingOf_eq _ _ _ (exists_kind_of_ne_nil hnil)
  have hoffset : offsetOf outer.offset (clausesOf .offset body) =
      offsetOf outer'.offset (clausesOf .offset body) := by
    by_cases hnil : clausesOf .offset body = []
    · rw [h .offset hnil]
    · exact offsetOf_eq _ _ _ (exists_kind_of_ne_nil hnil)
  rw [inside_eq_ok, inside_eq_ok, hgrouping, hoffset]
  refine exists_congr fun f => exists_congr fun g => and_congr_right fun hf => ?_
  rw [hfilter f hf]

theorem toOption_nodes_of_sameAt {outer outer' : Scope} {body : List (Located Statement)}
    (h : ∀ k, clausesOf k body = [] → outer.SameAt outer' k) :
    (nodes source missing outer body).toOption = (nodes source missing outer' body).toOption :=
  toOption_nodes_congr (inside_of_sameAt h) rfl

/-! ## Kinds that a block has no clauses of -/

theorem groupingOf_of_groupingOf {g g' : Option Grouping} : ∀ (cs : List Clause),
    groupingOf source g cs = .ok g' → groupingOf source g' cs = .ok g'
  | [], _ => rfl
  | .group _ :: _, h => h
  | .filter _ :: cs, h | .offset _ :: cs, h => groupingOf_of_groupingOf cs h

theorem offsetOf_offsetOf (ms : Int) : ∀ cs : List Clause,
    offsetOf (offsetOf ms cs) cs = offsetOf ms cs
  | [] => rfl
  | .offset _ :: _ => rfl
  | .filter _ :: cs | .group _ :: cs => offsetOf_offsetOf ms cs

end Scope

namespace Statement

/-- `body'` is `body` with the clauses of one kind of the block `around` it put in, in their order,
anywhere among its statements. -/
structure Copied (k : Clause.Kind) (around body body' : List (Located Statement)) : Prop where
  copied : clausesOf k body' = clausesOf k around
  others : ∀ j, j ≠ k → clausesOf j body' = clausesOf j body
  contents : contents body' = contents body

end Statement

namespace Scope

open Statement

variable {source : List Char} {missing : String}

theorem inside_of_copied {outer inner : Scope} {around body body' : List (Located Statement)}
    (hinner : outer.inside source around = .ok inner) {k : Clause.Kind}
    (hnone : clausesOf k body = []) (h : Copied k around body body') (s : Scope) :
    inner.inside source body' = .ok s ↔ inner.inside source body = .ok s := by
  obtain ⟨f, g, hf, hg, rfl⟩ := inside_eq_ok.mp hinner
  rw [inside_eq_ok, inside_eq_ok]
  cases k with
  | filter =>
    rw [h.copied, h.others .group nofun, h.others .offset nofun, hnone, hf]
    have hsame : f.getD (f.getD outer.filter) = f.getD outer.filter := by cases f <;> rfl
    simp only [filterOf, Except.ok.injEq, exists_and_left, exists_eq_left', Option.getD_none,
      hsame]
  | group =>
    rw [h.copied, h.others .filter nofun, h.others .offset nofun, hnone,
      groupingOf_of_groupingOf _ hg]
    rfl
  | offset =>
    rw [h.copied, h.others .filter nofun, h.others .group nofun, hnone, offsetOf_offsetOf]
    rfl

theorem toOption_nodes_of_copied {outer inner : Scope}
    {around body body' : List (Located Statement)}
    (hinner : outer.inside source around = .ok inner) {k : Clause.Kind}
    (hnone : clausesOf k body = []) (h : Copied k around body body') :
    (nodes source missing inner body').toOption = (nodes source missing inner body).toOption :=
  toOption_nodes_congr (inside_of_copied hinner hnone h) h.contents

end Scope

end SeriesQuery
