import SeriesQuery.Proofs.Reduce
import SeriesQuery.Proofs.Windows
import SeriesQuery.Query.Tree

/-!
# Leaves of an aggregate

Windows are composed on the way down a tree, once for the requests and once for the values. Both
end at the same leaves with the same windows.

* `Site` : a leaf with the window it is reached with; `Site.own` is the window it reads;
* `Agg.sites a w` : the leaves of `a` over `w`, in tree order;
* `Agg.queries_eq` : they are what is asked for;
* `Site.values_eq` : the samples of a leaf;
* `Agg.assemble samples a w` : the value of an aggregate whose leaves have given samples;
* `Agg.evaluate_eq_assemble` : so these samples are all that a value depends on
  (`Agg.evaluate_congr_leaves`), through the series that the leaves take (`Agg.evaluate_congr`);
* `Leaf.fit?_eq_none_iff`, `Leaf.select_of_length_eq` : which series a leaf takes;
* `Shift.fits`, `Agg.fits` : no time on the way to a leaf leaves 64 bits, so that all windows keep
  their length (`Agg.length_of_mem_sites`).
-/

namespace SeriesQuery

variable {α : Type}

/-- A leaf and the window that its aggregate is evaluated over. -/
structure Site where
  leaf : Leaf
  reduction : Reduction
  window : Window

namespace Site

/-- The window that the leaf reads. -/
def own (site : Site) : Window := site.leaf.window site.window

def query (site : Site) : ScanQuery := site.leaf.query site.window

/-- The series that the leaf takes. -/
def select (site : Site) (xs : List (Series α)) : List (Series α) := site.leaf.select site.window xs

/-- What the leaf computes. -/
def series [Sample α] (site : Site) (xs : List (Series α)) : Series α :=
  Agg.evaluateLeaf site.leaf site.reduction site.window xs

/-- The samples of the leaf. -/
def values [Sample α] (site : Site) (xs : List (Series α)) : List α :=
  (Agg.evaluateLeaf site.leaf site.reduction site.window xs).points.values

end Site

namespace Agg

/-! ## Sites -/

mutual

def sites : Agg α → Window → List Site
  | .scan leaf f, w => [⟨leaf, f, w⟩]
  | .zip parts _ shift, w => sitesOf parts (shift.apply w)
  | .collapse part _, w => part.sites w
  | .op x y _, w => x.sites w ++ y.sites w
  | .value .., _ => []

def sitesOf : List (Agg α) → Window → List Site
  | [], _ => []
  | part :: parts, w => part.sites w ++ sitesOf parts w

end

mutual

theorem queries_eq : ∀ (a : Agg α) (w : Window), a.queries w = (a.sites w).map Site.query
  | .scan .., _ => rfl
  | .zip parts _ shift, w => queriesOf_eq parts (shift.apply w)
  | .collapse part _, w => queries_eq part w
  | .op x y _, w => by
    rw [queries, sites, List.map_append, queries_eq x w, queries_eq y w]
  | .value .., _ => rfl

theorem queriesOf_eq : ∀ (parts : List (Agg α)) (w : Window),
    queriesOf parts w = (sitesOf parts w).map Site.query
  | [], _ => rfl
  | part :: parts, w => by
    rw [queriesOf, sitesOf, List.map_append, queries_eq part w, queriesOf_eq parts w]

end

mutual

theorem accepts_of_mem_sites : ∀ (a : Agg α) (w : Window), ∀ site ∈ a.sites w, ∀ s : Series α,
    site.leaf.accepts s = true → a.accepts s = true
  | .scan leaf f, w, site, h, s, hs => by
    rw [sites, List.mem_singleton] at h
    subst h
    exact hs
  | .zip parts _ shift, w, site, h, s, hs => anyAccepts_of_mem_sitesOf parts _ site h s hs
  | .collapse part _, w, site, h, s, hs => accepts_of_mem_sites part w site h s hs
  | .op x y _, w, site, h, s, hs => by
    rw [accepts, Bool.or_eq_true]
    exact (List.mem_append.mp h).imp (accepts_of_mem_sites x w site · s hs)
      (accepts_of_mem_sites y w site · s hs)
  | .value .., _, _, h, _, _ => nomatch h

theorem anyAccepts_of_mem_sitesOf : ∀ (parts : List (Agg α)) (w : Window),
    ∀ site ∈ sitesOf parts w, ∀ s : Series α, site.leaf.accepts s = true → anyAccepts parts s = true
  | [], _, _, h, _, _ => nomatch h
  | part :: parts, w, site, h, s, hs => by
    rw [anyAccepts, Bool.or_eq_true]
    exact (List.mem_append.mp h).imp (accepts_of_mem_sites part w site · s hs)
      (anyAccepts_of_mem_sitesOf parts w site · s hs)

end

/-! ## Reduced columns -/

section Columns

variable [Sample α]

/-- One sample for each column, as if each had a reducer of its own. -/
theorem points_reduceOver (f : Reduction) (name : String) (w : Window) (columns : List (List α)) :
    (reduceOver f name w columns).points = .ofValues w (columns.map f.apply) :=
  congrArg (Points.ofValues w) (Reducer.runEach_start f columns)

theorem evaluateLeaf_congr {leaf : Leaf} {f : Reduction} {w : Window} {xs ys : List (Series α)}
    (h : leaf.select w xs = leaf.select w ys) :
    evaluateLeaf leaf f w xs = evaluateLeaf leaf f w ys := by
  unfold evaluateLeaf
  rw [h]

end Columns

end Agg

/-! ## Samples of a leaf -/

theorem Points.values_ofValues {w : Window} {vs : List α} (h : vs.length ≤ w.times.length) :
    (ofValues w vs).values = vs := by
  have hsnd := List.map_snd_zip h
  rw [List.zip, List.map_zipWith] at hsnd
  rw [values, ofValues, List.map_zipWith]
  exact hsnd

namespace Site

variable [Sample α]

/-- At each sample time the values of all taken series, reduced. -/
theorem points_evaluateLeaf (site : Site) (xs : List (Series α)) :
    (Agg.evaluateLeaf site.leaf site.reduction site.window xs).points =
      .ofValues site.own (site.own.times.map fun t =>
        site.reduction.apply ((site.select xs).map (·.points.valueAt t))) := by
  refine (Agg.points_reduceOver site.reduction site.leaf.event site.own _).trans ?_
  rw [List.map_map]
  rfl

theorem series_eq (site : Site) (xs : List (Series α)) :
    site.series xs = ⟨site.leaf.event, .empty, site.own, .ofValues site.own
      (site.own.times.map fun t =>
        site.reduction.apply ((site.select xs).map (·.points.valueAt t)))⟩ :=
  congrArg (Series.mk site.leaf.event .empty site.own) (site.points_evaluateLeaf xs)

theorem values_eq (site : Site) (xs : List (Series α)) :
    site.values xs =
      site.own.times.map fun t =>
        site.reduction.apply ((site.select xs).map (·.points.valueAt t)) := by
  rw [values, points_evaluateLeaf]
  exact Points.values_ofValues (Nat.le_of_eq (List.length_map _))

theorem points_eq (site : Site) (xs : List (Series α)) :
    (Agg.evaluateLeaf site.leaf site.reduction site.window xs).points =
      .ofValues site.own (site.values xs) := by
  rw [points_evaluateLeaf, values_eq]

end Site

namespace Agg

variable [Sample α]

/-! ## Values put together from samples -/

mutual

/-- The value of an aggregate whose leaves have the given samples. -/
def assemble (samples : Site → List α) : Agg α → Window → Except QueryError (Series α)
  | .scan leaf f, w =>
    let own := leaf.window w
    .ok ⟨leaf.event, .empty, own, .ofValues own (samples ⟨leaf, f, w⟩)⟩
  | .zip [only] _ shift, w => only.assemble samples (shift.apply w)
  | .zip parts f shift, w => do
    return evaluateZip f (shift.apply w) (← assembleAll samples parts (shift.apply w))
  | .collapse part f, w => do
    return evaluateCollapse f (← part.assemble samples w)
  | .op x y f, w => do
    let x ← x.assemble samples w
    let y ← y.assemble samples w
    evaluateOp f x y
  | .value v shift, w =>
    let own := shift.apply w
    .ok ⟨"", .empty, own, .blank own v⟩

def assembleAll (samples : Site → List α) :
    List (Agg α) → Window → Except QueryError (List (Series α))
  | [], _ => .ok []
  | part :: parts, w => do
    let s ← part.assemble samples w
    let ss ← assembleAll samples parts w
    return s :: ss

end

theorem evaluate_zip_many (p q : Agg α) (ps : List (Agg α)) (f : Reduction) (shift : Shift)
    (w : Window) (xs : List (Series α)) :
    (zip (p :: q :: ps) f shift).evaluate w xs =
      (evaluateAll (p :: q :: ps) (shift.apply w) xs >>= fun ss =>
        .ok (evaluateZip f (shift.apply w) ss)) := rfl

section

variable {samples : Site → List α} {xs : List (Series α)}

mutual

/-- Nothing else is read of the series than the samples of the leaves. -/
theorem evaluate_eq_assemble : ∀ (a : Agg α) (w : Window),
    (∀ site ∈ a.sites w, samples site = site.values xs) → a.evaluate w xs = a.assemble samples w
  | .scan leaf f, w, h => by
    have hleaf : samples ⟨leaf, f, w⟩ = Site.values ⟨leaf, f, w⟩ xs :=
      h ⟨leaf, f, w⟩ (List.mem_singleton_self _)
    rw [evaluate, assemble, hleaf]
    exact congrArg (fun ps => Except.ok (Series.mk leaf.event .empty (leaf.window w) ps))
      (Site.points_eq ⟨leaf, f, w⟩ xs)
  | .zip [] _ _, _, _ => rfl
  | .zip [only] _ shift, w, h => by
    refine evaluate_eq_assemble only (shift.apply w) fun site hs => h site ?_
    rwa [sites, sitesOf, sitesOf, List.append_nil]
  | .zip (p :: q :: ps) f shift, w, h => by
    rw [evaluate_zip_many, evaluateAll_eq_assembleAll (p :: q :: ps) (shift.apply w) h]
    rfl
  | .collapse part f, w, h => by
    rw [evaluate, assemble, evaluate_eq_assemble part w h]
  | .op x y f, w, h => by
    rw [evaluate, assemble,
      evaluate_eq_assemble x w fun site hs => h site (List.mem_append_left _ hs),
      evaluate_eq_assemble y w fun site hs => h site (List.mem_append_right _ hs)]
  | .value v shift, w, _ => by rw [evaluate, assemble]

theorem evaluateAll_eq_assembleAll : ∀ (parts : List (Agg α)) (w : Window),
    (∀ site ∈ sitesOf parts w, samples site = site.values xs) →
      evaluateAll parts w xs = assembleAll samples parts w
  | [], _, _ => rfl
  | part :: parts, w, h => by
    rw [evaluateAll, assembleAll,
      evaluate_eq_assemble part w fun site hs => h site (List.mem_append_left _ hs),
      evaluateAll_eq_assembleAll parts w fun site hs => h site (List.mem_append_right _ hs)]

end

end

/-- Lists from which every leaf computes the same make no difference. -/
theorem evaluate_congr_leaves (a : Agg α) (w : Window) (xs ys : List (Series α))
    (h : ∀ site ∈ a.sites w, site.series xs = site.series ys) :
    a.evaluate w xs = a.evaluate w ys := by
  have hvalues : ∀ site ∈ a.sites w, site.values ys = site.values xs := fun site hs =>
    congrArg (·.points.values) (h site hs).symm
  rw [a.evaluate_eq_assemble w hvalues, a.evaluate_eq_assemble w fun _ _ => rfl]

/-- Lists from which every leaf takes the same series make no difference. -/
theorem evaluate_congr (a : Agg α) (w : Window) (xs ys : List (Series α))
    (h : ∀ site ∈ a.sites w, site.select xs = site.select ys) : a.evaluate w xs = a.evaluate w ys :=
  a.evaluate_congr_leaves w xs ys fun site hs => evaluateLeaf_congr (h site hs)

end Agg

/-! ## Lengths -/

/-- The moved window stays within 64 bits. -/
def Shift.fits (s : Shift) (w : Window) : Bool :=
  Time.fits (w.start + s.offset) && Time.fits (w.stop + s.offset)

theorem Shift.length_apply {s : Shift} {w : Window} (h : s.fits w = true) :
    (s.apply w).length = w.length := by
  unfold fits at h
  rw [Bool.and_eq_true] at h
  have hshift : (w.shift s.offset).length = w.length := by
    unfold Window.length Window.shift
    dsimp only
    rw [Time.saturate_of_fits h.1, Time.saturate_of_fits h.2]
    omega
  unfold apply
  split
  · exact hshift
  · exact hshift

namespace Agg

mutual

/-- No window on the way to a leaf leaves 64 bits. -/
def fits : Agg α → Window → Bool
  | .scan leaf _, w => leaf.shift.fits w
  | .zip parts _ shift, w => shift.fits w && allFit parts (shift.apply w)
  | .collapse part _, w => part.fits w
  | .op x y _, w => x.fits w && y.fits w
  | .value .., _ => true

def allFit : List (Agg α) → Window → Bool
  | [], _ => true
  | part :: parts, w => part.fits w && allFit parts w

end

mutual

theorem length_of_mem_sites : ∀ (a : Agg α) (w : Window), a.fits w = true →
    ∀ site ∈ a.sites w, site.own.length = w.length
  | .scan leaf f, w, h, site, hs => by
    rw [sites, List.mem_singleton] at hs
    subst hs
    exact Shift.length_apply h
  | .zip parts _ shift, w, h, site, hs => by
    obtain ⟨hshift, hparts⟩ := (Bool.and_eq_true _ _).mp h
    rw [length_of_mem_sitesOf parts (shift.apply w) hparts site hs, Shift.length_apply hshift]
  | .collapse part _, w, h, site, hs => length_of_mem_sites part w h site hs
  | .op x y _, w, h, site, hs => by
    obtain ⟨hx, hy⟩ := (Bool.and_eq_true _ _).mp h
    exact (List.mem_append.mp hs).elim (length_of_mem_sites x w hx site)
      (length_of_mem_sites y w hy site)
  | .value .., _, _, _, hs => nomatch hs

theorem length_of_mem_sitesOf : ∀ (parts : List (Agg α)) (w : Window), allFit parts w = true →
    ∀ site ∈ sitesOf parts w, site.own.length = w.length
  | [], _, _, _, hs => nomatch hs
  | part :: parts, w, h, site, hs => by
    obtain ⟨hpart, hparts⟩ := (Bool.and_eq_true _ _).mp h
    exact (List.mem_append.mp hs).elim (length_of_mem_sites part w hpart site)
      (length_of_mem_sitesOf parts w hparts site)

end

end Agg

/-! ## What a leaf takes -/

/-- Whether a series is passed over is seen by its window. -/
theorem Leaf.fit?_eq_none_iff {w : Window} {s : Series α} :
    fit? w s = none ↔ w.relate s.window ∉ [Relation.equal, .between, .around] := by
  unfold fit?
  cases w.relate s.window <;> simp

/-- Of series over windows of one length a leaf takes those over its own window. -/
theorem Leaf.select_of_length_eq {leaf : Leaf} {w : Window} {xs : List (Series α)}
    (h : ∀ s ∈ xs, s.window.length = (leaf.window w).length ∧ 0 < s.window.length) :
    leaf.select w xs = xs.filter fun s => leaf.accepts s && s.window = leaf.window w := by
  have hfit : ∀ s ∈ xs.filter leaf.accepts,
      fit? (leaf.window w) s = Option.guard (fun s => s.window = leaf.window w) s := by
    intro s hs
    obtain ⟨hlen, hpos⟩ := h s (List.mem_filter.mp hs).1
    unfold fit? Option.guard
    rcases Window.relate_of_length_eq hlen (hlen ▸ hpos) with ⟨heq, hr⟩ | ⟨hne, h1, h2, h3⟩
    · rw [hr, if_pos (decide_eq_true heq)]
    · rw [if_neg (by simpa using hne)]
      split
      · contradiction
      · contradiction
      · contradiction
      · rfl
  unfold select
  rw [List.filterMap_congr hfit, List.filterMap_eq_filter, List.filter_filter]
  exact List.filter_congr fun s _ => Bool.and_comm _ _

end SeriesQuery
