import SeriesQuery.Proofs.Exact
import SeriesQuery.Proofs.Points.Lookup
import SeriesQuery.Proofs.Query.Leaves

/-!
# Slices and what a leaf reads of them

A leaf takes series over its own window as they are and cuts wider ones down to it. Cutting and
looking up are done by halving. In the samples neither shows: they are made of what a reader of all
points finds.

* `Window.Bounded` : the end of the last whole step stays within 64 bits;
* `Series.slice_eq`, `Series.valueAt_slice` : what a slice holds, and that the values at the sample
  times are those of the whole series;
* `Leaf.reads`, `Leaf.values_select` : the series that count for a leaf, and their values;
* `Leaf.slice_spec` : both for the samples of an aggregated leaf.
-/

namespace SeriesQuery

variable {α : Type} {w : Window}

/-! ## The end of the last step -/

namespace Window

/-- Sampled by a positive step. Neither the whole steps nor the end of the last one leave 64
bits. -/
structure Bounded (w : Window) : Prop where
  step_pos : 0 < w.step
  span : Time.fits (w.count * w.step) = true
  stop : Time.fits (w.first + w.count * w.step) = true

instance (w : Window) : Decidable w.Bounded :=
  decidable_of_iff (0 < w.step ∧ Time.fits (w.count * w.step) = true ∧
      Time.fits (w.first + w.count * w.step) = true)
    ⟨fun ⟨hstep, hspan, hstop⟩ => ⟨hstep, hspan, hstop⟩, fun h => ⟨h.step_pos, h.span, h.stop⟩⟩

theorem NoOverflow.bounded (hw : w.NoOverflow) (h : 0 < w.step) : w.Bounded := by
  have hnonneg : 0 ≤ w.count * w.step := Int.mul_nonneg (Int.natCast_nonneg _) (Int.le_of_lt h)
  have hzero : Time.fits 0 = true := by decide
  have hle : w.first ≤ w.start := truncate_le h w.start
  by_cases hempty : w.stop ≤ w.start
  · have hcount : w.count = 0 := if_pos (Or.inr hempty)
    exact ⟨h, by simpa [hcount] using hzero, by simpa [hcount] using hw.first⟩
  · have hspan := count_mul_step_le h (by omega : w.start ≤ w.stop)
    refine ⟨h, Time.fits_of_between hzero hw.length hnonneg hspan, ?_⟩
    unfold Window.length at hspan
    exact Time.fits_of_between hw.first hw.stop (by omega) (by omega)

theorem Bounded.stop_slice (h : w.Bounded) :
    (if w.step > 0 then Time.saturate (w.first + Time.saturate (w.count * w.step)) else w.stop) =
      w.first + w.count * w.step := by
  rw [if_pos h.step_pos, Time.saturate_of_fits h.span, Time.saturate_of_fits h.stop]

end Window

/-! ## Slices -/

namespace Series

variable {x : Series α}

/-- The points from the first sample time to the end of the last step, in order. -/
theorem slice_eq (hw : w.Bounded) (hx : x.points.times.Pairwise (· < ·)) :
    x.slice w = { x with
      window := w
      points := ⟨x.points.toList.filter fun p =>
        w.first ≤ p.time && p.time < w.first + w.count * w.step⟩ } := by
  unfold slice
  simp only [hw.stop_slice]
  exact congrArg (fun ps => Series.mk x.event x.fields w ⟨ps⟩) (Points.toList_slice hx _ _)

variable [Sample α]

theorem lookup_slice (hw : w.Bounded) (hx : x.points.times.Pairwise (· < ·)) {t : Int}
    (ht : t ∈ w.times) : (x.slice w).points.lookup t = x.points.lookup t := by
  obtain ⟨hlow, hhigh⟩ := Window.mem_times_bounds ht
  unfold Points.lookup
  rw [slice_eq hw hx, List.find?_filter]
  have hsame : (fun p : Point α => decide ((decide (w.first ≤ p.time) &&
      decide (p.time < w.first + w.count * w.step)) = true ∧ decide (p.time = t) = true)) =
      fun p => decide (p.time = t) := by
    funext p
    by_cases hp : p.time = t
    · simp [hp, hlow, hhigh]
    · simp [hp]
  rw [hsame]

theorem valueAt_slice (hw : w.Bounded) (hx : x.points.times.Pairwise (· < ·)) {t : Int}
    (ht : t ∈ w.times) : (x.slice w).points.valueAt t = x.points.valueAt t := by
  have hslice : (x.slice w).points.times.Pairwise (· < ·) := by
    rw [slice_eq hw hx]
    exact hx.sublist (List.filter_sublist.map _)
  rw [Points.valueAt_eq_lookup hslice, Points.valueAt_eq_lookup hx, lookup_slice hw hx ht]

end Series

/-! ## Leaves -/

namespace Leaf

/-- The series counts: it is accepted, and its window is that of the leaf, inside it or around
it. -/
def reads (leaf : Leaf) (v : Window) (x : Series α) : Bool :=
  leaf.accepts x && (leaf.window v).relate x.window ∈ [Relation.equal, .between, .around]

variable [Sample α]

theorem map_valueAt_fit? (hw : w.Bounded) {x : Series α} (hx : x.points.times.Pairwise (· < ·))
    {t : Int} (ht : t ∈ w.times) :
    (fit? w x).map (·.points.valueAt t) =
      if w.relate x.window ∈ [Relation.equal, .between, .around] then some (x.points.lookup t)
      else none := by
  have hwhole := Points.valueAt_eq_lookup hx t
  have hslice := (Series.valueAt_slice hw hx ht).trans hwhole
  unfold fit?
  cases w.relate x.window <;> simp [hwhole, hslice]

/-- At a sample time the taken series have the values that are looked up in the series that
count. -/
theorem values_select {leaf : Leaf} {v : Window} (hw : (leaf.window v).Bounded)
    {xs : List (Series α)} (hxs : ∀ x ∈ xs, x.points.times.Pairwise (· < ·)) {t : Int}
    (ht : t ∈ (leaf.window v).times) :
    (leaf.select v xs).map (·.points.valueAt t) =
      (xs.filter (leaf.reads v)).map (·.points.lookup t) := by
  unfold select
  rw [List.map_filterMap, List.filterMap_filter, ← List.filterMap_eq_map, List.filterMap_filter]
  refine List.filterMap_congr fun x hx => ?_
  rw [map_valueAt_fit? hw (hxs x hx) ht]
  by_cases ha : leaf.accepts x = true
  · simp [reads, ha]
  · simp [reads, ha]

/-- **Narrowing is exact. A series with ascending times is cut down to its points from the first
sample time of the window to the end of its last step, and has the same values at the sample times
as before, which are those a reader of all its points finds. An aggregated leaf therefore reduces at
each of its sample times what is looked up in all series that count for it, in their order.** -/
theorem slice_spec (leaf : Leaf) (f : Reduction) {v : Window} (hw : (leaf.window v).Bounded) :
    let w := leaf.window v
    (∀ x : Series α, x.points.times.Pairwise (· < ·) →
      x.slice w = { x with
        window := w
        points := ⟨x.points.toList.filter fun p =>
          w.first ≤ p.time && p.time < w.first + w.count * w.step⟩ } ∧
      (∀ t ∈ w.times, (x.slice w).points.valueAt t = x.points.valueAt t) ∧
      ∀ t, x.points.valueAt t = x.points.lookup t) ∧
    ∀ xs : List (Series α), (∀ x ∈ xs, x.points.times.Pairwise (· < ·)) →
      (Agg.scan leaf f).evaluate v xs = .ok ⟨leaf.event, .empty, w, .ofValues w
        (w.times.map fun t => f.apply ((xs.filter (leaf.reads v)).map (·.points.lookup t)))⟩ := by
  intro w
  refine ⟨fun x hx => ⟨Series.slice_eq hw hx, fun t => Series.valueAt_slice hw hx,
    Points.valueAt_eq_lookup hx⟩, fun xs hxs => ?_⟩
  have hseries : (Agg.scan leaf f).evaluate v xs = .ok ⟨leaf.event, .empty, w, .ofValues w
      (w.times.map fun t => f.apply ((leaf.select v xs).map (·.points.valueAt t)))⟩ :=
    congrArg Except.ok (Site.series_eq ⟨leaf, f, v⟩ xs)
  have hvalues : (w.times.map fun t => f.apply ((leaf.select v xs).map (·.points.valueAt t))) =
      w.times.map fun t => f.apply ((xs.filter (leaf.reads v)).map (·.points.lookup t)) :=
    List.map_congr_left fun t ht => congrArg f.apply (values_select hw hxs ht)
  rw [hseries, hvalues]

/-- A window that begins between two boundaries, and a series around it with points before the
first sample time, between sample times and at the end of the last step. The series of another step
does not count. -/
theorem slice_spec_unaligned :
    let w : Window := ⟨50, 350, 100⟩
    let around : Series Exact := ⟨"a", .empty, ⟨0, 1000, 100⟩,
      ⟨[⟨-100, .finite 8⟩, ⟨0, .finite 1⟩, ⟨150, .finite 4⟩, ⟨200, .finite 3⟩, ⟨300, .finite 9⟩]⟩⟩
    let between : Series Exact := ⟨"a", .empty, ⟨100, 300, 100⟩,
      ⟨[⟨100, .finite 2⟩, ⟨200, .finite 5⟩]⟩⟩
    let finer : Series Exact := ⟨"a", .empty, ⟨50, 350, 50⟩, ⟨[⟨100, .finite 7⟩]⟩⟩
    around.slice w = { around with
      window := w, points := ⟨[⟨0, .finite 1⟩, ⟨150, .finite 4⟩, ⟨200, .finite 3⟩]⟩ } ∧
    (Agg.scan ⟨"a", .empty, {}⟩ .avg).evaluate w [around, between, finer] =
      .ok ⟨"a", .empty, w, ⟨[⟨0, .finite 1⟩, ⟨100, .finite 2⟩, ⟨200, .finite 4⟩]⟩⟩ := by
  intro w around between finer
  have h := slice_spec (α := Exact) ⟨"a", .empty, {}⟩ .avg (v := w) (by decide)
  refine ⟨(h.1 around (by decide)).1.trans (by decide), (h.2 _ ?_).trans ?_⟩
  · decide
  · decide +kernel

end Leaf

end SeriesQuery
