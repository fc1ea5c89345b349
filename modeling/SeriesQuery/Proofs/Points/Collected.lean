import SeriesQuery.Proofs.Exact
import SeriesQuery.Proofs.Points.Merged

/-!
# Points collected one by one

Points can be merged into what is there as they arrive, or put at the end and merged when all have
arrived. Nothing is asked of the way of merging two values: what counts is that both ways merge the
values of a time from the left, in the order of arrival.

* `Points.isSorted_iff` : the test for ascending times;
* `Points.normalize_of_ascending` : ascending points are normalized already;
* `Points.normalize_foldl_mergePoint` : both ways of collecting come to the same points;
* `Points.collect_spec` : what these points are.
-/

namespace SeriesQuery

namespace Points

variable {α : Type} {f : α → α → α}

/-! ## Ascending times -/

theorem isSorted_cons_cons (p q : Point α) (ps : List (Point α)) :
    isSorted ⟨p :: q :: ps⟩ = (decide (p.time < q.time) && isSorted ⟨q :: ps⟩) := rfl

/-- Neighbours in order are enough for all to be in order. -/
theorem isSorted_iff {ps : Points α} : ps.isSorted = true ↔ ps.times.Pairwise (· < ·) := by
  obtain ⟨ps⟩ := ps
  rw [← List.isChain_iff_pairwise]
  induction ps with
  | nil => simp [isSorted, times]
  | cons p ps ih =>
    cases ps with
    | nil => simp [isSorted, times]
    | cons q qs =>
      rw [isSorted_cons_cons, Bool.and_eq_true, decide_eq_true_eq, ih, times_cons p, times_cons q,
        List.isChain_cons_cons]

/-! ## Normalizing again -/

theorem normalize_of_ascending {ps : Points α} (h : ps.times.Pairwise (· < ·)) :
    ps.normalize f = ps :=
  eq_of_mergedAt (f := f) (ascending_normalize f ps) h (mergedAt_normalize ps)

theorem normalize_normalize (f : α → α → α) (ps : Points α) :
    (ps.normalize f).normalize f = ps.normalize f :=
  normalize_of_ascending (ascending_normalize f ps)

theorem mem_times_normalize {ps : Points α} {t : Int} :
    t ∈ (ps.normalize f).times ↔ t ∈ ps.times := by
  have h := mergedAt_normalize (f := f) ps t
  rw [← not_iff_not, ← mergedAt_eq_none_iff (f := f), ← mergedAt_eq_none_iff (f := f), h]

/-! ## Two ways to collect -/

theorem foldl_push (ps : Points α) (qs : List (Point α)) :
    qs.foldl push ps = ⟨ps.toList ++ qs⟩ := by
  induction qs generalizing ps with
  | nil => simp
  | cons q qs ih =>
    rw [List.foldl_cons, ih]
    simp [push]

/-- Points with different times to begin with: whether what arrives is merged in at once or put at
the end makes no difference to what is normalized. -/
theorem normalize_foldl_mergePoint {ps : Points α} (h : ps.times.Nodup) (qs : List (Point α)) :
    (qs.foldl (mergePoint f) ps).normalize f = (qs.foldl push ps).normalize f := by
  refine eq_of_mergedAt (f := f) (ascending_normalize f _) (ascending_normalize f _) fun t => ?_
  calc ((qs.foldl (mergePoint f) ps).normalize f).mergedAt f t
      = (qs.foldl (mergePoint f) ps).mergedAt f t := mergedAt_normalize _ t
    _ = mergedAt f ⟨ps.toList ++ qs⟩ t := mergedAt_foldl_mergePoint h qs t
    _ = (qs.foldl push ps).mergedAt f t := by rw [foldl_push]
    _ = ((qs.foldl push ps).normalize f).mergedAt f t := (mergedAt_normalize _ t).symm

/-- **Collected both ways, the points are the same. Their times ascend, are those that occurred, and
each has the values that arrived for it merged from the left. Normalizing them, or any normalized
points, once more changes nothing.** -/
theorem collect_spec (f : α → α → α) {ps : Points α} (h : ps.times.Nodup)
    (qs : List (Point α)) :
    (qs.foldl (mergePoint f) ps).normalize f = (qs.foldl push ps).normalize f ∧
      ((qs.foldl push ps).normalize f).isSorted = true ∧
      ((qs.foldl push ps).normalize f).times.Pairwise (· < ·) ∧
      (∀ t, t ∈ ((qs.foldl push ps).normalize f).times ↔
        t ∈ ps.times ∨ t ∈ qs.map (·.time)) ∧
      (∀ p ∈ ((qs.foldl push ps).normalize f).toList,
        mergeAll? f (valuesAt ⟨ps.toList ++ qs⟩ p.time) = some p.value) ∧
      ∀ rs : Points α, (rs.normalize f).normalize f = rs.normalize f := by
  have hasc := ascending_normalize f (qs.foldl push ps)
  refine ⟨normalize_foldl_mergePoint h qs, isSorted_iff.mpr hasc, hasc, fun t => ?_,
    fun p hp => ?_, normalize_normalize f⟩
  · rw [mem_times_normalize, foldl_push]
    simp [times]
  · have hmerged := mergedAt_of_mem (f := f) (hasc.imp Int.ne_of_lt) hp
    rw [mergedAt_normalize, foldl_push] at hmerged
    exact hmerged

/-- Subtraction, which is neither commutative nor associative, with a time that was there before and
one that arrives three times. -/
theorem collect_spec_sub :
    ([⟨100, .finite 1⟩, ⟨300, .finite 2⟩, ⟨100, .finite 5⟩, ⟨200, .nan⟩, ⟨100, .finite 2⟩].foldl
        (mergePoint Merger.sub.merge) (⟨[⟨300, .finite 7⟩]⟩ : Points Exact)).normalize
          Merger.sub.merge =
      ([⟨100, .finite 1⟩, ⟨300, .finite 2⟩, ⟨100, .finite 5⟩, ⟨200, .nan⟩, ⟨100, .finite 2⟩].foldl
        push ⟨[⟨300, .finite 7⟩]⟩).normalize Merger.sub.merge ∧
      mergeAll? Merger.sub.merge (valuesAt (⟨[⟨300, .finite 7⟩, ⟨100, .finite 1⟩, ⟨300, .finite 2⟩,
        ⟨100, .finite 5⟩, ⟨200, .nan⟩, ⟨100, .finite 2⟩]⟩ : Points Exact) 100) =
        some (.finite (-6)) :=
  have h := @collect_spec Exact Merger.sub.merge ⟨[⟨300, .finite 7⟩]⟩ (by decide)
    [⟨100, .finite 1⟩, ⟨300, .finite 2⟩, ⟨100, .finite 5⟩, ⟨200, .nan⟩, ⟨100, .finite 2⟩]
  ⟨h.1, by decide +kernel⟩

end Points

end SeriesQuery
