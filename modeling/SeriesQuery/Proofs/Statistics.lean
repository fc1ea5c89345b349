import SeriesQuery.Proofs.Double.Counting
import SeriesQuery.Proofs.Double.Order
import SeriesQuery.Proofs.Exact
import SeriesQuery.Proofs.Extremes

/-!
# What the reductions compute

* `Double.ascending`, `Double.descending` : doubles in order, from both ends;
* `Double.Statistics value` : the values of the five reductions on doubles, in terms of the samples
  that are not missing;
* `Reduction.reduced_spec` : new reducers compute them, and so do used ones after a reset.
-/

namespace SeriesQuery

namespace Double

open Sample (present)

/-! ## Doubles in order -/

/-- From negative infinity up. -/
def ascending : Ranking (Sample.less : Float → Float → Bool) Rank where
  rank := rank
  before_iff _ _ := decide_eq_true_iff.trans lt_iff

/-- From positive infinity down. -/
def descending : Ranking (fun x y : Float => Sample.less y x) Rankᵒᵈ := ascending.reverse

theorem descending_rank_iff {x : Float} {a : Rank} :
    descending.rank x = some (OrderDual.toDual a) ↔ rank x = some a := by
  simp only [descending, Ranking.reverse, ascending, Option.map_eq_some_iff,
    EmbeddingLike.apply_eq_iff_eq, exists_eq_right]

theorem less_of_isNaN (x y : Float) (h : Sample.isNaN x = true ∨ Sample.isNaN y = true) :
    Sample.less x y = false := by
  rcases h with hx | hy
  · exact ascending.before_of_none (rank_eq_none_iff.mpr hx) y
  · exact descending.before_of_none (Option.map_eq_none_iff.mpr (rank_eq_none_iff.mpr hy)) x

theorem rank_of_isNaN (x : Float) (h : (!Sample.isNaN x) = false) : rank x = none :=
  rank_eq_none_iff.mpr (Bool.not_eq_eq_eq_not.mp h)

theorem exists_rank {v : Float} {vs : List Float} (h : v ∈ present vs) :
    v ∈ vs ∧ ∃ b, rank v = some b := by
  obtain ⟨hmem, hnan⟩ := List.mem_filter.mp h
  refine ⟨hmem, Option.ne_none_iff_exists'.mp fun hnone => ?_⟩
  have hv : Sample.isNaN v = true := rank_eq_none_iff.mp hnone
  simp [hv] at hnan

/-- Where the minimum begins. -/
theorem ascending_posInf : ascending.rank Sample.posInf = some (place 2 0 0) := by decide +kernel

/-- Where the maximum begins. -/
theorem descending_negInf :
    descending.rank Sample.negInf = some (OrderDual.toDual (place (-2) 0 0)) := by decide +kernel

/-! ## Five values -/

/-- What the five reductions make of doubles. -/
structure Statistics (value : Reduction → List Float → Float) : Prop where
  /-- Missing samples make no difference otherwise. -/
  skips : ∀ f vs, f ≠ .count → value f (present vs) = value f vs
  /-- Doubles count up to `2 ^ 53`. -/
  count : ∀ vs, value .count vs = Sample.ofInt (min vs.length (2 ^ 53) : Nat)
  count_present : ∀ vs, value .count (present vs) =
    Sample.ofInt (min (vs.length - vs.countP Sample.isNaN) (2 ^ 53) : Nat)
  min_le : ∀ vs, ∀ v ∈ present vs, value .min vs ≤ v
  min_mem : ∀ vs, value .min vs ∈ present vs ∨ value .min vs = Sample.posInf
  min_perm : ∀ vs us, vs.Perm us → Same (value .min vs) (value .min us)
  le_max : ∀ vs, ∀ v ∈ present vs, v ≤ value .max vs
  max_mem : ∀ vs, value .max vs ∈ present vs ∨ value .max vs = Sample.negInf
  max_perm : ∀ vs us, vs.Perm us → Same (value .max vs) (value .max us)
  avg_none : ∀ vs, present vs = [] → value .avg vs = Sample.nan
  /-- The total is taken from the left, and begins with zero. -/
  avg_some : ∀ vs, present vs ≠ [] → value .avg vs =
    Sample.div ((present vs).foldl Sample.add Sample.zero) (Sample.ofInt (present vs).length)

theorem apply_skips (f : Reduction) (vs : List Float) (hf : f ≠ .count) :
    f.apply (present vs) = f.apply vs := by
  have hstart : (f.start : Reducer Float) ≠ .count := by
    cases f with
    | count => exact absurd rfl hf
    | sum | min | max | avg => nofun
  exact congrArg Prod.fst (Reducer.run_present less_of_isNaN hstart f.start.zero vs)

theorem apply_count (vs : List Float) :
    Reduction.count.apply vs = Sample.ofInt (min vs.length (2 ^ 53) : Nat) := by
  have hcount := Reducer.run_count tally_add_one 0 vs
  rw [Nat.zero_add] at hcount
  exact hcount

theorem apply_min (vs : List Float) :
    Reduction.min.apply vs = foremost Sample.less Sample.posInf vs :=
  Reducer.run_min Sample.posInf vs

theorem apply_max (vs : List Float) :
    Reduction.max.apply vs = foremost (fun x y => Sample.less y x) Sample.negInf vs :=
  Reducer.run_max Sample.negInf vs

theorem statistics_apply : Statistics Reduction.apply where
  skips := apply_skips
  count := apply_count
  count_present vs := by rw [apply_count, Sample.length_present]
  min_le vs v hv := by
    obtain ⟨hmem, b, hb⟩ := exists_rank hv
    obtain ⟨r, hr, hle⟩ := ascending.exists_rank_foremost ascending_posInf vs
    rw [apply_min]
    exact le_iff.mpr ⟨r, hr, b, hb, hle v hmem b hb⟩
  min_mem vs := by
    rw [apply_min]
    exact ascending.foremost_mem_filter ascending_posInf rank_of_isNaN vs
  min_perm vs us h := by
    obtain ⟨r, hr, -⟩ := ascending.exists_rank_foremost ascending_posInf vs
    rw [apply_min, apply_min]
    exact same_of_rank hr ((ascending.rank_foremost_perm ascending_posInf h).symm.trans hr)
  le_max vs v hv := by
    obtain ⟨hmem, b, hb⟩ := exists_rank hv
    obtain ⟨r, hr, hle⟩ := descending.exists_rank_foremost descending_negInf vs
    rw [apply_max]
    exact le_iff.mpr ⟨b, hb, r, descending_rank_iff.mp hr,
      hle v hmem (OrderDual.toDual b) (descending_rank_iff.mpr hb)⟩
  max_mem vs := by
    rw [apply_max]
    exact descending.foremost_mem_filter descending_negInf
      (fun x hx => Option.map_eq_none_iff.mpr (rank_of_isNaN x hx)) vs
  max_perm vs us h := by
    obtain ⟨r, hr, -⟩ := descending.exists_rank_foremost descending_negInf vs
    have hperm := descending.rank_foremost_perm descending_negInf h
    rw [apply_max, apply_max]
    exact same_of_rank (descending_rank_iff.mp hr)
      (descending_rank_iff.mp (hperm.symm.trans hr))
  avg_none vs h := (Reducer.run_avg Sample.zero 0 Sample.nan vs).trans (if_pos h)
  avg_some vs h := by
    have havg := (Reducer.run_avg Sample.zero 0 Sample.nan vs).trans (if_neg h)
    rw [Nat.cast_zero, zero_add] at havg
    exact havg

end Double

/-- **The five values of any samples. Missing samples show in the count alone. The minimum is at
most, and the maximum at least, every sample that is not missing; it is one of them or the infinity
it begins with, and does not depend on their order, up to the sign of a zero. The average is their
total from the left by their number, or missing. New reducers compute them, and so do reducers after
any samples and resets, once they are reset. Where numbers are exact the count is the number of
samples, however many there are.** -/
theorem Reduction.reduced_spec :
    Double.Statistics Reduction.apply ∧
    (∀ r : Reduction → Reducer Float, (∀ f, (r f).Used f) →
      Double.Statistics fun f => (r f).again) ∧
    ∀ r : Reducer Exact, r.Used .count → ∀ vs,
      r.again vs = .finite vs.length ∧
        r.again (Sample.present vs) = .finite (vs.length - vs.countP Sample.isNaN : Nat) := by
  refine ⟨Double.statistics_apply, fun r hr => ?_, fun r hr vs => ?_⟩
  · have hagain : (fun f => (r f).again) = Reduction.apply := funext fun f => (hr f).again_eq
    rw [hagain]
    exact Double.statistics_apply
  · rw [hr.again_eq, ← Sample.length_present]
    exact ⟨Exact.apply_count vs, Exact.apply_count (Sample.present vs)⟩

/-- Reducers that have seen three and NaN are reset for five samples, with both zeros among them. -/
theorem Reduction.reduced_spec_reused :
    let used (f : Reduction) : Reducer Float := ((f.start.step 1 3).2.step 2 Sample.nan).2
    let vs : List Float := [4, Sample.nan, 0, -0, 1]
    (∀ f, (used f).Used f) ∧
      (used .sum).again [4, 0, -0, 1] = (used .sum).again vs ∧
      (used .count).again vs = 5 ∧ (used .count).again [4, 0, -0, 1] = 4 ∧
      (used .min).again vs ≤ 0 ∧ (used .min).again vs = 0 ∧ (used .min).again vs.reverse = -0 ∧
      Double.Same ((used .min).again vs) ((used .min).again vs.reverse) ∧
      4 ≤ (used .max).again vs ∧ (used .max).again [Sample.nan] = Sample.negInf ∧
      (used .avg).again vs = 1.25 ∧ (used .avg).again [Sample.nan] = Sample.nan ∧
      Reducer.count.again [Exact.finite 4, .nan] = .finite 2 := by
  intro used vs
  have hused (f : Reduction) : (used f).Used f := (Reducer.Used.start.step 1 3).step 2 Sample.nan
  obtain ⟨-, hagain, hexact⟩ := Reduction.reduced_spec
  have h := hagain used hused
  have hpresent : Sample.present vs = [4, 0, -0, 1] := by decide +kernel
  have hskips : (used .sum).again [4, 0, -0, 1] = (used .sum).again vs := by
    rw [← hpresent]
    exact h.skips .sum vs (by decide)
  have hfour : (used .count).again [4, 0, -0, 1] = 4 := by
    rw [← hpresent]
    exact (h.count_present vs).trans (by decide +kernel)
  have hnone : Sample.present [(Sample.nan : Float)] = [] := by decide +kernel
  have hmax : (used .max).again [Sample.nan] = Sample.negInf := by
    refine (h.max_mem [Sample.nan]).resolve_left fun hmem => ?_
    rw [hnone] at hmem
    exact List.not_mem_nil hmem
  have hzero : (0 : Float) ∈ Sample.present vs := by
    rw [hpresent]
    exact List.mem_cons_of_mem _ List.mem_cons_self
  have htop : (4 : Float) ∈ Sample.present vs := by
    rw [hpresent]
    exact List.mem_cons_self
  have havg : (used .avg).again vs = 1.25 := by
    rw [h.avg_some vs (by rw [hpresent]; nofun), hpresent]
    decide +kernel
  exact ⟨hused, hskips, (h.count vs).trans (by decide +kernel), hfour, h.min_le vs 0 hzero,
    by decide +kernel, by decide +kernel, h.min_perm vs vs.reverse vs.reverse_perm.symm,
    h.le_max vs 4 htop, hmax, havg, h.avg_none [Sample.nan] hnone,
    (hexact .count .start [.finite 4, .nan]).1⟩

end SeriesQuery
