import SeriesQuery.Proofs.Reduce
import Mathlib.Data.List.Perm.Basic
import Mathlib.Order.MinMax

/-!
# The extreme one of some samples

Minimum and maximum keep the sample that comes before all others seen so far, in one order or the
other. Some samples are equals in that order, and some are not in it.

* `Ranking before κ` : an order of samples by a rank that not all of them have;
* `foremost before acc vs` : the accumulator after some samples;
* `foremost_mem` : it is one of them, or what it was at first;
* `Ranking.min?_rank` : its rank is the least one, whichever order the samples came in.
-/

namespace SeriesQuery

variable {α κ : Type} [LinearOrder κ] {before : α → α → Bool}

/-- Samples are compared by rank; those without one compare to nothing. -/
structure Ranking (before : α → α → Bool) (κ : Type) [LinearOrder κ] where
  rank : α → Option κ
  before_iff : ∀ x y, before x y = true ↔ ∃ a ∈ rank x, ∃ b ∈ rank y, a < b

/-- The accumulator gives way to a sample that comes before it. -/
def foremost (before : α → α → Bool) (acc : α) (vs : List α) : α :=
  vs.foldl (fun acc v => if before v acc then v else acc) acc

theorem Reducer.run_min [Sample α] (acc : α) (vs : List α) :
    ((min : Reducer α).run acc vs).1 = foremost Sample.less acc vs :=
  run_eq_foldl (fun _ _ => rfl) acc vs

theorem Reducer.run_max [Sample α] (acc : α) (vs : List α) :
    ((max : Reducer α).run acc vs).1 = foremost (fun x y => Sample.less y x) acc vs :=
  run_eq_foldl (fun _ _ => rfl) acc vs

theorem foremost_cons (acc v : α) (vs : List α) :
    foremost before acc (v :: vs) = foremost before (if before v acc then v else acc) vs := rfl

theorem foremost_mem (acc : α) (vs : List α) :
    foremost before acc vs = acc ∨ foremost before acc vs ∈ vs := by
  induction vs generalizing acc with
  | nil => exact .inl rfl
  | cons v vs ih =>
    rw [foremost_cons]
    rcases ih (if before v acc then v else acc) with heq | hmem
    · rw [heq]
      split
      · exact .inr List.mem_cons_self
      · exact .inl rfl
    · exact .inr (List.mem_cons_of_mem v hmem)

namespace Ranking

variable (R : Ranking before κ)

/-- The same samples from the other end. -/
def reverse : Ranking (fun x y => before y x) κᵒᵈ where
  rank x := (R.rank x).map OrderDual.toDual
  before_iff x y := by
    rw [R.before_iff]
    constructor
    · rintro ⟨b, hb, a, ha, hlt⟩
      exact ⟨_, Option.mem_map_of_mem _ ha, _, Option.mem_map_of_mem _ hb, hlt⟩
    · rintro ⟨_, hx, _, hy, hlt⟩
      obtain ⟨a, ha, rfl⟩ := Option.map_eq_some_iff.mp hx
      obtain ⟨b, hb, rfl⟩ := Option.map_eq_some_iff.mp hy
      exact ⟨b, hb, a, ha, hlt⟩

theorem before_of_none {v : α} (hv : R.rank v = none) (acc : α) : before v acc = false := by
  rw [Bool.eq_false_iff, ne_eq, R.before_iff]
  rintro ⟨b, hb, -⟩
  exact nomatch hv.symm.trans hb

theorem before_of_some {v acc : α} {b a : κ} (hv : R.rank v = some b) (ha : R.rank acc = some a) :
    before v acc = decide (b < a) := by
  rw [Bool.eq_iff_iff, R.before_iff, decide_eq_true_iff, hv, ha]
  simp

theorem min?_rank {acc : α} {a : κ} (ha : R.rank acc = some a) (vs : List α) :
    (a :: vs.filterMap R.rank).min? = R.rank (foremost before acc vs) := by
  induction vs generalizing acc a with
  | nil => exact ha.symm
  | cons v vs ih =>
    rw [foremost_cons]
    cases hv : R.rank v with
    | none =>
      rw [R.before_of_none hv, List.filterMap_cons_none hv]
      exact ih ha
    | some b =>
      rw [R.before_of_some hv ha, List.filterMap_cons_some hv, List.min?_cons', List.foldl_cons]
      by_cases hlt : b < a
      · rw [if_pos (decide_eq_true hlt), min_eq_right hlt.le, ← List.min?_cons']
        exact ih hv
      · rw [if_neg (by simpa using hlt), min_eq_left (not_lt.mp hlt), ← List.min?_cons']
        exact ih ha

theorem exists_rank_foremost {acc : α} {a : κ} (ha : R.rank acc = some a) (vs : List α) :
    ∃ r ∈ R.rank (foremost before acc vs), ∀ v ∈ vs, ∀ b ∈ R.rank v, r ≤ b := by
  have hmin := R.min?_rank ha vs
  obtain ⟨r, hr⟩ := Option.isSome_iff_exists.mp
    (List.isSome_min?_of_mem (List.mem_cons_self (a := a) (l := vs.filterMap R.rank)))
  refine ⟨r, hmin ▸ hr, fun v hv b hb => ?_⟩
  have hmem : b ∈ a :: vs.filterMap R.rank :=
    List.mem_cons_of_mem a (List.mem_filterMap.mpr ⟨v, hv, hb⟩)
  exact (List.min?_eq_some_iff.mp hr).2 b hmem

/-- Only a sample in the order can take the place of the first accumulator. -/
theorem foremost_mem_filter {acc : α} {a : κ} (ha : R.rank acc = some a) {p : α → Bool}
    (hp : ∀ x, p x = false → R.rank x = none) (vs : List α) :
    foremost before acc vs ∈ vs.filter p ∨ foremost before acc vs = acc := by
  obtain ⟨r, hr, -⟩ := R.exists_rank_foremost ha vs
  rcases foremost_mem acc vs with heq | hmem
  · exact .inr heq
  · cases hkept : p (foremost before acc vs) with
    | true => exact .inl (List.mem_filter.mpr ⟨hmem, hkept⟩)
    | false => exact nomatch (hp _ hkept).symm.trans hr

theorem rank_foremost_perm {acc : α} {a : κ} (ha : R.rank acc = some a) {vs us : List α}
    (h : vs.Perm us) : R.rank (foremost before acc vs) = R.rank (foremost before acc us) := by
  rw [← R.min?_rank ha, ← R.min?_rank ha, List.min?_cons', List.min?_cons',
    (h.filterMap R.rank).foldl_op_eq]

end Ranking

end SeriesQuery
