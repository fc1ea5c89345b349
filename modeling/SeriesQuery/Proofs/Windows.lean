import SeriesQuery.Window
import Mathlib.Data.List.Basic

/-!
# Windows and their sample times

* `Window.truncate_le`, `Window.lt_truncate_add` : a time lies in the step of its boundary;
* `Window.ascending_times`, `Window.mem_times_bounds`, `Window.truncate_mem_times_iff` : the sample
  times, and which times are counted at one of them;
* `Window.boundary_stop` : over whole steps the last sample's step ends at the boundary before the
  window does;
* `Window.Aligned` : from a boundary to a boundary, so that a time is in the window if its boundary
  is (`Window.Aligned.contains_truncate`);
* `Window.Within` : inside a window that is sampled alike; `Window.Within.relate` and
  `Window.within_of_relate` say how such windows are classified;
* `Window.length`, `Window.relate_of_length_eq` : of two windows of one step and one length neither
  contains the other;
* `Window.NoOverflow` : what is computed to sample the window stays within 64 bits.
-/

namespace SeriesQuery

theorem Time.fits_iff {t : Int} : Time.fits t = true ↔ Time.least ≤ t ∧ t ≤ Time.greatest := by
  simp [Time.fits]

theorem Time.fits_of_between {s t u : Int} (hs : Time.fits s = true) (hu : Time.fits u = true)
    (hst : s ≤ t) (htu : t ≤ u) : Time.fits t = true := by
  rw [Time.fits_iff] at hs hu ⊢
  omega

theorem Time.saturate_of_fits {t : Int} (h : Time.fits t = true) : Time.saturate t = t := by
  obtain ⟨hlow, hhigh⟩ := Time.fits_iff.mp h
  unfold Time.saturate
  rw [Int.min_eq_left hhigh, Int.max_eq_right hlow]

theorem Time.fits_of_checked? {t u : Int} (h : Time.checked? t = some u) :
    Time.fits u = true := by
  unfold Time.checked? at h
  split at h
  · next hfits => exact Option.some.inj h ▸ hfits
  · contradiction

namespace Window

variable {w v : Window} {t : Int}

/-! ## Boundaries -/

theorem truncate_eq (h : 0 < w.step) (t : Int) : w.truncate t = t - t % w.step := by
  rw [truncate, if_neg (Int.not_le.mpr h), Time.floorTo]

theorem truncate_le (h : 0 < w.step) (t : Int) : w.truncate t ≤ t := by
  have := Int.emod_nonneg t (Int.ne_of_gt h)
  rw [truncate_eq h]
  omega

theorem lt_truncate_add (h : 0 < w.step) (t : Int) : t < w.truncate t + w.step := by
  have := Int.emod_lt_of_pos t h
  rw [truncate_eq h]
  omega

theorem step_dvd_truncate (h : 0 < w.step) (t : Int) : w.step ∣ w.truncate t := by
  rw [truncate_eq h]
  exact Int.dvd_self_sub_emod

/-- Of multiples of the step the last one up to `t` is its boundary. -/
theorem le_truncate (h : 0 < w.step) {m : Int} (hm : w.step ∣ m) (hmt : m ≤ t) :
    m ≤ w.truncate t := by
  obtain ⟨k, rfl⟩ := hm
  obtain ⟨l, hl⟩ := step_dvd_truncate h t
  have hlt := lt_truncate_add h t
  rw [hl] at hlt ⊢
  have hkl : w.step * k < w.step * (l + 1) := by
    rw [Int.mul_add, Int.mul_one]
    omega
  have := Int.lt_of_mul_lt_mul_left hkl (Int.le_of_lt h)
  exact Int.mul_le_mul_of_nonneg_left (by omega) (Int.le_of_lt h)

theorem truncate_mono (h : 0 < w.step) {s : Int} (hst : s ≤ t) : w.truncate s ≤ w.truncate t :=
  le_truncate h (step_dvd_truncate h s) (Int.le_trans (truncate_le h s) hst)

/-! ## Sample times -/

theorem mem_times_iff : t ∈ w.times ↔ ∃ i : Nat, i < w.count ∧ w.first + i * w.step = t := by
  simp [times]

/-- Without a positive step and a positive length there is nothing to sample. -/
theorem pos_of_mem_times (ht : t ∈ w.times) : 0 < w.step ∧ w.start < w.stop := by
  obtain ⟨i, hi, -⟩ := mem_times_iff.mp ht
  unfold count at hi
  split at hi
  · omega
  · omega

theorem mem_times_bounds (ht : t ∈ w.times) :
    w.first ≤ t ∧ t < w.first + w.count * w.step := by
  obtain ⟨hstep, -⟩ := pos_of_mem_times ht
  obtain ⟨i, hi, rfl⟩ := mem_times_iff.mp ht
  have hlow : 0 ≤ (i : Int) * w.step := Int.mul_nonneg (Int.natCast_nonneg _) (Int.le_of_lt hstep)
  have hhigh := Int.mul_lt_mul_of_pos_right (Int.ofNat_lt.mpr hi) hstep
  omega

theorem length_times (w : Window) : w.times.length = w.count := by simp [times]

theorem ascending_times (h : 0 < w.step) : w.times.Pairwise (· < ·) := by
  rw [times, List.pairwise_map]
  refine List.pairwise_lt_range.imp fun {i j} hij => ?_
  have := Int.mul_lt_mul_of_pos_right (Int.ofNat_lt.mpr hij) h
  omega

/-- From the start on the counted times are those before the end of the last whole step. -/
theorem truncate_mem_times_iff (h : 0 < w.step) (ht : w.start ≤ t) :
    w.truncate t ∈ w.times ↔ t < w.first + w.count * w.step := by
  rw [mem_times_iff]
  constructor
  · rintro ⟨i, hi, hit⟩
    have hlt := lt_truncate_add h t
    have hle : (i + 1 : Int) * w.step ≤ w.count * w.step :=
      Int.mul_le_mul_of_nonneg_right (by omega) (Int.le_of_lt h)
    rw [Int.add_mul, Int.one_mul] at hle
    omega
  · intro hlt
    have hfirst : w.first ≤ w.truncate t := truncate_mono h ht
    obtain ⟨k, hk⟩ := Int.dvd_sub (step_dvd_truncate h t) (step_dvd_truncate h w.start)
    have hk0 : 0 ≤ k := by
      refine Int.nonneg_of_mul_nonneg_right (a := w.step) ?_ h
      rw [← hk]
      exact Int.sub_nonneg_of_le hfirst
    have hkn : w.step * k < w.step * w.count := by
      have := truncate_le h t
      rw [← hk, Int.mul_comm w.step]
      change w.truncate t - w.first < _
      omega
    have hkc := Int.lt_of_mul_lt_mul_left hkn (Int.le_of_lt h)
    refine ⟨k.toNat, by omega, ?_⟩
    rw [Int.toNat_of_nonneg hk0, Int.mul_comm, ← hk]
    change w.first + (w.truncate t - w.first) = _
    omega

/-- Over whole steps the last one ends at the boundary before the window does. -/
theorem boundary_stop (h : 0 < w.step) (hle : w.start ≤ w.stop) (hd : w.step ∣ w.stop - w.start) :
    w.first + w.count * w.step = w.truncate w.stop := by
  obtain ⟨n, hn⟩ := hd
  have hcount : (w.count : Int) = n := by
    unfold count
    by_cases heq : w.stop ≤ w.start
    · rw [if_pos (Or.inr heq)]
      have h0 : w.step * n = w.step * 0 := by
        rw [← hn]
        omega
      exact (Int.eq_of_mul_eq_mul_left (Int.ne_of_gt h) h0).symm
    · rw [if_neg (by omega), hn, Int.mul_ediv_cancel_left _ (Int.ne_of_gt h), Int.toNat_of_nonneg]
      refine Int.nonneg_of_mul_nonneg_right (a := w.step) ?_ h
      omega
  have hmod : w.stop % w.step = w.start % w.step := by
    rw [show w.stop = w.start + w.step * n by omega, Int.add_mul_emod_self_left]
  rw [hcount, first, truncate_eq h, truncate_eq h, hmod, Int.mul_comm]
  omega

/-! ## Lengths -/

def length (w : Window) : Int := w.stop - w.start

theorem length_pos_of_contains (h : w.contains t = true) : 0 < w.length := by
  unfold contains at h
  rw [Bool.and_eq_true, decide_eq_true_eq, decide_eq_true_eq] at h
  unfold length
  omega

/-- Whole steps go no further than the window does. -/
theorem count_mul_step_le (h : 0 < w.step) (hle : w.start ≤ w.stop) :
    w.count * w.step ≤ w.length := by
  have hdiv := Int.ediv_mul_le (w.stop - w.start) (Int.ne_of_gt h)
  unfold count length
  split
  · simp
    omega
  · have hnonneg := Int.ediv_nonneg (show 0 ≤ w.stop - w.start by omega) (Int.le_of_lt h)
    rw [Int.toNat_of_nonneg hnonneg]
    exact hdiv

/-- Sampling the window leaves 64 bits nowhere: both ends fit, and so do the step boundary before
the start and the length. -/
structure NoOverflow (w : Window) : Prop where
  start : Time.fits w.start = true
  stop : Time.fits w.stop = true
  first : Time.fits w.first = true
  length : Time.fits w.length = true

/-! ## Whole steps -/

/-- From a step boundary to a step boundary. Both ends and the length fit into 64 bits. -/
structure Aligned (w : Window) : Prop where
  step_pos : 0 < w.step
  start : w.step ∣ w.start
  length : w.step ∣ w.length
  fits_start : Time.fits w.start = true
  fits_stop : Time.fits w.stop = true
  fits_length : Time.fits w.length = true

instance (w : Window) : Decidable w.Aligned :=
  decidable_of_iff (0 < w.step ∧ w.step ∣ w.start ∧ w.step ∣ w.length ∧
      Time.fits w.start = true ∧ Time.fits w.stop = true ∧ Time.fits w.length = true)
    ⟨fun ⟨hpos, hstart, hlength, hfits⟩ => ⟨hpos, hstart, hlength, hfits.1, hfits.2.1, hfits.2.2⟩,
      fun h => ⟨h.step_pos, h.start, h.length, h.fits_start, h.fits_stop, h.fits_length⟩⟩

namespace Aligned

theorem stop (h : w.Aligned) : w.step ∣ w.stop := (Int.dvd_iff_dvd_of_dvd_sub h.length).mpr h.start

theorem first_eq (h : w.Aligned) : w.first = w.start := by
  rw [first, truncate_eq h.step_pos, Int.emod_eq_zero_of_dvd h.start, Int.sub_zero]

theorem count_mul (h : w.Aligned) (hle : w.start ≤ w.stop) : w.count * w.step = w.length := by
  have hbound := boundary_stop h.step_pos hle h.length
  rw [truncate_eq h.step_pos, Int.emod_eq_zero_of_dvd h.stop, Int.sub_zero, h.first_eq] at hbound
  unfold Window.length
  omega

theorem contains_truncate (h : w.Aligned) (t : Int) : w.contains (w.truncate t) = w.contains t := by
  have hle := truncate_le h.step_pos t
  have hlt := lt_truncate_add h.step_pos t
  have hstart : w.start ≤ w.truncate t ↔ w.start ≤ t :=
    ⟨fun hs => Int.le_trans hs hle, le_truncate h.step_pos h.start⟩
  have hstop : w.truncate t < w.stop ↔ t < w.stop := by
    refine ⟨fun hs => ?_, fun hs => Int.lt_of_le_of_lt hle hs⟩
    have hd : w.step ∣ w.stop - w.truncate t :=
      Int.dvd_sub h.stop (step_dvd_truncate h.step_pos t)
    have := Int.le_of_dvd (by omega) hd
    omega
  unfold contains
  rw [decide_eq_decide.mpr hstart, decide_eq_decide.mpr hstop]

end Aligned

/-! ## Windows inside one another -/

/-- `w` lies in `v`, which is sampled alike. -/
structure Within (w v : Window) : Prop where
  step : w.step = v.step
  start : v.start ≤ w.start
  stop : w.stop ≤ v.stop

instance (w v : Window) : Decidable (w.Within v) :=
  decidable_of_iff (w.step = v.step ∧ v.start ≤ w.start ∧ w.stop ≤ v.stop)
    ⟨fun ⟨hstep, hstart, hstop⟩ => ⟨hstep, hstart, hstop⟩, fun h => ⟨h.step, h.start, h.stop⟩⟩

theorem Within.refl (w : Window) : w.Within w := ⟨rfl, Int.le_refl _, Int.le_refl _⟩

theorem Within.trans {u : Window} (h : w.Within v) (h' : v.Within u) : w.Within u :=
  ⟨h.step.trans h'.step, Int.le_trans h'.start h.start, Int.le_trans h.stop h'.stop⟩

theorem Within.truncate (h : w.Within v) (t : Int) : v.truncate t = w.truncate t := by
  rw [Window.truncate, Window.truncate, h.step]

theorem Within.contains (h : w.Within v) (ht : w.contains t = true) : v.contains t = true := by
  obtain ⟨hstart, hstop⟩ : w.start ≤ t ∧ t < w.stop := by simpa [Window.contains] using ht
  simp [Window.contains, Int.le_trans h.start hstart, Int.lt_of_lt_of_le hstop h.stop]

/-- A window that the first lies in is the same one or lies around it, unless there is no time in
the first. -/
theorem Within.relate (h : w.Within v) :
    v = w ∧ w.relate v = .equal ∨ w.relate v = .around ∨
      w.length ≤ 0 ∧ w.relate v ∈ [Relation.before, .after] := by
  obtain ⟨hstep, hstart, hstop⟩ := h
  unfold Window.relate Window.length
  rw [if_neg (not_not.mpr hstep)]
  by_cases heq : v.start = w.start ∧ v.stop = w.stop
  · left
    refine ⟨?_, if_pos heq⟩
    obtain ⟨_, _, _⟩ := v
    obtain ⟨rfl, rfl⟩ := heq
    exact congrArg _ hstep.symm
  · rw [if_neg heq]
    by_cases hbefore : v.stop ≤ w.start
    · rw [if_pos hbefore]
      exact Or.inr (Or.inr ⟨by omega, by simp⟩)
    · rw [if_neg hbefore]
      by_cases hafter : v.start ≥ w.stop
      · rw [if_pos hafter]
        exact Or.inr (Or.inr ⟨by omega, by simp⟩)
      · rw [if_neg hafter, if_pos ⟨hstart, hstop⟩]
        exact Or.inr (Or.inl rfl)

theorem within_of_relate (h : w.relate v ∈ [Relation.equal, .between, .around]) :
    w.Within v ∨ v.Within w := by
  have hstep : w.step = v.step := by
    by_contra hne
    rw [Window.relate, if_pos hne] at h
    exact absurd h (by decide)
  unfold Window.relate at h
  rw [if_neg (not_not.mpr hstep)] at h
  split_ifs at h with heq hbefore hafter haround hbetween
  · exact Or.inl ⟨hstep, Int.le_of_eq heq.1, Int.le_of_eq heq.2.symm⟩
  · exact absurd h (by decide)
  · exact absurd h (by decide)
  · exact Or.inl ⟨hstep, haround.1, haround.2⟩
  · exact Or.inr ⟨hstep.symm, hbetween.1, hbetween.2⟩
  · exact absurd h (by decide)
  · exact absurd h (by decide)

/-! ## Windows of one length -/

/-- Of windows of one positive length none contains another one. -/
theorem relate_of_length_eq (h : v.length = w.length) (hpos : 0 < w.length) :
    (v = w ∧ w.relate v = .equal) ∨
      (v ≠ w ∧ w.relate v ≠ .equal ∧ w.relate v ≠ .between ∧ w.relate v ≠ .around) := by
  unfold length at h hpos
  unfold relate
  by_cases hs : w.step = v.step
  · by_cases hstart : v.start = w.start
    · have hstop : v.stop = w.stop := by omega
      left
      rw [if_neg (not_not.mpr hs), if_pos ⟨hstart, hstop⟩]
      obtain ⟨_, _, _⟩ := w
      obtain ⟨_, _, _⟩ := v
      exact ⟨Window.mk.injEq .. ▸ ⟨hstart, hstop, hs.symm⟩, rfl⟩
    · right
      refine ⟨fun hvw => hstart (congrArg start hvw), ?_⟩
      rw [if_neg (not_not.mpr hs), if_neg (by omega)]
      split
      · simp
      · split
        · simp
        · rw [if_neg (by omega), if_neg (by omega)]
          split <;> simp
  · right
    refine ⟨fun hvw => hs (congrArg step hvw).symm, ?_⟩
    rw [if_pos hs]
    simp

end Window

end SeriesQuery
