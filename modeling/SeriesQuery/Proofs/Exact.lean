import SeriesQuery.Proofs.Points.Merged
import SeriesQuery.Proofs.Reduce
import Mathlib.Algebra.BigOperators.Group.List.Basic
import Mathlib.Algebra.Field.Rat

/-!
# Exact arithmetic

Samples that are never rounded: rational numbers with two infinities and NaN, and one zero.

Merging is a sum whose zero is NaN. It is commutative and associative as long as the two infinities
do not meet.

* `Exact` : the samples, with their arithmetic;
* `Exact.Without b` : the samples without one of the infinities, a commutative monoid;
* `Exact.Unmixed vs` : not both infinities are among `vs`;
* `Exact.apply_sum_map_apply`, `Exact.apply_sum_map_merged` : a sum of unmixed samples does not
  depend on how they are added up in parts;
* `Exact.apply_perm` : no reduction depends on the order of the samples.
-/

namespace SeriesQuery

inductive Exact where
  | nan
  | posInf
  | negInf
  | finite (q : Rat)
deriving DecidableEq

namespace Exact

/-! ## Arithmetic -/

def add : Exact → Exact → Exact
  | .nan, _ | _, .nan | .posInf, .negInf | .negInf, .posInf => .nan
  | .posInf, _ | _, .posInf => .posInf
  | .negInf, _ | _, .negInf => .negInf
  | .finite a, .finite b => .finite (a + b)

def neg : Exact → Exact
  | .nan => .nan
  | .posInf => .negInf
  | .negInf => .posInf
  | .finite a => .finite (-a)

/-- An infinity with the sign of `a`, nothing for zero. -/
def infinity (a : Rat) : Exact := if a = 0 then .nan else if 0 < a then .posInf else .negInf

def mul : Exact → Exact → Exact
  | .nan, _ | _, .nan => .nan
  | .posInf, .posInf | .negInf, .negInf => .posInf
  | .posInf, .negInf | .negInf, .posInf => .negInf
  | .posInf, .finite a | .finite a, .posInf => infinity a
  | .negInf, .finite a | .finite a, .negInf => infinity (-a)
  | .finite a, .finite b => .finite (a * b)

/-- The one zero counts as positive where it divides. -/
def div : Exact → Exact → Exact
  | .nan, _ | _, .nan => .nan
  | .posInf, .finite b => if 0 ≤ b then .posInf else .negInf
  | .negInf, .finite b => if 0 ≤ b then .negInf else .posInf
  | .posInf, _ | .negInf, _ => .nan
  | .finite _, .posInf | .finite _, .negInf => .finite 0
  | .finite a, .finite b => if b = 0 then infinity a else .finite (a / b)

def less : Exact → Exact → Bool
  | .nan, _ | _, .nan => false
  | .negInf, y => y ≠ .negInf
  | _, .negInf => false
  | x, .posInf => x ≠ .posInf
  | .posInf, _ => false
  | .finite a, .finite b => a < b

instance : Sample Exact where
  nan := .nan
  isNaN x := x = .nan
  posInf := .posInf
  negInf := .negInf
  ofInt n := .finite n
  add := add
  sub x y := add x (neg y)
  mul := mul
  div := div
  less := less

/-! ## Sums without one of the infinities -/

/-- The infinity that is left out. -/
def excluded : Bool → Exact
  | true => .posInf
  | false => .negInf

@[ext] structure Without (b : Bool) where
  val : Exact
  ne : val ≠ excluded b

@[simp] theorem merge_nan_left (x : Exact) : Merger.add.merge .nan x = x := rfl

@[simp] theorem merge_nan_right (x : Exact) : Merger.add.merge x .nan = x := by
  cases x <;> rfl

theorem merge_comm (x y : Exact) : Merger.add.merge x y = Merger.add.merge y x := by
  cases x <;> cases y <;> first | rfl | exact congrArg finite (add_comm _ _)

theorem merge_eq_add {x y : Exact} (hx : x ≠ .nan) (hy : y ≠ .nan) :
    Merger.add.merge x y = add x y := by
  have hx' : Sample.isNaN x = false := decide_eq_false hx
  have hy' : Sample.isNaN y = false := decide_eq_false hy
  show (if Sample.isNaN x then y else if Sample.isNaN y then x else Sample.add x y) = _
  rw [hx', hy']
  rfl

namespace Without

variable {b : Bool}

theorem merge_ne (x y : Without b) : Merger.add.merge x.val y.val ≠ excluded b := by
  obtain ⟨x, hx⟩ := x
  obtain ⟨y, hy⟩ := y
  cases b <;> cases x <;> cases y <;> first | exact absurd rfl hx | exact absurd rfl hy | nofun

theorem merge_assoc (x y z : Without b) :
    Merger.add.merge (Merger.add.merge x.val y.val) z.val =
      Merger.add.merge x.val (Merger.add.merge y.val z.val) := by
  obtain ⟨x, hx⟩ := x
  obtain ⟨y, hy⟩ := y
  obtain ⟨z, hz⟩ := z
  cases b <;> cases x <;> cases y <;> cases z <;>
    first
    | exact absurd rfl hx
    | exact absurd rfl hy
    | exact absurd rfl hz
    | rfl
    | exact congrArg finite (add_assoc _ _ _)

instance : Zero (Without b) := ⟨.nan, by cases b <;> nofun⟩

instance : Add (Without b) := ⟨fun x y => ⟨Merger.add.merge x.val y.val, merge_ne x y⟩⟩

/-- Merging, with NaN as its zero. -/
instance : AddCommMonoid (Without b) where
  add_assoc x y z := Without.ext (merge_assoc x y z)
  zero_add x := Without.ext (merge_nan_left x.val)
  add_zero x := Without.ext (merge_nan_right x.val)
  add_comm x y := Without.ext (merge_comm x.val y.val)
  nsmul := nsmulRec

theorem val_add (x y : Without b) : (x + y).val = Merger.add.merge x.val y.val := rfl

theorem val_ne_nan {x : Without b} (h : x ≠ 0) : x.val ≠ .nan := fun hn => h (Without.ext hn)

theorem add_ne_zero {x : Without b} (hx : x ≠ 0) (y : Without b) : x + y ≠ 0 := by
  have hx : x.val ≠ .nan := val_ne_nan hx
  intro h
  have h : Merger.add.merge x.val y.val = .nan := congrArg val h
  obtain ⟨x, hxb⟩ := x
  obtain ⟨y, hyb⟩ := y
  cases b <;> cases x <;> cases y <;>
    first | exact absurd rfl hx | exact absurd rfl hxb | exact absurd rfl hyb | exact nomatch h

/-- The number zero, where sums of samples begin. -/
def origin (b : Bool) : Without b := ⟨.finite 0, by cases b <;> nofun⟩

theorem origin_ne_zero : origin b ≠ 0 := fun h => nomatch congrArg val h

theorem origin_add_origin : origin b + origin b = origin b :=
  Without.ext (congrArg finite (add_zero 0))

/-! ### Lists -/

theorem exists_map_val {vs : List Exact} (h : ∀ v ∈ vs, v ≠ excluded b) :
    ∃ us : List (Without b), us.map val = vs :=
  ⟨vs.pmap mk h, by rw [List.map_pmap, List.pmap_eq_map, List.map_id']⟩

theorem exists_map_map_val {vss : List (List Exact)} (h : ∀ v ∈ vss.flatten, v ≠ excluded b) :
    ∃ uss : List (List (Without b)), uss.map (List.map val) = vss := by
  induction vss with
  | nil => exact ⟨[], rfl⟩
  | cons vs vss ih =>
    rw [List.flatten_cons, List.forall_mem_append] at h
    obtain ⟨us, rfl⟩ := exists_map_val h.1
    obtain ⟨uss, rfl⟩ := ih h.2
    exact ⟨us :: uss, rfl⟩

/-- A running sum is never NaN, so each sample is merged into it. -/
theorem run_sum (vs : List (Without b)) {acc : Without b} (h : acc ≠ 0) :
    ((Reducer.sum : Reducer Exact).run acc.val (vs.map val)).1 = (acc + vs.sum).val := by
  induction vs generalizing acc with
  | nil => rw [List.sum_nil, add_zero]; rfl
  | cons v vs ih =>
    have hstep : (Reducer.sum : Reducer Exact).step acc.val v.val = ((acc + v).val, .sum) := by
      show ((if Sample.isNaN v.val then acc.val else add acc.val v.val), Reducer.sum) = _
      rw [val_add]
      by_cases hv : v.val = .nan
      · rw [if_pos (show Sample.isNaN v.val = true from decide_eq_true hv), hv, merge_nan_right]
      · have hv' : ¬Sample.isNaN v.val = true := fun hn => hv (of_decide_eq_true hn)
        rw [if_neg hv', merge_eq_add (val_ne_nan h) hv]
    rw [List.map_cons, Reducer.run, hstep, List.sum_cons, ← add_assoc]
    exact ih (add_ne_zero h v)

theorem apply_sum (vs : List (Without b)) :
    Reduction.sum.apply (vs.map val) = (origin b + vs.sum).val :=
  run_sum vs origin_ne_zero

/-- The zeros that the parts begin with do not show. -/
theorem origin_add_sum (uss : List (List (Without b))) :
    origin b + (uss.map fun us => origin b + us.sum).sum = origin b + uss.flatten.sum := by
  induction uss with
  | nil => rfl
  | cons us uss ih =>
    rw [List.map_cons, List.sum_cons, List.flatten_cons, List.sum_append, ← add_assoc, ← add_assoc,
      origin_add_origin, add_right_comm, ih, add_right_comm, add_assoc]

theorem foldl_merge (vs : List (Without b)) (acc : Without b) :
    (vs.map val).foldl Merger.add.merge acc.val = (acc + vs.sum).val := by
  induction vs generalizing acc with
  | nil => rw [List.sum_nil, add_zero]; rfl
  | cons v vs ih => rw [List.sum_cons, ← add_assoc, ← ih (acc + v)]; rfl

theorem mergeAll?_getD (vs : List (Without b)) :
    (mergeAll? Merger.add.merge (vs.map val)).getD Sample.nan = vs.sum.val := by
  cases vs with
  | nil => rfl
  | cons v vs =>
    rw [List.sum_cons, ← foldl_merge vs v]
    rfl

end Without

/-! ## Unmixed samples -/

/-- The two infinities do not meet. -/
def Unmixed (vs : List Exact) : Prop := ¬(.posInf ∈ vs ∧ .negInf ∈ vs)

instance (vs : List Exact) : Decidable (Unmixed vs) := inferInstanceAs (Decidable (¬_))

theorem Unmixed.of_subset {vs us : List Exact} (h : Unmixed vs) (hs : us ⊆ vs) : Unmixed us :=
  fun hu => h ⟨hs hu.1, hs hu.2⟩

theorem Unmixed.exists_without {vs : List Exact} (h : Unmixed vs) :
    ∃ b, ∀ v ∈ vs, v ≠ excluded b := by
  by_cases hp : .posInf ∈ vs
  · refine ⟨false, fun v hv hn => h ⟨hp, ?_⟩⟩
    have hn : v = .negInf := hn
    exact hn ▸ hv
  · refine ⟨true, fun v hv hn => hp ?_⟩
    have hn : v = .posInf := hn
    exact hn ▸ hv

/-- Sums of parts add up to the sum of all. -/
theorem apply_sum_map_apply {vss : List (List Exact)} (h : Unmixed vss.flatten) :
    Reduction.sum.apply (vss.map Reduction.sum.apply) = Reduction.sum.apply vss.flatten := by
  obtain ⟨b, hb⟩ := h.exists_without
  obtain ⟨uss, rfl⟩ := Without.exists_map_map_val hb
  have hparts : (uss.map (List.map Without.val)).map Reduction.sum.apply =
      (uss.map fun us => Without.origin b + us.sum).map Without.val := by
    rw [List.map_map, List.map_map]
    exact List.map_congr_left fun us _ => Without.apply_sum us
  rw [hparts, Without.apply_sum, ← List.map_flatten, Without.apply_sum, Without.origin_add_sum]

/-- So do the parts when each is merged instead. -/
theorem apply_sum_map_merged {vss : List (List Exact)} (h : Unmixed vss.flatten) :
    Reduction.sum.apply
        (vss.map fun vs => (mergeAll? Merger.add.merge vs).getD Sample.nan) =
      Reduction.sum.apply vss.flatten := by
  obtain ⟨b, hb⟩ := h.exists_without
  obtain ⟨uss, rfl⟩ := Without.exists_map_map_val hb
  have hparts : ((uss.map (List.map Without.val)).map fun vs =>
      (mergeAll? Merger.add.merge vs).getD Sample.nan) = (uss.map List.sum).map Without.val := by
    rw [List.map_map, List.map_map]
    exact List.map_congr_left fun us _ => Without.mergeAll?_getD us
  rw [hparts, Without.apply_sum, ← List.map_flatten, Without.apply_sum, List.sum_flatten]

/-! ## Order of samples -/

theorem add_swap (x y z : Exact) : add (add x y) z = add (add x z) y := by
  cases x <;> cases y <;> cases z <;>
    first | rfl | exact congrArg finite (add_right_comm _ _ _)

/-- Two samples may change places. -/
theorem step_swap {r : Reducer Exact} (h : ∀ acc v, (r.step acc v).2 = r) (x y z : Exact) :
    (r.step (r.step x y).1 z).1 = (r.step (r.step x z).1 y).1 := by
  cases r with
  | sum =>
    simp only [Reducer.step, Sample.isNaN, Sample.add]
    cases y <;> cases z <;> simp [add_swap]
  | count => rfl
  | min =>
    simp only [Reducer.step, Sample.less]
    cases x <;> cases y <;> cases z <;> simp [less] <;> grind
  | max =>
    simp only [Reducer.step, Sample.less]
    cases x <;> cases y <;> cases z <;> simp [less] <;> grind
  | avg total seen =>
    exact absurd (h (.finite 0) (.finite 0)) (by simp [Reducer.step, Sample.isNaN])

theorem apply_avg (vs : List Exact) :
    Reduction.avg.apply vs =
      if Sample.present vs = [] then .nan
      else div ((Sample.present vs).foldl add (.finite 0))
        (.finite (Sample.present vs).length) := by
  have hnumber : Sample.ofInt ((0 : Nat) + ((Sample.present vs).length : Int)) =
      finite ((Sample.present vs).length : Rat) := by
    rw [Nat.cast_zero, zero_add]
    exact congrArg finite (Int.cast_natCast _)
  rw [← hnumber]
  exact Reducer.run_avg Sample.zero 0 .nan vs

/-- Exact numbers count on and on. -/
theorem apply_count (vs : List Exact) : Reduction.count.apply vs = .finite vs.length := by
  have hnumber (n : Nat) : Sample.add (finite n) Sample.one = finite ((n + 1 : Nat) : Rat) := by
    show finite ((n : Rat) + ((1 : Int) : Rat)) = _
    push_cast
    rfl
  have hcount := Reducer.run_count hnumber 0 vs
  rw [Nat.zero_add] at hcount
  exact hcount

/-- Samples can be reduced in any order, also where the two infinities meet. -/
theorem apply_perm (f : Reduction) {vs us : List Exact} (h : vs.Perm us) :
    f.apply vs = f.apply us := by
  have hfold {r : Reducer Exact} (hr : ∀ acc v, (r.step acc v).2 = r) (acc : Exact) :
      (r.run acc vs).1 = (r.run acc us).1 := by
    rw [Reducer.run_eq_foldl hr, Reducer.run_eq_foldl hr]
    exact h.foldl_eq' (fun y _ z _ x => step_swap hr x y z) acc
  cases f with
  | sum | count | min | max => exact hfold (fun _ _ => rfl) _
  | avg =>
    have hpresent : (Sample.present vs).Perm (Sample.present us) := h.filter _
    have hnone : Sample.present vs = [] ↔ Sample.present us = [] := by
      rw [← List.length_eq_zero_iff, ← List.length_eq_zero_iff, hpresent.length_eq]
    have htotal := hpresent.foldl_eq' (fun y _ z _ x => add_swap x y z) (.finite 0)
    rw [apply_avg, apply_avg, htotal, hpresent.length_eq]
    exact if_congr hnone rfl rfl

end Exact

end SeriesQuery
