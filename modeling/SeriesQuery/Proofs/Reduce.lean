import SeriesQuery.Reduce

/-!
# Reductions side by side

* `Sample.present` : the samples that are not missing;
* `Reducer.runEach_start` : one reducer that is reset between lists does what a new one does for
  each of them;
* `Reducer.Used`, `Reducer.Used.again_eq` : what a reducer was used for before a reset does not
  show;
* `Reducer.run_eq_foldl`, `Reducer.run_avg` : a run in closed form, for reducers that carry nothing
  and for the average;
* `Reducer.run_count` : the count, in any arithmetic in which one can count;
* `Reducer.run_present` : missing samples show in the count only.
-/

namespace SeriesQuery

variable {α : Type} [Sample α]

namespace Sample

/-- The samples that are not missing. -/
def present (vs : List α) : List α := vs.filter (!Sample.isNaN ·)

theorem present_cons_of_isNaN {v : α} (hv : Sample.isNaN v = true) (vs : List α) :
    present (v :: vs) = present vs :=
  List.filter_cons_of_neg (by simp [hv])

theorem present_cons {v : α} (hv : Sample.isNaN v = false) (vs : List α) :
    present (v :: vs) = v :: present vs :=
  List.filter_cons_of_pos (by simp [hv])

theorem length_present (vs : List α) :
    (present vs).length = vs.length - vs.countP Sample.isNaN := by
  have hsplit := List.length_eq_countP_add_countP (l := vs) Sample.isNaN
  have hpresent : (present vs).length = vs.countP fun v => decide ¬Sample.isNaN v = true := by
    rw [present, ← List.countP_eq_length_filter]
    exact List.countP_congr fun v _ => by simp
  omega

end Sample

namespace Reducer

theorem reset_start (f : Reduction) : (f.start : Reducer α).reset = f.start := by
  cases f <;> rfl

/-- A sample changes what is carried, and a reset clears just that. -/
theorem reset_step (r : Reducer α) (acc v : α) : (r.step acc v).2.reset = r.reset := by
  cases r with
  | avg total seen =>
    unfold step
    dsimp only
    split <;> rfl
  | _ => rfl

theorem reset_run (r : Reducer α) (acc : α) (vs : List α) : (r.run acc vs).2.reset = r.reset := by
  induction vs generalizing r acc with
  | nil => rfl
  | cons v vs ih =>
    rw [run, ih, reset_step]

theorem runEach_of_reset {r : Reducer α} {f : Reduction} (h : r.reset = f.start)
    (columns : List (List α)) : r.runEach columns = columns.map f.apply := by
  induction columns generalizing r with
  | nil => rfl
  | cons column columns ih =>
    have hrest : ((f.start : Reducer α).run f.start.zero column).2.reset = f.start := by
      rw [reset_run, reset_start]
    rw [runEach, List.map_cons, h, ← ih hrest]
    rfl

theorem runEach_start (f : Reduction) (columns : List (List α)) :
    (f.start : Reducer α).runEach columns = columns.map f.apply :=
  runEach_of_reset (reset_start f) columns

/-! ## Used reducers -/

/-- What samples, with any accumulators, and resets make of a new reducer. -/
inductive Used (f : Reduction) : Reducer α → Prop
  | start : Used f f.start
  | step {r : Reducer α} (acc v : α) : Used f r → Used f (r.step acc v).2
  | reset {r : Reducer α} : Used f r → Used f r.reset

theorem Used.reset_eq {f : Reduction} {r : Reducer α} (h : r.Used f) : r.reset = f.start := by
  induction h with
  | start => exact reset_start f
  | step acc v _ ih => rw [reset_step, ih]
  | reset _ ih => rw [ih, reset_start]

/-- Unrelated samples, after a reset. -/
def again (r : Reducer α) (vs : List α) : α := (r.reset.run r.reset.zero vs).1

theorem Used.again_eq {f : Reduction} {r : Reducer α} (h : r.Used f) : r.again = f.apply := by
  funext vs
  rw [again, h.reset_eq, Reduction.apply]

/-! ## One list -/

/-- A reducer that stays as it is folds its accumulator. -/
theorem run_eq_foldl {r : Reducer α} (h : ∀ acc v, (r.step acc v).2 = r) (acc : α) (vs : List α) :
    (r.run acc vs).1 = vs.foldl (fun acc v => (r.step acc v).1) acc := by
  induction vs generalizing acc with
  | nil => rfl
  | cons v vs ih =>
    rw [run, List.foldl_cons, ← ih]
    exact congrArg (fun next : Reducer α => (next.run (r.step acc v).1 vs).1) (h acc v)

section

open Sample (present present_cons present_cons_of_isNaN)

/-- Of the samples that are not missing, the total by their number. -/
theorem run_avg (total : α) (seen : Nat) (acc : α) (vs : List α) :
    ((avg total seen).run acc vs).1 =
      if present vs = [] then acc
      else Sample.div ((present vs).foldl Sample.add total)
        (Sample.ofInt (seen + (present vs).length)) := by
  induction vs generalizing total seen acc with
  | nil => rfl
  | cons v vs ih =>
    cases hv : Sample.isNaN v with
    | true =>
      have hstep : (avg total seen).step acc v = (acc, .avg total seen) := if_pos hv
      rw [run, hstep, present_cons_of_isNaN hv]
      exact ih total seen acc
    | false =>
      have hstep : (avg total seen).step acc v =
          (Sample.div (Sample.add total v) (Sample.ofInt (seen + 1)),
            .avg (Sample.add total v) (seen + 1)) :=
        if_neg (by simp [hv])
      rw [run, hstep, present_cons hv, if_neg (List.cons_ne_nil _ _), List.foldl_cons,
        List.length_cons]
      refine (ih (Sample.add total v) (seen + 1) _).trans ?_
      split
      · next hnil =>
        rw [hnil]
        rfl
      · congr 2
        push_cast
        omega

end

/-- The number of samples, if adding one to the number `n` gives the number `n + 1`. -/
theorem run_count {number : Nat → α}
    (h : ∀ n, Sample.add (number n) Sample.one = number (n + 1)) (n : Nat) (vs : List α) :
    ((count : Reducer α).run (number n) vs).1 = number (n + vs.length) := by
  induction vs generalizing n with
  | nil => rfl
  | cons v vs ih =>
    have hstep : (count : Reducer α).step (number n) v = (number (n + 1), .count) :=
      congrArg (·, count) (h n)
    rw [run, hstep, List.length_cons, Nat.add_comm vs.length, ← Nat.add_assoc]
    exact ih (n + 1)

/-! ## Missing samples -/

/-- No reducer turns into a count. -/
theorem step_ne_count {r : Reducer α} (hr : r ≠ .count) (acc v : α) :
    (r.step acc v).2 ≠ .count := by
  cases r with
  | sum | min | max => nofun
  | count => exact absurd rfl hr
  | avg total seen =>
    unfold step
    dsimp only
    split <;> nofun

section

variable
  (hless : ∀ x y : α, Sample.isNaN x = true ∨ Sample.isNaN y = true → Sample.less x y = false)
include hless

theorem step_of_isNaN {r : Reducer α} (hr : r ≠ .count) (acc : α) {v : α}
    (hv : Sample.isNaN v = true) : r.step acc v = (acc, r) := by
  cases r with
  | sum => exact congrArg (·, sum) (if_pos hv)
  | count => exact absurd rfl hr
  | min => exact congrArg (·, min) (if_neg (Bool.eq_false_iff.mp (hless v acc (.inl hv))))
  | max => exact congrArg (·, max) (if_neg (Bool.eq_false_iff.mp (hless acc v (.inr hv))))
  | avg total seen => exact if_pos hv

theorem run_present {r : Reducer α} (hr : r ≠ .count) (acc : α) (vs : List α) :
    r.run acc (Sample.present vs) = r.run acc vs := by
  induction vs generalizing r acc with
  | nil => rfl
  | cons v vs ih =>
    cases hv : Sample.isNaN v with
    | true =>
      rw [Sample.present_cons_of_isNaN hv, run, step_of_isNaN hless hr acc hv]
      exact ih hr acc
    | false =>
      rw [Sample.present_cons hv, run, run]
      exact ih (step_ne_count hr acc v) _

end

end Reducer

end SeriesQuery
