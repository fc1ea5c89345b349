import SeriesQuery.Proofs.Except
import SeriesQuery.Proofs.Query.Leaves

/-!
# Shape of a computed series

The window of a computed series and its times follow from the tree and the window asked for, and so
does whether there is a series at all: no data is looked at.

* `Agg.reach a w` : the window that `a` ends up with over `w`, or the sizes that do not fit;
* `Series.shape` : the window and the times of a series;
* `Agg.matches_evaluate` : every series computed over `w` has the shape of `a.reach w`;
* `Agg.matches_evaluate_evaluate` : and there is one for all data or for none.
-/

namespace SeriesQuery

variable {α : Type}

/-! ## Times -/

namespace Points

theorem times_ofValues {w : Window} {vs : List α} (h : vs.length = w.times.length) :
    (ofValues w vs).times = w.times := by
  have hfst := List.map_fst_zip (Nat.le_of_eq h.symm)
  rw [List.zip, List.map_zipWith] at hfst
  rw [times, ofValues, List.map_zipWith]
  exact hfst

theorem times_fill (ps : Points α) (v : α) : (ps.fill v).times = ps.times := by
  rw [times, fill, List.map_map]
  rfl

theorem times_blank (w : Window) (v : α) : (blank w v).times = w.times := by
  rw [times, blank, List.map_map]
  exact List.map_id _

theorem size_eq_length_times (ps : Points α) : ps.size = ps.times.length :=
  (List.length_map _).symm

end Points

/-! ## Shapes -/

def Series.shape (s : Series α) : Window × List Int := (s.window, s.points.times)

def Window.shape (w : Window) : Window × List Int := (w, w.times)

namespace Agg

mutual

/-- The window that the aggregate has over `w`, or the error of operands that differ in size. -/
def reach : Agg α → Window → Except QueryError Window
  | .scan leaf _, w => .ok (leaf.window w)
  | .zip [only] _ shift, w => only.reach (shift.apply w)
  | .zip parts _ shift, w => do
    let _ ← reachAll parts (shift.apply w)
    return shift.apply w
  | .collapse part _, w => part.reach w
  | .op x y _, w => do
    let u ← x.reach w
    let v ← y.reach w
    if u.count ≠ v.count then .error (.operandSizes u.count v.count) else return u
  | .value _ shift, w => .ok (shift.apply w)

def reachAll : List (Agg α) → Window → Except QueryError (List Window)
  | [], _ => .ok []
  | part :: parts, w => do
    let v ← part.reach w
    let vs ← reachAll parts w
    return v :: vs

end

theorem reach_zip_many (p q : Agg α) (ps : List (Agg α)) (f : Reduction) (shift : Shift)
    (w : Window) :
    (zip (p :: q :: ps) f shift).reach w =
      (reachAll (p :: q :: ps) (shift.apply w) >>= fun _ => .ok (shift.apply w)) := rfl

/-! ## Shape of a value -/

variable [Sample α]

theorem shape_reduceOver (f : Reduction) (name : String) {w : Window} {columns : List (List α)}
    (h : columns.length = w.count) : (reduceOver f name w columns).shape = w.shape := by
  have hlen : (columns.map f.apply).length = w.times.length := by
    rw [List.length_map, h, Window.length_times]
  rw [Series.shape, points_reduceOver, Points.times_ofValues hlen]
  rfl

theorem shape_evaluateLeaf (leaf : Leaf) (f : Reduction) (w : Window) (xs : List (Series α)) :
    (evaluateLeaf leaf f w xs).shape = (leaf.window w).shape := by
  unfold evaluateLeaf
  dsimp only
  exact shape_reduceOver f leaf.event (by rw [List.length_map, Window.length_times])

theorem length_columns (n : Nat) (rows : List (List α)) : (columns n rows).length = n := by
  induction n generalizing rows with
  | zero => rfl
  | succ n ih => rw [columns, List.length_cons, ih]

theorem shape_evaluateZip (f : Reduction) (w : Window) (ss : List (Series α)) :
    (evaluateZip f w ss).shape = w.shape :=
  shape_reduceOver f "" (length_columns _ _)

theorem shape_evaluateCollapse (f : Reduction) (s : Series α) :
    (evaluateCollapse f s).shape = s.shape :=
  congrArg (s.window, ·) (s.points.times_fill _)

omit [Sample α] in
theorem times_zipWith (f : Point α → Point α → α) {ps qs : List (Point α)}
    (h : ps.length = qs.length) :
    (ps.zipWith (fun p q => { p with value := f p q }) qs).map Point.time = ps.map Point.time := by
  induction ps generalizing qs with
  | nil => rfl
  | cons p ps ih =>
    cases qs with
    | nil => contradiction
    | cons q qs => exact congrArg (p.time :: ·) (ih (Nat.succ.inj h))

theorem matches_evaluateOp (f : Merger) {x y : Series α} {u v : Window} (hx : x.shape = u.shape)
    (hy : y.shape = v.shape) :
    Matches (fun s w => s.shape = w.shape) (evaluateOp f x y)
      (if u.count ≠ v.count then .error (.operandSizes u.count v.count) else .ok u) := by
  have hsize {s : Series α} {w : Window} (h : s.shape = w.shape) : s.points.size = w.count := by
    rw [Points.size_eq_length_times, ← Window.length_times]
    exact congrArg (·.2.length) h
  unfold evaluateOp
  rw [hsize hx, hsize hy]
  by_cases h : u.count = v.count
  · rw [if_neg (not_not.mpr h), if_neg (not_not.mpr h)]
    have hlen : x.points.toList.length = y.points.toList.length :=
      (hsize hx).trans (h.trans (hsize hy).symm)
    refine .ok (Eq.trans (congrArg (x.window, ·) ?_) hx)
    exact times_zipWith (fun p q => f.merge p.value q.value) hlen
  · rw [if_pos h, if_pos h]
    exact .error _

/-! ## Shape of a tree -/

mutual

/-- A series has the shape that is known before there is any data. -/
theorem matches_evaluate : ∀ (a : Agg α) (w : Window) (xs : List (Series α)),
    Matches (fun s v => s.shape = v.shape) (a.evaluate w xs) (a.reach w)
  | .scan leaf f, w, xs => .ok (shape_evaluateLeaf leaf f w xs)
  | .zip [] f shift, w, _ => .ok (shape_evaluateZip f (shift.apply w) [])
  | .zip [only] _ shift, w, xs => matches_evaluate only (shift.apply w) xs
  | .zip (p :: q :: ps) f shift, w, xs =>
    (matches_evaluateAll (p :: q :: ps) (shift.apply w) xs).bind fun ss _ _ =>
      .ok (shape_evaluateZip f (shift.apply w) ss)
  | .collapse part f, w, xs => by
    rw [evaluate, reach, ← bind_pure (part.reach w)]
    exact (matches_evaluate part w xs).bind fun s _ h => .ok ((shape_evaluateCollapse f s).trans h)
  | .op x y f, w, xs => by
    rw [evaluate, reach]
    refine (matches_evaluate x w xs).bind fun s u hs => ?_
    refine (matches_evaluate y w xs).bind fun t v ht => ?_
    exact matches_evaluateOp f hs ht
  | .value v shift, w, _ => .ok (congrArg (shift.apply w, ·) (Points.times_blank _ v))

theorem matches_evaluateAll : ∀ (parts : List (Agg α)) (w : Window) (xs : List (Series α)),
    Matches (List.Forall₂ fun s v => s.shape = v.shape) (evaluateAll parts w xs) (reachAll parts w)
  | [], _, _ => .ok .nil
  | part :: parts, w, xs => by
    rw [evaluateAll, reachAll]
    refine (matches_evaluate part w xs).bind fun s v hs => ?_
    exact (matches_evaluateAll parts w xs).bind fun ss vs hss => .ok (.cons hs hss)

end

/-- Whether there is a series does not depend on the data. -/
theorem matches_evaluate_evaluate (a : Agg α) (w : Window) (xs ys : List (Series α)) :
    Matches (fun s t => ∃ v : Window, s.shape = v.shape ∧ t.shape = v.shape)
      (a.evaluate w xs) (a.evaluate w ys) :=
  (a.matches_evaluate w xs).join (a.matches_evaluate w ys)

end Agg

end SeriesQuery
