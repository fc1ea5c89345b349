import SeriesQuery.Proofs.Except
import SeriesQuery.Query.Resolve

/-!
# Step brackets

Of the steps that are set on the way to a leaf the one nearest to it counts. A bracket behind an
aggregate replaces the steps that come first on the way down, as collapses and operators hand it on
to what they hold. A zip keeps it for itself, so a step that is set in one of its parts is nearer to
the leaves there and stays in force.

* `Agg.steps a` : the step that is set for each leaf, if one is;
* `Agg.keptSteps a` : of these, what is left when `a` gets a bracket;
* `Agg.map_step_queries`, `Agg.steps_shiftStep` : the steps of what is asked for, without and with a
  bracket;
* `Agg.step_spec` : which steps a bracket brings about, and that it changes nothing else;
* `Agg.step_stops_at_zip` : that it does not reach all that is read.
-/

namespace SeriesQuery

variable {α : Type}

/-! ## Shifts -/

theorem Shift.step_apply (s : Shift) (w : Window) : (s.apply w).step = s.step.getD w.step := by
  unfold apply
  cases s.step <;> rfl

/-- The two ends of a moved window do not depend on steps. -/
theorem Shift.apply_withStep_congr {s t : Shift} {v w : Window} (hs : s.offset = t.offset)
    (hw : v.withStep 0 = w.withStep 0) : (s.apply v).withStep 0 = (t.apply w).withStep 0 := by
  obtain ⟨hstart, hstop, -⟩ := Window.mk.inj hw
  unfold apply Window.withStep Window.shift
  cases s.step <;> cases t.step <;> simp [hs, hstart, hstop]

/-- A request but for its step. -/
def ScanQuery.unstepped (q : ScanQuery) : ScanQuery := { q with window := q.window.withStep 0 }

theorem Leaf.unstepped_query_congr {leaf : Leaf} {s : Shift} {v w : Window}
    (hs : s.offset = leaf.shift.offset) (hw : v.withStep 0 = w.withStep 0) :
    (({ leaf with shift := s } : Leaf).query v).unstepped = (leaf.query w).unstepped :=
  congrArg (ScanQuery.mk · leaf.event leaf.filter) (Shift.apply_withStep_congr hs hw)

namespace Agg

/-! ## Steps of the leaves -/

mutual

/-- For each leaf, in tree order, the step that is set nearest to it. -/
def steps : Agg α → List (Option Int)
  | .scan leaf _ => [leaf.shift.step]
  | .zip parts _ shift => (stepsOf parts).map (·.or shift.step)
  | .collapse part _ => part.steps
  | .op x y _ => x.steps ++ y.steps
  | .value .. => []

def stepsOf : List (Agg α) → List (Option Int)
  | [] => []
  | part :: parts => part.steps ++ stepsOf parts

end

/-- For each leaf the step that a bracket does not replace: the one that is set inside the first zip
on the way. -/
def keptSteps : Agg α → List (Option Int)
  | .scan .. => [none]
  | .zip parts _ _ => stepsOf parts
  | .collapse part _ => part.keptSteps
  | .op x y _ => x.keptSteps ++ y.keptSteps
  | .value .. => []

mutual

/-- Where no step is set, that of the window counts. -/
theorem map_step_queries : ∀ (a : Agg α) (w : Window),
    (a.queries w).map (·.window.step) = a.steps.map (·.getD w.step)
  | .scan leaf _, w => congrArg ([·]) (leaf.shift.step_apply w)
  | .zip parts _ shift, w => by
    rw [queries, steps, map_step_queriesOf parts, shift.step_apply, List.map_map]
    refine List.map_congr_left fun step _ => ?_
    cases step <;> rfl
  | .collapse part _, w => map_step_queries part w
  | .op x y _, w => by
    rw [queries, steps, List.map_append, List.map_append, map_step_queries x w,
      map_step_queries y w]
  | .value .., _ => rfl

theorem map_step_queriesOf : ∀ (parts : List (Agg α)) (w : Window),
    (queriesOf parts w).map (·.window.step) = (stepsOf parts).map (·.getD w.step)
  | [], _ => rfl
  | part :: parts, w => by
    rw [queriesOf, stepsOf, List.map_append, List.map_append, map_step_queries part w,
      map_step_queriesOf parts w]

end

theorem steps_shiftStep (step : Int) : ∀ a : Agg α,
    (a.shiftStep step).steps = a.keptSteps.map (·.or (some step))
  | .scan .. | .zip .. | .value .. => rfl
  | .collapse part _ => steps_shiftStep step part
  | .op x y _ => by
    rw [shiftStep, steps, keptSteps, List.map_append, steps_shiftStep step x,
      steps_shiftStep step y]

theorem map_step_queries_shiftStep (a : Agg α) (step : Int) (w : Window) :
    ((a.shiftStep step).queries w).map (·.window.step) = a.keptSteps.map (·.getD step) := by
  rw [map_step_queries, steps_shiftStep, List.map_map]
  refine List.map_congr_left fun kept _ => ?_
  cases kept <;> rfl

/-! ## All but the steps -/

mutual

theorem unstepped_queries_congr : ∀ (a : Agg α) {v w : Window}, v.withStep 0 = w.withStep 0 →
    (a.queries v).map ScanQuery.unstepped = (a.queries w).map ScanQuery.unstepped
  | .scan leaf _, _, _, h => congrArg ([·]) (leaf.unstepped_query_congr rfl h)
  | .zip parts _ _, _, _, h =>
    unstepped_queriesOf_congr parts (Shift.apply_withStep_congr rfl h)
  | .collapse part _, _, _, h => unstepped_queries_congr part h
  | .op x y _, _, _, h => by
    rw [queries, queries, List.map_append, List.map_append, unstepped_queries_congr x h,
      unstepped_queries_congr y h]
  | .value .., _, _, _ => rfl

theorem unstepped_queriesOf_congr : ∀ (parts : List (Agg α)) {v w : Window},
    v.withStep 0 = w.withStep 0 →
      (queriesOf parts v).map ScanQuery.unstepped = (queriesOf parts w).map ScanQuery.unstepped
  | [], _, _, _ => rfl
  | part :: parts, _, _, h => by
    rw [queriesOf, queriesOf, List.map_append, List.map_append, unstepped_queries_congr part h,
      unstepped_queriesOf_congr parts h]

end

theorem unstepped_queries_shiftStep (step : Int) (w : Window) : ∀ a : Agg α,
    ((a.shiftStep step).queries w).map ScanQuery.unstepped =
      (a.queries w).map ScanQuery.unstepped
  | .scan leaf _ => congrArg ([·]) (leaf.unstepped_query_congr rfl rfl)
  | .zip parts _ _ => unstepped_queriesOf_congr parts (Shift.apply_withStep_congr rfl rfl)
  | .collapse part _ => unstepped_queries_shiftStep step w part
  | .op x y _ => by
    rw [shiftStep, queries, queries, List.map_append, List.map_append,
      unstepped_queries_shiftStep step w x, unstepped_queries_shiftStep step w y]
  | .value .. => rfl

/-! ## Brackets -/

/-- **What a step bracket reaches. With the step behind it an aggregate asks for the same events
over the same times as before, with that step wherever no other one is set inside a zip, and with
the one set there otherwise. So everything is asked for with the step of the bracket just if no zip
holds a different one.** -/
theorem step_spec (a : Agg α) (step : Int) (w : Window) :
    ((a.shiftStep step).queries w).map (·.window.step) = a.keptSteps.map (·.getD step) ∧
      ((a.shiftStep step).queries w).map ScanQuery.unstepped =
        (a.queries w).map ScanQuery.unstepped ∧
      ((∀ q ∈ (a.shiftStep step).queries w, q.window.step = step) ↔
        ∀ kept ∈ a.keptSteps, kept = none ∨ kept = some step) := by
  have hsteps := a.map_step_queries_shiftStep step w
  refine ⟨hsteps, a.unstepped_queries_shiftStep step w, ?_⟩
  -- A step that is kept does no harm if it is the one of the bracket.
  have hget (kept : Option Int) : kept.getD step = step ↔ kept = none ∨ kept = some step := by
    cases kept <;> simp
  calc (∀ q ∈ (a.shiftStep step).queries w, q.window.step = step)
      ↔ ∀ t ∈ ((a.shiftStep step).queries w).map (·.window.step), t = step := by
        simp only [List.forall_mem_map]
    _ ↔ ∀ kept ∈ a.keptSteps, kept.getD step = step := by
        rw [hsteps]
        simp only [List.forall_mem_map]
    _ ↔ ∀ kept ∈ a.keptSteps, kept = none ∨ kept = some step := by simp only [hget]

/-- A minute inside a zip is not replaced by the hour behind it, as it is behind a collapse. -/
theorem step_stops_at_zip :
    let foo : Agg Float := .scan ⟨"foo", .empty, { step := some 60000 }⟩ .sum
    let bar : Agg Float := .scan ⟨"bar", .empty, {}⟩ .sum
    let a : Agg Float := zip [foo, bar] .sum {}
    let w : Window := ⟨0, 7200000, 1000⟩
    (0 : Int) < 3600000 ∧ ¬ (∀ q ∈ (a.shiftStep 3600000).queries w, q.window.step = 3600000) ∧
      ((a.shiftStep 3600000).queries w).map (·.window.step) = [60000, 3600000] ∧
      ((collapse a .sum).shiftStep 3600000).queries w = (a.shiftStep 3600000).queries w ∧
      ((collapse foo .sum).shiftStep 3600000).queries w = [⟨w.withStep 3600000, "foo", .empty⟩] ∧
      ∃ q, Query.ofText "!zipsum{foo[1m], bar}[1h]" "" = .ok q ∧
        q.queries w = (a.shiftStep 3600000).queries w := by
  intro foo bar a w
  have hread : (Query.ofText "!zipsum{foo[1m], bar}[1h]" "").toOption.any (fun q =>
      q.queries w = (a.shiftStep 3600000).queries w) = true := by
    decide +kernel
  obtain ⟨q, hq, hqueries⟩ := exists_of_toOption_any hread
  refine ⟨by decide, by decide +kernel, by decide +kernel, by decide +kernel, by decide +kernel,
    q, hq, ?_⟩
  exact of_decide_eq_true hqueries

end Agg

end SeriesQuery
