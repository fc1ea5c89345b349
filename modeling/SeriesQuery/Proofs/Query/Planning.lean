import SeriesQuery.Proofs.Distinct
import SeriesQuery.Proofs.Query.Leaves
import SeriesQuery.Proofs.Store.Scan
import SeriesQuery.Query.Report

/-!
# Plan and evaluation

Requests are planned before there is data, and data is read without looking at the requests. What is
read was asked for, and asking twice for it makes no difference.

* `ScanQuery.covers q s` : the request is for the series, or for a part of it;
* `ScanQuery.covered qs xs` : the series that some request covers;
* `Leaf.select_covered`, `Agg.evaluate_covered` : no other series is read;
* `Agg.covered_spec` : this for aggregates and leaves;
* `Store.scan_distinct` : a store gives the same answer to requests without their repetitions;
* `Query.WithinLimit q options w` : the plan does not fail (`Query.exists_plan`);
* `Scanner.ofAnswers`, `Query.outputsWith` : a scanner that answers each request for itself, and the
  outputs of a query that is executed with a scanner;
* `Query.distinct_spec` : repetitions in the plan do not show.
-/

namespace SeriesQuery

variable {α : Type}

/-! ## What is read -/

namespace ScanQuery

/-- The series is of the event and accepted, and its window is the one asked for, inside it or
around it. -/
def covers (q : ScanQuery) (s : Series α) : Bool :=
  s.event = q.event && q.filter.accepts s.fields &&
    q.window.relate s.window ∈ [Relation.equal, .between, .around]

def covered (qs : List ScanQuery) (xs : List (Series α)) : List (Series α) :=
  xs.filter fun s => qs.any (·.covers s)

theorem covered_distinct (qs : List ScanQuery) (xs : List (Series α)) :
    covered (distinctBy id qs) xs = covered qs xs := by
  refine List.filter_congr fun s _ => Bool.eq_iff_iff.mpr ?_
  rw [List.any_eq_true, List.any_eq_true]
  simp only [mem_distinct_iff]

end ScanQuery

open ScanQuery

namespace Leaf

theorem fit?_eq_none {leaf : Leaf} {w : Window} {s : Series α} (ha : leaf.accepts s = true)
    (h : (leaf.query w).covers s = false) : fit? (leaf.window w) s = none := by
  refine fit?_eq_none_iff.mpr fun hmem => ?_
  have hcovers : (leaf.query w).covers s =
      (leaf.accepts s &&
        decide ((leaf.window w).relate s.window ∈ [Relation.equal, .between, .around])) := rfl
  rw [hcovers, ha, decide_eq_true hmem] at h
  contradiction

/-- A leaf takes nothing that its request does not cover. -/
theorem select_covered {leaf : Leaf} {w : Window} {qs : List ScanQuery}
    (h : leaf.query w ∈ qs) (xs : List (Series α)) :
    leaf.select w (covered qs xs) = leaf.select w xs := by
  unfold select covered
  rw [List.filter_filter, List.filterMap_filter, List.filterMap_filter]
  refine List.filterMap_congr fun s _ => ?_
  -- a series that no request covers is not covered by the leaf's own either
  by_cases hc : qs.any (·.covers s) = true
  · rw [hc, Bool.and_true]
  · have hleaf : (leaf.query w).covers s = false :=
      Bool.not_eq_true _ ▸ fun ht => hc (List.any_eq_true.mpr ⟨_, h, ht⟩)
    by_cases ha : leaf.accepts s = true
    · rw [fit?_eq_none ha hleaf, ite_self, ite_self]
    · simp [ha]

end Leaf

namespace Agg

variable [Sample α]

/-- An aggregate reads nothing that its requests do not cover. -/
theorem evaluate_covered {a : Agg α} {w : Window} {qs : List ScanQuery} (h : a.queries w ⊆ qs)
    (xs : List (Series α)) : a.evaluate w (covered qs xs) = a.evaluate w xs := by
  refine a.evaluate_congr w _ _ fun site hs => Leaf.select_covered (h ?_) xs
  rw [queries_eq]
  exact List.mem_map_of_mem hs

/-- **What is read was asked for. Among the series that its requests cover an aggregate has the same
value, or the same error, as among all series, and a raw scan the same outputs. Repeated requests
cover nothing more.** -/
theorem covered_spec (a : Agg α) (leaf : Leaf) (w : Window) (xs : List (Series α)) :
    a.evaluate w xs = a.evaluate w (covered (a.queries w) xs) ∧
      (Node.scan leaf).evaluate w xs =
        (Node.scan leaf).evaluate w (covered ((Node.scan leaf : Node α).queries w) xs) ∧
      ∀ qs : List ScanQuery, covered (distinctBy id qs) xs = covered qs xs := by
  refine ⟨(evaluate_covered (List.Subset.refl _) xs).symm, ?_, fun qs => covered_distinct qs xs⟩
  have hleaf : leaf.select w (covered [leaf.query w] xs) = leaf.select w xs :=
    Leaf.select_covered (List.mem_singleton_self _) xs
  rw [Node.evaluate, Node.evaluate, Node.queries, hleaf]

end Agg

/-! ## Repeated requests -/

variable [Sample α]

/-- The first request without a positive step fails the scan, with or without repetitions. -/
theorem Store.scan_distinct (s : Store α) (qs : List ScanQuery) :
    s.scan (distinctBy id qs) = s.scan qs := by
  cases hfind : qs.find? (·.window.step ≤ 0) with
  | some q =>
    rw [s.scan_invalid qs q hfind, s.scan_invalid _ q ((find?_distinct _ qs).trans hfind)]
  | none =>
    have hpos : ∀ q ∈ qs, 0 < q.window.step := by
      intro q hq
      have hnot := List.find?_eq_none.mp hfind q hq
      simpa using hnot
    rw [s.scan_eq qs hpos, s.scan_eq _ fun q hq => hpos q (mem_distinct_iff.mp hq),
      Store.answersTo, distinctBy_flatMap_distinctBy]
    rfl

/-- A scanner that answers each request for itself, one answer behind the other. -/
def Scanner.ofAnswers (answer : ScanQuery → List (Series α)) : Scanner Id α :=
  fun qs => pure (.ok ⟨qs.flatMap answer⟩)

namespace Query

/-- No limit, or one that all requests stay within. -/
def WithinLimit (q : Query α) (options : QueryOptions) (w : Window) : Prop :=
  options.maxScans = 0 ∨ (q.queries w).length ≤ options.maxScans

omit [Sample α] in
/-- Within the limit the plan is made of all requests. -/
theorem exists_plan {q : Query α} {w : Window} {options : QueryOptions}
    (hmax : q.WithinLimit options w) :
    ∃ plan, q.plan options w = .ok plan ∧
      (plan = distinctBy id (q.queries w) ∨ plan = q.queries w) := by
  have hlimit : ¬(0 < options.maxScans ∧ options.maxScans <
      (if options.distinctScans then distinctBy id (q.queries w) else q.queries w).length) := by
    have hle : (distinctBy id (q.queries w)).length ≤ (q.queries w).length :=
      (sublist_distinctBy _).length_le
    rcases hmax with hzero | hmax
    · omega
    · split <;> omega
  refine ⟨_, if_neg hlimit, ?_⟩
  split
  · exact Or.inl rfl
  · exact Or.inr rfl

/-- The outputs of a query that is executed with a scanner. -/
def outputsWith (q : Query α) (options : QueryOptions) (scan : Scanner Id α) (w : Window) :
    Except QueryError (List (Output α)) :=
  (Id.run (q.execute options scan w)).map (·.outputs)

theorem outputs_report (q : Query α) (w : Window) (qs : List ScanQuery) (found : Results α) :
    (q.report w qs (.ok found)).map (·.outputs) = q.evaluate w found.toList := by
  show (q.evaluate w found.toList >>= _).map _ = _
  cases q.evaluate w found.toList <;> rfl

/-- Within the limit the outputs are those of all requests, repetitions or not. -/
theorem outputsWith_ofAnswers {q : Query α} {w : Window} {options : QueryOptions}
    (hmax : q.WithinLimit options w) (answer : ScanQuery → List (Series α)) :
    q.outputsWith options (Scanner.ofAnswers answer) w =
      q.evaluate w ((q.queries w).flatMap answer) := by
  obtain ⟨plan, hplan, heq⟩ := exists_plan hmax
  have hreport : q.outputsWith options (Scanner.ofAnswers answer) w =
      q.evaluate w (plan.flatMap answer) := by
    rw [outputsWith, execute, hplan]
    exact q.outputs_report w plan ⟨plan.flatMap answer⟩
  rw [hreport]
  rcases heq with rfl | rfl
  · rw [evaluate, evaluate, distinctBy_flatMap_distinctBy]
  · rfl

/-- **Repetitions in the plan do not show. With a scanner that answers each request for itself the
outputs, or the error, are the same whether repeated requests are sent once or every time. A store
gives the same answer to requests with and without their repetitions.** -/
theorem distinct_spec (q : Query α) (w : Window) (options : QueryOptions)
    (answer : ScanQuery → List (Series α)) (s : Store α) (qs : List ScanQuery) :
    q.outputsWith { options with distinctScans := true, maxScans := 0 }
        (Scanner.ofAnswers answer) w =
      q.outputsWith { options with distinctScans := false, maxScans := 0 }
        (Scanner.ofAnswers answer) w ∧
      s.scan (distinctBy id qs) = s.scan qs :=
  ⟨(outputsWith_ofAnswers (Or.inl rfl) answer).trans
    (outputsWith_ofAnswers (Or.inl rfl) answer).symm, s.scan_distinct qs⟩

end Query

end SeriesQuery
