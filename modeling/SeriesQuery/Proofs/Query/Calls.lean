import SeriesQuery.Proofs.Distinct
import SeriesQuery.Proofs.Except
import SeriesQuery.Query.Report

/-!
# Calls of the scanner

A query calls the scanner once for its whole plan, or not at all.

* `Query.requests q options w` : what a plan is made of, `Query.plan_eq`;
* `Scanner.noting answer` : a scanner that writes down what it is asked;
* `Execution` : the result of a query text together with the calls made for it, `Execution.of_eq`;
* `Execution.Orderly`, `Query.PlansWell` : what is promised of calls and of plans;
* `Execution.calls_spec` : every execution keeps these promises.
-/

namespace SeriesQuery

/-! ## Plans -/

namespace Query

variable {α : Type}

/-- The requests of a plan, whether they are too many or not. -/
def requests (q : Query α) (options : QueryOptions) (w : Window) : List ScanQuery :=
  if options.distinctScans then unrepeated (q.queries w) else q.queries w

theorem plan_eq (q : Query α) (options : QueryOptions) (w : Window) :
    q.plan options w =
      if 0 < options.maxScans ∧ options.maxScans < (q.requests options w).length then
        .error (.tooManyScans (q.requests options w).length options.maxScans)
      else .ok (q.requests options w) := by
  unfold plan requests
  rw [distinct_eq_unrepeated]

theorem plan_eq_ok {q : Query α} {options : QueryOptions} {w : Window} {qs : List ScanQuery}
    (h : q.plan options w = .ok qs) : qs = q.requests options w := by
  rw [plan_eq] at h
  split at h
  · contradiction
  · exact (Except.ok.inj h).symm

theorem plan_eq_error_iff {q : Query α} {options : QueryOptions} {w : Window} {e : QueryError} :
    q.plan options w = .error e ↔
      0 < options.maxScans ∧ options.maxScans < (q.requests options w).length ∧
        e = .tooManyScans (q.requests options w).length options.maxScans := by
  rw [plan_eq]
  split
  · next hmany =>
    constructor
    · exact fun h => ⟨hmany.1, hmany.2, (Except.error.inj h).symm⟩
    · rintro ⟨-, -, rfl⟩
      rfl
  · next hfew => exact ⟨nofun, fun ⟨hpos, hlt, _⟩ => absurd ⟨hpos, hlt⟩ hfew⟩

/-- What is promised of the plans of a query. -/
structure PlansWell (q : Query α) (options : QueryOptions) (w : Window) : Prop where
  /-- All requests, repetitions included. -/
  all : options.distinctScans = false → ∀ qs, q.plan options w = .ok qs → qs = q.queries w
  /-- Without each request that equals an earlier one: no two are equal, the order is kept, and
  nothing is missing. -/
  distinct : options.distinctScans = true → ∀ qs, q.plan options w = .ok qs →
    qs = unrepeated (q.queries w) ∧ qs.Nodup ∧ qs.Sublist (q.queries w) ∧ q.queries w ⊆ qs
  /-- A limit other than zero is kept, and it counts what is left of the requests. -/
  limited : ∀ e, q.plan options w = .error e ↔
    0 < options.maxScans ∧ options.maxScans < (q.requests options w).length ∧
      e = .tooManyScans (q.requests options w).length options.maxScans

theorem plansWell (q : Query α) (options : QueryOptions) (w : Window) :
    q.PlansWell options w where
  all hoff qs hplan := by
    rw [plan_eq_ok hplan, requests, hoff]
    rfl
  distinct hon qs hplan := by
    have hqs : qs = unrepeated (q.queries w) := by
      rw [plan_eq_ok hplan, requests, hon]
      rfl
    refine ⟨hqs, ?_⟩
    rw [hqs, ← distinct_eq_unrepeated]
    exact ⟨nodup_distinct _, sublist_distinctBy _, fun p hp => mem_distinct_iff.mpr hp⟩
  limited _ := plan_eq_error_iff

end Query

/-! ## Executions -/

/-- A scanner that writes down what it is asked. -/
def Scanner.noting {α : Type} (answer : List ScanQuery → Except String (Results α)) :
    Scanner (StateM (List (List ScanQuery))) α := fun qs => do
  modify (· ++ [qs])
  return answer qs

/-- What became of a query text. -/
structure Execution where
  result : Except QueryError (QueryReport Float)
  /-- What the scanner was asked, call by call. -/
  calls : List (List ScanQuery)

namespace Execution

/-- The execution with a scanner that answers so. -/
def of (options : QueryOptions) (answer : List ScanQuery → Except String (Results Float))
    (w : Window) (source : String) : Execution :=
  let (result, calls) :=
    Id.run ((Query.executeText options (Scanner.noting answer) w source).run [])
  ⟨result, calls⟩

variable {options : QueryOptions} {answer : List ScanQuery → Except String (Results Float)}
  {w : Window} {source : String}

theorem of_unread {e : QueryError} (h : Query.ofText source options.missing = .error e) :
    of options answer w source = ⟨.error e, []⟩ := by
  unfold of Query.executeText
  rw [h]
  rfl

theorem of_unplanned {q : Query Float} (hq : Query.ofText source options.missing = .ok q)
    {e : QueryError} (h : q.plan options w = .error e) :
    of options answer w source = ⟨.error e, []⟩ := by
  unfold of Query.executeText
  rw [hq]
  dsimp only [Query.execute]
  rw [h]
  rfl

theorem of_planned {q : Query Float} (hq : Query.ofText source options.missing = .ok q)
    {qs : List ScanQuery} (h : q.plan options w = .ok qs) :
    of options answer w source = ⟨q.report w qs (answer qs), [qs]⟩ := by
  unfold of Query.executeText
  rw [hq]
  dsimp only [Query.execute]
  rw [h]
  rfl

/-- An execution ends while the text is read, while it is planned, or with the report on the one
answer of the scanner. -/
theorem of_cases (options : QueryOptions) (answer : List ScanQuery → Except String (Results Float))
    (w : Window) (source : String) :
    (∃ e, (of options answer w source = ⟨.error e, []⟩) ∧
      ¬∃ q qs, Query.ofText source options.missing = .ok q ∧ q.plan options w = .ok qs) ∨
    ∃ q qs, Query.ofText source options.missing = .ok q ∧ q.plan options w = .ok qs ∧
      of options answer w source = ⟨q.report w qs (answer qs), [qs]⟩ := by
  cases hq : Query.ofText source options.missing with
  | error e => exact Or.inl ⟨e, of_unread hq, fun ⟨_, _, h, _⟩ => nomatch h⟩
  | ok q =>
    cases hplan : q.plan options w with
    | error e =>
      refine Or.inl ⟨e, of_unplanned hq hplan, fun ⟨q', qs, hq', h⟩ => ?_⟩
      rw [← Except.ok.inj hq', hplan] at h
      contradiction
    | ok qs => exact Or.inr ⟨q, qs, rfl, hplan, of_planned hq hplan⟩

/-- What is promised of the calls made for a query text. -/
structure Orderly (options : QueryOptions)
    (answer : List ScanQuery → Except String (Results Float)) (w : Window) (source : String)
    (x : Execution) : Prop where
  once : x.calls.length ≤ 1
  /-- The scanner is called if there is a query and a plan, and with this plan. -/
  called : ∀ qs, qs ∈ x.calls ↔
    ∃ q, Query.ofText source options.missing = .ok q ∧ q.plan options w = .ok qs
  /-- The scanner's message is all that is left if the scan fails. -/
  unanswered : ∀ qs ∈ x.calls, ∀ message, answer qs = .error message →
    x.result = .error (.scan message)
  /-- A report tells how much was asked and how much was answered. -/
  counted : ∀ report, x.result = .ok report → ∃ qs found, x.calls = [qs] ∧
    answer qs = .ok found ∧ report.scanQueries = qs.length ∧ report.seriesScanned = found.size

theorem exists_of_report_ok {q : Query Float} {qs : List ScanQuery}
    {a : Except String (Results Float)} {report : QueryReport Float}
    (h : q.report w qs a = .ok report) : ∃ found, a = .ok found ∧
      report.scanQueries = qs.length ∧ report.seriesScanned = found.size := by
  cases a with
  | error message => contradiction
  | ok found =>
    obtain ⟨outputs, -, h⟩ := bind_eq_ok.mp h
    obtain rfl := Except.ok.inj h
    exact ⟨found, rfl, rfl, rfl⟩

theorem orderly (options : QueryOptions) (answer : List ScanQuery → Except String (Results Float))
    (w : Window) (source : String) :
    (of options answer w source).Orderly options answer w source := by
  rcases of_cases options answer w source with ⟨e, hof, hnone⟩ | ⟨q, qs, hq, hplan, hof⟩
  · rw [hof]
    refine ⟨Nat.zero_le 1, fun qs => ⟨fun h => ?_, ?_⟩, fun _ h => ?_, fun _ h => ?_⟩
    · exact absurd h List.not_mem_nil
    · exact fun ⟨q, h⟩ => absurd ⟨q, qs, h⟩ hnone
    · exact absurd h List.not_mem_nil
    · contradiction
  · rw [hof]
    refine ⟨Nat.le_refl 1, fun qs' => ?_, fun qs' h message hanswer => ?_, fun report h => ?_⟩
    · rw [List.mem_singleton]
      constructor
      · rintro rfl
        exact ⟨q, hq, hplan⟩
      · rintro ⟨q', hq', hplan'⟩
        obtain rfl := Except.ok.inj (hq.symm.trans hq')
        exact Except.ok.inj (hplan'.symm.trans hplan)
    · rw [List.mem_singleton.mp h] at hanswer
      exact congrArg (q.report w qs) hanswer
    · obtain ⟨found, hfound, hcounts⟩ := exists_of_report_ok h
      exact ⟨qs, found, rfl, hfound, hcounts⟩

/-- **How a query calls the scanner. Whatever the scanner answers, it is called at most once: just
if the text is a query that has a plan, and with this plan. The plan is made of all requests, or of
those that equal no earlier one, and there is none just if these are more than a limit allows. If
the scan fails its message is the error, and a report tells the numbers of requests and of
series.** -/
theorem calls_spec (options : QueryOptions)
    (answer : List ScanQuery → Except String (Results Float)) (w : Window) (source : String) :
    (of options answer w source).Orderly options answer w source ∧
      ∀ q : Query Float, q.PlansWell options w :=
  ⟨orderly options answer w source, fun q => q.plansWell options w⟩

end Execution

end SeriesQuery
