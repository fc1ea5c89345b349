import SeriesQuery.Proofs.Query.Calls
import SeriesQuery.Proofs.Query.Groups
import SeriesQuery.Proofs.Query.Operands

/-!
# What can still fail after the scan

Once the scanner has answered, a query can fail in one way only: an operation has operands of
different sizes. The sizes follow from the query and its window, so they could be compared before
the scan. The data decides no more than whether a group has a bucket to compare them in.

* `Group.clash? g w xs`, `Query.clash? q w xs` : the first operands of different sizes that a group
  or a query comes upon;
* `Settles x o` : `x` fails just for the clash `o`, one lemma for each way of putting computations
  together;
* `Query.settles_evaluate` : queries fail just for their clashes;
* `Execution.failures_spec` : so does a query text whose scan did not fail;
* `Execution.fails_behind_scan` : and such a text there is.
-/

namespace SeriesQuery

variable {α β : Type}

/-! ## Clashes -/

/-- The first operands of different sizes in the aggregates, if there is a bucket to compute them
for. -/
def Group.clash? (g : Group α) (w : Window) (xs : List (Series α)) : Option (Window × Window) :=
  if g.keys xs = [] then none else g.nodes.findSome? (·.agg.mismatch? w)

/-- The first clash of the groups, in tree order. -/
def Query.clash? (q : Query α) (w : Window) (xs : List (Series α)) : Option (Window × Window) :=
  q.groups.findSome? (·.clash? w (distinctBy Series.key xs))

theorem Query.clash?_eq_none {q : Query α} {w : Window}
    (h : ∀ g ∈ q.groups, ∀ n ∈ g.nodes, n.agg.mismatch? w = none) (xs : List (Series α)) :
    q.clash? w xs = none := by
  refine List.findSome?_eq_none_iff.mpr fun g hg => ?_
  unfold Group.clash?
  split
  · rfl
  · exact List.findSome?_eq_none_iff.mpr (h g hg)

/-! ## Failing just for a clash -/

/-- The computation fails with the sizes of the clash, and succeeds if there is none. -/
def Settles (x : Except QueryError α) (clash : Option (Window × Window)) : Prop :=
  Matches (fun _ _ => True) x (Agg.settle clash ())

namespace Settles

variable {x : Except QueryError α} {clash : Option (Window × Window)}

theorem ok (a : α) : Settles (.ok a) none := Matches.ok trivial

theorem error_iff (h : Settles x clash) (e : QueryError) :
    x = .error e ↔ ∃ u v, clash = some (u, v) ∧ e = .operandSizes u.count v.count := by
  rw [Matches.error_iff h e]
  cases clash with
  | none => exact ⟨nofun, fun ⟨_, _, h, _⟩ => nomatch h⟩
  | some p =>
    constructor
    · exact fun he => ⟨p.1, p.2, rfl, (Except.error.inj he).symm⟩
    · rintro ⟨u, v, hp, rfl⟩
      rw [Option.some.inj hp]
      rfl

theorem bind (h : Settles x clash) {f : α → Except QueryError β} {more : Option (Window × Window)}
    (hf : ∀ a, Settles (f a) more) : Settles (x >>= f) (clash.or more) := by
  cases clash with
  | none =>
    cases h with
    | ok _ => exact hf _
  | some p =>
    cases h with
    | error _ => exact .error _

theorem map (h : Settles x clash) (f : α → β) : Settles (x >>= fun a => .ok (f a)) clash := by
  have hbind := h.bind fun a => Settles.ok (f a)
  rwa [Option.or_none] at hbind

/-- Of the clashes in a list of computations the first one counts. -/
theorem mapM {f : α → Except QueryError β} {clash : α → Option (Window × Window)} {xs : List α}
    (h : ∀ x ∈ xs, Settles (f x) (clash x)) : Settles (xs.mapM f) (xs.findSome? clash) := by
  induction xs with
  | nil => exact .ok []
  | cons x xs ih =>
    obtain ⟨hx, hxs⟩ := List.forall_mem_cons.mp h
    have hor : (x :: xs).findSome? clash = (clash x).or (xs.findSome? clash) := by
      rw [List.findSome?_cons]
      cases clash x <;> rfl
    rw [List.mapM_cons, hor]
    exact hx.bind fun y => (ih hxs).map (y :: ·)

end Settles

/-! ## Evaluation -/

variable [Sample α]

theorem Agg.settles_evaluate (a : Agg α) (w : Window) (xs : List (Series α)) :
    Settles (a.evaluate w xs) (a.mismatch? w) := by
  have hreach := a.matches_evaluate w xs
  rw [a.reach_eq w] at hreach
  cases hm : a.mismatch? w with
  | none =>
    rw [hm] at hreach
    obtain ⟨s, hs⟩ := hreach.ok_of_ok rfl
    rw [hs]
    exact .ok s
  | some p =>
    rw [hm] at hreach
    rw [(hreach.error_iff _).mpr rfl]
    exact Matches.error _

/-- All buckets fail for the same clash. -/
theorem Group.settles_bucket (g : Group α) (w : Window) (k : Fields) (xs : List (Series α)) :
    Settles (g.bucket w k xs) (g.nodes.findSome? (·.agg.mismatch? w)) :=
  Settles.mapM fun n _ => (n.agg.settles_evaluate w xs).map _

theorem Group.settles_evaluate (g : Group α) (w : Window) (xs : List (Series α)) :
    Settles (g.evaluate w xs) (g.clash? w xs) := by
  have hclash : g.clash? w xs =
      (g.keys xs).findSome? fun _ => g.nodes.findSome? (·.agg.mismatch? w) := by
    unfold clash?
    cases hk : g.keys xs with
    | nil => rfl
    | cons k ks =>
      rw [if_neg (List.cons_ne_nil k ks), List.findSome?_cons]
      cases hn : g.nodes.findSome? (·.agg.mismatch? w) with
      | some p => rfl
      | none => exact (List.findSome?_eq_none_iff.mpr fun _ _ => rfl).symm
  rw [evaluate_eq, hclash]
  exact (Settles.mapM fun k _ => g.settles_bucket w k _).map List.flatten

namespace Node

mutual

theorem settles_evaluate : ∀ (node : Node α) (w : Window) (xs : List (Series α)),
    Settles (node.evaluate w xs) (node.groups.findSome? (·.clash? w xs))
  | .scan leaf, w, xs => .ok _
  | .group g, w, xs => by
    rw [groups, List.findSome?_singleton]
    exact g.settles_evaluate w xs
  | .block nodes, w, xs => settles_evaluateAll nodes w xs

theorem settles_evaluateAll : ∀ (nodes : List (Node α)) (w : Window) (xs : List (Series α)),
    Settles (evaluateAll nodes w xs) ((groupsOf nodes).findSome? (·.clash? w xs))
  | [], _, _ => .ok []
  | node :: nodes, w, xs => by
    rw [evaluateAll, groupsOf, List.findSome?_append]
    exact (settles_evaluate node w xs).bind fun os => (settles_evaluateAll nodes w xs).map (os ++ ·)

end

end Node

/-- Whether a query fails over scanned series, and with which error, is a matter of sizes. -/
theorem Query.settles_evaluate (q : Query α) (w : Window) (xs : List (Series α)) :
    Settles (q.evaluate w xs) (q.clash? w xs) :=
  Node.settles_evaluateAll q.nodes w _

/-! ## Executions -/

namespace Execution

/-- **What can fail once the scanner has answered. After a call of the scanner an error is its own
message, or of operands of different sizes. If the scanner answered with series the query fails just
for the first clash that it comes upon among them, with its sizes; and it fails for no answer if no
aggregate of the query has operands of different sizes over the window.** -/
theorem failures_spec (options : QueryOptions)
    (answer : List ScanQuery → Except String (Results Float)) (w : Window) (source : String) :
    let x := of options answer w source
    (∀ e, x.result = .error e → x.calls ≠ [] →
      (∃ message, e = .scan message) ∨ ∃ left right, e = .operandSizes left right) ∧
      ∀ qs ∈ x.calls, ∀ found, answer qs = .ok found →
        ∃ q, Query.ofText source options.missing = .ok q ∧
          (∀ e, x.result = .error e ↔
            ∃ u v, q.clash? w found.toList = some (u, v) ∧ e = .operandSizes u.count v.count) ∧
          ((∀ g ∈ q.groups, ∀ n ∈ g.nodes, n.agg.mismatch? w = none) →
            ∃ report, x.result = .ok report) := by
  intro x
  rcases of_cases options answer w source with ⟨e, hof, -⟩ | ⟨q, qs, hq, -, hof⟩
  · have hcalls : x.calls = [] := congrArg Execution.calls hof
    exact ⟨fun _ _ hne => absurd hcalls hne, fun qs hqs => by rw [hcalls] at hqs; contradiction⟩
  · have hcalls : x.calls = [qs] := congrArg Execution.calls hof
    have hresult : x.result = q.report w qs (answer qs) := congrArg Execution.result hof
    have hfound (found : Results Float) (hanswer : answer qs = .ok found) :
        Settles x.result (q.clash? w found.toList) := by
      rw [hresult, hanswer]
      exact (q.settles_evaluate w found.toList).map _
    refine ⟨fun e he _ => ?_, fun qs' hqs' found hanswer => ?_⟩
    · cases hanswer : answer qs with
      | error message =>
        rw [hresult, hanswer] at he
        exact Or.inl ⟨message, (Except.error.inj he).symm⟩
      | ok found =>
        obtain ⟨u, v, -, he⟩ := ((hfound found hanswer).error_iff e).mp he
        exact Or.inr ⟨u.count, v.count, he⟩
    · rw [hcalls, List.mem_singleton] at hqs'
      rw [hqs'] at hanswer
      refine ⟨q, hq, (hfound found hanswer).error_iff, fun hnone => ?_⟩
      have hsettles := hfound found hanswer
      rw [Query.clash?_eq_none hnone] at hsettles
      exact Matches.ok_of_ok hsettles rfl

/-- Four seconds, second by second. -/
def seconds : Window := ⟨0, 4000, 1000⟩

/-- A sum has four samples in four seconds, and two if it is taken over steps of two seconds. -/
theorem exists_clash_seconds : ∃ q : Query Float, Query.ofText "foo + foo[2s]" "" = .ok q ∧
    (∃ qs, q.plan {} seconds = .ok qs) ∧
    q.clash? seconds [] = some (seconds, seconds.withStep 2000) := by
  have hread : (Query.ofText "foo + foo[2s]" "").toOption.any (fun q =>
      (q.plan {} seconds).toOption.any fun _ =>
        q.clash? seconds [] = some (seconds, seconds.withStep 2000)) = true := by
    decide +kernel
  obtain ⟨q, hq, hread⟩ := exists_of_toOption_any hread
  obtain ⟨qs, hplan, hclash⟩ := exists_of_toOption_any hread
  exact ⟨q, hq, ⟨qs, hplan⟩, of_decide_eq_true hclash⟩

/-- The sum of two sums that clash, and of two that do not. -/
theorem failures_spec_seconds :
    let answer : List ScanQuery → Except String (Results Float) := fun _ => .ok .empty
    (of {} answer seconds "foo + foo[2s]").calls ≠ [] ∧
      (of {} answer seconds "foo + foo[2s]").result = .error (.operandSizes 4 2) ∧
      ∃ report, (of {} answer seconds "foo + foo[-1:s]").result = .ok report := by
  intro answer
  obtain ⟨q, hq, ⟨qs, hplan⟩, hclash⟩ := exists_clash_seconds
  have hcalled : qs ∈ (of {} answer seconds "foo + foo[2s]").calls :=
    ((orderly {} answer seconds "foo + foo[2s]").called qs).mpr ⟨q, hq, hplan⟩
  refine ⟨List.ne_nil_of_mem hcalled, ?_, ?_⟩
  · obtain ⟨-, hfails⟩ := failures_spec {} answer seconds "foo + foo[2s]"
    obtain ⟨q', hq', herror, -⟩ := hfails qs hcalled .empty rfl
    obtain rfl := Except.ok.inj (hq.symm.trans hq')
    exact (herror _).mpr ⟨_, _, hclash, by decide⟩
  · have hread : (Query.ofText "foo + foo[-1:s]" "").toOption.any (fun q =>
        (q.plan {} seconds).toOption.any fun _ =>
          q.groups.all fun g => g.nodes.all (·.agg.mismatch? seconds = none)) = true := by
      decide +kernel
    obtain ⟨p, hp, hread⟩ := exists_of_toOption_any hread
    obtain ⟨ps, hplan, hnone⟩ := exists_of_toOption_any hread
    have hcalled : ps ∈ (of {} answer seconds "foo + foo[-1:s]").calls :=
      ((orderly {} answer seconds "foo + foo[-1:s]").called ps).mpr ⟨p, hp, hplan⟩
    obtain ⟨-, hfails⟩ := failures_spec {} answer seconds "foo + foo[-1:s]"
    obtain ⟨p', hp', -, hok⟩ := hfails ps hcalled .empty rfl
    obtain rfl := Except.ok.inj (hp.symm.trans hp')
    refine hok fun g hg n hn => ?_
    exact of_decide_eq_true (List.all_eq_true.mp (List.all_eq_true.mp hnone g hg) n hn)

/-- A clash is found when the scanner has been called and has answered. -/
theorem fails_behind_scan :
    ¬∀ (options : QueryOptions) (answer : List ScanQuery → Except String (Results Float))
      (w : Window) (source : String), 0 < w.step →
      ∀ qs ∈ (of options answer w source).calls, ∀ found, answer qs = .ok found →
        ∃ report, (of options answer w source).result = .ok report := by
  intro h
  obtain ⟨q, hq, ⟨qs, hplan⟩, hclash⟩ := exists_clash_seconds
  let answer : List ScanQuery → Except String (Results Float) := fun _ => .ok .empty
  have hcalled : qs ∈ (of {} answer seconds "foo + foo[2s]").calls :=
    ((orderly {} answer seconds "foo + foo[2s]").called qs).mpr ⟨q, hq, hplan⟩
  obtain ⟨report, hreport⟩ := h {} answer seconds "foo + foo[2s]" (by decide) qs hcalled .empty rfl
  rw [of_planned hq hplan] at hreport
  obtain ⟨outputs, houtputs, -⟩ : ∃ outputs, q.evaluate seconds [] = .ok outputs ∧ _ :=
    bind_eq_ok.mp hreport
  have hfails := ((q.settles_evaluate seconds []).error_iff _).mpr ⟨_, _, hclash, rfl⟩
  exact absurd (hfails.symm.trans houtputs) nofun

end Execution

end SeriesQuery
