import SeriesQuery.CommandLine.Period
import SeriesQuery.Proofs.Query.Calls
import SeriesQuery.Proofs.Query.Steps
import SeriesQuery.Proofs.Store.Scan

/-!
# Plans that a store answers

A store refuses a request whose step is not positive. No plan holds such a request: the steps in a
query are positive, and so is the step of a window that is read from a command.

* `CommandLine.Period.step_pos` : the windows of commands;
* `Query.mem_queries_of_mem_plan` : a plan is made of what the query asks for;
* `Query.answered_spec` : every store answers every plan.
-/

namespace SeriesQuery

theorem CommandLine.Period.step_pos {p : Period} {now : Int} {w : Window}
    (h : p.window now = .ok w) : 0 < w.step := by
  unfold window at h
  obtain ⟨step, -, h⟩ := bind_eq_ok.mp h
  dsimp only at h
  split at h
  · obtain ⟨_, h, -⟩ := bind_eq_ok.mp h
    exact absurd h nofun
  · next hstep =>
    obtain ⟨stop, -, h⟩ := bind_eq_ok.mp h
    obtain ⟨start, -, h⟩ := bind_eq_ok.mp h
    split at h
    · obtain ⟨_, h, -⟩ := bind_eq_ok.mp h
      exact absurd h nofun
    · rw [← Except.ok.inj h]
      exact Int.not_le.mp hstep

namespace Query

theorem mem_queries_of_mem_plan {α : Type} {q : Query α} {options : QueryOptions} {w : Window}
    {plan : List ScanQuery} (h : q.plan options w = .ok plan) {p : ScanQuery} (hp : p ∈ plan) :
    p ∈ q.queries w := by
  rw [plan_eq_ok h] at hp
  unfold requests at hp
  split at hp
  · rwa [← distinct_eq_unrepeated, mem_distinct_iff] at hp
  · exact hp

/-- **Every plan is answered. A query from a text asks only for positive steps over a window with a
positive step, as windows of commands have it; so the scan of its plan succeeds, whatever is in the
store.** -/
theorem answered_spec {source missing : String} {q : Query Float}
    (h : Query.ofText source missing = .ok q) {w : Window} (hw : 0 < w.step) :
    (∀ p ∈ q.queries w, 0 < p.window.step) ∧
      (∀ (α : Type) [Sample α] (s : Store α) (options : QueryOptions) (plan : List ScanQuery),
        q.plan options w = .ok plan → ∃ found, s.scan plan = .ok found) ∧
      ∀ (p : CommandLine.Period) (now : Int) (v : Window), p.window now = .ok v → 0 < v.step := by
  have hpos : ∀ p ∈ q.queries w, 0 < p.window.step := fun p hp => step_pos_of_mem_queries h hw hp
  refine ⟨hpos, fun α _ s options plan hplan => ?_, fun _ _ _ => CommandLine.Period.step_pos⟩
  exact ⟨_, s.scan_eq plan fun p hp => hpos p (mem_queries_of_mem_plan hplan hp)⟩

/-- A step of its own inside a zip with another one, and a zip that sets the step of its parts. -/
theorem answered_spec_brackets :
    let w : Window := ⟨0, 600000, 1000⟩
    ∃ q, Query.ofText "x: !zipsum{foo[5s], !vmax{bar}}[2s] + foo[m]" "" = .ok q ∧ 0 < w.step ∧
      (q.queries w).map (·.window.step) = [5000, 2000, 60000] ∧
      (∀ p ∈ q.queries w, 0 < p.window.step) ∧
      ∀ (s : Store Float) (options : QueryOptions) (plan : List ScanQuery),
        q.plan options w = .ok plan → ∃ found, s.scan plan = .ok found := by
  intro w
  have hread : (Query.ofText "x: !zipsum{foo[5s], !vmax{bar}}[2s] + foo[m]" "").toOption.any
      (fun q => (q.queries w).map (·.window.step) = [5000, 2000, 60000]) = true := by
    decide +kernel
  obtain ⟨q, hq, hsteps⟩ := exists_of_toOption_any hread
  obtain ⟨hpos, hscan, -⟩ := answered_spec hq (w := w) (by decide)
  exact ⟨q, hq, by decide, of_decide_eq_true hsteps, hpos, hscan Float⟩

end Query

end SeriesQuery
