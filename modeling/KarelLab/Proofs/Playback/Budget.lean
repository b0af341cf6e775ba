import KarelLab.Proofs.Execution.Numbering
import KarelLab.Proofs.Playback.Restrictions

namespace KarelLab

def Recording.Within (r : Recording) (budget : Int) : Prop := (r.ticks.size : Int) ≤ max 0 budget

theorem Recording.within_of_no_ticks {r : Recording} (h : r.ticks = #[]) (budget : Int) :
    r.Within budget := by
  rw [Within, h]
  exact Int.le_max_left 0 budget

namespace Isolation

open Execution

theorem answer_within {code : String} {w : World} {restrictions : Program.Restrictions}
    {budgets : Budgets} {r : Recording}
    (h : answer code w restrictions (readBudgets budgets) = .ok r) : r.Within budgets.maxSteps := by
  rcases answer_cases h with ⟨e, rfl⟩ | ⟨tree, b, -, hb, hr⟩
  · exact Recording.within_of_no_ticks rfl _
  -- a worker reads the number of commands as it was asked for, or nothing at all
  · have hsteps : b.maxSteps = budgets.maxSteps := by
      obtain ⟨n, limit⟩ := budgets
      cases limit with
      | seconds s =>
        cases hb
        rfl
      | huge => cases hb
    rw [← hsteps]
    exact size_le_of_record hr

theorem viaDocuments_within (code : String) (w : World) (restrictions : Program.Restrictions)
    (budgets : Budgets) :
    (viaDocuments code w restrictions budgets).Within budgets.maxSteps := by
  rw [viaDocuments_eq_handle]
  cases hh : handle (request code w restrictions budgets) defaultLimit with
  | error f => exact Recording.within_of_no_ticks rfl _
  | ok r =>
    rw [handle_request] at hh
    cases hr : Document.world .value (Document.ofWorld w) with
    | error es =>
      rw [hr] at hh
      cases hh
    | ok read =>
      rw [hr] at hh
      exact answer_within hh

/-- Whatever happens to a worker, its recording keeps to the budget of commands. -/
theorem recordIsolated_within (code : String) (w : World) (restrictions : Program.Restrictions)
    (budgets : Budgets) (timeout : Binary64) :
    (recordIsolated code w restrictions budgets timeout).Within budgets.maxSteps := by
  rcases recordIsolated_cases code w restrictions budgets timeout with hr | ⟨limit, hr⟩
  · rw [hr]
    exact Recording.within_of_no_ticks rfl _
  · rw [hr]
    exact viaDocuments_within code w restrictions { budgets with limit := limit }

end Isolation

namespace Playback.Player

variable {p q : Player}

theorem record_within {r : Recording} (h : p.record = .ok r) : r.Within p.budgets.maxSteps := by
  rw [record] at h
  split at h
  · cases h
    exact Isolation.recordIsolated_within p.code p.initial p.restrictions p.budgets _
  · exact Execution.size_le_of_record h

/-- A player that runs alone shows no more ticks than its budget allows. -/
theorem length_history_runAlone_le (hn : p.recording = none) (h : p.runAlone = .ok q) :
    (q.history.length : Int) ≤ max 0 p.budgets.maxSteps := by
  by_cases hh : q.history = []
  · rw [hh]
    exact Int.le_max_left 0 _
  · obtain ⟨-, r, -, hrecord, hr⟩ := exists_record_of_runAlone hn h hh
    have hwithin : (r.ticks.size : Int) ≤ max 0 p.budgets.maxSteps := record_within hrecord
    have hshown : q.history.length ≤ r.ticks.size := by
      rw [history_of_some hr, List.length_take, Array.length_toList]
      exact Nat.min_le_right _ _
    omega

theorem Booked.tickAll (h : p.Booked) (n : Nat) : (p.tickAll n).Booked := by
  induction n generalizing p with
  | zero => exact h
  | succ n ih =>
    rw [Player.tickAll]
    cases ht : p.tick? with
    | none => exact h
    | some q => exact ih (h.moves (.tick 0 ht))

theorem Booked.runAlone (h : p.Booked) (hq : p.runAlone = .ok q) : q.Booked := by
  rw [Player.runAlone] at hq
  split at hq
  · cases hq
  · rename_i running p' he
    cases hq
    have hentered : p'.Booked := by
      have hb := h.enter
      rw [he] at hb
      exact hb
    exact hentered.tickAll _

/-- A test counts the steps of a run on its world. -/
theorem stepCount_of_runTest {predicate : Lesson.Predicate} {name : String} {w : World}
    {result : TestResult} (h : p.runTest predicate name w = .ok result) :
    ∃ q, (p.onWorld w).runAlone = .ok q ∧ result.stepCount = q.state.stepCount := by
  obtain ⟨q, hq, htold⟩ := bind_eq_ok_iff.mp h
  refine ⟨q, hq, ?_⟩
  -- whether the run failed or is judged, the result has the steps of its end
  change (if q.state.status = .error then _ else _) = _ at htold
  split at htold
  · cases htold
    rfl
  · obtain ⟨verdict, -, hjudged⟩ := bind_eq_ok_iff.mp htold
    cases hjudged
    rfl

theorem stepCount_runTest_le {predicate : Lesson.Predicate} {name : String} {w : World}
    {result : TestResult} (h : p.runTest predicate name w = .ok result) :
    (result.stepCount : Int) ≤ max 0 p.budgets.maxSteps := by
  obtain ⟨q, hq, hsteps⟩ := stepCount_of_runTest h
  have hbooked : q.Booked :=
    (booked_start w p.code p.restrictions none p.budgets p.isolated (Nat.zero_le _)).runAlone hq
  rw [hsteps, ← hbooked.length_history]
  exact length_history_runAlone_le (p := p.onWorld w) rfl hq

/-- No test of a player counts more steps than its budget allows. -/
theorem stepCount_runTests_le {suite : Option Lesson.Suite} {report : TestReport}
    (h : p.runTests suite = .ok report) :
    ∀ result ∈ report, (result.stepCount : Int) ≤ max 0 p.budgets.maxSteps := by
  intro result hresult
  rw [runTests] at h
  split at h
  · cases h
  · split at h
    · cases h
    · obtain ⟨x, -, hx⟩ := exists_of_mem_mapM h hresult
      exact stepCount_runTest_le hx

end Playback.Player

end KarelLab
