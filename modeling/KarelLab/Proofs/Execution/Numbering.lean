import KarelLab.Proofs.Execution.Budget

namespace KarelLab

def Numbered (ts : List Tick) : Prop := ts.map Tick.index = List.range ts.length

theorem Numbered.push {ts : List Tick} (h : Numbered ts) {t : Tick} (ht : t.index = ts.length) :
    Numbered (ts ++ [t]) := by
  unfold Numbered at h ⊢
  rw [List.map_append, h, List.map_singleton, ht, List.length_append, List.length_singleton,
    List.range_succ]

/-- A command leaves the ticks as they are or adds one with the next number. -/
theorem Log.numbered_command {log : Log} (h : Numbered log.ticks.toList) (p : Primitive)
    (line : Option Nat) : Numbered (log.command p line).2.ticks.toList := by
  by_cases hbudget : log.budget ≤ log.ticks.size
  · rw [command_overBudget hbudget]
    exact h
  -- the log numbers a tick by the ticks that it holds
  · obtain ⟨-, o, ho⟩ := command_of_lt (Int.not_le.mp hbudget) p line
    rw [ho]
    exact h.push log.ticks.length_toList.symm

/-- A command does not lead over the budget. -/
theorem Log.size_command_le {log : Log} (h : (log.ticks.size : Int) ≤ max 0 log.budget) (p : Primitive)
    (line : Option Nat) : ((log.command p line).2.ticks.size : Int) ≤ max 0 log.budget := by
  by_cases hbudget : log.budget ≤ log.ticks.size
  · rw [command_overBudget hbudget]
    exact h
  · obtain ⟨-, o, ho⟩ := command_of_lt (Int.not_le.mp hbudget) p line
    rw [← Array.length_toList, ho, List.length_append, List.length_singleton, Array.length_toList]
    omega

namespace Execution

def numberWatch : Watch where
  during log := Numbered log.ticks.toList
  stopped _ log := Numbered log.ticks.toList
  of_command log p line h := by
    have hafter := Log.numbered_command h p (some line)
    cases hc : log.command p (some line) with
    | mk answer after =>
      rw [hc] at hafter
      cases answer <;> exact hafter
  of_own _ _ _ h := h

/-- The ticks of a recording carry the numbers from zero on. -/
theorem numbered_of_record {text : String} {request : RecordRequest} {r : Recording}
    (h : record text request = .ok r) : Numbered r.ticks.toList := by
  obtain ⟨session, fault, after, hstart, hrun, rfl⟩ := record_cases h
  have hlog : session.log = .start request.world request.maxSteps := Session.log_register hstart
  have hnumbered := numberWatch.execute session text (hlog ▸ rfl)
  rw [hrun] at hnumbered
  cases fault <;> exact hnumbered

def sizeWatch (budget : Int) : Watch where
  during log := log.budget = budget ∧ (log.ticks.size : Int) ≤ max 0 budget
  stopped _ log := (log.ticks.size : Int) ≤ max 0 budget
  of_command log p line h := by
    obtain ⟨rfl, hsize⟩ := h
    have hbudget := log.budget_command p (some line)
    have hafter := Log.size_command_le hsize p (some line)
    cases hc : log.command p (some line) with
    | mk answer after =>
      rw [hc] at hbudget hafter
      cases answer with
      | ok a => exact ⟨hbudget, hafter⟩
      | error f => exact hafter
  of_own _ _ _ h := h.2

/-- A recording has no more ticks than its budget allows. -/
theorem size_le_of_record {text : String} {request : RecordRequest} {r : Recording}
    (h : record text request = .ok r) : (r.ticks.size : Int) ≤ max 0 request.maxSteps := by
  obtain ⟨session, fault, after, hstart, hrun, rfl⟩ := record_cases h
  have hlog : session.log = .start request.world request.maxSteps := Session.log_register hstart
  have hempty : (sizeWatch request.maxSteps).during session.log := by
    rw [hlog]
    exact ⟨rfl, Int.le_max_left 0 _⟩
  have hsize := (sizeWatch request.maxSteps).execute session text hempty
  rw [hrun] at hsize
  cases fault with
  | none => exact hsize.2
  | some f => exact hsize

end Execution

end KarelLab
