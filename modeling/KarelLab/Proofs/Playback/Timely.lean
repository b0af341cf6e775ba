import KarelLab.Proofs.Execution.Numbering
import KarelLab.Proofs.Playback.Alone
import KarelLab.Proofs.Program.LineEnds

namespace KarelLab

open Text

namespace Playback.Player

open Isolation

variable {p q : Player} {R : Recording} {limit : Binary64}

def Timely (p : Player) : Prop :=
  (p.reviewed.toOption.bind (·.error)).map (·.code) ≠ some .timeout

instance (p : Player) : Decidable p.Timely := inferInstanceAs (Decidable (_ ≠ _))

/-- A player that is in time records what is recorded in place within some limit. -/
theorem Timely.inPlace (h : p.Timely) (hw : p.initial.WellFormed) (hk : Known p.restrictions)
    (hlimit : p.budgets.limit = .seconds limit) (hR : p.reviewed = .ok R) :
    R.error.map (·.code) ≠ some .timeout ∧
      ∃ s, recordInPlace p.code p.initial p.restrictions ⟨p.budgets.maxSteps, .seconds s⟩ = .ok R := by
  have hstopped : R.error.map (·.code) ≠ some .timeout := by
    unfold Timely at h
    rw [hR] at h
    exact h
  refine ⟨hstopped, ?_⟩
  have hbudgets : p.budgets = ⟨p.budgets.maxSteps, .seconds limit⟩ := by rw [← hlimit]
  unfold reviewed at hR
  cases hreview : Program.review p.restrictions p.code with
  | error e =>
    rw [hreview] at hR
    refine ⟨limit, ?_⟩
    unfold recordInPlace
    rw [hreview]
    exact hR
  | ok tree =>
    rw [hreview] at hR
    change p.record = .ok R at hR
    unfold record at hR
    cases hisolated : p.isolated with
    -- a worker records under the shorter of two limits
    | true =>
      rw [hisolated, if_pos rfl, hbudgets] at hR
      cases hR
      exact ⟨_, recordInPlace_of_unstopped hw hk hstopped⟩
    | false =>
      rw [hisolated, if_neg Bool.false_ne_true, hlimit] at hR
      refine ⟨limit, ?_⟩
      unfold recordInPlace
      rw [hreview]
      exact hR

/-- A player that is in time records ticks that are numbered, within the budget of commands. -/
theorem Timely.numbered (h : p.Timely) (hw : p.initial.WellFormed) (hk : Known p.restrictions)
    (hlimit : p.budgets.limit = .seconds limit) (hsteps : 0 ≤ p.budgets.maxSteps)
    (hR : p.reviewed = .ok R) : Numbered R.ticks.toList ∧ R.ticks.size ≤ p.budgets.maxSteps := by
  obtain ⟨-, s, hs⟩ := h.inPlace hw hk hlimit hR
  unfold recordInPlace at hs
  cases hreview : Program.review p.restrictions p.code with
  | error e =>
    rw [hreview] at hs
    cases hs
    exact ⟨rfl, hsteps⟩
  | ok tree =>
    rw [hreview] at hs
    have hsize : (R.ticks.size : Int) ≤ max 0 p.budgets.maxSteps := Execution.size_le_of_record hs
    exact ⟨Execution.numbered_of_record hs, by omega⟩

end Playback.Player

end KarelLab
