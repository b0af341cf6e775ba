import KarelLab.Proofs.Execution.Ending
import KarelLab.Proofs.Isolation.Record

namespace KarelLab

def Recording.Respects (r : Recording) (restrictions : Program.Restrictions) : Prop :=
  ∀ t ∈ r.ticks.toList, t.primitive.name ∈ restrictions.commandNames

theorem Recording.respects_of_no_ticks {r : Recording} (h : r.ticks = #[])
    (restrictions : Program.Restrictions) : r.Respects restrictions := by
  simp [Respects, h]

theorem Execution.record_respects {restrictions : Program.Restrictions} {text : String}
    {tree : Program.Tree} (hreview : Program.review restrictions text = .ok tree)
    {request : RecordRequest} {r : Recording} (h : record text request = .ok r) :
    r.Respects restrictions := by
  obtain ⟨-, -, -, hlanguage, -⟩ := Program.review_eq_ok_iff.mp hreview
  obtain ⟨session, fault, after, hs, he, rfl⟩ := record_cases h
  have hcalled := Session.execute_called hreview hs
  rw [he] at hcalled
  intro t ht
  obtain ⟨line, -, hcall⟩ := hcalled t ht
  exact hlanguage.command_of_call hcall

namespace Isolation

variable {code : String} {restrictions : Program.Restrictions}

theorem answer_respects {w : World} {budgets : Except WorkerFault Budgets} {r : Recording}
    (h : answer code w restrictions budgets = .ok r) : r.Respects restrictions := by
  rcases answer_cases h with ⟨e, rfl⟩ | ⟨tree, b, hreview, -, hr⟩
  · exact Recording.respects_of_no_ticks rfl restrictions
  · exact Execution.record_respects hreview hr

theorem viaDocuments_respects (code : String) (w : World) (restrictions : Program.Restrictions)
    (budgets : Budgets) : (viaDocuments code w restrictions budgets).Respects restrictions := by
  rw [viaDocuments_eq_handle]
  cases hh : handle (request code w restrictions budgets) defaultLimit with
  | error f => exact Recording.respects_of_no_ticks rfl restrictions
  | ok r =>
    rw [handle_request] at hh
    cases hr : Document.world .value (Document.ofWorld w) with
    | error es =>
      rw [hr] at hh
      cases hh
    | ok read =>
      rw [hr] at hh
      exact answer_respects hh

/-- Whatever happens to a worker, and whatever the world is like, the recording of a program respects
the restrictions. -/
theorem recordIsolated_respects (code : String) (w : World) (restrictions : Program.Restrictions)
    (budgets : Budgets) (timeout : Binary64) :
    (recordIsolated code w restrictions budgets timeout).Respects restrictions := by
  rcases recordIsolated_cases code w restrictions budgets timeout with hr | ⟨limit, hr⟩
  · rw [hr]
    exact Recording.respects_of_no_ticks rfl restrictions
  · rw [hr]
    exact viaDocuments_respects code w restrictions _

end Isolation

end KarelLab
