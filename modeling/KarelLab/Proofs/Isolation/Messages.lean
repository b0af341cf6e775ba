import KarelLab.Proofs.Isolation.InPlace
import KarelLab.Proofs.Playback.Rejected

namespace KarelLab

theorem ActionFault.message_ne_empty (f : ActionFault) : f.message ≠ "" := by
  unfold message
  split <;> simp

theorem Execution.RunError.message_ne_empty (e : RunError) : e.message ≠ "" := by
  unfold message
  split <;> simp

theorem Execution.Fault.message_ne_empty (f : Fault) : f.report.message ≠ "" := by
  cases f with
  | action f line => exact f.message_ne_empty
  | overBudget budget line => simp [report]
  | timeout limit line => simp [report]
  | error e line => exact e.message_ne_empty
  | unreadable e =>
    rw [report]
    split <;> simp [runtimeReport]
  | tooManyRules => simp [report, runtimeReport]
  | tooDeep => exact RunError.tooDeep.message_ne_empty
  | hugeLimit => simp [report, runtimeReport]

/-- The ticks of a trace that show a failure show its message. -/
theorem Traces.message_ne_empty {w : World} {ts : List Tick} (h : Traces w ts) {t : Tick}
    (ht : t ∈ ts) {e : Report} (he : t.report? = some e) : e.message ≠ "" := by
  induction ts generalizing w with
  | nil => cases ht
  | cons u rest ih =>
    obtain ⟨hfaithful, hrest⟩ := h
    rcases List.mem_cons.mp ht with rfl | ht
    · obtain ⟨index, p, line, o⟩ := t
      cases o with
      | acted after => cases he
      | sensed value => cases he
      | failed r =>
        cases he
        cases p with
        | sensor s => exact hfaithful.elim
        | action a =>
          obtain ⟨f, -, hr⟩ := hfaithful
          have hmessage : e.message = f.message := congrArg Report.message hr
          rw [hmessage]
          exact f.message_ne_empty
    · exact ih hrest ht

/-- A recording that is sound ends with a message when its error has one. -/
theorem Recording.Sound.message_ne_empty {w : World} {r : Recording} (h : r.Sound w)
    (herror : ∀ e, r.error = some e → e.message ≠ "") {e : Report} (he : r.report? = some e) :
    e.message ≠ "" := by
  rw [report?, Option.or_eq_some_iff] at he
  rcases he with htick | ⟨-, hshown⟩
  · obtain ⟨t, ht, hte⟩ := List.exists_of_findSome?_eq_some htick
    exact h.traces.message_ne_empty ht hte
  · exact herror e hshown

namespace Isolation

open Execution

theorem message_of_record {text : String} {request : RecordRequest} {r : Recording}
    (h : record text request = .ok r) : ∀ e, r.error = some e → e.message ≠ "" := by
  intro e he
  obtain ⟨session, fault, after, -, -, rfl⟩ := record_cases h
  unfold recordingOf at he
  dsimp only at he
  split at he
  · cases he
  · obtain ⟨f, -, rfl⟩ := Option.map_eq_some_iff.mp he
    exact f.message_ne_empty

theorem message_of_answer {code : String} {w : World} {restrictions : Program.Restrictions}
    {budgets : Except WorkerFault Budgets} {r : Recording}
    (h : answer code w restrictions budgets = .ok r) : ∀ e, r.error = some e → e.message ≠ "" := by
  rcases answer_cases h with ⟨rejection, rfl⟩ | ⟨tree, b, -, -, hr⟩
  · intro e he
    cases he
    exact rejection.message_ne_empty
  · exact message_of_record hr

/-- A worker that is asked with known commands refuses nothing but a limit that is no number. -/
theorem fault_of_answer {code : String} {w : World} {restrictions : Program.Restrictions}
    (hk : Known restrictions) {budgets : Budgets} {f : WorkerFault}
    (h : answer code w restrictions (readBudgets budgets) = .error f) : f = .number .realHuge := by
  obtain ⟨maxSteps, limit⟩ := budgets
  unfold answer at h
  cases hreview : Program.review restrictions code with
  | error e =>
    rw [hreview] at h
    cases h
  | ok tree =>
    rw [hreview] at h
    cases limit with
    | huge => exact (Except.error.inj h).symm
    | seconds s =>
      obtain ⟨r, hr⟩ := record_isOk code ⟨w, restrictions.commands, maxSteps, .seconds s⟩ hk.allowed
      change (record code ⟨w, restrictions.commands, maxSteps, .seconds s⟩).mapError _ = _ at h
      rw [hr] at h
      cases h

/-- Whatever happens to a worker, an error of the recording has a message. -/
theorem message_of_recordIsolated (code : String) {w : World} (hw : w.WellFormed)
    {restrictions : Program.Restrictions} (hk : Known restrictions) (budgets : Budgets)
    (timeout : Binary64) :
    ∀ e, (recordIsolated code w restrictions budgets timeout).error = some e → e.message ≠ "" := by
  rcases recordIsolated_cases code w restrictions budgets timeout with hr | ⟨limit, hr⟩
  · rw [hr]
    intro e he
    cases he
    simp
  · rw [hr, viaDocuments_eq code hw]
    cases ha : answer code w restrictions (readBudgets { budgets with limit := limit }) with
    | ok r => exact message_of_answer ha
    | error f =>
      obtain rfl := fault_of_answer hk ha
      intro e he
      cases he
      simp [WorkerFault.complaint?]

end Isolation

end KarelLab
