import KarelLab.Isolation.Record
import KarelLab.Proofs.Document.Accepted
import KarelLab.Proofs.Document.RoundTrip
import KarelLab.Proofs.Execution.Record

namespace KarelLab

open Document (Plain Readable)

theorem ActionFault.report_plain (f : ActionFault) (line : Option Nat) : Plain (f.report line) := by
  cases f <;> simp [Plain, report, hint]

theorem Execution.Fault.report_plain (f : Fault) : Plain f.report := by
  cases f with
  | action f line => exact f.report_plain line
  | overBudget budget line => simp [Plain, report, loopHint]
  | timeout limit line => simp [Plain, report, loopHint]
  | unreadable e =>
    rw [report]
    split <;> simp [Plain, runtimeReport]
  | _ => simp [Plain, report, runtimeReport]

theorem Program.Rejection.report_plain (e : Rejection) : Plain e.report := by
  cases e with
  | unreadable e => simp [Plain, report, SyntaxError.report]
  | violation v =>
    obtain ⟨o, line⟩ := v
    have hhint : o.hint ≠ some "" := by
      cases o with
      | bareName name callable => cases callable <;> simp [Objection.hint]
      | _ => simp [Objection.hint]
    exact hhint

theorem Tick.Faithful.effect_wellFormed {w : World} {t : Tick} (h : t.Faithful w)
    (hw : w.WellFormed) : (t.effect w).WellFormed := by
  obtain ⟨index, p, line, o⟩ := t
  cases p with
  | sensor s => exact hw
  | action a =>
    cases o with
    | acted after =>
      have ha : w.act a = .ok after := h
      rw [h.effect_acted rfl]
      exact hw.act a ha
    | sensed b => exact hw
    | failed r => exact hw

theorem Tick.Faithful.readable {w : World} {t : Tick} (h : t.Faithful w) (hw : w.WellFormed) :
    Readable t := by
  obtain ⟨index, p, line, o⟩ := t
  cases o with
  | acted after =>
    have he := h.effect_wellFormed hw
    rw [h.effect_acted rfl] at he
    exact he
  | sensed b => trivial
  | failed r =>
    cases p with
    | sensor s => exact h.elim
    | action a =>
      obtain ⟨f, -, hr⟩ := h
      change Plain r
      rw [hr]
      exact f.report_plain line

/-- All ticks of a trace from an accepted world are read as they were written. -/
theorem Traces.readable {w : World} {ts : List Tick} (h : Traces w ts) (hw : w.WellFormed) :
    ∀ t ∈ ts, Readable t := by
  induction ts generalizing w with
  | nil => simp
  | cons t ts ih =>
    intro u hu
    rcases List.mem_cons.mp hu with rfl | hu
    · exact h.1.readable hw
    · exact ih h.2 (h.1.effect_wellFormed hw) u hu

namespace Isolation

open Execution

theorem plain_of_record {text : String} {request : RecordRequest} {r : Recording}
    (h : record text request = .ok r) : ∀ e, r.error = some e → Plain e := by
  intro e he
  obtain ⟨session, fault, after, -, -, rfl⟩ := record_cases h
  unfold recordingOf at he
  dsimp only at he
  split at he
  · cases he
  · obtain ⟨f, -, rfl⟩ := Option.map_eq_some_iff.mp he
    exact f.report_plain

/-- All that a worker can hand out: the report on a program that is not accepted, or a recording of
one that is. -/
theorem answer_cases {code : String} {w : World} {restrictions : Program.Restrictions}
    {budgets : Except WorkerFault Budgets} {r : Recording}
    (h : answer code w restrictions budgets = .ok r) :
    (∃ e : Program.Rejection, r = ⟨#[], some e.report⟩) ∨
      ∃ (tree : Program.Tree) (b : Budgets),
        Program.review restrictions code = .ok tree ∧ budgets = .ok b ∧
          record code ⟨w, restrictions.commands, b.maxSteps, b.limit⟩ = .ok r := by
  unfold answer at h
  cases hr : Program.review restrictions code with
  | error e =>
    rw [hr] at h
    exact .inl ⟨e, (Except.ok.inj h).symm⟩
  | ok tree =>
    rw [hr] at h
    cases budgets with
    | error f => cases h
    | ok b =>
      refine .inr ⟨tree, b, rfl, rfl, ?_⟩
      cases hrec : record code ⟨w, restrictions.commands, b.maxSteps, b.limit⟩ with
      | ok r' =>
        have he : (record code ⟨w, restrictions.commands, b.maxSteps, b.limit⟩).mapError
            WorkerFault.unknownPrimitive = .ok r := h
        rw [hrec] at he
        exact congrArg Except.ok (Except.ok.inj he)
      | error u =>
        have he : (record code ⟨w, restrictions.commands, b.maxSteps, b.limit⟩).mapError
            WorkerFault.unknownPrimitive = .ok r := h
        rw [hrec] at he
        cases he

/-- What a worker hands out is sound and is read as it was written. -/
theorem answer_sound {code : String} {w : World} {restrictions : Program.Restrictions}
    {budgets : Except WorkerFault Budgets} {r : Recording}
    (h : answer code w restrictions budgets = .ok r) :
    r.Sound w ∧ ∀ e, r.error = some e → Plain e := by
  rcases answer_cases h with ⟨e, rfl⟩ | ⟨tree, b, -, -, hr⟩
  · refine ⟨Recording.sound_of_no_ticks w rfl, ?_⟩
    intro f hf
    cases hf
    exact e.report_plain
  · exact ⟨record_sound hr, plain_of_record hr⟩

def readBudgets : Budgets → Except WorkerFault Budgets
  | ⟨maxSteps, .seconds s⟩ => .ok ⟨maxSteps, .seconds s⟩
  | ⟨_, .huge⟩ => .error (.number .realHuge)

theorem namesOf_ofNames? (names : Option (List String)) : namesOf (ofNames? names) = .ok names := by
  cases names with
  | none => rfl
  | some ns =>
    have hread : (ns.map Json.string).filterMap Json.string? = ns := by
      rw [List.filterMap_map]
      exact List.filterMap_some
    change Except.ok (some ((ns.map Json.string).filterMap Json.string?)) = _
    rw [hread]

theorem toReal_ofLimit (limit : TimeLimit) :
    (Document.toReal (ofLimit limit)).mapError WorkerFault.number =
      match limit with
      | .seconds s => .ok s
      | .huge => .error (.number .realHuge) := by
  cases limit with
  | seconds s => rfl
  | huge =>
    have hnone : Binary64.ofInt? (Nat.pow 2 1024 : Nat) = none := by decide +kernel
    change (Document.realFromWhole (Nat.pow 2 1024 : Nat)).mapError WorkerFault.number = _
    rw [Document.realFromWhole, hnone]
    rfl

/-- A request is answered for the world that is read of it, with the restrictions and the budgets that
were asked for. -/
theorem handle_request (code : String) (w : World) (restrictions : Program.Restrictions)
    (budgets : Budgets) (limit : Binary64) :
    handle (request code w restrictions budgets) limit =
      ((Document.world .value (Document.ofWorld w)).mapError .issues).bind
        fun read => answer code read restrictions (readBudgets budgets) := by
  obtain ⟨fs, hfs, hlw, hlc, hln, hlf, hls, hlt⟩ :
      ∃ fs, request code w restrictions budgets = .object fs ∧
        Json.lookup "world" fs = some (Document.ofWorld w) ∧
        Json.lookup "code" fs = some (.string code) ∧
        Json.lookup "karel_commands" fs = some (ofNames? restrictions.commands) ∧
        Json.lookup "python_features" fs = some (ofNames? restrictions.features) ∧
        Json.lookup "max_steps" fs = some (.int budgets.maxSteps) ∧
        Json.lookup "max_time_s" fs = some (ofLimit budgets.limit) :=
    ⟨_, rfl, rfl, rfl, rfl, rfl, rfl, rfl⟩
  have hrestrictions : restrictionsOf fs = .ok restrictions := by
    unfold restrictionsOf namesField
    rw [hln, hlf, Option.getD_some, Option.getD_some, namesOf_ofNames?, namesOf_ofNames?]
    rfl
  have hbudgets : budgetsOf fs limit = readBudgets budgets := by
    obtain ⟨maxSteps, limit⟩ := budgets
    unfold budgetsOf
    rw [hls, hlt]
    dsimp only
    rw [toReal_ofLimit]
    cases limit <;> rfl
  rw [hfs]
  simp only [handle, hlw, hlc, Option.getD_some, hrestrictions, hbudgets]
  rfl

/-- The documents through which an answer passes do not change it: every world that is read is
accepted. -/
theorem viaDocuments_eq_handle (code : String) (w : World) (restrictions : Program.Restrictions)
    (budgets : Budgets) :
    viaDocuments code w restrictions budgets =
      match handle (request code w restrictions budgets) defaultLimit with
      | .ok r => r
      | .error f => refused f := by
  unfold viaDocuments
  cases hh : handle (request code w restrictions budgets) defaultLimit with
  | error f => rfl
  | ok r =>
    rw [handle_request] at hh
    cases hr : Document.world .value (Document.ofWorld w) with
    | error es =>
      rw [hr] at hh
      cases hh
    | ok read =>
      rw [hr] at hh
      obtain ⟨hs, hp⟩ := answer_sound hh
      have hread : Document.recording .text (Document.ofRecording r) = .ok r :=
        Document.recording_ofRecording .text
          (hs.traces.readable (Document.wellFormed_of_world hr)) hp
      simp only [hread]

theorem viaDocuments_eq (code : String) {w : World} (hw : w.WellFormed)
    (restrictions : Program.Restrictions) (budgets : Budgets) :
    viaDocuments code w restrictions budgets =
      match answer code w restrictions (readBudgets budgets) with
      | .ok r => r
      | .error f => refused f := by
  rw [viaDocuments_eq_handle, handle_request, Document.world_ofWorld .value hw]
  rfl

/-- What comes of a worker: nothing but the word that it was stopped, or its recording within some limit
on the time. -/
theorem recordIsolated_cases (code : String) (w : World) (restrictions : Program.Restrictions)
    (budgets : Budgets) (timeout : Binary64) :
    recordIsolated code w restrictions budgets timeout = stopped timeout ∨
      ∃ limit, recordIsolated code w restrictions budgets timeout =
        viaDocuments code w restrictions { budgets with limit := limit } := by
  unfold recordIsolated
  split
  · exact .inl rfl
  · dsimp only
    split
    · exact .inl rfl
    · exact .inr ⟨_, rfl⟩

/-- Whatever happens to a worker, the recording of a program on an accepted world is sound. -/
theorem recordIsolated_sound (code : String) {w : World} (hw : w.WellFormed)
    (restrictions : Program.Restrictions) (budgets : Budgets) (timeout : Binary64) :
    (recordIsolated code w restrictions budgets timeout).Sound w := by
  rcases recordIsolated_cases code w restrictions budgets timeout with hr | ⟨limit, hr⟩
  · rw [hr]
    exact Recording.sound_of_no_ticks w rfl
  · rw [hr, viaDocuments_eq code hw]
    cases ha : answer code w restrictions (readBudgets { budgets with limit := limit }) with
    | error f => exact Recording.sound_of_no_ticks w rfl
    | ok r => exact (answer_sound ha).1

end Isolation

end KarelLab
