import KarelLab.Proofs.Execution.Names
import KarelLab.Proofs.Execution.Record
import KarelLab.Proofs.Program.Review

namespace KarelLab

inductive Ending
  | completed | failedTick | stopped
  deriving DecidableEq

namespace Recording

/-- What a recording shows of the way in which it ended. -/
def Ends (r : Recording) : Ending → Prop
  | .completed => r.error = none ∧ ∀ t ∈ r.ticks.toList, t.report? = none
  | .failedTick => r.error = none ∧ ∃ before last e, r.ticks.toList = before ++ [last] ∧
      (∀ t ∈ before, t.report? = none) ∧ last.report? = some e ∧ e.line = last.line ∧
      e.code ∈ [.wallCollision, .boundaryViolation, .noBeeperPresent, .bagEmpty]
  | .stopped => (∀ t ∈ r.ticks.toList, t.report? = none) ∧
      ∃ e, r.error = some e ∧ e.code ∈ [.runtime, .stepLimit, .timeout]

variable {r : Recording}

/-- A recording that ended with a failure of a tick shows a tick that failed. -/
theorem Ends.exists_report {r : Recording} (h : r.Ends .failedTick) :
    ∃ t ∈ r.ticks.toList, t.report? ≠ none := by
  obtain ⟨-, before, last, e, hs, -, he, -⟩ := h
  refine ⟨last, ?_, ?_⟩
  · rw [hs]
    exact List.mem_append_right before List.mem_cons_self
  · rw [he]
    exact Option.some_ne_none e

theorem Ends.unique {a b : Ending} (ha : r.Ends a) (hb : r.Ends b) : a = b := by
  -- the error tells one way from the others, and the ticks tell the remaining two apart
  cases a <;> cases b
  case completed.completed | failedTick.failedTick | stopped.stopped => rfl
  case completed.stopped | failedTick.stopped =>
    obtain ⟨e, he, -⟩ := hb.2
    exact nomatch ha.1.symm.trans he
  case stopped.completed | stopped.failedTick =>
    obtain ⟨e, he, -⟩ := ha.2
    exact nomatch hb.1.symm.trans he
  case completed.failedTick =>
    obtain ⟨t, ht, hr⟩ := hb.exists_report
    exact (hr (ha.2 t ht)).elim
  case failedTick.completed =>
    obtain ⟨t, ht, hr⟩ := ha.exists_report
    exact (hr (hb.2 t ht)).elim

theorem Ends.failed_iff {a : Ending} (h : r.Ends a) : r.failed = true ↔ a ≠ .completed := by
  rw [failed, Bool.or_eq_true, ← Array.any_toList, List.any_eq_true]
  cases a with
  | completed =>
    refine ⟨?_, fun hne => (hne rfl).elim⟩
    rintro (he | ⟨t, ht, hr⟩)
    · rw [h.1] at he
      cases he
    · rw [h.2 t ht] at hr
      cases hr
  | failedTick =>
    obtain ⟨t, ht, hr⟩ := h.exists_report
    exact ⟨fun _ => by simp, fun _ => .inr ⟨t, ht, Option.isSome_iff_ne_none.mpr hr⟩⟩
  | stopped =>
    obtain ⟨e, he, -⟩ := h.2
    exact ⟨fun _ => by simp, fun _ => .inl (by rw [he]; rfl)⟩

end Recording

namespace Tick

/-- A tick that shows a failure shows the fault of an action, at its own line. -/
theorem Faithful.report_eq {w : World} {t : Tick} (h : t.Faithful w) {e : Report}
    (he : t.report? = some e) : ∃ fault : ActionFault, e = fault.report t.line := by
  obtain ⟨index, p, line, o⟩ := t
  cases o with
  | acted after => cases he
  | sensed b => cases he
  | failed report =>
    cases he
    cases p with
    | action a =>
      obtain ⟨fault, -, hr⟩ := h
      exact ⟨fault, hr⟩
    | sensor s => exact h.elim

end Tick

theorem ActionFault.code_mem (f : ActionFault) :
    f.code ∈ [.wallCollision, .boundaryViolation, .noBeeperPresent, .bagEmpty] := by
  cases f <;> simp [code]

namespace Execution

open Program

def endingOf : Option Fault → Ending
  | none => .completed
  | some (.action _ _) => .failedTick
  | some _ => .stopped

theorem endingOf_eq_completed_iff {fault : Option Fault} :
    endingOf fault = .completed ↔ fault = none := by
  cases fault with
  | none => exact ⟨fun _ => rfl, fun _ => rfl⟩
  | some f => cases f <;> exact ⟨nofun, nofun⟩

/-- What ends a program without a tick of its own has one of three codes. -/
theorem Fault.code_of_stopped {f : Fault} (h : endingOf (some f) = .stopped) :
    f.report.code ∈ [.runtime, .stepLimit, .timeout] := by
  cases f with
  | action fault line => cases h
  | unreadable e =>
    rw [report]
    split <;> exact List.mem_cons_self
  | overBudget _ _ | timeout _ _ | error _ _ | tooManyRules | tooDeep | hugeLimit =>
    simp [report, runtimeReport]

def Shows (log : Log) : Ending → Prop
  | .failedTick => (log.ticks.back?.bind Tick.report?).isSome
  | _ => log.Unfailed

def failureWatch : Watch where
  during log := log.Unfailed
  stopped f log := Shows log (endingOf (some f))
  of_command log p line h := by
    have hu := h.command p (some line)
    rcases log.command_cases p (some line) with ⟨-, he⟩ | ⟨s, -, -, he⟩ | ⟨a, after, -, -, -, he⟩ |
        ⟨a, fault, -, -, -, he⟩
    · rw [he]
      exact h
    · rw [he] at hu ⊢
      exact hu
    · rw [he] at hu ⊢
      exact hu
    · rw [he]
      simp [Fault.ofCommand, endingOf, Shows, Log.record, Tick.report?]
  of_own log f hf h := by
    cases f with
    | action _ _ | overBudget _ _ => exact hf.elim
    | timeout _ _ | error _ _ | unreadable _ | tooManyRules | tooDeep | hugeLimit => exact h

theorem unshown_of_unfailed {log : Log} (h : log.Unfailed) :
    (log.ticks.back?.bind Tick.report?).isSome = false := by
  rw [← Array.getLast?_toList]
  cases hl : log.ticks.toList.getLast? with
  | none => rfl
  | some t => simp [h t (List.mem_of_getLast? hl)]

/-- The recording of an execution ends in the way that its log shows. -/
theorem ends_recordingOf {w : World} {log : Log} {fault : Option Fault}
    (ht : Traces w log.ticks.toList) (ho : log.OnlyLastFails) (h : Shows log (endingOf fault)) :
    (recordingOf fault log).Ends (endingOf fault) := by
  -- the log shows a failure of its last tick exactly if the error of the recording is left out
  cases hend : endingOf fault with
  | completed =>
    obtain rfl := endingOf_eq_completed_iff.mp hend
    exact ⟨by simp [recordingOf], h⟩
  | stopped =>
    rw [hend] at h
    refine ⟨h, ?_⟩
    cases fault with
    | none => cases hend
    | some f =>
      exact ⟨f.report, by simp [recordingOf, unshown_of_unfailed h], Fault.code_of_stopped hend⟩
  | failedTick =>
    rw [hend] at h
    have hshown : (log.ticks.back?.bind Tick.report?).isSome := h
    refine ⟨by simp [recordingOf, hshown], ?_⟩
    obtain ⟨e, he⟩ := Option.isSome_iff_exists.mp hshown
    obtain ⟨last, hlast, hreport⟩ := Option.bind_eq_some_iff.mp he
    rw [← Array.getLast?_toList] at hlast
    obtain ⟨before, hs⟩ := List.getLast?_eq_some_iff.mp hlast
    obtain ⟨n, hn⟩ := List.getElem?_of_mem (List.mem_of_getLast? hlast)
    obtain ⟨action, rfl⟩ := (ht.faithful_getElem hn).report_eq hreport
    refine ⟨before, last, _, hs, fun t ht => ho t ?_, hreport, rfl, action.code_mem⟩
    rw [hs, List.dropLast_concat]
    exact ht

/-- A text that is accepted is one that can be run. -/
theorem compile_of_review {restrictions : Restrictions} {text : String} {tree : Tree}
    (h : review restrictions text = .ok tree) : Session.compile text = .ok tree := by
  obtain ⟨ht, hd, -, -, hs⟩ := review_eq_ok_iff.mp h
  simp [Session.compile, ht, Nat.not_lt.mpr hd, hs]

/-- The log that a program leaves shows how the program ended. -/
theorem Session.execute_shows {s : Session} (h : s.log.Unfailed) (text : String) :
    Shows (s.execute text).2.log (endingOf (s.execute text).1) := by
  have hw := failureWatch.execute s text h
  cases he : s.execute text with
  | mk fault t =>
    rw [he] at hw
    cases fault <;> exact hw

/-- Every tick in the log that an accepted program leaves was given by a call of the program. -/
theorem Session.execute_called {restrictions : Restrictions} {text : String} {tree : Tree}
    (h : review restrictions text = .ok tree) {w : World} {budget : Int}
    {allowed : Option (List String)} {limit : TimeLimit} {s : Session}
    (hs : Session.start (.start w budget) allowed limit = .ok s) :
    ∀ t ∈ (s.execute text).2.log.ticks.toList,
      ∃ line, t.line = some line ∧ (t.primitive.name, line) ∈ blockCalls tree := by
  obtain ⟨-, -, -, hlanguage, -⟩ := review_eq_ok_iff.mp h
  have hcompile := compile_of_review h
  cases hl : s.limit with
  | huge =>
    have hlog : (s.execute text).2.log = .start w budget := by
      simp [execute, hcompile, hl, clear, log_register hs]
    rw [hlog]
    simp [Log.start]
  | seconds limit =>
    have htame := Tame.runProgram limit hlanguage.follows _
      (tame_of_start hs rfl (TimeLimit.steps limit))
    cases hm : runProgram limit tree ⟨s.log, s.globals, #[], TimeLimit.steps limit⟩ with
    | ok u m =>
      rw [hm] at htame
      have hlog : (s.execute text).2.log = m.log := by simp [execute, hcompile, hl, hm, clear]
      rw [hlog]
      exact htame.1.called
    | error f m =>
      rw [hm] at htame
      have hlog : (s.execute text).2.log = m.log := by simp [execute, hcompile, hl, hm, clear]
      rw [hlog]
      exact htame.called

def Completes (text : String) (request : RecordRequest) : Prop :=
  ∃ s, Session.start (.start request.world request.maxSteps) request.allowed request.limit = .ok s ∧
    (s.execute text).1 = none

/-- The recording of an accepted program ends in exactly one of the three ways: completed exactly if
the program ran to its end, and failed exactly in the two other ones. Every tick of it was given by a
call of the program. -/
theorem record_ends_one_way {restrictions : Restrictions} {text : String} {tree : Tree}
    (h : review restrictions text = .ok tree) (request : RecordRequest)
    (hnames : ∀ names, request.allowed = some names → ∀ n ∈ names, n ∈ Primitive.names) :
    ∃ r, record text request = .ok r ∧ (∃! way, r.Ends way) ∧
      (r.Ends .completed ↔ Completes text request) ∧
      (r.failed = true ↔ r.Ends .failedTick ∨ r.Ends .stopped) ∧
      ∀ t ∈ r.ticks.toList,
        ∃ line, t.line = some line ∧ (t.primitive.name, line) ∈ blockCalls tree := by
  obtain ⟨r, hr⟩ := record_isOk text request hnames
  obtain ⟨s, fault, after, hs, he, rfl⟩ := record_cases hr
  have hsound := record_sound hr
  have hstart : s.log.Unfailed := by
    rw [Session.log_register hs]
    exact Log.unfailed_start _ _
  have hshows := Session.execute_shows hstart text
  have hcalled := Session.execute_called h hs
  rw [he] at hshows hcalled
  have hends := ends_recordingOf hsound.traces hsound.only_last_fails hshows
  have hway (way : Ending) : (recordingOf fault after.log).Ends way ↔ way = endingOf fault :=
    ⟨fun hw => hw.unique hends, fun hw => hw ▸ hends⟩
  refine ⟨_, hr, ⟨_, hends, fun way hw => hw.unique hends⟩, ?_, ?_, hcalled⟩
  · rw [hway, eq_comm, endingOf_eq_completed_iff]
    refine ⟨fun hf => ⟨s, hs, by rw [he]; exact hf⟩, ?_⟩
    -- a session starts in one way only, so this is the one that was recorded
    rintro ⟨s', hs', hnone⟩
    obtain rfl := Except.ok.inj (hs.symm.trans hs')
    rw [he] at hnone
    exact hnone
  · rw [hends.failed_iff, hway, hway]
    cases endingOf fault <;> simp

/-- A beeper is put down from an empty bag: the recording ends with the tick that shows this. -/
theorem record_ends_one_way_empty_bag :
    ∃ r, record "move()\nput_beeper()" ⟨.default, none, 10, .ofInt 10⟩ = .ok r ∧
      r.Ends .failedTick := by
  have hok : (review {} "move()\nput_beeper()").isOk = true := by decide +kernel
  obtain ⟨tree, htree⟩ := exists_eq_ok_of_isOk hok
  obtain ⟨r, hr, -, -, hfailed, -⟩ :=
    record_ends_one_way htree ⟨.default, none, 10, .ofInt 10⟩ nofun
  have heval : (record "move()\nput_beeper()" ⟨.default, none, 10, .ofInt 10⟩).toOption.map
      (fun r => (r.failed, r.error.isNone)) = some (true, true) := by decide +kernel
  rw [hr] at heval
  obtain ⟨hf, hn⟩ := Prod.mk.inj (Option.some.inj heval)
  refine ⟨r, hr, (hfailed.mp hf).resolve_right ?_⟩
  rintro ⟨-, e, he, -⟩
  rw [he] at hn
  cases hn

end Execution

end KarelLab
