import KarelLab.Execution.Session
import KarelLab.Proofs.Execution.Watch
import KarelLab.Proofs.Recording.Trace

namespace KarelLab.Execution

open Program

def traceWatch (w : World) : Watch where
  during log := log.Faithful w ∧ log.Unfailed
  stopped _ log := log.Faithful w ∧ log.OnlyLastFails
  of_command log p line h := by
    have hf := h.1.command p (some line)
    have hu := h.2.command p (some line)
    cases hc : log.command p (some line) with
    | mk answer after =>
      rw [hc] at hf hu
      cases answer with
      | ok a => exact ⟨hf, hu⟩
      | error f => exact ⟨hf, hu⟩
  of_own log f _ h := ⟨h.1, fun t ht => h.2 t (List.dropLast_subset _ ht)⟩

theorem unfailed_of_last {log : Log} (h : log.OnlyLastFails)
    (hl : (log.ticks.back?.bind Tick.report?).isSome = false) : log.Unfailed := by
  intro t ht
  -- all ticks but the last by the first hypothesis, the last one by the second
  rcases List.eq_nil_or_concat log.ticks.toList with hn | ⟨init, last, hs⟩
  · rw [hn] at ht
    cases ht
  · rw [Log.OnlyLastFails, hs, List.concat_eq_append, List.dropLast_concat] at h
    rw [← Array.getLast?_toList, hs, List.concat_eq_append, List.getLast?_concat] at hl
    rw [hs, List.concat_eq_append, List.mem_append, List.mem_singleton] at ht
    rcases ht with ht | rfl
    · exact h t ht
    · simpa using hl

/-- A recording is sound if its log is faithful and the program ended at its first failure. -/
theorem sound_recordingOf {w : World} {log : Log} (hf : log.Faithful w) (ho : log.OnlyLastFails)
    (fault : Option Fault) : (recordingOf fault log).Sound w := by
  refine ⟨hf.traces, ho, ?_⟩
  intro he
  cases hl : (log.ticks.back?.bind Tick.report?).isSome with
  | true => simp [recordingOf, hl] at he
  | false => exact unfailed_of_last ho hl

namespace Session

theorem log_register {s t : Session} (h : s.register = .ok t) : t.log = s.log := by
  unfold register at h
  cases hr : registerNames s.allowed (s.globals.set libraryName .library) with
  | error u =>
    rw [hr] at h
    cases h
  | ok globals =>
    rw [hr] at h
    cases h
    rfl

/-- The names with which a session begins do not depend on its log. -/
theorem start_eq (log : Log) (allowed : Option (List String)) (limit : TimeLimit) :
    start log allowed limit =
      (registerNames (allowed.getD Primitive.names) (Bindings.set libraryName .library [])).map
        fun globals => ⟨log, allowed.getD Primitive.names, globals, limit⟩ := by
  unfold start register
  cases registerNames (allowed.getD Primitive.names) (Bindings.set libraryName .library []) <;> rfl

end Session

/-- A recording is what the log of a session shows after a program. -/
theorem record_cases {text : String} {request : RecordRequest} {r : Recording}
    (h : record text request = .ok r) :
    ∃ session fault after,
      Session.start (.start request.world request.maxSteps) request.allowed request.limit =
        .ok session ∧
      session.execute text = (fault, after) ∧ r = recordingOf fault after.log := by
  unfold record at h
  cases hs : Session.start (.start request.world request.maxSteps) request.allowed request.limit with
  | error u =>
    rw [hs] at h
    cases h
  | ok session =>
    rw [hs] at h
    exact ⟨session, (session.execute text).1, (session.execute text).2, rfl, rfl,
      (Except.ok.inj h).symm⟩

/-- The recording of any program on any world is sound. -/
theorem record_sound {text : String} {request : RecordRequest} {r : Recording}
    (h : record text request = .ok r) : r.Sound request.world := by
  obtain ⟨session, fault, after, hs, he, rfl⟩ := record_cases h
  have hlog : session.log = .start request.world request.maxSteps := Session.log_register hs
  have hstart : (traceWatch request.world).during session.log := by
    rw [hlog]
    exact ⟨Log.faithful_start _ _, Log.unfailed_start _ _⟩
  have hw := (traceWatch request.world).execute session text hstart
  have hlast (log : Log) (hl : log.Unfailed) : log.OnlyLastFails :=
    fun t ht => hl t (List.dropLast_subset _ ht)
  rw [he] at hw
  cases fault with
  | none => exact sound_recordingOf hw.1 (hlast _ hw.2) none
  | some f => exact sound_recordingOf hw.1 hw.2 (some f)

theorem registerNames_isOk {names : List String} (h : ∀ name ∈ names, name ∈ Primitive.names)
    (b : Bindings) : ∃ globals, Session.registerNames names b = .ok globals := by
  induction names generalizing b with
  | nil => exact ⟨b, rfl⟩
  | cons name rest ih =>
    have hname : name ∈ Primitive.names := h name List.mem_cons_self
    obtain ⟨p, hp, hpn⟩ := List.mem_map.mp hname
    have hsome : (Primitive.ofName? name).isSome := by
      rw [Primitive.ofName?, List.find?_isSome]
      exact ⟨p, hp, by simpa using hpn⟩
    obtain ⟨q, hq⟩ := Option.isSome_iff_exists.mp hsome
    obtain ⟨globals, hg⟩ := ih (fun n hn => h n (List.mem_cons_of_mem name hn))
      (b.set name (.primitive q))
    exact ⟨globals, by rw [Session.registerNames, hq]; exact hg⟩

/-- A program is recorded whenever all commands that it may use are commands of the robot. -/
theorem record_isOk (text : String) (request : RecordRequest)
    (h : ∀ names, request.allowed = some names → ∀ name ∈ names, name ∈ Primitive.names) :
    ∃ r, record text request = .ok r := by
  have hnames : ∀ name ∈ request.allowed.getD Primitive.names, name ∈ Primitive.names := by
    cases ha : request.allowed with
    | none => exact fun name hn => hn
    | some names => exact h names ha
  obtain ⟨globals, hg⟩ := registerNames_isOk hnames (Bindings.set libraryName .library [])
  have hs : Session.start (.start request.world request.maxSteps) request.allowed request.limit =
      .ok ⟨.start request.world request.maxSteps, request.allowed.getD Primitive.names, globals,
        request.limit⟩ := by
    rw [Session.start_eq, hg]
    rfl
  unfold record
  rw [hs]
  exact ⟨_, rfl⟩

end KarelLab.Execution
