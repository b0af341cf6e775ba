import KarelLab.Proofs.Isolation.InPlace
import KarelLab.Proofs.Playback.Consistency
import KarelLab.Proofs.Playback.Rejected
import KarelLab.Proofs.Playback.Schedule
import KarelLab.Proofs.Playback.Settling

namespace KarelLab.Playback

open Execution (UnknownPrimitive)

def State.atEnd (R : Recording) (delay : Nat) : State where
  status := if R.failed then .error else .success
  currentLine := R.ticks.toList.getLast?.bind Tick.line
  errorLine := R.report?.bind (·.line)
  stepCount := R.ticks.size
  error := R.report?.map (·.message)
  errorCode := R.report?.map (·.code)
  delay := delay

namespace Player

variable {p q : Player} {w : World} {R : Recording}

def reviewed (p : Player) : Except UnknownPrimitive Recording :=
  match Program.review p.restrictions p.code with
  | .error e => .ok ⟨#[], some e.report⟩
  | .ok _ => p.record

theorem reviewed_isOk (hk : Isolation.Known p.restrictions) : ∃ R, p.reviewed = .ok R := by
  unfold reviewed record
  cases Program.review p.restrictions p.code with
  | error e => exact ⟨_, rfl⟩
  | ok tree =>
    cases p.isolated with
    | true => exact ⟨_, rfl⟩
    | false => exact Execution.record_isOk p.code _ hk.allowed

/-- What a player keeps from the entry of a run to its end, if it was accepted. -/
structure Runs (p : Player) (w : World) (R : Recording) : Prop where
  performs : p.Performs w R
  booked : p.Booked
  orderly : p.Orderly
  grounded : p.Grounded
  underway : p.state.status = .running ∨ p.state.status.terminal = true

theorem Runs.tick (h : p.Runs w R) (ht : p.tick? = some q) : q.Runs w R := by
  have hm : Moves p (.tick 1) q := .tick 0 ht
  have hrec : ∀ r, p.record = .ok r → r.Sound p.initial := by
    intro r hr
    have hrunning : p.state.status = .running := (tick?_eq_some ht).1
    have hrecorded : p.recording = some R := h.performs.recorded (by simp [hrunning])
    cases hr.symm.trans h.performs.record
    exact h.grounded.sound R hrecorded
  have hplays : Frame.Of Operation.Plays (.tick 1) := trivial
  refine ⟨h.performs.moves hplays hm, h.booked.moves hm, h.orderly.tick ht,
    h.grounded.moves h.booked hrec hm, ?_⟩
  obtain ⟨hs, r, hr, hk⟩ := tick?_eq_some ht
  cases hk with
  | ended _ => exact .inr p.terminal_finish
  | last _ _ _ => exact .inr (terminal_finish _)
  | failed _ hfail =>
    rw [applyTick_failed hfail]
    exact .inr rfl
  | next _ hpass _ =>
    left
    rw [state_applyTick_passed hpass]
    exact hs

theorem tickAll_of_not_running (h : p.state.status ≠ .running) (n : Nat) : p.tickAll n = p := by
  have hnone : p.tick? = none := by rw [tick?, if_pos h]
  cases n with
  | zero => rfl
  | succ n => rw [tickAll, hnone]

/-- Ticks lead to the end of a run when there are as many as are left. -/
theorem Runs.tickAll {n : Nat} (h : p.Runs w R) (hn : p.ticksLeft ≤ n) :
    (p.tickAll n).Runs w R ∧ (p.tickAll n).state.status.terminal = true := by
  -- on the ticks that are asked for, of which every one takes one of those that are left
  induction n generalizing p with
  | zero =>
    have hs : p.state.status ≠ .running := by
      intro hs
      have hpos := ticksLeft_pos hs
      omega
    exact ⟨h, h.underway.resolve_left hs⟩
  | succ n ih =>
    rw [Player.tickAll]
    cases ht : p.tick? with
    | some q =>
      have hless : q.ticksLeft < p.ticksLeft := ticksLeft_tick ht
      exact ih (h.tick ht) (by omega)
    | none =>
      have hs : p.state.status ≠ .running := by
        intro hs
        obtain ⟨q, hq⟩ := tick?_isSome hs (h.performs.recorded (by simp [hs]))
        rw [hq] at ht
        cases ht
      exact ⟨h, h.underway.resolve_left hs⟩

theorem delay_enter (p : Player) : p.enter.2.state.delay = p.state.delay := by
  have he := p.entered
  generalize p.enter = a at he ⊢
  cases he <;> rfl

theorem delay_tick (h : p.tick? = some q) : q.state.delay = p.state.delay := by
  obtain ⟨-, r, -, hk⟩ := tick?_eq_some h
  cases hk with
  | ended _ => rw [state_finish]
  | failed _ _ => rw [state_applyTick]
  | next _ _ _ => rw [state_applyTick]
  | last _ _ _ => rw [state_finish, state_applyTick]

theorem delay_tickAll (p : Player) (n : Nat) : (p.tickAll n).state.delay = p.state.delay := by
  induction n generalizing p with
  | zero => rfl
  | succ n ih =>
    rw [tickAll]
    cases ht : p.tick? with
    | none => rfl
    | some q => exact (ih q).trans (delay_tick ht)

theorem runAlone_of_entered {running : Bool} (h : p.enter.1 = .ok running) :
    p.runAlone =
      .ok (p.enter.2.tickAll (((p.enter.2.recording.map (·.ticks.size)).getD 0) + 1)) := by
  rw [runAlone]
  generalize p.enter = a at h ⊢
  obtain ⟨answer, q⟩ := a
  cases h
  rfl

structure Ready (p : Player) : Prop where
  booked : p.Booked
  idle : p.state.status = .idle
  initial : p.initial.WellFormed

theorem ready_start (hw : w.WellFormed) (code : String) (restrictions : Program.Restrictions)
    (suite : Option Lesson.Suite) (budgets : Isolation.Budgets) (isolated : Bool) {d : Nat}
    (hd : d ≤ maxDelay) : (start w code restrictions suite budgets isolated d).Ready :=
  ⟨booked_start w code restrictions suite budgets isolated hd, rfl, hw⟩

structure Ended (p q : Player) (R : Recording) : Prop extends q.EndsAs p.initial R where
  delay : q.state.delay = p.state.delay

theorem Ended.terminal (h : p.Ended q R) : q.state.status.terminal = true := by
  rw [h.status]
  split <;> rfl

theorem Ended.state_eq_end (h : p.Ended q R) : q.state = .atEnd R p.state.delay := by
  obtain ⟨⟨hstatus, herror, hcode, herrorLine, hsteps, hline, -, -⟩, hdelay⟩ := h
  generalize q.state = s at *
  cases s
  simp only at hstatus herror hcode herrorLine hsteps hline hdelay
  subst hstatus herror hcode herrorLine hsteps hline hdelay
  rfl

structure Completed (p q : Player) (R : Recording) : Prop extends p.Ended q R where
  recording : ∀ r, q.recording = some r → r = R
  history : q.history = R.ticks.toList

theorem Completed.not_running (h : p.Completed q R) : q.state.status ≠ .running :=
  Status.ne_running_of_terminal h.terminal

/-- What has been entered and has come to an end has shown all ticks. -/
theorem Runs.completed (h : q.Runs p.initial R) (ht : q.state.status.terminal = true)
    (hd : q.state.delay = p.state.delay) : p.Completed q R := by
  have hend := h.performs.endsAs h.booked h.orderly h.grounded ht
  have hidle : q.state.status ≠ .idle := by
    intro hi
    rw [hi] at ht
    cases ht
  have hcursor : q.cursor = R.ticks.size := h.booked.steps.symm.trans hend.steps
  have hrecorded : q.recording = some R := h.performs.recorded hidle
  refine { hend with delay := hd, recording := ?_, history := ?_ }
  · intro r hr
    exact Option.some.inj (hr.symm.trans hrecorded)
  · rw [history_of_some hrecorded, hcursor]
    exact List.take_of_length_le (Nat.le_of_eq R.ticks.length_toList)

/-- The report of the review is the end of a program that is rejected. -/
theorem Ready.completed_rejected (h : p.Ready) (e : Program.Rejection) :
    p.Completed ({ p with generation := p.generation + 1 }.fail e.report) ⟨#[], some e.report⟩ := by
  obtain ⟨hn, hs, hw⟩ := h.booked.idle h.idle
  exact {
    status := rfl
    error := rfl
    errorCode := rfl
    errorLine := rfl
    steps := congrArg State.stepCount hs
    line := congrArg State.currentLine hs
    world := hw
    acted := congrArg Except.ok hw.symm
    delay := rfl
    recording := fun r hr => nomatch hn.symm.trans hr
    history := history_of_none hn }

/-- An accepted program is entered with what a run keeps. -/
theorem Ready.entered (h : p.Ready) {tree : Program.Tree}
    (hreview : Program.review p.restrictions p.code = .ok tree) (hR : p.record = .ok R) :
    (∃ running, p.enter.1 = .ok running) ∧ p.enter.2.Runs p.initial R := by
  obtain ⟨hn, hs, hw⟩ := h.booked.idle h.idle
  have hhistory : p.history = [] := history_of_none hn
  have hrec : ∀ r, p.record = .ok r → r.Sound p.initial := fun r hr => record_sound h.initial hr
  have hground : p.Grounded := by
    refine ⟨?_, ?_⟩
    · rw [hn]
      exact nofun
    · rw [hhistory, hw]
      rfl
  -- a run that has not begun was not overtaken by another one
  have hovertaken : ¬ p.Overtaken := by
    rintro (ho | ⟨ho, -⟩)
    · cases h.idle.symm.trans ho
    · cases h.idle.symm.trans ho
  have hperforms : p.Performs p.initial R := by
    refine ⟨rfl, ⟨tree, hreview⟩, hR, ?_⟩
    intro hne
    exact (hne h.idle).elim
  have hentered : (∃ running, p.enter.1 = .ok running) ∧
      (p.enter.2.state.status = .running ∨ p.enter.2.state.status.terminal = true) := by
    have he := p.entered
    generalize p.enter = a at he ⊢
    cases he with
    | unknown _ hr => cases hr.symm.trans hR
    | resumed _ => exact ⟨⟨_, rfl⟩, .inl rfl⟩
    | rejected _ _ => exact ⟨⟨_, rfl⟩, .inr rfl⟩
    | stillborn _ _ _ _ => exact ⟨⟨_, rfl⟩, .inr rfl⟩
    | recorded _ _ _ => exact ⟨⟨_, rfl⟩, .inl rfl⟩
  exact ⟨hentered.1, hperforms.enter, h.booked.enter,
    (orderly_of_fresh hs hhistory).enter h.booked hovertaken, hground.enter h.booked hrec, hentered.2⟩

/-- What is entered with an accepted program runs to the end of its recording. -/
private theorem Ready.runAlone_accepted (h : p.Ready) {tree : Program.Tree}
    (hreview : Program.review p.restrictions p.code = .ok tree) (hR : p.record = .ok R) :
    ∃ q, p.runAlone = .ok q ∧ p.Completed q R := by
  obtain ⟨⟨running, hanswer⟩, hruns⟩ := h.entered hreview hR
  -- a run asks for as many ticks as the recording has, and one more, which covers all that are left
  have hleft : p.enter.2.ticksLeft ≤ ((p.enter.2.recording.map (·.ticks.size)).getD 0) + 1 := by
    unfold ticksLeft
    split
    · exact Nat.succ_le_succ (Nat.sub_le _ _)
    · exact Nat.zero_le _
  obtain ⟨hend, hterminal⟩ := hruns.tickAll hleft
  refine ⟨_, runAlone_of_entered hanswer, hend.completed hterminal ?_⟩
  rw [delay_tickAll, delay_enter]

/-- A player that runs alone ends as the recording of its program does. -/
theorem Ready.runAlone (h : p.Ready) (hR : p.reviewed = .ok R) :
    ∃ q, p.runAlone = .ok q ∧ p.Completed q R := by
  unfold reviewed at hR
  cases hreview : Program.review p.restrictions p.code with
  | error e =>
    rw [hreview] at hR
    cases hR
    have halone := runAlone_of_rejected h.idle (h.booked.idle h.idle).1 hreview
    exact ⟨_, halone, h.completed_rejected e⟩
  | ok tree =>
    rw [hreview] at hR
    exact h.runAlone_accepted hreview hR

def beats (s : Source) (waits : Nat) (p : Player) : Nat → List Beat
  | 0 => []
  | n + 1 =>
    match p.tick? with
    | none => []
    | some q =>
      q.beat :: if q.state.status = .running then
        s.pause waits q.state.delay ++
          q.beats s (waits + (s.pause waits q.state.delay).length) n
      else []

theorem beats_succ (ht : p.tick? = some q) (s : Source) (waits n : Nat) :
    p.beats s waits (n + 1) = q.beat :: if q.state.status = .running then
      s.pause waits q.state.delay ++ q.beats s (waits + (s.pause waits q.state.delay).length) n
    else [] := by
  rw [beats, ht]

theorem beats_of_not_running (h : p.state.status ≠ .running) (s : Source) (waits n : Nat) :
    p.beats s waits n = [] := by
  have hnone : p.tick? = none := by rw [tick?, if_pos h]
  cases n with
  | zero => rfl
  | succ n => rw [beats, hnone]

def performance (s : Source) (p : Player) : List Beat :=
  p.enter.2.beat :: p.enter.2.beats s 0 (((p.enter.2.recording.map (·.ticks.size)).getD 0) + 1)

/-- A run of a player comes to an end with a fault or without one, and leaves this player, if nothing
is answered meanwhile. -/
def RunsTo (p : Player) (fault : Option PlayerFault) (q : Player) : Prop :=
  ∀ (ε : Type) (e : Environment ε) (env : ε), e.Quiet →
    ∃ n c, Config.settle e n { player := p, stack := [.perform .run], env := env } = c ∧
      c.stack = [] ∧ c.fault = fault ∧ c.player = q

end Player

namespace Config

variable {ε : Type} {e : Environment ε} {p q : Player}

/-- A loop applies the next tick, and then it waits. -/
theorem within_wait (he : e.Quiet) (ht : p.tick? = some q) (s : Source) (waits : Nat) (env : ε) :
    Within e (2 * q.listeners.length + 4) ⟨p, [.loop s p.generation], waits, env, none⟩
      ⟨q, [.wait s p.generation], waits, e.watch q.listeners [q.beat] env, none⟩ := by
  have hs : p.state.status = .running := (Player.tick?_eq_some ht).1
  have hloop : step e ⟨p, [.loop s p.generation], waits, env, none⟩ =
      ⟨p, [.tick 1, .wait s p.generation], waits, env, none⟩ := by
    rw [step_eq rfl, resume, if_pos ⟨hs, rfl⟩]
    rfl
  exact .head hloop (within_tick he ht [.wait s p.generation] waits env)

/-- A wait during which nothing is answered leads back to its loop. -/
theorem within_loop (he : e.Quiet) (hq : q.state.status = .running) (s : Source) (g waits : Nat)
    (env : ε) :
    Within e 2 ⟨q, [.wait s g], waits, env, none⟩
      ⟨q, [.loop s g], waits + (s.pause waits q.state.delay).length,
        e.watch q.listeners (s.pause waits q.state.delay) env, none⟩ := by
  by_cases hd : s = .run ∧ q.state.delay = 0
  · have hhurry : step e ⟨q, [.wait s g], waits, env, none⟩ = ⟨q, [.loop s g], waits, env, none⟩ := by
      rw [step_eq rfl, resume, if_neg (not_not.mpr hq), if_pos hd]
      rfl
    rw [Source.pause, if_pos hd]
    exact .mono (.single hhurry) (Nat.le_succ 1)
  · let n : Notice := .waited (waits + 1) q.state.delay
    have hwait : step e ⟨q, [.wait s g], waits, env, none⟩ =
        ⟨q, [.react n, .loop s g], waits + 1, e.observe n env, none⟩ := by
      rw [step_eq rfl, resume, if_neg (not_not.mpr hq), if_neg hd]
      rfl
    have hheard : step e ⟨q, [.react n, .loop s g], waits + 1, e.observe n env, none⟩ =
        ⟨q, [.loop s g], waits + 1, e.observe n env, none⟩ := by
      rw [step_eq rfl, resume, he]
    rw [Source.pause, if_neg hd]
    exact .head hwait (.single hheard)

/-- The loop of a run does what the player does alone, and then it is left. Whoever looks on sees the
player after every tick. -/
theorem within_ended (he : e.Quiet) (s : Source) (n : Nat)
    (hn : (p.tickAll n).state.status ≠ .running) (waits : Nat) (env : ε) :
    ∃ waits', Within e (n * (2 * p.listeners.length + 6) + 1)
      ⟨p, [.loop s p.generation], waits, env, none⟩
      ⟨p.tickAll n, [], waits', e.watch p.listeners (p.beats s waits n) env, none⟩ := by
  have hleave (p : Player) (hs : p.state.status ≠ .running) (waits : Nat) (env : ε) :
      step e ⟨p, [.loop s p.generation], waits, env, none⟩ = ⟨p, [], waits, env, none⟩ := by
    rw [step_eq rfl, resume, if_neg fun h => hs h.1]
  -- on the number of ticks: each of them leads to the loop again, or ends the run
  induction n generalizing p waits env with
  | zero => exact ⟨waits, .mono (.single (hleave p hn waits env)) (Nat.le_add_left 1 _)⟩
  | succ n ih =>
    by_cases hs : p.state.status = .running
    · cases ht : p.tick? with
      | none =>
        rw [Player.tickAll, ht] at hn
        exact (hn hs).elim
      | some q =>
        have hall : p.tickAll (n + 1) = q.tickAll n := by rw [Player.tickAll, ht]
        have hframe := Player.tick?_frame ht
        have hgeneration : p.generation = q.generation := (congrArg Player.generation hframe).symm
        have hlisteners : p.listeners = q.listeners := (congrArg Player.listeners hframe).symm
        have hwait := within_wait he ht s waits env
        rw [hall] at hn ⊢
        rw [hgeneration] at hwait ⊢
        rw [hlisteners, Nat.succ_mul, Player.beats_succ ht, Environment.watch_cons]
        by_cases hq : q.state.status = .running
        · have hloop := within_loop he hq s q.generation waits (e.watch q.listeners [q.beat] env)
          obtain ⟨waits', hend⟩ := ih hn _ _
          rw [if_pos hq, Environment.watch_append]
          exact ⟨waits', (hwait.trans (hloop.trans hend)).mono (by omega)⟩
        · have hstop : step e ⟨q, [.wait s q.generation], waits, e.watch q.listeners [q.beat] env,
              none⟩ = ⟨q, [], waits, e.watch q.listeners [q.beat] env, none⟩ := by
            rw [step_eq rfl, resume, if_pos hq]
          rw [if_neg hq, Player.tickAll_of_not_running hq]
          exact ⟨waits, (hwait.tail hstop).mono (by omega)⟩
    · rw [Player.tickAll_of_not_running hs, Player.beats_of_not_running hs]
      exact ⟨waits, .mono (.single (hleave p hs waits env)) (Nat.le_add_left 1 _)⟩

end Config

namespace Player

variable {p q : Player} {R : Recording}

theorem within_source (hi : p.state.status = .idle) (s : Source) {ε : Type} (e : Environment ε)
    (env : ε) :
    Config.Within e 2 ⟨p, [.perform s.operation], 0, env, none⟩
      ⟨p, [.enter (.loop s)], 0, env, none⟩ := by
  have hs : p.state.status ≠ .running := by simp [hi]
  have ht : p.state.status.terminal = false := by simp [hi, Status.terminal]
  cases s with
  | run => exact Config.within_entry hs ht .run trivial env
  | play => exact Config.within_entry hs ht .play trivial env

/-- A run that is operated leaves the player that runs alone, and nothing else is noticed than what the
player does. It takes a bounded number of steps for each tick, and a few more. -/
theorem within_runAlone (hi : p.state.status = .idle) (h : p.runAlone = .ok q)
    (hq : q.state.status ≠ .running) (s : Source) {ε : Type} {e : Environment ε} (he : e.Quiet)
    (env : ε) :
    ∃ waits, Config.Within e
      (((q.recording.map (·.ticks.size)).getD 0 + 3) * (2 * p.listeners.length + 6))
      ⟨p, [.perform s.operation], 0, env, none⟩
      ⟨q, [], waits, e.watch p.listeners (p.performance s) env, none⟩ := by
  have hentry := within_source hi s e env
  rw [runAlone] at h
  split at h
  · cases h
  · rename_i running q₁ henter
    cases h
    have hentered := Config.within_entered he henter (.loop s) env
    have hlisteners : q₁.listeners = p.listeners := by
      have hkept : p.enter.2.listeners = p.listeners := by rw [enter_frame]
      rwa [henter] at hkept
    have hrecording (n : Nat) : (q₁.tickAll n).recording = q₁.recording := by rw [tickAll_frame]
    rw [hrecording, Nat.add_mul, performance, henter, Environment.watch_cons]
    rw [hlisteners] at hentered
    cases running with
    | true =>
      have hbegin (env : ε) : Config.step e ⟨q₁, [.begin (.loop s)], 0, env, none⟩ =
          ⟨q₁, [.loop s q₁.generation], 0, env, none⟩ := rfl
      obtain ⟨waits, hend⟩ := Config.within_ended he s _ hq 0 (e.watch p.listeners [q₁.beat] env)
      rw [hlisteners, Nat.succ_mul] at hend
      exact ⟨waits, (hentry.trans (hentered.trans (.head (hbegin _) hend))).mono (by omega)⟩
    | false =>
      have hnot : q₁.state.status ≠ .running := status_of_not_entered henter (by simp)
      rw [tickAll_of_not_running hnot, beats_of_not_running hnot]
      exact ⟨0, (hentry.trans hentered).mono (by omega)⟩

/-- A run that cannot be entered ends with the fault of the entry. -/
theorem runsTo_of_enter_error (hi : p.state.status = .idle) {f : PlayerFault}
    (h : p.enter = (.error f, q)) : p.RunsTo (some f) q := by
  intro ε e env he
  have hcut : Config.step e ⟨p, [.enter (.loop .run)], 0, env, none⟩ =
      ⟨q, [], 0, env, some f⟩ := by
    rw [Config.step_eq rfl, Config.resume, h]
    rfl
  obtain ⟨k, -, hk⟩ := (within_source hi .run e env).tail hcut
  exact ⟨k, _, hk, rfl, rfl, rfl⟩

/-- A run of a player at its beginning ends as the recording of its program does, and leaves the
player that runs alone. -/
theorem Ready.runsTo (h : p.Ready) (hR : p.reviewed = .ok R) :
    ∃ q, p.runAlone = .ok q ∧ p.RunsTo none q ∧ p.Ended q R := by
  obtain ⟨q, halone, hend⟩ := h.runAlone hR
  refine ⟨q, halone, ?_, hend.toEnded⟩
  intro ε e env he
  obtain ⟨waits, k, -, hk⟩ := within_runAlone h.idle halone hend.not_running .run he env
  exact ⟨k, _, hk, rfl, rfl, rfl⟩

end Player

end KarelLab.Playback
