import KarelLab.Proofs.Except
import KarelLab.Proofs.Playback.Alone

/-!
# What can be noticed of a run

A run that nobody interrupts shows one state after every tick and waits between two ticks. What is
noticed of it is written down here for every recording, and found again in what a player does that is
asked to run or to play. The two tell the same, and they differ only in how they wait without a delay.
-/

namespace KarelLab

open Playback

namespace Playback.Beat

def isScene : Beat → Bool
  | .shows _ _ => true
  | .waits _ _ => false

def progress? : Beat → Option (Status × Nat)
  | .shows state _ => some (state.status, state.stepCount)
  | .waits _ _ => none

def delay? : Beat → Option Nat
  | .shows _ _ => none
  | .waits _ delay => some delay

end Playback.Beat

namespace Recording

variable (R : Recording) (w : World) (d : Nat)

/-- What is shown of a run that goes on after so many ticks. -/
def scene (i : Nat) : Beat :=
  .shows { status := .running, currentLine := (R.ticks.toList.take i).getLast?.bind Tick.line
           stepCount := i, delay := d }
    (w.shown (R.ticks.toList.take i))

def finale : Beat := .shows (.atEnd R d) (w.shown R.ticks.toList)

def Stillborn : Prop := R.ticks.size = 0 ∧ R.error ≠ none

instance : Decidable R.Stillborn := inferInstanceAs (Decidable (_ ∧ _))

def scenes : List Beat :=
  if R.Stillborn then [R.finale w d]
  else (List.range (max 1 R.ticks.size)).map (R.scene w d) ++ [R.finale w d]

def rest (s : Source) (i n : Nat) : List Beat :=
  (List.range' i n).flatMap fun j => R.scene w d j :: s.pause (j - 1) d

def story (s : Source) : List Beat :=
  if R.Stillborn then [R.finale w d]
  else R.scene w d 0 :: (R.rest w d s 1 (R.ticks.size - 1) ++ [R.finale w d])

variable {R w d}

theorem rest_succ (s : Source) (i n : Nat) :
    R.rest w d s i (n + 1) = R.scene w d i :: (s.pause (i - 1) d ++ R.rest w d s (i + 1) n) := by
  rw [rest, List.range'_succ, List.flatMap_cons, List.cons_append]
  rfl

end Recording

namespace Playback

theorem Source.filter_pause (s : Source) (waits delay : Nat) :
    (s.pause waits delay).filter Beat.isScene = [] := by
  rw [pause]
  split <;> rfl

theorem Source.delays_pause (s : Source) (waits delay : Nat) :
    (s.pause waits delay).filterMap Beat.delay? = if s = .run ∧ delay = 0 then [] else [delay] := by
  rw [pause]
  split <;> rfl

/-- Waits are counted as the ticks are, if there are any. -/
theorem Source.pause_succ {s : Source} {waits delay i : Nat}
    (h : s.pause waits delay = s.pause i delay) :
    s.pause (waits + (s.pause waits delay).length) delay = s.pause (i + 1) delay := by
  unfold pause at h ⊢
  split
  · rfl
  · rename_i hd
    rw [if_neg hd, if_neg hd] at h
    cases h
    rfl

end Playback

namespace Recording

variable {R : Recording} {w : World} {d : Nat}

theorem filter_rest (s : Source) (i n : Nat) :
    (R.rest w d s i n).filter Beat.isScene = (List.range' i n).map (R.scene w d) := by
  induction n generalizing i with
  | zero => rfl
  | succ n ih =>
    rw [rest_succ, List.filter_cons_of_pos rfl, List.filter_append, s.filter_pause, List.nil_append,
      ih, List.range'_succ, List.map_cons]

theorem delays_rest (s : Source) (i n : Nat) :
    (R.rest w d s i n).filterMap Beat.delay? =
      if s = .run ∧ d = 0 then [] else List.replicate n d := by
  induction n generalizing i with
  | zero => exact (ite_self _).symm
  | succ n ih =>
    rw [rest_succ, List.filterMap_cons_none rfl, List.filterMap_append, s.delays_pause, ih]
    split <;> rfl

/-- Whoever asks for the ticks, the listeners are told the same. -/
theorem told_story (s : Source) : (R.story w d s).filter Beat.isScene = R.scenes w d := by
  rw [story, scenes]
  split
  · rfl
  · have hrange : List.range (max 1 R.ticks.size) = 0 :: List.range' 1 (R.ticks.size - 1) := by
      have hmax : max 1 R.ticks.size = R.ticks.size - 1 + 1 := by omega
      rw [hmax, List.range_eq_range', List.range'_succ]
    rw [hrange, List.filter_cons_of_pos rfl, List.filter_append, filter_rest, List.map_cons,
      List.cons_append]
    rfl

/-- The waits are as many as the ticks but for the last one. -/
theorem delays_story (s : Source) :
    (R.story w d s).filterMap Beat.delay? =
      if s = .run ∧ d = 0 then [] else List.replicate (R.ticks.size - 1) d := by
  rw [story]
  split
  · rename_i hs
    rw [hs.1]
    exact (ite_self _).symm
  · rw [List.filterMap_cons_none rfl, List.filterMap_append, delays_rest]
    exact List.append_nil _

theorem getLast?_story (s : Source) : (R.story w d s).getLast? = some (R.finale w d) := by
  rw [story]
  split
  · rfl
  · rw [← List.cons_append, List.getLast?_append]
    rfl

/-- The listeners are told that the run begins, of every tick that it goes on, and of the end. -/
theorem progress_scenes : (R.scenes w d).filterMap Beat.progress? =
    (if R.Stillborn then [] else (List.range (max 1 R.ticks.size)).map fun i => (.running, i)) ++
      [(if R.failed then .error else .success, R.ticks.size)] := by
  rw [scenes]
  split
  · rfl
  · rw [List.filterMap_append, List.filterMap_map]
    have hscene : Beat.progress? ∘ R.scene w d = fun i => some (.running, i) := rfl
    rw [hscene, List.filterMap_eq_map']
    rfl

end Recording

namespace Playback.Player

variable {p q : Player} {w : World} {R : Recording}

theorem cursor_tick_le (h : p.tick? = some q) : q.cursor ≤ p.cursor + 1 := by
  obtain ⟨-, r, -, hk⟩ := tick?_eq_some h
  cases hk with
  | ended _ =>
    rw [finish_frame]
    exact Nat.le_succ _
  | failed _ _ => exact Nat.le_of_eq (cursor_applyTick p _)
  | next _ _ _ => exact Nat.le_of_eq (cursor_applyTick p _)
  | last _ _ _ =>
    rw [finish_frame]
    exact Nat.le_of_eq (cursor_applyTick p _)

/-- A run that goes on shows the ticks that were applied. -/
theorem Runs.beat_eq_scene (h : p.Runs w R) (hs : p.state.status = .running) :
    p.beat = R.scene w p.state.delay p.cursor := by
  have hrecorded : p.recording = some R := h.performs.recorded (by simp [hs])
  have hhistory := history_of_some hrecorded
  obtain ⟨herror, hcode, herrorLine⟩ := h.orderly.clear (by simp [hs])
  have hstate : p.state = { status := .running
                            currentLine := (R.ticks.toList.take p.cursor).getLast?.bind Tick.line
                            stepCount := p.cursor, delay := p.state.delay } := by
    have hsteps := h.booked.steps
    have hline := h.booked.line
    rw [hhistory] at hline
    generalize p.state = s at *
    cases s
    simp only at hs herror hcode herrorLine hsteps hline
    subst hs herror hcode herrorLine hsteps hline
    rfl
  have hworld : p.world = w.shown (R.ticks.toList.take p.cursor) := by
    rw [h.grounded.world, h.grounded.traces.replay_eq_shown, h.performs.initial, hhistory]
  rw [beat, hworld, Recording.scene, ← hstate]

/-- A run that is over shows the end of its recording. -/
theorem Completed.beat_eq_finale (h : p.Completed q R) :
    q.beat = R.finale p.initial p.state.delay := by
  rw [beat, h.toEnded.state_eq_end, h.world]
  rfl

/-- What is noticed of a run that goes on: all that is left of its recording. -/
theorem Runs.beats_eq (h : p.Runs w R) (hs : p.state.status = .running) {s : Source} {waits n : Nat}
    (hwaits : s.pause waits p.state.delay = s.pause p.cursor p.state.delay)
    (hn : R.ticks.size - 1 - p.cursor < n) :
    p.beats s waits n =
      R.rest w p.state.delay s (p.cursor + 1) (R.ticks.size - 1 - p.cursor) ++
        [R.finale w p.state.delay] := by
  -- on the ticks that are asked for: one that does not end the run is followed by those that are left
  induction n generalizing p waits with
  | zero => exact (Nat.not_lt_zero _ hn).elim
  | succ n ih =>
    have hrecorded : p.recording = some R := h.performs.recorded (by simp [hs])
    obtain ⟨q, ht⟩ := tick?_isSome hs hrecorded
    have hq := h.tick ht
    have hdelay := delay_tick ht
    rw [beats_succ ht]
    by_cases hrun : q.state.status = .running
    · -- the tick was not the last one, so that a wait follows it and one tick less is left
      obtain ⟨hcursor, hlt⟩ := tick?_running ht hrecorded hrun
      have hleft : R.ticks.size - 1 - p.cursor = (R.ticks.size - 1 - q.cursor) + 1 := by omega
      have hnext := Source.pause_succ hwaits
      rw [← hdelay, ← hcursor] at hnext
      rw [if_pos hrun, hq.beat_eq_scene hrun, ih hq hrun hnext (by omega), hleft, Recording.rest_succ,
        hdelay, hwaits, hcursor, Nat.add_sub_cancel, List.cons_append, List.append_assoc]
    · -- the run is over with this tick, and nothing follows what it shows
      have hterminal := hq.underway.resolve_left hrun
      have hq' : q.Runs q.initial R := by
        rw [hq.performs.initial]
        exact hq
      have hend : q.Completed q R := hq'.completed hterminal rfl
      have hcursor : q.cursor = R.ticks.size := hq.booked.steps.symm.trans hend.steps
      have hle := cursor_tick_le ht
      have hnone : R.ticks.size - 1 - p.cursor = 0 := by omega
      rw [if_neg hrun, hend.beat_eq_finale, hq.performs.initial, hdelay, hnone]
      rfl

/-- What is noticed of an accepted program that is run from its beginning. -/
theorem Ready.performance_eq (h : p.Ready) {tree : Program.Tree}
    (hreview : Program.review p.restrictions p.code = .ok tree) (hR : p.record = .ok R)
    (s : Source) : p.performance s = R.story p.initial p.state.delay s := by
  obtain ⟨-, hruns⟩ := h.entered hreview hR
  have hdelay := p.delay_enter
  have he := p.entered
  rw [performance]
  generalize p.enter = a at he hruns hdelay ⊢
  cases he with
  | resumed hi => exact (hi h.idle).elim
  | rejected _ hv => cases hv.symm.trans hreview
  | unknown _ hr => cases hr.symm.trans hR
  | stillborn _ hr hempty herror =>
    -- to enter the run ends it, before a tick is asked for
    cases hr.symm.trans hR
    have hend : p.Completed _ R := hruns.completed rfl hdelay
    have hstill : R.Stillborn := ⟨by rw [hempty]; rfl, by simp [herror]⟩
    rw [beats_of_not_running hend.not_running, hend.beat_eq_finale, Recording.story, if_pos hstill]
  | recorded _ hr halive =>
    cases hr.symm.trans hR
    have hstill : ¬ R.Stillborn := by
      rintro ⟨hempty, herror⟩
      exact halive.elim (· (Array.size_eq_zero_iff.mp hempty)) herror
    have hbeats := @Runs.beats_eq _ _ R hruns rfl s 0 (R.ticks.size + 1) rfl (by omega)
    rw [hdelay] at hbeats
    have hbeat := hruns.beat_eq_scene rfl
    rw [hdelay] at hbeat
    rw [hbeat, Recording.story, if_neg hstill]
    exact congrArg _ hbeats

/-- An operation that nobody interrupts tells the story of the recording, and nothing else. -/
theorem Ready.tells_story (h : p.Ready) {tree : Program.Tree}
    (hreview : Program.review p.restrictions p.code = .ok tree) (hR : p.record = .ok R) :
    ∃ q, p.runAlone = .ok q ∧ p.Completed q R ∧
      ∀ (s : Source) (ε : Type) (e : Environment ε) (env : ε), e.Quiet →
        ∃ n waits, Config.settle e n ⟨p, [.perform s.operation], 0, env, none⟩ =
          ⟨q, [], waits, e.watch p.listeners (R.story p.initial p.state.delay s) env, none⟩ := by
  have hreviewed : p.reviewed = .ok R := by rw [reviewed, hreview]; exact hR
  obtain ⟨q, halone, hend⟩ := h.runAlone hreviewed
  refine ⟨q, halone, hend, ?_⟩
  intro s ε e env he
  obtain ⟨waits, n, -, hn⟩ := within_runAlone h.idle halone hend.not_running s he env
  rw [h.performance_eq hreview hR s] at hn
  exact ⟨n, waits, hn⟩

end Playback.Player

namespace Playback.Course

variable {ε : Type} {e : Environment ε} {c : Nat → Config ε} {w : World} {code : String}
  {restrictions : Program.Restrictions} {suite : Option Lesson.Suite} {budgets : Isolation.Budgets}
  {isolated : Bool} {ms : Int} {d₀ : Nat}

/-- At every time of a course at which the player is idle and its program is accepted, a run and a play
that nobody interrupts leave the same player and tell the same: that it runs, every tick with its number,
and with the last tick how it ended. Between two ticks they wait as long as the delay says, a run only if
there is one, and never after the last tick. -/
theorem uninterrupted_tells_story (hw : w.WellFormed)
    (hsuite : ∀ s, suite = some s → ∀ x ∈ s.worlds, x.2.WellFormed)
    (hms : checkedDelay ms = .ok d₀)
    (h : Course e Operation.Accepted (.start w code restrictions suite budgets isolated d₀) c) (i : Nat)
    (hi : (c i).player.state.status = .idle)
    (hcode : ∃ tree, Program.review (c i).player.restrictions (c i).player.code = .ok tree)
    {R : Recording} (hR : (c i).player.record = .ok R) :
    let p := (c i).player
    let story := R.story p.initial p.state.delay
    let scenes := R.scenes p.initial p.state.delay
    (∃ q, p.runAlone = .ok q ∧ p.Completed q R ∧
      ∀ (s : Source) (δ : Type) (e : Environment δ) (env : δ), e.Quiet →
        ∃ n waits, Config.settle e n ⟨p, [.perform s.operation], 0, env, none⟩ =
          ⟨q, [], waits, e.watch p.listeners (story s) env, none⟩) ∧
    (∀ s, (story s).filter Beat.isScene = scenes) ∧
    scenes.filterMap Beat.progress? =
      (if R.ticks.size = 0 ∧ R.error ≠ none then []
        else (List.range (max 1 R.ticks.size)).map fun i => (.running, i)) ++
        [(if R.failed then .error else .success, R.ticks.size)] ∧
    (∀ s, (story s).filterMap Beat.delay? =
      if s = .run ∧ p.state.delay = 0 then [] else List.replicate (R.ticks.size - 1) p.state.delay) ∧
    ∀ s, (story s).getLast? = some (R.finale p.initial p.state.delay) := by
  intro p story scenes
  obtain ⟨hbooked, hsupplied, -⟩ := h.grounded hw hsuite hms i
  have hready : p.Ready := ⟨hbooked, hi, hsupplied.initial⟩
  obtain ⟨tree, hreview⟩ := hcode
  exact ⟨hready.tells_story hreview hR, Recording.told_story, Recording.progress_scenes,
    Recording.delays_story, Recording.getLast?_story⟩

/-- A player with a listener that moves twice, asked to run or to play. -/
theorem uninterrupted_tells_story_two_moves :
    let p := Player.start .default "move()\nmove()" {} none ⟨10, .seconds Isolation.defaultLimit⟩
      false 300
    let c := operated (.once (fun _ => true) .pause) { player := p, env := false }
      [(.subscribe 0, false)]
    (c 5).player.state.status = .idle ∧ (c 5).player.listeners = [0] ∧
      ∃ R q, (c 5).player.record = .ok R ∧ (c 5).player.Completed q R ∧
        (R.scenes (c 5).player.initial (c 5).player.state.delay).filterMap Beat.progress? =
          [(.running, 0), (.running, 1), (.success, 2)] ∧
        ∀ s, (R.story (c 5).player.initial (c 5).player.state.delay s).filterMap Beat.delay? = [300] := by
  intro p c
  have hw : World.default.WellFormed := by constructor <;> decide
  have hsuite : ∀ s : Lesson.Suite, none = some s → ∀ x ∈ s.worlds, x.2.WellFormed := nofun
  have hms : checkedDelay 300 = .ok 300 := rfl
  have h : Course (.once (fun _ => true) .pause) Operation.Accepted p c := by
    refine .of_operated _ _ _ (by simp [Operation.Accepted]) ?_
    intro n waiting op left ha
    rw [(Environment.answer_once ha).2]
    trivial
  have hidle : (c 5).player.state.status = .idle ∧ (c 5).player.listeners = [0] ∧
      (c 5).player.state.delay = 300 := by decide +kernel
  have hcode : (Program.review (c 5).player.restrictions (c 5).player.code).isOk = true := by
    decide +kernel
  have hrecord : (c 5).player.record.toOption.map (fun R => (R.ticks.size, R.error, R.failed)) =
      some (2, none, false) := by decide +kernel
  cases hR : (c 5).player.record with
  | error u =>
    rw [hR] at hrecord
    cases hrecord
  | ok R =>
    rw [hR] at hrecord
    obtain ⟨hsize, herror, hfailed⟩ :
        R.ticks.size = 2 ∧ R.error = none ∧ R.failed = false := by
      simpa [Except.toOption] using hrecord
    obtain ⟨⟨q, -, hend, -⟩, -, hprogress, hdelays, -⟩ :=
      uninterrupted_tells_story hw hsuite hms h 5 hidle.1 (exists_eq_ok_of_isOk hcode) hR
    rw [hsize, herror, hfailed] at hprogress
    refine ⟨hidle.1, hidle.2.1, R, q, rfl, hend, hprogress, fun s => (hdelays s).trans ?_⟩
    rw [hidle.2.2, hsize, if_neg fun h => by cases h.2]
    rfl

end Playback.Course

end KarelLab
