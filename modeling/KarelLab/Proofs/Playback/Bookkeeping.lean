import KarelLab.Proofs.Playback.Course

namespace KarelLab.Playback

theorem checkedDelay_le {ms : Int} {d : Nat} (h : checkedDelay ms = .ok d) : d ≤ maxDelay := by
  unfold checkedDelay at h
  split at h
  · cases h
  · cases h
    exact Nat.min_le_right _ _

theorem Speed.toDelay_le {s : Speed} {d : Nat} (h : s.toDelay = .ok d) : d ≤ maxDelay := by
  cases s with
  | preset name =>
    rw [toDelay] at h
    split at h
    · exact checkedDelay_le h
    · cases h
  | delay ms => exact checkedDelay_le h
  | unreadable f => cases h

namespace Player

variable {p q : Player} {f : Frame}

/-- The books of a player: the count of steps and the line tell which ticks were applied, a player
that is idle stands at its beginning, and the delay is in bounds. -/
structure Booked (p : Player) : Prop where
  steps : p.state.stepCount = p.cursor
  unrecorded : p.recording = none → p.cursor = 0
  within : ∀ r, p.recording = some r → p.cursor ≤ r.ticks.size
  line : p.state.currentLine = p.history.getLast?.bind Tick.line
  idle : p.state.status = .idle →
    p.recording = none ∧ p.state = .fresh p.state.delay ∧ p.world = p.initial
  delay : p.state.delay ≤ maxDelay

/-- Every tick that was applied is one step. -/
theorem Booked.length_history (h : p.Booked) : p.history.length = p.state.stepCount := by
  rw [h.steps]
  cases hr : p.recording with
  | none => rw [history_of_none hr, h.unrecorded hr, List.length_nil]
  | some r =>
    have hle : p.cursor ≤ r.ticks.toList.length := by simpa using h.within r hr
    rw [history_of_some hr, List.length_take, Nat.min_eq_left hle]

theorem Booked.withStatus (h : p.Booked) {s : Status} (hs : s ≠ .idle) :
    (p.withStatus s).Booked :=
  { h with idle := fun hi => (hs hi).elim }

theorem Booked.fail (h : p.Booked) (r : Report) : (p.fail r).Booked :=
  { h with idle := nofun }

theorem booked_reset (h : p.state.delay ≤ maxDelay) : p.reset.Booked where
  steps := rfl
  unrecorded _ := rfl
  within := nofun
  line := rfl
  idle _ := ⟨rfl, rfl, rfl⟩
  delay := h

theorem Booked.finish (h : p.Booked) : p.finish.Booked := by
  have hf := p.finished
  generalize p.finish = q at hf ⊢
  cases hf with
  | failure _ _ => exact h.fail _
  | success _ => exact h.withStatus nofun

theorem history_applyTick {r : Recording} {t : Tick} (hr : p.recording = some r)
    (ht : r.ticks[p.cursor]? = some t) : (p.applyTick t).history = p.history ++ [t] := by
  have hr' : (p.applyTick t).recording = some r := by rw [recording_applyTick, hr]
  have ht' : r.ticks.toList[p.cursor]? = some t := by rw [Array.getElem?_toList, ht]
  rw [history_of_some hr', history_of_some hr, cursor_applyTick, List.take_add_one, ht']
  rfl

theorem Booked.applyTick (h : p.Booked) {r : Recording} {t : Tick} (hr : p.recording = some r)
    (ht : r.ticks[p.cursor]? = some t) (hs : p.state.status ≠ .idle) : (p.applyTick t).Booked := by
  have hlt : p.cursor < r.ticks.size := (Array.getElem?_eq_some_iff.mp ht).1
  -- count and line are set before the outcome is looked at, so a tick that fails counts as well
  have hfields : (p.applyTick t).state.stepCount = p.state.stepCount + 1 ∧
      (p.applyTick t).state.currentLine = t.line ∧ (p.applyTick t).state.status ≠ .idle ∧
      (p.applyTick t).state.delay = p.state.delay := by
    cases hf : t.report? with
    | none =>
      rw [state_applyTick_passed hf]
      exact ⟨rfl, rfl, hs, rfl⟩
    | some e =>
      rw [applyTick_failed hf]
      exact ⟨rfl, rfl, nofun, rfl⟩
  obtain ⟨hcount, hline, hstatus, hdelay⟩ := hfields
  refine ⟨?_, ?_, ?_, ?_, fun hi => (hstatus hi).elim, hdelay ▸ h.delay⟩
  · rw [hcount, cursor_applyTick, h.steps]
  · rw [recording_applyTick, hr]
    exact nofun
  · intro r' hr'
    rw [recording_applyTick, hr] at hr'
    cases hr'
    rw [cursor_applyTick]
    exact hlt
  · rw [hline, history_applyTick hr ht, List.getLast?_append]
    rfl

theorem Booked.begun (h : p.Booked) (hi : p.state.status = .idle) (r : Recording) {s : State}
    (hs : s.status ≠ .idle) (hc : s.stepCount = p.state.stepCount)
    (hl : s.currentLine = p.state.currentLine) (hd : s.delay = p.state.delay) :
    ({ p with generation := p.generation + 1, recording := some r, cursor := 0, state := s } :
      Player).Booked := by
  obtain ⟨hn, -, -⟩ := h.idle hi
  refine ⟨?_, fun _ => rfl, fun _ _ => Nat.zero_le _, ?_, fun hi' => (hs hi').elim, hd ▸ h.delay⟩
  · rw [hc, h.steps, h.unrecorded hn]
  · rw [hl, h.line, history_of_none hn, history_of_some rfl]
    rfl

theorem Booked.enter (h : p.Booked) : p.enter.2.Booked := by
  have he := p.entered
  generalize p.enter = a at he ⊢
  have hg : ({ p with generation := p.generation + 1 } : Player).Booked := { h with }
  cases he with
  | resumed _ => exact hg.withStatus nofun
  | rejected _ _ => exact hg.fail _
  | unknown _ _ => exact hg
  | stillborn hi _ _ _ => exact h.begun hi _ nofun rfl rfl rfl
  | recorded hi _ _ => exact h.begun hi _ nofun rfl rfl rfl

/-- Every change of a player keeps its books. -/
theorem Booked.moves (h : p.Booked) (hm : Moves p f q) : q.Booked := by
  cases hm with
  | keep f => exact h
  | pause hp =>
    obtain ⟨-, rfl⟩ := pause?_eq_some hp
    exact { h.withStatus (s := .paused) nofun with }
  | reset => exact booked_reset h.delay
  | recode text hs => exact booked_reset h.delay
  | again g hs => exact booked_reset h.delay
  | load hl => exact booked_reset h.delay
  | @speed s d hd =>
    refine { h with idle := ?_, delay := Speed.toDelay_le hd }
    intro hi
    obtain ⟨hn, hs, hw⟩ := h.idle hi
    exact ⟨hn, congrArg (fun s : State => { s with delay := d }) hs, hw⟩
  | code text hs => exact { h with }
  | setCode text => exact { h with }
  | budget n => exact { h with }
  | subscribe l => exact { h with }
  | unsubscribe l => exact { h with }
  | enter g => exact h.enter
  | tick n ht =>
    obtain ⟨hs, r, hr, hk⟩ := tick?_eq_some ht
    have hs' : p.state.status ≠ .idle := by simp [hs]
    cases hk with
    | ended _ => exact h.finish
    | failed hget _ => exact h.applyTick hr hget hs'
    | next hget _ _ => exact h.applyTick hr hget hs'
    | last hget _ _ => exact (h.applyTick hr hget hs').finish
  | settle hs => exact h.withStatus nofun

theorem history_finish (p : Player) : p.finish.history = p.history := by
  rw [finish_frame]
  rfl

/-- A change that does not drop the recording adds the tick that it applies to the history. -/
theorem Booked.history_moves (h : p.Booked) (hm : Moves p f q) (hq : q.recording ≠ none) :
    q.history = p.history ++ (f.applied? p).toList := by
  -- nothing but a tick adds to the history, and a recording that is dropped is excluded
  have hkeep {f : Frame} (hf : f.applied? p = none) :
      p.history = p.history ++ (f.applied? p).toList := by
    simp [hf]
  cases hm with
  | keep hf => exact hkeep hf
  | pause hp =>
    obtain ⟨-, rfl⟩ := pause?_eq_some hp
    exact hkeep rfl
  | reset => exact (hq rfl).elim
  | recode text hs => exact (hq rfl).elim
  | again g hs => exact (hq rfl).elim
  | load hl => exact (hq rfl).elim
  | speed hd => exact hkeep rfl
  | code text hs => exact hkeep rfl
  | setCode text => exact hkeep rfl
  | budget n => exact hkeep rfl
  | subscribe l => exact hkeep rfl
  | unsubscribe l => exact hkeep rfl
  | settle hs => exact hkeep rfl
  | enter g =>
    have he := p.entered
    generalize p.enter = a at he hq ⊢
    have hbegun (hi : p.state.status = .idle) (r : Recording) (s : State) :
        ({ p with generation := p.generation + 1, recording := some r, cursor := 0, state := s } :
          Player).history = p.history ++ [] := by
      rw [history_of_some rfl, history_of_none (h.idle hi).1]
      rfl
    cases he with
    | resumed _ => exact hkeep rfl
    | rejected _ _ => exact hkeep rfl
    | unknown _ _ => exact hkeep rfl
    | stillborn hi _ _ _ => exact hbegun hi _ _
    | recorded hi _ _ => exact hbegun hi _ _
  | tick n ht =>
    obtain ⟨hs, r, hr, hk⟩ := tick?_eq_some ht
    have hnext : Frame.applied? p (.tick (n + 1)) = r.ticks[p.cursor]? := next?_eq hs hr
    rw [hnext]
    cases hk with
    | ended hl =>
      rw [history_finish, Array.getElem?_eq_none hl]
      exact (List.append_nil _).symm
    | failed hget _ => rw [history_applyTick hr hget, hget, Option.toList_some]
    | next hget _ _ => rw [history_applyTick hr hget, hget, Option.toList_some]
    | last hget _ _ => rw [history_finish, history_applyTick hr hget, hget, Option.toList_some]

theorem booked_start (w : World) (code : String) (restrictions : Program.Restrictions)
    (suite : Option Lesson.Suite) (budgets : Isolation.Budgets) (isolated : Bool) {d : Nat}
    (hd : d ≤ maxDelay) : (start w code restrictions suite budgets isolated d).Booked where
  steps := rfl
  unrecorded _ := rfl
  within := nofun
  line := rfl
  idle _ := ⟨rfl, rfl, rfl⟩
  delay := hd

end Player

variable {ε : Type} {c : Nat → Config ε}

theorem booked_of_leads (h : ∀ i, (c i).Leads (c (i + 1))) (h0 : (c 0).player.Booked) (i : Nat) :
    (c i).player.Booked := by
  induction i with
  | zero => exact h0
  | succ i ih =>
    rcases h i with ⟨hp, -⟩ | ⟨f, rest, -, hm⟩
    · rw [hp]
      exact ih
    · exact ih.moves hm

/-- The history of a player is what was applied to it, step by step, since its recording was made:
every tick once and in order. -/
theorem appliedTicks_eq_history (h : ∀ i, (c i).Leads (c (i + 1))) (h0 : (c 0).player.Booked)
    (hn : (c 0).player.recording = none) (i : Nat) : appliedTicks c i = (c i).player.history := by
  induction i with
  | zero => rw [appliedTicks, Player.history_of_none hn]
  | succ i ih =>
    cases hr : (c (i + 1)).player.recording with
    | none => rw [appliedTicks, hr, Player.history_of_none hr, Option.isNone_none, if_pos rfl]
    | some r =>
      have hq : (c (i + 1)).player.recording ≠ none := by simp [hr]
      rw [appliedTicks, hr, Option.isNone_some, if_neg Bool.false_ne_true, ih]
      rcases h i with ⟨hp, ha⟩ | ⟨f, rest, hs, hm⟩
      · rw [hp, ha, Option.toList_none, List.append_nil]
      · rw [(booked_of_leads h h0 i).history_moves hm hq, Config.applied?, hs]
        rfl

namespace Course

variable {e : Environment ε} {ops : Operation → Prop} {p : Player}

theorem leads (h : Course e ops p c) (i : Nat) : (c i).Leads (c (i + 1)) := (h.next i).leads

theorem booked (h : Course e ops p c) (hp : p.Booked) (i : Nat) : (c i).player.Booked :=
  booked_of_leads h.leads (h.player ▸ hp) i

end Course

end KarelLab.Playback
