import KarelLab.Playback.Player

namespace KarelLab.Playback

theorem Status.ne_running_of_terminal {s : Status} (h : s.terminal = true) : s ≠ .running := by
  rintro rfl
  cases h

namespace Player

variable {p q : Player}

@[simp] theorem history_of_none (h : p.recording = none) : p.history = [] := by
  rw [history, h]

@[simp] theorem history_fail (p : Player) (r : Report) : (p.fail r).history = p.history := rfl

theorem withStatus_eq_self {s : Status} (h : p.state.status = s) : p.withStatus s = p := by
  subst h
  rfl

theorem history_of_some {r : Recording} (h : p.recording = some r) :
    p.history = r.ticks.toList.take p.cursor := by
  rw [history, h]
  simp

def next? (p : Player) : Option Tick :=
  if p.state.status = .running then p.recording.bind (·.ticks[p.cursor]?) else none

theorem next?_eq {r : Recording} (h : p.state.status = .running) (hr : p.recording = some r) :
    p.next? = r.ticks[p.cursor]? := by
  rw [next?, if_pos h, hr]
  rfl

inductive Finished (p : Player) : Player → Prop
  | failure {r : Recording} {e : Report} (recording : p.recording = some r)
      (error : r.error = some e) : Finished p (p.fail e)
  | success (h : ∀ r, p.recording = some r → r.error = none) :
      Finished p (p.withStatus .success)

theorem finished (p : Player) : Finished p p.finish := by
  rw [finish]
  cases hr : p.recording with
  | none => exact .success (by simp [hr])
  | some r =>
    cases he : r.error with
    | none =>
      simp only [Option.bind_some, he]
      refine .success ?_
      intro s hs
      rw [hr] at hs
      cases hs
      exact he
    | some e =>
      simp only [Option.bind_some, he]
      exact .failure hr he

/-- Finishing a run changes nothing but the visible state. -/
theorem finish_frame (p : Player) : p.finish = { p with state := p.finish.state } := by
  have hf := p.finished
  generalize p.finish = q at hf ⊢
  cases hf <;> rfl

/-- Finishing a run ends it, and tells of its error if there is one. -/
theorem state_finish (p : Player) : p.finish.state = { p.state with
    status := p.finish.state.status, errorLine := p.finish.state.errorLine
    error := p.finish.state.error, errorCode := p.finish.state.errorCode } := by
  have hf := p.finished
  generalize p.finish = q at hf ⊢
  cases hf <;> rfl

theorem terminal_finish (p : Player) : p.finish.state.status.terminal = true := by
  have hf := p.finished
  generalize p.finish = q at hf ⊢
  cases hf <;> rfl

/-- Applying a tick changes nothing but the world, the cursor and the visible state. -/
theorem applyTick_frame (p : Player) (t : Tick) :
    p.applyTick t = { p with
      world := (p.applyTick t).world, cursor := p.cursor + 1, state := (p.applyTick t).state } := by
  unfold applyTick
  cases t.outcome <;> rfl

/-- A tick is counted with its line, and it may end the run with an error. -/
theorem state_applyTick (p : Player) (t : Tick) : (p.applyTick t).state = { p.state with
    currentLine := t.line, stepCount := p.state.stepCount + 1
    status := (p.applyTick t).state.status, errorLine := (p.applyTick t).state.errorLine
    error := (p.applyTick t).state.error, errorCode := (p.applyTick t).state.errorCode } := by
  unfold applyTick
  cases t.outcome <;> rfl

/-- All that applying a tick of a recording can do while the player is running: the run ends if no
tick is left, a tick may fail, and it may be the last one. -/
inductive Ticked (p : Player) (r : Recording) : Player → Prop
  | ended (h : r.ticks.size ≤ p.cursor) : Ticked p r p.finish
  | failed {t : Tick} {e : Report} (h : r.ticks[p.cursor]? = some t) (failed : t.report? = some e) :
    Ticked p r (p.applyTick t)
  | next {t : Tick} (h : r.ticks[p.cursor]? = some t) (passed : t.report? = none)
      (left : p.cursor + 1 < r.ticks.size) : Ticked p r (p.applyTick t)
  | last {t : Tick} (h : r.ticks[p.cursor]? = some t) (passed : t.report? = none)
      (none_left : r.ticks.size ≤ p.cursor + 1) : Ticked p r (p.applyTick t).finish

@[simp] theorem cursor_applyTick (p : Player) (t : Tick) :
    (p.applyTick t).cursor = p.cursor + 1 := by
  rw [applyTick_frame]

@[simp] theorem recording_applyTick (p : Player) (t : Tick) :
    (p.applyTick t).recording = p.recording := by
  rw [applyTick_frame]

theorem state_applyTick_passed {t : Tick} (h : t.report? = none) :
    (p.applyTick t).state =
      { p.state with currentLine := t.line, stepCount := p.state.stepCount + 1 } := by
  unfold applyTick
  cases ho : t.outcome with
  | acted after => rfl
  | sensed b => rfl
  | failed e =>
    rw [Tick.report?, ho] at h
    cases h

theorem applyTick_failed {t : Tick} {e : Report} (h : t.report? = some e) :
    p.applyTick t = ({ p with
      cursor := p.cursor + 1
      state := { p.state with currentLine := t.line, stepCount := p.state.stepCount + 1 } } :
        Player).fail e := by
  unfold applyTick
  cases ho : t.outcome with
  | failed e' =>
    rw [Tick.report?, ho] at h
    cases h
    rfl
  | acted after =>
    rw [Tick.report?, ho] at h
    cases h
  | sensed b =>
    rw [Tick.report?, ho] at h
    cases h

theorem tick?_eq_some (h : p.tick? = some q) :
    p.state.status = .running ∧ ∃ r, p.recording = some r ∧ Ticked p r q := by
  rw [tick?] at h
  split at h
  · cases h
  · rename_i hr
    refine ⟨Decidable.not_not.mp hr, ?_⟩
    split at h
    · cases h
    · rename_i r hrec
      refine ⟨r, hrec, ?_⟩
      split at h
      · rename_i ht
        cases h
        exact .ended (Array.getElem?_eq_none_iff.mp ht)
      · rename_i t ht
        cases hf : t.report? with
        | some e =>
          simp only [hf, Option.isNone_some, Bool.false_and, Bool.false_eq_true, ↓reduceIte,
            Option.some.injEq] at h
          exact h ▸ .failed ht hf
        | none =>
          by_cases hl : r.ticks.size ≤ p.cursor + 1
          · simp only [hf, cursor_applyTick, hl, Option.isNone_none, decide_true, Bool.and_true,
              ↓reduceIte, Option.some.injEq] at h
            exact h ▸ .last ht hf hl
          · simp only [hf, cursor_applyTick, hl, Option.isNone_none, decide_false, Bool.and_false,
              Bool.false_eq_true, ↓reduceIte, Option.some.injEq] at h
            exact h ▸ .next ht hf (Nat.lt_of_not_le hl)

/-- A tick changes nothing but the world, the cursor and the visible state. -/
theorem tick?_frame (h : p.tick? = some q) :
    q = { p with world := q.world, cursor := q.cursor, state := q.state } := by
  obtain ⟨-, r, -, hk⟩ := tick?_eq_some h
  cases hk with
  | ended _ => rw [finish_frame p]
  | failed _ _ => rw [applyTick_frame p _]
  | next _ _ _ => rw [applyTick_frame p _]
  | last _ _ _ => rw [finish_frame, applyTick_frame p _]

theorem tick?_isSome {r : Recording} (h : p.state.status = .running) (hr : p.recording = some r) :
    ∃ q, p.tick? = some q := by
  rw [tick?, if_neg (by simp [h]), hr]
  dsimp only
  split
  · exact ⟨_, rfl⟩
  · split <;> exact ⟨_, rfl⟩

/-- A tick that does not end the run is followed by another one. -/
theorem tick?_running {r : Recording} (h : p.tick? = some q) (hr : p.recording = some r)
    (hq : q.state.status = .running) : q.cursor = p.cursor + 1 ∧ q.cursor < r.ticks.size := by
  have hfinish (p : Player) : p.finish.state.status ≠ .running :=
    Status.ne_running_of_terminal p.terminal_finish
  obtain ⟨-, r', hr', hk⟩ := tick?_eq_some h
  obtain rfl : r' = r := Option.some.inj (hr'.symm.trans hr)
  cases hk with
  | ended _ => exact (hfinish _ hq).elim
  | last _ _ _ => exact (hfinish _ hq).elim
  | failed _ hfail =>
    rw [applyTick_failed hfail] at hq
    cases hq
  | next _ _ hleft => exact ⟨cursor_applyTick _ _, (cursor_applyTick p _).symm ▸ hleft⟩

theorem tickAll_frame (p : Player) (n : Nat) :
    p.tickAll n = { p with
      world := (p.tickAll n).world, cursor := (p.tickAll n).cursor, state := (p.tickAll n).state } := by
  induction n generalizing p with
  | zero => rfl
  | succ n ih =>
    rw [tickAll]
    split
    · rename_i q hq
      rw [ih q, tick?_frame hq]
    · rfl

theorem next?_of_tick?_eq_none (h : p.tick? = none) : p.next? = none := by
  rw [next?]
  split
  · rename_i hs
    cases hr : p.recording with
    | none => rfl
    | some r =>
      obtain ⟨q, hq⟩ := tick?_isSome hs hr
      rw [hq] at h
      cases h
  · rfl

/-- All that entering a run can do: going on with it, or, from the beginning, rejecting the program,
not knowing one of the commands that it may use, failing before the first tick, or running. -/
inductive Entered (p : Player) : Except PlayerFault Bool × Player → Prop
  | resumed (h : p.state.status ≠ .idle) :
    Entered p (.ok true, { p with generation := p.generation + 1 }.withStatus .running)
  | rejected {e : Program.Rejection} (h : p.state.status = .idle)
      (review : Program.review p.restrictions p.code = .error e) :
    Entered p (.ok false, { p with generation := p.generation + 1 }.fail e.report)
  | unknown {u : Execution.UnknownPrimitive} (h : p.state.status = .idle)
      (record : p.record = .error u) :
    Entered p (.error (.unknownPrimitive u), { p with generation := p.generation + 1 })
  | stillborn {r : Recording} {e : Report} (h : p.state.status = .idle) (record : p.record = .ok r)
      (empty : r.ticks = #[]) (error : r.error = some e) :
    Entered p (.ok false,
      { p with generation := p.generation + 1, recording := some r, cursor := 0 }.fail e)
  | recorded {r : Recording} (h : p.state.status = .idle) (record : p.record = .ok r)
      (alive : r.ticks ≠ #[] ∨ r.error = none) :
    Entered p (.ok true,
      { p with generation := p.generation + 1, recording := some r, cursor := 0 }.withStatus
        .running)

theorem enter_of_rejected {e : Program.Rejection} (h : p.state.status = .idle)
    (review : Program.review p.restrictions p.code = .error e) :
    p.enter = (.ok false, { p with generation := p.generation + 1 }.fail e.report) := by
  simp only [enter, h, ↓reduceIte, review]

theorem enter_of_ne_idle (h : p.state.status ≠ .idle) :
    p.enter = (.ok true, { p with generation := p.generation + 1 }.withStatus .running) := by
  simp only [enter, h, ↓reduceIte]

theorem entered (p : Player) : Entered p p.enter := by
  -- the branches of the definition from the first check to the last
  by_cases hi : p.state.status = .idle
  · cases hv : Program.review p.restrictions p.code with
    | error e =>
      rw [enter_of_rejected hi hv]
      exact .rejected hi hv
    | ok tree =>
      cases hr : p.record with
      | error u =>
        have hr' : ({ p with generation := p.generation + 1 } : Player).record = .error u := hr
        have he : p.enter = (.error (.unknownPrimitive u),
            { p with generation := p.generation + 1 }) := by
          simp only [enter, hi, ↓reduceIte, hv, hr']
        rw [he]
        exact .unknown hi hr
      | ok r =>
        have hr' : ({ p with generation := p.generation + 1 } : Player).record = .ok r := hr
        by_cases hd : r.ticks = #[] ∧ r.error ≠ none
        · obtain ⟨ht, hn⟩ := hd
          obtain ⟨e, hre⟩ := Option.ne_none_iff_exists'.mp hn
          have he : p.enter = (.ok false, { p with
              generation := p.generation + 1, recording := some r, cursor := 0 }.fail e) := by
            simp only [enter, hi, ↓reduceIte, hv, hr', ht, hre, Array.isEmpty_empty]
          rw [he]
          exact .stillborn hi hr ht hre
        -- from here on the run is entered: there is a tick to apply, or no error to tell
        · have ha : r.ticks ≠ #[] ∨ r.error = none := by
            by_cases ht : r.ticks = #[]
            · exact .inr (Decidable.not_not.mp fun hn => hd ⟨ht, hn⟩)
            · exact .inl ht
          have he : p.enter = (.ok true, { p with
              generation := p.generation + 1, recording := some r, cursor := 0 }.withStatus
                .running) := by
            simp only [enter, hi, ↓reduceIte, hv, hr']
            split
            · rename_i ht hre
              rcases ha with ha | ha
              · exact (ha (Array.isEmpty_iff.mp ht)).elim
              · rw [ha] at hre
                cases hre
            · rfl
          rw [he]
          exact .recorded hi hr ha
  · rw [enter_of_ne_idle hi]
    exact .resumed hi

/-- Entering a run begins a generation, and changes nothing else but the recording, the cursor and
the visible state. -/
theorem enter_frame (p : Player) :
    p.enter.2 = { p with
      generation := p.generation + 1, recording := p.enter.2.recording, cursor := p.enter.2.cursor,
      state := p.enter.2.state } := by
  have he := p.entered
  generalize p.enter = a at he ⊢
  cases he <;> rfl

/-- A run that is not entered leaves the player not running. -/
theorem status_of_not_entered {answer : Except PlayerFault Bool} (h : p.enter = (answer, q))
    (ha : answer ≠ .ok true) : q.state.status ≠ .running := by
  have he := p.entered
  rw [h] at he
  cases he with
  | resumed _ => exact (ha rfl).elim
  | rejected _ _ => exact nofun
  | unknown hi _ => exact fun hs => by cases hi.symm.trans hs
  | stillborn _ _ _ _ => exact nofun
  | recorded _ _ _ => exact (ha rfl).elim

theorem pause?_eq_some (h : p.pause? = some q) :
    p.state.status = .running ∧ q = { p.withStatus .paused with generation := p.generation + 1 } := by
  rw [pause?] at h
  split at h
  · rename_i hr
    exact ⟨hr, (Option.some.inj h).symm⟩
  · cases h

end Player

end KarelLab.Playback
