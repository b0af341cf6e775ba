import KarelLab.Proofs.Playback.Bookkeeping
import KarelLab.Proofs.Recording.Trace

namespace KarelLab.Playback.Player

variable {p q : Player} {f : Frame}

/-- The ground on which a player stands: its recording is sound, and its world is the one to which
the applied ticks lead. -/
structure Grounded (p : Player) : Prop where
  sound : ∀ r, p.recording = some r → r.Sound p.initial
  world : p.world = p.initial.replay p.history

theorem Grounded.fail (h : p.Grounded) (r : Report) : (p.fail r).Grounded := { h with }

theorem Grounded.withStatus (h : p.Grounded) (s : Status) : (p.withStatus s).Grounded := { h with }

theorem Grounded.finish (h : p.Grounded) : p.finish.Grounded := by
  have hf := p.finished
  generalize p.finish = q at hf ⊢
  cases hf with
  | failure _ _ => exact h.fail _
  | success _ => exact h.withStatus _

theorem grounded_reset (p : Player) : p.reset.Grounded := ⟨nofun, rfl⟩

theorem Grounded.applyTick (h : p.Grounded) {r : Recording} {t : Tick}
    (hr : p.recording = some r) (ht : r.ticks[p.cursor]? = some t) : (p.applyTick t).Grounded := by
  have ht' : r.ticks.toList[p.cursor]? = some t := by rw [Array.getElem?_toList, ht]
  -- the tick was recorded in the very world that the player shows now
  have hfaithful : t.Faithful p.world := by
    rw [h.world, history_of_some hr]
    exact (h.sound r hr).traces.faithful_getElem ht'
  have hi : (p.applyTick t).initial = p.initial := by rw [applyTick_frame]
  have hw : (p.applyTick t).world = t.effect p.world := by
    unfold Player.applyTick
    cases ho : t.outcome with
    | failed e => exact (Tick.effect_eq_self (by simp [ho]) p.world).symm
    | acted after => exact (hfaithful.effect_acted ho).symm
    | sensed b => exact (Tick.effect_eq_self (by simp [ho]) p.world).symm
  refine ⟨?_, ?_⟩
  · intro r' hr'
    rw [recording_applyTick] at hr'
    exact hi ▸ h.sound r' hr'
  · rw [history_applyTick hr ht, World.replay_append, hi, ← h.world, hw]
    rfl

theorem Grounded.enter (h : p.Grounded) (hb : p.Booked)
    (hrec : ∀ r, p.record = .ok r → r.Sound p.initial) : p.enter.2.Grounded := by
  have he := p.entered
  generalize p.enter = a at he ⊢
  have hg : ({ p with generation := p.generation + 1 } : Player).Grounded := { h with }
  have hbegun (hi : p.state.status = .idle) {r : Recording} (hr : p.record = .ok r) (s : State) :
      ({ p with generation := p.generation + 1, recording := some r, cursor := 0, state := s } :
        Player).Grounded := by
    refine ⟨?_, ?_⟩
    · intro r' hr'
      cases hr'
      exact hrec r hr
    · rw [history_of_some rfl]
      exact (hb.idle hi).2.2
  cases he with
  | resumed _ => exact hg.withStatus _
  | rejected _ _ => exact hg.fail _
  | unknown _ _ => exact hg
  | stillborn hi hr _ _ => exact hbegun hi hr _
  | recorded hi hr _ => exact hbegun hi hr _

/-- Every change of a player keeps the ground on which it stands, if all that it records is sound. -/
theorem Grounded.moves (h : p.Grounded) (hb : p.Booked)
    (hrec : ∀ r, p.record = .ok r → r.Sound p.initial) (hm : Moves p f q) : q.Grounded := by
  cases hm with
  | keep _ => exact h
  | pause hp =>
    obtain ⟨-, rfl⟩ := pause?_eq_some hp
    exact { h with }
  | reset => exact grounded_reset p
  | recode text hs => exact grounded_reset p
  | again g hs => exact grounded_reset p
  | load hl => exact grounded_reset _
  | speed hd => exact { h with }
  | code text hs => exact { h with }
  | setCode text => exact { h with }
  | budget n => exact { h with }
  | subscribe l => exact { h with }
  | unsubscribe l => exact { h with }
  | enter g => exact h.enter hb hrec
  | tick n ht =>
    obtain ⟨-, r, hr, hk⟩ := tick?_eq_some ht
    cases hk with
    | ended _ => exact h.finish
    | failed hget _ => exact h.applyTick hr hget
    | next hget _ _ => exact h.applyTick hr hget
    | last hget _ _ => exact (h.applyTick hr hget).finish
  | settle hs => exact h.withStatus _

/-- The ticks that were applied are a trace from the first world of a player. -/
theorem Grounded.traces (h : p.Grounded) : Traces p.initial p.history := by
  cases hr : p.recording with
  | none =>
    rw [history_of_none hr]
    trivial
  | some r =>
    have hall := (h.sound r hr).traces
    rw [← List.take_append_drop p.cursor r.ticks.toList, traces_append] at hall
    rw [history_of_some hr]
    exact hall.1

/-- The first world of a player is another one only after an operation that loads it. -/
theorem initial_moves (hm : Moves p f q) :
    q.initial = p.initial ∨ ∃ op, f = .perform op ∧ p.loads? op = some q.initial := by
  cases hm with
  | pause hp =>
    obtain ⟨-, rfl⟩ := pause?_eq_some hp
    exact .inl rfl
  | @load op w hl => exact .inr ⟨op, rfl, hl⟩
  | enter g => exact .inl (by rw [enter_frame])
  | tick n ht => exact .inl (by rw [tick?_frame ht])
  | _ => exact .inl rfl

end KarelLab.Playback.Player
