import KarelLab.Proofs.Isolation.Record
import KarelLab.Proofs.Playback.Worlds

namespace KarelLab.Playback

def Operation.Accepted : Operation → Prop
  | .loadWorld w => w.WellFormed
  | _ => True

namespace Player

variable {p q : Player} {f : Frame}

structure Supplied (p : Player) : Prop where
  initial : p.initial.WellFormed
  suite : ∀ s, p.suite = some s → ∀ x ∈ s.worlds, x.2.WellFormed

theorem record_sound {r : Recording} (hw : p.initial.WellFormed) (h : p.record = .ok r) :
    r.Sound p.initial := by
  rw [record] at h
  split at h
  · cases h
    exact Isolation.recordIsolated_sound p.code hw p.restrictions p.budgets _
  · exact Execution.record_sound h

/-- The world that an operation loads is accepted if all worlds of the operation are. -/
theorem Supplied.loads? (h : p.Supplied) {op : Operation} {w : World} (hop : op.Accepted)
    (hl : p.loads? op = some w) : w.WellFormed := by
  cases op with
  | loadWorld v =>
    cases hl
    exact hop
  | loadTestWorld name =>
    obtain ⟨s, hs, hl⟩ := Option.bind_eq_some_iff.mp hl
    rw [Lesson.Suite.loadable?] at hl
    split at hl
    · obtain ⟨x, hx, rfl⟩ := Option.map_eq_some_iff.mp hl
      exact h.suite s hs x (List.mem_of_find?_eq_some hx)
    · cases hl
  | _ => cases hl

theorem suite_moves (hm : Moves p f q) : q.suite = p.suite := by
  cases hm with
  | pause hp =>
    obtain ⟨-, rfl⟩ := pause?_eq_some hp
    rfl
  | enter g => rw [enter_frame]
  | tick n ht => rw [tick?_frame ht]
  | _ => rfl

theorem Supplied.moves (h : p.Supplied) (hf : f.Of Operation.Accepted) (hm : Moves p f q) :
    q.Supplied := by
  refine ⟨?_, suite_moves hm ▸ h.suite⟩
  rcases initial_moves hm with hi | ⟨op, rfl, hl⟩
  · rw [hi]
    exact h.initial
  · exact h.loads? hf hl

/-- What a player tells about itself: the count of steps is the number of applied ticks, the line is
the one of the last of them, the actions among them lead from the initial world to the world, and a
player that is idle stands at its beginning. -/
structure Consistent (p : Player) : Prop where
  steps : p.state.stepCount = p.cursor
  applied : p.history.length = p.cursor
  within : ∀ r, p.recording = some r → p.cursor ≤ r.ticks.size
  world : p.initial.actAll (p.history.filterMap Tick.action?) = .ok p.world
  line : p.state.currentLine = p.history.getLast?.bind Tick.line
  idle : p.state.status = .idle → p.recording = none ∧ p.history = [] ∧ p.state.error = none ∧
    p.state.errorCode = none ∧ p.state.errorLine = none ∧ p.world = p.initial
  delay : p.state.delay ≤ maxDelay

theorem Grounded.consistent (h : p.Grounded) (hb : p.Booked) : p.Consistent where
  steps := hb.steps
  applied := hb.length_history.trans hb.steps
  within := hb.within
  world := by rw [h.traces.actAll, ← h.world]
  line := hb.line
  idle hi := by
    obtain ⟨hn, hs, hw⟩ := hb.idle hi
    rw [hs]
    exact ⟨hn, history_of_none hn, rfl, rfl, rfl, hw⟩
  delay := hb.delay

/-- Every change that is made by operations with accepted worlds keeps the ground. -/
theorem grounded_moves (h : p.Booked ∧ p.Supplied ∧ p.Grounded) (hf : f.Of Operation.Accepted)
    (hm : Moves p f q) : q.Booked ∧ q.Supplied ∧ q.Grounded := by
  obtain ⟨hb, hs, hg⟩ := h
  have hrec : ∀ r, p.record = .ok r → r.Sound p.initial := fun r hr => record_sound hs.initial hr
  exact ⟨hb.moves hm, hs.moves hf hm, hg.moves hb hrec hm⟩

end Player

namespace Course

variable {ε : Type} {e : Environment ε} {c : Nat → Config ε} {w : World} {code : String}
  {restrictions : Program.Restrictions} {suite : Option Lesson.Suite} {budgets : Isolation.Budgets}
  {isolated : Bool} {ms : Int} {d : Nat}

/-- At all times of a course a player keeps its books, begins in an accepted world and stands on its
ground. -/
theorem grounded (hw : w.WellFormed)
    (hsuite : ∀ s, suite = some s → ∀ x ∈ s.worlds, x.2.WellFormed)
    (hd : checkedDelay ms = .ok d)
    (h : Course e Operation.Accepted
      (.start w code restrictions suite budgets isolated d) c) (i : Nat) :
    (c i).player.Booked ∧ (c i).player.Supplied ∧ (c i).player.Grounded := by
  have hb0 := Player.booked_start w code restrictions suite budgets isolated (checkedDelay_le hd)
  have hs0 : (Player.start w code restrictions suite budgets isolated d).Supplied := ⟨hw, hsuite⟩
  have hg0 : (Player.start w code restrictions suite budgets isolated d).Grounded := ⟨nofun, rfl⟩
  exact h.always_player (P := fun p => p.Booked ∧ p.Supplied ∧ p.Grounded) ⟨hb0, hs0, hg0⟩
    (fun q f q' hq hf hm => Player.grounded_moves hq hf hm) i

/-- At all times of a course a player is consistent, and only an operation that loads a world
changes the one in which it begins. Operations may come from anywhere, be carried out while others
are, and be refused. -/
theorem always_consistent (hw : w.WellFormed)
    (hsuite : ∀ s, suite = some s → ∀ x ∈ s.worlds, x.2.WellFormed)
    (hd : checkedDelay ms = .ok d)
    (h : Course e Operation.Accepted
      (.start w code restrictions suite budgets isolated d) c) (i : Nat) :
    (c i).player.Consistent ∧
      ((c (i + 1)).player.initial = (c i).player.initial ∨
        ∃ op rest, (c i).stack = .perform op :: rest ∧
          (c i).player.loads? op = some (c (i + 1)).player.initial) := by
  obtain ⟨hb, -, hg⟩ := h.grounded hw hsuite hd i
  refine ⟨hg.consistent hb, ?_⟩
  have hn := h.next i
  generalize c (i + 1) = d' at hn ⊢
  -- a call only puts its operation on the stack; all else is a step of the machine
  cases hn with
  | call env hop hd => exact .inl rfl
  | step =>
    cases hs : (c i).stack with
    | nil => exact .inl (by rw [Config.step_of_nil hs])
    | cons f rest =>
      rcases Player.initial_moves (Config.step_moves e hs) with hi | ⟨op, rfl, hl⟩
      · exact .inl hi
      · exact .inr ⟨op, rest, rfl, hl⟩

/-- A play that is paused during its first wait. -/
theorem always_consistent_paused_play :
    let p := Player.start .default "move()\nmove()" {} none ⟨10, .seconds Isolation.defaultLimit⟩
      false 300
    let c := operated (.once (fun _ => true) .pause) { player := p, env := false } [(.play, true)]
    (c 20).player.Consistent ∧ (c 20).player.state.status = .paused ∧
      (c 20).player.history.length = 1 := by
  intro p c
  have hw : World.default.WellFormed := by constructor <;> decide
  have hsuite : ∀ s : Lesson.Suite, none = some s → ∀ x ∈ s.worlds, x.2.WellFormed := nofun
  have hd : checkedDelay 300 = .ok 300 := rfl
  have h : Course (.once (fun _ => true) .pause) Operation.Accepted p c := by
    refine .of_operated _ _ _ (by simp [Operation.Accepted]) ?_
    intro n waiting op left ha
    rw [(Environment.answer_once ha).2]
    trivial
  have heval : (c 20).player.state.status = .paused ∧ (c 20).player.history.length = 1 := by
    decide +kernel
  exact ⟨(always_consistent hw hsuite hd h 20).1, heval⟩

end Course

end KarelLab.Playback
