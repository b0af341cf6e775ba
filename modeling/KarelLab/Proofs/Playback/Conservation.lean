import KarelLab.Proofs.Playback.Consistency
import KarelLab.Proofs.World.Conservation

namespace KarelLab.Playback

namespace Player

variable {p q : Player}

def timesDone (p : Player) (a : Action) : Nat := (p.history.filterMap Tick.action?).count a

def Balanced (p : Player) : Prop :=
  p.initial.Balanced (p.timesDone .putBeeper) (p.timesDone .pickBeeper) p.world

theorem Grounded.balanced (h : p.Grounded) : p.Balanced := by
  -- the actions that are on record lead from the first world to the one that is shown
  have hall : p.initial.actAll (p.history.filterMap Tick.action?) = .ok p.world := by
    rw [h.traces.actAll, ← h.world]
  exact .actAll hall

/-- What every change of a player keeps holds after a run that tells nobody. -/
theorem of_runAlone {ops : Operation → Prop} {P : Player → Prop} (hp : P p)
    (moves : ∀ p f q, P p → f.Of ops → Moves p f q → P q) (h : p.runAlone = .ok q) : P q := by
  have htickAll (n : Nat) (p : Player) (hp : P p) : P (p.tickAll n) := by
    induction n generalizing p with
    | zero => exact hp
    | succ n ih =>
      rw [tickAll]
      cases ht : p.tick? with
      | none => exact hp
      | some q => exact ih q (moves p (.tick 1) q hp trivial (.tick 0 ht))
  rw [runAlone] at h
  split at h
  · cases h
  · rename_i running q' henter
    cases h
    exact htickAll _ q' (moves p (.enter .single) q' hp trivial (.of_enter .single henter))

end Player

/-- Beepers are conserved. After any calls on any world, whether they succeed or fail, the beepers in
a bag that can run out and in the world are as many as before together, and next to one that cannot,
the number of those in the world changed by the calls that put one down and picked one up. The same
holds from the world in which a player begins to the world that it shows, by the ticks that were
applied: after a run that tells nobody, and at all times of a course. -/
theorem beepers_conserved :
    (∀ (w : World) (names : List String),
      w.Balanced ((w.succeeded names).count Action.putBeeper.name)
        ((w.succeeded names).count Action.pickBeeper.name) (w.afterCalls names)) ∧
    ∀ (w : World) (code : String) (restrictions : Program.Restrictions)
      (suite : Option Lesson.Suite) (budgets : Isolation.Budgets) (isolated : Bool) (ms : Int)
      (d : Nat), w.WellFormed → (∀ s, suite = some s → ∀ x ∈ s.worlds, x.2.WellFormed) →
      checkedDelay ms = .ok d →
        (∀ q, (Player.start w code restrictions suite budgets isolated d).runAlone = .ok q →
          q.Balanced) ∧
        ∀ (ε : Type) (e : Environment ε) (c : Nat → Config ε),
          Course e Operation.Accepted (.start w code restrictions suite budgets isolated d) c →
            ∀ i, (c i).player.Balanced := by
  refine ⟨World.balanced_afterCalls, ?_⟩
  intro w code restrictions suite budgets isolated ms d hw hsuite hd
  refine ⟨?_, ?_⟩
  · intro q hq
    have hb := Player.booked_start w code restrictions suite budgets isolated (checkedDelay_le hd)
    -- a run alone is made of the same moves as a course
    have hall : q.Booked ∧ q.Supplied ∧ q.Grounded :=
      Player.of_runAlone (P := fun p => p.Booked ∧ p.Supplied ∧ p.Grounded)
        ⟨hb, ⟨hw, hsuite⟩, ⟨nofun, rfl⟩⟩ (fun _ _ _ => Player.grounded_moves) hq
    exact hall.2.2.balanced
  · intro ε e c h i
    exact (h.grounded hw hsuite hd i).2.2.balanced

/-- Of two beepers in the bag one is put down and picked up again; the other one is put down outside
a loop that ends with a fault. -/
theorem beepers_conserved_two_in_bag :
    let w : World := { World.default with robot := ⟨⟨1, 1⟩, .east, .holding 2⟩ }
    let p := Player.start w "put_beeper()\npick_beeper()\nput_beeper()\nmove()\npick_beeper()" {} none
      ⟨10, .seconds Isolation.defaultLimit⟩ false 0
    let c := operated (.once (fun _ => false) .pause) { player := p, env := false } [(.run, true)]
    (c 60).player.Balanced ∧ (c 60).stack = [] ∧ (c 60).player.state.status = .error ∧
      (c 60).player.timesDone .putBeeper = 2 ∧ (c 60).player.timesDone .pickBeeper = 1 ∧
      (c 60).player.world.robot.bag = .holding 1 ∧ (c 60).player.world.lying = 1 := by
  intro w p c
  have hw : w.WellFormed := by constructor <;> decide
  have hsuite : ∀ s : Lesson.Suite, none = some s → ∀ x ∈ s.worlds, x.2.WellFormed := by
    intro s hs
    cases hs
  have h : Course (.once (fun _ => false) .pause) Operation.Accepted p c := by
    refine .of_operated _ _ _ (by simp [Operation.Accepted]) ?_
    intro n waiting op left ha
    rw [(Environment.answer_once ha).2]
    trivial
  have hall := (beepers_conserved.2 w "put_beeper()\npick_beeper()\nput_beeper()\nmove()\npick_beeper()"
    {} none ⟨10, .seconds Isolation.defaultLimit⟩ false 0 0 hw hsuite rfl).2 Bool _ c h 60
  refine ⟨hall, ?_⟩
  decide +kernel

end KarelLab.Playback
