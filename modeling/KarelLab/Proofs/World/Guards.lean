import KarelLab.Proofs.World.Conservation
import KarelLab.Proofs.World.Reach
import Mathlib.Logic.Function.Iterate

namespace KarelLab

def Action.guard? : Action → Option Sensor
  | .move => some (.clear .front)
  | .turnLeft => none
  | .pickBeeper => some .beepersPresent
  | .putBeeper => some .beepersInBag

def Sensor.advice (s : Sensor) (a : Action) : String :=
  "Check " ++ s.name ++ "() before calling " ++ a.name ++ "()."

namespace World

def Can (w : World) (a : Action) : Prop := ∃ after, w.act a = .ok after

def FailsBy (w : World) (a : Action) (code : ReportCode) : Prop :=
  ∃ f, w.act a = .error f ∧ f.code = code

def ahead (w : World) : Position := w.robot.position.step w.robot.direction

def WallAhead (w : World) : Prop := ∃ wall ∈ w.walls, wall.Separates w.robot.position w.ahead

variable {w : World} {a : Action} {f : ActionFault} {s : Sensor} {p : Position} {d : Direction}

theorem Can.not_error (h : w.Can a) : w.act a ≠ .error f := by
  obtain ⟨after, ha⟩ := h
  rw [ha]
  exact nofun

theorem FailsBy.not_can {code : ReportCode} (h : w.FailsBy a code) : ¬ w.Can a := by
  intro hcan
  obtain ⟨f, hf, -⟩ := h
  exact hcan.not_error hf

/-- What an action that fails fails by. -/
theorem failsBy_iff {code : ReportCode} (h : w.act a = .error f) :
    w.FailsBy a code ↔ f.code = code := by
  constructor
  · rintro ⟨g, hg, hcode⟩
    have hfg : f = g := Except.error.inj (h.symm.trans hg)
    rwa [hfg]
  · intro hcode
    exact ⟨f, h, hcode⟩

theorem failsBy_iff_not_can (h : w.Can a ∨ w.act a = .error f) :
    w.FailsBy a f.code ↔ ¬ w.Can a := by
  rcases h with hcan | he
  · exact iff_of_false (fun hfails => hfails.not_can hcan) (fun hnot => hnot hcan)
  · exact iff_of_true ((failsBy_iff he).mpr rfl) (fun hcan => hcan.not_error he)

/-! ## What becomes of an action -/

/-- A step is stopped by a wall if one is listed on that side, whatever lies behind it. -/
theorem obstacle?_eq_wall_iff :
    w.obstacle? p d = some .wall ↔ ∃ wall ∈ w.walls, wall.Separates p (p.step d) := by
  rw [← walled_iff, obstacle?]
  by_cases hw : w.walled p d = true
  · simp [hw]
  · rw [if_neg hw]
    split <;> simp [hw]

/-- A step succeeds when the sensor says so. Otherwise there is a wall in front, and the robot crashes
into it, or there is none, and the robot stands at the edge of the grid. -/
theorem act_move_cases (w : World) :
    (w.sense (.clear .front) = true ∧ w.Can .move) ∨
    (w.sense (.clear .front) = false ∧ w.WallAhead ∧
      w.act .move = .error (.wallCollision w.robot.direction)) ∨
    (w.sense (.clear .front) = false ∧ ¬ w.WallAhead ∧
      w.act .move = .error (.boundaryViolation w.robot.direction)) := by
  have hsense : w.sense (.clear .front) =
      (w.obstacle? w.robot.position w.robot.direction).isNone := rfl
  have hwall : w.obstacle? w.robot.position w.robot.direction = some .wall ↔ w.WallAhead :=
    obstacle?_eq_wall_iff
  have hact : w.act .move = w.move := rfl
  unfold move at hact
  dsimp only at hact
  cases ho : w.obstacle? w.robot.position w.robot.direction with
  | none =>
    rw [ho] at hsense hact
    exact .inl ⟨hsense, _, hact⟩
  | some o =>
    rw [ho] at hsense hact hwall
    cases o with
    | wall =>
      have hahead : w.WallAhead := hwall.mp rfl
      exact .inr (.inl ⟨hsense, hahead, hact⟩)
    | boundary =>
      have hahead : ¬ w.WallAhead := fun h => nomatch hwall.mpr h
      exact .inr (.inr ⟨hsense, hahead, hact⟩)

theorem act_pickBeeper_cases (w : World) :
    (w.sense .beepersPresent = true ∧ w.Can .pickBeeper) ∨
    (w.sense .beepersPresent = false ∧
      w.act .pickBeeper = .error (.noBeeperPresent w.robot.position)) := by
  have hact : w.act .pickBeeper = w.pickBeeper := rfl
  unfold pickBeeper at hact
  cases h : w.beepersPresent with
  | true => exact .inl ⟨h, _, by rw [hact, if_pos h]⟩
  | false => exact .inr ⟨h, by rw [hact, if_neg (by simp [h])]⟩

/-- A bag that never runs out always has a beeper to take. -/
theorem act_putBeeper_cases (w : World) :
    (w.sense .beepersInBag = true ∧ w.Can .putBeeper) ∨
    (w.sense .beepersInBag = false ∧ w.act .putBeeper = .error .bagEmpty) := by
  have hact : w.act .putBeeper = w.putBeeper := rfl
  have hsense : w.sense .beepersInBag = decide (w.robot.bag ≠ .holding 0) := rfl
  rw [hsense, Can, hact, putBeeper]
  cases w.robot.bag with
  | unlimited => exact .inl ⟨rfl, _, rfl⟩
  | holding n =>
    cases n with
    | zero => exact .inr ⟨rfl, rfl⟩
    | succ n => exact .inl ⟨rfl, _, rfl⟩

/-- An action is possible and its sensor says so, or its sensor says no and it fails with the advice to
ask that sensor. -/
theorem act_cases (w : World) (a : Action) :
    (w.Can a ∧ ∀ s, a.guard? = some s → w.sense s = true) ∨
    ∃ s f, a.guard? = some s ∧ w.sense s = false ∧ w.act a = .error f ∧ f.hint = s.advice a := by
  have hmove : "Check front_is_clear() before calling move()." =
      (Sensor.clear .front).advice .move := by decide
  have hpick : "Check beepers_present() before calling pick_beeper()." =
      Sensor.beepersPresent.advice .pickBeeper := by decide
  have hput : "Check beepers_in_bag() before calling put_beeper()." =
      Sensor.beepersInBag.advice .putBeeper := by decide
  cases a with
  | move =>
    rcases w.act_move_cases with ⟨hs, hcan⟩ | ⟨hs, -, he⟩ | ⟨hs, -, he⟩
    · exact .inl ⟨hcan, fun s h => Option.some.inj h ▸ hs⟩
    · exact .inr ⟨_, _, rfl, hs, he, hmove⟩
    · exact .inr ⟨_, _, rfl, hs, he, hmove⟩
  | turnLeft => exact .inl ⟨⟨w.turnLeft, rfl⟩, nofun⟩
  | pickBeeper =>
    rcases w.act_pickBeeper_cases with ⟨hs, hcan⟩ | ⟨hs, he⟩
    · exact .inl ⟨hcan, fun s h => Option.some.inj h ▸ hs⟩
    · exact .inr ⟨_, _, rfl, hs, he, hpick⟩
  | putBeeper =>
    rcases w.act_putBeeper_cases with ⟨hs, hcan⟩ | ⟨hs, he⟩
    · exact .inl ⟨hcan, fun s h => Option.some.inj h ▸ hs⟩
    · exact .inr ⟨_, _, rfl, hs, he, hput⟩

/-- An action is possible exactly if the sensor to ask before it says so. -/
theorem can_iff_guard : w.Can a ↔ ∀ s, a.guard? = some s → w.sense s = true := by
  rcases w.act_cases a with ⟨hcan, hsense⟩ | ⟨s, f, hs, hno, hf, -⟩
  · exact ⟨fun _ => hsense, fun _ => hcan⟩
  · constructor
    · intro hcan
      exact absurd hf hcan.not_error
    · intro hsense
      have hyes : w.sense s = true := hsense s hs
      rw [hno] at hyes
      cases hyes

theorem can_iff (h : a.guard? = some s) : w.Can a ↔ w.sense s = true := by
  rw [can_iff_guard, h]
  simp

/-! ## Turning to look -/

/-- The direction after some turns to the left. -/
theorem actAll_turnLeft_posed (n : Nat) :
    (w.posed p d).actAll (List.replicate n .turnLeft) = .ok (w.posed p (Direction.left^[n] d)) := by
  induction n generalizing d with
  | zero => rfl
  | succ n ih =>
    have hturn : (w.posed p d).act .turnLeft = .ok (w.posed p d.left) := act_turnLeft_posed
    rw [List.replicate_succ, actAll, List.foldlM_cons, hturn, Function.iterate_succ_apply]
    exact ih

theorem actAll_turnLeft (w : World) (n : Nat) :
    w.actAll (List.replicate n .turnLeft) =
      .ok (w.posed w.robot.position (Direction.left^[n] w.robot.direction)) :=
  actAll_turnLeft_posed n

/-- To look to a side is to look ahead when facing that side. -/
theorem sense_front_posed (w : World) (side : Side) :
    (w.posed w.robot.position (side.direction w.robot.direction)).sense (.clear .front) =
      w.sense (.clear side) := rfl

/-! ## What sensors foretell -/

/-- The sensors of a world foretell what its actions do. -/
structure Foretold (w : World) : Prop where
  /-- A step is possible exactly if the front is clear. -/
  move : w.Can .move ↔ w.sense (.clear .front) = true
  /-- The robot crashes into the walls that are listed in front of it, and into nothing else. -/
  crash : w.FailsBy .move .wallCollision ↔ w.WallAhead
  /-- Any other step that is impossible leads off the grid. -/
  leave : w.FailsBy .move .boundaryViolation ↔ ¬ w.Can .move ∧ ¬ w.WallAhead
  pick : w.Can .pickBeeper ↔ w.sense .beepersPresent = true
  pickNothing : w.FailsBy .pickBeeper .noBeeperPresent ↔ ¬ w.Can .pickBeeper
  put : w.Can .putBeeper ↔ w.sense .beepersInBag = true
  putNothing : w.FailsBy .putBeeper .bagEmpty ↔ ¬ w.Can .putBeeper
  turn : w.Can .turnLeft
  /-- What is on the left is in front after one turn, what is on the right after three. -/
  left : ∃ v, w.actAll [.turnLeft] = .ok v ∧ v.sense (.clear .front) = w.sense (.clear .left)
  right : ∃ v, w.actAll (List.replicate 3 .turnLeft) = .ok v ∧
    v.sense (.clear .front) = w.sense (.clear .right)
  /-- Four turns give back the world. -/
  round : w.actAll (List.replicate 4 .turnLeft) = .ok w
  /-- The two sensors of a pair disagree. -/
  opposite : ∀ s, w.sense s.complement ≠ w.sense s

theorem failsBy_wallCollision_iff : w.FailsBy .move .wallCollision ↔ w.WallAhead := by
  rcases w.act_move_cases with ⟨hs, hcan⟩ | ⟨-, hahead, he⟩ | ⟨-, hahead, he⟩
  · constructor
    · intro hfails
      exact absurd hcan hfails.not_can
    · rintro ⟨wall, hmem, hsep⟩
      have hwall : w.obstacle? w.robot.position w.robot.direction = some .wall :=
        obstacle?_eq_wall_iff.mpr ⟨wall, hmem, hsep⟩
      have hclear : (w.obstacle? w.robot.position w.robot.direction).isNone = true := hs
      rw [hwall] at hclear
      cases hclear
  · exact iff_of_true ((failsBy_iff he).mpr rfl) hahead
  · exact iff_of_false (fun hfails => nomatch (failsBy_iff he).mp hfails) hahead

-- A wall on the edge of the grid is still a wall.
example : ({ World.default with
    robot := ⟨⟨10, 1⟩, .east, .holding 0⟩
    walls := [⟨.vertical, 10, 1⟩] } : World).act .move = .error (.wallCollision .east) := rfl

theorem failsBy_boundaryViolation_iff :
    w.FailsBy .move .boundaryViolation ↔ ¬ w.Can .move ∧ ¬ w.WallAhead := by
  rcases w.act_move_cases with ⟨-, hcan⟩ | ⟨-, hahead, he⟩ | ⟨-, hahead, he⟩
  · exact iff_of_false (fun hfails => hfails.not_can hcan) (fun h => h.1 hcan)
  · exact iff_of_false (fun hfails => nomatch (failsBy_iff he).mp hfails) (fun h => h.2 hahead)
  · exact iff_of_true ((failsBy_iff he).mpr rfl) ⟨fun hcan => hcan.not_error he, hahead⟩

theorem foretold (w : World) : w.Foretold where
  move := can_iff rfl
  crash := failsBy_wallCollision_iff
  leave := failsBy_boundaryViolation_iff
  pick := can_iff rfl
  pickNothing := failsBy_iff_not_can (f := .noBeeperPresent w.robot.position)
    (w.act_pickBeeper_cases.imp And.right And.right)
  put := can_iff rfl
  putNothing := failsBy_iff_not_can (f := .bagEmpty)
    (w.act_putBeeper_cases.imp And.right And.right)
  turn := ⟨w.turnLeft, rfl⟩
  left := ⟨_, w.actAll_turnLeft 1, w.sense_front_posed .left⟩
  right := by
    have hthree : Direction.left^[3] w.robot.direction = w.robot.direction.right := by
      cases w.robot.direction <;> rfl
    refine ⟨_, w.actAll_turnLeft 3, ?_⟩
    rw [hthree]
    exact w.sense_front_posed .right
  round := by
    have hfour : Direction.left^[4] w.robot.direction = w.robot.direction := by
      cases w.robot.direction <;> rfl
    rw [w.actAll_turnLeft 4, hfour]
    rfl
  opposite := by
    intro s
    rw [sense_complement]
    cases w.sense s <;> decide

/-- Whatever was called before, the sensors foretell what the next action does, and the hint of an
action that fails names a sensor that would have said so. -/
theorem sensors_predict_actions (w : World) (names : List String) :
    (w.afterCalls names).Foretold ∧
    ∀ a f, (w.afterCalls names).act a = .error f →
      ∃ s, a.guard? = some s ∧ (w.afterCalls names).sense s = false ∧ f.hint = s.advice a := by
  refine ⟨(w.afterCalls names).foretold, ?_⟩
  intro a f hf
  rcases (w.afterCalls names).act_cases a with ⟨hcan, -⟩ | ⟨s, g, hs, hno, hg, hhint⟩
  · exact absurd hf hcan.not_error
  · have hfg : f = g := Except.error.inj (hf.symm.trans hg)
    rw [hfg]
    exact ⟨s, hs, hno, hhint⟩

end World

end KarelLab
