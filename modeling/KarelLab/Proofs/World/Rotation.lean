import KarelLab.Proofs.World.Calls
import KarelLab.Proofs.World.Reach
import Mathlib.Data.List.Nodup

/-!
# Turning the grid

A quarter turn of a grid to the left takes its cells, walls and piles along, and the robot with them.
What the robot can do there, what becomes of it and what it senses is the same as before the turn, but
for the names of the directions.
-/

namespace KarelLab

/-! ## A quarter turn -/

def Position.rotated (height : Nat) (p : Position) : Position := ⟨height + 1 - p.y, p.x⟩

/-- A wall after the turn: one that ran from west to east runs from south to north, and is listed by
the cell that has come to lie on its other side. -/
def Wall.rotated (height : Nat) (wall : Wall) : Wall :=
  match wall.orientation with
  | .horizontal => ⟨.vertical, height - wall.y, wall.x⟩
  | .vertical => ⟨.horizontal, height + 1 - wall.y, wall.x⟩

def Pile.rotated (height : Nat) (pile : Pile) : Pile :=
  ⟨height + 1 - pile.y, pile.x, pile.count⟩

def ActionFault.rotated (height : Nat) : ActionFault → ActionFault
  | .wallCollision d => .wallCollision d.left
  | .boundaryViolation d => .boundaryViolation d.left
  | .noBeeperPresent p => .noBeeperPresent (p.rotated height)
  | .bagEmpty => .bagEmpty

/-- What a sensor asks for after the turn: one of a direction for the direction to the left of it, any
other one for what it asked for before. -/
def Sensor.rotated : Sensor → Sensor
  | .facing d => .facing d.left
  | .notFacing d => .notFacing d.left
  | s => s

def World.rotated (w : World) : World where
  width := w.height
  height := w.width
  robot := ⟨w.robot.position.rotated w.height, w.robot.direction.left, w.robot.bag⟩
  walls := w.walls.map (Wall.rotated w.height)
  piles := w.piles.map (Pile.rotated w.height)

/-! ## Cells, walls and piles -/

theorem Position.rotated_injective (height : Nat) : Function.Injective (rotated height) := by
  intro p q h
  simp only [rotated, mk.injEq] at h
  rw [eq_iff]
  omega

theorem Wall.rotated_injective (height : Nat) : Function.Injective (rotated height) := by
  rintro ⟨o, x, y⟩ ⟨o', x', y'⟩ h
  cases o <;> cases o' <;> simp only [rotated, mk.injEq, reduceCtorEq, false_and, true_and] at h ⊢ <;>
    omega

theorem Pile.position_rotated (height : Nat) (pile : Pile) :
    (pile.rotated height).position = pile.position.rotated height := rfl

theorem ActionFault.code_rotated (height : Nat) (f : ActionFault) :
    (f.rotated height).code = f.code := by
  cases f <;> rfl

/-- The turn takes the neighbour of a cell to the neighbour of where the cell comes to lie. -/
theorem Position.rotated_step (height : Nat) (p : Position) (d : Direction) :
    (p.step d).rotated height = (p.rotated height).step d.left := by
  cases d <;> simp only [step, rotated, Direction.left, Direction.dx, Direction.dy, mk.injEq,
    and_true] <;> omega

theorem Side.direction_left (side : Side) (d : Direction) :
    side.direction d.left = (side.direction d).left := by
  cases side <;> cases d <;> rfl

namespace World

/-- The turn takes the side of a cell along with the cell. -/
theorem wallAt_rotated (height : Nat) (p : Position) (d : Direction) :
    (wallAt p d).rotated height = wallAt (p.rotated height) d.left := by
  cases d <;>
    simp only [wallAt, Wall.rotated, Position.rotated, Direction.left, Wall.mk.injEq, true_and,
      and_true] <;>
    omega

theorem addPile_rotated (height : Nat) (pile : Pile) (ps : List Pile) :
    addPile (pile.rotated height) (ps.map (Pile.rotated height)) =
      (addPile pile ps).map (Pile.rotated height) := by
  induction ps with
  | nil => rfl
  | cons p rest ih =>
    have hcell : (p.rotated height).position = (pile.rotated height).position ↔
        p.position = pile.position := by
      rw [Pile.position_rotated, Pile.position_rotated, (Position.rotated_injective height).eq_iff]
    rw [List.map_cons, addPile, addPile]
    by_cases h : p.position = pile.position
    · rw [if_pos h, if_pos (hcell.mpr h)]
      rfl
    · rw [if_neg h, if_neg (mt hcell.mp h), ih]
      rfl

theorem takeBeeper_rotated (height : Nat) (c : Position) (ps : List Pile) :
    takeBeeper (c.rotated height) (ps.map (Pile.rotated height)) =
      (takeBeeper c ps).map (Pile.rotated height) := by
  induction ps with
  | nil => rfl
  | cons p rest ih =>
    have hcell : (p.rotated height).position = c.rotated height ↔ p.position = c := by
      rw [Pile.position_rotated, (Position.rotated_injective height).eq_iff]
    have hcount : (p.rotated height).count = p.count := rfl
    rw [List.map_cons, takeBeeper, takeBeeper, hcount]
    by_cases h : p.position = c
    · rw [if_pos h, if_pos (hcell.mpr h)]
      split <;> rfl
    · rw [if_neg h, if_neg (mt hcell.mp h), ih]
      rfl

variable (w : World)

theorem contains_rotated (p : Position) :
    w.rotated.contains (p.rotated w.height) = w.contains p := by
  rw [Bool.eq_iff_iff]
  simp only [contains, Bool.and_eq_true, decide_eq_true_eq]
  simp only [rotated, Position.rotated]
  omega

theorem walled_rotated (p : Position) (d : Direction) :
    w.rotated.walled (p.rotated w.height) d.left = w.walled p d := by
  rw [Bool.eq_iff_iff, walled_iff_wallAt_mem, walled_iff_wallAt_mem, ← wallAt_rotated]
  exact List.mem_map_of_injective (Wall.rotated_injective w.height)

/-- What stops a step before the turn stops it after the turn. -/
theorem obstacle?_rotated (p : Position) (d : Direction) :
    w.rotated.obstacle? (p.rotated w.height) d.left = w.obstacle? p d := by
  rw [obstacle?, obstacle?, walled_rotated, ← Position.rotated_step, contains_rotated]

theorem isClear_rotated (side : Side) : w.rotated.isClear side = w.isClear side := by
  have hobstacle := w.obstacle?_rotated w.robot.position (side.direction w.robot.direction)
  rw [← Side.direction_left] at hobstacle
  exact congrArg Option.isNone hobstacle

theorem pileAt?_rotated (p : Position) :
    w.rotated.pileAt? (p.rotated w.height) = (w.pileAt? p).map (Pile.rotated w.height) := by
  have hcell (pile : Pile) : (pile.rotated w.height).position = p.rotated w.height ↔
      pile.position = p := by
    rw [Pile.position_rotated, (Position.rotated_injective w.height).eq_iff]
  simp only [pileAt?, rotated, List.find?_map, Function.comp_def, hcell]

theorem beepersPresent_rotated : w.rotated.beepersPresent = w.beepersPresent := by
  have hpile := w.pileAt?_rotated w.robot.position
  change w.rotated.pileAt? w.rotated.robot.position = _ at hpile
  rw [beepersPresent, beepersPresent, hpile]
  cases w.pileAt? w.robot.position <;> rfl

theorem sense_rotated (s : Sensor) : w.rotated.sense s.rotated = w.sense s := by
  have hleft (d : Direction) : w.robot.direction.left = d.left ↔ w.robot.direction = d :=
    (Function.LeftInverse.injective Direction.left_right).eq_iff
  cases s with
  | clear side => exact w.isClear_rotated side
  | blocked side => exact congrArg (!·) (w.isClear_rotated side)
  | beepersPresent => exact w.beepersPresent_rotated
  | noBeepersPresent => exact congrArg (!·) w.beepersPresent_rotated
  | beepersInBag => rfl
  | noBeepersInBag => rfl
  | facing d => exact decide_eq_decide.mpr (hleft d)
  | notFacing d => exact decide_eq_decide.mpr (not_congr (hleft d))

/-! ## Actions -/

/-- An action after the turn leads to the turned world, or fails by the turned fault. -/
theorem act_rotated (a : Action) :
    w.rotated.act a = ((w.act a).map rotated).mapError (ActionFault.rotated w.height) := by
  cases a with
  | move =>
    -- what stands in the way turns with the robot
    have hobstacle := w.obstacle?_rotated w.robot.position w.robot.direction
    change w.rotated.obstacle? w.rotated.robot.position w.rotated.robot.direction = _ at hobstacle
    change w.rotated.move = (w.move.map rotated).mapError _
    dsimp only [move]
    rw [hobstacle]
    cases w.obstacle? w.robot.position w.robot.direction with
    | none =>
      have hstep := Position.rotated_step w.height w.robot.position w.robot.direction
      simp only [Except.map, Except.mapError, rotated, hstep]
    | some o => cases o <;> rfl
  | turnLeft => rfl
  | pickBeeper =>
    change w.rotated.pickBeeper = (w.pickBeeper.map rotated).mapError _
    dsimp only [pickBeeper]
    rw [beepersPresent_rotated]
    split
    · have hpiles := takeBeeper_rotated w.height w.robot.position w.piles
      simp only [Except.map, Except.mapError, rotated, hpiles]
    · rfl
  | putBeeper =>
    change w.rotated.putBeeper = (w.putBeeper.map rotated).mapError _
    have hbag : w.rotated.robot.bag = w.robot.bag := rfl
    dsimp only [putBeeper]
    rw [hbag]
    cases w.robot.bag.take? with
    | none => rfl
    | some bag =>
      have hpiles := addPile_rotated w.height ⟨w.robot.position.x, w.robot.position.y, 1⟩ w.piles
      change addPile ⟨w.rotated.robot.position.x, w.rotated.robot.position.y, 1⟩ w.rotated.piles = _
        at hpiles
      simp only [Except.map, Except.mapError, hpiles]
      rfl

variable {w}

theorem height_of_act {after : World} {a : Action} (h : w.act a = .ok after) :
    after.height = w.height := by
  cases change_of_act h <;> rfl

/-- Actions after the turn, one after another, lead to the turned world, or the first that fails does
so by the turned fault. -/
theorem actAll_rotated (actions : List Action) :
    w.rotated.actAll actions =
      ((w.actAll actions).map rotated).mapError (ActionFault.rotated w.height) := by
  induction actions generalizing w with
  | nil => rfl
  | cons a rest ih =>
    unfold actAll at ih ⊢
    rw [List.foldlM_cons, List.foldlM_cons, act_rotated]
    cases ha : w.act a with
    | error f => rfl
    | ok after =>
      have hrest := ih (w := after)
      rw [height_of_act ha] at hrest
      exact hrest

theorem afterCall_rotated (name : String) :
    w.rotated.afterCall name = (w.afterCall name).rotated := by
  unfold afterCall call
  cases Action.ofName? name with
  | none => rfl
  | some a =>
    dsimp only
    rw [act_rotated]
    cases w.act a <;> rfl

theorem afterCalls_rotated (names : List String) :
    w.rotated.afterCalls names = (w.afterCalls names).rotated := by
  unfold afterCalls
  induction names generalizing w with
  | nil => rfl
  | cons name rest ih => rw [List.foldl_cons, List.foldl_cons, afterCall_rotated, ih]

theorem wellFormed_rotated : w.rotated.WellFormed ↔ w.WellFormed := by
  have hrobot := w.contains_rotated w.robot.position
  have hwalls : w.rotated.walls.Nodup ↔ w.walls.Nodup :=
    List.nodup_map_iff (Wall.rotated_injective w.height)
  have hpiles : (w.rotated.piles.map Pile.position).Nodup ↔ (w.piles.map Pile.position).Nodup := by
    have hcells : w.rotated.piles.map Pile.position =
        (w.piles.map Pile.position).map (Position.rotated w.height) := by
      simp only [rotated, List.map_map]
      rfl
    rw [hcells]
    exact List.nodup_map_iff (Position.rotated_injective w.height)
  have hcounts : (∀ p ∈ w.rotated.piles, 1 ≤ p.count) ↔ ∀ p ∈ w.piles, 1 ≤ p.count :=
    List.forall_mem_map
  constructor
  · intro h
    exact ⟨h.height_pos, h.height_le, h.width_pos, h.width_le, hrobot ▸ h.robot_inside,
      hwalls.mp h.walls_nodup, hpiles.mp h.piles_nodup, hcounts.mp h.counts_pos⟩
  · intro h
    exact ⟨h.height_pos, h.height_le, h.width_pos, h.width_le, hrobot.trans h.robot_inside,
      hwalls.mpr h.walls_nodup, hpiles.mpr h.piles_nodup, hcounts.mpr h.counts_pos⟩

/-- In the turned world every action succeeds that does so in the world itself, and leads to the turned
world; one that fails does so by a fault of the same kind. So it is with actions one after another, up
to the first that fails or beyond, and in between every sensor that asks for no direction says the same
in both worlds. -/
theorem rotation_renames_directions (w : World) :
    (w.rotated.WellFormed ↔ w.WellFormed) ∧
    (∀ a, w.rotated.act a = ((w.act a).map rotated).mapError (ActionFault.rotated w.height)) ∧
    (∀ actions, w.rotated.actAll actions =
      ((w.actAll actions).map rotated).mapError (ActionFault.rotated w.height)) ∧
    (∀ f : ActionFault, (f.rotated w.height).code = f.code) ∧
    ∀ names, w.rotated.afterCalls names = (w.afterCalls names).rotated ∧
      ∀ s : Sensor, (w.rotated.afterCalls names).sense s.rotated = (w.afterCalls names).sense s := by
  refine ⟨wellFormed_rotated, w.act_rotated, actAll_rotated, ActionFault.code_rotated w.height, ?_⟩
  intro names
  have hafter := w.afterCalls_rotated names
  refine ⟨hafter, fun s => ?_⟩
  rw [hafter, sense_rotated]

end World

end KarelLab
