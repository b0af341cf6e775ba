import KarelLab.Report
import KarelLab.World.Primitive

namespace KarelLab

inductive Obstacle
  | wall | boundary
  deriving Repr, DecidableEq, Inhabited

namespace Obstacle

def name : Obstacle → String
  | wall => "wall"
  | boundary => "boundary"

end Obstacle

inductive ActionFault
  | wallCollision (d : Direction)
  | boundaryViolation (d : Direction)
  | noBeeperPresent (p : Position)
  | bagEmpty
  deriving Repr, DecidableEq, Inhabited

namespace ActionFault

def code : ActionFault → ReportCode
  | wallCollision _ => .wallCollision
  | boundaryViolation _ => .boundaryViolation
  | noBeeperPresent _ => .noBeeperPresent
  | bagEmpty => .bagEmpty

def message : ActionFault → String
  | wallCollision d => "Karel crashed into a wall while moving " ++ d.name ++ "."
  | boundaryViolation d => "Karel cannot move " ++ d.name ++ " off the edge of the world."
  | noBeeperPresent p => "There is no beeper to pick up at " ++ p.text ++ "."
  | bagEmpty => "Karel's beeper bag is empty."

def hint : ActionFault → String
  | wallCollision _ => "Check front_is_clear() before calling move()."
  | boundaryViolation _ => "Check front_is_clear() before calling move()."
  | noBeeperPresent _ => "Check beepers_present() before calling pick_beeper()."
  | bagEmpty => "Check beepers_in_bag() before calling put_beeper()."

def report (f : ActionFault) (line : Option Nat) : Report where
  code := f.code
  message := f.message
  line := line
  hint := some f.hint

end ActionFault

namespace World

def walled (w : World) (p : Position) : Direction → Bool
  | .north => w.hasWall .horizontal p.x p.y
  | .south => w.hasWall .horizontal p.x (p.y - 1)
  | .east => w.hasWall .vertical p.x p.y
  | .west => w.hasWall .vertical (p.x - 1) p.y

/-- What stops a step from a cell in a direction. A wall counts before the edge of the grid. -/
def obstacle? (w : World) (p : Position) (d : Direction) : Option Obstacle :=
  if w.walled p d then some .wall
  else if w.contains (p.step d) then none
  else some .boundary

def isClear (w : World) (side : Side) : Bool :=
  (w.obstacle? w.robot.position (side.direction w.robot.direction)).isNone

def beepersPresent (w : World) : Bool :=
  match w.pileAt? w.robot.position with
  | some pile => 0 < pile.count
  | none => false

/-- Takes one beeper from the first pile of a cell; a pile that gets empty is removed. -/
def takeBeeper (p : Position) : List Pile → List Pile
  | [] => []
  | pile :: rest =>
    if pile.position = p then
      if pile.count ≤ 1 then rest else { pile with count := pile.count - 1 } :: rest
    else pile :: takeBeeper p rest

def move (w : World) : Except ActionFault World :=
  let d := w.robot.direction
  match w.obstacle? w.robot.position d with
  | some .wall => .error (.wallCollision d)
  | some .boundary => .error (.boundaryViolation d)
  | none => .ok { w with robot := { w.robot with position := w.robot.position.step d } }

def turnLeft (w : World) : World :=
  { w with robot := { w.robot with direction := w.robot.direction.left } }

def pickBeeper (w : World) : Except ActionFault World :=
  let p := w.robot.position
  if w.beepersPresent then
    .ok { w with
      robot := { w.robot with bag := w.robot.bag.add }
      piles := takeBeeper p w.piles }
  else .error (.noBeeperPresent p)

def putBeeper (w : World) : Except ActionFault World :=
  match w.robot.bag.take? with
  | none => .error .bagEmpty
  | some bag =>
    .ok { w with
      robot := { w.robot with bag := bag }
      piles := addPile ⟨w.robot.position.x, w.robot.position.y, 1⟩ w.piles }

def act (w : World) : Action → Except ActionFault World
  | .move => w.move
  | .turnLeft => .ok w.turnLeft
  | .pickBeeper => w.pickBeeper
  | .putBeeper => w.putBeeper

def sense (w : World) : Sensor → Bool
  | .clear side => w.isClear side
  | .blocked side => !w.isClear side
  | .beepersPresent => w.beepersPresent
  | .noBeepersPresent => !w.beepersPresent
  | .beepersInBag => w.robot.bag ≠ .holding 0
  | .noBeepersInBag => w.robot.bag = .holding 0
  | .facing d => w.robot.direction = d
  | .notFacing d => w.robot.direction ≠ d

theorem sense_complement (w : World) (s : Sensor) : w.sense s.complement = !w.sense s := by
  cases s <;> simp [Sensor.complement, sense]

end World

end KarelLab
