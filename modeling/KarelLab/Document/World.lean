import KarelLab.Document.Whole
import KarelLab.Json.Reader
import KarelLab.World.Goal

namespace KarelLab.Document

open Checked

def position (medium : Medium) (j : Json) : Checked Position := do
  let fs ← fields medium "Position" j
  (both (field fs "x" whole) (field fs "y" whole)).map fun (x, y) => ⟨x, y⟩

def direction : Json → Checked Direction :=
  choice Direction.ofName? "'north', 'east', 'south' or 'west'"

def orientation : Json → Checked Orientation :=
  choice Orientation.ofName? "'horizontal' or 'vertical'"

def wall (medium : Medium) (j : Json) : Checked Wall := do
  let fs ← fields medium "Wall" j
  (both (field fs "orientation" orientation) (both (field fs "x" whole) (field fs "y" whole))).map
    fun (o, x, y) => ⟨o, x, y⟩

def pile (medium : Medium) (j : Json) : Checked Pile := do
  let fs ← fields medium "BeeperPile" j
  (both (field fs "x" whole) (both (field fs "y" whole) (field fs "count" (wholeFrom 1)))).map
    fun (x, y, n) => ⟨x, y, n.toNat⟩

def dimensions (medium : Medium) (j : Json) : Checked (Nat × Nat) := do
  let fs ← fields medium "Dimensions" j
  let size := wholeBetween 1 World.maxSize
  (both (field fs "width" size) (field fs "height" size)).map fun (w, h) => (w.toNat, h.toNat)

def robot (medium : Medium) (j : Json) : Checked Robot := do
  let fs ← fields medium "Robot" j
  (both (field fs "position" (position medium)) (both (fieldOr fs "direction" .east direction)
    (fieldOr fs "beeper_bag" 0 (wholeFrom (-1))))).map fun (p, d, n) => ⟨p, d, .ofInt n⟩

def outside (w : World) : String :=
  "robot position " ++ w.robot.position.text ++ " lies outside the " ++ toString w.width ++ "x" ++
    toString w.height ++ " world"

/-- Accepts a world whose robot stands inside the grid, and puts it in order. -/
def accept (w : World) : Checked World :=
  if w.contains w.robot.position then .ok w.normalize else issue (.refused (outside w))

def world (medium : Medium) (j : Json) : Checked World := do
  let fs ← fields medium "World" j
  let ((width, height), r, walls, piles) ←
    both (field fs "dimensions" (dimensions medium)) (both (field fs "robot" (robot medium))
      (both (fieldOr fs "walls" [] (list medium (wall medium)))
        (fieldOr fs "beeper_piles" [] (list medium (pile medium)))))
  accept ⟨width, height, r, walls, piles⟩

def worldFromText (s : String) : Checked World :=
  match Json.parse s with
  | .ok j => world .text j
  | .error _ => issue .notJson

/-- A goal. A field that is null or missing is not checked. -/
def goal (medium : Medium) (j : Json) : Checked Goal := do
  let fs ← fields medium "WorldGoal" j
  (both (fieldOr fs "position" none (optional (position medium)))
    (both (fieldOr fs "direction" none (optional direction))
      (both (fieldOr fs "beeper_piles" none (optional (list medium (pile medium))))
        (fieldOr fs "beeper_bag" none (optional whole))))).map
    fun (p, d, ps, n) => ⟨p, d, ps, n⟩

def ofPosition (p : Position) : Json := .object [("x", .int p.x), ("y", .int p.y)]

def ofWall (w : Wall) : Json :=
  .object [("orientation", .string w.orientation.name), ("x", .int w.x), ("y", .int w.y)]

def ofPile (p : Pile) : Json := .object [("x", .int p.x), ("y", .int p.y), ("count", .nat p.count)]

def ofWorld (w : World) : Json :=
  .object [
    ("dimensions", .object [("width", .nat w.width), ("height", .nat w.height)]),
    ("robot", .object [
      ("position", ofPosition w.robot.position),
      ("direction", .string w.robot.direction.name),
      ("beeper_bag", .int w.robot.bag.toInt)]),
    ("walls", .array (w.walls.map ofWall)),
    ("beeper_piles", .array (w.piles.map ofPile))]

end KarelLab.Document
