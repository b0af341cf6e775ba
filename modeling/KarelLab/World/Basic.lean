/-!
# Worlds

A world is a grid of cells with walls between them, piles of beepers on them and a robot. Cells
are numbered from one, `y` grows to the north. A horizontal wall at `(x, y)` lies between `(x, y)`
and `(x, y + 1)`, a vertical wall at `(x, y)` between `(x, y)` and `(x + 1, y)`.
-/

namespace KarelLab

inductive Direction
  | north | east | south | west
  deriving Repr, DecidableEq, Inhabited

namespace Direction

def all : List Direction := [north, east, south, west]

def name : Direction → String
  | north => "north"
  | east => "east"
  | south => "south"
  | west => "west"

def ofName? (s : String) : Option Direction := all.find? (·.name = s)

def left : Direction → Direction
  | north => west
  | west => south
  | south => east
  | east => north

def right : Direction → Direction
  | west => north
  | south => west
  | east => south
  | north => east

def dx : Direction → Int
  | east => 1
  | west => -1
  | _ => 0

def dy : Direction → Int
  | north => 1
  | south => -1
  | _ => 0

@[simp] theorem left_right (d : Direction) : d.left.right = d := by cases d <;> rfl

@[simp] theorem right_left (d : Direction) : d.right.left = d := by cases d <;> rfl

end Direction

inductive Orientation
  | horizontal | vertical
  deriving Repr, DecidableEq, Inhabited

namespace Orientation

def all : List Orientation := [horizontal, vertical]

def name : Orientation → String
  | horizontal => "horizontal"
  | vertical => "vertical"

def ofName? (s : String) : Option Orientation := all.find? (·.name = s)

end Orientation

/-- A cell, which may lie outside the grid. -/
structure Position where
  x : Int
  y : Int
  deriving Repr, DecidableEq, Inhabited

namespace Position

def step (p : Position) (d : Direction) : Position := ⟨p.x + d.dx, p.y + d.dy⟩

def text (p : Position) : String := s!"({p.x}, {p.y})"

end Position

structure Wall where
  orientation : Orientation
  x : Int
  y : Int
  deriving Repr, DecidableEq, Inhabited

structure Pile where
  x : Int
  y : Int
  count : Nat
  deriving Repr, DecidableEq, Inhabited

namespace Pile

def position (p : Pile) : Position := ⟨p.x, p.y⟩

end Pile

inductive Bag
  | unlimited
  | holding (count : Nat)
  deriving Repr, DecidableEq, Inhabited

namespace Bag

/-- The number by which documents give a bag; minus one stands for one that never runs out. -/
def toInt : Bag → Int
  | unlimited => -1
  | holding n => n

def ofInt (n : Int) : Bag := if n < 0 then unlimited else holding n.toNat

def add : Bag → Bag
  | unlimited => unlimited
  | holding n => holding (n + 1)

def take? : Bag → Option Bag
  | unlimited => some unlimited
  | holding 0 => none
  | holding (n + 1) => some (holding n)

@[simp] theorem ofInt_toInt (b : Bag) : ofInt b.toInt = b := by
  cases b with
  | unlimited => rfl
  | holding n => simp [ofInt, toInt, Int.not_lt.2 (Int.natCast_nonneg n)]

@[simp] theorem take?_add (b : Bag) : b.add.take? = some b := by cases b <;> rfl

end Bag

structure Robot where
  position : Position
  direction : Direction
  bag : Bag
  deriving Repr, DecidableEq, Inhabited

/-- A snapshot of the grid. Walls and piles keep the order in which they were listed. -/
structure World where
  width : Nat
  height : Nat
  robot : Robot
  walls : List Wall
  piles : List Pile
  deriving Repr, DecidableEq, Inhabited

namespace World

def maxSize : Nat := 30

def contains (w : World) (p : Position) : Bool :=
  1 ≤ p.x && p.x ≤ w.width && 1 ≤ p.y && p.y ≤ w.height

def hasWall (w : World) (o : Orientation) (x y : Int) : Bool := w.walls.contains ⟨o, x, y⟩

def pileAt? (w : World) (p : Position) : Option Pile := w.piles.find? (·.position = p)

def addPile (pile : Pile) : List Pile → List Pile
  | [] => [pile]
  | p :: rest =>
    if p.position = pile.position then { p with count := p.count + pile.count } :: rest
    else p :: addPile pile rest

def mergePiles (piles : List Pile) : List Pile := piles.foldl (fun ps p => addPile p ps) []

def dropRepeated (walls : List Wall) : List Wall :=
  walls.foldl (fun ws w => if ws.contains w then ws else ws ++ [w]) []

def normalize (w : World) : World :=
  { w with walls := dropRepeated w.walls, piles := mergePiles w.piles }

def default : World where
  width := 10
  height := 10
  robot := ⟨⟨1, 1⟩, .east, .holding 0⟩
  walls := []
  piles := []

/-- What an accepted world promises: its size is in bounds, the robot stands inside the grid, no
wall is listed twice, no cell has two piles and no pile is empty. -/
structure WellFormed (w : World) : Prop where
  width_pos : 1 ≤ w.width
  width_le : w.width ≤ maxSize
  height_pos : 1 ≤ w.height
  height_le : w.height ≤ maxSize
  robot_inside : w.contains w.robot.position = true
  walls_nodup : w.walls.Nodup
  piles_nodup : (w.piles.map Pile.position).Nodup
  counts_pos : ∀ p ∈ w.piles, 1 ≤ p.count

end World

end KarelLab
