import KarelLab.World.Action

namespace KarelLab

structure Verdict where
  passed : Bool
  message : String
  deriving Repr, DecidableEq, Inhabited

structure Goal where
  position : Option Position := none
  direction : Option Direction := none
  piles : Option (List Pile) := none
  bag : Option Int := none
  deriving Repr, DecidableEq, Inhabited

namespace Goal

/-- The count that a list of piles gives for a cell: the last entry for it decides. -/
def countAt? (piles : List Pile) (p : Position) : Option Nat :=
  (piles.reverse.find? (·.position = p)).map (·.count)

def samePiles (xs ys : List Pile) : Bool :=
  (xs ++ ys).all fun p => countAt? xs p.position == countAt? ys p.position

def positionProblem? (g : Goal) (w : World) : Option String :=
  g.position.bind fun p =>
    if w.robot.position = p then none
    else some s!"Karel should end at {p.text} but is at {w.robot.position.text}."

def directionProblem? (g : Goal) (w : World) : Option String :=
  g.direction.bind fun d =>
    if w.robot.direction = d then none
    else some s!"Karel should face {d.name} but faces {w.robot.direction.name}."

def pilesProblem? (g : Goal) (w : World) : Option String :=
  g.piles.bind fun ps =>
    if samePiles ps w.piles then none else some "The beepers are not where they should be."

def bagProblem? (g : Goal) (w : World) : Option String :=
  g.bag.bind fun n =>
    if w.robot.bag.toInt = n then none
    else some s!"Karel's bag should hold {n} beepers but holds {w.robot.bag.toInt}."

def problems (g : Goal) (w : World) : List String :=
  [g.positionProblem? w, g.directionProblem? w, g.pilesProblem? w, g.bagProblem? w].filterMap id

def check (g : Goal) (w : World) : Verdict :=
  match g.problems w with
  | [] => ⟨true, "Goal reached."⟩
  | ps => ⟨false, String.intercalate " " ps⟩

end Goal

end KarelLab
