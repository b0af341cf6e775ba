import KarelLab.World.Basic

namespace KarelLab

inductive Action
  | move | turnLeft | pickBeeper | putBeeper
  deriving Repr, DecidableEq, Inhabited

inductive Side
  | front | left | right
  deriving Repr, DecidableEq, Inhabited

inductive Sensor
  | clear (side : Side)
  | blocked (side : Side)
  | beepersPresent
  | noBeepersPresent
  | beepersInBag
  | noBeepersInBag
  | facing (d : Direction)
  | notFacing (d : Direction)
  deriving Repr, DecidableEq, Inhabited

inductive Primitive
  | action (a : Action)
  | sensor (s : Sensor)
  deriving Repr, DecidableEq, Inhabited

namespace Action

def all : List Action := [move, turnLeft, pickBeeper, putBeeper]

def name : Action → String
  | move => "move"
  | turnLeft => "turn_left"
  | pickBeeper => "pick_beeper"
  | putBeeper => "put_beeper"

def ofName? (s : String) : Option Action := all.find? (·.name = s)

end Action

namespace Side

def name : Side → String
  | front => "front"
  | left => "left"
  | right => "right"

def direction (d : Direction) : Side → Direction
  | front => d
  | left => d.left
  | right => d.right

end Side

namespace Sensor

def complement : Sensor → Sensor
  | clear s => blocked s
  | blocked s => clear s
  | beepersPresent => noBeepersPresent
  | noBeepersPresent => beepersPresent
  | beepersInBag => noBeepersInBag
  | noBeepersInBag => beepersInBag
  | facing d => notFacing d
  | notFacing d => facing d

def positive : List Sensor :=
  [clear .front, clear .left, clear .right, beepersPresent, beepersInBag,
    facing .north, facing .east, facing .south, facing .west]

def all : List Sensor := positive.flatMap fun s => [s, s.complement]

def name : Sensor → String
  | clear s => s.name ++ "_is_clear"
  | blocked s => s.name ++ "_is_blocked"
  | beepersPresent => "beepers_present"
  | noBeepersPresent => "no_beepers_present"
  | beepersInBag => "beepers_in_bag"
  | noBeepersInBag => "no_beepers_in_bag"
  | facing d => "facing_" ++ d.name
  | notFacing d => "not_facing_" ++ d.name

def ofName? (s : String) : Option Sensor := all.find? (·.name = s)

@[simp] theorem complement_complement (s : Sensor) : s.complement.complement = s := by
  cases s <;> rfl

end Sensor

namespace Primitive

def all : List Primitive := Action.all.map action ++ Sensor.all.map sensor

def name : Primitive → String
  | action a => a.name
  | sensor s => s.name

def names : List String := all.map name

def ofName? (s : String) : Option Primitive := all.find? (·.name = s)

theorem ofName?_name (p : Primitive) : ofName? p.name = some p := by
  cases p with
  | action a => cases a <;> rfl
  | sensor s =>
    cases s with
    | clear side => cases side <;> rfl
    | blocked side => cases side <;> rfl
    | facing d => cases d <;> rfl
    | notFacing d => cases d <;> rfl
    | _ => rfl

theorem name_of_ofName? {s : String} {p : Primitive} (h : ofName? s = some p) : p.name = s := by
  have hp := List.find?_some h
  simpa using hp

theorem name_injective {p q : Primitive} (h : p.name = q.name) : p = q := by
  have hp := ofName?_name p
  rw [h, ofName?_name q] at hp
  exact (Option.some.inj hp).symm

theorem name_mem_names (p : Primitive) : p.name ∈ names :=
  List.mem_map_of_mem (List.mem_of_find?_eq_some p.ofName?_name)

/-- No primitive has a name that is not listed. -/
theorem name_ne {s : String} (h : s ∉ names) (p : Primitive) : p.name ≠ s :=
  fun he => h (he ▸ p.name_mem_names)

end Primitive

end KarelLab
