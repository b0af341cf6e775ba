import KarelLab.Playback.Machine

namespace KarelLab.Playback

inductive Occasion
  | change (stepCount : Int) (status : String)
  | wait (number : Int)
  deriving Repr, DecidableEq, Inhabited

/-- An operation for an occasion. Every trigger is used once. -/
structure Trigger where
  occasion : Occasion
  operation : Operation
  deriving Inhabited

structure Event where
  state : State
  robot : Robot
  deriving Repr, Inhabited

structure Script where
  triggers : List Trigger
  events : Array Event := #[]
  waits : Array Nat := #[]
  deriving Inhabited

namespace Occasion

def due (o : Occasion) : Notice → Bool
  | .changed _ s _ =>
    match o with
    | change n status => n == s.stepCount && status == s.status.name
    | wait _ => false
  | .waited number _ =>
    match o with
    | change _ _ => false
    | wait n => n == number

end Occasion

namespace Script

def takeDue (n : Notice) : List Trigger → Option (Trigger × List Trigger)
  | [] => none
  | t :: rest =>
    if t.occasion.due n then some (t, rest)
    else (takeDue n rest).map fun (u, others) => (u, t :: others)

def environment : Environment Script where
  observe n s :=
    match n with
    | .changed _ state world => { s with events := s.events.push ⟨state, world.robot⟩ }
    | .waited _ delay => { s with waits := s.waits.push delay }
  answer n s := (takeDue n s.triggers).map fun (t, rest) => (t.operation, { s with triggers := rest })

/-- A bound on the parts of an operation: every tick and every listener takes a few of them, and so
does every operation of a trigger. -/
def partsBound (p : Player) (s : Script) (op : Operation) : Nat :=
  let ticks := max p.budgets.maxSteps.toNat (((p.recording.map (·.ticks.size)).getD 0))
  let times := match op with
    | .tick n => n
    | _ => 0
  let triggers := s.triggers.length + 1
  let triggered := (s.triggers.map fun t => match t.operation with
    | .tick n => n
    | .setMaxSteps n => n.toNat
    | _ => 0).foldl (· + ·) 0
  (ticks + times + triggered + 16) * (p.listeners.length + triggers + 4) * triggers * 4

def operate (p : Player) (s : Script) (op : Operation) : Config Script :=
  let s := { s with events := #[], waits := #[] }
  Config.settle environment (partsBound p s op) { player := p, stack := [.perform op], env := s }

end Script

end KarelLab.Playback
