import KarelLab.Recording.Tick

namespace KarelLab

structure Log where
  world : World
  budget : Int
  ticks : Array Tick := #[]
  deriving Repr, Inhabited

inductive CommandFault
  | overBudget (budget : Int)
  | action (fault : ActionFault)
  deriving Repr, DecidableEq, Inhabited

namespace Log

def start (world : World) (budget : Int) : Log := ⟨world, budget, #[]⟩

def record (log : Log) (p : Primitive) (line : Option Nat) (outcome : TickOutcome) : Log :=
  { log with ticks := log.ticks.push ⟨log.ticks.size, p, line, outcome⟩ }

/-- Carries out a command that a line of the program gave. A sensor has an answer, an action none.
A command beyond the budget leaves no tick. -/
def command (log : Log) (p : Primitive) (line : Option Nat) :
    Except CommandFault (Option Bool) × Log :=
  if log.budget ≤ log.ticks.size then (.error (.overBudget log.budget), log)
  else
    match p with
    | .sensor s =>
      let value := log.world.sense s
      (.ok (some value), log.record p line (.sensed value))
    | .action a =>
      match log.world.act a with
      | .ok after => (.ok none, { log with world := after }.record p line (.acted after))
      | .error fault => (.error (.action fault), log.record p line (.failed (fault.report line)))

@[simp] theorem world_record (log : Log) (p : Primitive) (line : Option Nat) (o : TickOutcome) :
    (log.record p line o).world = log.world := rfl

@[simp] theorem budget_record (log : Log) (p : Primitive) (line : Option Nat) (o : TickOutcome) :
    (log.record p line o).budget = log.budget := rfl

@[simp] theorem budget_command (log : Log) (p : Primitive) (line : Option Nat) :
    (log.command p line).2.budget = log.budget := by
  unfold command
  split
  · rfl
  · split
    · rfl
    · split <;> rfl

end Log

end KarelLab
