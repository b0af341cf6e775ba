import KarelLab.World.Action

namespace KarelLab

inductive TickOutcome
  | acted (after : World)
  | sensed (value : Bool)
  | failed (report : Report)
  deriving Repr, DecidableEq, Inhabited

structure Tick where
  index : Nat
  primitive : Primitive
  line : Option Nat
  outcome : TickOutcome
  deriving Repr, DecidableEq, Inhabited

namespace Tick

def report? (t : Tick) : Option Report :=
  match t.outcome with
  | .failed r => some r
  | _ => none

end Tick

/-- All ticks of one execution and the error that ended it, unless the last tick shows it. -/
structure Recording where
  ticks : Array Tick := #[]
  error : Option Report := none
  deriving Repr, DecidableEq, Inhabited

namespace Recording

def failed (r : Recording) : Bool := r.error.isSome || r.ticks.any (·.report?.isSome)

end Recording

end KarelLab
