import KarelLab.Execution.Run
import KarelLab.Program.Depth
import KarelLab.Program.Reader
import KarelLab.Text.Quoted

namespace KarelLab.Execution

open Program

/-- A limit on the time of an execution in seconds. A whole number may be beyond the greatest
number of the binary format. -/
inductive TimeLimit
  | seconds (s : Binary64)
  | huge
  deriving Repr, DecidableEq, Inhabited

namespace TimeLimit

def ofInt (n : Int) : TimeLimit :=
  match Binary64.ofInt? n with
  | some s => seconds s
  | none => huge

def stepsPerSecond : Nat := 1000000

def maxSteps : Nat := 1000000000000

def steps (s : Binary64) : Nat :=
  match s.ratio? with
  | some (negative, n, d) => if negative then 0 else min maxSteps (n * stepsPerSecond / d)
  | none => if s.isNegative then 0 else maxSteps

end TimeLimit

structure UnknownPrimitive where
  name : String
  deriving Repr, DecidableEq, Inhabited

def UnknownPrimitive.message (u : UnknownPrimitive) : String :=
  "unknown Karel primitive " ++ Text.quoted u.name

structure Session where
  log : Log
  allowed : List String
  globals : Bindings
  limit : TimeLimit
  deriving Inhabited

namespace Session

def fixedNames (s : Session) : List String := libraryName :: s.allowed

def registerNames : List String → Bindings → Except UnknownPrimitive Bindings
  | [], b => .ok b
  | name :: rest, b =>
    match Primitive.ofName? name with
    | some p => registerNames rest (b.set name (.primitive p))
    | none => .error ⟨name⟩

def register (s : Session) : Except UnknownPrimitive Session := do
  let globals ← registerNames s.allowed (s.globals.set libraryName .library)
  return { s with globals := globals }

def start (log : Log) (allowed : Option (List String)) (limit : TimeLimit) :
    Except UnknownPrimitive Session :=
  register ⟨log, allowed.getD Primitive.names, [], limit⟩

def clear (s : Session) : Session :=
  let keep := s.fixedNames
  { s with globals := s.globals.filter fun b => keep.contains b.1 }

/-- The tree of a text that can be run. Nothing is checked but that it is a program. -/
def compile (text : String) : Except Fault Tree :=
  match Tree.ofText text with
  | .error (.error e) => .error (.unreadable e)
  | .error .tooDeep => .error .tooManyRules
  | .ok tree =>
    if maxTreeDepth < blockDepth tree then .error .tooDeep
    else
      match tree.structureError? with
      | some e => .error (.unreadable e)
      | none => .ok tree

def execute (s : Session) (text : String) : Option Fault × Session :=
  match compile text with
  | .error f => (some f, s.clear)
  | .ok tree =>
    match s.limit with
    -- the limit is converted to seconds only now, when the program has been compiled
    | .huge => (some .hugeLimit, s.clear)
    | .seconds limit =>
      match runProgram limit tree ⟨s.log, s.globals, #[], TimeLimit.steps limit⟩ with
      | .ok _ m => (none, clear { s with log := m.log, globals := m.globals })
      | .error f m => (some f, clear { s with log := m.log, globals := m.globals })

end Session

structure RecordRequest where
  world : World
  allowed : Option (List String) := none
  maxSteps : Int
  limit : TimeLimit
  deriving Inhabited

/-- The recording of a session that ended with a fault or not. A fault that the last tick shows is
not told again. -/
def recordingOf (fault : Option Fault) (log : Log) : Recording :=
  let shown := (log.ticks.back?.bind Tick.report?).isSome
  ⟨log.ticks, if shown then none else fault.map Fault.report⟩

def record (text : String) (r : RecordRequest) : Except UnknownPrimitive Recording := do
  let session ← Session.start (.start r.world r.maxSteps) r.allowed r.limit
  let (fault, session) := session.execute text
  return recordingOf fault session.log

end KarelLab.Execution
