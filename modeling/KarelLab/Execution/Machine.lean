import KarelLab.Execution.Fault
import KarelLab.Execution.Value
import KarelLab.Program.Restrictions

/-!
# The state of an execution

The log of commands, the names of the program and of the calls that are open, and the time left.
Time is counted in steps, one for each statement and each round of a loop.
-/

namespace KarelLab.Execution

abbrev Bindings := List (String × Value)

def Bindings.find? (b : Bindings) (name : String) : Option Value :=
  (List.find? (·.1 = name) b).map (·.2)

def Bindings.set (name : String) (value : Value) : Bindings → Bindings
  | [] => [(name, value)]
  | (n, v) :: rest => if n = name then (n, value) :: rest else (n, v) :: set name value rest

structure Machine where
  log : Log
  globals : Bindings
  calls : Array Bindings := #[]
  time : Nat
  deriving Inhabited

/-- What stays the same within one call: the local scopes, the innermost first, the library, what
stands before the names of functions defined here, and the limit on the time of the execution. -/
structure Context where
  scopes : List LocalScope
  library : Library
  path : String
  limit : Binary64
  deriving Inhabited

abbrev Run (α : Type) := EStateM Fault Machine α

namespace Run

def raise {α : Type} (e : RunError) (line : Nat) : Run α := throw (.error e line)

def pass (ctx : Context) (line : Nat) : Run Unit := do
  match (← get).time with
  | 0 => throw (.timeout ctx.limit line)
  | n + 1 => modify fun m => { m with time := n }

def command (p : Primitive) (line : Nat) : Run Value := fun m =>
  let (answer, log) := m.log.command p (some line)
  let m := { m with log := log }
  match answer with
  | .ok answer => .ok (.ofAnswer answer) m
  | .error f => .error (.ofCommand f (some line)) m

def localValue? (m : Machine) (scope : LocalScope) (name : String) : Option Value :=
  (m.calls[scope.place]?).bind (·.find? name)

def globalValue (ctx : Context) (name : String) (line : Nat) : Run Value := do
  match (← get).globals.find? name with
  | some v => return v
  | none =>
    match ctx.library with
    | .standard =>
      if name = Program.countingName then return .counting
      else raise (.undefinedName name) line
    | .replaced typeName => raise (.notSubscriptable typeName) line

/-- The value of a name. The innermost function that binds the name decides. -/
def read (ctx : Context) (name : String) (line : Nat) : Run Value := do
  match ctx.scopes with
  | [] => globalValue ctx name line
  | own :: outer =>
    if own.names.contains name then
      match localValue? (← get) own name with
      | some v => return v
      | none => raise (.unboundLocal name) line
    else
      match outer.find? (·.names.contains name) with
      | some scope =>
        match localValue? (← get) scope name with
        | some v => return v
        | none => raise (.unboundOuter name) line
      | none => globalValue ctx name line

def bind (ctx : Context) (name : String) (value : Value) : Run Unit :=
  match ctx.scopes with
  | [] => modify fun m => { m with globals := m.globals.set name value }
  | own :: _ => modify fun m => { m with calls := m.calls.modify own.place (·.set name value) }

def openCall : Run Nat := modifyGet fun m => (m.calls.size, { m with calls := m.calls.push [] })

/-- Forgets the names of a call if no function can still refer to them. -/
def closeCall (place : Nat) (body : List Program.Stmt) : Run Unit := do
  if (Program.blockFunctionNames body).isEmpty then
    modify fun m => if m.calls.size = place + 1 then { m with calls := m.calls.pop } else m

end Run

end KarelLab.Execution
