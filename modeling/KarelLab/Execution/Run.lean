import KarelLab.Execution.Machine
import KarelLab.Execution.Scoping
import KarelLab.Program.Structure

/-!
# Running a program

Expressions and statements run by recursion on the program. A loop ends at the latest when its time
is over, and a call of a function when the calls are nested too deeply.
-/

namespace KarelLab.Execution

open Program

def libraryName : String := "__builtins__"

def maxCalls : Nat := 960

inductive Flow
  | next
  | broke
  | continued
  | returned (v : Value)
  deriving Inhabited

inductive LoopEnd
  | exhausted
  | broken
  | returned (v : Value)
  deriving Inhabited

abbrev Invoke := Function → Nat → Run Value

def boundOf (v : Value) (line : Nat) : Run Int :=
  match v.toInt? with
  | some n => return n
  | none => Run.raise (.notWhole v.typeName) line

def makeRange (args : List Value) (line : Nat) : Run Value := do
  match args with
  | [] => Run.raise .tooFewBounds line
  | [stop] => do
    let stop ← boundOf stop line
    return .range 0 1 (rangeCount 0 stop 1)
  | [first, stop] => do
    let first ← boundOf first line
    let stop ← boundOf stop line
    return .range first 1 (rangeCount first stop 1)
  | [first, stop, step] => do
    let first ← boundOf first line
    let stop ← boundOf stop line
    let step ← boundOf step line
    if step = 0 then Run.raise .zeroStep line
    return .range first step (rangeCount first stop step)
  | args => Run.raise (.tooManyBounds args.length) line

def apply (invoke : Invoke) (f : Value) (args : List Value) (line : Nat) : Run Value :=
  match f with
  | .primitive p =>
    if args.isEmpty then Run.command p line
    else Run.raise (.commandArguments p.name args.length) line
  | .counting => makeRange args line
  | .function f =>
    if args.isEmpty then invoke f line
    else Run.raise (.tooManyArguments f.name args.length) line
  | v => Run.raise (.notCallable v.typeName) line

def evalExpr (ctx : Context) (invoke : Invoke) : Expr → Run Value
  | .name line id =>
    if id = unbindableName then return .bool true else Run.read ctx id line
  | .literal _ v => return .ofLiteral v
  | .not _ e => do return .bool (!(← evalExpr ctx invoke e).truthy)
  | .junction _ op es => evalJunction op es
  | .call line f args keywords => do
    let f ← evalExpr ctx invoke f
    let args ← evalArgs args
    if keywords.isEmpty then apply invoke f args line else Run.raise .unsupported line
  | .other line _ _ => Run.raise .unsupported line
where
  /-- The operand that decides a connective: the first that does so, or the last one. -/
  evalJunction (op : Connective) : List Expr → Run Value
    | [] => return .none
    | [e] => evalExpr ctx invoke e
    | e :: rest => do
      let v ← evalExpr ctx invoke e
      if v.truthy == (op == .or) then return v else evalJunction op rest
  evalArgs : List Expr → Run (List Value)
    | [] => return []
    | e :: rest => do
      let v ← evalExpr ctx invoke e
      return v :: (← evalArgs rest)

def repeatWhile (pass : Run Unit) (test : Run Value) (body : Run Flow) : Nat → Run LoopEnd
  | 0 => return .exhausted
  | n + 1 => do
    pass
    if (← test).truthy then
      match ← body with
      | .broke => return .broken
      | .returned v => return .returned v
      | .next | .continued => repeatWhile pass test body n
    else return .exhausted

def repeatFor (pass : Run Unit) (set : Int → Run Unit) (body : Run Flow) (step : Int) :
    Nat → Int → Run LoopEnd
  | 0, _ => return .exhausted
  | n + 1, i => do
    pass
    set i
    match ← body with
    | .broke => return .broken
    | .returned v => return .returned v
    | .next | .continued => repeatFor pass set body step n (i + step)

def afterLoop (orelse : Run Flow) : LoopEnd → Run Flow
  | .exhausted => orelse
  | .broken => return .next
  | .returned v => return .returned v

/-- The library that a function defined now will use. -/
def currentLibrary : Run Library := do
  match (← get).globals.find? libraryName with
  | some .library | none => return .standard
  | some v => return .replaced v.typeName

def makeFunction (ctx : Context) (name : String) (body : List Stmt) : Run Value := do
  return .function ⟨ctx.path ++ name, body, ctx.scopes, ← currentLibrary⟩

def runStmt (ctx : Context) (invoke : Invoke) : Stmt → Run Flow
  | .expr line e => do
    Run.pass ctx line
    let _ ← evalExpr ctx invoke e
    return .next
  | .pass line => do Run.pass ctx line; return .next
  | .breakLoop line => do Run.pass ctx line; return .broke
  | .continueLoop line => do Run.pass ctx line; return .continued
  | .giveBack line value => do
    Run.pass ctx line
    match value with
    | none => return .returned .none
    | some e => return .returned (← evalExpr ctx invoke e)
  | .define line name signature body => do
    Run.pass ctx line
    if signature.parameters || signature.decorator.isSome || signature.annotated then
      Run.raise .unsupported line
    Run.bind ctx name (← makeFunction ctx name body)
    return .next
  | .branch line test body orelse => do
    Run.pass ctx line
    if (← evalExpr ctx invoke test).truthy then runBlock body else runBlock orelse
  -- each round takes time, so there are no more rounds than there is time left
  | .whileLoop line test body orelse => do
    let e ← repeatWhile (Run.pass ctx line) (evalExpr ctx invoke test) (runBlock body)
      ((← get).time + 1)
    afterLoop (runBlock orelse) e
  | .forLoop line target iterable body orelse => do
    Run.pass ctx line
    let items ← evalExpr ctx invoke iterable
    match items, target with
    | .range first step count, .name _ id =>
      let e ← repeatFor (Run.pass ctx line) (fun i => Run.bind ctx id (.int i)) (runBlock body)
        step count first
      afterLoop (runBlock orelse) e
    | .range _ _ _, _ => Run.raise .unsupported line
    | v, _ => Run.raise (.notIterable v.typeName) line
  | .other line _ _ => Run.raise .unsupported line
where
  runBlock : List Stmt → Run Flow
    | [] => return .next
    | s :: rest => do
      match ← runStmt ctx invoke s with
      | .next => runBlock rest
      | flow => return flow

def runFunction (limit : Binary64) (invoke : Invoke) (f : Function) : Run Value := do
  let place ← Run.openCall
  -- a name that the body binds anywhere is local in all of it
  let ctx : Context :=
    ⟨⟨place, blockBoundNames f.body⟩ :: f.scopes, f.library, f.name ++ ".<locals>.", limit⟩
  let flow ← runStmt.runBlock ctx invoke f.body
  Run.closeCall place f.body
  match flow with
  | .returned v => return v
  | _ => return .none

def invoke (limit : Binary64) : Nat → Invoke
  | 0, _, line => Run.raise .tooDeep line
  | n + 1, f, _ => runFunction limit (invoke limit n) f

def runProgram (limit : Binary64) (tree : Tree) : Run Unit := do
  let ctx : Context := ⟨[], ← currentLibrary, "", limit⟩
  let _ ← runStmt.runBlock ctx (invoke limit maxCalls) tree

end KarelLab.Execution
