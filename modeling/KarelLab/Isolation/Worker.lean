import KarelLab.Document.Convert
import KarelLab.Document.World
import KarelLab.Execution.Session
import KarelLab.Json.Reader
import KarelLab.Program.Review

/-!
# The worker

A worker is a helper that gets one request as a document, reviews the program in it, runs it and
hands out the recording. A program that is not accepted gives a recording without ticks. Requests
that make no sense are refused.
-/

namespace KarelLab.Isolation

open Execution

def defaultMaxSteps : Int := 10000

def defaultLimit : Binary64 := .ofRatio false 2 1

inductive WorkerFault
  | notJson
  | noWorld
  | issues (es : List Document.Issue)
  | number (f : Document.ConvertFault)
  | unknownPrimitive (u : UnknownPrimitive)
  | notText
  | notNames (typeName : String)
  | notObject (typeName : String)
  deriving Repr, DecidableEq, Inhabited

structure Budgets where
  maxSteps : Int
  limit : TimeLimit
  deriving Repr, Inhabited

/-- Reviews a program, runs it and records what it does. The budgets are looked at only when the
program is accepted. -/
def answer (code : String) (world : World) (restrictions : Program.Restrictions)
    (budgets : Except WorkerFault Budgets) : Except WorkerFault Recording :=
  match Program.review restrictions code with
  | .error e => .ok ⟨#[], some e.report⟩
  | .ok _ => do
    let b ← budgets
    (record code ⟨world, restrictions.commands, b.maxSteps, b.limit⟩).mapError .unknownPrimitive

/-- The names in a value that should list names: those of a list, the keys of an object, or the
characters of a text. Null lists nothing. -/
def namesOf : Json → Except WorkerFault (Option (List String))
  | .null => .ok none
  | .array js => .ok (some (js.filterMap Json.string?))
  | .object fs => .ok (some (fs.map (·.1)))
  | .string s => .ok (some (s.toList.map String.singleton))
  | j => .error (.notNames (Document.typeName j))

def namesField (fields : List (String × Json)) (name : String) :
    Except WorkerFault (Option (List String)) :=
  namesOf ((Json.lookup name fields).getD .null)

def restrictionsOf (fields : List (String × Json)) : Except WorkerFault Program.Restrictions := do
  let commands ← namesField fields "karel_commands"
  return ⟨commands, ← namesField fields "python_features"⟩

def budgetsOf (fields : List (String × Json)) (defaultLimit : Binary64) :
    Except WorkerFault Budgets := do
  let maxSteps ← match Json.lookup "max_steps" fields with
    | some j => (Document.toWhole j).mapError .number
    | none => pure defaultMaxSteps
  let limit ← match Json.lookup "max_time_s" fields with
    | some j => (Document.toReal j).mapError .number
    | none => pure defaultLimit
  return ⟨maxSteps, .seconds limit⟩

def handle (payload : Json) (defaultLimit : Binary64) : Except WorkerFault Recording := do
  let .object fields := payload | throw (.notObject (Document.typeName payload))
  let some worldDocument := Json.lookup "world" fields | throw .noWorld
  let world ← (Document.world .value worldDocument).mapError .issues
  let .string code := (Json.lookup "code" fields).getD (.string "") | throw .notText
  -- a text that cannot be read is refused before anybody looks at the restrictions
  match restrictionsOf fields, Program.Tree.ofText code with
  | .error fault, .ok _ => throw fault
  | .error _, .error _ => answer code world {} (budgetsOf fields defaultLimit)
  | .ok restrictions, _ => answer code world restrictions (budgetsOf fields defaultLimit)

def handleText (text : String) (defaultLimit : Binary64) : Except WorkerFault Recording :=
  match Json.parse text with
  | .ok payload => handle payload defaultLimit
  | .error _ => .error .notJson

namespace WorkerFault

def message : WorkerFault → String
  | notJson => "the request is no JSON text"
  | noWorld => "world"
  | issues es => String.intercalate "; " (es.map (·.kind.message))
  | number f => f.message
  | unknownPrimitive u => u.message
  | notText => "compile() arg 1 must be a string, bytes or AST object"
  | notNames t => "'" ++ t ++ "' object is not iterable"
  | notObject t => "'" ++ t ++ "' object has no attribute 'get'"

/-- What a worker says about a refused request, if it is a fault that it expects. -/
def complaint? : WorkerFault → Option String
  | notJson | issues _ => some ""
  | noWorld => some "'world'"
  | number (.wholeType _) | number (.realType _) | number .wholeInfinite | number .realHuge => none
  | number f => some f.message
  | unknownPrimitive u => some u.message
  | notText | notNames _ | notObject _ => none

end WorkerFault

end KarelLab.Isolation
