import KarelLab.Number.Layout
import KarelLab.Program.SyntaxError
import KarelLab.Recording.Log

namespace KarelLab.Execution

inductive RunError
  | undefinedName (name : String)
  | unboundLocal (name : String)
  | unboundOuter (name : String)
  | notCallable (typeName : String)
  | notWhole (typeName : String)
  | notIterable (typeName : String)
  | notSubscriptable (typeName : String)
  | zeroStep
  | tooFewBounds
  | tooManyBounds (given : Nat)
  | tooManyArguments (function : String) (given : Nat)
  | commandArguments (command : String) (given : Nat)
  | tooDeep
  | unsupported
  deriving Repr, DecidableEq, Inhabited

namespace RunError

def message : RunError → String
  | undefinedName n => "NameError: name '" ++ n ++ "' is not defined"
  | unboundLocal n =>
    "UnboundLocalError: cannot access local variable '" ++ n ++
      "' where it is not associated with a value"
  | unboundOuter n =>
    "NameError: cannot access free variable '" ++ n ++
      "' where it is not associated with a value in enclosing scope"
  | notCallable t => "TypeError: '" ++ t ++ "' object is not callable"
  | notWhole t => "TypeError: '" ++ t ++ "' object cannot be interpreted as an integer"
  | notIterable t => "TypeError: '" ++ t ++ "' object is not iterable"
  | notSubscriptable t => "TypeError: '" ++ t ++ "' object is not subscriptable"
  | zeroStep => "ValueError: range() arg 3 must not be zero"
  | tooFewBounds => "TypeError: range expected at least 1 argument, got 0"
  | tooManyBounds n => "TypeError: range expected at most 3 arguments, got " ++ toString n
  | tooManyArguments f n =>
    "TypeError: " ++ f ++ "() takes 0 positional arguments but " ++ toString n ++
      (if n = 1 then " was given" else " were given")
  | commandArguments c n =>
    "TypeError: RecordingCommands." ++ c ++ "() takes 1 positional argument but " ++
      toString (n + 1) ++ " were given"
  | tooDeep => "Too many nested function calls (does a function call itself forever?)."
  | unsupported => "NotImplementedError: this construct cannot be run"

end RunError

/-- Why an execution ended. The lines are those of the innermost part of the program. -/
inductive Fault
  | action (fault : ActionFault) (line : Option Nat)
  | overBudget (budget : Int) (line : Option Nat)
  | timeout (limit : Binary64) (line : Nat)
  | error (e : RunError) (line : Nat)
  | unreadable (e : Program.SyntaxError)
  | tooManyRules
  | tooDeep
  | hugeLimit
  deriving Repr, DecidableEq, Inhabited

namespace Fault

def loopHint : String := "Make sure every loop eventually ends."

def runtimeReport (message : String) (line : Option Nat) : Report where
  code := .runtime
  message := message
  line := line

def ofCommand (f : CommandFault) (line : Option Nat) : Fault :=
  match f with
  | .overBudget budget => .overBudget budget line
  | .action fault => .action fault line

def report : Fault → Report
  | action f line => f.report line
  | overBudget budget line =>
    { code := .stepLimit
      message := "Karel took more than " ++ toString budget ++ " steps; is there an infinite loop?"
      line := line
      hint := some loopHint }
  | timeout limit line =>
    { code := .timeout
      message := "Program ran longer than " ++ Number.general limit ++ "s and was stopped."
      line := some line
      hint := some loopHint }
  | error e line => runtimeReport e.message (some line)
  | unreadable e =>
    if e.cause = .nullCharacter then runtimeReport ("ValueError: " ++ e.message) none
    else runtimeReport ("SyntaxError: " ++ e.message) (some e.line)
  | tooManyRules => runtimeReport "MemoryError: " none
  | tooDeep => runtimeReport RunError.tooDeep.message none
  | hugeLimit => runtimeReport "OverflowError: int too large to convert to float" none

end Fault

end KarelLab.Execution
