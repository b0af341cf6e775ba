import KarelLab.Isolation.Worker
import KarelLab.Text.Unicode.Digit

/-!
# Options

The options of the command line. An option is given by its name or by any beginning that no other
name has; its value is the next argument or follows the name and an equals sign. What comes after a
double dash is no option.
-/

namespace KarelLab.CommandLine

inductive Topic
  | help | code | world | delay | stepwise | trace | isolated | maxSteps | logLevel
  deriving Repr, DecidableEq, Inhabited

namespace Topic

def names : List (String × Topic) :=
  [("--help", help), ("--code", code), ("--world", world), ("--delay", delay),
    ("--step", stepwise), ("--trace", trace), ("--subprocess", isolated),
    ("--max-steps", maxSteps), ("--log-level", logLevel)]

def helpLetter : Char := 'h'

def takesValue : Topic → Bool
  | help | stepwise | trace | isolated => false
  | _ => true

end Topic

inductive Refusal
  | usage
  | help
  | lostValue
  deriving Repr, DecidableEq, Inhabited

/-- An argument: an option, maybe with its value, or something else. An option that is given by its
letter may have more letters behind it. -/
inductive Argument
  | plain (text : String)
  | separator
  | unknown
  | named (t : Topic) (value : Option String)
  | lettered (letters : List Char)
  deriving Repr, DecidableEq, Inhabited

namespace Argument

/-- Whether a text is a negative number, behind which one line may end. -/
def isNegativeNumber (s : String) : Bool :=
  let cs := s.toList
  let cs := if cs.getLast? = some '\n' then cs.dropLast else cs
  match cs with
  | '-' :: digits =>
    let isDigit (c : Char) : Bool := (Text.Unicode.digitValue? c).isSome
    match digits.dropWhile isDigit with
    | [] => !digits.isEmpty
    | '.' :: decimals => !decimals.isEmpty && decimals.all isDigit
    | _ => false
  | _ => false

def splitValue (cs : List Char) : List Char × Option String :=
  match cs.dropWhile (· ≠ '=') with
  | _ :: value => (cs.takeWhile (· ≠ '='), some (String.ofList value))
  | [] => (cs, none)

/-- The topics whose names begin with a text; only the topic of the text if it is a name. -/
def topicsOf (start : List Char) : List Topic :=
  match Topic.names.find? (·.1.toList = start) with
  | some (_, t) => [t]
  | none => (Topic.names.filter fun n => start.isPrefixOf n.1.toList).map (·.2)

def other (s : String) : Argument :=
  if isNegativeNumber s || s.toList.contains ' ' then .plain s else .unknown

def ofText (s : String) : Except Refusal Argument :=
  match s.toList with
  | ['-', '-'] => .ok .separator
  | '-' :: '-' :: _ =>
    let (start, value) := splitValue s.toList
    match topicsOf start with
    | [t] => .ok (.named t value)
    | [] => .ok (other s)
    | _ => .error .usage
  | '-' :: c :: rest =>
    if c ≠ Topic.helpLetter then .ok (other s)
    else
      match rest with
      | '=' :: d :: letters => .ok (.lettered (d :: letters))
      | letters => .ok (.lettered letters)
  | _ => .ok (.plain s)

def ofTexts : List String → Except Refusal (List Argument)
  | [] => .ok []
  | s :: rest => do
    let a ← ofText s
    if a = .separator then return .separator :: rest.map .plain
    else return a :: (← ofTexts rest)

end Argument

structure Options where
  code : Option String := none
  world : Option String := none
  delay : Int := 0
  stepwise : Bool := false
  trace : Bool := false
  isolated : Bool := false
  maxSteps : Int := Isolation.defaultMaxSteps
  logLevel : Option String := none
  deriving Repr, DecidableEq, Inhabited

namespace Options

def wholeValue (s : String) : Except Refusal Int :=
  match Number.readInt s with
  | .ok n => .ok n
  | .error _ => .error .usage

def setValue (o : Options) (t : Topic) (value : String) : Except Refusal Options :=
  match t with
  | .code => .ok { o with code := some value }
  | .world => .ok { o with world := some value }
  | .logLevel => .ok { o with logLevel := some value }
  | .delay => (wholeValue value).map fun n => { o with delay := n }
  | .maxSteps => (wholeValue value).map fun n => { o with maxSteps := n }
  | _ => .error .usage

def setFlag (o : Options) : Topic → Except Refusal Options
  | .help => .error .help
  | .stepwise => .ok { o with stepwise := true }
  | .trace => .ok { o with trace := true }
  | .isolated => .ok { o with isolated := true }
  | _ => .error .usage

def collect : List Argument → Options → Except Refusal (Options × Bool)
  | [], o => .ok (o, true)
  | .named t value :: rest, o =>
    match t.takesValue, value with
    | true, some "--" => .error .lostValue
    | true, some v => do collect rest (← o.setValue t v)
    | true, none =>
      match rest with
      | .plain v :: rest => do collect rest (← o.setValue t v)
      | _ => .error .usage
    | false, some _ => .error .usage
    | false, none => do collect rest (← o.setFlag t)
  | .lettered letters :: _, _ =>
    .error (if letters.all (· = Topic.helpLetter) then .help else .usage)
  | _ :: rest, o => (collect rest o).map fun (o, _) => (o, false)

def ofArguments (arguments : List String) : Except Refusal Options := do
  let (o, used) ← collect (← Argument.ofTexts arguments) {}
  if used && o.code.isSome then return o else throw .usage

end Options

end KarelLab.CommandLine
