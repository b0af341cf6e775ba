import KarelLab.CommandLine.Options
import KarelLab.Document.Playback
import KarelLab.Json.Printer
import KarelLab.Playback.Script
import KarelLab.Text.Lines

namespace KarelLab.CommandLine

open Playback

inductive FileFault
  | missing
  | directory
  deriving Repr, DecidableEq, Inhabited

inductive Breakdown
  | issues (es : List Document.Issue)
  | player (f : PlayerFault)
  | endOfInput
  | lostValue
  deriving Repr, DecidableEq, Inhabited

def Breakdown.message : Breakdown → String
  | issues es => String.intercalate "\n" (es.map (·.kind.message))
  | player f => f.message
  | endOfInput => "EOF when reading a line"
  | lostValue => "not enough values to unpack (expected 1, got 0)"

structure Result where
  exitCode : Nat
  output : String
  trace : List String
  deriving Repr, Inhabited

inductive Outcome
  | refused (exitCode : Nat)
  | failed (f : FileFault)
  | broken (b : Breakdown)
  | finished (r : Result)
  deriving Repr, Inhabited

def Refusal.outcome : Refusal → Outcome
  | usage => .refused 2
  | help => .refused 0
  | lostValue => .broken .lostValue

def Options.worldFile? (o : Options) : Option String := o.world.filter (· ≠ "")

def worldOf (text : Option String) : Except Breakdown World :=
  match text with
  | some s => (Document.worldFromText (Text.unifyLineEnds s)).mapError .issues
  | none => .ok World.default

/-- The player for a program in a file. Whoever wants a trace listens. -/
def playerOf (o : Options) (world : World) (code : String) (limit : Binary64) :
    Except Breakdown Player := do
  let delay ← (checkedDelay o.delay).mapError .player
  let p := Player.start world (Text.unifyLineEnds code) {} none ⟨o.maxSteps, .seconds limit⟩
    o.isolated delay
  return if o.trace then p.subscribe 0 else p

def traceLine (e : Event) : String :=
  "[" ++ Number.padLeft ' ' 5 (toString e.state.stepCount) ++ "] line " ++
    ((e.state.currentLine.map toString).getD "None") ++ ": " ++ e.robot.position.text ++ " " ++
    e.robot.direction.name ++ " " ++ e.state.status.name ++ "\n"

def advance (o : Options) (p : Player) : Except Breakdown (Player × List String) :=
  let c := ({ triggers := [] } : Script).operate p (if o.stepwise then .step else .run)
  match c.fault with
  | some f => .error (.player f)
  | none => .ok (c.player, c.env.events.toList.map traceLine)

def waiting (o : Options) (p : Player) : Bool := o.stepwise && p.state.status = .paused

def proceed (o : Options) (lines : Nat) (p : Player) (trace : List String) :
    Except Breakdown (Player × List String) := do
  let (q, more) ← advance o p
  if waiting o q then
    match lines with
    | 0 => throw .endOfInput
    | n + 1 => proceed o n q (trace ++ more)
  else return (q, trace ++ more)

def resultOf (p : Player) (trace : List String) : Result where
  exitCode := if p.state.status = .success then 0 else 1
  output := (Json.object [("state", Document.ofState p.state), ("world", Document.ofWorld p.world),
    ("frames", Document.ofFrames p)]).indented 0 ++ "\n"
  trace := trace

def run (arguments : List String) (file : String → Except FileFault String) (lines : Nat)
    (limit : Binary64) : Outcome :=
  match Options.ofArguments arguments with
  | .error r => r.outcome
  | .ok o =>
    match o.worldFile?.mapM file with
    | .error f => .failed f
    | .ok worldText =>
      match worldOf worldText with
      | .error b => .broken b
      | .ok w =>
        -- the world is read and checked before the file with the program is opened
        match file (o.code.getD "") with
        | .error f => .failed f
        | .ok code =>
          match (do proceed o lines (← playerOf o w code limit) []) with
          | .error b => .broken b
          | .ok (p, trace) => .finished (resultOf p trace)

end KarelLab.CommandLine
