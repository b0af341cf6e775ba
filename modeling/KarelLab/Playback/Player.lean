import KarelLab.Isolation.Record
import KarelLab.Lesson.Suite
import KarelLab.Playback.State

namespace KarelLab.Playback

open Execution

inductive PlayerFault
  | negativeDelay
  | unknownPreset (name : String)
  | unreadableNumber (f : Document.ConvertFault)
  | noTestWorld (name : String)
  | unknownPrimitive (u : UnknownPrimitive)
  | unknownSensor (name : String)
  | noTests
  | noSubscription
  | issues (es : List Document.Issue)
  deriving Repr, DecidableEq, Inhabited

namespace PlayerFault

def message : PlayerFault → String
  | negativeDelay => "step delay must be non-negative"
  | unknownPreset name => "unknown speed preset " ++ Text.quoted name
  | unreadableNumber f => f.message
  | noTestWorld name => "no loadable test world named " ++ Text.quoted name
  | unknownPrimitive u => u.message
  | unknownSensor name => "unknown sensor " ++ Text.quoted name
  | noTests => "no test worlds configured"
  | noSubscription => "f"
  | issues _ => ""

end PlayerFault

def checkedDelay (ms : Int) : Except PlayerFault Nat :=
  if ms < 0 then .error .negativeDelay else .ok (min ms.toNat maxDelay)

inductive Speed
  | preset (name : String)
  | delay (ms : Int)
  | unreadable (f : Document.ConvertFault)
  deriving Repr, Inhabited

def Speed.toDelay : Speed → Except PlayerFault Nat
  | .preset name =>
    match presets.find? (·.1 = name) with
    | some (_, ms) => checkedDelay ms
    | none => .error (.unknownPreset name)
  | .delay ms => checkedDelay ms
  | .unreadable f => .error (.unreadableNumber f)

/-- A program with the world in which it begins, the world as it is now, the recording that is
played and the number of its ticks that were applied. The generation changes whenever whoever
plays has to stop. A subscription is known by its listener, and the last one is kept as a handle. -/
structure Player where
  initial : World
  world : World
  code : String
  restrictions : Program.Restrictions := {}
  suite : Option Lesson.Suite := none
  budgets : Isolation.Budgets
  isolated : Bool := false
  state : State
  recording : Option Recording := none
  cursor : Nat := 0
  generation : Nat := 0
  listeners : List Nat := []
  handle : Option Nat := none
  deriving Inhabited

namespace Player

def start (world : World) (code : String) (restrictions : Program.Restrictions)
    (suite : Option Lesson.Suite) (budgets : Isolation.Budgets) (isolated : Bool) (delay : Nat) :
    Player where
  initial := world
  world := world
  code := code
  restrictions := restrictions
  suite := suite
  budgets := budgets
  isolated := isolated
  state := .fresh delay

def subscribe (p : Player) (listener : Nat) : Player :=
  { p with listeners := p.listeners ++ [listener], handle := some listener }

def unsubscribe (p : Player) (listener : Nat) : Player :=
  { p with listeners := p.listeners.erase listener }

def history (p : Player) : List Tick :=
  match p.recording with
  | some r => (r.ticks.take p.cursor).toList
  | none => []

def reset (p : Player) : Player :=
  { p with
    generation := p.generation + 1
    recording := none
    cursor := 0
    world := p.initial
    state := .fresh p.state.delay }

def fail (p : Player) (r : Report) : Player := { p with state := p.state.fail r }

def withStatus (p : Player) (s : Status) : Player :=
  { p with state := { p.state with status := s } }

def record (p : Player) : Except UnknownPrimitive Recording :=
  if p.isolated then
    .ok (Isolation.recordIsolated p.code p.initial p.restrictions p.budgets
      Isolation.defaultTimeout)
  else
    Execution.record p.code
      ⟨p.initial, p.restrictions.commands, p.budgets.maxSteps, p.budgets.limit⟩

/-- Begins to run or goes on with it: whether the player is running now. A program that is at its
beginning is reviewed and recorded first. -/
def enter (p : Player) : Except PlayerFault Bool × Player :=
  let p := { p with generation := p.generation + 1 }
  if p.state.status = .idle then
    match Program.review p.restrictions p.code with
    | .error e => (.ok false, p.fail e.report)
    | .ok _ =>
      match p.record with
      | .error u => (.error (.unknownPrimitive u), p)
      | .ok r =>
        let p := { p with recording := some r, cursor := 0 }
        -- an error before the first tick leaves nothing to play
        match r.ticks.isEmpty, r.error with
        | true, some e => (.ok false, p.fail e)
        | _, _ => (.ok true, p.withStatus .running)
  else (.ok true, p.withStatus .running)

def finish (p : Player) : Player :=
  match p.recording.bind (·.error) with
  | some e => p.fail e
  | none => p.withStatus .success

/-- Applies a tick, with its line and the count of steps in any case. -/
def applyTick (p : Player) (t : Tick) : Player :=
  let p := { p with
    cursor := p.cursor + 1
    state := { p.state with currentLine := t.line, stepCount := p.state.stepCount + 1 } }
  match t.outcome with
  | .failed r => p.fail r
  | .acted after => { p with world := after }
  | .sensed _ => p

/-- The player after its next tick; nothing happens unless it is running. The last tick ends the
run, and so does a tick that fails. -/
def tick? (p : Player) : Option Player :=
  if p.state.status ≠ .running then none
  else
    match p.recording with
    | none => none
    | some r =>
      match r.ticks[p.cursor]? with
      | none => some p.finish
      | some t =>
        let q := p.applyTick t
        -- a tick that fails has ended the run already
        if t.report?.isNone && r.ticks.size ≤ q.cursor then some q.finish else some q

def pause? (p : Player) : Option Player :=
  if p.state.status = .running then
    some { p.withStatus .paused with generation := p.generation + 1 }
  else none

def tickAll (p : Player) : Nat → Player
  | 0 => p
  | n + 1 =>
    match p.tick? with
    | some q => q.tickAll n
    | none => p

def runAlone (p : Player) : Except PlayerFault Player :=
  match p.enter with
  | (.error f, _) => .error f
  -- a recording without ticks still has its end to play
  | (.ok _, q) => .ok (q.tickAll (((q.recording.map (·.ticks.size)).getD 0) + 1))

def onWorld (p : Player) (w : World) : Player :=
  start w p.code p.restrictions none p.budgets p.isolated 0

end Player

structure TestResult where
  name : String
  passed : Bool
  message : String
  status : Status
  errorLine : Option Nat := none
  stepCount : Nat
  world : World
  deriving Repr, DecidableEq, Inhabited

abbrev TestReport := List TestResult

namespace TestReport

def passed (r : TestReport) : Bool := r.all (·.passed)

def summary (r : TestReport) : String :=
  toString (r.countP (·.passed)) ++ "/" ++ toString r.length ++ " tests passed"

end TestReport

namespace Player

def runTest (p : Player) (predicate : Lesson.Predicate) (name : String) (w : World) :
    Except PlayerFault TestResult := do
  let q ← (p.onWorld w).runAlone
  if q.state.status = .error then
    let message := q.state.error.getD ""
    return {
      name := name
      passed := false
      message := if message = "" then "Program failed." else message
      status := q.state.status
      errorLine := q.state.errorLine
      stepCount := q.state.stepCount
      world := q.world }
  else
    let verdict ← (predicate.check q.world).mapError .unknownSensor
    return {
      name := name
      passed := verdict.passed
      message := verdict.message
      status := q.state.status
      stepCount := q.state.stepCount
      world := q.world }

def runTests (p : Player) (suite : Option Lesson.Suite) : Except PlayerFault TestReport :=
  match suite.or p.suite with
  | none => .error .noTests
  | some s =>
    if s.worlds.isEmpty then .error .noTests
    else s.worlds.mapM fun (name, w) => p.runTest s.predicate name w

end Player

end KarelLab.Playback
