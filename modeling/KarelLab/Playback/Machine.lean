import KarelLab.Playback.Player

/-!
# Operating a player

Operations take a player from one state to the next and tell its listeners of every change. A
listener may operate the player again while it is told, and so may whoever lets time pass between
two ticks. What is still to be done is therefore kept as a stack of frames, and `step` does the
next small part of it. An environment stands for listeners and for the passing of time: it is told
of every notice and may answer with operations, which are carried out at once. A fault of such an
operation cuts off everything that led to it, up to the first answer whose giver absorbs it.
-/

namespace KarelLab.Playback

inductive Operation
  | run
  | play
  | step
  | pause
  | reset
  | tick (times : Nat)
  | loadCode (code : String)
  | loadWorld (w : World)
  | loadTestWorld (name : String)
  | setSpeed (s : Speed)
  | setMaxSteps (n : Int)
  | runTests (suite : Option Lesson.Suite)
  | subscribe (listener : Nat)
  | unsubscribe
  | refuse (f : PlayerFault)
  deriving Inhabited

/-- Who asks for one tick after the other. A run waits between ticks only if there is a delay, a
play always does. -/
inductive Source
  | run | play
  deriving Repr, DecidableEq, Inhabited

inductive Aim
  | loop (s : Source)
  | single
  deriving Repr, DecidableEq, Inhabited

/-- What an environment is told. Waits are numbered from one within an operation. -/
inductive Notice
  | changed (listener : Nat) (state : State) (world : World)
  | waited (number : Nat) (delay : Nat)
  deriving Inhabited

inductive Frame
  | perform (op : Operation)
  | notify (listeners : List Nat)
  | react (n : Notice)
  | start (g : Aim)
  | enter (g : Aim)
  | begin (g : Aim)
  | loop (s : Source) (generation : Nat)
  | wait (s : Source) (generation : Nat)
  | tick (times : Nat)
  | settleStep
  | setCode (code : String)
  deriving Inhabited

/-- How listeners and the passing of time behave: what they keep of a notice, and which operation
they answer a notice with. They are asked again after each operation until they have none. Whoever
absorbs a fault of what was answered to a notice goes on with that notice. -/
structure Environment (ε : Type) where
  observe : Notice → ε → ε
  answer : Notice → ε → Option (Operation × ε)
  absorb : Notice → PlayerFault → ε → Option ε := fun _ _ _ => none

/-- A player, what is still to be done with it, the number of waits so far, the state of the
environment, and the fault that cut everything off. -/
structure Config (ε : Type) where
  player : Player
  stack : List Frame := []
  waits : Nat := 0
  env : ε
  fault : Option PlayerFault := none
  deriving Inhabited

namespace Config

variable {ε : Type}

def go (c : Config ε) (p : Player) (frames : List Frame) : Config ε :=
  { c with player := p, stack := frames ++ c.stack }

def tell (c : Config ε) (p : Player) (frames : List Frame) : Config ε :=
  c.go p (.notify p.listeners :: frames)

/-- The frames that are left after a fault, with the state of the environment: those from the first
notice on whose receiver absorbs the fault. -/
def unwind (e : Environment ε) (f : PlayerFault) (env : ε) : List Frame → Option (ε × List Frame)
  | [] => none
  | .react n :: rest =>
    match e.absorb n f env with
    | some env => some (env, .react n :: rest)
    | none => unwind e f env rest
  | _ :: rest => unwind e f env rest

def cut (e : Environment ε) (c : Config ε) (f : PlayerFault) : Config ε :=
  match unwind e f c.env c.stack with
  | some (env, frames) => { c with env := env, stack := frames }
  | none => { c with stack := [], fault := some f }

def begin (e : Environment ε) (c : Config ε) : Operation → Config ε
  | .run => c.go c.player [.start (.loop .run)]
  | .play => c.go c.player [.start (.loop .play)]
  | .step =>
    match c.player.pause? with
    | some p => c.tell p [.start .single]
    | none => c.go c.player [.start .single]
  | .pause =>
    match c.player.pause? with
    | some p => c.tell p []
    | none => c
  | .reset => c.tell c.player.reset []
  | .tick times => c.go c.player [.tick times]
  -- the listeners hear of the reset before the new code is in place
  | .loadCode code =>
    if c.player.state.status = .idle then c.go { c.player with code := code } []
    else c.tell c.player.reset [.setCode code]
  | .loadWorld w => c.tell ({ c.player with initial := w }).reset []
  | .loadTestWorld name =>
    match c.player.suite.bind (·.loadable? name) with
    | some w => c.tell ({ c.player with initial := w }).reset []
    | none => c.cut e (.noTestWorld name)
  | .setSpeed s =>
    match s.toDelay with
    | .ok d => c.tell { c.player with state := { c.player.state with delay := d } } []
    | .error f => c.cut e f
  | .setMaxSteps n =>
    c.go { c.player with budgets := { c.player.budgets with maxSteps := n } } []
  -- the report goes to the caller alone; the player stays as it was
  | .runTests suite =>
    match c.player.runTests suite with
    | .ok _ => c
    | .error f => c.cut e f
  | .subscribe listener => c.go (c.player.subscribe listener) []
  | .unsubscribe =>
    match c.player.handle with
    | some listener => c.go (c.player.unsubscribe listener) []
    | none => c.cut e .noSubscription
  | .refuse f => c.cut e f

def give (c : Config ε) (e : Environment ε) (n : Notice) (frames : List Frame) : Config ε :=
  { c with env := e.observe n c.env, stack := .react n :: (frames ++ c.stack) }

def resume (e : Environment ε) (c : Config ε) : Frame → Config ε
  | .perform op => c.begin e op
  | .notify [] => c
  | .notify (l :: rest) => c.give e (.changed l c.player.state c.player.world) [.notify rest]
  -- the notice stays below its answer, so that its receiver may answer again
  | .react n =>
    match e.answer n c.env with
    | some (op, env) => { c with env := env, stack := .perform op :: .react n :: c.stack }
    | none => c
  | .start g =>
    if c.player.state.status.terminal then c.tell c.player.reset [.enter g]
    else c.go c.player [.enter g]
  | .enter g =>
    match c.player.enter with
    | (.ok true, p) => c.tell p [.begin g]
    | (.ok false, p) => c.tell p []
    | (.error f, p) => { c with player := p }.cut e f
  | .begin (.loop s) => c.go c.player [.loop s c.player.generation]
  | .begin .single => c.go c.player [.tick 1, .settleStep]
  -- a loop ends when another operation has begun a newer generation meanwhile
  | .loop s g =>
    if c.player.state.status = .running ∧ g = c.player.generation then
      c.go c.player [.tick 1, .wait s g]
    else c
  -- a run without delay goes on at once; a play waits in any case, if only for no time
  | .wait s g =>
    if c.player.state.status ≠ .running then c
    else if s = .run ∧ c.player.state.delay = 0 then c.go c.player [.loop s g]
    else
      { c with waits := c.waits + 1 }.give e (.waited (c.waits + 1) c.player.state.delay)
        [.loop s g]
  | .tick 0 => c
  | .tick (n + 1) =>
    match c.player.tick? with
    | some p => c.tell p [.tick n]
    | none => c.go c.player [.tick n]
  -- the tick of a step may have ended the program, which is not paused then
  | .settleStep =>
    if c.player.state.status = .running then c.tell (c.player.withStatus .paused) [] else c
  | .setCode code => c.go { c.player with code := code } []

def step (e : Environment ε) (c : Config ε) : Config ε :=
  match c.stack with
  | [] => c
  | f :: rest => { c with stack := rest }.resume e f

def settle (e : Environment ε) : Nat → Config ε → Config ε
  | 0, c => c
  | n + 1, c => if c.stack.isEmpty then c else settle e n (c.step e)

end Config

end KarelLab.Playback
