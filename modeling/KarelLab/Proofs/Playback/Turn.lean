import KarelLab.Playback.Machine
import KarelLab.Proofs.Playback.Transition

/-!
# What one step can do

A step replaces the frame on top by others and changes the player, or it begins an operation that a
listener answered with, or it ends in a fault. `step_cases` says so once for all; what is promised
of players and stacks is shown from it case by case.
-/

namespace KarelLab.Playback

namespace Player

def loads? (p : Player) : Operation → Option World
  | .loadWorld w => some w
  | .loadTestWorld name => p.suite.bind (·.loadable? name)
  | _ => none

def load (p : Player) (w : World) : Player := ({ p with initial := w }).reset

end Player

/-- What a frame makes of a player, with the frames that take its place. -/
inductive Turn (p : Player) : Frame → Player → List Frame → Prop
  | run : Turn p (.perform .run) p [.start (.loop .run)]
  | play : Turn p (.perform .play) p [.start (.loop .play)]
  | stepRunning {q : Player} (h : p.pause? = some q) :
    Turn p (.perform .step) q [.notify q.listeners, .start .single]
  | step (h : p.pause? = none) : Turn p (.perform .step) p [.start .single]
  | pause {q : Player} (h : p.pause? = some q) : Turn p (.perform .pause) q [.notify q.listeners]
  | noPause (h : p.pause? = none) : Turn p (.perform .pause) p []
  | reset : Turn p (.perform .reset) p.reset [.notify p.listeners]
  | ticks (n : Nat) : Turn p (.perform (.tick n)) p [.tick n]
  | code (text : String) (h : p.state.status = .idle) :
    Turn p (.perform (.loadCode text)) { p with code := text } []
  | recode (text : String) (h : p.state.status ≠ .idle) :
    Turn p (.perform (.loadCode text)) p.reset [.notify p.listeners, .setCode text]
  | load {op : Operation} {w : World} (h : p.loads? op = some w) :
    Turn p (.perform op) (p.load w) [.notify p.listeners]
  | speed {s : Speed} {d : Nat} (h : s.toDelay = .ok d) :
    Turn p (.perform (.setSpeed s)) { p with state := { p.state with delay := d } }
      [.notify p.listeners]
  | budget (n : Int) :
    Turn p (.perform (.setMaxSteps n)) { p with budgets := { p.budgets with maxSteps := n } } []
  | tests (suite : Option Lesson.Suite) : Turn p (.perform (.runTests suite)) p []
  | subscribe (l : Nat) : Turn p (.perform (.subscribe l)) (p.subscribe l) []
  | unsubscribe (l : Nat) : Turn p (.perform .unsubscribe) (p.unsubscribe l) []
  | told : Turn p (.notify []) p []
  | tell (l : Nat) (ls : List Nat) :
    Turn p (.notify (l :: ls)) p [.react (.changed l p.state p.world), .notify ls]
  | heard (n : Notice) : Turn p (.react n) p []
  | again (g : Aim) (h : p.state.status.terminal = true) :
    Turn p (.start g) p.reset [.notify p.listeners, .enter g]
  | start (g : Aim) (h : p.state.status.terminal = false) : Turn p (.start g) p [.enter g]
  | enter {q : Player} (g : Aim) (h : p.enter = (.ok true, q)) :
    Turn p (.enter g) q [.notify q.listeners, .begin g]
  | failEntry {q : Player} (g : Aim) (h : p.enter = (.ok false, q)) :
    Turn p (.enter g) q [.notify q.listeners]
  | beginLoop (s : Source) : Turn p (.begin (.loop s)) p [.loop s p.generation]
  | beginSingle : Turn p (.begin .single) p [.tick 1, .settleStep]
  | loop (s : Source) (h : p.state.status = .running) :
    Turn p (.loop s p.generation) p [.tick 1, .wait s p.generation]
  | leave (s : Source) (g : Nat) (h : ¬ (p.state.status = .running ∧ g = p.generation)) :
    Turn p (.loop s g) p []
  | stop (s : Source) (g : Nat) (h : p.state.status ≠ .running) : Turn p (.wait s g) p []
  | hurry (g : Nat) (h : p.state.status = .running) (hd : p.state.delay = 0) :
    Turn p (.wait .run g) p [.loop .run g]
  | wait (s : Source) (g k : Nat) (h : p.state.status = .running) :
    Turn p (.wait s g) p [.react (.waited k p.state.delay), .loop s g]
  | noTicks : Turn p (.tick 0) p []
  | tick {q : Player} (n : Nat) (h : p.tick? = some q) :
    Turn p (.tick (n + 1)) q [.notify q.listeners, .tick n]
  | noTick (n : Nat) (h : p.tick? = none) : Turn p (.tick (n + 1)) p [.tick n]
  | settle (h : p.state.status = .running) :
    Turn p .settleStep (p.withStatus .paused) [.notify p.listeners]
  | settled (h : p.state.status ≠ .running) : Turn p .settleStep p []
  | setCode (text : String) : Turn p (.setCode text) { p with code := text } []

def Frame.applied? (p : Player) : Frame → Option Tick
  | .tick (_ + 1) => p.next?
  | _ => none

inductive Moves (p : Player) : Frame → Player → Prop
  | keep {f : Frame} (h : f.applied? p = none) : Moves p f p
  | pause {op : Operation} {q : Player} (h : p.pause? = some q) : Moves p (.perform op) q
  | reset : Moves p (.perform .reset) p.reset
  | recode (text : String) (h : p.state.status ≠ .idle) :
    Moves p (.perform (.loadCode text)) p.reset
  | again (g : Aim) (h : p.state.status.terminal = true) : Moves p (.start g) p.reset
  | load {op : Operation} {w : World} (h : p.loads? op = some w) : Moves p (.perform op) (p.load w)
  | speed {s : Speed} {d : Nat} (h : s.toDelay = .ok d) :
    Moves p (.perform (.setSpeed s)) { p with state := { p.state with delay := d } }
  | code (text : String) (h : p.state.status = .idle) :
    Moves p (.perform (.loadCode text)) { p with code := text }
  | setCode (text : String) : Moves p (.setCode text) { p with code := text }
  | budget (n : Int) :
    Moves p (.perform (.setMaxSteps n)) { p with budgets := { p.budgets with maxSteps := n } }
  | subscribe (l : Nat) : Moves p (.perform (.subscribe l)) (p.subscribe l)
  | unsubscribe (l : Nat) : Moves p (.perform .unsubscribe) (p.unsubscribe l)
  | enter (g : Aim) : Moves p (.enter g) p.enter.2
  | tick {q : Player} (n : Nat) (h : p.tick? = some q) : Moves p (.tick (n + 1)) q
  | settle (h : p.state.status = .running) : Moves p .settleStep (p.withStatus .paused)

inductive Stop (p : Player) : Frame → Player → PlayerFault → Prop
  | noWorld (name : String) (h : p.loads? (.loadTestWorld name) = none) :
    Stop p (.perform (.loadTestWorld name)) p (.noTestWorld name)
  | speed {s : Speed} {f : PlayerFault} (h : s.toDelay = .error f) :
    Stop p (.perform (.setSpeed s)) p f
  | tests {suite : Option Lesson.Suite} {f : PlayerFault} (h : p.runTests suite = .error f) :
    Stop p (.perform (.runTests suite)) p f
  | unsubscribe (h : p.handle = none) : Stop p (.perform .unsubscribe) p .noSubscription
  | refuse (f : PlayerFault) : Stop p (.perform (.refuse f)) p f
  | enter {q : Player} {f : PlayerFault} (g : Aim) (h : p.enter = (.error f, q)) :
    Stop p (.enter g) q f

theorem Moves.of_enter {p q : Player} {answer : Except PlayerFault Bool} (g : Aim)
    (h : p.enter = (answer, q)) : Moves p (.enter g) q := by
  have hm : Moves p (.enter g) p.enter.2 := .enter g
  rw [h] at hm
  exact hm

theorem Turn.moves {p q : Player} {f : Frame} {fs : List Frame} (h : Turn p f q fs) :
    Moves p f q := by
  cases h with
  | stepRunning h => exact .pause h
  | pause h => exact .pause h
  | reset => exact .reset
  | code text h => exact .code text h
  | recode text h => exact .recode text h
  | load h => exact .load h
  | speed h => exact .speed h
  | budget n => exact .budget n
  | subscribe l => exact .subscribe l
  | unsubscribe l => exact .unsubscribe l
  | again g h => exact .again g h
  | enter g h => exact .of_enter g h
  | failEntry g h => exact .of_enter g h
  | tick n h => exact .tick n h
  | settle h => exact .settle h
  | setCode text => exact .setCode text
  | noTick n h => exact .keep (Player.next?_of_tick?_eq_none h)
  | _ => exact .keep rfl

theorem Stop.moves {p q : Player} {f : Frame} {fault : PlayerFault} (h : Stop p f q fault) :
    Moves p f q := by
  cases h with
  | enter g h => exact .of_enter g h
  | _ => exact .keep rfl

namespace Config

variable {ε : Type} {e : Environment ε} {c : Config ε} {f : Frame} {rest : List Frame}

theorem unwind_suffix {fault : PlayerFault} {env env' : ε} {stack frames : List Frame}
    (h : unwind e fault env stack = some (env', frames)) : frames <:+ stack := by
  induction stack with
  | nil => cases h
  | cons g rest ih =>
    cases g with
    | react n =>
      rw [unwind] at h
      split at h
      · cases h
        exact List.suffix_refl _
      · exact (ih h).trans (List.suffix_cons _ _)
    | _ => exact (ih h).trans (List.suffix_cons _ _)

@[simp] theorem cut_player (c : Config ε) (fault : PlayerFault) :
    (c.cut e fault).player = c.player := by
  unfold cut
  split <;> rfl

theorem cut_stack (c : Config ε) (fault : PlayerFault) :
    (c.cut e fault).stack <:+ c.stack ∧ ((c.cut e fault).fault = c.fault ∨
      (c.cut e fault).fault = some fault) := by
  unfold cut
  split
  · rename_i h
    exact ⟨unwind_suffix h, .inl rfl⟩
  · exact ⟨List.nil_suffix, .inr rfl⟩

/-- What a step does when a frame is on top: it takes its turn, or an answer is begun before the
notice is told again, or it ends in a fault that cuts off frames of the stack. -/
inductive Stepped (e : Environment ε) (c : Config ε) (f : Frame) (rest : List Frame)
    (c' : Config ε) : Prop
  | turn {fs : List Frame} (h : Turn c.player f c'.player fs)
      (unanswered : ∀ n, f = .react n → e.answer n c.env = none)
      (stack : c'.stack = fs ++ rest) (fault : c'.fault = c.fault)
  | answer {n : Notice} {op : Operation} {env : ε} (frame : f = .react n)
      (answered : e.answer n c.env = some (op, env)) (player : c'.player = c.player)
      (stack : c'.stack = .perform op :: .react n :: rest) (fault : c'.fault = c.fault)
  | stop {fault : PlayerFault} (h : Stop c.player f c'.player fault) (stack : c'.stack <:+ rest)
      (faults : c'.fault = c.fault ∨ c'.fault = some fault)

theorem step_eq (h : c.stack = f :: rest) :
    c.step e = ({ c with stack := rest }).resume e f := by
  rw [step, h]

private theorem Stepped.of_cut {p : Player} {fault : PlayerFault} (h : Stop c.player f p fault) :
    Stepped e c f rest (({ c with player := p, stack := rest }).cut e fault) := by
  obtain ⟨hs, hf⟩ := cut_stack (e := e) { c with player := p, stack := rest } fault
  exact .stop (by rw [cut_player]; exact h) hs hf

private theorem Stepped.of_turn {c' : Config ε} {fs : List Frame}
    (h : Turn c.player f c'.player fs) (hf : ∀ n, f ≠ .react n) (stack : c'.stack = fs ++ rest)
    (fault : c'.fault = c.fault) : Stepped e c f rest c' :=
  .turn h (fun n hn => (hf n hn).elim) stack fault

private theorem begin_stepped (op : Operation) :
    Stepped e c (.perform op) rest (({ c with stack := rest }).begin e op) := by
  have hne (n : Notice) : Frame.perform op ≠ .react n := nofun
  cases op with
  | run => exact .of_turn .run hne rfl rfl
  | play => exact .of_turn .play hne rfl rfl
  | step =>
    rw [begin]
    split
    · rename_i q h
      exact .of_turn (.stepRunning h) hne rfl rfl
    · rename_i h
      exact .of_turn (.step h) hne rfl rfl
  | pause =>
    rw [begin]
    split
    · rename_i q h
      exact .of_turn (.pause h) hne rfl rfl
    · rename_i h
      exact .of_turn (.noPause h) hne rfl rfl
  | reset => exact .of_turn .reset hne rfl rfl
  | tick n => exact .of_turn (.ticks n) hne rfl rfl
  | loadCode text =>
    rw [begin]
    split
    · rename_i h
      exact .of_turn (.code text h) hne rfl rfl
    · rename_i h
      exact .of_turn (.recode text h) hne rfl rfl
  | loadWorld w => exact .of_turn (.load rfl) hne rfl rfl
  | loadTestWorld name =>
    rw [begin]
    split
    · rename_i w h
      exact .of_turn (.load h) hne rfl rfl
    · rename_i h
      exact .of_cut (.noWorld name h)
  | setSpeed s =>
    rw [begin]
    split
    · rename_i d h
      exact .of_turn (.speed h) hne rfl rfl
    · rename_i f h
      exact .of_cut (.speed h)
  | setMaxSteps n => exact .of_turn (.budget n) hne rfl rfl
  | runTests suite =>
    rw [begin]
    split
    · exact .of_turn (.tests suite) hne rfl rfl
    · rename_i f h
      exact .of_cut (.tests h)
  | subscribe l => exact .of_turn (.subscribe l) hne rfl rfl
  | unsubscribe =>
    rw [begin]
    split
    · rename_i l h
      exact .of_turn (.unsubscribe l) hne rfl rfl
    · rename_i h
      exact .of_cut (.unsubscribe h)
  | refuse f => exact .of_cut (.refuse f)

private theorem enter_stepped (g : Aim) :
    Stepped e c (.enter g) rest (({ c with stack := rest }).resume e (.enter g)) := by
  cases h : c.player.enter with
  | mk answer q =>
    have he : ({ c with stack := rest } : Config ε).player.enter = (answer, q) := h
    rw [resume, he]
    cases answer with
    | error fault => exact .of_cut (.enter g h)
    | ok running =>
      cases running with
      | true =>
        have ht : Turn c.player (.enter g) q [.notify q.listeners, .begin g] := .enter g h
        exact .of_turn ht (fun _ => Frame.noConfusion) rfl rfl
      | false =>
        have ht : Turn c.player (.enter g) q [.notify q.listeners] := .failEntry g h
        exact .of_turn ht (fun _ => Frame.noConfusion) rfl rfl

/-- All that a step can do. -/
theorem step_cases (e : Environment ε) (h : c.stack = f :: rest) :
    Stepped e c f rest (c.step e) := by
  rw [step_eq h]
  cases f with
  | perform op => exact begin_stepped op
  | notify ls =>
    cases ls with
    | nil => exact .of_turn .told (fun _ => Frame.noConfusion) rfl rfl
    | cons l ls => exact .of_turn (.tell l ls) (fun _ => Frame.noConfusion) rfl rfl
  -- an answer leaves the notice where it is, and so is no turn of the machine
  | react n =>
    rw [resume]
    split
    · rename_i op env ha
      exact .answer rfl ha rfl rfl rfl
    · rename_i ha
      refine .turn (.heard n) ?_ rfl rfl
      intro m hm
      cases hm
      exact ha
  | start g =>
    rw [resume]
    split
    · rename_i ht
      exact .of_turn (.again g ht) (fun _ => Frame.noConfusion) rfl rfl
    · rename_i ht
      exact .of_turn (.start g (Bool.eq_false_iff.mpr ht)) (fun _ => Frame.noConfusion) rfl rfl
  | enter g => exact enter_stepped g
  | begin g =>
    cases g with
    | loop s => exact .of_turn (.beginLoop s) (fun _ => Frame.noConfusion) rfl rfl
    | single => exact .of_turn .beginSingle (fun _ => Frame.noConfusion) rfl rfl
  | loop s g =>
    rw [resume]
    split
    · rename_i hr
      obtain ⟨hr, rfl⟩ := hr
      exact .of_turn (.loop s hr) (fun _ => Frame.noConfusion) rfl rfl
    · rename_i hr
      exact .of_turn (.leave s g hr) (fun _ => Frame.noConfusion) rfl rfl
  | wait s g =>
    rw [resume]
    split
    · rename_i hr
      exact .of_turn (.stop s g hr) (fun _ => Frame.noConfusion) rfl rfl
    · rename_i hr
      have hr := Decidable.not_not.mp hr
      split
      · rename_i hd
        obtain ⟨rfl, hd⟩ := hd
        exact .of_turn (.hurry g hr hd) (fun _ => Frame.noConfusion) rfl rfl
      · exact .of_turn (.wait s g (c.waits + 1) hr) (fun _ => Frame.noConfusion) rfl rfl
  | tick n =>
    cases n with
    | zero => exact .of_turn .noTicks (fun _ => Frame.noConfusion) rfl rfl
    | succ n =>
      rw [resume]
      split
      · rename_i q ht
        exact .of_turn (.tick n ht) (fun _ => Frame.noConfusion) rfl rfl
      · rename_i ht
        exact .of_turn (.noTick n ht) (fun _ => Frame.noConfusion) rfl rfl
  | settleStep =>
    rw [resume]
    split
    · rename_i hr
      exact .of_turn (.settle hr) (fun _ => Frame.noConfusion) rfl rfl
    · rename_i hr
      exact .of_turn (.settled hr) (fun _ => Frame.noConfusion) rfl rfl
  | setCode text => exact .of_turn (.setCode text) (fun _ => Frame.noConfusion) rfl rfl

theorem step_of_nil (h : c.stack = []) : c.step e = c := by
  rw [step, h]

/-- All that a step can change of the player. -/
theorem step_moves (e : Environment ε) (h : c.stack = f :: rest) :
    Moves c.player f (c.step e).player := by
  cases step_cases e h with
  | turn ht _ _ _ => exact ht.moves
  | answer hf _ hp _ _ =>
    rw [hp, hf]
    exact .keep rfl
  | stop hs _ _ => exact hs.moves

theorem step_enter_player (e : Environment ε) {g : Aim} (h : c.stack = .enter g :: rest) :
    (c.step e).player = c.player.enter.2 := by
  cases step_cases e h with
  | turn ht _ _ _ =>
    generalize (c.step e).player = q at ht
    cases ht with
    | enter g he => rw [he]
    | failEntry g he => rw [he]
  | answer hf _ _ _ _ => cases hf
  | stop hs _ _ =>
    generalize (c.step e).player = q at hs
    cases hs with
    | enter g he => rw [he]

end Config

end KarelLab.Playback
