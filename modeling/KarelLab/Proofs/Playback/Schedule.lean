import KarelLab.Proofs.Execution.Record
import KarelLab.Proofs.Playback.Coherence
import KarelLab.Proofs.Playback.Settling
import KarelLab.Proofs.Playback.Worlds

/-!
# Every schedule plays the same recording

A player of an accepted program is run, played, stepped, ticked and paused in any order, and whoever
is told that it is running may pause it, step it or change its speed once more. All of them apply
the ticks of the one recording of the program, and whichever comes to its end, it is the same end.
-/

namespace KarelLab.Playback

def Operation.Plays : Operation → Prop
  | .run | .play | .step | .pause | .tick _ | .setSpeed _ | .subscribe _ => True
  | _ => False

def Operation.Interrupts : Operation → Prop
  | .pause | .step | .setSpeed _ => True
  | _ => False

def Notice.underway : Notice → Bool
  | .changed _ s _ => s.status = .running
  | .waited _ _ => true

/-- A course that only plays, in which a notice is answered only while the player is running. -/
structure Schedule {ε : Type} (e : Environment ε) (p : Player) (c : Nat → Config ε) : Prop extends
    Course e Operation.Plays p c where
  interrupts : ∀ i n rest op env, (c i).stack = .react n :: rest →
    e.answer n (c i).env = some (op, env) → n.underway = true ∧ op.Interrupts

/-- How far the entry of a run is: no entry is left to be done, or it comes next and the player has
not ended a run, or listeners are still told that the player is idle. -/
inductive Poised (p : Player) : List Frame → Prop
  | apart {stack : List Frame} (h : ∀ f ∈ stack, f.enters = false) : Poised p stack
  | ready {g : Aim} {rest : List Frame} (h : ∀ f ∈ rest, f.enters = false)
      (hs : p.state.status.terminal = false) : Poised p (.enter g :: rest)
  | telling {ls : List Nat} {g : Aim} {rest : List Frame} (h : ∀ f ∈ rest, f.enters = false)
      (hs : p.state.status = .idle) : Poised p (.notify ls :: .enter g :: rest)
  | told {l : Nat} {s : State} {w : World} {ls : List Nat} {g : Aim} {rest : List Frame}
      (h : ∀ f ∈ rest, f.enters = false) (hs : p.state.status = .idle) (hn : s.status = .idle) :
      Poised p (.react (.changed l s w) :: .notify ls :: .enter g :: rest)

variable {p q : Player} {f : Frame} {fs rest stack : List Frame} {w : World} {R : Recording}

theorem Poised.of_append (hfs : ∀ g ∈ fs, g.enters = false) (hrest : ∀ g ∈ rest, g.enters = false) :
    Poised p (fs ++ rest) := by
  refine .apart ?_
  intro g hg
  rcases List.mem_append.mp hg with hg | hg
  · exact hfs g hg
  · exact hrest g hg

theorem Poised.turn (h : Poised p (f :: rest)) (ht : Turn p f q fs) : Poised q (fs ++ rest) := by
  cases h with
  | apart h =>
    have hrest : ∀ f ∈ rest, f.enters = false := fun g hg => h g (List.mem_cons_of_mem f hg)
    cases ht with
    | again g _ => exact .telling hrest rfl
    | start g hs => exact .ready hrest hs
    | _ => exact .of_append (by simp [Frame.enters]) hrest
  | ready h hs =>
    cases ht with
    | enter _ _ => exact .of_append (by simp [Frame.enters]) h
    | failEntry _ _ => exact .of_append (by simp [Frame.enters]) h
  | telling h hs =>
    cases ht with
    | told => exact .ready h (by rw [hs]; rfl)
    | tell l ls => exact .told h hs hs
  | told h hs hn =>
    cases ht with
    | heard _ => exact .telling h hs

/-- An answer comes before an entry only where none is near. -/
theorem Poised.answer {n : Notice} {op : Operation} (h : Poised p (.react n :: rest))
    (hn : n.underway = true) : Poised p (.perform op :: .react n :: rest) := by
  cases h with
  | apart h =>
    refine .apart ?_
    intro g hg
    rcases List.mem_cons.mp hg with rfl | hg
    · rfl
    · exact h g hg
  | told h hs hn' =>
    simp [Notice.underway, hn'] at hn

theorem Poised.stop {fault : PlayerFault} (h : Poised p (f :: rest)) (hs : Stop p f q fault)
    (hstack : stack <:+ rest) : Poised q stack := by
  -- an entry that was to come next is the one that is refused
  have hrest : ∀ g ∈ rest, g.enters = false := by
    cases h with
    | apart h => exact fun g hg => h g (List.mem_cons_of_mem f hg)
    | ready h _ => exact h
    | telling _ _ => cases hs
    | told _ _ _ => cases hs
  exact .apart fun g hg => hrest g (hstack.subset hg)

theorem Poised.not_overtaken {ε : Type} {c : Config ε} (h : Poised c.player c.stack) :
    ¬ c.Overtaken := by
  intro ho
  obtain ⟨g, rest, hs⟩ := ho.stack
  rw [hs] at h
  cases h with
  | apart h =>
    have hg := h (.enter g) List.mem_cons_self
    cases hg
  | ready _ hs =>
    rcases ho.2 with he | ⟨he, -⟩ <;> simp [he, Status.terminal] at hs

namespace Player

/-- What a player of a schedule keeps: the program is accepted, it is recorded as the one recording,
and this recording is played once a run has been entered. -/
structure Performs (p : Player) (w : World) (R : Recording) : Prop where
  initial : p.initial = w
  accepted : ∃ tree, Program.review p.restrictions p.code = .ok tree
  record : p.record = .ok R
  recorded : p.state.status ≠ .idle → p.recording = some R

theorem Performs.enter (h : p.Performs w R) : p.enter.2.Performs w R := by
  have he := p.entered
  generalize p.enter = a at he ⊢
  cases he with
  | resumed hi => exact { h with recorded := fun _ => h.recorded hi }
  | rejected hi hv =>
    obtain ⟨tree, ha⟩ := h.accepted
    rw [hv] at ha
    cases ha
  | unknown hi hr =>
    have hr' := hr.symm.trans h.record
    cases hr'
  | stillborn hi hr _ _ =>
    cases hr.symm.trans h.record
    exact { h with recorded := fun _ => rfl }
  | recorded hi hr _ =>
    cases hr.symm.trans h.record
    exact { h with recorded := fun _ => rfl }

theorem Performs.history_prefix (h : p.Performs w R) (hb : p.Booked) :
    p.history <+: R.ticks.toList := by
  by_cases hi : p.state.status = .idle
  · rw [history_of_none (hb.idle hi).1]
    exact List.nil_prefix
  · rw [history_of_some (h.recorded hi)]
    exact List.take_prefix _ _

/-- Every change of a player in a schedule keeps its program and its recording. -/
theorem Performs.moves (h : p.Performs w R) (hf : f.Of Operation.Plays) (hm : Moves p f q) :
    q.Performs w R := by
  cases hm with
  | keep _ => exact h
  | pause hp =>
    obtain ⟨hs, rfl⟩ := pause?_eq_some hp
    exact { h with recorded := fun _ => h.recorded (by simp [hs]) }
  | reset => exact hf.elim
  | recode _ _ => exact hf.elim
  | again _ _ => exact { h with recorded := fun hs => (hs rfl).elim }
  | @load op _ hl => cases op <;> first | exact hf.elim | cases hl
  | speed _ => exact { h with }
  | code _ _ => exact hf.elim
  | setCode _ => exact hf.elim
  | budget _ => exact hf.elim
  | subscribe _ => exact { h with }
  | unsubscribe _ => exact hf.elim
  | enter _ => exact h.enter
  | tick _ ht =>
    have hs : p.state.status ≠ .idle := by simp [(tick?_eq_some ht).1]
    rw [tick?_frame ht]
    exact { h with recorded := fun _ => h.recorded hs }
  | settle hs => exact { h with recorded := fun _ => h.recorded (by simp [hs]) }

/-- In a schedule only a change of speed is refused. -/
theorem Performs.stop {fault : PlayerFault} (h : p.Performs w R) (hf : f.Of Operation.Plays)
    (hs : Stop p f q fault) : ∃ s : Speed, s.toDelay = .error fault := by
  cases hs with
  | speed hd => exact ⟨_, hd⟩
  | enter g he =>
    have hentered := p.entered
    rw [he] at hentered
    cases hentered with
    | unknown _ hr => cases hr.symm.trans h.record
  | noWorld _ _ => exact hf.elim
  | tests _ => exact hf.elim
  | unsubscribe _ => exact hf.elim
  | refuse _ => exact hf.elim

/-- A recording is dropped only when a run begins again after its end. -/
theorem dropped_moves (hf : f.Of Operation.Plays) (hm : Moves p f q) (hp : p.recording ≠ none)
    (hq : q.recording = none) : p.state.status.terminal = true := by
  cases hm with
  | keep _ => exact (hp hq).elim
  | pause h =>
    obtain ⟨-, rfl⟩ := pause?_eq_some h
    exact (hp hq).elim
  | reset => exact hf.elim
  | recode _ _ => exact hf.elim
  | again _ hs => exact hs
  | @load op _ hl => cases op <;> first | exact hf.elim | cases hl
  | speed _ => exact (hp hq).elim
  | code _ _ => exact hf.elim
  | setCode _ => exact hf.elim
  | budget _ => exact hf.elim
  | subscribe _ => exact (hp hq).elim
  | unsubscribe _ => exact hf.elim
  | enter _ =>
    have he := p.entered
    generalize p.enter = a at he hq
    cases he with
    | resumed _ => exact (hp hq).elim
    | rejected _ _ => exact (hp hq).elim
    | unknown _ _ => exact (hp hq).elim
    | stillborn _ _ _ _ => cases hq
    | recorded _ _ _ => cases hq
  | tick _ ht =>
    rw [tick?_frame ht] at hq
    exact (hp hq).elim
  | settle _ => exact (hp hq).elim

structure EndsAs (p : Player) (w : World) (R : Recording) : Prop where
  status : p.state.status = if R.failed then .error else .success
  error : p.state.error = R.report?.map (·.message)
  errorCode : p.state.errorCode = R.report?.map (·.code)
  errorLine : p.state.errorLine = R.report?.bind (·.line)
  steps : p.state.stepCount = R.ticks.size
  line : p.state.currentLine = R.ticks.toList.getLast?.bind Tick.line
  world : p.world = w.shown R.ticks.toList
  acted : w.actAll (R.ticks.toList.filterMap Tick.action?) = .ok p.world

/-- A player that has applied all ticks tells the steps, the line and the world of the end. -/
theorem endsAs_of_cursor (hp : p.Performs w R) (hb : p.Booked) (hg : p.Grounded)
    (hr : p.recording = some R) (hc : p.cursor = R.ticks.size)
    (status : p.state.status = if R.failed then .error else .success)
    (error : p.state.error = R.report?.map (·.message))
    (errorCode : p.state.errorCode = R.report?.map (·.code))
    (errorLine : p.state.errorLine = R.report?.bind (·.line)) : p.EndsAs w R := by
  have hall : p.history = R.ticks.toList := by
    rw [history_of_some hr]
    exact List.take_of_length_le (by simp [hc])
  have ht := hg.traces
  have hw := hg.world
  rw [hall, hp.initial] at ht hw
  exact {
    status := status
    error := error
    errorCode := errorCode
    errorLine := errorLine
    steps := by rw [hb.steps, hc]
    line := by rw [hb.line, hall]
    world := by rw [hw, ht.replay_eq_shown]
    acted := by rw [hw, ht.actAll] }

/-- A player that has come to an end has come to the one of the recording. -/
theorem Performs.endsAs (hp : p.Performs w R) (hb : p.Booked) (ho : p.Orderly) (hg : p.Grounded)
    (hs : p.state.status.terminal = true) : p.EndsAs w R := by
  have hi : p.state.status ≠ .idle := by
    intro hi
    rw [hi] at hs
    cases hs
  have hr := hp.recorded hi
  have hsound : R.Sound w := hp.initial ▸ hg.sound R hr
  have hle := hb.within R hr
  cases hstatus : p.state.status with
  | idle => exact (hi hstatus).elim
  | running => simp [hstatus, Status.terminal] at hs
  | paused => simp [hstatus, Status.terminal] at hs
  | success =>
    obtain ⟨r, hr', hl, he⟩ := ho.success hstatus
    cases hr.symm.trans hr'
    obtain ⟨r, hr', hf⟩ := ho.coherent.success hstatus
    cases hr.symm.trans hr'
    have hnone : R.report? = none := by
      rw [Recording.failed_eq_report?] at hf
      simpa using hf
    obtain ⟨h1, h2, h3⟩ := ho.clear (by simp [hstatus])
    refine endsAs_of_cursor hp hb hg hr (Nat.le_antisymm hle hl) ?_ ?_ ?_ ?_
    · rw [hstatus, hf]
      rfl
    · rw [h1, hnone]
      rfl
    · rw [h2, hnone]
      rfl
    · rw [h3, hnone]
      rfl
  | error =>
    obtain ⟨e, h1, h2, h3, hblames⟩ := ho.failure hstatus
    -- a tick that failed is the last of the recording, so there too all ticks were applied
    have hend : p.cursor = R.ticks.size ∧ R.report? = some e := by
      rcases hblames R hr with ⟨t, hlast, he⟩ | ⟨hl, he⟩
      · rw [history_of_some hr, List.getLast?_take] at hlast
        split at hlast
        · cases hlast
        · rename_i hpos
          have hlt : p.cursor - 1 < R.ticks.toList.length := by
            rw [Array.length_toList]
            omega
          rw [List.getElem?_eq_getElem hlt, Option.some_or, ← List.getElem?_eq_getElem hlt] at hlast
          obtain ⟨hc, hreport⟩ := hsound.report?_of_tick hlast he
          exact ⟨by omega, hreport⟩
      · exact ⟨Nat.le_antisymm hle hl, hsound.report?_of_error he⟩
    obtain ⟨hc, hreport⟩ := hend
    refine endsAs_of_cursor hp hb hg hr hc ?_ ?_ ?_ ?_
    · rw [hstatus, Recording.failed_eq_report?, hreport]
      rfl
    · rw [h1, hreport]
      rfl
    · rw [h2, hreport]
      rfl
    · rw [h3, hreport]
      rfl

end Player

variable {ε : Type} {e : Environment ε}

structure Config.Performs (c : Config ε) (w : World) (R : Recording) : Prop where
  performs : c.player.Performs w R
  booked : c.player.Booked
  orderly : c.player.Orderly
  grounded : c.player.Grounded
  poised : Poised c.player c.stack
  fault : ∀ f, c.fault = some f → ∃ s : Speed, s.toDelay = .error f

theorem Config.Performs.step {c : Config ε} (h : c.Performs w R) (hsound : R.Sound w)
    (hf : ∀ f ∈ c.stack, f.Of Operation.Plays)
    (hn : ∀ n rest op env, c.stack = .react n :: rest → e.answer n c.env = some (op, env) →
      n.underway = true) : (c.step e).Performs w R := by
  cases hs : c.stack with
  | nil =>
    rw [step_of_nil hs]
    exact h
  | cons f rest =>
    have hf : f.Of Operation.Plays := hf f (by rw [hs]; exact List.mem_cons_self)
    have hpoised := hs ▸ h.poised
    have hm := step_moves e hs
    have hrec : ∀ r, c.player.record = .ok r → r.Sound c.player.initial := by
      intro r hr
      cases hr.symm.trans h.performs.record
      exact h.performs.initial.symm ▸ hsound
    -- a schedule lets nobody run the program before an entry is done
    have hentry : ∀ g, f = .enter g → ¬ c.player.Overtaken := by
      rintro g rfl ho
      exact h.poised.not_overtaken ⟨by rw [hs]; rfl, ho⟩
    refine ⟨h.performs.moves hf hm, h.booked.moves hm, h.orderly.moves h.booked hm hentry,
      h.grounded.moves h.booked hrec hm, ?_, ?_⟩
    · cases step_cases e hs with
      | turn ht _ hst _ =>
        rw [hst]
        exact hpoised.turn ht
      | answer hr ha hp hst _ =>
        subst hr
        rw [hst, hp]
        exact hpoised.answer (hn _ _ _ _ hs ha)
      | stop hp hst _ => exact hpoised.stop hp hst
    · intro fault hfault
      cases step_cases e hs with
      | turn _ _ _ hc => exact h.fault fault (hc ▸ hfault)
      | answer _ _ _ _ hc => exact h.fault fault (hc ▸ hfault)
      | stop hp _ hc =>
        rcases hc with hc | hc
        · exact h.fault fault (hc ▸ hfault)
        · cases hc.symm.trans hfault
          exact h.performs.stop hf hp

namespace Schedule

variable {c : Nat → Config ε}

theorem performs (h : Schedule e p c) (h0 : p.Performs w R) (hb : p.Booked) (ho : p.Orderly)
    (hg : p.Grounded) (hsound : R.Sound w) (i : Nat) : (c i).Performs w R := by
  induction i with
  | zero =>
    refine ⟨h.player ▸ h0, h.player ▸ hb, h.player ▸ ho, h.player ▸ hg, ?_, ?_⟩
    · rw [h.stack]
      exact .apart (by simp)
    · rw [h.fault]
      intro f hf
      cases hf
  | succ i ih =>
    have hstep := ih.step hsound (h.stack_of i) fun n rest op env hs ha =>
      (h.interrupts i n rest op env hs ha).1
    have hn := h.next i
    generalize c (i + 1) = d at hn ⊢
    cases hn with
    | step => exact hstep
    | call env _ _ =>
      refine ⟨ih.performs, ih.booked, ih.orderly, ih.grounded, .apart (by simp [Frame.enters]), ?_⟩
      intro f hf
      cases hf

theorem of_operated (e : Environment ε) (p : Player) (env : ε) {calls : List (Operation × ε)}
    (hcalls : ∀ call ∈ calls, call.1.Plays)
    (he : ∀ n env op env', e.answer n env = some (op, env') → n.underway = true ∧ op.Interrupts) :
    Schedule e p (operated e { player := p, env := env } calls) where
  toCourse := by
    refine .of_operated e p env hcalls ?_
    intro n env op env' ha
    have hi := (he n env op env' ha).2
    cases op <;> trivial
  interrupts i n rest op env' _ ha := he n _ op env' ha

/-- All schedules of an accepted program play the ticks of one recording, in order and each of them
once until an end is reached. The end is the one of the recording whatever the schedule. Only a
change of speed can be refused, and every operation comes to an end unless it is answered again and
again. -/
theorem plays_one_recording {w : World} {code : String} {restrictions : Program.Restrictions}
    {suite : Option Lesson.Suite} {budgets : Isolation.Budgets} {ms : Int} {d : Nat}
    (hd : checkedDelay ms = .ok d)
    (hnames : ∀ names, restrictions.commands = some names → ∀ n ∈ names, n ∈ Primitive.names)
    (hcode : ∃ tree, Program.review restrictions code = .ok tree) :
    ∃ R, Execution.record code
        ⟨w, restrictions.commands, budgets.maxSteps, budgets.limit⟩ = .ok R ∧
      ∀ (ε : Type) (e : Environment ε) (c : Nat → Config ε),
        Schedule e (.start w code restrictions suite budgets false d) c →
        (∀ i, appliedTicks c i = (c i).player.history ∧ appliedTicks c i <+: R.ticks.toList ∧
          ((c i).player.recording ≠ none → (c (i + 1)).player.recording = none →
            (c i).player.state.status.terminal = true) ∧
          ((c i).player.state.status.terminal = true → (c i).player.EndsAs w R) ∧
          ∀ f, (c i).fault = some f → ∃ s : Speed, s.toDelay = .error f) ∧
        ∀ n, (∀ i, n ≤ i → (c i).answer? e = none) → ∀ i, ∃ j, i ≤ j ∧ (c j).stack = [] := by
  obtain ⟨R, hR⟩ := Execution.record_isOk code
    ⟨w, restrictions.commands, budgets.maxSteps, budgets.limit⟩ hnames
  refine ⟨R, hR, ?_⟩
  intro ε e c h
  have hb := Player.booked_start w code restrictions suite budgets false (checkedDelay_le hd)
  have h0 : (Player.start w code restrictions suite budgets false d).Performs w R :=
    ⟨rfl, hcode, hR, fun hs => (hs rfl).elim⟩
  have hall := h.performs h0 hb (Player.orderly_of_fresh rfl rfl) ⟨nofun, rfl⟩
    (Execution.record_sound hR)
  have happlied (i : Nat) : appliedTicks c i = (c i).player.history :=
    appliedTicks_eq_history h.leads (h.player.symm ▸ hb) (by rw [h.player]; rfl) i
  refine ⟨?_, ?_⟩
  · intro i
    obtain ⟨hp, hb, ho, hg, -, hf⟩ := hall i
    refine ⟨happlied i, ?_, ?_, hp.endsAs hb ho hg, hf⟩
    · rw [happlied i]
      exact hp.history_prefix hb
    · intro hsome hnone
      -- the recording is there in one configuration and gone in the next: a step has dropped it
      rcases h.leads i with ⟨hsame, -⟩ | ⟨f, rest, hs, hm⟩
      · rw [hsame] at hnone
        exact (hsome hnone).elim
      · have hof : f.Of Operation.Plays := h.stack_of i f (by rw [hs]; exact List.mem_cons_self)
        exact Player.dropped_moves hof hm hsome hnone
  · intro n ha i
    have hrecorded (j : Nat) (hs : (c j).player.state.status = .running) :
        (c j).player.recording ≠ none := by
      rw [(hall j).performs.recorded (by simp [hs])]
      exact nofun
    -- the ticks that are left bound how often the stack can still grow
    obtain ⟨j, hj, hs⟩ := h.settles hrecorded ha (max n i) (Nat.le_max_left n i)
    exact ⟨j, Nat.le_trans (Nat.le_max_right n i) hj, hs⟩

/-- A play that a listener pauses when it begins, a step and a run: the second statement of the
program fails, and the player ends as its recording does. -/
theorem plays_one_recording_paused_play :
    let p := Player.start .default "move()\nput_beeper()" {} none
      ⟨10, .seconds Isolation.defaultLimit⟩ false 300
    let c := operated (.once Notice.underway .pause) { player := p, env := false }
      [(.subscribe 0, false), (.play, true), (.step, false), (.run, false)]
    ∃ R, Execution.record "move()\nput_beeper()"
        ⟨.default, none, 10, .seconds Isolation.defaultLimit⟩ = .ok R ∧
      (c 50).player.EndsAs .default R ∧ (c 50).player.state.status = .error ∧
      (c 50).player.state.stepCount = 2 := by
  intro p c
  have hd : checkedDelay 300 = .ok 300 := rfl
  have hnames : ∀ names, ({} : Program.Restrictions).commands = some names →
      ∀ n ∈ names, n ∈ Primitive.names := by
    intro names hn
    cases hn
  have hcode : ∃ tree, Program.review {} "move()\nput_beeper()" = .ok tree := by
    have hok : (Program.review {} "move()\nput_beeper()").isOk = true := by decide +kernel
    generalize Program.review {} "move()\nput_beeper()" = r at hok ⊢
    cases r with
    | ok tree => exact ⟨tree, rfl⟩
    | error v => cases hok
  have h : Schedule (.once Notice.underway .pause) p c := by
    refine .of_operated _ _ _ (by simp [Operation.Plays]) ?_
    intro n waiting op left ha
    obtain ⟨hn, rfl⟩ := Environment.answer_once ha
    exact ⟨hn, trivial⟩
  have heval : (c 50).player.state.status = .error ∧ (c 50).player.state.stepCount = 2 := by
    decide +kernel
  obtain ⟨R, hR, hall⟩ := @plays_one_recording .default _ {} none
    ⟨10, .seconds Isolation.defaultLimit⟩ 300 300 hd hnames hcode
  obtain ⟨-, -, -, hend, -⟩ := (hall Bool _ c h).1 50
  refine ⟨R, hR, hend ?_, heval⟩
  rw [heval.1]
  rfl

end Schedule

end KarelLab.Playback
