import KarelLab.Proofs.Playback.Quiet

namespace KarelLab

open Program

theorem Program.Objection.message_ne_empty (o : Objection) : o.message ≠ "" := by
  cases o with
  | construct family => cases family <;> simp [message, Family.message]
  | _ => simp [message]

/-- A review never rejects a program without a word. -/
theorem Program.Rejection.message_ne_empty (f : Rejection) : f.report.message ≠ "" := by
  cases f with
  | unreadable e => simp [report, SyntaxError.report]
  | violation v => exact v.objection.message_ne_empty

namespace Playback

def refusedResult (f : Rejection) (name : String) (w : World) : TestResult where
  name := name
  passed := false
  message := f.report.message
  status := .error
  errorLine := f.report.line
  stepCount := 0
  world := w

namespace Player

variable {p : Player} {f : Rejection}

structure Refused (p : Player) (f : Rejection) : Prop where
  status : p.state.status = .error
  error : p.state.error = some f.report.message
  errorCode : p.state.errorCode = some f.report.code
  errorLine : p.state.errorLine = f.report.line
  steps : p.state.stepCount = 0
  history : p.history = []
  world : p.world = p.initial

theorem Booked.refused (h : p.Booked) (hi : p.state.status = .idle) (f : Rejection) (n : Nat) :
    ({ p with generation := n }.fail f.report).Refused f := by
  obtain ⟨hn, -, hw⟩ := h.idle hi
  refine ⟨rfl, rfl, rfl, rfl, ?_, history_of_none hn, hw⟩
  exact h.steps.trans (h.unrecorded hn)

theorem runAlone_of_rejected (hi : p.state.status = .idle) (hn : p.recording = none)
    (hreview : Program.review p.restrictions p.code = .error f) :
    p.runAlone = .ok ({ p with generation := p.generation + 1 }.fail f.report) := by
  rw [runAlone, enter_of_rejected hi hreview]
  simp [fail, hn, tickAll, tick?, State.fail]

theorem runTest_of_rejected (hreview : Program.review p.restrictions p.code = .error f)
    (predicate : Lesson.Predicate) (name : String) (w : World) :
    p.runTest predicate name w = .ok (refusedResult f name w) := by
  have halone := runAlone_of_rejected (p := p.onWorld w) rfl rfl hreview
  have hmessage : (if f.report.message = "" then "Program failed." else f.report.message) =
      f.report.message := if_neg f.message_ne_empty
  rw [runTest, halone, refusedResult, ← hmessage]
  rfl

/-- Every test of a rejected program ends with the report of the review. -/
theorem runTests_of_rejected (hreview : Program.review p.restrictions p.code = .error f)
    {suite : Option Lesson.Suite} {s : Lesson.Suite} (hs : suite.or p.suite = some s)
    (hw : s.worlds ≠ []) :
    p.runTests suite = .ok (s.worlds.map fun x => refusedResult f x.1 x.2) := by
  rw [runTests, hs]
  dsimp only
  rw [if_neg (by simpa using hw)]
  simp only [runTest_of_rejected hreview]
  exact List.mapM_pure

end Player

namespace Config

variable {ε : Type} {e : Environment ε}

/-- An operation that begins a run comes to the entry of one, on a player at its beginning. -/
theorem within_enter {p : Player} (he : e.Quiet) (hb : p.Booked)
    (hs : p.state.status = .idle ∨ p.state.status.terminal = true) {op : Operation} (hop : op.Begins)
    (env : ε) :
    ∃ n q env', Within e n ⟨p, [.perform op], 0, env, none⟩ ⟨q, [.enter op.aim], 0, env', none⟩ ∧
      q.Booked ∧ q.state.status = .idle ∧ q.code = p.code ∧ q.restrictions = p.restrictions ∧
      q.initial = p.initial := by
  -- a run that has ended is left first, and the listeners are told of it
  rcases hs with hi | ht
  · have hentry := within_entry (e := e) (p := p) (by simp [hi]) (by simp [hi, Status.terminal]) op hop
      env
    exact ⟨2, p, env, hentry, hb, hi, rfl, rfl, rfl⟩
  · have hs : p.state.status ≠ .running := Status.ne_running_of_terminal ht
    have hstart : step e ⟨p, [.start op.aim], 0, env, none⟩ =
        ⟨p.reset, [.notify p.listeners, .enter op.aim], 0, env, none⟩ := by
      rw [step_eq rfl, resume, if_pos ht]
      rfl
    have htold := within_told he p.listeners
      (c := ⟨p.reset, [.notify p.listeners, .enter op.aim], 0, env, none⟩) rfl
    exact ⟨_, p.reset, _, .head (step_perform hs hop env) (.head hstart htold),
      Player.booked_reset hb.delay, rfl, rfl, rfl, rfl⟩

/-- An operation that begins a run of a rejected program ends with the refusal of it. -/
theorem settle_rejected {p : Player} {f : Rejection} (he : e.Quiet) (hb : p.Booked)
    (hreview : Program.review p.restrictions p.code = .error f)
    (hs : p.state.status = .idle ∨ p.state.status.terminal = true) {op : Operation} (hop : op.Begins)
    (env : ε) :
    ∃ n c, settle e n { player := p, stack := [.perform op], env := env } = c ∧ c.stack = [] ∧
      c.fault = none ∧ c.player.Refused f ∧ c.player.initial = p.initial := by
  obtain ⟨n, q, env', hentry, hq, hi, hcode, hrestrictions, hinitial⟩ :=
    within_enter he hb hs hop env
  rw [← hcode, ← hrestrictions] at hreview
  -- the review stops the entry, so that neither a tick nor a wait is left to be done
  let failed := { q with generation := q.generation + 1 }.fail f.report
  have henter : step e ⟨q, [.enter op.aim], 0, env', none⟩ =
      ⟨failed, [.notify failed.listeners], 0, env', none⟩ := by
    rw [step_eq rfl, resume, Player.enter_of_rejected hi hreview]
    rfl
  have htold := within_told he failed.listeners
    (c := ⟨failed, [.notify failed.listeners], 0, env', none⟩) rfl
  obtain ⟨m, -, hm⟩ := hentry.trans (.head henter htold)
  exact ⟨m, _, hm, rfl, rfl, hq.refused hi f _, hinitial⟩

end Config

/-- A player refuses its program: at its beginning, or after the end of a run, every operation that
begins a run comes to an end with the report of the review, if nothing is answered meanwhile, and so
does every test. -/
structure Player.Refuses (p : Player) (f : Rejection) : Prop where
  operations : p.state.status = .idle ∨ p.state.status.terminal = true →
    ∀ (δ : Type) (e : Environment δ) (env : δ) (op : Operation), e.Quiet → op.Begins →
      ∃ n c, Config.settle e n { player := p, stack := [.perform op], env := env } = c ∧
        c.stack = [] ∧ c.fault = none ∧ c.player.Refused f ∧ c.player.initial = p.initial
  tests : ∀ suite s, suite.or p.suite = some s → s.worlds ≠ [] →
    p.runTests suite = .ok (s.worlds.map fun x => refusedResult f x.1 x.2)

theorem Player.Booked.refuses {p : Player} {f : Rejection} (h : p.Booked)
    (hreview : Program.review p.restrictions p.code = .error f) : p.Refuses f where
  operations hs _ _ env _ he hop := Config.settle_rejected he h hreview hs hop env
  tests _ _ hs hw := runTests_of_rejected hreview hs hw

end Playback

end KarelLab
