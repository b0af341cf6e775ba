import KarelLab.Proofs.Playback.Isolation
import KarelLab.Proofs.Playback.Rejected
import KarelLab.Proofs.Playback.Restrictions
import KarelLab.Service.Api

namespace KarelLab.Service

open Document Playback Program

def refusedRun (f : Rejection) (w : World) : Response :=
  .ok (.object [("status", .string "error"), ("state", ofState ((State.fresh 0).fail f.report)),
    ("world", ofWorld w), ("frames", .array []),
    ("errors", .object [("code", .string f.report.code.name), ("message", .string f.report.message),
      ("line", ofLine? f.report.line)])])

def refusedTest (f : Rejection) (worlds : List (String × World)) : Response :=
  .ok (.object [("passed", .bool worlds.isEmpty),
    ("results", .array (worlds.map fun x => ofTestResult (refusedResult f x.1 x.2))),
    ("errors", .null)])

variable {server settings : Settings} {f : Rejection}

theorem playerFor_of_cap {asked : Json} (h : server.cap asked = .ok settings) (w : World)
    (code : String) (restrictions : Restrictions) :
    playerFor server w code restrictions asked =
      .ok (Player.start w code restrictions none settings.budgets settings.isolated 0) := by
  rw [playerFor, h]
  rfl

theorem run_of_rejected {r : RunRequest} (hs : server.cap r.settings = .ok settings)
    (hreview : review r.restrictions r.code = .error f) :
    run server r = refusedRun f (r.world.getD World.default) := by
  let p := Player.start (r.world.getD World.default) r.code r.restrictions none settings.budgets
    settings.isolated 0
  have halone := Player.runAlone_of_rejected (p := p) rfl rfl hreview
  rw [run, playerFor_of_cap hs]
  dsimp only
  rw [halone]
  rfl

/-- The results of a request for tests, when each of its worlds can be tried. -/
theorem runTests_of_worlds {r : TestRequest} (hs : server.cap r.settings = .ok settings)
    {result : String × World → TestResult}
    (h : ∀ x ∈ r.worlds,
      (Player.start x.2 r.code r.restrictions none settings.budgets settings.isolated 0).runTests
        (some ⟨[x], .goal (goalOf r.goals x.1), []⟩) = .ok [result x]) :
    runTests server r = .ok (r.worlds.map result) := by
  -- every world has a suite of its own, so each report has one result
  have hworld : ∀ x ∈ r.worlds, (do
      let p ← (playerFor server x.2 r.code r.restrictions r.settings).mapError (·.message)
      (p.runTests (some ⟨[(x.1, x.2)], .goal (goalOf r.goals x.1), []⟩)).mapError (·.message)) =
      (.ok [result x] : Except String TestReport) := by
    intro x hx
    rw [playerFor_of_cap hs]
    change (Player.runTests _ (some ⟨[x], .goal (goalOf r.goals x.1), []⟩)).mapError _ = _
    rw [h x hx]
    rfl
  have hreports : (r.worlds.mapM fun x => do
      let p ← (playerFor server x.2 r.code r.restrictions r.settings).mapError (·.message)
      (p.runTests (some ⟨[(x.1, x.2)], .goal (goalOf r.goals x.1), []⟩)).mapError (·.message)) =
      (.ok (r.worlds.map fun x => [result x]) : Except String (List TestReport)) :=
    (mapM_congr hworld).trans List.mapM_pure
  have hflat : (r.worlds.map fun x => [result x]).flatten = r.worlds.map result := by
    rw [← List.flatMap_def]
    exact List.map_eq_flatMap.symm
  unfold runTests
  rw [hreports]
  exact congrArg Except.ok hflat

theorem runTests_of_rejected {r : TestRequest} (hs : server.cap r.settings = .ok settings)
    (hreview : review r.restrictions r.code = .error f) :
    runTests server r = .ok (r.worlds.map fun x => refusedResult f x.1 x.2) := by
  apply runTests_of_worlds hs
  intro x _
  let p := Player.start x.2 r.code r.restrictions none settings.budgets settings.isolated 0
  let suite : Lesson.Suite := ⟨[x], .goal (goalOf r.goals x.1), []⟩
  exact Player.runTests_of_rejected (p := p) (s := suite) hreview rfl (List.cons_ne_nil _ _)

theorem test_of_rejected {r : TestRequest} (hs : server.cap r.settings = .ok settings)
    (hreview : review r.restrictions r.code = .error f) (hgoals : withoutGoal r = []) :
    test server r = refusedTest f r.worlds := by
  have hpassed : (r.worlds.map fun x => refusedResult f x.1 x.2).all (·.passed) =
      r.worlds.isEmpty := by
    cases r.worlds <;> simp [refusedResult]
  rw [test, hgoals]
  dsimp only
  rw [runTests_of_rejected hs hreview]
  dsimp only
  rw [hpassed, List.map_map]
  rfl

/-- A request by which a route is asked for, with content that is read. -/
structure Request.Asks {α : Type} (q : Request) (route : Route) (check : Json → Checked α) (a : α) :
    Prop where
  path : Route.ofPath? q.path = some route
  method : q.method = route.method
  content : readContent check q.content = .ok a

theorem Request.Asks.answer_run {q : Request} {r : RunRequest} (h : q.Asks .run runRequest r) :
    answer server q = run server r := by
  rw [answer, h.path]
  dsimp only
  rw [if_neg (not_not.mpr h.method), answerContent, h.content]

theorem Request.Asks.answer_test {q : Request} {r : TestRequest} (h : q.Asks .test testRequest r) :
    answer server q = test server r := by
  rw [answer, h.path]
  dsimp only
  rw [if_neg (not_not.mpr h.method), answerContent, h.content]

/-- Nothing runs past a review. Whenever a player shows ticks, they are of a recording that was made of
an accepted program and of commands that may be used, and the same is true of a player that runs
alone. A program that is rejected is refused by the player, and by every request to run it or to try
it on worlds that all have goals. -/
theorem nothing_runs_past_review {ε : Type} {c : Nat → Config ε} {w : World} {code : String}
    {restrictions : Restrictions} {suite : Option Lesson.Suite} {budgets : Isolation.Budgets}
    {isolated : Bool} {ms : Int} {d : Nat} (hd : checkedDelay ms = .ok d)
    (h : Operated (.start w code restrictions suite budgets isolated d) c) :
    (∀ i, (c i).player.history ≠ [] → ∃ r j, Holds c r j i ∧
        (∃ tree, review restrictions (c j).player.code = .ok tree) ∧
        ∀ t ∈ (c i).player.history,
          t ∈ r.ticks.toList ∧ t.primitive.name ∈ restrictions.commandNames) ∧
      (∀ i f, review restrictions (c i).player.code = .error f → (c i).player.Refuses f) ∧
      (∀ p q : Player, p.recording = none → p.runAlone = .ok q → q.history ≠ [] →
        (∃ tree, review p.restrictions p.code = .ok tree) ∧
          ∀ t ∈ q.history, t.primitive.name ∈ p.restrictions.commandNames) ∧
      ∀ (server settings : Settings) (q : Request) (f : Rejection),
        (∀ r, q.Asks .run runRequest r → server.cap r.settings = .ok settings →
          review r.restrictions r.code = .error f →
            answer server q = refusedRun f (r.world.getD World.default)) ∧
        ∀ r, q.Asks .test testRequest r → server.cap r.settings = .ok settings →
          review r.restrictions r.code = .error f → withoutGoal r = [] →
            answer server q = refusedTest f r.worlds := by
  have hb := Player.booked_start w code restrictions suite budgets isolated (checkedDelay_le hd)
  refine ⟨fun i hh => h.history_respects hb rfl hh, ?_, fun p q => Player.runAlone_respects, ?_⟩
  · intro i f hreview
    have hrestrictions : (c i).player.restrictions = restrictions := h.restrictions i
    rw [← hrestrictions] at hreview
    exact (h.booked hb i).refuses hreview
  · intro server settings q f
    refine ⟨fun r hr hs hreview => ?_, fun r hr hs hreview hgoals => ?_⟩
    · rw [hr.answer_run]
      exact run_of_rejected hs hreview
    · rw [hr.answer_test]
      exact test_of_rejected hs hreview hgoals

def standard : Settings := { maxTime := Isolation.defaultLimit }

def turnRequest : Request := ⟨"POST", "/run", .document (.object [("code", .string "turn_left()"),
  ("allowed_features", .object [("karel_commands", .array [.string "move"])])])⟩

def narrowed : Nat → Config Unit :=
  operated ⟨fun _ u => u, fun _ _ => none, fun _ _ _ => none⟩
    { player := .start .default "move()" ⟨some ["move"], none⟩ none
        ⟨10, .seconds Isolation.defaultLimit⟩ false 0
      env := () }
    [(.step, ()), (.loadCode "turn_left()", ())]

/-- The move is shown, and the turn is refused by the player and by a server. -/
theorem nothing_runs_past_review_narrowed :
    (∃ r j, Holds narrowed r j 10 ∧ (narrowed 10).player.history.length = 1 ∧
        ∀ t ∈ (narrowed 10).player.history, t ∈ r.ticks.toList ∧ t.primitive.name = "move") ∧
      (∃ f, (narrowed 14).player.state.status = .idle ∧ (narrowed 14).player.Refuses f) ∧
      ∃ f, answer standard turnRequest = refusedRun f World.default := by
  have hd : checkedDelay 0 = .ok 0 := rfl
  have hcourse : Course _ (fun _ => True) _ narrowed :=
    .of_operated _ _ _ (fun _ _ => trivial) fun _ _ _ _ _ => trivial
  have h : Operated _ narrowed := .course hcourse
  obtain ⟨hhistory, hrefuses, -, hserver⟩ := nothing_runs_past_review hd h
  have heval : (narrowed 10).player.history.length = 1 ∧
      (narrowed 14).player.state.status = .idle ∧ (narrowed 14).player.code = "turn_left()" := by
    decide +kernel
  obtain ⟨hshown, hidle, hcode⟩ := heval
  have hrejected : (review ⟨some ["move"], none⟩ "turn_left()").isOk = false := by decide +kernel
  obtain ⟨f, hreview⟩ := exists_eq_error_of_isOk hrejected
  have hasks : turnRequest.Asks .run runRequest
      ⟨"turn_left()", none, ⟨some ["move"], none⟩, .null⟩ := ⟨by decide +kernel, rfl, rfl⟩
  refine ⟨?_, ⟨f, hidle, hrefuses 14 f ?_⟩, f, (hserver standard standard turnRequest f).1 _ hasks rfl
    hreview⟩
  · obtain ⟨r, j, hj, -, hmem⟩ := hhistory 10 (List.ne_nil_of_length_pos (by omega))
    refine ⟨r, j, hj, hshown, ?_⟩
    intro t ht
    obtain ⟨hrecorded, hname⟩ := hmem t ht
    exact ⟨hrecorded, List.mem_singleton.mp hname⟩
  · rw [hcode]
    exact hreview

def goallessRequest : Request := ⟨"POST", "/test", .document (.object [("code", .string "fly()"),
  ("worlds", .object [("a", .object [
    ("dimensions", .object [("width", .int 2), ("height", .int 1)]),
    ("robot", .object [("position", .object [("x", .int 1), ("y", .int 1)])])])]),
  ("goals", .object [])])⟩

/-- A rejected program is not even looked at when a world has no goal: the request is answered without
a result for it. -/
theorem goalless_not_refused :
    ∃ (r : TestRequest) (f : Rejection), goallessRequest.Asks .test testRequest r ∧
      standard.cap r.settings = .ok standard ∧ review r.restrictions r.code = .error f ∧
      answer standard goallessRequest = .ok (.object [("passed", .bool false),
        ("results", .array []), ("errors", .object [("code", .string "BAD_REQUEST"),
          ("message", .string "no goal for worlds: a")])]) ∧
      answer standard goallessRequest ≠ refusedTest f r.worlds := by
  let r : TestRequest :=
    ⟨"fly()", [("a", ⟨2, 1, ⟨⟨1, 1⟩, .east, .holding 0⟩, [], []⟩)], [], {}, .null⟩
  have hrejected : (review {} "fly()").isOk = false := by decide +kernel
  obtain ⟨f, hreview⟩ := exists_eq_error_of_isOk hrejected
  have hasks : goallessRequest.Asks .test testRequest r := ⟨by decide +kernel, rfl, rfl⟩
  have hmissing : withoutGoal r = ["a"] := by decide +kernel
  have hanswer : answer standard goallessRequest = .ok (.object [("passed", .bool false),
      ("results", .array []), ("errors", .object [("code", .string "BAD_REQUEST"),
        ("message", .string "no goal for worlds: a")])]) := by
    rw [hasks.answer_test, test, hmissing]
    rfl
  refine ⟨r, f, hasks, rfl, hreview, hanswer, ?_⟩
  rw [hanswer]
  intro h
  cases h

end KarelLab.Service
