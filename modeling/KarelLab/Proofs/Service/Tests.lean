import KarelLab.Proofs.Playback.Tests
import KarelLab.Proofs.Service.Rejected

namespace KarelLab

namespace Document.Checked

variable {α : Type} {check : Json → Checked α}

theorem of_entries {fs : List (String × Json)} {as : List (String × α)}
    (h : entries check fs = .ok as) : ∀ a ∈ as, ∃ j, check j = .ok a.2 := by
  induction fs generalizing as with
  | nil =>
    cases h
    simp
  | cons f rest ih =>
    obtain ⟨k, j⟩ := f
    obtain ⟨⟨a, others⟩, hboth, rfl⟩ := map_eq_ok_iff.mp h
    obtain ⟨ha, hrest⟩ := both_eq_ok_iff.mp hboth
    intro b hb
    rcases List.mem_cons.mp hb with rfl | hb
    · exact ⟨j, within_eq_ok_iff.mp ha⟩
    · exact ih hrest b hb

theorem of_dictionary {j : Json} {as : List (String × α)} (h : dictionary check j = .ok as) :
    ∀ a ∈ as, ∃ j, check j = .ok a.2 := by
  cases j with
  | object fs => exact of_entries h
  | _ => cases h

end Document.Checked

namespace Service

open Document Document.Checked Playback
open Isolation (Known)

/-- All worlds of a request for tests are accepted. -/
theorem wellFormed_of_testRequest {j : Json} {r : TestRequest} (h : testRequest j = .ok r) :
    ∀ x ∈ r.worlds, x.2.WellFormed := by
  obtain ⟨fs, -, hfs⟩ := bind_eq_ok_iff.mp h
  obtain ⟨⟨code, worlds, rest⟩, hparts, rfl⟩ := map_eq_ok_iff.mp hfs
  obtain ⟨-, hrest⟩ := both_eq_ok_iff.mp hparts
  obtain ⟨hworlds, -⟩ := both_eq_ok_iff.mp hrest
  obtain ⟨jw, hjw⟩ := of_field hworlds
  intro x hx
  obtain ⟨jx, hjx⟩ := of_dictionary hjw x hx
  exact wellFormed_of_world hjx

theorem checked_of_readContent {α : Type} {check : Json → Checked α} {c : Content} {a : α}
    (h : readContent check c = .ok a) : ∃ j, check j = .ok a := by
  have hbody {x : Checked α} (hx : (within (.key "body") x).mapError ContentFault.issues = .ok a) :
      x = .ok a := within_eq_ok_iff.mp (ok_of_mapError hx)
  cases c with
  | empty => cases h
  | foreign => cases h
  | document j => exact ⟨j, hbody h⟩
  | text s =>
    unfold readContent at h
    dsimp only at h
    split at h
    · exact ⟨_, hbody h⟩
    · cases h

theorem Request.Asks.worlds_wellFormed {q : Request} {r : TestRequest}
    (h : q.Asks .test testRequest r) : ∀ x ∈ r.worlds, x.2.WellFormed := by
  obtain ⟨j, hj⟩ := checked_of_readContent h.content
  exact wellFormed_of_testRequest hj

/-- If no world is without a goal, each of them has the one that is listed under its name. -/
theorem goalOf_mem {r : TestRequest} (h : withoutGoal r = []) {x : String × World}
    (hx : x ∈ r.worlds) : (x.1, goalOf r.goals x.1) ∈ r.goals := by
  have hnone : (r.worlds.map (·.1)).filter (fun name => !(r.goals.any (·.1 = name))) = [] := by
    have hperm := List.mergeSort_perm
      ((r.worlds.map (·.1)).filter fun name => !(r.goals.any (·.1 = name)))
      (fun a b => decide (a ≤ b))
    unfold withoutGoal at h
    rw [h] at hperm
    exact List.nil_perm.mp hperm
  have hlisted : r.goals.any (·.1 = x.1) = true := by
    have hkept := List.filter_eq_nil_iff.mp hnone x.1 (List.mem_map_of_mem hx)
    simpa using hkept
  have hfound : (r.goals.find? (·.1 = x.1)).isSome = true := by
    rw [List.find?_isSome]
    exact List.any_eq_true.mp hlisted
  obtain ⟨⟨name, g⟩, hg⟩ := Option.isSome_iff_exists.mp hfound
  have hname : name = x.1 := by simpa using List.find?_some hg
  have hgoal : goalOf r.goals x.1 = g := by rw [goalOf, hg]; rfl
  rw [hgoal, ← hname]
  exact List.mem_of_find?_eq_some hg

def testAnswer (results : List TestResult) : Response :=
  .ok (.object [("passed", .bool (results.all (·.passed))),
    ("results", .array (results.map ofTestResult)), ("errors", .null)])

/-- What a request for tests is answered, when each of its worlds can be tried. -/
theorem test_eq_testAnswer {server settings : Settings} {r : TestRequest}
    (hs : server.cap r.settings = .ok settings) (hgoals : withoutGoal r = [])
    {result : String × World → TestResult}
    (h : ∀ x ∈ r.worlds,
      (Player.start x.2 r.code r.restrictions none settings.budgets settings.isolated 0).runTests
        (some ⟨[x], .goal (goalOf r.goals x.1), []⟩) = .ok [result x]) :
    test server r = testAnswer (r.worlds.map result) := by
  rw [test, hgoals]
  dsimp only
  rw [runTests_of_worlds hs h]
  rfl

/-- Tests judge each world on its own. For a program, its restrictions and its budgets there is one
function of the predicate and of a named world that gives the result: it tells how a fresh player ends
in the world and what the predicate says of a success, and after a fault the predicate makes no
difference. Whatever state a player is in, it gets these results, one for each world of the suite, and
is left as it was; and so does every request for tests with a goal for each world. -/
theorem tests_judge_worlds_apart {code : String} {restrictions : Program.Restrictions}
    (hk : Known restrictions) (budgets : Isolation.Budgets) (isolated : Bool) :
    ∃ result : Lesson.Predicate → String → World → TestResult,
      (∀ (predicate : Lesson.Predicate) (name : String) (w : World), w.WellFormed →
        ∀ (suite : Option Lesson.Suite) (d : Nat), d ≤ maxDelay →
          ∃ q, (Player.start w code restrictions suite budgets isolated d).RunsTo none q ∧
            (q.state.status = .success ∨ q.state.status = .error) ∧
            ((q.state.status = .success → predicate.Answers q.world) →
              (result predicate name w).Tells name predicate q) ∧
            (q.state.status = .error → ∀ other, result other name w = result predicate name w)) ∧
      (∀ p : Player, p.Tries code restrictions budgets isolated →
        ∀ (given : Option Lesson.Suite) (s : Lesson.Suite), given.or p.suite = some s →
          s.worlds ≠ [] → (∀ x ∈ s.worlds, x.2.WellFormed) →
          (∀ x ∈ s.worlds, ∀ q, (p.onWorld x.2).RunsTo none q → q.state.status = .success →
            s.predicate.Answers q.world) →
          ∃ report : TestReport, p.runTests given = .ok report ∧
            report = s.worlds.map (fun x => result s.predicate x.1 x.2) ∧
            (report.passed = true ↔ ∀ r ∈ report, r.passed = true) ∧
            ∀ (δ : Type) (e : Environment δ) (c : Config δ) (rest : List Frame), c.player = p →
              c.stack = .perform (.runTests given) :: rest → c.step e = { c with stack := rest }) ∧
      ∀ (server settings : Settings) (q : Request) (r : TestRequest),
        q.Asks .test testRequest r → withoutGoal r = [] →
        server.cap r.settings = .ok settings → r.code = code → r.restrictions = restrictions →
        settings.budgets = budgets → settings.isolated = isolated →
          answer server q =
              testAnswer (r.worlds.map fun x => result (.goal (goalOf r.goals x.1)) x.1 x.2) ∧
            ∀ x ∈ r.worlds, (x.1, goalOf r.goals x.1) ∈ r.goals ∧
              ∀ p : Player, p.Tries code restrictions budgets isolated →
                p.runTests (some ⟨[x], .goal (goalOf r.goals x.1), []⟩) =
                  .ok [result (.goal (goalOf r.goals x.1)) x.1 x.2] := by
  obtain ⟨result, hresult⟩ := Player.exists_result hk budgets isolated
  have htests (p : Player) (hp : p.Tries code restrictions budgets isolated)
      (given : Option Lesson.Suite) (s : Lesson.Suite) (hs : given.or p.suite = some s)
      (hne : s.worlds ≠ []) (hw : ∀ x ∈ s.worlds, x.2.WellFormed)
      (hanswers : ∀ x ∈ s.worlds, ∀ q, (p.onWorld x.2).RunsTo none q →
        q.state.status = .success → s.predicate.Answers q.world) :
      p.runTests given = .ok (s.worlds.map fun x => result s.predicate x.1 x.2) := by
    apply Player.runTests_eq_map hs hne
    intro x hx
    exact (hresult s.predicate x.1 x.2 (hw x hx)).2 p hp (hanswers x hx)
  refine ⟨result, ?_, ?_, ?_⟩
  · intro predicate name w hw
    exact (hresult predicate name w hw).1
  · intro p hp given s hs hne hw hanswers
    have hreport := htests p hp given s hs hne hw hanswers
    refine ⟨_, hreport, rfl, List.all_eq_true, ?_⟩
    intro δ e c rest hc hstack
    rw [Config.step_eq hstack, Config.resume, Config.begin, hc, hreport]
  · intro server settings q r hq hgoals hcap hcode hrestrictions hbudgets hisolated
    have hw := hq.worlds_wellFormed
    -- the service asks for one world at a time, as a suite of that world alone
    have hone : ∀ x ∈ r.worlds, ∀ p : Player, p.Tries code restrictions budgets isolated →
        p.runTests (some ⟨[x], .goal (goalOf r.goals x.1), []⟩) =
          .ok [result (.goal (goalOf r.goals x.1)) x.1 x.2] := by
      intro x hx p hp
      refine htests p hp _ ⟨[x], .goal (goalOf r.goals x.1), []⟩ rfl (List.cons_ne_nil _ _) ?_ ?_
      · intro y hy
        rw [List.mem_singleton.mp hy]
        exact hw x hx
      · intro y _ q' _ _
        exact Lesson.Predicate.goal_answers _ _
    refine ⟨?_, fun x hx => ⟨goalOf_mem hgoals hx, hone x hx⟩⟩
    rw [hq.answer_test]
    apply test_eq_testAnswer hcap hgoals
    intro x hx
    exact hone x hx _ ⟨hcode, hrestrictions, hbudgets, hisolated⟩

def row (width : Nat) : World where
  width := width
  height := 1
  robot := ⟨⟨1, 1⟩, .east, .holding 0⟩
  walls := []
  piles := []

def rows : Lesson.Suite :=
  ⟨[("wide", row 2), ("narrow", row 1)], .goal { position := some ⟨2, 1⟩ }, []⟩

def rowResults : List TestResult :=
  [⟨"wide", true, "Goal reached.", .success, none, 1, { row 2 with robot := ⟨⟨2, 1⟩, .east, .holding 0⟩ }⟩,
    ⟨"narrow", false, "Karel cannot move east off the edge of the world.", .error, some 1, 1, row 1⟩]

def rowsRequest : Request :=
  let goal : Json := .object [("position", .object [("x", .nat 2), ("y", .nat 1)])]
  ⟨"POST", "/test", .document (.object [("code", .string "move()"),
    ("worlds", .object [("wide", ofWorld (row 2)), ("narrow", ofWorld (row 1))]),
    ("goals", .object [("narrow", goal), ("wide", goal)])])⟩

/-- A player that is paused in a run of its own gets the results that the request gets. -/
theorem tests_judge_worlds_apart_rows :
    let p : Player := { Player.start .default "move()" {} none standard.budgets false 300 with
      state := { status := .paused, stepCount := 7 } }
    p.runTests (some rows) = .ok rowResults ∧ answer standard rowsRequest = testAnswer rowResults := by
  intro p
  have hk : Known {} := by decide
  obtain ⟨result, -, hplayers, hrequests⟩ :=
    @tests_judge_worlds_apart "move()" {} hk standard.budgets false
  have hwide : Document.world .value (ofWorld (row 2)) = .ok (row 2) := by rfl
  have hnarrow : Document.world .value (ofWorld (row 1)) = .ok (row 1) := by rfl
  have hw : ∀ x ∈ rows.worlds, x.2.WellFormed := by
    intro x hx
    rcases List.mem_cons.mp hx with rfl | hx
    · exact wellFormed_of_world hwide
    · rw [List.mem_singleton.mp hx]
      exact wellFormed_of_world hnarrow
  obtain ⟨report, hreport, hmap, -, -⟩ := hplayers p ⟨rfl, rfl, rfl, rfl⟩ (some rows) rows rfl
    (List.cons_ne_nil _ _) hw fun _ _ q _ _ => Lesson.Predicate.goal_answers _ q.world
  have heval : (p.runTests (some rows)).toOption = some rowResults := by decide +kernel
  rw [hreport] at heval
  obtain rfl : report = rowResults := Option.some.inj heval
  let goal : Goal := { position := some ⟨2, 1⟩ }
  have hasks : rowsRequest.Asks .test testRequest
      ⟨"move()", rows.worlds, [("narrow", goal), ("wide", goal)], {}, .null⟩ :=
    ⟨by decide +kernel, rfl, rfl⟩
  have hgoals : withoutGoal ⟨"move()", rows.worlds, [("narrow", goal), ("wide", goal)], {}, .null⟩ =
      [] := by
    decide +kernel
  obtain ⟨hanswer, -⟩ := hrequests standard standard rowsRequest _ hasks hgoals rfl rfl rfl rfl rfl
  refine ⟨hreport, ?_⟩
  rw [hanswer, hmap]
  rfl

end Service

end KarelLab
