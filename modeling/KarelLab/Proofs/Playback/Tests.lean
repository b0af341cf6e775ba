import KarelLab.Proofs.Isolation.Messages
import KarelLab.Proofs.Playback.Alone
import KarelLab.Proofs.Playback.Isolation

namespace KarelLab

def Lesson.Predicate.Answers (predicate : Predicate) (w : World) : Prop :=
  ∃ verdict, predicate.check w = .ok verdict

theorem Lesson.Predicate.goal_answers (g : Goal) (w : World) : (Predicate.goal g).Answers w :=
  ⟨g.check w, rfl⟩

namespace Playback

open Isolation (Known)

/-- What the result of a test tells of the run that ended with a player: how it ended, what the
predicate says of a success, and the fault otherwise. -/
structure TestResult.Tells (r : TestResult) (name : String) (predicate : Lesson.Predicate)
    (q : Player) : Prop where
  name : r.name = name
  status : r.status = q.state.status
  steps : r.stepCount = q.state.stepCount
  world : r.world = q.world
  passed : r.passed = true ↔
    q.state.status = .success ∧ ∃ v, predicate.check q.world = .ok v ∧ v.passed = true
  judged : q.state.status = .success →
    ∃ v, predicate.check q.world = .ok v ∧ r.message = v.message ∧ r.errorLine = none
  faulted : q.state.status = .error →
    q.state.error = some r.message ∧ r.errorLine = q.state.errorLine

namespace Player

variable {p q q' : Player} {w : World} {R : Recording} {predicate : Lesson.Predicate}

structure Tries (p : Player) (code : String) (restrictions : Program.Restrictions)
    (budgets : Isolation.Budgets) (isolated : Bool) : Prop where
  code : p.code = code
  restrictions : p.restrictions = restrictions
  budgets : p.budgets = budgets
  isolated : p.isolated = isolated

theorem Tries.onWorld_eq {code : String} {restrictions : Program.Restrictions}
    {budgets : Isolation.Budgets} {isolated : Bool} (h : p.Tries code restrictions budgets isolated)
    (h' : q.Tries code restrictions budgets isolated) (w : World) : p.onWorld w = q.onWorld w := by
  rw [onWorld, onWorld, h.code, h.restrictions, h.budgets, h.isolated, h'.code, h'.restrictions,
    h'.budgets, h'.isolated]

/-- Tests look at nothing of a player but what it tries. -/
theorem Tries.runTest_eq {code : String} {restrictions : Program.Restrictions}
    {budgets : Isolation.Budgets} {isolated : Bool} (h : p.Tries code restrictions budgets isolated)
    (h' : q.Tries code restrictions budgets isolated) (predicate : Lesson.Predicate) (name : String)
    (w : World) : p.runTest predicate name w = q.runTest predicate name w := by
  rw [runTest, runTest, h.onWorld_eq h' w]

/-- The recording of a player at its beginning is sound, and no error of it is without a message. -/
theorem Ready.message_ne_empty (h : p.Ready) (hk : Known p.restrictions) (hR : p.reviewed = .ok R)
    {e : Report} (he : R.report? = some e) : e.message ≠ "" := by
  unfold reviewed at hR
  cases hreview : Program.review p.restrictions p.code with
  | error rejection =>
    rw [hreview] at hR
    cases hR
    cases he
    exact rejection.message_ne_empty
  | ok tree =>
    rw [hreview] at hR
    have hrecord : p.record = .ok R := hR
    have hsound : R.Sound p.initial := record_sound h.initial hrecord
    refine hsound.message_ne_empty ?_ he
    unfold record at hrecord
    split at hrecord
    · cases hrecord
      exact Isolation.message_of_recordIsolated p.code h.initial hk p.budgets _
    · exact Isolation.message_of_record hrecord

def faultedResult (q : Player) (name : String) : TestResult where
  name := name
  passed := false
  message := q.state.error.getD ""
  status := q.state.status
  errorLine := q.state.errorLine
  stepCount := q.state.stepCount
  world := q.world

def judgedResult (q : Player) (name : String) (v : Verdict) : TestResult where
  name := name
  passed := v.passed
  message := v.message
  status := q.state.status
  stepCount := q.state.stepCount
  world := q.world

theorem runTest_of_error (h : (p.onWorld w).runAlone = .ok q) (hs : q.state.status = .error)
    {message : String} (he : q.state.error = some message) (hm : message ≠ "")
    (predicate : Lesson.Predicate) (name : String) :
    p.runTest predicate name w = .ok (q.faultedResult name) := by
  have hmessage : (if q.state.error.getD "" = "" then "Program failed." else q.state.error.getD "") =
      q.state.error.getD "" := by
    rw [he, Option.getD_some, if_neg hm]
  rw [runTest, h]
  change (if q.state.status = .error then _ else _) = _
  rw [if_pos hs, hmessage]
  rfl

theorem faultedResult_tells (hs : q.state.status = .error) {message : String}
    (he : q.state.error = some message) (predicate : Lesson.Predicate) (name : String) :
    (q.faultedResult name).Tells name predicate q where
  name := rfl
  status := rfl
  steps := rfl
  world := rfl
  passed := by simp [faultedResult, hs]
  judged := by simp [hs]
  faulted := by
    intro _
    have hmessage : (q.faultedResult name).message = message := by
      rw [faultedResult, he, Option.getD_some]
    exact ⟨by rw [hmessage, he], rfl⟩

theorem runTest_of_success (h : (p.onWorld w).runAlone = .ok q) (hs : q.state.status = .success)
    {v : Verdict} (hv : predicate.check q.world = .ok v) (name : String) :
    p.runTest predicate name w = .ok (q.judgedResult name v) := by
  rw [runTest, h]
  change (if q.state.status = .error then _ else _) = _
  rw [if_neg (by simp [hs]), hv]
  rfl

theorem judgedResult_tells (hs : q.state.status = .success) {v : Verdict}
    (hv : predicate.check q.world = .ok v) (name : String) :
    (q.judgedResult name v).Tells name predicate q where
  name := rfl
  status := rfl
  steps := rfl
  world := rfl
  passed := by
    constructor
    · intro hpassed
      exact ⟨hs, v, hv, hpassed⟩
    · rintro ⟨-, v', hv', hpassed⟩
      cases hv.symm.trans hv'
      exact hpassed
  judged := fun _ => ⟨v, hv, rfl, rfl⟩
  faulted := by simp [hs]

/-- A result that tells of one run tells of every other one that ended like it. -/
theorem tells_of_ended {r : TestResult} {name : String} {p' : Player}
    (h : r.Tells name predicate q) (hq : p.Ended q R) (hq' : p'.Ended q' R)
    (hinitial : p'.initial = p.initial) : r.Tells name predicate q' := by
  have hstatus : q'.state.status = q.state.status := hq'.status.trans hq.status.symm
  have herror : q'.state.error = q.state.error := hq'.error.trans hq.error.symm
  have hline : q'.state.errorLine = q.state.errorLine := hq'.errorLine.trans hq.errorLine.symm
  have hsteps : q'.state.stepCount = q.state.stepCount := hq'.steps.trans hq.steps.symm
  have hworld : q'.world = q.world := by rw [hq'.world, hq.world, hinitial]
  exact {
    name := h.name
    status := h.status.trans hstatus.symm
    steps := h.steps.trans hsteps.symm
    world := h.world.trans hworld.symm
    passed := by rw [hstatus, hworld]; exact h.passed
    judged := by rw [hstatus, hworld]; exact h.judged
    faulted := by rw [hstatus, herror, hline]; exact h.faulted }

theorem Ended.success_or_error (h : p.Ended q R) :
    q.state.status = .success ∨ q.state.status = .error := by
  rw [h.status]
  split
  · exact .inr rfl
  · exact .inl rfl

/-- A run that ends with a fault has recorded the report of one. -/
theorem Ended.exists_report (h : p.Ended q R) (hs : q.state.status = .error) :
    ∃ e, R.report? = some e := by
  have hstatus := h.status
  rw [hs, Recording.failed_eq_report?] at hstatus
  apply Option.isSome_iff_exists.mp
  by_contra hnone
  rw [if_neg hnone] at hstatus
  cases hstatus

/-- A test on a world gives a result that tells how the run ended, if the predicate answers when it is
asked; after a fault it is not asked at all. -/
theorem runTest_tells (hk : Known p.restrictions) (hw : w.WellFormed) (name : String) :
    ∃ q R, (p.onWorld w).RunsTo none q ∧ (p.onWorld w).reviewed = .ok R ∧
      (p.onWorld w).Ended q R ∧
      (q.state.status = .error → ∃ r, ∀ predicate,
        p.runTest predicate name w = .ok r ∧ r.Tells name predicate q) ∧
      ∀ predicate, (q.state.status = .success → predicate.Answers q.world) →
        ∃ r, p.runTest predicate name w = .ok r ∧ r.Tells name predicate q := by
  have hready : (p.onWorld w).Ready :=
    ready_start hw p.code p.restrictions none p.budgets p.isolated (Nat.zero_le _)
  have hk' : Known (p.onWorld w).restrictions := hk
  obtain ⟨R, hR⟩ := reviewed_isOk hk'
  obtain ⟨q, halone, hruns, hend⟩ := hready.runsTo hR
  have hfault : q.state.status = .error → ∃ r, ∀ predicate,
      p.runTest predicate name w = .ok r ∧ r.Tells name predicate q := by
    intro hs
    obtain ⟨e, he⟩ := hend.exists_report hs
    have herror : q.state.error = some e.message := by rw [hend.error, he, Option.map_some]
    have hne : e.message ≠ "" := hready.message_ne_empty hk' hR he
    refine ⟨q.faultedResult name, ?_⟩
    intro predicate
    exact ⟨runTest_of_error halone hs herror hne predicate name,
      faultedResult_tells hs herror predicate name⟩
  refine ⟨q, R, hruns, hR, hend, hfault, ?_⟩
  intro predicate hanswers
  rcases hend.success_or_error with hs | hs
  · obtain ⟨v, hv⟩ := hanswers hs
    exact ⟨q.judgedResult name v, runTest_of_success halone hs hv name,
      judgedResult_tells hs hv name⟩
  · obtain ⟨r, hr⟩ := hfault hs
    exact ⟨r, hr predicate⟩

/-- For every program there is one function that gives the results of its tests, whichever player
tries it: of the predicate, the name and the world alone. It tells how a fresh player ends in the world,
and after a fault the predicate makes no difference. -/
theorem exists_result {code : String} {restrictions : Program.Restrictions} (hk : Known restrictions)
    (budgets : Isolation.Budgets) (isolated : Bool) :
    ∃ result : Lesson.Predicate → String → World → TestResult,
      ∀ (predicate : Lesson.Predicate) (name : String) (w : World), w.WellFormed →
        (∀ (suite : Option Lesson.Suite) (d : Nat), d ≤ maxDelay →
          ∃ q, (start w code restrictions suite budgets isolated d).RunsTo none q ∧
            (q.state.status = .success ∨ q.state.status = .error) ∧
            ((q.state.status = .success → predicate.Answers q.world) →
              (result predicate name w).Tells name predicate q) ∧
            (q.state.status = .error → ∀ other, result other name w = result predicate name w)) ∧
        ∀ p : Player, p.Tries code restrictions budgets isolated →
          (∀ q, (p.onWorld w).RunsTo none q → q.state.status = .success →
            predicate.Answers q.world) →
          p.runTest predicate name w = .ok (result predicate name w) := by
  -- any player with these settings will do to name the results
  let tester : Player := start .default code restrictions none budgets isolated 0
  have htester : tester.Tries code restrictions budgets isolated := ⟨rfl, rfl, rfl, rfl⟩
  let result (predicate : Lesson.Predicate) (name : String) (w : World) : TestResult :=
    (tester.runTest predicate name w).toOption.getD default
  have hresult {predicate : Lesson.Predicate} {name : String} {w : World} {r : TestResult}
      (h : tester.runTest predicate name w = .ok r) : result predicate name w = r := by
    change (tester.runTest predicate name w).toOption.getD default = r
    rw [h]
    rfl
  refine ⟨result, ?_⟩
  intro predicate name w hw
  obtain ⟨q, R, hruns, hR, hend, hfault, hjudged⟩ := runTest_tells (p := tester) hk hw name
  refine ⟨?_, ?_⟩
  · intro suite d hd
    -- another delay and another suite do not change the recording, so the run ends in the same way
    have hready : (start w code restrictions suite budgets isolated d).Ready :=
      ready_start hw code restrictions suite budgets isolated hd
    obtain ⟨q', -, hruns', hend'⟩ := hready.runsTo (R := R) hR
    have hstatus : q'.state.status = q.state.status := hend'.status.trans hend.status.symm
    have hworld : q'.world = q.world := hend'.world.trans hend.world.symm
    refine ⟨q', hruns', hend'.success_or_error, ?_, ?_⟩
    · rw [hstatus, hworld]
      intro hanswers
      obtain ⟨r, hr, htells⟩ := hjudged predicate hanswers
      rw [hresult hr]
      exact tells_of_ended htells hend hend' rfl
    · rw [hstatus]
      intro hs other
      obtain ⟨r, hr⟩ := hfault hs
      rw [hresult (hr other).1, hresult (hr predicate).1]
  · intro p hp hanswers
    have hworld : p.onWorld w = tester.onWorld w := hp.onWorld_eq htester w
    rw [hworld] at hanswers
    obtain ⟨r, hr, -⟩ := hjudged predicate (hanswers q hruns)
    rw [hp.runTest_eq htester, hresult hr, hr]

/-- The worlds of a suite are tried one by one. -/
theorem runTests_eq_map {given : Option Lesson.Suite} {s : Lesson.Suite}
    (hs : given.or p.suite = some s) (hne : s.worlds ≠ [])
    {result : String × World → TestResult}
    (h : ∀ x ∈ s.worlds, p.runTest s.predicate x.1 x.2 = .ok (result x)) :
    p.runTests given = .ok (s.worlds.map result) := by
  rw [runTests, hs]
  dsimp only
  rw [if_neg (by simpa using hne)]
  have hall : s.worlds.mapM (fun x => p.runTest s.predicate x.1 x.2) =
      s.worlds.mapM fun x => (.ok (result x) : Except PlayerFault TestResult) := mapM_congr h
  exact hall.trans List.mapM_pure

end Player

end Playback

end KarelLab
