import KarelLab.Proofs.Number.Order
import KarelLab.Proofs.Playback.Budget
import KarelLab.Proofs.Service.Rejected

/-!
# What a request can change of the limits

A request gets the limits that it asks for up to those of the server. The floors lie outside of the
caps: a server that allows no command, or less time than any run gets, grants a request that asks for
anything one command and the least time. No other limit is raised, and isolation is never switched off.
-/

namespace KarelLab.Service

open Document Playback

def Response.items? (r : Response) (name : String) : Option (List Json) :=
  (r.body.field? name).bind Json.items?

/-- What the settings for a request owe to the server and to what was asked for. -/
structure Settings.Grants (server : Settings) (asked : Json) (s : Settings) : Prop where
  /-- More commands are granted than the server allows only if it allows none, and then it is one. -/
  stepsRaised : server.maxSteps < s.maxSteps ↔ truthy asked = true ∧ server.maxSteps < 1
  stepsFloor : server.maxSteps < s.maxSteps → s.maxSteps = 1
  /-- More time is granted only if the server allows less than any run gets, and then it is that. -/
  timeRaised : Binary64.lt server.maxTime s.maxTime = true ↔
    truthy asked = true ∧ Binary64.lt server.maxTime minTime = true
  timeFloor : Binary64.lt server.maxTime s.maxTime = true → s.maxTime = minTime
  isolated : server.isolated = true → s.isolated = true
  /-- A number of commands between one and what the server allows is granted as it is. -/
  stepsAsked : ∀ j n, asked.field? "max_steps" = some j → toWhole j = .ok n →
    1 ≤ n → n ≤ server.maxSteps → s.maxSteps = n
  /-- So is a time between the least one and what the server allows. -/
  timeAsked : ∀ j t, asked.field? "max_time_s" = some j → toReal j = .ok t → t ≠ .nan →
    Binary64.lt t minTime = false → Binary64.lt server.maxTime t = false →
      s.maxTime.Same t ∧ (t.Fits → s.maxTime = t)
  number : server.maxTime ≠ .nan → s.maxTime ≠ .nan

def Settings.ceiling (server : Settings) (asked : Json) : Int :=
  max server.maxSteps (if truthy asked then 1 else 0)

variable {server s : Settings} {asked j : Json}

/-- The least time of a run in the binary format. -/
theorem minTime_eq : minTime = .finite false 5764607523034235 (-59) := by decide +kernel

theorem minTime_ne_nan : minTime ≠ .nan := by
  rw [minTime_eq]
  exact nofun

/-- Only the least time itself is the same number as it. -/
theorem eq_of_same_minTime {t : Binary64} (h : minTime.Same t) (ht : t.Fits) : minTime = t := by
  rw [minTime_eq] at h ⊢
  cases t with
  | nan => exact absurd rfl h.right
  | infinite negative =>
    -- every finite number lies between the infinities
    cases negative with
    | true => cases h.notAbove
    | false => cases h.notBelow
  | finite negative m e =>
    have hm : m < 2 ^ 53 := ht negative m e rfl
    exact (Binary64.eq_of_same_odd h (by decide) (by decide) hm).symm

/-- A time that is granted is the one that was asked for, or the least one. -/
theorem grantedTime_same {t cap : Binary64} (hnan : t ≠ .nan)
    (hlow : Binary64.lt t minTime = false) (hhigh : Binary64.lt cap t = false) :
    (Binary64.greatest minTime (.least t cap)).Same t ∧
      (t.Fits → Binary64.greatest minTime (.least t cap) = t) := by
  have hsame := Binary64.greatest_least_same hnan minTime_ne_nan hlow hhigh
  refine ⟨hsame, ?_⟩
  intro hfits
  -- the cap leaves the time as it is, and the floor differs from it in writing at most
  have hleast : Binary64.least t cap = t := by rw [Binary64.least, hhigh, if_neg Bool.false_ne_true]
  rw [hleast] at hsame ⊢
  rcases Binary64.greatest_eq_or minTime t with heq | heq
  · rw [heq] at hsame ⊢
    exact eq_of_same_minTime hsame hfits
  · exact heq

/-- What is asked for is either nothing or a number of commands, a time and isolation. -/
theorem cap_cases (h : server.cap asked = .ok s) :
    (truthy asked = false ∧ s = server) ∨
    (truthy asked = true ∧ ∃ fields steps time isolated, asked = .object fields ∧
      Settings.requested fields "max_steps" server.maxSteps toWhole = .ok steps ∧
      Settings.requested fields "max_time_s" server.maxTime toReal = .ok time ∧
      s = ⟨max 1 (min steps server.maxSteps), .greatest minTime (.least time server.maxTime),
        isolated || server.isolated⟩) := by
  unfold Settings.cap at h
  cases htruthy : truthy asked with
  | false =>
    rw [htruthy] at h
    exact .inl ⟨rfl, (Except.ok.inj h).symm⟩
  | true =>
    rw [htruthy] at h
    refine .inr ⟨rfl, ?_⟩
    cases asked with
    | object fields =>
      obtain ⟨steps, hsteps, htail⟩ := bind_eq_ok_iff.mp h
      obtain ⟨time, htime, hs⟩ := bind_eq_ok_iff.mp htail
      exact ⟨fields, steps, time, _, rfl, hsteps, htime, (Except.ok.inj hs).symm⟩
    | _ => cases h

theorem requested_eq {α : Type} {fields : List (String × Json)} {name : String} {own a b : α}
    {convert : Json → Except ConvertFault α} (hj : Json.lookup name fields = some j)
    (hb : convert j = .ok b) (h : Settings.requested fields name own convert = .ok a) : a = b := by
  rw [Settings.requested, hj] at h
  dsimp only at h
  rw [hb] at h
  exact (Except.ok.inj h).symm

/-- Nothing is missing in a value that has a field. -/
theorem truthy_of_field? {name : String} (h : asked.field? name = some j) : truthy asked = true := by
  cases asked with
  | object fields =>
    cases fields with
    | nil => cases h
    | cons f rest => rfl
  | _ => cases h

theorem grants_of_cap (h : server.cap asked = .ok s) : server.Grants asked s := by
  rcases cap_cases h with ⟨hnothing, rfl⟩ | ⟨hsome, fields, steps, time, isolated, rfl, hsteps, htime, rfl⟩
  -- nothing is asked for, so no field is named and the server's own limits hold
  · have hfield {name : String} {j : Json} : asked.field? name ≠ some j := by
      intro hj
      rw [truthy_of_field? hj] at hnothing
      cases hnothing
    exact {
      stepsRaised := by simp [hnothing]
      stepsFloor := fun hlt => absurd hlt (lt_irrefl _)
      timeRaised := by simp [hnothing, Binary64.lt_self]
      timeFloor := by simp [Binary64.lt_self]
      isolated := id
      stepsAsked := fun _ _ hj => absurd hj hfield
      timeAsked := fun _ _ hj => absurd hj hfield
      number := id }
  -- each number is held under the server's one first and only then lifted to its floor
  · exact {
      stepsRaised := by
        rw [hsome]
        dsimp only
        constructor
        · intro hlt
          exact ⟨rfl, by omega⟩
        · rintro ⟨-, hlt⟩
          omega
      stepsFloor := by
        dsimp only
        omega
      timeRaised := by
        rw [hsome, eq_self, true_and]
        exact Binary64.lt_greatest_least_iff
      timeFloor := fun hlt =>
        Binary64.greatest_least_of_lt (Binary64.lt_greatest_least_iff.mp hlt)
      isolated := fun hserver => by rw [hserver, Bool.or_true]
      stepsAsked := by
        intro j n hj hn hlow hhigh
        have heq : steps = n := requested_eq hj hn hsteps
        dsimp only
        omega
      timeAsked := by
        intro j t hj ht hnan hlow hhigh
        obtain rfl : time = t := requested_eq hj ht htime
        exact grantedTime_same hnan hlow hhigh
      number := fun _ => Binary64.greatest_ne_nan minTime_ne_nan }

theorem max_maxSteps_le_ceiling (h : server.cap asked = .ok s) :
    max 0 s.maxSteps ≤ server.ceiling asked := by
  unfold Settings.ceiling
  rcases cap_cases h with ⟨hnothing, rfl⟩ | ⟨hsome, -, steps, -, -, -, -, -, rfl⟩
  · rw [hnothing, if_neg Bool.false_ne_true]
    omega
  · rw [hsome, if_pos rfl]
    dsimp only
    omega

/-! ## Runs of requests -/

theorem playerFor_cases {w : World} {code : String} {restrictions : Program.Restrictions} {p : Player}
    (h : playerFor server w code restrictions asked = .ok p) :
    ∃ s, server.cap asked = .ok s ∧
      p = Player.start w code restrictions none s.budgets s.isolated 0 := by
  obtain ⟨s, hs, hp⟩ := bind_eq_ok_iff.mp h
  exact ⟨s, hs, (Except.ok.inj hp).symm⟩

theorem budget_playerFor_le {w : World} {code : String} {restrictions : Program.Restrictions}
    {p : Player} (h : playerFor server w code restrictions asked = .ok p) :
    max 0 p.budgets.maxSteps ≤ server.ceiling asked := by
  obtain ⟨s, hs, rfl⟩ := playerFor_cases h
  exact max_maxSteps_le_ceiling hs

/-- A request to run a program is answered with no more frames than it can give commands. -/
theorem length_frames_le {r : RunRequest} {frames : List Json}
    (h : (run server r).items? "frames" = some frames) :
    (frames.length : Int) ≤ server.ceiling r.settings := by
  rw [run] at h
  cases hp : playerFor server (r.world.getD .default) r.code r.restrictions r.settings with
  | error f =>
    rw [hp] at h
    cases h
  | ok p =>
    rw [hp] at h
    dsimp only at h
    cases hq : p.runAlone with
    | error f =>
      rw [hq] at h
      cases h
    | ok q =>
      rw [hq] at h
      -- a frame for each tick that was applied
      obtain rfl : q.history.map ofFrame = frames := Option.some.inj h
      obtain ⟨s, -, rfl⟩ := playerFor_cases hp
      rw [List.length_map]
      exact (Player.length_history_runAlone_le rfl hq).trans (budget_playerFor_le hp)

/-- No test of a request counts more steps than the request can give commands. -/
theorem stepCount_le_ceiling {r : TestRequest} {results : List TestResult}
    (h : runTests server r = .ok results) :
    ∀ x ∈ results, (x.stepCount : Int) ≤ server.ceiling r.settings := by
  intro x hx
  obtain ⟨reports, hreports, hflat⟩ := bind_eq_ok_iff.mp h
  cases hflat
  obtain ⟨report, hreport, hmem⟩ := List.mem_flatten.mp hx
  -- a report is that of a player for one of the worlds
  obtain ⟨⟨name, w⟩, -, hworld⟩ := exists_of_mem_mapM hreports hreport
  obtain ⟨p, hp, htests⟩ := bind_eq_ok_iff.mp hworld
  have hsteps : (x.stepCount : Int) ≤ max 0 p.budgets.maxSteps :=
    Player.stepCount_runTests_le (ok_of_mapError htests) x hmem
  exact hsteps.trans (budget_playerFor_le (ok_of_mapError hp))

/-- So it is in the answer to a request for tests. -/
theorem exists_stepCount_le {r : TestRequest} {results : List Json}
    (h : (test server r).items? "results" = some results) :
    ∀ x ∈ results, ∃ n : Nat, x.field? "step_count" = some (.nat n) ∧
      (n : Int) ≤ server.ceiling r.settings := by
  rw [test] at h
  cases hgoals : withoutGoal r with
  | cons name rest =>
    rw [hgoals] at h
    cases h
    exact List.forall_mem_nil _
  | nil =>
    rw [hgoals] at h
    dsimp only at h
    cases hr : runTests server r with
    | error message =>
      rw [hr] at h
      cases h
    | ok found =>
      rw [hr] at h
      obtain rfl : found.map ofTestResult = results := Option.some.inj h
      intro x hx
      obtain ⟨result, hresult, rfl⟩ := List.mem_map.mp hx
      exact ⟨result.stepCount, rfl, stepCount_le_ceiling hr result hresult⟩

/-- The server's limits bind every request, up to the floors. The settings that a request is granted
owe to the server what `Settings.Grants` says, and no program of a request is run for more commands
than the server allows, or for one if it allows none and something was asked for. -/
theorem limits_raised_only_to_floors (server : Settings) :
    (∀ asked s, server.cap asked = .ok s → server.Grants asked s) ∧
      (∀ q r, Request.Asks q .run runRequest r → ∀ frames,
        (answer server q).items? "frames" = some frames →
          (frames.length : Int) ≤ server.ceiling r.settings) ∧
      ∀ q r, Request.Asks q .test testRequest r → ∀ results,
        (answer server q).items? "results" = some results →
          ∀ x ∈ results, ∃ n : Nat, x.field? "step_count" = some (.nat n) ∧
            (n : Int) ≤ server.ceiling r.settings := by
  refine ⟨fun _ _ => grants_of_cap, ?_, ?_⟩
  · intro q r hq frames h
    rw [hq.answer_run] at h
    exact length_frames_le h
  · intro q r hq results h
    rw [hq.answer_test] at h
    exact exists_stepCount_le h

def strict : Settings := { standard with maxSteps := 0 }

def briefly : Json :=
  .object [("max_steps", .int 5), ("max_time_s", .real (.ofRatio false 1 2))]

def briefRequest : Request := ⟨"POST", "/run", .document (.object
  [("code", .string "move()\nmove()"), ("settings", briefly)])⟩

/-- The standard server grants what is asked for. The strict one raises its limit to one command, and
its answer has no more frames than that. -/
theorem limits_raised_only_to_floors_briefly :
    (∃ s, standard.cap briefly = .ok s ∧ s.maxSteps = 5 ∧ s.maxTime = .ofRatio false 1 2) ∧
      (∃ s, strict.cap briefly = .ok s ∧ s.maxSteps = 1) ∧
      ∃ frames, (answer strict briefRequest).items? "frames" = some frames ∧ frames.length ≤ 1 := by
  obtain ⟨hstandard, -, -⟩ := limits_raised_only_to_floors standard
  obtain ⟨hstrict, hframes, -⟩ := limits_raised_only_to_floors strict
  obtain ⟨s, hs⟩ := exists_eq_ok_of_isOk (x := standard.cap briefly) rfl
  obtain ⟨s', hs'⟩ := exists_eq_ok_of_isOk (x := strict.cap briefly) rfl
  have hgrants := hstandard briefly s hs
  have hgrants' := hstrict briefly s' hs'
  have hasks : briefRequest.Asks .run runRequest ⟨"move()\nmove()", none, {}, briefly⟩ :=
    ⟨by decide +kernel, rfl, rfl⟩
  have hanswered : ((answer strict briefRequest).items? "frames").isSome = true := by
    decide +kernel
  refine ⟨⟨s, hs, ?_, ?_⟩, ⟨s', hs', ?_⟩, ?_⟩
  · exact hgrants.stepsAsked (.int 5) 5 rfl rfl (by decide) (by decide)
  · obtain ⟨-, hequal⟩ := hgrants.timeAsked (.real (.ofRatio false 1 2)) _ rfl rfl (by decide)
      (by decide +kernel) (by decide +kernel)
    have hhalf : Binary64.ofRatio false 1 2 = .finite false (2 ^ 52) (-53) := by decide +kernel
    refine hequal ?_
    intro negative m e h
    rw [hhalf] at h
    cases h
    decide
  · exact hgrants'.stepsFloor (hgrants'.stepsRaised.mpr ⟨rfl, by decide⟩)
  · obtain ⟨frames, h⟩ := Option.isSome_iff_exists.mp hanswered
    have hle : (frames.length : Int) ≤ strict.ceiling briefly := hframes _ _ hasks frames h
    have hone : strict.ceiling briefly = 1 := by decide
    exact ⟨frames, h, by omega⟩

/-- A request makes a strict server apply a command that the server does not allow. -/
theorem strict_limit_raised :
    (∃ s, strict.cap briefly = .ok s ∧ strict.maxSteps < s.maxSteps) ∧
      ∃ frames, (answer strict briefRequest).items? "frames" = some frames ∧
        strict.maxSteps < frames.length := by
  have hframes : (((answer strict briefRequest).items? "frames").map List.length) = some 1 := by
    decide +kernel
  obtain ⟨frames, h, hlength⟩ := Option.map_eq_some_iff.mp hframes
  have hnone : strict.maxSteps = 0 := rfl
  exact ⟨⟨_, rfl, by decide⟩, frames, h, by omega⟩

end KarelLab.Service
