import KarelLab.Proofs.Isolation.InPlace
import KarelLab.Proofs.Playback.Consistency

/-!
# Players whose programs a worker records

Whether a program is recorded in place or by a worker makes no difference to a player: as long as no
limit on the time is hit, whatever is done with two players of either kind, they go through the same
states.
-/

namespace KarelLab.Playback

open Isolation

def Operation.Supplies : Operation → Prop
  | .loadWorld w => w.WellFormed
  | .runTests (some s) => ∀ x ∈ s.worlds, x.2.WellFormed
  | _ => True

theorem Operation.Supplies.accepted {op : Operation} (h : op.Supplies) : op.Accepted := by
  cases op with
  | loadWorld w => exact h
  | _ => trivial

namespace Player

variable {p : Player} {limit : Binary64}

def isolate (p : Player) : Player := { p with isolated := true }

theorem finish_isolate (p : Player) : p.isolate.finish = p.finish.isolate := by
  have hrecording : p.isolate.recording = p.recording := rfl
  rw [finish, finish, hrecording]
  cases p.recording.bind (·.error) <;> rfl

theorem applyTick_isolate (p : Player) (t : Tick) :
    p.isolate.applyTick t = (p.applyTick t).isolate := by
  unfold applyTick
  cases t.outcome <;> rfl

theorem tick?_isolate (p : Player) : p.isolate.tick? = p.tick?.map isolate := by
  have hstate : p.isolate.state = p.state := rfl
  have hrecording : p.isolate.recording = p.recording := rfl
  have hcursor : p.isolate.cursor = p.cursor := rfl
  rw [tick?, tick?, hstate, hrecording, hcursor]
  split
  · rfl
  · cases p.recording with
    | none => rfl
    | some r =>
      dsimp only
      cases r.ticks[p.cursor]? with
      | none => exact congrArg some p.finish_isolate
      | some t =>
        have happlied : (p.applyTick t).isolate.cursor = (p.applyTick t).cursor := rfl
        dsimp only
        rw [applyTick_isolate, happlied]
        split
        · exact congrArg some (finish_isolate _)
        · rfl

theorem tickAll_isolate (p : Player) (n : Nat) : p.isolate.tickAll n = (p.tickAll n).isolate := by
  induction n generalizing p with
  | zero => rfl
  | succ n ih =>
    rw [tickAll, tickAll, tick?_isolate]
    cases p.tick? with
    | none => rfl
    | some q => exact ih q

/-- What is promised of a player so that recordings by a worker are those made in place: its worlds
are accepted, it knows the commands that programs may use, and its limit on the time is a number. -/
structure Recordable (p : Player) (limit : Binary64) : Prop where
  supplied : p.Supplied
  known : Known p.restrictions
  limited : p.budgets.limit = .seconds limit
  inPlace : p.isolated = false

def InTime (p : Player) (limit : Binary64) (w : World) : Prop :=
  Isolation.InTime p.code w p.restrictions p.budgets.maxSteps limit defaultTimeout

instance (p : Player) (limit : Binary64) (w : World) : Decidable (p.InTime limit w) :=
  inferInstanceAs (Decidable (Isolation.InTime ..))

theorem record_isolate {tree : Program.Tree} (h : p.Recordable limit)
    (hreview : Program.review p.restrictions p.code = .ok tree) (ht : p.InTime limit p.initial) :
    p.isolate.record = p.record := by
  have heq := recordIsolated_eq h.supplied.initial h.known ht
  have hbudgets : p.budgets = ⟨p.budgets.maxSteps, .seconds limit⟩ := by rw [← h.limited]
  have hisolated : p.isolate.record = .ok (recordIsolated p.code p.initial p.restrictions
      ⟨p.budgets.maxSteps, .seconds limit⟩ defaultTimeout) := by
    rw [← hbudgets]
    rfl
  rw [hisolated, ← heq, recordInPlace, hreview, record, h.inPlace, h.limited]
  rfl

theorem enter_isolate (h : p.Recordable limit)
    (ht : p.state.status = .idle → p.InTime limit p.initial) :
    p.isolate.enter = (p.enter.1, p.enter.2.isolate) := by
  have hstate : p.isolate.state = p.state := rfl
  by_cases hi : p.state.status = .idle
  · have hi' : p.isolate.state.status = .idle := hi
    cases hreview : Program.review p.restrictions p.code with
    | error e =>
      have hreview' : Program.review p.isolate.restrictions p.isolate.code = .error e := hreview
      rw [enter_of_rejected hi' hreview', enter_of_rejected hi hreview]
      rfl
    | ok tree =>
      have hreview' : Program.review p.isolate.restrictions p.isolate.code = .ok tree := hreview
      have hrecord : ({ p.isolate with generation := p.isolate.generation + 1 } : Player).record =
          ({ p with generation := p.generation + 1 } : Player).record :=
        record_isolate h hreview (ht hi)
      simp only [enter, hi, hi', hreview, hreview', ↓reduceIte, hrecord]
      cases ({ p with generation := p.generation + 1 } : Player).record with
      | error u => rfl
      | ok r =>
        dsimp only
        split <;> rfl
  · have hi' : p.isolate.state.status ≠ .idle := hi
    simp only [enter, hi, hi', ↓reduceIte]
    rfl

theorem runAlone_isolate (h : p.Recordable limit)
    (ht : p.state.status = .idle → p.InTime limit p.initial) :
    p.isolate.runAlone = p.runAlone.map isolate := by
  unfold runAlone
  rw [enter_isolate h ht]
  cases p.enter with
  | mk answer q =>
    cases answer with
    | error f => rfl
    | ok running => exact congrArg Except.ok (q.tickAll_isolate _)

theorem onWorld_recordable (h : p.Recordable limit) {w : World} (hw : w.WellFormed) :
    (p.onWorld w).Recordable limit :=
  ⟨⟨hw, nofun⟩, h.known, h.limited, h.inPlace⟩

theorem runTest_isolate (h : p.Recordable limit) (predicate : Lesson.Predicate) (name : String)
    {w : World} (hw : w.WellFormed) (ht : p.InTime limit w) :
    p.isolate.runTest predicate name w = p.runTest predicate name w := by
  have halone : (p.isolate.onWorld w).runAlone = (p.onWorld w).runAlone.map isolate :=
    runAlone_isolate (p := p.onWorld w) (onWorld_recordable h hw) fun _ => ht
  unfold runTest
  rw [halone]
  cases (p.onWorld w).runAlone <;> rfl

def testWorlds (p : Player) (suite : Option Lesson.Suite) : List World :=
  ((suite.or p.suite).map fun s => s.worlds.map (·.2)).getD []

theorem runTests_isolate (h : p.Recordable limit) {suite : Option Lesson.Suite}
    (hs : (Operation.runTests suite).Supplies) (ht : ∀ w ∈ p.testWorlds suite, p.InTime limit w) :
    p.isolate.runTests suite = p.runTests suite := by
  have hsuite : p.isolate.suite = p.suite := rfl
  unfold testWorlds at ht
  rw [runTests, runTests, hsuite]
  cases hor : suite.or p.suite with
  | none => rfl
  | some s =>
    rw [hor, Option.map_some, Option.getD_some] at ht
    have hworlds : ∀ x ∈ s.worlds, x.2.WellFormed := by
      cases suite with
      | none => exact h.supplied.suite s hor
      | some own =>
        cases hor
        exact hs
    have htests : s.worlds.mapM (fun x => p.isolate.runTest s.predicate x.1 x.2) =
        s.worlds.mapM (fun x => p.runTest s.predicate x.1 x.2) :=
      mapM_congr fun x hx =>
        runTest_isolate h s.predicate x.1 (hworlds x hx) (ht x.2 (List.mem_map_of_mem hx))
    dsimp only
    split
    · rfl
    · exact htests

end Player

namespace Config

variable {ε : Type} {e : Environment ε} {c : Config ε} {limit : Binary64}

def isolate (c : Config ε) : Config ε := { c with player := c.player.isolate }

@[simp] theorem player_isolate (c : Config ε) : c.isolate.player = c.player.isolate := rfl

def records (c : Config ε) : List World :=
  match c.stack with
  | .enter _ :: _ => if c.player.state.status = .idle then [c.player.initial] else []
  | .perform (.runTests suite) :: _ => c.player.testWorlds suite
  | _ => []

def InTime (c : Config ε) (limit : Binary64) : Prop :=
  ∀ w ∈ c.records, c.player.InTime limit w

instance (c : Config ε) (limit : Binary64) : Decidable (c.InTime limit) :=
  inferInstanceAs (Decidable (∀ w ∈ _, _))

theorem cut_isolate (c : Config ε) (f : PlayerFault) : c.isolate.cut e f = (c.cut e f).isolate := by
  have henv : c.isolate.env = c.env := rfl
  have hstack : c.isolate.stack = c.stack := rfl
  unfold cut
  rw [henv, hstack]
  cases unwind e f c.env c.stack <;> rfl

theorem begin_isolate (op : Operation)
    (htests : ∀ suite, op = .runTests suite →
      c.player.isolate.runTests suite = c.player.runTests suite) :
    c.isolate.begin e op = (c.begin e op).isolate := by
  have hpause : c.player.isolate.pause? = c.player.pause?.map Player.isolate := by
    unfold Player.pause?
    have hstate : c.player.isolate.state = c.player.state := rfl
    rw [hstate]
    split <;> rfl
  cases op with
  | step =>
    rw [begin, begin, player_isolate, hpause]
    cases c.player.pause? <;> rfl
  | pause =>
    rw [begin, begin, player_isolate, hpause]
    cases c.player.pause? <;> rfl
  | loadCode text =>
    have hstate : c.isolate.player.state = c.player.state := rfl
    rw [begin, begin, hstate]
    split <;> rfl
  | loadTestWorld name =>
    have hsuite : c.isolate.player.suite = c.player.suite := rfl
    rw [begin, begin, hsuite]
    cases c.player.suite.bind (·.loadable? name) with
    | none => exact cut_isolate c _
    | some w => rfl
  | setSpeed s =>
    rw [begin, begin]
    cases s.toDelay with
    | error f => exact cut_isolate c f
    | ok d => rfl
  | runTests suite =>
    rw [begin, begin, player_isolate, htests suite rfl]
    cases c.player.runTests suite with
    | error f => exact cut_isolate c f
    | ok results => rfl
  | unsubscribe =>
    have hhandle : c.isolate.player.handle = c.player.handle := rfl
    rw [begin, begin, hhandle]
    cases c.player.handle with
    | none => exact cut_isolate c _
    | some l => rfl
  | refuse f => exact cut_isolate c f
  | run | play | reset | tick _ | loadWorld _ | setMaxSteps _ | subscribe _ => rfl

theorem resume_isolate (f : Frame)
    (htests : ∀ suite, f = .perform (.runTests suite) →
      c.player.isolate.runTests suite = c.player.runTests suite)
    (henter : ∀ g, f = .enter g →
      c.player.isolate.enter = (c.player.enter.1, c.player.enter.2.isolate)) :
    c.isolate.resume e f = (c.resume e f).isolate := by
  have hstate : c.isolate.player.state = c.player.state := rfl
  cases f with
  | perform op => exact begin_isolate op fun suite hop => htests suite (congrArg _ hop)
  | notify ls => cases ls <;> rfl
  | react n =>
    have henv : c.isolate.env = c.env := rfl
    rw [resume, resume, henv]
    cases e.answer n c.env <;> rfl
  | start g =>
    rw [resume, resume, hstate]
    split <;> rfl
  | enter g =>
    rw [resume, resume, player_isolate, henter g rfl]
    cases c.player.enter with
    | mk answer q =>
      cases answer with
      | error fault => exact cut_isolate { c with player := q } _
      | ok running => cases running <;> rfl
  | begin g => cases g <;> rfl
  | loop s g =>
    have hgeneration : c.isolate.player.generation = c.player.generation := rfl
    rw [resume, resume, hstate, hgeneration]
    split <;> rfl
  | wait s g =>
    have hwaits : c.isolate.waits = c.waits := rfl
    rw [resume, resume, hstate]
    split
    · rfl
    · split <;> rfl
  | tick n =>
    cases n with
    | zero => rfl
    | succ n =>
      rw [resume, resume, player_isolate, Player.tick?_isolate]
      cases c.player.tick? <;> rfl
  | settleStep =>
    rw [resume, resume, hstate]
    split <;> rfl
  | setCode text => rfl

/-- A step in time does the same whether programs are recorded by a worker or in place. -/
theorem step_isolate (h : c.player.Recordable limit) (hf : ∀ f ∈ c.stack, f.Of Operation.Supplies)
    (ht : c.InTime limit) : c.isolate.step e = (c.step e).isolate := by
  have hstack : c.isolate.stack = c.stack := rfl
  cases hs : c.stack with
  | nil => rw [step_of_nil (hstack.trans hs), step_of_nil hs]
  | cons f rest =>
    rw [step_eq (hstack.trans hs), step_eq hs]
    unfold InTime records at ht
    rw [hs] at ht
    have hop : f.Of Operation.Supplies := hf f (by rw [hs]; exact List.mem_cons_self)
    refine resume_isolate (c := { c with stack := rest }) f ?_ ?_
    · rintro suite rfl
      exact Player.runTests_isolate h hop ht
    · rintro g rfl
      refine Player.enter_isolate h fun hi => ht _ ?_
      rw [if_pos hi]
      exact List.mem_singleton_self _

end Config

namespace Player

variable {p q : Player} {limit : Binary64} {f : Frame}

theorem Recordable.moves (h : p.Recordable limit) (hf : f.Of Operation.Supplies)
    (hm : Moves p f q) : q.Recordable limit := by
  have haccepted : f.Of Operation.Accepted := by
    cases f with
    | perform op => exact Operation.Supplies.accepted hf
    | setCode text => trivial
    | _ => trivial
  have hframe : q.restrictions = p.restrictions ∧ q.budgets.limit = p.budgets.limit ∧
      q.isolated = p.isolated := by
    cases hm with
    | pause hp =>
      obtain ⟨-, rfl⟩ := pause?_eq_some hp
      exact ⟨rfl, rfl, rfl⟩
    | enter g =>
      rw [enter_frame]
      exact ⟨rfl, rfl, rfl⟩
    | tick n ht =>
      rw [tick?_frame ht]
      exact ⟨rfl, rfl, rfl⟩
    | _ => exact ⟨rfl, rfl, rfl⟩
  obtain ⟨hrestrictions, hlimit, hisolated⟩ := hframe
  exact ⟨h.supplied.moves haccepted hm, hrestrictions ▸ h.known, hlimit ▸ h.limited,
    hisolated ▸ h.inPlace⟩

variable {ε : Type} {e : Environment ε} {limit : Binary64}

theorem proceed_isolate {c : Config ε} (hc : c.isolate.step e = (c.step e).isolate)
    (calls : List (Operation × ε)) :
    proceed e (c.isolate, calls) =
      ((proceed e (c, calls)).1.isolate, (proceed e (c, calls)).2) := by
  have hstack : c.isolate.stack = c.stack := rfl
  simp only [proceed, hstack]
  split
  · rfl
  · rw [hc]

/-- Operations that are carried out one after another lead both kinds of player through the same
configurations. -/
theorem operated_isolate {p : Player} (hp : p.Recordable limit) (env : ε)
    {calls : List (Operation × ε)} (hcalls : ∀ call ∈ calls, call.1.Supplies)
    (he : ∀ n env op env', e.answer n env = some (op, env') → op.Supplies) {n : Nat}
    (ht : ∀ i < n, (operated e { player := p, env := env } calls i).InTime limit) :
    ∀ i ≤ n, operated e { player := p.isolate, env := env } calls i =
      (operated e { player := p, env := env } calls i).isolate := by
  have hcourse := Course.of_operated e p env hcalls he
  have hrecordable := hcourse.always_player (P := (Recordable · limit)) hp
    fun _ _ _ hq hf hm => hq.moves hf hm
  have hstep (i : Nat) (hi : i < n) :
      (operated e { player := p, env := env } calls i).isolate.step e =
        ((operated e { player := p, env := env } calls i).step e).isolate :=
    Config.step_isolate (hrecordable i) (hcourse.stack_of i) (ht i hi)
  -- along with the configurations, the operations that are left are the same
  have hboth (i : Nat) (hi : i ≤ n) :
      Nat.repeat (proceed e) i ({ player := p.isolate, env := env }, calls) =
        ((operated e { player := p, env := env } calls i).isolate,
          (Nat.repeat (proceed e) i ({ player := p, env := env }, calls)).2) := by
    induction i with
    | zero => rfl
    | succ i ih =>
      change proceed e (Nat.repeat (proceed e) i ({ player := p.isolate, env := env }, calls)) = _
      rw [ih (Nat.le_of_succ_le hi)]
      exact proceed_isolate (hstep i hi) _
  intro i hi
  exact congrArg Prod.fst (hboth i hi)

end Player

/-- As long as no limit on the time is hit, a worker makes no difference. What it sends back is the
recording that a review and a recording in place give. So whatever operations are carried out, also
by listeners, the player whose programs a worker records and the one whose programs are recorded in
place are the same at all times but for that, tell the same and find out the same by tests. -/
theorem isolation_changes_nothing :
    (∀ (code : String) (w : World) (restrictions : Program.Restrictions) (maxSteps : Int)
      (limit timeout : Binary64), w.WellFormed → Known restrictions →
      Isolation.InTime code w restrictions maxSteps limit timeout →
      recordInPlace code w restrictions ⟨maxSteps, .seconds limit⟩ =
        .ok (recordIsolated code w restrictions ⟨maxSteps, .seconds limit⟩ timeout)) ∧
    ∀ {ε : Type} (e : Environment ε) (env : ε) (w : World) (code : String)
      (restrictions : Program.Restrictions) (suite : Option Lesson.Suite) (maxSteps : Int)
      (limit : Binary64) (d : Nat) (calls : List (Operation × ε)) (n : Nat),
      let c (isolated : Bool) := operated e
        { player := .start w code restrictions suite ⟨maxSteps, .seconds limit⟩ isolated d, env := env }
        calls
      w.WellFormed → (∀ s, suite = some s → ∀ x ∈ s.worlds, x.2.WellFormed) → Known restrictions →
      (∀ call ∈ calls, call.1.Supplies) →
      (∀ n env op env', e.answer n env = some (op, env') → op.Supplies) →
      (∀ i < n, (c false i).InTime limit) →
      ∀ i ≤ n, c true i = (c false i).isolate ∧
        ∀ tested rest, i < n → (c false i).stack = .perform (.runTests tested) :: rest →
          (c true i).player.runTests tested = (c false i).player.runTests tested := by
  refine ⟨fun code w restrictions maxSteps limit timeout hw hk ht => recordIsolated_eq hw hk ht, ?_⟩
  intro ε e env w code restrictions suite maxSteps limit d calls n c hw hsuite hk hcalls he ht i hi
  have hp : (Player.start w code restrictions suite ⟨maxSteps, .seconds limit⟩ false d).Recordable
      limit := ⟨⟨hw, hsuite⟩, hk, rfl, rfl⟩
  have hsame : c true i = (c false i).isolate := Player.operated_isolate hp env hcalls he ht i hi
  refine ⟨hsame, ?_⟩
  intro tested rest hlt hstack
  -- the tests run on players of their own, each of which records in time by assumption
  have hcourse : Course e Operation.Supplies _ (c false) := .of_operated e _ env hcalls he
  have hrecordable := hcourse.always_player (P := (Player.Recordable · limit)) hp
    fun _ _ _ hq hf hm => hq.moves hf hm
  have hop : (Frame.perform (.runTests tested)).Of Operation.Supplies :=
    hcourse.stack_of i _ (by rw [hstack]; exact List.mem_cons_self)
  have hintime : (c false i).InTime limit := ht i hlt
  unfold Config.InTime Config.records at hintime
  rw [hstack] at hintime
  rw [hsame]
  exact Player.runTests_isolate (hrecordable i) hop hintime

/-- A program is tested, and then a listener pauses a play of it, with a worker and without. -/
theorem isolation_changes_nothing_paused_play :
    let suite : Lesson.Suite := ⟨[("field", .default)], .always true, []⟩
    let c (isolated : Bool) := operated (.once (fun _ => true) .pause)
      { player := .start .default "move()" {} (some suite) ⟨10, .seconds Isolation.defaultLimit⟩
          isolated 300
        env := false } [(.runTests none, false), (.subscribe 0, false), (.play, true)]
    recordInPlace "move()" .default {} ⟨10, .seconds Isolation.defaultLimit⟩ =
      .ok (recordIsolated "move()" .default {} ⟨10, .seconds Isolation.defaultLimit⟩
        defaultTimeout) ∧
    (c true 1).player.runTests none = (c false 1).player.runTests none ∧
    (c true 11).player = (c false 11).player.isolate := by
  intro suite c
  have hw : World.default.WellFormed := by constructor <;> decide
  have hk : Known {} := by decide
  have hsuite : ∀ s, some suite = some s → ∀ x ∈ s.worlds, x.2.WellFormed := by
    intro s hs x hx
    cases hs
    cases List.mem_singleton.mp hx
    exact hw
  have hcalls : ∀ call ∈ [(Operation.runTests none, false), (.subscribe 0, false), (.play, true)],
      call.1.Supplies := by simp [Operation.Supplies]
  have hanswer (n : Notice) (waiting : Bool) (op : Operation) (left : Bool)
      (ha : (Environment.once (fun _ => true) .pause).answer n waiting = some (op, left)) :
      op.Supplies := by
    rw [(Environment.answer_once ha).2]
    trivial
  have htime : Isolation.InTime "move()" .default {} 10 Isolation.defaultLimit defaultTimeout := by
    decide +kernel
  have htimes : ∀ i < 11, (c false i).InTime Isolation.defaultLimit := by decide +kernel
  obtain ⟨hrecord, hplay⟩ := isolation_changes_nothing
  have hsame : ∀ i ≤ 11, c true i = (c false i).isolate ∧
      ∀ tested rest, i < 11 → (c false i).stack = .perform (.runTests tested) :: rest →
        (c true i).player.runTests tested = (c false i).player.runTests tested :=
    hplay _ false .default "move()" {} (some suite) 10 Isolation.defaultLimit 300 _ 11 hw hsuite hk
      hcalls hanswer htimes
  have hstack : (c false 1).stack = [.perform (.runTests none)] := rfl
  have htested := (hsame 1 (by omega)).2 none [] (by omega) hstack
  have hplayed : (c true 11).player = (c false 11).player.isolate := by
    rw [(hsame 11 (Nat.le_refl 11)).1, Config.player_isolate]
  have hrecorded := hrecord "move()" .default {} 10 Isolation.defaultLimit defaultTimeout hw hk htime
  exact ⟨hrecorded, htested, hplayed⟩

end KarelLab.Playback
