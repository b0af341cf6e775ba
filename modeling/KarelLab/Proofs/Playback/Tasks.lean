import KarelLab.Playback.Tasks
import KarelLab.Proofs.Playback.Bookkeeping
import Mathlib.Data.List.Perm.Basic

/-!
# One live play

However many plays are suspended and in whatever order they go on, at most one of them holds the
generation of the player, and one does while the player is running. The generation grows whenever a
run is entered, paused or reset, so whoever was suspended before is stale from then on.
-/

namespace KarelLab.Playback

namespace Player

variable {p q : Player} {waiting : List Nat}

def Ahead (p : Player) (waiting : List Nat) : Prop := ∀ g ∈ waiting, g ≤ p.generation

structure Free (p : Player) (waiting : List Nat) : Prop where
  ahead : p.Ahead waiting
  at_most_one : waiting.count p.generation ≤ 1
  running : p.state.status = .running → waiting.count p.generation = 1

structure Alone (p : Player) (waiting : List Nat) : Prop where
  ahead : p.Ahead waiting
  none_holds : waiting.count p.generation = 0

/-- A generation that has just begun is held by none. -/
theorem Ahead.alone (h : p.Ahead waiting) (hq : q.generation = p.generation + 1) :
    q.Alone waiting where
  ahead g hg := by
    rw [hq]
    exact Nat.le_succ_of_le (h g hg)
  none_holds := by
    rw [List.count_eq_zero, hq]
    intro hg
    have hle := h _ hg
    omega

theorem Alone.free (h : p.Alone waiting) (hs : p.state.status ≠ .running) : p.Free waiting where
  ahead := h.ahead
  at_most_one := by
    rw [h.none_holds]
    exact Nat.zero_le 1
  running hr := (hs hr).elim

/-- The generation of a player passes to a play that is suspended. -/
theorem Alone.suspend (h : p.Alone waiting) : p.Free (waiting ++ [p.generation]) := by
  have hone : (waiting ++ [p.generation]).count p.generation = 1 := by
    rw [List.count_append, h.none_holds, List.count_singleton_self]
  refine ⟨?_, Nat.le_of_eq hone, fun _ => hone⟩
  intro g hg
  rcases List.mem_append.mp hg with hg | hg
  · exact h.ahead g hg
  · exact Nat.le_of_eq (List.mem_singleton.mp hg)

theorem Free.suspend_stale {g : Nat} (h : p.Free waiting) (hg : g < p.generation) :
    p.Free (waiting ++ [g]) := by
  have hcount : (waiting ++ [g]).count p.generation = waiting.count p.generation := by
    rw [List.count_append, List.count_singleton, if_neg (by simpa using Nat.ne_of_lt hg),
      Nat.add_zero]
  refine ⟨?_, hcount ▸ h.at_most_one, fun hs => hcount ▸ h.running hs⟩
  intro g' hg'
  rcases List.mem_append.mp hg' with hg' | hg'
  · exact h.ahead g' hg'
  · rw [List.mem_singleton.mp hg']
    exact Nat.le_of_lt hg

/-- A play that goes on is taken from the suspended ones: it holds the generation alone or is
stale. -/
theorem Free.resume {k g : Nat} (h : p.Free waiting) (hk : waiting[k]? = some g) :
    (g = p.generation ∧ p.Alone (waiting.eraseIdx k)) ∨
      (g < p.generation ∧ p.Free (waiting.eraseIdx k)) := by
  obtain ⟨hlt, rfl⟩ := List.getElem?_eq_some_iff.mp hk
  have hperm : (waiting[k] :: waiting.eraseIdx k).Perm waiting :=
    List.getElem_cons_eraseIdx_perm hlt
  have hcount := hperm.count_eq p.generation
  have hahead : p.Ahead (waiting.eraseIdx k) :=
    fun g hg => h.ahead g (hperm.subset (List.mem_cons_of_mem _ hg))
  have hle : waiting[k] ≤ p.generation := h.ahead _ (List.getElem_mem hlt)
  -- without the play that goes on one less holds the generation, or as many as before
  by_cases hg : waiting[k] = p.generation
  · refine .inl ⟨hg, hahead, ?_⟩
    rw [hg, List.count_cons_self] at hcount
    have hone := h.at_most_one
    omega
  · rw [List.count_cons_of_ne hg] at hcount
    refine .inr ⟨Nat.lt_of_le_of_ne hle hg, hahead, ?_, fun hs => ?_⟩
    · rw [hcount]
      exact h.at_most_one
    · rw [hcount]
      exact h.running hs

theorem generation_tick (h : p.tick? = some q) : q.generation = p.generation := by
  rw [tick?_frame h]

theorem generation_enter (p : Player) : p.enter.2.generation = p.generation + 1 := by
  rw [enter_frame]

/-- A tick is applied for whoever holds the generation. -/
theorem Free.tick (h : p.Free waiting) (ht : p.tick? = some q) : q.Free waiting := by
  have hg := generation_tick ht
  have hs := (tick?_eq_some ht).1
  have hone := h.running hs
  refine ⟨?_, ?_, ?_⟩
  · intro g hm
    rw [hg]
    exact h.ahead g hm
  · exact Nat.le_of_eq (by rw [hg, hone])
  · intro _
    rw [hg, hone]

theorem Alone.tick (h : p.Alone waiting) (ht : p.tick? = some q) : q.Alone waiting := by
  have hg := generation_tick ht
  refine ⟨?_, ?_⟩
  · intro g hm
    rw [hg]
    exact h.ahead g hm
  · rw [hg, h.none_holds]

end Player

/-- What can be left to be done of an operation or of a play that goes on, as long as nobody
answers. Until a run is entered the suspended plays are as between two operations; whoever has
entered a run holds the generation alone. -/
inductive Segment (p : Player) (waiting : List Nat) : List Frame → Prop
  | done (h : p.Free waiting) : Segment p waiting []
  | perform (op : Operation) (h : p.Free waiting) : Segment p waiting [.perform op]
  | start (g : Aim) (h : p.Free waiting) : Segment p waiting [.start g]
  | enter (g : Aim) (h : p.Free waiting) : Segment p waiting [.enter g]
  | ticks (n : Nat) (h : p.Free waiting) : Segment p waiting [.tick n]
  | setCode (text : String) (h : p.Free waiting) : Segment p waiting [.setCode text]
  | stale (s : Source) {g : Nat} (h : p.Free waiting) (hg : g < p.generation) :
    Segment p waiting [.loop s g]
  | begin (g : Aim) (h : p.Alone waiting) : Segment p waiting [.begin g]
  | loop (s : Source) (h : p.Alone waiting) : Segment p waiting [.loop s p.generation]
  | work (s : Source) {g : Nat} (n : Nat) (h : p.Alone waiting) (hg : g = p.generation) :
    Segment p waiting [.tick n, .wait s g]
  | wait (s : Source) (h : p.Alone waiting) : Segment p waiting [.wait s p.generation]
  | single (n : Nat) (h : p.Alone waiting) : Segment p waiting [.tick n, .settleStep]
  | settle (h : p.Alone waiting) : Segment p waiting [.settleStep]
  | notify {stack : List Frame} (ls : List Nat) (h : Segment p waiting stack) :
    Segment p waiting (.notify ls :: stack)
  | react {stack : List Frame} (n : Notice) (h : Segment p waiting stack) :
    Segment p waiting (.react n :: stack)

variable {p q : Player} {waiting : List Nat} {f : Frame} {fs rest : List Frame}

/-- An operation begins where the suspended plays are as between two operations. -/
theorem Segment.perform_turn {op : Operation} (h : p.Free waiting)
    (ht : Turn p (.perform op) q fs) : Segment q waiting fs := by
  have hreset (q : Player) (hq : q.generation = p.generation + 1)
      (hs : q.state.status ≠ .running) : q.Free waiting := (h.ahead.alone hq).free hs
  cases ht with
  | run => exact .start _ h
  | play => exact .start _ h
  | stepRunning hp =>
    obtain ⟨-, rfl⟩ := Player.pause?_eq_some hp
    exact .notify _ (.start _ (hreset _ rfl nofun))
  | step _ => exact .start _ h
  | pause hp =>
    obtain ⟨-, rfl⟩ := Player.pause?_eq_some hp
    exact .notify _ (.done (hreset _ rfl nofun))
  | noPause _ => exact .done h
  | reset => exact .notify _ (.done (hreset _ rfl nofun))
  | ticks n => exact .ticks n h
  | code text _ => exact .done { h with }
  | recode text _ => exact .notify _ (.setCode text (hreset _ rfl nofun))
  | load _ => exact .notify _ (.done (hreset _ rfl nofun))
  | speed _ => exact .notify _ (.done { h with })
  | budget n => exact .done { h with }
  | tests suite => exact .done h
  | subscribe l => exact .done { h with }
  | unsubscribe l => exact .done { h with }

/-- A turn of the frame on top leads on to what can be left to be done. -/
theorem Segment.turn (h : Segment p waiting (f :: rest)) (ht : Turn p f q fs) :
    Segment q waiting (fs ++ rest) := by
  -- an entry makes all suspended plays stale, and from then on none holds the generation
  cases h with
  | perform op h =>
    rw [List.append_nil]
    exact perform_turn h ht
  | start g h =>
    cases ht with
    | again _ _ => exact .notify _ (.enter g ((h.ahead.alone rfl).free nofun))
    | start _ _ => exact .enter g h
  | enter g h =>
    have hg : q.generation = p.generation + 1 := by
      rw [← p.generation_enter]
      cases ht with
      | enter _ he => rw [he]
      | failEntry _ he => rw [he]
    cases ht with
    | enter _ _ => exact .notify _ (.begin g (h.ahead.alone hg))
    | failEntry _ he =>
      have hs := Player.status_of_not_entered he (by simp)
      exact .notify _ (.done ((h.ahead.alone hg).free hs))
  | ticks n h =>
    cases ht with
    | noTicks => exact .done h
    | tick n ht => exact .notify _ (.ticks n (h.tick ht))
    | noTick n _ => exact .ticks n h
  | setCode text h =>
    cases ht with
    | setCode _ => exact .done { h with }
  | stale s h hg =>
    cases ht with
    | loop _ _ => omega
    | leave _ _ _ => exact .done h
  | begin g h =>
    cases ht with
    | beginLoop s => exact .loop s h
    | beginSingle => exact .single 1 h
  | loop s h =>
    cases ht with
    | loop _ _ => exact .work s 1 h rfl
    | leave _ _ hs => exact .done (h.free fun hr => hs ⟨hr, rfl⟩)
  | work s n h hg =>
    subst hg
    cases ht with
    | noTicks => exact .wait s h
    | tick n ht => exact .notify _ (.work s n (h.tick ht) (Player.generation_tick ht).symm)
    | noTick n _ => exact .work s n h rfl
  | wait s h =>
    cases ht with
    | stop _ _ hs => exact .done (h.free hs)
    | hurry _ _ _ => exact .loop .run h
    | wait _ _ k _ => exact .react _ (.loop s h)
  | single n h =>
    cases ht with
    | noTicks => exact .settle h
    | tick n ht => exact .notify _ (.single n (h.tick ht))
    | noTick n _ => exact .single n h
  | settle h =>
    have hpaused : (p.withStatus .paused).Alone waiting := { h with }
    cases ht with
    | settle _ => exact .notify _ (.done (hpaused.free nofun))
    | settled hs => exact .done (h.free hs)
  | notify ls h =>
    cases ht with
    | told => exact h
    | tell l ls => exact .react _ (.notify ls h)
  | react n h =>
    cases ht with
    | heard _ => exact h

/-- A fault ends everything that was left to be done. -/
theorem Segment.stop {fault : PlayerFault} (h : Segment p waiting (f :: rest))
    (hs : Stop p f q fault) : rest = [] ∧ q.Free waiting := by
  cases h with
  | perform op h => cases hs <;> exact ⟨rfl, h⟩
  | enter g h =>
    cases hs with
    | enter _ he =>
      have hg : q.generation = p.generation + 1 := by rw [← p.generation_enter, he]
      exact ⟨rfl, (h.ahead.alone hg).free (Player.status_of_not_entered he (by simp))⟩
  | _ => cases hs

namespace Tasks

variable {ε : Type} {e : Environment ε} {t : Tasks ε}

def Live (t : Tasks ε) : Prop := Segment t.config.player t.waiting t.config.stack

theorem waitingPlay?_eq_some {c : Config ε} {g : Nat} (h : c.waitingPlay? = some g) :
    ∃ k d, c.stack = [.react (.waited k d), .loop .play g] := by
  unfold Config.waitingPlay? at h
  split at h
  · rename_i k d g' hs
    cases h
    exact ⟨k, d, hs⟩
  · cases h

theorem Live.step (he : ∀ n env, e.answer n env = none) (h : t.Live) : (t.step e).Live := by
  rw [Tasks.step]
  split
  -- a play that waits is put aside, be it the live one or a stale one
  · rename_i g hw
    obtain ⟨k, d, hs⟩ := waitingPlay?_eq_some hw
    rw [Live, hs] at h
    refine .done ?_
    cases h with
    | react _ h =>
      cases h with
      | stale _ h hg => exact h.suspend_stale hg
      | loop _ h => exact h.suspend
  · cases hs : t.config.stack with
    | nil =>
      rw [Config.step_of_nil hs]
      exact h
    | cons f rest =>
      rw [Live, hs] at h
      rw [Live]
      cases Config.step_cases e hs with
      | turn ht _ hst _ =>
        rw [hst]
        exact h.turn ht
      | answer _ ha _ _ _ =>
        rw [he] at ha
        cases ha
      | stop hp hst _ =>
        obtain ⟨rfl, hf⟩ := h.stop hp
        rw [List.suffix_nil.mp hst]
        exact .done hf

/-- Between two operations at most one suspended play holds the generation. -/
theorem Live.free (h : t.Live) (hs : t.config.stack = []) : t.config.player.Free t.waiting := by
  rw [Live, hs] at h
  cases h with
  | done h => exact h

theorem Live.next {t' : Tasks ε} (he : ∀ n env, e.answer n env = none) (h : t.Live)
    (hn : Next e t t') : t'.Live := by
  cases hn with
  | step => exact h.step he
  | call op env free => exact .perform op (h.free free)
  | resume free hr =>
    rw [resume?] at hr
    obtain ⟨g, hk, rfl⟩ := Option.map_eq_some_iff.mp hr
    rcases (h.free free).resume hk with ⟨rfl, ha⟩ | ⟨hg, hf⟩
    · exact .loop .play ha
    · exact .stale .play hf hg

theorem Next.leads {t' : Tasks ε} (hn : Next e t t') : t.config.Leads t'.config := by
  cases hn with
  | call op env free => exact Config.leads_of_nil free rfl
  | resume free hr =>
    rw [resume?] at hr
    obtain ⟨g, -, rfl⟩ := Option.map_eq_some_iff.mp hr
    exact Config.leads_of_nil free rfl
  | step =>
    rw [Tasks.step]
    split
    · rename_i g hw
      obtain ⟨k, d, hs⟩ := waitingPlay?_eq_some hw
      exact .inl ⟨rfl, by rw [Config.applied?, hs]; rfl⟩
    · exact Config.leads_step e t.config

/-- A play that goes on ends at once and changes nothing, unless the player is running and it holds
the generation. -/
theorem resume_stale {k g : Nat} (hk : t.waiting[k]? = some g)
    (hg : ¬ (t.config.player.state.status = .running ∧ g = t.config.player.generation)) :
    ∃ t', t.resume? k = some t' ∧ t'.config.applied? = none ∧ (t'.step e).config.stack = [] ∧
      (t'.step e).config.player = t.config.player ∧
      (t'.step e).waiting = t.waiting.eraseIdx k := by
  refine ⟨_, by rw [resume?, hk, Option.map_some], rfl, ?_⟩
  have hstep (env : ε) : ({ player := t.config.player, stack := [.loop .play g], env := env } :
      Config ε).step e = { player := t.config.player, env := env } := by
    change (if t.config.player.state.status = .running ∧ g = t.config.player.generation then _
      else _) = _
    exact if_neg hg
  rw [Tasks.step, Config.waitingPlay?]
  dsimp only
  rw [hstep]
  exact ⟨rfl, rfl, rfl⟩

def proceed (e : Environment ε) : Tasks ε × List (Operation × ε) → Tasks ε × List (Operation × ε)
  | (t, calls) =>
    match t.config.stack, calls with
    | [], (op, env) :: rest => (t.call op env, rest)
    | _, _ => (t.step e, calls)

def operated (e : Environment ε) (t : Tasks ε) (calls : List (Operation × ε)) (i : Nat) : Tasks ε :=
  (Nat.repeat (proceed e) i (t, calls)).1

structure Course (e : Environment ε) (p : Player) (t : Nat → Tasks ε) : Prop where
  player : (t 0).config.player = p
  stack : (t 0).config.stack = []
  waiting : (t 0).waiting = []
  next : ∀ i, Next e (t i) (t (i + 1))

variable {p : Player} {t : Nat → Tasks ε}

theorem Course.of_operated (e : Environment ε) (p : Player) (env : ε)
    (calls : List (Operation × ε)) :
    Course e p (operated e { config := { player := p, env := env } } calls) where
  player := rfl
  stack := rfl
  waiting := rfl
  next i := by
    have hnext (t : Tasks ε) (calls : List (Operation × ε)) : Next e t (proceed e (t, calls)).1 := by
      simp only [proceed]
      split
      · rename_i op env rest hs
        exact .call op env hs
      · exact .step
    exact hnext _ _

theorem Course.live (h : Course e p t) (he : ∀ n env, e.answer n env = none)
    (hp : p.state.status ≠ .running) (i : Nat) : (t i).Live := by
  induction i with
  | zero =>
    rw [Live, h.stack, h.waiting, h.player]
    exact .done ⟨nofun, Nat.zero_le 1, fun hs => (hp hs).elim⟩
  | succ i ih => exact ih.next he (h.next i)

/-- Between two operations of a player that any number of plays share, at most one suspended play
holds the generation, and one does if the player is running. A play that holds another one, or goes
on when the player is not running, ends without a tick. So the ticks of a recording are applied in
order and each of them once, whoever applies them. -/
theorem one_live_play {w : World} {code : String} {restrictions : Program.Restrictions}
    {suite : Option Lesson.Suite} {budgets : Isolation.Budgets} {isolated : Bool} {ms : Int}
    {d : Nat} (hd : checkedDelay ms = .ok d) (he : ∀ n env, e.answer n env = none)
    (h : Course e (.start w code restrictions suite budgets isolated d) t) (i : Nat) :
    ((t i).config.stack = [] →
      (t i).waiting.count (t i).config.player.generation ≤ 1 ∧
      ((t i).config.player.state.status = .running →
        (t i).waiting.count (t i).config.player.generation = 1) ∧
      ∀ k g, (t i).waiting[k]? = some g → g ≤ (t i).config.player.generation ∧
        (g ≠ (t i).config.player.generation ∨ (t i).config.player.state.status ≠ .running →
          ∃ t', (t i).resume? k = some t' ∧ t'.config.applied? = none ∧
            (t'.step e).config.stack = [] ∧
            (t'.step e).config.player = (t i).config.player ∧
            (t'.step e).waiting = (t i).waiting.eraseIdx k)) ∧
    appliedTicks (fun j => (t j).config) i = (t i).config.player.history ∧
    ∀ r, (t i).config.player.recording = some r →
      appliedTicks (fun j => (t j).config) i <+: r.ticks.toList := by
  have hb := Player.booked_start w code restrictions suite budgets isolated (checkedDelay_le hd)
  have happlied : appliedTicks (fun j => (t j).config) i = (t i).config.player.history := by
    refine appliedTicks_eq_history (fun j => (h.next j).leads) ?_ ?_ i
    · exact h.player.symm ▸ hb
    · exact congrArg Player.recording h.player
  refine ⟨?_, happlied, ?_⟩
  · intro hs
    have hfree := (h.live he nofun i).free hs
    refine ⟨hfree.at_most_one, hfree.running, ?_⟩
    intro k g hk
    refine ⟨hfree.ahead g (List.mem_of_getElem? hk), ?_⟩
    intro hg
    -- a play of an older generation, or one that finds nothing running, goes away at once
    refine resume_stale hk ?_
    rintro ⟨hr, he⟩
    rcases hg with hg | hg
    · exact hg he
    · exact hg hr
  · intro r hr
    rw [happlied, Player.history_of_some hr]
    exact List.take_prefix _ _

/-- Two plays that are begun one after the other: the first one is stale. -/
theorem one_live_play_of_two :
    let e : Environment Unit := ⟨fun _ u => u, fun _ _ => none, fun _ _ _ => none⟩
    let p := Player.start .default "move()\nmove()\nmove()" {} none
      ⟨10, .seconds Isolation.defaultLimit⟩ false 300
    let t := operated e { config := { player := p, env := () } } [(.play, ()), (.play, ())]
    (t 30).waiting = [1, 2] ∧ (t 30).config.player.generation = 2 ∧
      (t 30).config.player.state.status = .running ∧
      (t 30).waiting.count (t 30).config.player.generation = 1 ∧
      (appliedTicks (fun j => (t j).config) 30).length = 2 := by
  intro e p t
  have hd : checkedDelay 300 = .ok 300 := rfl
  have h : Course e p t := .of_operated e p () _
  obtain ⟨hall, happlied, -⟩ := one_live_play hd (fun _ _ => rfl) h 30
  have heval : (t 30).waiting = [1, 2] ∧ (t 30).config.player.generation = 2 ∧
      (t 30).config.player.state.status = .running ∧ (t 30).config.stack.isEmpty = true ∧
      (t 30).config.player.history.length = 2 := by decide +kernel
  obtain ⟨hwaiting, hgeneration, hr, hs, hlength⟩ := heval
  refine ⟨hwaiting, hgeneration, hr, (hall (List.isEmpty_iff.mp hs)).2.1 hr, ?_⟩
  rw [happlied]
  exact hlength

end Tasks

end KarelLab.Playback
