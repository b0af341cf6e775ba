import KarelLab.Proofs.Playback.Course
import KarelLab.Proofs.Recording.Trace

/-!
# Listeners are never left stale

What a player shows changes in many places, and each of them tells the listeners. So what a listener
was told last is what the player shows, whenever nobody is being told. This holds as long as no
listener operates the player while it is told; operations may come while time passes, and be refused.
-/

namespace KarelLab.Playback

def Operation.Keeps : Operation → Prop
  | .unsubscribe => False
  | _ => True

def Environment.Unanswered {ε : Type} (e : Environment ε) : Prop :=
  ∀ l s w env, e.answer (.changed l s w) env = none

def Notice.isWait : Notice → Bool
  | .waited _ _ => true
  | .changed _ _ _ => false

def Frame.Tells : Frame → Prop
  | .notify _ | .react (.changed _ _ _) => True
  | _ => False

namespace Player

variable {p q : Player} {f : Frame}

def shown (p : Player) : State × World := (p.state, p.world)

/-- A change of a player keeps the count of steps, or adds one to it, or leads to the beginning of a
world. -/
theorem stepCount_moves (h : Moves p f q) :
    q.state.stepCount = p.state.stepCount ∨ q.state.stepCount = p.state.stepCount + 1 ∨
      ∃ w, q = p.load w := by
  have hfinish (p : Player) : p.finish.state.stepCount = p.state.stepCount := by rw [state_finish]
  have happly (t : Tick) : (p.applyTick t).state.stepCount = p.state.stepCount + 1 := by
    rw [state_applyTick]
  cases h with
  | pause h =>
    obtain ⟨-, rfl⟩ := pause?_eq_some h
    exact .inl rfl
  | reset => exact .inr (.inr ⟨p.initial, rfl⟩)
  | recode _ _ => exact .inr (.inr ⟨p.initial, rfl⟩)
  | again _ _ => exact .inr (.inr ⟨p.initial, rfl⟩)
  | @load op w _ => exact .inr (.inr ⟨w, rfl⟩)
  | enter g =>
    left
    have he := p.entered
    generalize p.enter = a at he ⊢
    cases he <;> rfl
  | tick n h =>
    obtain ⟨-, r, -, hk⟩ := tick?_eq_some h
    cases hk with
    | ended _ => exact .inl (hfinish p)
    | failed _ _ => exact .inr (.inl (happly _))
    | next _ _ _ => exact .inr (.inl (happly _))
    | last _ _ _ => exact .inr (.inl ((hfinish _).trans (happly _)))
  | keep _ | speed _ | code _ _ | setCode _ | budget _ | subscribe _ | unsubscribe _ | settle _ =>
    exact .inl rfl

/-- A listener stays subscribed unless a subscription is ended. -/
theorem mem_listeners_moves {l : Nat} (h : Moves p f q) (hf : f.Of Operation.Keeps)
    (hl : l ∈ p.listeners) : l ∈ q.listeners := by
  cases h with
  | pause h =>
    obtain ⟨-, rfl⟩ := pause?_eq_some h
    exact hl
  | enter g =>
    rw [enter_frame]
    exact hl
  | tick n h =>
    rw [tick?_frame h]
    exact hl
  | subscribe k => exact List.mem_append_left _ hl
  | unsubscribe k => exact hf.elim
  | _ => exact hl

/-- A tick that is applied counts one step, shows its line, and leaves the world that it shows, if it
shows one. -/
theorem shown_tick {t : Tick} (h : p.tick? = some q) (ht : p.next? = some t) :
    q.state.stepCount = p.state.stepCount + 1 ∧ q.state.currentLine = t.line ∧
      q.world = t.world?.getD p.world := by
  have happly : (p.applyTick t).state.stepCount = p.state.stepCount + 1 ∧
      (p.applyTick t).state.currentLine = t.line ∧
      (p.applyTick t).world = t.world?.getD p.world := by
    refine ⟨by rw [state_applyTick], by rw [state_applyTick], ?_⟩
    unfold applyTick Tick.world?
    cases t.outcome <;> rfl
  obtain ⟨hs, r, hr, hk⟩ := tick?_eq_some h
  rw [next?_eq hs hr] at ht
  cases hk with
  | ended hsize =>
    rw [Array.getElem?_eq_none hsize] at ht
    cases ht
  | failed hget _ =>
    cases hget.symm.trans ht
    exact happly
  | next hget _ _ =>
    cases hget.symm.trans ht
    exact happly
  | last hget _ _ =>
    cases hget.symm.trans ht
    rw [finish_frame, state_finish]
    exact happly

end Player

/-- A frame by which nobody is told changes nothing that a player shows, or it has all listeners told
first. -/
theorem Turn.tells {p q : Player} {f : Frame} {fs : List Frame} (h : Turn p f q fs)
    (hf : ¬ f.Tells) :
    (q.shown = p.shown ∧ ∀ g ∈ fs, ¬ g.Tells) ∨
      ∃ gs, fs = .notify q.listeners :: gs ∧ ∀ g ∈ gs, ¬ g.Tells := by
  cases h with
  | told => exact (hf trivial).elim
  | tell _ _ => exact (hf trivial).elim
  | stepRunning _ => exact .inr ⟨[.start .single], rfl, by simp [Frame.Tells]⟩
  | recode text _ => exact .inr ⟨[.setCode text], rfl, by simp [Frame.Tells]⟩
  | again g _ => exact .inr ⟨[.enter g], rfl, by simp [Frame.Tells]⟩
  | enter g _ => exact .inr ⟨[.begin g], rfl, by simp [Frame.Tells]⟩
  | tick n _ => exact .inr ⟨[.tick n], rfl, by simp [Frame.Tells]⟩
  | pause _ | reset | load _ | speed _ | failEntry _ _ | settle _ => exact .inr ⟨[], rfl, by simp⟩
  | _ => exact .inl ⟨rfl, by simp [Frame.Tells]⟩

theorem Stop.shown_eq {p q : Player} {f : Frame} {fault : PlayerFault} (h : Stop p f q fault) :
    q.shown = p.shown := by
  cases h with
  | enter g h =>
    have he := p.entered
    rw [h] at he
    cases he
    rfl
  | _ => rfl

namespace Config

variable {ε : Type} {e : Environment ε} {c : Config ε} {l : Nat} {told : State × World}

def Silent (c : Config ε) : Prop := ∀ f ∈ c.stack, ¬ f.Tells

def told? (l : Nat) (c : Config ε) : Option (State × World) :=
  match c.stack with
  | .notify (k :: _) :: _ => if k = l then some c.player.shown else none
  | _ => none

/-- How far the telling has come: nobody is being told, or some listeners are still to be told, maybe
after one that is just told. -/
inductive Progress (c : Config ε) : Option (List Nat) → Prop
  | silent (h : c.Silent) : Progress c none
  | notify {ls : List Nat} {rest : List Frame} (stack : c.stack = .notify ls :: rest)
      (below : ∀ f ∈ rest, ¬ f.Tells) : Progress c (some ls)
  | react {k : Nat} {s : State} {w : World} {ls : List Nat} {rest : List Frame}
      (stack : c.stack = .react (.changed k s w) :: .notify ls :: rest)
      (below : ∀ f ∈ rest, ¬ f.Tells) : Progress c (some ls)

/-- What a listener was told last is what the player shows, unless it is still to be told. -/
structure Informed (l : Nat) (told : State × World) (c : Config ε) : Prop where
  subscribed : l ∈ c.player.listeners
  progress : ∃ ls, c.Progress ls ∧ ((∃ ks, ls = some ks ∧ l ∈ ks) ∨ told = c.player.shown)

theorem silent_of_nil (h : c.stack = []) : c.Silent := by
  rw [Silent, h]
  exact List.forall_mem_nil _

theorem stack_of_told? {x : State × World} (h : c.told? l = some x) :
    ∃ ls rest, c.stack = .notify (l :: ls) :: rest := by
  rw [told?] at h
  split at h
  · rename_i k ls rest hs
    split at h
    · rename_i hk
      exact ⟨ls, rest, hk ▸ hs⟩
    · cases h
  · cases h

theorem eq_shown_of_told? {x : State × World} (h : c.told? l = some x) : x = c.player.shown := by
  obtain ⟨ls, rest, hs⟩ := stack_of_told? h
  rw [told?, hs] at h
  dsimp only at h
  rw [if_pos rfl] at h
  exact (Option.some.inj h).symm

theorem told?_of_silent (h : c.Silent) : c.told? l = none := by
  rw [told?]
  split
  · rename_i hs
    have htop := h _ (by rw [hs]; exact List.mem_cons_self)
    exact (htop trivial).elim
  · rfl

theorem Informed.eq_of_silent (h : c.Informed l told) (hs : c.Silent) : told = c.player.shown := by
  obtain ⟨ls, hp, hinformed⟩ := h.progress
  cases hp with
  | silent _ =>
    rcases hinformed with ⟨ks, hks, -⟩ | htold
    · cases hks
    · exact htold
  | notify stack _ | react stack _ =>
    have htop := hs _ (by rw [stack]; exact List.mem_cons_self)
    exact (htop trivial).elim

/-- Outside of a telling, a step has all listeners told of what it changes before anything else. -/
private theorem Informed.step_silent (h : c.Informed l told)
    (hof : ∀ f ∈ c.stack, f.Of Operation.Keeps) (hs : c.Silent) : (c.step e).Informed l told := by
  have htold : told = c.player.shown := h.eq_of_silent hs
  cases hstack : c.stack with
  | nil =>
    rw [step_of_nil hstack]
    exact h
  | cons f rest =>
    have hf : ¬ f.Tells := hs f (by rw [hstack]; exact List.mem_cons_self)
    have hrest : ∀ g ∈ rest, ¬ g.Tells := fun g hg => hs g (by
      rw [hstack]
      exact List.mem_cons_of_mem f hg)
    have hsubscribed : l ∈ (c.step e).player.listeners :=
      Player.mem_listeners_moves (step_moves e hstack)
        (hof f (by rw [hstack]; exact List.mem_cons_self)) h.subscribed
    refine ⟨hsubscribed, ?_⟩
    cases step_cases e hstack with
    -- what is shown has not changed, or all listeners are to be told, this one among them
    | @turn fs ht _ hst _ =>
      rcases ht.tells hf with ⟨hshown, hfs⟩ | ⟨gs, rfl, hgs⟩
      · have hsilent : (c.step e).Silent := by
          rw [Silent, hst]
          exact List.forall_mem_append.mpr ⟨hfs, hrest⟩
        exact ⟨none, .silent hsilent, .inr (htold.trans hshown.symm)⟩
      · exact ⟨_, .notify hst (List.forall_mem_append.mpr ⟨hgs, hrest⟩), .inl ⟨_, rfl, hsubscribed⟩⟩
    | @answer n op env hframe hanswer hplayer hst _ =>
      have hn : ¬ (Frame.react n).Tells := hframe ▸ hf
      have hsilent : (c.step e).Silent := by
        rw [Silent, hst]
        exact List.forall_mem_cons.mpr ⟨id, List.forall_mem_cons.mpr ⟨hn, hrest⟩⟩
      exact ⟨none, .silent hsilent, .inr (by rw [hplayer]; exact htold)⟩
    | stop hstop hst _ =>
      have hsilent : (c.step e).Silent := by
        intro g hg
        exact hrest g (hst.subset hg)
      exact ⟨none, .silent hsilent, .inr (htold.trans hstop.shown_eq.symm)⟩

theorem step_notify {k : Nat} {ls : List Nat} {rest : List Frame}
    (h : c.stack = .notify (k :: ls) :: rest) :
    (c.step e).player = c.player ∧
      (c.step e).env = e.observe (.changed k c.player.state c.player.world) c.env ∧
      (c.step e).stack =
        .react (.changed k c.player.state c.player.world) :: .notify ls :: rest := by
  rw [step_eq h]
  exact ⟨rfl, rfl, rfl⟩

theorem step_react (he : e.Unanswered) {k : Nat} {s : State} {w : World} {rest : List Frame}
    (h : c.stack = .react (.changed k s w) :: rest) :
    (c.step e).player = c.player ∧ (c.step e).stack = rest := by
  rw [step_eq h, resume, he]
  exact ⟨rfl, rfl⟩

/-- A telling changes nothing of a player. -/
theorem Progress.player_step {ls : List Nat} (h : c.Progress (some ls)) (he : e.Unanswered) :
    (c.step e).player = c.player := by
  cases h with
  | notify stack _ =>
    cases ls with
    | nil => rw [step_eq stack, resume]
    | cons k ls => exact (step_notify stack).1
  | react stack _ => exact (step_react he stack).1

/-- A step keeps a listener informed. -/
theorem Informed.step (h : c.Informed l told) (he : e.Unanswered)
    (hof : ∀ f ∈ c.stack, f.Of Operation.Keeps) :
    (c.step e).Informed l ((c.told? l).getD told) := by
  obtain ⟨ls, hp, hinformed⟩ := h.progress
  cases hp with
  | silent hs =>
    rw [told?_of_silent hs]
    exact h.step_silent hof hs
  | @notify ls rest stack below =>
    have hplayer : (c.step e).player = c.player := (Progress.notify stack below).player_step he
    refine ⟨hplayer ▸ h.subscribed, ?_⟩
    have hmem : l ∈ ls ∨ told = c.player.shown := by
      rcases hinformed with ⟨ks, hks, hl⟩ | htold
      · cases hks
        exact .inl hl
      · exact .inr htold
    cases ls with
    -- nobody is left to be told, so the listener was told before
    | nil =>
      have hnone : c.told? l = none := by rw [told?, stack]
      have hdone : (c.step e).stack = rest := by rw [step_eq stack, resume]
      have hsilent : (c.step e).Silent := by
        rw [Silent, hdone]
        exact below
      rw [hnone, hplayer]
      exact ⟨none, .silent hsilent, .inr (hmem.resolve_left List.not_mem_nil)⟩
    | cons k ls =>
      have hprogress : (c.step e).Progress (some ls) := .react (step_notify stack).2.2 below
      refine ⟨some ls, hprogress, ?_⟩
      rw [hplayer]
      -- it is the turn of the listener, or it is still among the others
      by_cases hk : k = l
      · have hsome : c.told? l = some c.player.shown := by
          rw [told?, stack]
          exact if_pos hk
        rw [hsome]
        exact .inr rfl
      · have hnone : c.told? l = none := by
          rw [told?, stack]
          exact if_neg hk
        rw [hnone]
        rcases hmem with hl | htold
        · rcases List.mem_cons.mp hl with rfl | hl
          · exact (hk rfl).elim
          · exact .inl ⟨ls, rfl, hl⟩
        · exact .inr htold
  | react stack below =>
    obtain ⟨hplayer, hst⟩ := step_react he stack
    have hnone : c.told? l = none := by rw [told?, stack]
    rw [hnone]
    refine ⟨hplayer ▸ h.subscribed, _, .notify hst below, ?_⟩
    rw [hplayer]
    exact hinformed

end Config

def lastTold {ε : Type} (l : Nat) (c : Nat → Config ε) : Nat → State × World
  | 0 => (c 0).player.shown
  | i + 1 => ((c i).told? l).getD (lastTold l c i)

namespace Course

variable {ε : Type} {e : Environment ε} {p : Player} {c : Nat → Config ε} {l : Nat}

/-- At all times a listener is informed, if it was subscribed in the beginning. -/
theorem informed (h : Course e Operation.Keeps p c) (he : e.Unanswered) (hl : l ∈ p.listeners)
    (i : Nat) : (c i).Informed l (lastTold l c i) := by
  induction i with
  | zero =>
    have hsubscribed : l ∈ (c 0).player.listeners := by
      rw [h.player]
      exact hl
    exact ⟨hsubscribed, none, .silent (Config.silent_of_nil h.stack), .inr rfl⟩
  | succ i ih =>
    have hof : ∀ f ∈ (c i).stack, f.Of Operation.Keeps := h.stack_of i
    rw [lastTold]
    have hn := h.next i
    generalize c (i + 1) = d at hn ⊢
    cases hn with
    | step => exact ih.step he hof
    -- the next operation comes when nothing is left of the one before, so nobody is being told
    | @call op env hop done =>
      have hsilent : (c i).Silent := Config.silent_of_nil done
      have hbegun : Config.Silent { player := (c i).player, stack := [.perform op], env := env } :=
        List.forall_mem_singleton.mpr id
      rw [Config.told?_of_silent hsilent]
      exact ⟨ih.subscribed, none, .silent hbegun, .inr (ih.eq_of_silent hsilent)⟩

/-- Since a listener was told last, the count of steps is the same or one more, or it is nothing after
a reset. -/
def Counts (l : Nat) (c : Nat → Config ε) (i : Nat) : Prop :=
  (c i).player.state.stepCount = (lastTold l c i).1.stepCount ∨
    (c i).player.state.stepCount = (lastTold l c i).1.stepCount + 1 ∨
    (c i).player.state.stepCount = 0 ∧ ∃ k, k < i ∧
      (∃ w, (c (k + 1)).player = (c k).player.load w) ∧ ∀ m, k < m → m < i → (c m).told? l = none

theorem counts_of_player_eq {i : Nat} (ih : Counts l c i)
    (hplayer : (c (i + 1)).player = (c i).player) : Counts l c (i + 1) := by
  rw [Counts, lastTold, hplayer]
  -- a listener that is told now knows the count, and otherwise the last reset is still untold
  cases htold : (c i).told? l with
  | some x =>
    have hx : x = (c i).player.shown := Config.eq_shown_of_told? htold
    rw [hx]
    exact .inl rfl
  | none =>
    rcases ih with hcount | hcount | ⟨hcount, k, hk, hload, hnone⟩
    · exact .inl hcount
    · exact .inr (.inl hcount)
    · refine .inr (.inr ⟨hcount, k, Nat.lt_succ_of_lt hk, hload, ?_⟩)
      intro m hkm hmi
      rcases Nat.lt_or_eq_of_le (Nat.le_of_lt_succ hmi) with hlt | rfl
      · exact hnone m hkm hlt
      · exact htold

theorem counts (h : Course e Operation.Keeps p c) (he : e.Unanswered) (hl : l ∈ p.listeners)
    (i : Nat) : Counts l c i := by
  induction i with
  | zero => exact .inl rfl
  | succ i ih =>
    rcases (h.next i).leads with ⟨hplayer, -⟩ | ⟨f, rest, hs, hmoves⟩
    · exact counts_of_player_eq ih hplayer
    · obtain ⟨ls, hprogress, -⟩ := (h.informed he hl i).progress
      have hstep : c (i + 1) = (c i).step e := h.next_eq_step (by simp [hs])
      cases ls with
      | some ls =>
        have hplayer : (c (i + 1)).player = (c i).player := by
          rw [hstep]
          exact hprogress.player_step he
        exact counts_of_player_eq ih hplayer
      | none =>
        cases hprogress with
        | silent hsilent =>
          -- what the listener was told last is what was shown before this step
          have hnone : (c i).told? l = none := Config.told?_of_silent hsilent
          have htold : lastTold l c (i + 1) = (c i).player.shown := by
            rw [lastTold, hnone]
            exact (h.informed he hl i).eq_of_silent hsilent
          rw [Counts, htold]
          rcases Player.stepCount_moves hmoves with hcount | hcount | ⟨w, hload⟩
          · exact .inl hcount
          · exact .inr (.inl hcount)
          · refine .inr (.inr ⟨?_, i, Nat.lt_succ_self i, ⟨w, hload⟩, ?_⟩)
            · rw [hload]
              rfl
            · intro m hm hm'
              omega

/-- A listener that is among those to be told is told what the player shows, before another tick is
applied. -/
theorem exists_told (h : Course e Operation.Keeps p c) (he : e.Unanswered) {ls : List Nat}
    {rest : List Frame} (hl : l ∈ ls) (i : Nat) (hs : (c i).stack = .notify ls :: rest) :
    ∃ j, i ≤ j ∧ (c j).told? l = some (c i).player.shown ∧
      ∀ k, i ≤ k → k ≤ j → (c k).applied? = none := by
  -- on those who are still to be told; telling one of them takes two steps
  induction ls generalizing i with
  | nil => cases hl
  | cons k ls ih =>
    have hquiet : (c i).applied? = none := by
      rw [Config.applied?, hs]
      rfl
    by_cases hk : k = l
    · refine ⟨i, Nat.le_refl i, ?_, ?_⟩
      · rw [Config.told?, hs]
        exact if_pos hk
      · intro m him hmi
        rw [Nat.le_antisymm hmi him]
        exact hquiet
    -- another listener is told first, and does not answer
    · have hmem : l ∈ ls := (List.mem_cons.mp hl).resolve_left fun hlk => hk hlk.symm
      have hfirst : c (i + 1) = (c i).step e := h.next_eq_step (by simp [hs])
      obtain ⟨hplayer, -, hstack⟩ := Config.step_notify (e := e) hs
      rw [← hfirst] at hplayer hstack
      have hsecond : c (i + 2) = (c (i + 1)).step e := h.next_eq_step (by simp [hstack])
      obtain ⟨hplayer', hstack'⟩ := Config.step_react he hstack
      rw [← hsecond] at hplayer' hstack'
      have hquiet' : (c (i + 1)).applied? = none := by
        rw [Config.applied?, hstack]
        rfl
      obtain ⟨j, hij, htold, hnone⟩ := ih hmem (i + 2) hstack'
      rw [hplayer', hplayer] at htold
      refine ⟨j, by omega, htold, ?_⟩
      intro m him hmj
      by_cases hlate : i + 2 ≤ m
      · exact hnone m hlate hmj
      · obtain rfl | rfl : m = i ∨ m = i + 1 := by omega
        · exact hquiet
        · exact hquiet'

/-- A step that applies a tick has all listeners told next. -/
theorem notify_of_applied (h : Course e Operation.Keeps p c) {i : Nat} {t : Tick}
    (ht : (c i).applied? = some t) :
    (c i).player.tick? = some (c (i + 1)).player ∧ (c i).player.next? = some t ∧
      ∃ rest, (c (i + 1)).stack = .notify (c (i + 1)).player.listeners :: rest := by
  obtain ⟨f, hf, hnext⟩ := Option.bind_eq_some_iff.mp ht
  obtain ⟨rest, hs⟩ := List.head?_eq_some_iff.mp hf
  have hstep : c (i + 1) = (c i).step e := h.next_eq_step (by simp [hs])
  cases f with
  | tick n =>
    cases n with
    | zero => cases hnext
    | succ n =>
      have hnext : (c i).player.next? = some t := hnext
      cases htick : (c i).player.tick? with
      | none =>
        rw [Player.next?_of_tick?_eq_none htick] at hnext
        cases hnext
      | some q =>
        have hd : (c i).step e = ({ c i with stack := rest } : Config ε).tell q [.tick n] := by
          rw [Config.step_eq hs, Config.resume, htick]
        rw [hstep, hd]
        exact ⟨rfl, hnext, _, rfl⟩
  | _ => cases hnext

/-- A listener that was subscribed in the beginning is never left stale, if no listener operates the
player while it is told. What it was told last is what the player shows, whenever nobody is being
told, so after each operation, whether it was refused or not. Before another tick is applied it is
told of the last one: with its count, its line and the world that came of it. And from one telling to
the next the count of steps stays, grows by one, or is nothing after a reset between them. -/
theorem listener_never_stale (hl : l ∈ p.listeners) (he : e.Unanswered)
    (h : Course e Operation.Keeps p c) :
    (∀ i s w, (c i).told? l = some (s, w) →
      (c (i + 1)).env = e.observe (.changed l s w) (c i).env) ∧
    (∀ i, (c i).Silent → lastTold l c i = ((c i).player.state, (c i).player.world)) ∧
    (∀ i t, (c i).applied? = some t → ∃ j s w, i < j ∧ (c j).told? l = some (s, w) ∧
      s.stepCount = (c i).player.state.stepCount + 1 ∧ s.currentLine = t.line ∧
      w = t.world?.getD (c i).player.world ∧
      (s, w) = ((c (i + 1)).player.state, (c (i + 1)).player.world) ∧
      ∀ k, i < k → k ≤ j → (c k).applied? = none) ∧
    ∀ i s w, (c i).told? l = some (s, w) →
      s.stepCount = (lastTold l c i).1.stepCount ∨
      s.stepCount = (lastTold l c i).1.stepCount + 1 ∨
      s.stepCount = 0 ∧ ∃ k, k < i ∧ (∃ v, (c (k + 1)).player = (c k).player.load v) ∧
        ∀ m, k < m → m < i → (c m).told? l = none := by
  refine ⟨?_, ?_, ?_, ?_⟩
  · intro i s w htold
    obtain ⟨ls, rest, hs⟩ := Config.stack_of_told? htold
    obtain ⟨hstate, hworld⟩ := Prod.mk.inj (Config.eq_shown_of_told? htold)
    rw [h.next_eq_step (by simp [hs]), hstate, hworld]
    exact (Config.step_notify hs).2.1
  · intro i hsilent
    exact (h.informed he hl i).eq_of_silent hsilent
  · intro i t ht
    -- a tick leaves a notice on top of the stack, and nothing is applied before that is done
    obtain ⟨htick, hnext, rest, hs⟩ := h.notify_of_applied ht
    obtain ⟨hcount, hline, hworld⟩ := Player.shown_tick htick hnext
    obtain ⟨j, hj, htold, hnone⟩ :=
      h.exists_told he (h.informed he hl (i + 1)).subscribed (i + 1) hs
    exact ⟨j, _, _, hj, htold, hcount, hline, hworld, rfl, fun k hik hkj => hnone k hik hkj⟩
  · intro i s w htold
    obtain ⟨rfl, -⟩ := Prod.mk.inj (Config.eq_shown_of_told? htold)
    exact h.counts he hl i

/-- A play that is paused during its first wait, a speed that is refused, one step, and a program that
is loaded: the listener knows of two steps in the end of the third operation, and of a new beginning
in the end of the last. -/
theorem listener_never_stale_paused_play :
    let p := (Player.start .default "move()\nturn_left()\nmove()" {} none
      ⟨10, .seconds Isolation.defaultLimit⟩ false 300).subscribe 7
    let c := operated (.once Notice.isWait .pause) { player := p, env := false }
      [(.play, true), (.setSpeed (.delay (-1)), false), (.step, false), (.loadCode "move()", false)]
    (c 24).stack = [] ∧ (c 24).fault.isSome = true ∧
      lastTold 7 c 24 = ((c 24).player.state, (c 24).player.world) ∧
      (c 41).stack = [] ∧ lastTold 7 c 41 = ((c 41).player.state, (c 41).player.world) ∧
      (c 41).player.state.stepCount = 2 ∧
      (∃ j s w, 32 < j ∧ (c j).told? 7 = some (s, w) ∧ s.stepCount = 2) ∧
      (c 47).stack = [] ∧ lastTold 7 c 47 = ((c 47).player.state, (c 47).player.world) ∧
      (c 47).player.state.stepCount = 0 := by
  intro p c
  have he : (Environment.once Notice.isWait .pause).Unanswered := by
    intro l s w waiting
    cases waiting <;> rfl
  have hl : 7 ∈ p.listeners := by decide
  have h : Course (.once Notice.isWait .pause) Operation.Keeps p c := by
    refine .of_operated _ _ _ (by simp [Operation.Keeps]) ?_
    intro n waiting op left ha
    rw [(Environment.answer_once ha).2]
    trivial
  obtain ⟨-, hshown, hticks, -⟩ := listener_never_stale hl he h
  have heval : ((c 24).stack = [] ∧ (c 24).fault.isSome = true) ∧
      ((c 32).applied?.isSome = true ∧ (c 32).player.state.stepCount = 1) ∧
      ((c 41).stack = [] ∧ (c 41).player.state.stepCount = 2) ∧
      (c 47).stack = [] ∧ (c 47).player.state.stepCount = 0 := by
    decide +kernel
  obtain ⟨hrefused, hticked, hstepped, hloaded⟩ := heval
  obtain ⟨t, ht⟩ := Option.isSome_iff_exists.mp hticked.1
  obtain ⟨j, s, w, hj, htold, hcount, -⟩ := hticks 32 t ht
  rw [hticked.2] at hcount
  exact ⟨hrefused.1, hrefused.2, hshown 24 (Config.silent_of_nil hrefused.1), hstepped.1,
    hshown 41 (Config.silent_of_nil hstepped.1), hstepped.2, ⟨j, s, w, hj, htold, hcount⟩,
    hloaded.1, hshown 47 (Config.silent_of_nil hloaded.1), hloaded.2⟩

end Course

end KarelLab.Playback
