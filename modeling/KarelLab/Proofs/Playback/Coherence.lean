import KarelLab.Proofs.Playback.Bookkeeping

/-!
# When status and error tell the same

The status of a player and its error fields contradict each other in one case only: a run that is
begun again tells that the player is idle, a listener runs the program to its end before the run is
entered, and the run is entered nevertheless. This holds of every course.
-/

namespace KarelLab.Playback

namespace Player

variable {p q : Player} {f : Frame}

/-- Status, error and recording do not contradict each other: an error is shown exactly when the
status is an error, a success is the end of a recording that did not fail, and a player that is
running or paused has a tick left, unless its recording has none at all and no error. -/
structure Coherent (p : Player) : Prop where
  error : p.state.status = .error → p.state.error ≠ none ∧ p.state.errorCode ≠ none
  clear : p.state.status ≠ .error →
    p.state.error = none ∧ p.state.errorCode = none ∧ p.state.errorLine = none
  success : p.state.status = .success → ∃ r, p.recording = some r ∧ r.failed = false
  progress : p.state.status = .running ∨ p.state.status = .paused →
    ∃ r, p.recording = some r ∧ (p.cursor < r.ticks.size ∨ (r.ticks = #[] ∧ r.error = none))

def Blames (p : Player) (e : Report) (r : Recording) : Prop :=
  (∃ t, p.history.getLast? = some t ∧ t.report? = some e) ∨
    (r.ticks.size ≤ p.cursor ∧ r.error = some e)

/-- What the status of a player promises as long as no entry is overtaken. -/
structure Orderly (p : Player) : Prop where
  failure : p.state.status = .error → ∃ e : Report, p.state.error = some e.message ∧
    p.state.errorCode = some e.code ∧ p.state.errorLine = e.line ∧
    ∀ r, p.recording = some r → p.Blames e r
  clear : p.state.status ≠ .error →
    p.state.error = none ∧ p.state.errorCode = none ∧ p.state.errorLine = none
  passed : p.state.status ≠ .error → ∀ t ∈ p.history, t.report? = none
  success : p.state.status = .success →
    ∃ r, p.recording = some r ∧ r.ticks.size ≤ p.cursor ∧ r.error = none
  progress : p.state.status = .running ∨ p.state.status = .paused →
    ∃ r, p.recording = some r ∧ (p.cursor < r.ticks.size ∨ (r.ticks = #[] ∧ r.error = none))

/-- Whether a run that is entered now was overtaken by another one, which has ended meanwhile. -/
def Overtaken (p : Player) : Prop :=
  p.state.status = .error ∨ (p.state.status = .success ∧ p.history ≠ [])

theorem Orderly.coherent (h : p.Orderly) : p.Coherent where
  error hs := by
    obtain ⟨e, he, hc, -, -⟩ := h.failure hs
    exact ⟨by simp [he], by simp [hc]⟩
  clear := h.clear
  success hs := by
    obtain ⟨r, hr, hl, he⟩ := h.success hs
    have hall : p.history = r.ticks.toList := by
      rw [history_of_some hr]
      exact List.take_of_length_le (by simpa using hl)
    have hpassed : ∀ t ∈ r.ticks.toList, t.report? = none := hall ▸ h.passed (by simp [hs])
    refine ⟨r, hr, ?_⟩
    rw [Recording.failed, he, Option.isSome_none, Bool.false_or, Array.any_eq_false']
    intro t ht
    rw [hpassed t (Array.mem_toList_iff.mpr ht)]
    exact Bool.false_ne_true
  progress := h.progress

theorem orderly_of_fresh {d : Nat} (hs : p.state = .fresh d) (hh : p.history = []) :
    p.Orderly := by
  refine ⟨?_, ?_, ?_, ?_, ?_⟩ <;> rw [hs]
  · nofun
  · exact fun _ => ⟨rfl, rfl, rfl⟩
  · simp [hh]
  · nofun
  · rintro (h | h) <;> cases h

/-- A failure that is told is orderly, whatever was before. -/
theorem orderly_fail {e : Report} (h : ∀ r, p.recording = some r → p.Blames e r) :
    (p.fail e).Orderly where
  failure _ := ⟨e, rfl, rfl, rfl, h⟩
  clear hs := (hs rfl).elim
  passed hs := (hs rfl).elim
  success := nofun
  progress := by rintro (h | h) <;> cases h

/-- A run that is entered or paused is orderly if no error is told and it has something to do. -/
theorem orderly_underway {s : Status} (hs : s = .running ∨ s = .paused)
    (clear : p.state.error = none ∧ p.state.errorCode = none ∧ p.state.errorLine = none)
    (passed : ∀ t ∈ p.history, t.report? = none)
    (progress : ∃ r, p.recording = some r ∧
      (p.cursor < r.ticks.size ∨ (r.ticks = #[] ∧ r.error = none))) :
    (p.withStatus s).Orderly := by
  refine ⟨?_, fun _ => clear, fun _ => passed, ?_, fun _ => progress⟩
  · rintro rfl
    rcases hs with h | h <;> cases h
  · rintro rfl
    rcases hs with h | h <;> cases h

/-- A run that ends where its recording does is orderly. -/
theorem orderly_finish {r : Recording} (hr : p.recording = some r) (hl : r.ticks.size ≤ p.cursor)
    (clear : p.state.error = none ∧ p.state.errorCode = none ∧ p.state.errorLine = none)
    (passed : ∀ t ∈ p.history, t.report? = none) : p.finish.Orderly := by
  have hf := p.finished
  generalize p.finish = q at hf ⊢
  cases hf with
  | failure hr' he =>
    refine orderly_fail ?_
    intro r' hrec
    rw [hr] at hr' hrec
    cases hr'
    cases hrec
    exact .inr ⟨hl, he⟩
  | success hn =>
    refine ⟨nofun, fun _ => clear, fun _ => passed, fun _ => ⟨r, hr, hl, hn r hr⟩, ?_⟩
    rintro (h | h) <;> cases h

theorem Orderly.enter (h : p.Orderly) (hb : p.Booked) (hn : ¬ p.Overtaken) :
    p.enter.2.Orderly := by
  have he := p.entered
  generalize p.enter = a at he ⊢
  cases he with
  | resumed hi =>
    have hne : p.state.status ≠ .error := fun hs => hn (.inl hs)
    refine orderly_underway (.inl rfl) (h.clear hne) (h.passed hne) ?_
    cases hs : p.state.status with
    | idle => exact (hi hs).elim
    | running => exact h.progress (.inl hs)
    | paused => exact h.progress (.inr hs)
    | error => exact (hne hs).elim
    | success =>
      -- all ticks were applied, but none was: there are no ticks
      obtain ⟨r, hr, hl, herr⟩ := h.success hs
      have hempty : p.history = [] := Decidable.not_not.mp fun hh => hn (.inr ⟨hs, hh⟩)
      rw [history_of_some hr, List.take_of_length_le (by simpa using hl)] at hempty
      exact ⟨r, hr, .inr ⟨Array.toList_eq_nil_iff.mp hempty, herr⟩⟩
  | rejected hi _ =>
    refine orderly_fail ?_
    intro r hr
    have hn : p.recording = none := (hb.idle hi).1
    have hs : p.recording = some r := hr
    rw [hn] at hs
    cases hs
  | unknown hi _ => exact orderly_of_fresh (hb.idle hi).2.1 (history_of_none (hb.idle hi).1)
  | stillborn _ _ hempty herr =>
    refine orderly_fail ?_
    intro r' hr'
    cases hr'
    exact .inr ⟨by simp [hempty], herr⟩
  | @recorded r hi hrec ha =>
    have hclear := h.clear (by simp [hi])
    refine orderly_underway (.inl rfl) hclear ?_ ⟨r, rfl, ?_⟩
    · rw [history_of_some rfl]
      simp
    · rcases ha with ha | ha
      · exact .inl (Array.size_pos_iff.mpr ha)
      · by_cases ht : r.ticks = #[]
        · exact .inr ⟨ht, ha⟩
        · exact .inl (Array.size_pos_iff.mpr ht)

theorem Orderly.tick (h : p.Orderly) (ht : p.tick? = some q) : q.Orderly := by
  obtain ⟨hs, r, hr, hk⟩ := tick?_eq_some ht
  have hne : p.state.status ≠ .error := by simp [hs]
  have hclear := h.clear hne
  have hpassed := h.passed hne
  -- a tick that shows no failure leaves what was told of errors
  have hnext {t : Tick} (hget : r.ticks[p.cursor]? = some t) (hpass : t.report? = none) :
      ((p.applyTick t).state.error = none ∧ (p.applyTick t).state.errorCode = none ∧
        (p.applyTick t).state.errorLine = none) ∧
      ∀ u ∈ (p.applyTick t).history, u.report? = none := by
    refine ⟨?_, ?_⟩
    · rw [state_applyTick_passed hpass]
      exact hclear
    · rw [history_applyTick hr hget]
      intro u hu
      rcases List.mem_append.mp hu with hu | hu
      · exact hpassed u hu
      · rw [List.mem_singleton.mp hu]
        exact hpass
  cases hk with
  | ended hl => exact orderly_finish hr hl hclear hpassed
  | @failed t e hget hfail =>
    have hlast := congrArg List.getLast? (history_applyTick hr hget)
    rw [applyTick_failed hfail] at hlast ⊢
    refine orderly_fail ?_
    intro r' _
    exact .inl ⟨t, by rw [← history_fail _ e, hlast, List.getLast?_concat], hfail⟩
  | @next t hget hpass hleft =>
    obtain ⟨hc, hp⟩ := hnext hget hpass
    have hrun : (p.applyTick t).state.status = .running := by
      rw [state_applyTick_passed hpass]
      exact hs
    rw [← withStatus_eq_self hrun]
    refine orderly_underway (.inl rfl) hc hp ⟨r, by rw [recording_applyTick, hr], .inl ?_⟩
    rw [cursor_applyTick]
    exact hleft
  | @last t hget hpass hl =>
    obtain ⟨hc, hp⟩ := hnext hget hpass
    exact orderly_finish (by rw [recording_applyTick, hr]) (by rw [cursor_applyTick]; exact hl) hc hp

/-- Every change of a player keeps it orderly but the entry of a run that was overtaken. -/
theorem Orderly.moves (h : p.Orderly) (hb : p.Booked) (hm : Moves p f q)
    (hn : ∀ g, f = .enter g → ¬ p.Overtaken) : q.Orderly := by
  cases hm with
  | keep _ => exact h
  | pause hp =>
    obtain ⟨hs, rfl⟩ := pause?_eq_some hp
    have hne : p.state.status ≠ .error := by simp [hs]
    have hp : (p.withStatus .paused).Orderly :=
      orderly_underway (.inr rfl) (h.clear hne) (h.passed hne) (h.progress (.inl hs))
    exact { hp with }
  | reset => exact orderly_of_fresh rfl rfl
  | recode text hs => exact orderly_of_fresh rfl rfl
  | again g hs => exact orderly_of_fresh rfl rfl
  | load hl => exact orderly_of_fresh rfl rfl
  | speed hd => exact { h with }
  | code text hs => exact { h with }
  | setCode text => exact { h with }
  | budget n => exact { h with }
  | subscribe l => exact { h with }
  | unsubscribe l => exact { h with }
  | enter g => exact h.enter hb (hn g rfl)
  | tick n ht => exact h.tick ht
  | settle hs =>
    have hne : p.state.status ≠ .error := by simp [hs]
    exact orderly_underway (.inr rfl) (h.clear hne) (h.passed hne) (h.progress (.inl hs))

/-- Entering a run that was overtaken leaves contradictions. -/
theorem Overtaken.not_coherent_enter (ho : p.Overtaken) (h : p.Orderly) :
    ¬ p.enter.2.Coherent := by
  intro hc
  have he := p.entered
  generalize p.enter = a at he hc
  have hi : p.state.status ≠ .idle := by
    rcases ho with hs | ⟨hs, -⟩ <;> simp [hs]
  cases he with
  | rejected hs _ => exact hi hs
  | unknown hs _ => exact hi hs
  | stillborn hs _ _ _ => exact hi hs
  | recorded hs _ _ => exact hi hs
  | resumed _ =>
    rcases ho with hs | ⟨hs, hh⟩
    · obtain ⟨e, hshown, -⟩ := h.failure hs
      have hnone : p.state.error = none := (hc.clear nofun).1
      rw [hnone] at hshown
      cases hshown
    -- nothing is left of the recording that ended, yet the player is running again
    · obtain ⟨r, hr, hl, -⟩ := h.success hs
      obtain ⟨r', hr', hleft⟩ := hc.progress (.inl rfl)
      have heq : some r = some r' := hr.symm.trans hr'
      cases heq
      rcases hleft with hlt | ⟨hempty, -⟩
      · exact Nat.not_lt_of_le hl hlt
      · rw [history_of_some hr, hempty] at hh
        simp at hh

end Player

instance (p : Player) : Decidable p.Overtaken := inferInstanceAs (Decidable (_ ∨ (_ ∧ _)))

def Frame.enters : Frame → Bool
  | .enter _ => true
  | _ => false

namespace Config

variable {ε : Type} {c : Config ε}

def Overtaken (c : Config ε) : Prop :=
  c.stack.head?.any Frame.enters = true ∧ c.player.Overtaken

instance (c : Config ε) : Decidable c.Overtaken := inferInstanceAs (Decidable (_ ∧ _))

theorem Overtaken.stack (h : c.Overtaken) : ∃ g rest, c.stack = .enter g :: rest := by
  have hf := h.1
  cases hs : c.stack with
  | nil => simp [hs] at hf
  | cons f rest =>
    rw [hs] at hf
    cases f with
    | enter g => exact ⟨g, rest, rfl⟩
    | _ => simp [Frame.enters] at hf

end Config

namespace Course

variable {ε : Type} {e : Environment ε} {ops : Operation → Prop} {p : Player} {c : Nat → Config ε}

theorem orderly_succ (h : Course e ops p c) (hp : p.Booked) {i : Nat}
    (hi : (c i).player.Orderly) (hn : ¬ (c i).Overtaken) : (c (i + 1)).player.Orderly := by
  have hnext := h.next i
  generalize c (i + 1) = d at hnext
  cases hnext with
  | call env hop hd => exact hi
  | step =>
    cases hs : (c i).stack with
    | nil => exact (Config.step_of_nil hs).symm ▸ hi
    | cons f rest =>
      refine hi.moves (h.booked hp i) (Config.step_moves e hs) ?_
      rintro g rfl ho
      exact hn ⟨by rw [hs]; rfl, ho⟩

/-- Until an entry is overtaken a player is orderly. -/
theorem orderly (h : Course e ops p c) (hp : p.Booked) (h0 : p.Orderly) {n : Nat}
    (hn : ∀ i < n, ¬ (c i).Overtaken) : (c n).player.Orderly := by
  induction n with
  | zero => exact h.player ▸ h0
  | succ n ih =>
    have hprev := ih fun i hi => hn i (Nat.lt_succ_of_lt hi)
    exact h.orderly_succ hp hprev (hn n (Nat.lt_succ_self n))

theorem overtaken_succ (h : Course e ops p c) {i : Nat} (hi : (c i).player.Orderly)
    (ho : (c i).Overtaken) : ¬ (c (i + 1)).player.Coherent := by
  obtain ⟨g, rest, hs⟩ := ho.stack
  have hnext := h.next i
  generalize c (i + 1) = d at hnext
  cases hnext with
  | call env hop hd => simp [hs] at hd
  | step =>
    rw [Config.step_enter_player e hs]
    exact ho.2.not_coherent_enter hi

/-- A player is coherent up to a time of a course if and only if no run that was overtaken has been
entered before. Operations may come from anywhere and be carried out while others are. -/
theorem coherent_iff_not_overtaken {w : World} {code : String}
    {restrictions : Program.Restrictions} {suite : Option Lesson.Suite}
    {budgets : Isolation.Budgets} {isolated : Bool} {ms : Int} {d : Nat}
    (hd : checkedDelay ms = .ok d)
    (h : Course e (fun _ => True) (.start w code restrictions suite budgets isolated d) c)
    (n : Nat) : (∀ i ≤ n, (c i).player.Coherent) ↔ ∀ i < n, ¬ (c i).Overtaken := by
  have hb := Player.booked_start w code restrictions suite budgets isolated (checkedDelay_le hd)
  have h0 : (Player.start w code restrictions suite budgets isolated d).Orderly :=
    Player.orderly_of_fresh rfl rfl
  constructor
  · intro hc
    -- the first entry that is overtaken comes after coherent configurations only
    have hfirst (i : Nat) (hi : i < n) : (∀ j < i, ¬ (c j).Overtaken) → ¬ (c i).Overtaken := by
      intro hbefore ho
      exact h.overtaken_succ (h.orderly hb h0 hbefore) ho (hc (i + 1) hi)
    intro i
    induction i using Nat.strongRecOn with
    | ind i ih => exact fun hi => hfirst i hi fun j hj => ih j hj (Nat.lt_trans hj hi)
  · intro hn i hi
    exact (h.orderly hb h0 fun j hj => hn j (Nat.lt_of_lt_of_le hj hi)).coherent

/-- A program that fails is run twice, and a listener answers the reset of the second run with a run
of its own: the player goes on running although it shows an error. -/
theorem coherent_iff_not_overtaken_second_run :
    let w : World := { World.default with width := 1, height := 1 }
    let p := Player.start w "move()" {} none ⟨10, .seconds Isolation.defaultLimit⟩ false 0
    let c := operated (.once (fun _ => true) .run) { player := p, env := false }
      [(.subscribe 0, false), (.run, false), (.run, true)]
    (c 38).Overtaken ∧ (c 39).player.state.status = .running ∧
      (c 39).player.state.errorCode = some .boundaryViolation ∧
      ¬ ∀ i ≤ 39, (c i).player.Coherent := by
  intro w p c
  have hd : checkedDelay 0 = .ok 0 := rfl
  have h : Course (.once (fun _ => true) .run) (fun _ => True) p c :=
    .of_operated _ _ _ (fun _ _ => trivial) fun _ _ _ _ _ => trivial
  have heval : (c 38).Overtaken ∧ (c 39).player.state.status = .running ∧
      (c 39).player.state.errorCode = some .boundaryViolation := by decide +kernel
  obtain ⟨ho, hs, he⟩ := heval
  refine ⟨ho, hs, he, ?_⟩
  rw [coherent_iff_not_overtaken hd h 39]
  exact fun hn => hn 38 (by omega) ho

end Course

end KarelLab.Playback
