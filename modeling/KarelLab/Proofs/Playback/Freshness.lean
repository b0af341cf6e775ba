import KarelLab.Proofs.Playback.Bookkeeping

/-!
# Where recordings come from

A recording that a player holds was made when a run was entered. It belongs to the code and the world
of that moment, and so to those that the player has now, unless a code was set late: a player that is
given another code stops first and tells its listeners, and one of them may begin a run of the old
code before the new one is set.
-/

namespace KarelLab.Playback

namespace Player

variable {p q : Player} {f : Frame}

/-- What a change of a player means for its recording: there is none afterwards, it stays with the
code and the world that it was made for, it is made, or it stays and another code is set. -/
inductive Origin (p : Player) (f : Frame) (q : Player) : Prop
  | dropped (recording : q.recording = none)
  | kept (recording : q.recording = p.recording) (code : q.code = p.code)
      (initial : q.initial = p.initial)
  | made {g : Aim} {r : Recording} (frame : f = .enter g) (idle : p.state.status = .idle)
      (accepted : ∃ tree, Program.review p.restrictions p.code = .ok tree) (record : p.record = .ok r)
      (recording : q.recording = some r) (code : q.code = p.code) (initial : q.initial = p.initial)
  | recoded {text : String} (frame : f = .setCode text) (player : q = { p with code := text })

theorem origin_enter (p : Player) (g : Aim) : Origin p (.enter g) p.enter.2 := by
  cases hv : Program.review p.restrictions p.code with
  | error e =>
    -- a program that is rejected at the beginning is not recorded
    by_cases hi : p.state.status = .idle
    · rw [enter_of_rejected hi hv]
      exact .kept rfl rfl rfl
    · have he := p.entered
      generalize p.enter = a at he ⊢
      cases he with
      | resumed _ => exact .kept rfl rfl rfl
      | rejected h _ | unknown h _ | stillborn h _ _ _ | recorded h _ _ => exact (hi h).elim
  | ok tree =>
    have he := p.entered
    generalize p.enter = a at he ⊢
    cases he with
    | resumed _ => exact .kept rfl rfl rfl
    | rejected _ _ => exact .kept rfl rfl rfl
    | unknown _ _ => exact .kept rfl rfl rfl
    | stillborn hi hr _ _ => exact .made rfl hi ⟨tree, hv⟩ hr rfl rfl rfl
    | recorded hi hr _ => exact .made rfl hi ⟨tree, hv⟩ hr rfl rfl rfl

theorem origin_of_moves (hb : p.Booked) (hm : Moves p f q) : Origin p f q := by
  cases hm with
  | keep _ => exact .kept rfl rfl rfl
  | pause hp =>
    obtain ⟨-, rfl⟩ := pause?_eq_some hp
    exact .kept rfl rfl rfl
  | reset => exact .dropped rfl
  | recode text hs => exact .dropped rfl
  | again g hs => exact .dropped rfl
  | load hl => exact .dropped rfl
  | speed hd => exact .kept rfl rfl rfl
  -- an idle player has no recording that could belong to another code
  | code text hs => exact .dropped (hb.idle hs).1
  | setCode text => exact .recoded rfl rfl
  | budget n => exact .kept rfl rfl rfl
  | subscribe l => exact .kept rfl rfl rfl
  | unsubscribe l => exact .kept rfl rfl rfl
  | enter g => exact origin_enter p g
  | tick n ht =>
    rw [tick?_frame ht]
    exact .kept rfl rfl rfl
  | settle hs => exact .kept rfl rfl rfl

/-- A tick that is applied belongs to the recording. -/
theorem mem_of_next? {t : Tick} (h : p.next? = some t) :
    ∃ r, p.recording = some r ∧ t ∈ r.ticks.toList := by
  rw [next?] at h
  split at h
  · obtain ⟨r, hr, ht⟩ := Option.bind_eq_some_iff.mp h
    refine ⟨r, hr, ?_⟩
    rw [← Array.getElem?_toList] at ht
    exact List.mem_of_getElem? ht
  · cases h

end Player

def Frame.code? : Frame → Option String
  | .setCode text => some text
  | _ => none

namespace Config

variable {ε : Type} {c : Config ε}

structure Makes (c : Config ε) (r : Recording) : Prop where
  entering : ∃ g rest, c.stack = .enter g :: rest
  idle : c.player.state.status = .idle
  accepted : ∃ tree, Program.review c.player.restrictions c.player.code = .ok tree
  record : c.player.record = .ok r

/-- Whether the next step sets a code too late: a run of another code was recorded meanwhile. -/
def Belated (c : Config ε) : Prop :=
  (c.stack.head?.bind Frame.code?).any
    (fun text => c.player.recording.isSome && text ≠ c.player.code) = true

instance (c : Config ε) : Decidable c.Belated := inferInstanceAs (Decidable (_ = true))

theorem belated_iff {text : String} {rest : List Frame} (h : c.stack = .setCode text :: rest) :
    c.Belated ↔ c.player.recording ≠ none ∧ text ≠ c.player.code := by
  rw [Belated, h]
  simp [Frame.code?, Option.isSome_iff_ne_none]

theorem Belated.stack (h : c.Belated) : ∃ text rest, c.stack = .setCode text :: rest := by
  unfold Belated at h
  cases hs : c.stack with
  | nil => simp [hs] at h
  | cons f rest =>
    rw [hs] at h
    cases f with
    | setCode text => exact ⟨text, rest, rfl⟩
    | _ => simp [Frame.code?] at h

end Config

variable {ε : Type} {c : Nat → Config ε}

structure Holds (c : Nat → Config ε) (r : Recording) (j i : Nat) : Prop where
  before : j < i
  makes : (c j).Makes r
  recording : ∀ k, j < k → k ≤ i → (c k).player.recording = some r

/-- A recording is held by a player that has the code and the world for which it was made. -/
structure Serves (c : Nat → Config ε) (r : Recording) (j i : Nat) : Prop extends Holds c r j i where
  code : ∀ k, j < k → k ≤ i → (c k).player.code = (c j).player.code
  initial : ∀ k, j < k → k ≤ i → (c k).player.initial = (c j).player.initial

/-- Whatever recording a player holds at a time of a course, it serves since it was made. -/
def Current (c : Nat → Config ε) (i : Nat) : Prop :=
  ∀ r, (c i).player.recording = some r → ∃ j, Serves c r j i

/-- What holds since some time still holds if it holds at the next time. -/
theorem since_succ {P : Nat → Prop} {j i : Nat} (h : ∀ k, j < k → k ≤ i → P k) (hs : P (i + 1)) :
    ∀ k, j < k → k ≤ i + 1 → P k := by
  intro k hj hk
  rcases Nat.le_succ_iff.mp hk with hk | rfl
  · exact h k hj hk
  · exact hs

/-- At the time itself nothing has to be shown yet. -/
theorem since_self {P : Nat → Prop} (i : Nat) : ∀ k, i < k → k ≤ i → P k :=
  fun _ hi hk => (Nat.not_lt.mpr hk hi).elim

theorem Holds.next {r : Recording} {j i : Nat} (h : Holds c r j i)
    (recording : (c (i + 1)).player.recording = (c i).player.recording) : Holds c r j (i + 1) where
  before := Nat.lt_succ_of_lt h.before
  makes := h.makes
  recording := since_succ h.recording (recording.trans (h.recording i h.before (Nat.le_refl i)))

theorem holds_of_makes {r : Recording} {i : Nat} (h : (c i).Makes r)
    (recording : (c (i + 1)).player.recording = some r) : Holds c r i (i + 1) where
  before := Nat.lt_succ_self i
  makes := h
  recording := since_succ (since_self i) recording

theorem Serves.next {r : Recording} {j i : Nat} (h : Serves c r j i)
    (recording : (c (i + 1)).player.recording = (c i).player.recording)
    (code : (c (i + 1)).player.code = (c i).player.code)
    (initial : (c (i + 1)).player.initial = (c i).player.initial) : Serves c r j (i + 1) where
  toHolds := h.toHolds.next recording
  code := since_succ h.code (code.trans (h.code i h.before (Nat.le_refl i)))
  initial := since_succ h.initial (initial.trans (h.initial i h.before (Nat.le_refl i)))

theorem serves_of_makes {r : Recording} {i : Nat} (h : (c i).Makes r)
    (recording : (c (i + 1)).player.recording = some r)
    (code : (c (i + 1)).player.code = (c i).player.code)
    (initial : (c (i + 1)).player.initial = (c i).player.initial) : Serves c r i (i + 1) where
  toHolds := holds_of_makes h recording
  code := since_succ (since_self i) code
  initial := since_succ (since_self i) initial

theorem Current.next {i : Nat} (h : Current c i)
    (recording : (c (i + 1)).player.recording = (c i).player.recording)
    (code : (c (i + 1)).player.code = (c i).player.code)
    (initial : (c (i + 1)).player.initial = (c i).player.initial) : Current c (i + 1) := by
  intro r hr
  obtain ⟨j, hj⟩ := h r (recording.symm.trans hr)
  exact ⟨j, hj.next recording code initial⟩

/-- Whatever recording a player comes to have, it is held since it was made. -/
theorem holds_of_leads (h : ∀ i, (c i).Leads (c (i + 1))) (hb : (c 0).player.Booked)
    (hn : (c 0).player.recording = none) (i : Nat) :
    ∀ r, (c i).player.recording = some r → ∃ j, Holds c r j i := by
  induction i with
  | zero =>
    intro r hr
    rw [hn] at hr
    cases hr
  | succ i ih =>
    have hkept (recording : (c (i + 1)).player.recording = (c i).player.recording) :
        ∀ r, (c (i + 1)).player.recording = some r → ∃ j, Holds c r j (i + 1) := by
      intro r hr
      obtain ⟨j, hj⟩ := ih r (recording.symm.trans hr)
      exact ⟨j, hj.next recording⟩
    rcases h i with ⟨hplayer, -⟩ | ⟨f, rest, hs, hm⟩
    · exact hkept (by rw [hplayer])
    · cases Player.origin_of_moves (booked_of_leads h hb i) hm with
      | dropped hnone =>
        intro r hr
        rw [hnone] at hr
        cases hr
      | kept recording _ _ => exact hkept recording
      | @made g r hf hidle haccepted hrecord recording _ _ =>
        intro r' hr'
        obtain rfl : r = r' := Option.some.inj (recording.symm.trans hr')
        exact ⟨i, holds_of_makes ⟨⟨g, rest, by rw [hs, hf]⟩, hidle, haccepted, hrecord⟩ recording⟩
      | recoded _ hplayer => exact hkept (by rw [hplayer])

namespace Course

variable {e : Environment ε} {ops : Operation → Prop} {p : Player}

/-- A step keeps a recording in its service, unless it sets another code too late. -/
theorem current_succ (h : Course e ops p c) (hp : p.Booked) {i : Nat} (hi : Current c i)
    (hn : ¬ (c i).Belated) : Current c (i + 1) := by
  rcases h.leads i with ⟨hplayer, -⟩ | ⟨f, rest, hs, hm⟩
  · exact hi.next (by rw [hplayer]) (by rw [hplayer]) (by rw [hplayer])
  · cases Player.origin_of_moves (h.booked hp i) hm with
    | dropped hnone =>
      intro r hr
      rw [hnone] at hr
      cases hr
    | kept recording code initial => exact hi.next recording code initial
    | @made g r hf hidle haccepted hrecord recording code initial =>
      have hmakes : (c i).Makes r := ⟨⟨g, rest, by rw [hs, hf]⟩, hidle, haccepted, hrecord⟩
      intro r' hr'
      obtain rfl : r = r' := Option.some.inj (recording.symm.trans hr')
      exact ⟨i, serves_of_makes hmakes recording code initial⟩
    | @recoded text hf hplayer =>
      rw [hf] at hs
      have htimely : ¬ ((c i).player.recording ≠ none ∧ text ≠ (c i).player.code) :=
        fun hlate => hn ((Config.belated_iff hs).mpr hlate)
      cases hr : (c i).player.recording with
      | none =>
        intro r hr'
        rw [hplayer] at hr'
        cases hr.symm.trans hr'
      -- the code that is set is the one that the player has anyway
      | some r =>
        have hsame : text = (c i).player.code :=
          Decidable.not_not.mp fun hne => htimely ⟨by simp [hr], hne⟩
        refine hi.next ?_ ?_ ?_ <;> rw [hplayer]
        exact hsame

/-- A code that is set too late leaves the recording of another one. -/
theorem not_current_succ (h : Course e ops p c) {i : Nat} (hb : (c i).Belated) :
    ¬ Current c (i + 1) := by
  intro hcurrent
  obtain ⟨text, rest, hs⟩ := hb.stack
  obtain ⟨hrecorded, hother⟩ := (Config.belated_iff hs).mp hb
  obtain ⟨r, hr⟩ := Option.ne_none_iff_exists'.mp hrecorded
  have hstep : (c (i + 1)).player = { (c i).player with code := text } := by
    rw [h.next_eq_step (by simp [hs]), Config.step, hs]
    rfl
  have hr' : (c (i + 1)).player.recording = some r := by rw [hstep, hr]
  obtain ⟨j, hj⟩ := hcurrent r hr'
  -- the recording was not made in this very step, so it served the old code before
  have hlt : j < i := by
    refine Nat.lt_of_le_of_ne (Nat.le_of_lt_succ hj.before) ?_
    rintro rfl
    obtain ⟨g, rest', henter⟩ := hj.makes.entering
    cases hs.symm.trans henter
  have hold := hj.code i hlt (Nat.le_succ i)
  have hnew := hj.code (i + 1) hj.before (Nat.le_refl _)
  rw [hstep] at hnew
  exact hother (hnew.trans hold.symm)

/-- Up to a time of a course the recordings of a player belong to the code and the world that it has,
if and only if no code was set too late before. As long as that is so, every tick that is applied is
one of a recording of the code and the world that the player has. -/
theorem current_iff_not_belated {w : World} {code : String} {restrictions : Program.Restrictions}
    {suite : Option Lesson.Suite} {budgets : Isolation.Budgets} {isolated : Bool} {ms : Int} {d : Nat}
    (hd : checkedDelay ms = .ok d)
    (h : Course e (fun _ => True) (.start w code restrictions suite budgets isolated d) c) (n : Nat) :
    ((∀ i ≤ n, Current c i) ↔ ∀ i < n, ¬ (c i).Belated) ∧
      ((∀ i < n, ¬ (c i).Belated) → ∀ i ≤ n, ∀ t, (c i).applied? = some t →
        ∃ r j, t ∈ r.ticks.toList ∧ Serves c r j i) := by
  have hb := Player.booked_start w code restrictions suite budgets isolated (checkedDelay_le hd)
  have hstart : Current c 0 := by
    intro r hr
    rw [h.player] at hr
    cases hr
  -- along the course, from the player that has recorded nothing yet
  have hcurrent (hn : ∀ i < n, ¬ (c i).Belated) (i : Nat) (hi : i ≤ n) : Current c i := by
    induction i with
    | zero => exact hstart
    | succ i ih => exact h.current_succ hb (ih (Nat.le_of_succ_le hi)) (hn i hi)
  refine ⟨⟨?_, hcurrent⟩, ?_⟩
  · intro hall i hi hbelated
    exact h.not_current_succ hbelated (hall (i + 1) hi)
  · intro hn i hi t ht
    obtain ⟨f, hf, happlied⟩ := Option.bind_eq_some_iff.mp ht
    -- only a tick that is due applies anything
    have hnext : (c i).player.next? = some t := by
      cases f with
      | tick k =>
        cases k with
        | zero => cases happlied
        | succ k => exact happlied
      | _ => cases happlied
    obtain ⟨r, hr, hmem⟩ := Player.mem_of_next? hnext
    obtain ⟨j, hj⟩ := hcurrent hn i hi r hr
    exact ⟨r, j, hmem, hj⟩

def lateCode : Nat → Config Bool :=
  operated (.once (fun _ => true) .step)
    { player := .start .default "move()\nmove()" {} none ⟨10, .seconds Isolation.defaultLimit⟩ false 0
      env := false }
    [(.step, false), (.subscribe 0, false), (.loadCode "turn_left()", true), (.run, false)]

/-- The player is paused again, with the new code and the recording of the old one, and the run goes
on with that. -/
theorem current_iff_not_belated_step :
    (lateCode 35).Belated ∧ (lateCode 36).player.state.status = .paused ∧
      (lateCode 45).applied?.map (·.primitive) = some (.action .move) ∧
      ¬ ∀ i ≤ 45, Current lateCode i := by
  have hd : checkedDelay 0 = .ok 0 := rfl
  have h : Course (.once (fun _ => true) .step) (fun _ => True) _ lateCode :=
    .of_operated _ _ _ (fun _ _ => trivial) fun _ _ _ _ _ => trivial
  have heval : (lateCode 35).Belated ∧ (lateCode 36).player.state.status = .paused ∧
      (lateCode 45).applied?.map (·.primitive) = some (.action .move) := by decide +kernel
  obtain ⟨hb, hs, ht⟩ := heval
  refine ⟨hb, hs, ht, ?_⟩
  rw [(current_iff_not_belated hd h 45).1]
  exact fun hn => hn 35 (by omega) hb

end Course

end KarelLab.Playback
