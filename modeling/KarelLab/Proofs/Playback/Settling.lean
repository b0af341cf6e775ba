import KarelLab.Proofs.Playback.Course
import Mathlib.Algebra.GroupWithZero.Nat

/-!
# Operations come to an end

What is left to be done gets less with every step that is not an answer: first the runs that are
still to be entered, then the ticks that are left, then the remaining parts. So an operation comes
to an end unless it is answered again and again. All that is needed is that a running player has a
recording.
-/

namespace KarelLab.Playback

def Frame.entries : Frame → Nat
  | .perform _ => 3
  | .start _ => 2
  | .enter _ => 1
  | _ => 0

def Frame.parts : Frame → Nat
  | .notify ls => 2 * ls.length + 1
  | .begin _ => 4
  | .wait _ _ => 3
  | .tick n => n + 1
  | .react _ | .loop _ _ | .settleStep | .setCode _ => 1
  | _ => 0

def Frame.ticking : Frame → Nat
  | .tick (_ + 1) => 1
  | _ => 0

def Player.ticksLeft (p : Player) : Nat :=
  if p.state.status = .running then (p.recording.map (·.ticks.size)).getD 0 - p.cursor + 1 else 0

/-- What is left to be done: runs to be entered, ticks to be applied, and other parts. A loop about
to apply a tick counts as half a tick less, so that it can be resumed after the tick. -/
def effort (p : Player) (stack : List Frame) : Nat × Nat × Nat :=
  ((stack.map Frame.entries).sum,
    2 * p.ticksLeft - (stack.head?.map Frame.ticking).getD 0,
    (stack.map Frame.parts).sum)

def Less : Nat × Nat × Nat → Nat × Nat × Nat → Prop :=
  Prod.Lex (· < ·) (Prod.Lex (· < ·) (· < ·))

theorem wellFounded_less : WellFounded Less :=
  (Prod.lex Nat.lt_wfRel (Prod.lex Nat.lt_wfRel Nat.lt_wfRel)).wf

variable {p q : Player} {f : Frame} {fs rest stack : List Frame}

theorem less_of_entries
    (h : (stack.map Frame.entries).sum < f.entries + (rest.map Frame.entries).sum) :
    Less (effort q stack) (effort p (f :: rest)) := by
  refine Prod.Lex.left _ _ ?_
  rw [List.map_cons, List.sum_cons]
  exact h

theorem less_of_ticks
    (he : (stack.map Frame.entries).sum = f.entries + (rest.map Frame.entries).sum)
    (h : 2 * q.ticksLeft - (stack.head?.map Frame.ticking).getD 0 < 2 * p.ticksLeft - f.ticking) :
    Less (effort q stack) (effort p (f :: rest)) := by
  unfold effort Less
  rw [he, List.map_cons, List.sum_cons]
  exact Prod.Lex.right _ (Prod.Lex.left _ _ h)

theorem less_of_parts
    (he : (stack.map Frame.entries).sum = f.entries + (rest.map Frame.entries).sum)
    (ht : 2 * q.ticksLeft ≤ 2 * p.ticksLeft - f.ticking)
    (h : (stack.map Frame.parts).sum < f.parts + (rest.map Frame.parts).sum) :
    Less (effort q stack) (effort p (f :: rest)) := by
  have hle : 2 * q.ticksLeft - (stack.head?.map Frame.ticking).getD 0 ≤
      2 * p.ticksLeft - f.ticking := by omega
  rcases Nat.lt_or_eq_of_le hle with hlt | heq
  · exact less_of_ticks he hlt
  · unfold effort Less
    rw [he, List.map_cons, List.sum_cons, heq, List.map_cons, List.sum_cons]
    exact Prod.Lex.right _ (Prod.Lex.right _ h)

namespace Player

theorem ticksLeft_eq_zero (h : p.state.status ≠ .running) : p.ticksLeft = 0 := if_neg h

theorem ticksLeft_fail (p : Player) (e : Report) : (p.fail e).ticksLeft = 0 := if_neg nofun

theorem ticksLeft_pos (h : p.state.status = .running) : 1 ≤ p.ticksLeft := by
  rw [ticksLeft, if_pos h]
  exact Nat.le_add_left 1 _

theorem ticksLeft_tick (h : p.tick? = some q) : q.ticksLeft < p.ticksLeft := by
  obtain ⟨hs, r, hr, hk⟩ := tick?_eq_some h
  have hp : p.ticksLeft = r.ticks.size - p.cursor + 1 := by
    rw [ticksLeft, if_pos hs, hr]
    rfl
  have hfinish (q : Player) : q.finish.ticksLeft = 0 :=
    ticksLeft_eq_zero (Status.ne_running_of_terminal q.terminal_finish)
  rw [hp]
  cases hk with
  | ended _ =>
    rw [hfinish]
    exact Nat.succ_pos _
  | last _ _ _ =>
    rw [hfinish]
    exact Nat.succ_pos _
  | failed _ hfail =>
    rw [applyTick_failed hfail, ticksLeft_fail]
    exact Nat.succ_pos _
  | @next t _ hpass hleft =>
    have hrun : (p.applyTick t).state.status = .running := by
      rw [state_applyTick_passed hpass]
      exact hs
    rw [ticksLeft, if_pos hrun, recording_applyTick, hr, cursor_applyTick]
    change r.ticks.size - (p.cursor + 1) + 1 < r.ticks.size - p.cursor + 1
    omega

end Player

/-- An operation that is begun has at most a start before it. -/
theorem Turn.entries_perform {op : Operation} (h : Turn p (.perform op) q fs) :
    (fs.map Frame.entries).sum < 3 := by
  cases h <;> simp [Frame.entries]

/-- A turn leaves less to be done, if a running player has a recording. -/
theorem Turn.less (h : Turn p f q fs) (hr : p.state.status = .running → p.recording ≠ none) :
    Less (effort q (fs ++ rest)) (effort p (f :: rest)) := by
  -- frames that take the place of one that neither enters a run nor applies a tick
  have hparts {f : Frame} {q : Player} {fs : List Frame} (hf : f.entries = 0) (hn : f.ticking = 0)
      (he : (fs.map Frame.entries).sum = 0) (ht : q.ticksLeft = p.ticksLeft)
      (hp : (fs.map Frame.parts).sum < f.parts) :
      Less (effort q (fs ++ rest)) (effort p (f :: rest)) := by
    refine less_of_parts ?_ ?_ ?_
    · rw [List.map_append, List.sum_append, he, hf]
    · rw [hn, ht]
      exact Nat.le_refl _
    · rw [List.map_append, List.sum_append]
      omega
  cases f with
  | perform op =>
    refine less_of_entries ?_
    rw [List.map_append, List.sum_append]
    exact Nat.add_lt_add_right h.entries_perform _
  | notify ls =>
    cases h with
    | told => exact hparts rfl rfl rfl rfl (by simp [Frame.parts])
    | tell l ls => exact hparts rfl rfl rfl rfl (by simp [Frame.parts]; omega)
  | react n =>
    cases h with
    | heard _ => exact hparts rfl rfl rfl rfl (by simp [Frame.parts])
  | start g =>
    refine less_of_entries ?_
    cases h with
    | again _ _ => simp [Frame.entries]
    | start _ _ => simp [Frame.entries]
  | enter g =>
    refine less_of_entries ?_
    cases h with
    | enter _ _ => simp [Frame.entries]
    | failEntry _ _ => simp [Frame.entries]
  | begin g =>
    cases h with
    | beginLoop s => exact hparts rfl rfl rfl rfl (by simp [Frame.parts])
    | beginSingle => exact hparts rfl rfl rfl rfl (by simp [Frame.parts])
  | loop s g =>
    cases h with
    | leave _ _ _ => exact hparts rfl rfl rfl rfl (by simp [Frame.parts])
    | loop _ hs =>
      -- the loop comes back with the tick to be applied on top: half a tick less
      refine less_of_ticks (by simp [Frame.entries]) ?_
      have hpos := Player.ticksLeft_pos hs
      simp only [List.cons_append, List.head?_cons, Option.map_some, Option.getD_some,
        Frame.ticking]
      omega
  | wait s g =>
    cases h with
    | stop _ _ _ => exact hparts rfl rfl rfl rfl (by simp [Frame.parts])
    | hurry _ _ _ => exact hparts rfl rfl rfl rfl (by simp [Frame.parts])
    | wait _ _ _ _ => exact hparts rfl rfl rfl rfl (by simp [Frame.parts])
  | tick n =>
    -- a tick that cannot be applied is only counted, and then the player is not running
    cases h with
    | noTicks => exact hparts rfl rfl rfl rfl (by simp [Frame.parts])
    | tick n ht =>
      refine less_of_ticks (by simp [Frame.entries]) ?_
      have hlt := Player.ticksLeft_tick ht
      simp only [List.cons_append, List.head?_cons, Option.map_some, Option.getD_some,
        Frame.ticking]
      omega
    | noTick n ht =>
      have hs : p.state.status ≠ .running := by
        intro hs
        obtain ⟨r, hrec⟩ := Option.ne_none_iff_exists'.mp (hr hs)
        obtain ⟨q', hq'⟩ := Player.tick?_isSome hs hrec
        rw [ht] at hq'
        cases hq'
      refine less_of_parts (by simp [Frame.entries]) ?_ (by simp [Frame.parts])
      rw [Player.ticksLeft_eq_zero hs]
      exact Nat.zero_le _
  | settleStep =>
    cases h with
    | settled _ => exact hparts rfl rfl rfl rfl (by simp [Frame.parts])
    | settle hs =>
      refine less_of_ticks (by simp [Frame.entries]) ?_
      have hpos := Player.ticksLeft_pos hs
      have hzero : (p.withStatus .paused).ticksLeft = 0 := Player.ticksLeft_eq_zero nofun
      have hticking : Frame.settleStep.ticking = 0 := rfl
      omega
  | setCode text =>
    cases h with
    | setCode _ => exact hparts rfl rfl rfl rfl (by simp [Frame.parts])

/-- A fault leaves less to be done. -/
theorem Stop.less {fault : PlayerFault} (h : Stop p f q fault) (hs : stack <:+ rest) :
    Less (effort q stack) (effort p (f :: rest)) := by
  have hle : (stack.map Frame.entries).sum ≤ (rest.map Frame.entries).sum := by
    obtain ⟨before, rfl⟩ := hs
    rw [List.map_append, List.sum_append]
    exact Nat.le_add_left _ _
  -- only operations and entries are refused
  have hpos : 0 < f.entries := by cases h <;> simp [Frame.entries]
  refine less_of_entries ?_
  omega

variable {ε : Type} {e : Environment ε}

/-- Every step that is not an answer leaves less to be done, if a running player has a recording. -/
theorem Config.step_less {c : Config ε} (hs : c.stack ≠ []) (ha : c.answer? e = none)
    (hr : c.player.state.status = .running → c.player.recording ≠ none) :
    Less (effort (c.step e).player (c.step e).stack) (effort c.player c.stack) := by
  obtain ⟨f, rest, hstack⟩ := List.exists_cons_of_ne_nil hs
  rw [hstack]
  cases step_cases e hstack with
  | turn ht _ hst _ =>
    rw [hst]
    exact ht.less hr
  | answer hf hanswer _ _ _ =>
    rw [answer?, hstack, hf] at ha
    simp [hanswer] at ha
  | stop hp hst _ => exact hp.less hst

/-- From some time on a course comes to a point where nothing is left to be done, if nothing is
answered any more and a running player always has a recording. -/
theorem Course.settles {ops : Operation → Prop} {c : Nat → Config ε} (h : Course e ops p c)
    (hr : ∀ i, (c i).player.state.status = .running → (c i).player.recording ≠ none) {n : Nat}
    (ha : ∀ i, n ≤ i → (c i).answer? e = none) (i : Nat) (hi : n ≤ i) :
    ∃ j, i ≤ j ∧ (c j).stack = [] := by
  by_cases hs : (c i).stack = []
  · exact ⟨i, Nat.le_refl i, hs⟩
  · have hstep : c (i + 1) = (c i).step e := h.next_eq_step hs
    obtain ⟨j, hj, hs⟩ := h.settles hr ha (i + 1) (Nat.le_succ_of_le hi)
    exact ⟨j, Nat.le_of_succ_le hj, hs⟩
termination_by wellFounded_less.wrap (effort (c i).player (c i).stack)
decreasing_by
  rw [hstep]
  exact Config.step_less hs (ha i hi) (hr i)

end KarelLab.Playback
