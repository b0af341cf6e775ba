import KarelLab.Proofs.Isolation.Restrictions
import KarelLab.Proofs.Playback.Freshness
import KarelLab.Proofs.Playback.Tasks

namespace KarelLab.Playback

namespace Player

variable {p q : Player} {f : Frame}

theorem record_respects {tree : Program.Tree}
    (hreview : Program.review p.restrictions p.code = .ok tree) {r : Recording}
    (h : p.record = .ok r) : r.Respects p.restrictions := by
  rw [record] at h
  split at h
  · cases h
    exact Isolation.recordIsolated_respects p.code p.initial p.restrictions p.budgets _
  · exact Execution.record_respects hreview h

theorem restrictions_moves (hm : Moves p f q) : q.restrictions = p.restrictions := by
  cases hm with
  | pause hp =>
    obtain ⟨-, rfl⟩ := pause?_eq_some hp
    rfl
  | enter g => rw [enter_frame]
  | tick n ht => rw [tick?_frame ht]
  | _ => rfl

/-- The applied ticks are some of the recording. -/
theorem mem_of_mem_history {r : Recording} (hr : p.recording = some r) {t : Tick}
    (ht : t ∈ p.history) : t ∈ r.ticks.toList := by
  rw [history_of_some hr] at ht
  exact List.mem_of_mem_take ht

theorem recording_ne_none (h : p.history ≠ []) : ∃ r, p.recording = some r :=
  Option.ne_none_iff_exists'.mp fun hn => h (history_of_none hn)

/-- A player that runs alone shows ticks only of a recording that it made of an accepted program. -/
theorem exists_record_of_runAlone (hn : p.recording = none) (h : p.runAlone = .ok q)
    (hh : q.history ≠ []) :
    ∃ tree r, Program.review p.restrictions p.code = .ok tree ∧ p.record = .ok r ∧
      q.recording = some r := by
  obtain ⟨r, hr⟩ := recording_ne_none hh
  -- the recording is the one that was made when the run was entered
  have hentered : p.enter.2.recording = some r := by
    rw [runAlone] at h
    split at h
    · cases h
    · rename_i running p' he
      cases h
      rw [tickAll_frame] at hr
      rw [he]
      exact hr
  cases origin_enter p (.loop .run) with
  | dropped hnone =>
    rw [hnone] at hentered
    cases hentered
  | kept hkept _ _ =>
    rw [hkept, hn] at hentered
    cases hentered
  | @made g r' _ _ haccepted hrecord hmade _ _ =>
    obtain rfl : r' = r := Option.some.inj (hmade.symm.trans hentered)
    obtain ⟨tree, htree⟩ := haccepted
    exact ⟨tree, r', htree, hrecord, hr⟩
  | recoded hf _ => cases hf

/-- The ticks that a player shows that runs alone respect the restrictions. -/
theorem runAlone_respects (hn : p.recording = none) (h : p.runAlone = .ok q)
    (hh : q.history ≠ []) :
    (∃ tree, Program.review p.restrictions p.code = .ok tree) ∧
      ∀ t ∈ q.history, t.primitive.name ∈ p.restrictions.commandNames := by
  obtain ⟨tree, r, htree, hrecord, hr⟩ := exists_record_of_runAlone hn h hh
  exact ⟨⟨tree, htree⟩, fun t ht => record_respects htree hrecord t (mem_of_mem_history hr ht)⟩

end Player

theorem Config.Makes.respects {ε : Type} {c : Config ε} {r : Recording} (h : c.Makes r) :
    r.Respects c.player.restrictions := by
  obtain ⟨tree, htree⟩ := h.accepted
  exact Player.record_respects htree h.record

variable {ε : Type} {p : Player} {c : Nat → Config ε}

inductive Operated (p : Player) (c : Nat → Config ε) : Prop
  | course {e : Environment ε} {ops : Operation → Prop} (h : Course e ops p c)
  | tasks {e : Environment ε} {t : Nat → Tasks ε} (h : Tasks.Course e p t)
    (configs : c = fun i => (t i).config)

namespace Operated

theorem player (h : Operated p c) : (c 0).player = p := by
  cases h with
  | course h => exact h.player
  | tasks h hc =>
    rw [hc]
    exact h.player

theorem leads (h : Operated p c) (i : Nat) : (c i).Leads (c (i + 1)) := by
  cases h with
  | course h => exact h.leads i
  | tasks h hc =>
    rw [hc]
    exact (h.next i).leads

theorem booked (h : Operated p c) (hp : p.Booked) (i : Nat) : (c i).player.Booked :=
  booked_of_leads h.leads (h.player ▸ hp) i

theorem restrictions (h : Operated p c) (i : Nat) :
    (c i).player.restrictions = p.restrictions := by
  induction i with
  | zero => rw [h.player]
  | succ i ih =>
    rcases h.leads i with ⟨hplayer, -⟩ | ⟨f, rest, -, hm⟩
    · rw [hplayer, ih]
    · exact (Player.restrictions_moves hm).trans ih

/-- Ticks that a player shows are of a recording that was made of an accepted program, and they
respect the restrictions that the player had from the beginning. -/
theorem history_respects (h : Operated p c) (hp : p.Booked) (hn : p.recording = none) {i : Nat}
    (hh : (c i).player.history ≠ []) :
    ∃ r j, Holds c r j i ∧
      (∃ tree, Program.review p.restrictions (c j).player.code = .ok tree) ∧
      ∀ t ∈ (c i).player.history,
        t ∈ r.ticks.toList ∧ t.primitive.name ∈ p.restrictions.commandNames := by
  obtain ⟨r, hr⟩ := Player.recording_ne_none hh
  obtain ⟨j, hj⟩ := holds_of_leads h.leads (h.booked hp 0) (by rw [h.player, hn]) i r hr
  have haccepted := hj.makes.accepted
  have hrespects := hj.makes.respects
  rw [h.restrictions j] at haccepted hrespects
  refine ⟨r, j, hj, haccepted, ?_⟩
  intro t ht
  have hmem := Player.mem_of_mem_history hr ht
  exact ⟨hmem, hrespects t hmem⟩

end Operated

end KarelLab.Playback
