import KarelLab.Proofs.World.Listing
import KarelLab.World.Action

namespace KarelLab.World

structure TidyPiles (ps : List Pile) : Prop where
  nodup : (ps.map Pile.position).Nodup
  counts_pos : ∀ p ∈ ps, 1 ≤ p.count

theorem WellFormed.tidyPiles {w : World} (h : w.WellFormed) : TidyPiles w.piles :=
  ⟨h.piles_nodup, h.counts_pos⟩

/-- A pile that joins another one only makes it bigger. -/
theorem counts_pos_addPile {pile : Pile} {ps : List Pile} (hpile : 1 ≤ pile.count)
    (hc : ∀ p ∈ ps, 1 ≤ p.count) : ∀ p ∈ addPile pile ps, 1 ≤ p.count := by
  induction ps with
  | nil => simpa [addPile] using hpile
  | cons p rest ih =>
    have hone : 1 ≤ p.count := hc p List.mem_cons_self
    have hrest : ∀ q ∈ rest, 1 ≤ q.count := fun q hq => hc q (List.mem_cons_of_mem p hq)
    intro q hq
    rw [addPile] at hq
    split at hq
    · rcases List.mem_cons.mp hq with rfl | hq
      · exact Nat.le_add_right_of_le hone
      · exact hrest q hq
    · rcases List.mem_cons.mp hq with rfl | hq
      · exact hone
      · exact ih hrest q hq

theorem TidyPiles.addPile {ps : List Pile} (h : TidyPiles ps) (pile : Pile) (hpile : 1 ≤ pile.count) :
    TidyPiles (addPile pile ps) where
  nodup := by
    by_cases hm : pile.position ∈ ps.map Pile.position
    · rw [positions_addPile_of_mem hm]
      exact h.nodup
    · rw [addPile_of_notMem hm, List.map_append, List.map_singleton, ← List.concat_eq_append,
        List.nodup_concat]
      exact ⟨hm, h.nodup⟩
  counts_pos := counts_pos_addPile hpile h.counts_pos

theorem positions_takeBeeper_sublist (c : Position) (ps : List Pile) :
    ((takeBeeper c ps).map Pile.position).Sublist (ps.map Pile.position) := by
  induction ps with
  | nil => exact List.Sublist.refl _
  | cons p rest ih =>
    rw [takeBeeper]
    split
    · split
      · exact (List.Sublist.refl _).cons _
      · exact List.Sublist.refl _
    · exact ih.cons_cons _

theorem TidyPiles.takeBeeper {ps : List Pile} (h : TidyPiles ps) (c : Position) :
    TidyPiles (takeBeeper c ps) := by
  refine ⟨h.nodup.sublist (positions_takeBeeper_sublist c ps), ?_⟩
  -- what is left concerns the counts alone
  have hc := h.counts_pos
  clear h
  induction ps with
  | nil => exact hc
  | cons p rest ih =>
    have hrest : ∀ q ∈ rest, 1 ≤ q.count := fun q hq => hc q (List.mem_cons_of_mem p hq)
    rw [World.takeBeeper]
    split
    · split
      · exact hrest
      -- one of several beepers is taken, and at least one stays
      · rename_i hcount
        intro q hq
        rcases List.mem_cons.mp hq with rfl | hq
        · exact Nat.le_sub_of_add_le (by omega)
        · exact hrest q hq
    · intro q hq
      rcases List.mem_cons.mp hq with rfl | hq
      · exact hc q List.mem_cons_self
      · exact ih hrest q hq

theorem contains_step_of_obstacle?_eq_none {w : World} {p : Position} {d : Direction}
    (h : w.obstacle? p d = none) : w.contains (p.step d) = true := by
  unfold obstacle? at h
  split at h
  · cases h
  · split at h
    · assumption
    · cases h

/-- An action that succeeds leads from an accepted world to an accepted world. -/
theorem WellFormed.act {w after : World} (h : w.WellFormed) (a : Action)
    (ha : w.act a = .ok after) : after.WellFormed := by
  cases a with
  | move =>
    change w.move = .ok after at ha
    unfold move at ha
    dsimp only at ha
    split at ha
    · cases ha
    · cases ha
    · rename_i hfree
      cases ha
      exact { h with robot_inside := contains_step_of_obstacle?_eq_none hfree }
  | turnLeft =>
    cases ha
    exact { h with robot_inside := h.robot_inside }
  | pickBeeper =>
    change w.pickBeeper = .ok after at ha
    unfold pickBeeper at ha
    split at ha
    · cases ha
      have ht := h.tidyPiles.takeBeeper w.robot.position
      exact { h with robot_inside := h.robot_inside, piles_nodup := ht.nodup, counts_pos := ht.counts_pos }
    · cases ha
  | putBeeper =>
    change w.putBeeper = .ok after at ha
    unfold putBeeper at ha
    split at ha
    · cases ha
    · cases ha
      have ht := h.tidyPiles.addPile ⟨w.robot.position.x, w.robot.position.y, 1⟩ (Nat.le_refl 1)
      exact { h with robot_inside := h.robot_inside, piles_nodup := ht.nodup, counts_pos := ht.counts_pos }

/-- Repeated walls are dropped for good. -/
theorem dropRepeated_nodup (walls : List Wall) : (dropRepeated walls).Nodup := by
  rw [dropRepeated_eq_eraseDups]
  exact nodup_eraseDups walls

/-- Joined piles are tidy, in whatever order they were listed. -/
theorem TidyPiles.mergePiles {ps : List Pile} (h : ∀ p ∈ ps, 1 ≤ p.count) :
    TidyPiles (mergePiles ps) := by
  induction ps using List.reverseRecOn with
  | nil => exact ⟨List.nodup_nil, by simp [World.mergePiles]⟩
  | append_singleton ps p ih =>
    have hps : TidyPiles (World.mergePiles ps) := ih fun q hq => h q (List.mem_append_left _ hq)
    rw [mergePiles_concat]
    exact hps.addPile p (h p (by simp))

/-- Once a world is put in order, all that is left to ask for is its size, the place of the robot
and that no pile is listed empty. -/
theorem wellFormed_normalize {w : World} (hwidth : 1 ≤ w.width ∧ w.width ≤ maxSize)
    (hheight : 1 ≤ w.height ∧ w.height ≤ maxSize) (hrobot : w.contains w.robot.position = true)
    (hcounts : ∀ p ∈ w.piles, 1 ≤ p.count) : w.normalize.WellFormed where
  width_pos := hwidth.1
  width_le := hwidth.2
  height_pos := hheight.1
  height_le := hheight.2
  robot_inside := hrobot
  walls_nodup := dropRepeated_nodup w.walls
  piles_nodup := (TidyPiles.mergePiles hcounts).nodup
  counts_pos := (TidyPiles.mergePiles hcounts).counts_pos

end KarelLab.World
