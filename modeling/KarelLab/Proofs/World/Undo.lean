import KarelLab.Proofs.World.Alike
import KarelLab.Proofs.World.Conservation
import KarelLab.Proofs.World.Reach

/-!
# Taking actions back

Whatever the robot did, it can undo. It steps back over a boundary that it crossed, turns on until it
faces as before, and puts down again what it picked up. The actions of a run are taken back one after
another, the last one first. Only the order in which the piles are listed may differ in the end: a pile
of which the last beeper was taken is listed last when it is put back.
-/

namespace KarelLab

theorem Wall.Separates.symm {wall : Wall} {a b : Position} (h : wall.Separates a b) :
    wall.Separates b a := by
  rcases h with ⟨ha, hb⟩ | ⟨ha, hb⟩
  · exact .inr ⟨hb, ha⟩
  · exact .inl ⟨hb, ha⟩

theorem Position.Beside.symm {a b : Position} (h : a.Beside b) : b.Beside a := by
  rcases h with ⟨hx, hy⟩ | ⟨hy, hx⟩
  · exact .inl ⟨hx.symm, hy.symm⟩
  · exact .inr ⟨hy.symm, hx.symm⟩

namespace World

variable {u v w : World}

theorem Joined.symm {a b : Position} (h : w.Joined a b) : w.Joined b a where
  beside := h.beside.symm
  unwalled wall hmem hsep := h.unwalled wall hmem hsep.symm

theorem actAll_append (w : World) (first second : List Action) :
    w.actAll (first ++ second) = w.actAll first >>= fun v => v.actAll second := by
  unfold actAll
  rw [List.foldlM_append]

/-- Of actions that all succeed the first one does, and the others do in the world to which it leads. -/
theorem actAll_cons_eq_ok {a : Action} {rest : List Action}
    (h : w.actAll (a :: rest) = .ok v) :
    ∃ next, w.act a = .ok next ∧ next.actAll rest = .ok v := by
  rw [actAll, List.foldlM_cons] at h
  cases ha : w.act a with
  | error f =>
    rw [ha] at h
    cases h
  | ok next =>
    rw [ha] at h
    exact ⟨next, rfl, h⟩

theorem walls_of_actAll {actions : List Action} (ha : w.actAll actions = .ok v) :
    v.walls = w.walls := by
  induction actions generalizing w with
  | nil =>
    cases ha
    rfl
  | cons a rest ih =>
    obtain ⟨next, hact, hrest⟩ := actAll_cons_eq_ok ha
    have hone : next.walls = w.walls := by cases change_of_act hact <;> rfl
    exact (ih hrest).trans hone

namespace Alike

theorem trans (h : u.Alike v) (k : v.Alike w) : u.Alike w where
  width := h.width.trans k.width
  height := h.height.trans k.height
  robot := h.robot.trans k.robot
  walls := h.walls.trans k.walls
  piles := h.piles.trans k.piles
  tidy := h.tidy

/-- Actions that succeed in one of two worlds that are alike succeed in the other one. -/
theorem actAll (h : v.Alike w) {actions : List Action} {after : World}
    (ha : w.actAll actions = .ok after) : ∃ after', v.actAll actions = .ok after' ∧
      after'.Alike after := by
  induction actions generalizing v w with
  | nil =>
    cases ha
    exact ⟨v, rfl, h⟩
  | cons a rest ih =>
    obtain ⟨next, hact, hrest⟩ := actAll_cons_eq_ok ha
    have hagrees := h.act a
    rw [hact] at hagrees
    generalize hv : v.act a = x at hagrees
    cases hagrees with
    | ok hnext =>
      obtain ⟨after', hrest', halike⟩ := ih hnext hrest
      refine ⟨after', ?_, halike⟩
      rw [World.actAll, List.foldlM_cons, hv]
      exact hrest'

end Alike

/-! ## One action -/

theorem WellFormed.beepersPresent_iff (h : w.WellFormed) :
    w.beepersPresent = true ↔ total w.piles w.robot.position ≠ 0 := by
  rw [beepersPresent, pileAt?, h.tidyPiles.find?_eq]
  by_cases hnone : total w.piles w.robot.position = 0
  · simp [hnone]
  · simp [hnone, Nat.pos_of_ne_zero hnone]

/-- A beeper is taken of the pile to which it was added, and a pile that it began is gone. -/
theorem takeBeeper_addPile {p : Position} {ps : List Pile} (h : ∀ q ∈ ps, 1 ≤ q.count) :
    takeBeeper p (addPile ⟨p.x, p.y, 1⟩ ps) = ps := by
  induction ps with
  | nil => simp [addPile, takeBeeper, Pile.position]
  | cons q rest ih =>
    have hq : 1 ≤ q.count := h q List.mem_cons_self
    have hrest : ∀ r ∈ rest, 1 ≤ r.count := fun r hr => h r (List.mem_cons_of_mem q hr)
    have hone : (⟨p.x, p.y, 1⟩ : Pile).position = p := rfl
    rw [addPile, hone]
    by_cases hp : q.position = p
    · have hmore : ({ q with count := q.count + 1 } : Pile).position = p := hp
      have hcount : ¬ q.count + 1 ≤ 1 := by omega
      rw [if_pos hp, takeBeeper, if_pos hmore, if_neg hcount]
      rfl
    · rw [if_neg hp, takeBeeper, if_neg hp, ih hrest]

/-- A beeper that was put down can be picked up, which gives back the very same world. -/
theorem WellFormed.pickBeeper_of_putBeeper (h : w.WellFormed) (hput : w.act .putBeeper = .ok v) :
    v.act .pickBeeper = .ok w := by
  have hv : v.WellFormed := h.act _ hput
  change w.putBeeper = .ok v at hput
  dsimp only [putBeeper] at hput
  split at hput
  · cases hput
  · rename_i bag hbag
    cases hput
    have hsome : total (addPile ⟨w.robot.position.x, w.robot.position.y, 1⟩ w.piles)
        w.robot.position ≠ 0 := by
      have hone : (⟨w.robot.position.x, w.robot.position.y, 1⟩ : Pile).position =
          w.robot.position := rfl
      rw [total_addPile, if_pos hone]
      exact Nat.succ_ne_zero _
    have hpresent := hv.beepersPresent_iff.mpr hsome
    change pickBeeper _ = _
    dsimp only [pickBeeper]
    rw [if_pos hpresent, takeBeeper_addPile h.counts_pos, ← bag_of_take? hbag]

/-- A beeper that was picked up can be put down again. -/
theorem WellFormed.putBeeper_of_pickBeeper (h : w.WellFormed) (hpick : w.act .pickBeeper = .ok v) :
    ∃ restored, v.act .putBeeper = .ok restored ∧ restored.Alike w := by
  change w.pickBeeper = .ok v at hpick
  dsimp only [pickBeeper] at hpick
  split at hpick
  · rename_i hpresent
    have hsome : total w.piles w.robot.position ≠ 0 := h.beepersPresent_iff.mp hpresent
    cases hpick
    let back : Pile := ⟨w.robot.position.x, w.robot.position.y, 1⟩
    have hless : TidyPiles (takeBeeper w.robot.position w.piles) := h.tidyPiles.takeBeeper _
    have htidy : TidyPiles (addPile back (takeBeeper w.robot.position w.piles)) :=
      hless.addPile back (Nat.le_refl 1)
    have htotal (c : Position) : total (addPile back (takeBeeper w.robot.position w.piles)) c =
        total w.piles c := by
      have hback : back.position = w.robot.position := rfl
      rw [total_addPile, h.tidyPiles.total_takeBeeper, hback]
      split
      · rename_i hc
        rw [← hc]
        have hone : back.count = 1 := rfl
        omega
      · rfl
    refine ⟨{ w with piles := addPile back (takeBeeper w.robot.position w.piles) }, ?_, ?_⟩
    · change putBeeper _ = _
      dsimp only [putBeeper]
      rw [Bag.take?_add]
    · exact ⟨rfl, rfl, rfl, .refl _, (htidy.perm_iff h.tidyPiles).mpr htotal, htidy⟩
  · cases hpick

/-- Every action that succeeds can be taken back. -/
theorem WellFormed.exists_undo_act (h : w.WellFormed) {a : Action} (ha : w.act a = .ok v) :
    ∃ back restored, v.actAll back = .ok restored ∧ restored.Alike w := by
  cases a with
  | move =>
    have hself : w.posed w.robot.position w.robot.direction = w := rfl
    rw [← hself] at ha
    obtain ⟨rfl, hjoined, -⟩ := joined_of_act_move ha
    obtain ⟨back, -, hback⟩ :=
      Gets.cross hjoined.symm h.robot_inside w.robot.direction w.robot.direction
    exact ⟨back, w, hback, h.alike_refl⟩
  | turnLeft =>
    cases ha
    have hface : w.Gets w.robot.position w.robot.direction.left w.robot.position
        w.robot.direction := Gets.face _
    obtain ⟨back, -, hback⟩ := hface
    exact ⟨back, w, hback, h.alike_refl⟩
  | pickBeeper =>
    obtain ⟨restored, hput, halike⟩ := h.putBeeper_of_pickBeeper ha
    refine ⟨[.putBeeper], restored, ?_, halike⟩
    rw [World.actAll, List.foldlM_cons, hput]
    rfl
  | putBeeper =>
    refine ⟨[.pickBeeper], w, ?_, h.alike_refl⟩
    rw [World.actAll, List.foldlM_cons, h.pickBeeper_of_putBeeper ha]
    rfl

/-! ## A run -/

/-- All actions of a run can be taken back. -/
theorem WellFormed.exists_undo_actAll (h : w.WellFormed) {actions : List Action}
    (ha : w.actAll actions = .ok v) :
    ∃ back restored, v.actAll back = .ok restored ∧ restored.Alike w := by
  -- on the actions: the later ones are taken back first, to a world in which the first one can be
  -- taken back like in the one to which it led
  induction actions generalizing w with
  | nil =>
    cases ha
    exact ⟨[], v, rfl, h.alike_refl⟩
  | cons a rest ih =>
    obtain ⟨next, hact, hrest⟩ := actAll_cons_eq_ok ha
    obtain ⟨later, between, hlater, hbetween⟩ := ih (h.act a hact) hrest
    obtain ⟨first, before, hfirst, hbefore⟩ := h.exists_undo_act hact
    obtain ⟨restored, hrestored, halike⟩ := hbetween.actAll hfirst
    refine ⟨later ++ first, restored, ?_, halike.trans hbefore⟩
    rw [actAll_append, hlater]
    exact hrestored

/-- A world in which everything is back: the grid, its walls as they were listed, the robot, and the
pile of every cell. -/
structure Restored (w restored : World) : Prop where
  width : restored.width = w.width
  height : restored.height = w.height
  walls : restored.walls = w.walls
  robot : restored.robot = w.robot
  piles : ∀ c, restored.pileAt? c = w.pileAt? c

/-- Every run without a fault can be undone by another one, and a beeper that is put down and picked
up again leaves no trace. -/
theorem runs_can_be_undone (h : w.WellFormed) :
    (∀ (actions : List Action) (after : World), w.actAll actions = .ok after →
      ∃ back restored, after.actAll back = .ok restored ∧ w.Restored restored) ∧
    ∀ after, w.act .putBeeper = .ok after → after.act .pickBeeper = .ok w := by
  refine ⟨?_, fun after hput => h.pickBeeper_of_putBeeper hput⟩
  intro actions after ha
  obtain ⟨back, restored, hback, halike⟩ := h.exists_undo_actAll ha
  -- likeness says nothing about the order of the walls, but no action touches them
  have hwalls : restored.walls = w.walls := (walls_of_actAll hback).trans (walls_of_actAll ha)
  exact ⟨back, restored, hback, halike.width, halike.height, hwalls, halike.robot,
    halike.pileAt?_eq⟩

/-- On the way around the wall a beeper is put down and another pile is taken; all of it can be
undone. -/
theorem runs_can_be_undone_yard :
    let w : World := { yard with robot := ⟨⟨1, 1⟩, .north, .holding 1⟩, piles := [⟨1, 2, 1⟩] }
    w.WellFormed ∧ ∃ after, w.actAll [.putBeeper, .move, .pickBeeper] = .ok after ∧
      (∃ back restored, after.actAll back = .ok restored ∧ w.Restored restored) ∧
      ∃ after', w.act .putBeeper = .ok after' ∧ after'.act .pickBeeper = .ok w := by
  intro w
  have hwell : w.WellFormed := by constructor <;> decide
  obtain ⟨hruns, hput⟩ := runs_can_be_undone hwell
  exact ⟨hwell, _, rfl, hruns [.putBeeper, .move, .pickBeeper] _ rfl, _, rfl, hput _ rfl⟩

end World

end KarelLab
