import KarelLab.Proofs.World.Beepers

namespace KarelLab

inductive Agrees {ε α β : Type} (R : α → β → Prop) : Except ε α → Except ε β → Prop
  | ok {a : α} {b : β} (h : R a b) : Agrees R (.ok a) (.ok b)
  | error (f : ε) : Agrees R (.error f) (.error f)

namespace Agrees

variable {ε δ α β α' β' : Type} {R : α → β → Prop} {S : α' → β' → Prop} {x : Except ε α}
  {y : Except ε β}

theorem map (h : Agrees R x y) {f : α → α'} {g : β → β'} (hfg : ∀ a b, R a b → S (f a) (g b)) :
    Agrees S (x.map f) (y.map g) := by
  cases h with
  | ok hr => exact .ok (hfg _ _ hr)
  | error e => exact .error e

theorem mapError (h : Agrees R x y) (f : ε → δ) : Agrees R (x.mapError f) (y.mapError f) := by
  cases h with
  | ok hr => exact .ok hr
  | error e => exact .error (f e)

end Agrees

namespace World

/-- Two worlds with piles in order that differ at most in the order of their walls and piles. -/
structure Alike (v w : World) : Prop where
  width : v.width = w.width
  height : v.height = w.height
  robot : v.robot = w.robot
  walls : v.walls.Perm w.walls
  piles : v.piles.Perm w.piles
  tidy : TidyPiles v.piles

theorem WellFormed.alike_refl {w : World} (h : w.WellFormed) : w.Alike w :=
  ⟨rfl, rfl, rfl, .refl _, .refl _, h.tidyPiles⟩

namespace Alike

variable {v w : World}

theorem tidy_right (h : v.Alike w) : TidyPiles w.piles := h.tidy.perm h.piles

theorem total_eq (h : v.Alike w) (c : Position) : total v.piles c = total w.piles c :=
  total_perm h.piles c

theorem contains_eq (h : v.Alike w) (c : Position) : v.contains c = w.contains c := by
  rw [contains, contains, h.width, h.height]

theorem hasWall_eq (h : v.Alike w) (o : Orientation) (x y : Int) :
    v.hasWall o x y = w.hasWall o x y := by
  rw [Bool.eq_iff_iff, hasWall, hasWall, List.contains_iff_mem, List.contains_iff_mem]
  exact h.walls.mem_iff

theorem obstacle?_eq (h : v.Alike w) (c : Position) (d : Direction) :
    v.obstacle? c d = w.obstacle? c d := by
  have hwalled : v.walled c d = w.walled c d := by
    cases d <;> exact h.hasWall_eq _ _ _
  rw [obstacle?, obstacle?, hwalled, h.contains_eq]

theorem isClear_eq (h : v.Alike w) (side : Side) : v.isClear side = w.isClear side := by
  rw [isClear, isClear, h.robot, h.obstacle?_eq]

theorem pileAt?_eq (h : v.Alike w) (c : Position) : v.pileAt? c = w.pileAt? c := by
  rw [pileAt?, pileAt?, h.tidy.find?_eq, h.tidy_right.find?_eq, h.total_eq]

theorem beepersPresent_eq (h : v.Alike w) : v.beepersPresent = w.beepersPresent := by
  rw [beepersPresent, beepersPresent, h.robot, h.pileAt?_eq]

/-- Every sensor says the same in both worlds. -/
theorem sense_eq (h : v.Alike w) (s : Sensor) : v.sense s = w.sense s := by
  cases s with
  | clear side => exact h.isClear_eq side
  | blocked side => exact congrArg (!·) (h.isClear_eq side)
  | beepersPresent => exact h.beepersPresent_eq
  | noBeepersPresent => exact congrArg (!·) h.beepersPresent_eq
  | beepersInBag => rw [sense, sense, h.robot]
  | noBeepersInBag => rw [sense, sense, h.robot]
  | facing d => rw [sense, sense, h.robot]
  | notFacing d => rw [sense, sense, h.robot]

/-- A beeper is taken of the same cell in both worlds, wherever its pile is listed. -/
theorem takeBeeper_perm (h : v.Alike w) (c : Position) :
    (takeBeeper c v.piles).Perm (takeBeeper c w.piles) := by
  have hv : TidyPiles (takeBeeper c v.piles) := h.tidy.takeBeeper c
  have hw : TidyPiles (takeBeeper c w.piles) := h.tidy_right.takeBeeper c
  apply (hv.perm_iff hw).mpr
  intro d
  rw [h.tidy.total_takeBeeper, h.tidy_right.total_takeBeeper, h.total_eq]

/-- A beeper that is put down joins its pile in both worlds, or begins one. -/
theorem addPile_perm (h : v.Alike w) {pile : Pile} (hpile : 1 ≤ pile.count) :
    (addPile pile v.piles).Perm (addPile pile w.piles) := by
  have hv : TidyPiles (addPile pile v.piles) := h.tidy.addPile pile hpile
  have hw : TidyPiles (addPile pile w.piles) := h.tidy_right.addPile pile hpile
  apply (hv.perm_iff hw).mpr
  intro d
  rw [total_addPile, total_addPile, h.total_eq]

/-- An action fails in both worlds for the same reason, or leads to worlds that are alike. -/
theorem act (h : v.Alike w) (a : Action) : Agrees Alike (v.act a) (w.act a) := by
  cases a with
  | move =>
    change Agrees Alike v.move w.move
    unfold move
    dsimp only
    rw [h.obstacle?_eq, h.robot]
    cases w.obstacle? w.robot.position w.robot.direction with
    | none => exact .ok { h with robot := rfl }
    | some o => cases o <;> exact .error _
  | turnLeft =>
    have hrobot : v.turnLeft.robot = w.turnLeft.robot := by rw [turnLeft, turnLeft, h.robot]
    exact .ok { h with robot := hrobot }
  | pickBeeper =>
    change Agrees Alike v.pickBeeper w.pickBeeper
    unfold pickBeeper
    rw [h.beepersPresent_eq, h.robot]
    dsimp only
    split
    · have hpiles := h.takeBeeper_perm w.robot.position
      exact .ok { h with robot := rfl, piles := hpiles, tidy := h.tidy.takeBeeper _ }
    · exact .error _
  | putBeeper =>
    change Agrees Alike v.putBeeper w.putBeeper
    unfold putBeeper
    rw [h.robot]
    cases w.robot.bag.take? with
    | none => exact .error _
    | some bag =>
      have hone : 1 ≤ (⟨w.robot.position.x, w.robot.position.y, 1⟩ : Pile).count := Nat.le_refl 1
      exact .ok { h with robot := rfl, piles := h.addPile_perm hone, tidy := h.tidy.addPile _ hone }

end Alike

/-! ## Worlds as they were listed -/

theorem mem_dropRepeated (walls : List Wall) (a : Wall) : a ∈ dropRepeated walls ↔ a ∈ walls := by
  rw [dropRepeated_eq_eraseDups, List.mem_eraseDups]

/-- Two listings of one world: the same grid and robot, the same walls, however often and in whatever
order they are named, and the same number of beepers on every cell, in however many piles. -/
structure ListsSame (u v : World) : Prop where
  width : u.width = v.width
  height : u.height = v.height
  robot : u.robot = v.robot
  walls : ∀ a, a ∈ u.walls ↔ a ∈ v.walls
  beepers : ∀ c, total u.piles c = total v.piles c

/-- Two listings of one world are alike once they are put in order. -/
theorem ListsSame.alike {u v : World} (h : u.ListsSame v) (hu : u.normalize.WellFormed)
    (hv : v.normalize.WellFormed) : u.normalize.Alike v.normalize where
  width := h.width
  height := h.height
  robot := h.robot
  walls := by
    apply (List.perm_ext_iff_of_nodup hu.walls_nodup hv.walls_nodup).mpr
    intro a
    calc a ∈ dropRepeated u.walls ↔ a ∈ u.walls := mem_dropRepeated u.walls a
      _ ↔ a ∈ v.walls := h.walls a
      _ ↔ a ∈ dropRepeated v.walls := (mem_dropRepeated v.walls a).symm
  piles := by
    apply (hu.tidyPiles.perm_iff hv.tidyPiles).mpr
    intro c
    calc total (mergePiles u.piles) c = total u.piles c := total_mergePiles u.piles c
      _ = total v.piles c := h.beepers c
      _ = total (mergePiles v.piles) c := (total_mergePiles v.piles c).symm
  tidy := hu.tidyPiles

end World

namespace Goal

open World (TidyPiles total)

/-- Of piles in order the last one of a cell is the only one. -/
theorem countAt?_eq {ps : List Pile} (h : TidyPiles ps) (c : Position) :
    countAt? ps c = if total ps c = 0 then none else some (total ps c) := by
  have hreverse : TidyPiles ps.reverse := h.perm (List.reverse_perm ps).symm
  rw [countAt?, hreverse.find?_eq, World.total_perm (List.reverse_perm ps)]
  split <;> rfl

theorem samePiles_perm (xs : List Pile) {ps qs : List Pile} (hp : ps.Perm qs) (h : TidyPiles ps) :
    samePiles xs ps = samePiles xs qs := by
  have hcount (c : Position) : countAt? ps c = countAt? qs c := by
    rw [countAt?_eq h, countAt?_eq (h.perm hp), World.total_perm hp]
  have hall : (xs ++ ps).Perm (xs ++ qs) := hp.append_left xs
  unfold samePiles
  simp only [hcount]
  rw [Bool.eq_iff_iff, List.all_eq_true, List.all_eq_true]
  constructor
  · intro hs p hm
    exact hs p (hall.mem_iff.mpr hm)
  · intro hs p hm
    exact hs p (hall.mem_iff.mp hm)

/-- Both worlds reach a goal or miss it, and by the same message. -/
theorem check_eq {v w : World} (h : v.Alike w) (g : Goal) : g.check v = g.check w := by
  have hpiles : g.pilesProblem? v = g.pilesProblem? w := by
    unfold pilesProblem?
    simp only [samePiles_perm _ h.piles h.tidy]
  have hproblems : g.problems v = g.problems w := by
    rw [problems, problems, hpiles]
    unfold positionProblem? directionProblem? bagProblem?
    rw [h.robot]
  rw [check, check, hproblems]

end Goal

end KarelLab
