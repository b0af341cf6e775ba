import KarelLab.Proofs.Document.Accepted
import KarelLab.Proofs.Document.RoundTrip
import KarelLab.World.Call

namespace KarelLab.World

/-- The ways in which an action may change a world: the robot is one cell ahead, or it faces another
way, or a beeper went from one of bag and cell to the other. -/
inductive Change (w : World) : World → Prop
  | moved : Change w
      { w with robot := { w.robot with position := w.robot.position.step w.robot.direction } }
  | turned (d : Direction) : Change w { w with robot := { w.robot with direction := d } }
  | handled (bag : Bag) (piles : List Pile)
      (hbag : bag = w.robot.bag.add ∨ w.robot.bag.take? = some bag)
      (helsewhere : piles.filter (·.position ≠ w.robot.position) =
        w.piles.filter (·.position ≠ w.robot.position)) :
      Change w { w with robot := { w.robot with bag := bag }, piles := piles }

theorem filter_addPile (pile : Pile) (ps : List Pile) :
    (addPile pile ps).filter (·.position ≠ pile.position) =
      ps.filter (·.position ≠ pile.position) := by
  induction ps with
  | nil => simp [addPile]
  | cons p rest ih =>
    by_cases hp : p.position = pile.position
    -- neither the pile that was there nor the one that replaces it is kept
    · have hjoined : ({ p with count := p.count + pile.count } : Pile).position = pile.position := hp
      rw [addPile, if_pos hp, List.filter_cons_of_neg (by simp [hjoined]),
        List.filter_cons_of_neg (by simp [hp])]
    · rw [addPile, if_neg hp, List.filter_cons_of_pos (by simp [hp]),
        List.filter_cons_of_pos (by simp [hp]), ih]

theorem filter_takeBeeper (c : Position) (ps : List Pile) :
    (takeBeeper c ps).filter (·.position ≠ c) = ps.filter (·.position ≠ c) := by
  induction ps with
  | nil => rfl
  | cons p rest ih =>
    by_cases hp : p.position = c
    · have hless : ({ p with count := p.count - 1 } : Pile).position = c := hp
      rw [takeBeeper, if_pos hp, List.filter_cons_of_neg (by simp [hp])]
      split
      · rfl
      · rw [List.filter_cons_of_neg (by simp [hless])]
    · rw [takeBeeper, if_neg hp, List.filter_cons_of_pos (by simp [hp]),
        List.filter_cons_of_pos (by simp [hp]), ih]

/-- An action that succeeds makes one change. -/
theorem change_of_act {w after : World} {a : Action} (h : w.act a = .ok after) :
    w.Change after := by
  cases a with
  | move =>
    change w.move = .ok after at h
    dsimp only [move] at h
    split at h
    · cases h
    · cases h
    · cases h
      exact .moved
  | turnLeft =>
    cases h
    exact .turned _
  | pickBeeper =>
    change w.pickBeeper = .ok after at h
    dsimp only [pickBeeper] at h
    split at h
    · cases h
      exact .handled _ _ (.inl rfl) (filter_takeBeeper _ _)
    · cases h
  | putBeeper =>
    change w.putBeeper = .ok after at h
    dsimp only [putBeeper] at h
    split at h
    · cases h
    · rename_i bag hbag
      cases h
      exact .handled _ _ (.inr hbag) (filter_addPile ⟨_, _, 1⟩ _)

/-- What a run of calls leaves as it was: the grid, the walls, the piles outside the grid, and whether
the bag can run out. -/
structure Kept (w after : World) : Prop where
  width : after.width = w.width
  height : after.height = w.height
  walls : after.walls = w.walls
  outside : after.piles.filter (fun p => !w.contains p.position) =
    w.piles.filter (fun p => !w.contains p.position)
  unlimited : w.robot.bag.toInt = -1 → after.robot.bag.toInt = -1
  finite : 0 ≤ w.robot.bag.toInt → 0 ≤ after.robot.bag.toInt

namespace Kept

theorem refl (w : World) : w.Kept w := ⟨rfl, rfl, rfl, rfl, id, id⟩

theorem contains_eq {w after : World} (h : w.Kept after) (c : Position) :
    after.contains c = w.contains c := by
  simp only [contains, h.width, h.height]

theorem trans {u v w : World} (h : u.Kept v) (k : v.Kept w) : u.Kept w where
  width := k.width.trans h.width
  height := k.height.trans h.height
  walls := k.walls.trans h.walls
  outside := by
    have houtside := k.outside
    simp only [h.contains_eq] at houtside
    exact houtside.trans h.outside
  unlimited := k.unlimited ∘ h.unlimited
  finite := k.finite ∘ h.finite

end Kept

theorem bag_of_take? {b rest : Bag} (h : b.take? = some rest) : b = rest.add := by
  cases b with
  | unlimited =>
    cases h
    rfl
  | holding n =>
    cases n with
    | zero => cases h
    | succ n =>
      cases h
      rfl

theorem toInt_add (b : Bag) :
    (b.toInt = -1 ↔ b.add.toInt = -1) ∧ (0 ≤ b.toInt ↔ 0 ≤ b.add.toInt) := by
  cases b with
  | unlimited => exact ⟨Iff.rfl, Iff.rfl⟩
  | holding n =>
    simp only [Bag.add, Bag.toInt]
    omega

theorem Change.kept {w after : World} (h : w.Change after)
    (hrobot : w.contains w.robot.position = true) : w.Kept after := by
  cases h with
  | moved => exact ⟨rfl, rfl, rfl, rfl, id, id⟩
  | turned d => exact ⟨rfl, rfl, rfl, rfl, id, id⟩
  | handled bag piles hbag helsewhere =>
    -- a pile outside the grid is not under the robot
    have houtside (ps : List Pile) : ps.filter (fun p => !w.contains p.position) =
        (ps.filter (·.position ≠ w.robot.position)).filter (fun p => !w.contains p.position) := by
      rw [List.filter_filter]
      apply List.filter_congr
      intro p hp
      by_cases hat : p.position = w.robot.position
      · simp [hat, hrobot]
      · simp [hat]
    have hout : piles.filter (fun p => !w.contains p.position) =
        w.piles.filter (fun p => !w.contains p.position) := by
      rw [houtside piles, helsewhere, ← houtside]
    rcases hbag with rfl | htake
    · obtain ⟨hunlimited, hfinite⟩ := toInt_add w.robot.bag
      exact ⟨rfl, rfl, rfl, hout, hunlimited.mp, hfinite.mp⟩
    · obtain ⟨hunlimited, hfinite⟩ := toInt_add bag
      rw [← bag_of_take? htake] at hunlimited hfinite
      exact ⟨rfl, rfl, rfl, hout, hunlimited.mpr, hfinite.mpr⟩

/-- A call that succeeds is the action of its name, which succeeds. -/
theorem act_of_call {w after : World} {name : String} (h : w.call name = .ok after) :
    ∃ a : Action, a.name = name ∧ w.act a = .ok after := by
  dsimp only [call] at h
  split at h
  · rename_i a hname
    have hname : a.name = name := by simpa using List.find?_some hname
    cases ha : w.act a with
    | ok v =>
      rw [ha] at h
      cases h
      exact ⟨a, hname, ha⟩
    | error f =>
      rw [ha] at h
      cases h
  · cases h

theorem afterCall_of_ok {w after : World} {name : String} (h : w.call name = .ok after) :
    w.afterCall name = after := by
  rw [afterCall, h]

theorem afterCall_of_error {w : World} {name : String} {f : CallFault}
    (h : w.call name = .error f) : w.afterCall name = w := by
  rw [afterCall, h]

@[simp] theorem afterCalls_concat (w : World) (names : List String) (name : String) :
    w.afterCalls (names ++ [name]) = (w.afterCalls names).afterCall name := by
  rw [afterCalls, List.foldl_append]
  rfl

/-- One call, whether it succeeds or not, keeps a world well-formed. -/
theorem WellFormed.afterCall {w : World} (h : w.WellFormed) (name : String) :
    (w.afterCall name).WellFormed ∧ w.Kept (w.afterCall name) := by
  cases hcall : w.call name with
  | error f =>
    rw [afterCall_of_error hcall]
    exact ⟨h, .refl w⟩
  | ok after =>
    obtain ⟨a, -, ha⟩ := act_of_call hcall
    rw [afterCall_of_ok hcall]
    exact ⟨h.act a ha, (change_of_act ha).kept h.robot_inside⟩

/-- So does a run of calls. -/
theorem WellFormed.afterCalls {w : World} (h : w.WellFormed) (names : List String) :
    (w.afterCalls names).WellFormed ∧ w.Kept (w.afterCalls names) := by
  induction names generalizing w with
  | nil => exact ⟨h, .refl w⟩
  | cons name rest ih =>
    obtain ⟨hone, hkept⟩ := h.afterCall name
    obtain ⟨hrest, hlater⟩ := ih hone
    exact ⟨hrest, hkept.trans hlater⟩

/-- Whatever is called on a world that was accepted, and however often, the world that is there in
the end is well-formed, with the same grid, walls and piles outside of it, and with a bag that can
run out exactly if it could before. From there each call makes one change, or fails and makes none. -/
theorem calls_keep_wellFormed {medium : Document.Medium} {j : Json} {w : World}
    (h : Document.world medium j = .ok w) (names : List String) :
    (w.afterCalls names).WellFormed ∧ w.Kept (w.afterCalls names) ∧
      -1 ≤ (w.afterCalls names).robot.bag.toInt ∧
      ∀ name,
        (∀ next, (w.afterCalls names).call name = .ok next →
          w.afterCalls (names ++ [name]) = next ∧ (w.afterCalls names).Change next) ∧
        (∀ f, (w.afterCalls names).call name = .error f →
          w.afterCalls (names ++ [name]) = w.afterCalls names) := by
  obtain ⟨hwell, hkept⟩ := (Document.wellFormed_of_world h).afterCalls names
  refine ⟨hwell, hkept, Document.toInt_ge _, ?_⟩
  intro name
  refine ⟨?_, ?_⟩
  · intro next hnext
    obtain ⟨a, -, ha⟩ := act_of_call hnext
    exact ⟨(w.afterCalls_concat names name).trans (afterCall_of_ok hnext), change_of_act ha⟩
  · intro f hf
    exact (w.afterCalls_concat names name).trans (afterCall_of_error hf)

def roomDocument : Json :=
  .object [
    ("dimensions", .object [("width", .nat 2), ("height", .nat 1)]),
    ("robot", .object [("position", .object [("x", .nat 1), ("y", .nat 1)])]),
    ("beeper_piles", .array [
      .object [("x", .nat 5), ("y", .nat 5), ("count", .nat 3)],
      .object [("x", .nat 1), ("y", .nat 1), ("count", .nat 1)]])]

def room : World where
  width := 2
  height := 1
  robot := ⟨⟨1, 1⟩, .east, .holding 0⟩
  walls := []
  piles := [⟨5, 5, 3⟩, ⟨1, 1, 1⟩]

theorem calls_keep_wellFormed_room :
    Document.world .value roomDocument = .ok room ∧
      (room.afterCalls ["pick_beeper", "pick_beeper", "jump", "move", "move", "put_beeper"]).WellFormed ∧
      room.afterCalls ["pick_beeper", "pick_beeper", "jump", "move", "move", "put_beeper"] =
        { room with robot := ⟨⟨2, 1⟩, .east, .holding 0⟩, piles := [⟨5, 5, 3⟩, ⟨2, 1, 1⟩] } := by
  have hdoc : Document.world .value roomDocument = .ok room := by rfl
  refine ⟨hdoc, ?_, by decide⟩
  exact (calls_keep_wellFormed hdoc ["pick_beeper", "pick_beeper", "jump", "move", "move", "put_beeper"]).1

end KarelLab.World
