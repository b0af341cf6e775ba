import KarelLab.Proofs.Recording.Trace
import Mathlib.Data.List.Chain

/-!
# Where the robot can go

A wall closes the boundary between two cells from both of its sides. By turning and stepping the
robot comes to exactly those cells to which a path of open boundaries leads inside the grid, and it
can face any way there.
-/

namespace KarelLab

namespace Wall

def near (wall : Wall) : Position := ⟨wall.x, wall.y⟩

def beyond (wall : Wall) : Position :=
  match wall.orientation with
  | .horizontal => ⟨wall.x, wall.y + 1⟩
  | .vertical => ⟨wall.x + 1, wall.y⟩

/-- A wall separates the two cells between which it lies, whichever is named first. -/
def Separates (wall : Wall) (a b : Position) : Prop :=
  (a = wall.near ∧ b = wall.beyond) ∨ (a = wall.beyond ∧ b = wall.near)

instance (wall : Wall) (a b : Position) : Decidable (wall.Separates a b) :=
  inferInstanceAs (Decidable (_ ∨ _))

end Wall

namespace Position

def Beside (a b : Position) : Prop :=
  (a.x = b.x ∧ (b.y = a.y + 1 ∨ a.y = b.y + 1)) ∨ (a.y = b.y ∧ (b.x = a.x + 1 ∨ a.x = b.x + 1))

instance (a b : Position) : Decidable (a.Beside b) := inferInstanceAs (Decidable (_ ∨ _))

theorem eq_iff {a b : Position} : a = b ↔ a.x = b.x ∧ a.y = b.y := by
  obtain ⟨x, y⟩ := a
  obtain ⟨x', y'⟩ := b
  rw [mk.injEq]

theorem eq_step_iff {a b : Position} {d : Direction} :
    b = a.step d ↔ b.x = a.x + d.dx ∧ b.y = a.y + d.dy := eq_iff

/-- The cells beside a cell are those that are one step away. -/
theorem beside_iff {a b : Position} : a.Beside b ↔ ∃ d, b = a.step d := by
  constructor
  · rintro (⟨hx, hy | hy⟩ | ⟨hy, hx | hx⟩)
    · exact ⟨.north, eq_step_iff.mpr (by simp only [Direction.dx, Direction.dy]; omega)⟩
    · exact ⟨.south, eq_step_iff.mpr (by simp only [Direction.dx, Direction.dy]; omega)⟩
    · exact ⟨.east, eq_step_iff.mpr (by simp only [Direction.dx, Direction.dy]; omega)⟩
    · exact ⟨.west, eq_step_iff.mpr (by simp only [Direction.dx, Direction.dy]; omega)⟩
  · rintro ⟨d, h⟩
    rw [eq_step_iff] at h
    unfold Beside
    cases d <;> simp only [Direction.dx, Direction.dy] at h <;> omega

end Position

namespace World

variable {w : World}

structure Joined (w : World) (a b : Position) : Prop where
  beside : a.Beside b
  unwalled : ∀ wall ∈ w.walls, ¬ wall.Separates a b

instance (w : World) : DecidableRel w.Joined := fun a b =>
  decidable_of_iff (a.Beside b ∧ ∀ wall ∈ w.walls, ¬ wall.Separates a b)
    ⟨fun h => ⟨h.1, h.2⟩, fun h => ⟨h.beside, h.unwalled⟩⟩

/-- A path inside the grid from one cell to another: every cell of it is joined to the next. -/
structure Path (w : World) (a b : Position) (cells : List Position) : Prop where
  first : cells.head? = some a
  last : cells.getLast? = some b
  inside : ∀ c ∈ cells, w.contains c = true
  joined : cells.IsChain w.Joined

def wallAt (p : Position) : Direction → Wall
  | .north => ⟨.horizontal, p.x, p.y⟩
  | .south => ⟨.horizontal, p.x, p.y - 1⟩
  | .east => ⟨.vertical, p.x, p.y⟩
  | .west => ⟨.vertical, p.x - 1, p.y⟩

theorem separates_step_iff {wall : Wall} {p : Position} {d : Direction} :
    wall.Separates p (p.step d) ↔ wall = wallAt p d := by
  obtain ⟨o, x, y⟩ := wall
  obtain ⟨px, py⟩ := p
  -- each wall lies either to the north or to the east of a cell, so half of the cases are empty
  cases o <;> cases d <;>
    simp only [Wall.Separates, Wall.near, Wall.beyond, Position.step, Direction.dx, Direction.dy,
      wallAt, Position.mk.injEq, Wall.mk.injEq, reduceCtorEq, false_and, true_and, iff_false] <;>
    omega

theorem walled_iff_wallAt_mem {p : Position} {d : Direction} :
    w.walled p d = true ↔ wallAt p d ∈ w.walls := by
  cases d <;> simp [walled, hasWall, wallAt]

/-- The side on which a wall is found is closed to both of its cells. -/
theorem walled_iff {p : Position} {d : Direction} :
    w.walled p d = true ↔ ∃ wall ∈ w.walls, wall.Separates p (p.step d) := by
  rw [walled_iff_wallAt_mem]
  constructor
  · intro h
    exact ⟨wallAt p d, h, separates_step_iff.mpr rfl⟩
  · rintro ⟨wall, hmem, hsep⟩
    rw [separates_step_iff] at hsep
    exact hsep ▸ hmem

/-- Nothing stops a step exactly if it leads to a joined cell of the grid. -/
theorem obstacle?_eq_none_iff {p : Position} {d : Direction} :
    w.obstacle? p d = none ↔ w.Joined p (p.step d) ∧ w.contains (p.step d) = true := by
  have hbeside : p.Beside (p.step d) := Position.beside_iff.mpr ⟨d, rfl⟩
  have hwalled : w.walled p d = true ↔ ¬ w.Joined p (p.step d) := by
    rw [walled_iff]
    constructor
    · rintro ⟨wall, hmem, hsep⟩ hj
      exact hj.unwalled wall hmem hsep
    · intro hj
      by_contra hnone
      apply hj
      exact ⟨hbeside, fun wall hmem hsep => hnone ⟨wall, hmem, hsep⟩⟩
  unfold obstacle?
  by_cases hw : w.walled p d = true
  · have hj := hwalled.mp hw
    simp [hw, hj]
  · have hj : w.Joined p (p.step d) := by
      by_contra hj
      exact hw (hwalled.mpr hj)
    by_cases hc : w.contains (p.step d) = true
    · simp [hw, hj, hc]
    · simp [hw, hc]

def posed (w : World) (p : Position) (d : Direction) : World :=
  { w with robot := { w.robot with position := p, direction := d } }

end World

def Action.Walks (a : Action) : Prop := a = .move ∨ a = .turnLeft

namespace World

variable {w : World} {p q r : Position} {d e f : Direction}

theorem act_turnLeft_posed : (w.posed p d).act .turnLeft = .ok (w.posed p d.left) := rfl

theorem act_move_posed_of_joined (hj : w.Joined p (p.step d))
    (hc : w.contains (p.step d) = true) :
    (w.posed p d).act .move = .ok (w.posed (p.step d) d) := by
  have hfree : (w.posed p d).obstacle? p d = none := obstacle?_eq_none_iff.mpr ⟨⟨hj.1, hj.2⟩, hc⟩
  change (w.posed p d).move = _
  unfold move
  dsimp only [posed] at hfree ⊢
  rw [hfree]

/-- A step that succeeds leads to a joined cell of the grid, and changes nothing else. -/
theorem joined_of_act_move {after : World} (h : (w.posed p d).act .move = .ok after) :
    after = w.posed (p.step d) d ∧ w.Joined p (p.step d) ∧ w.contains (p.step d) = true := by
  cases ho : (w.posed p d).obstacle? p d with
  | none =>
    obtain ⟨hj, hc⟩ := obstacle?_eq_none_iff.mp ho
    have hjoined : w.Joined p (p.step d) := ⟨hj.1, hj.2⟩
    rw [act_move_posed_of_joined hjoined hc] at h
    exact ⟨(Except.ok.inj h).symm, hjoined, hc⟩
  | some o =>
    change (w.posed p d).move = _ at h
    unfold move at h
    dsimp only [posed] at ho h
    rw [ho] at h
    cases o <;> cases h

def Gets (w : World) (p : Position) (d : Direction) (q : Position) (e : Direction) : Prop :=
  ∃ actions : List Action, (∀ a ∈ actions, a.Walks) ∧
    (w.posed p d).actAll actions = .ok (w.posed q e)

namespace Gets

theorem refl : w.Gets p d p d := ⟨[], by simp, rfl⟩

theorem trans (h : w.Gets p d q e) (k : w.Gets q e r f) : w.Gets p d r f := by
  obtain ⟨first, hfirst, hq⟩ := h
  obtain ⟨second, hsecond, hr⟩ := k
  refine ⟨first ++ second, ?_, ?_⟩
  · intro a ha
    rcases List.mem_append.mp ha with ha | ha
    · exact hfirst a ha
    · exact hsecond a ha
  · unfold actAll at hq hr ⊢
    rw [List.foldlM_append, hq]
    exact hr

theorem single {a : Action} (ha : a.Walks) (h : (w.posed p d).act a = .ok (w.posed q e)) :
    w.Gets p d q e := by
  refine ⟨[a], by simpa using ha, ?_⟩
  unfold actAll
  rw [List.foldlM_cons, h]
  rfl

theorem turn : w.Gets p d p d.left := single (.inr rfl) act_turnLeft_posed

/-- The robot can face any way without leaving its cell: three turns are enough. -/
theorem face (e : Direction) : w.Gets p d p e := by
  have hone : w.Gets p d p d.left := turn
  have htwo : w.Gets p d p d.left.left := hone.trans turn
  have hthree : w.Gets p d p d.left.left.left := htwo.trans turn
  have hways : e = d ∨ e = d.left ∨ e = d.left.left ∨ e = d.left.left.left := by
    cases d <;> cases e <;> simp [Direction.left]
  rcases hways with rfl | rfl | rfl | rfl
  · exact refl
  · exact hone
  · exact htwo
  · exact hthree

theorem cross (hj : w.Joined p q) (hc : w.contains q = true) (d e : Direction) :
    w.Gets p d q e := by
  obtain ⟨ahead, rfl⟩ := Position.beside_iff.mp hj.beside
  have hstep : w.Gets p ahead (p.step ahead) ahead :=
    single (.inl rfl) (act_move_posed_of_joined hj hc)
  exact ((face ahead).trans hstep).trans (face e)

end Gets

/-- Along a path the robot gets to its end. -/
theorem Path.gets {cells : List Position} (h : w.Path p q cells) (d e : Direction) :
    w.Gets p d q e := by
  obtain ⟨hfirst, hlast, hinside, hjoined⟩ := h
  -- on the path: the robot crosses to its second cell and is at the beginning of the rest
  induction cells generalizing p d with
  | nil => cases hfirst
  | cons c rest ih =>
    cases hfirst
    cases rest with
    | nil =>
      cases hlast
      exact Gets.face e
    | cons c' rest =>
      rw [List.isChain_cons_cons] at hjoined
      have hc' : w.contains c' = true := hinside c' (by simp)
      have hcross : w.Gets c d c' d := Gets.cross hjoined.1 hc' d d
      have hrest : w.Gets c' d q e := by
        apply ih d rfl
        · simpa using hlast
        · intro x hx
          exact hinside x (List.mem_cons_of_mem c hx)
        · exact hjoined.2
      exact hcross.trans hrest

/-- One cell more at the beginning of a path. -/
theorem Path.cons {cells : List Position} (h : w.Path q r cells) (hj : w.Joined p q)
    (hc : w.contains p = true) : w.Path p r (p :: cells) := by
  obtain ⟨hfirst, hlast, hinside, hjoined⟩ := h
  cases cells with
  | nil => cases hfirst
  | cons c rest =>
    cases hfirst
    refine ⟨rfl, ?_, ?_, ?_⟩
    · simpa using hlast
    · intro x hx
      rcases List.mem_cons.mp hx with rfl | hx
      · exact hc
      · exact hinside x hx
    · exact List.isChain_cons_cons.mpr ⟨hj, hjoined⟩

/-- Turns and steps that succeed follow a path, and change nothing but the pose of the robot. -/
theorem exists_path_of_actAll {actions : List Action} (ha : ∀ a ∈ actions, a.Walks)
    (hp : w.contains p = true) {after : World} (h : (w.posed p d).actAll actions = .ok after) :
    ∃ q e cells, after = w.posed q e ∧ w.Path p q cells := by
  unfold actAll at h
  induction actions generalizing p d with
  | nil =>
    cases h
    exact ⟨p, d, [p], rfl, rfl, rfl, by simpa using hp, List.isChain_singleton p⟩
  | cons a rest ih =>
    have hrest : ∀ b ∈ rest, b.Walks := fun b hb => ha b (List.mem_cons_of_mem a hb)
    rw [List.foldlM_cons] at h
    cases hact : (w.posed p d).act a with
    | error fault =>
      rw [hact] at h
      cases h
    | ok next =>
      rw [hact] at h
      rcases ha a List.mem_cons_self with rfl | rfl
      · obtain ⟨rfl, hj, hc⟩ := joined_of_act_move hact
        obtain ⟨q, e, cells, hafter, hpath⟩ := ih hrest hc h
        exact ⟨q, e, p :: cells, hafter, hpath.cons hj hp⟩
      · rw [act_turnLeft_posed] at hact
        cases hact
        exact ih hrest hp h

/-- The poses that the robot can reach by turns and steps are those in cells to which a path leads,
whichever way it faces there. -/
theorem reaches_iff_connected (h : w.WellFormed) (q : Position) (e : Direction) :
    (∃ (actions : List Action) (after : World), (∀ a ∈ actions, a = .move ∨ a = .turnLeft) ∧
        w.actAll actions = .ok after ∧ after.robot.position = q ∧ after.robot.direction = e) ↔
      ∃ cells, w.Path w.robot.position q cells := by
  have hself : w.posed w.robot.position w.robot.direction = w := rfl
  constructor
  · rintro ⟨actions, after, ha, hact, hq, -⟩
    rw [← hself] at hact
    -- the cells that the robot comes through are a path
    obtain ⟨q', e', cells, rfl, hpath⟩ := exists_path_of_actAll ha h.robot_inside hact
    obtain rfl : q' = q := hq
    exact ⟨cells, hpath⟩
  · rintro ⟨cells, hpath⟩
    -- the robot follows the path, turning before each cell, and turns to its direction at last
    obtain ⟨actions, ha, hact⟩ := hpath.gets w.robot.direction e
    rw [hself] at hact
    exact ⟨actions, w.posed q e, ha, hact, rfl, rfl⟩

def yard : World where
  width := 2
  height := 2
  robot := ⟨⟨1, 1⟩, .east, .holding 0⟩
  walls := [⟨.vertical, 1, 1⟩]
  piles := []

/-- The cell behind the wall is reached on a way around it. -/
theorem reaches_iff_connected_yard :
    yard.WellFormed ∧ (∃ f, yard.act .move = .error f) ∧
      ∃ (actions : List Action) (after : World), (∀ a ∈ actions, a = .move ∨ a = .turnLeft) ∧
        yard.actAll actions = .ok after ∧ after.robot.position = ⟨2, 1⟩ ∧
          after.robot.direction = .west := by
  have hwell : yard.WellFormed := by constructor <;> decide
  have hpath : yard.Path ⟨1, 1⟩ ⟨2, 1⟩ [⟨1, 1⟩, ⟨1, 2⟩, ⟨2, 2⟩, ⟨2, 1⟩] := by
    refine ⟨rfl, rfl, by decide, ?_⟩
    simp only [List.isChain_cons_cons, List.isChain_singleton, and_true]
    decide
  exact ⟨hwell, ⟨_, rfl⟩, (reaches_iff_connected hwell ⟨2, 1⟩ .west).mpr ⟨_, hpath⟩⟩

end World

end KarelLab
