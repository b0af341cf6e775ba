import KarelLab.Proofs.Document.Accepted
import KarelLab.Proofs.World.Alike
import KarelLab.Proofs.World.Conservation

namespace KarelLab.World

def joinedPile (ps : List Pile) (c : Position) : Pile := ⟨c.x, c.y, total ps c⟩

/-- A listed world and the one that is kept of it. -/
structure Orders (u w : World) : Prop where
  size : w.width = u.width ∧ w.height = u.height
  robot : w.robot = u.robot
  /-- Of equal walls the first one is kept. -/
  walls : w.walls = u.walls.eraseDups
  walls_nodup : w.walls.Nodup
  hasWall : ∀ o x y, w.hasWall o x y = u.hasWall o x y
  /-- Every cell that is named has one pile, in the order in which the cells are first named. -/
  piles : w.piles = (u.piles.map Pile.position).eraseDups.map (joinedPile u.piles)
  piles_nodup : (w.piles.map Pile.position).Nodup
  pileAt : ∀ c, w.pileAt? c =
    if c ∈ u.piles.map Pile.position then some (joinedPile u.piles c) else none
  lying : w.lying = u.lying
  again : w.normalize = w

/-- Where no cell has two piles, each pile is all that lies on its cell. -/
theorem eq_map_joinedPile {ps : List Pile} (h : (ps.map Pile.position).Nodup) :
    ps = (ps.map Pile.position).map (joinedPile ps) := by
  induction ps with
  | nil => rfl
  | cons p rest ih =>
    rw [List.map_cons, List.nodup_cons] at h
    obtain ⟨hfresh, hrest⟩ := h
    have hzero : total rest p.position = 0 := total_eq_zero_of_not_mem hfresh
    have hfirst : joinedPile (p :: rest) p.position = p := by
      rw [joinedPile, total_cons, if_pos rfl, hzero]
      rfl
    have hothers : ∀ c ∈ rest.map Pile.position, joinedPile (p :: rest) c = joinedPile rest c := by
      intro c hc
      have hne : p.position ≠ c := by
        intro he
        exact hfresh (he ▸ hc)
      rw [joinedPile, total_cons, if_neg hne, Nat.zero_add]
      rfl
    rw [List.map_cons, List.map_cons, hfirst, List.map_congr_left hothers, ← ih hrest]

theorem positions_mergePiles_nodup (ps : List Pile) :
    ((mergePiles ps).map Pile.position).Nodup := by
  rw [positions_mergePiles]
  exact nodup_eraseDups _

theorem mergePiles_eq (ps : List Pile) :
    mergePiles ps = (ps.map Pile.position).eraseDups.map (joinedPile ps) := by
  have hjoined : joinedPile (mergePiles ps) = joinedPile ps := by
    funext c
    rw [joinedPile, total_mergePiles, joinedPile]
  calc mergePiles ps
      = ((mergePiles ps).map Pile.position).map (joinedPile (mergePiles ps)) :=
        eq_map_joinedPile (positions_mergePiles_nodup ps)
    _ = (ps.map Pile.position).eraseDups.map (joinedPile ps) := by
        rw [positions_mergePiles, hjoined]

theorem find?_map_joinedPile (cells : List Position) (ps : List Pile) (c : Position) :
    (cells.map (joinedPile ps)).find? (·.position = c) =
      if c ∈ cells then some (joinedPile ps c) else none := by
  induction cells with
  | nil => rfl
  | cons b rest ih =>
    have hpos : (joinedPile ps b).position = b := rfl
    rw [List.map_cons]
    by_cases h : b = c
    · rw [List.find?_cons_of_pos (by simpa [hpos] using h), h, if_pos List.mem_cons_self]
    · have hmem : c ∈ b :: rest ↔ c ∈ rest := by
        rw [List.mem_cons, or_iff_right (Ne.symm h)]
      rw [List.find?_cons_of_neg (by simpa [hpos] using h), ih, if_congr hmem rfl rfl]

theorem sum_mergePiles (ps : List Pile) :
    ((mergePiles ps).map Pile.count).sum = (ps.map Pile.count).sum := by
  induction ps using List.reverseRecOn with
  | nil => rfl
  | append_singleton ps p ih =>
    rw [mergePiles_concat, sum_addPile, ih, List.map_append, List.sum_append]
    rfl

theorem contains_iff (w : World) (p : Position) :
    w.contains p = true ↔ (1 ≤ p.x ∧ p.x ≤ w.width) ∧ 1 ≤ p.y ∧ p.y ≤ w.height := by
  simp [contains, and_assoc]

/-- Putting a world in order twice is the same as doing it once. -/
theorem normalize_normalize (w : World) : w.normalize.normalize = w.normalize := by
  have hwalls : dropRepeated (dropRepeated w.walls) = dropRepeated w.walls :=
    dropRepeated_of_nodup (dropRepeated_nodup w.walls)
  have hpiles : mergePiles (mergePiles w.piles) = mergePiles w.piles :=
    mergePiles_of_nodup (positions_mergePiles_nodup w.piles)
  rw [normalize, normalize, hwalls, hpiles]

theorem orders_normalize (u : World) : u.Orders u.normalize where
  size := ⟨rfl, rfl⟩
  robot := rfl
  walls := dropRepeated_eq_eraseDups u.walls
  walls_nodup := dropRepeated_nodup u.walls
  hasWall := by
    intro o x y
    have hmem : (⟨o, x, y⟩ : Wall) ∈ dropRepeated u.walls ↔ ⟨o, x, y⟩ ∈ u.walls :=
      mem_dropRepeated u.walls ⟨o, x, y⟩
    rw [Bool.eq_iff_iff, hasWall, hasWall, List.contains_iff_mem, List.contains_iff_mem]
    exact hmem
  piles := mergePiles_eq u.piles
  piles_nodup := positions_mergePiles_nodup u.piles
  pileAt := by
    intro c
    have hkept : u.normalize.piles = mergePiles u.piles := rfl
    rw [pileAt?, hkept, mergePiles_eq, find?_map_joinedPile]
    exact if_congr List.mem_eraseDups rfl rfl
  lying := sum_mergePiles u.piles
  again := normalize_normalize u

/-- A document whose fields pass their own checks is refused exactly if its robot stands outside the
grid. Otherwise the world that is read of it is the listed one put in order, and it is accepted as it
is when it is listed again. -/
theorem documents_are_put_in_order {medium : Document.Medium} {j : Json} {u : World}
    (h : Document.listed medium j = .ok u) :
    ((∃ es, Document.world medium j = .error es) ↔
      ¬ ((1 ≤ u.robot.position.x ∧ u.robot.position.x ≤ u.width) ∧
        1 ≤ u.robot.position.y ∧ u.robot.position.y ≤ u.height)) ∧
    ∀ w, Document.world medium j = .ok w → u.Orders w ∧ Document.accept w = .ok w := by
  have hworld : Document.world medium j = Document.accept u := by
    rw [Document.world_eq_accept, h]
    rfl
  rw [hworld, ← contains_iff, Document.accept]
  by_cases hin : u.contains u.robot.position = true
  · rw [if_pos hin]
    refine ⟨iff_of_false ?_ (not_not.mpr hin), ?_⟩
    · rintro ⟨es, h⟩
      cases h
    · intro w hw
      have hwu : u.normalize = w := Except.ok.inj hw
      -- the robot stays where it is, so the document in order is accepted again
      have hagain : Document.accept u.normalize = .ok u.normalize.normalize := if_pos hin
      rw [← hwu]
      exact ⟨u.orders_normalize, by rw [hagain, normalize_normalize]⟩
  · rw [if_neg hin]
    refine ⟨iff_of_true ⟨_, rfl⟩ hin, ?_⟩
    intro w hw
    cases hw

def pieces : World where
  width := 3
  height := 1
  robot := ⟨⟨1, 1⟩, .east, .holding 0⟩
  walls := [⟨.vertical, 1, 1⟩, ⟨.vertical, 2, 1⟩, ⟨.vertical, 1, 1⟩]
  piles := [⟨3, 1, 2⟩, ⟨1, 1, 1⟩, ⟨3, 1, 4⟩, ⟨1, 1, 1⟩]

theorem documents_are_put_in_order_pieces :
    Document.listed .value (Document.ofWorld pieces) = .ok pieces ∧
      ∃ w, Document.world .value (Document.ofWorld pieces) = .ok w ∧ pieces.Orders w ∧
        w.walls = [⟨.vertical, 1, 1⟩, ⟨.vertical, 2, 1⟩] ∧ w.piles = [⟨3, 1, 6⟩, ⟨1, 1, 2⟩] := by
  have hlisted : Document.listed .value (Document.ofWorld pieces) = .ok pieces := rfl
  have hworld : Document.world .value (Document.ofWorld pieces) = .ok pieces.normalize := rfl
  obtain ⟨-, horders⟩ := documents_are_put_in_order hlisted
  obtain ⟨hpieces, -⟩ := horders _ hworld
  exact ⟨hlisted, _, hworld, hpieces, by decide, by decide⟩

end KarelLab.World
