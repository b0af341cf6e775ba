import KarelLab.World.Basic
import Mathlib.Data.List.Induction
import Mathlib.Data.List.Nodup

namespace KarelLab

section EraseDups

variable {α : Type} [BEq α] [LawfulBEq α] {l : List α} {a : α}

theorem eraseDups_concat_of_mem (h : a ∈ l) : (l ++ [a]).eraseDups = l.eraseDups := by
  have hnone : [a].removeAll l = [] := by simp [List.removeAll, h]
  rw [List.eraseDups_append, hnone, List.eraseDups_nil, List.append_nil]

theorem eraseDups_concat_of_notMem (h : a ∉ l) : (l ++ [a]).eraseDups = l.eraseDups ++ [a] := by
  have hone : [a].removeAll l = [a] := by simp [List.removeAll, h]
  rw [List.eraseDups_append, hone]
  rfl

theorem nodup_eraseDups (l : List α) : l.eraseDups.Nodup := by
  induction l using List.reverseRecOn with
  | nil => exact List.nodup_nil
  | append_singleton l a ih =>
    by_cases h : a ∈ l
    · rw [eraseDups_concat_of_mem h]
      exact ih
    · have hfresh : a ∉ l.eraseDups := by rwa [List.mem_eraseDups]
      rw [eraseDups_concat_of_notMem h, ← List.concat_eq_append, List.nodup_concat]
      exact ⟨hfresh, ih⟩

theorem eraseDups_of_nodup (h : l.Nodup) : l.eraseDups = l := by
  induction l using List.reverseRecOn with
  | nil => rfl
  | append_singleton l a ih =>
    rw [← List.concat_eq_append, List.nodup_concat] at h
    obtain ⟨hfresh, hl⟩ := h
    rw [eraseDups_concat_of_notMem hfresh, ih hl]

end EraseDups

namespace World

/-- Of equal walls the first one is kept. -/
theorem dropRepeated_eq_eraseDups (walls : List Wall) : dropRepeated walls = walls.eraseDups := by
  induction walls using List.reverseRecOn with
  | nil => rfl
  | append_singleton walls wall ih =>
    have hstep : dropRepeated (walls ++ [wall]) =
        if (dropRepeated walls).contains wall then dropRepeated walls
        else dropRepeated walls ++ [wall] := List.foldl_concat ..
    by_cases h : wall ∈ walls
    · rw [hstep, ih, if_pos (by simpa using h), eraseDups_concat_of_mem h]
    · rw [hstep, ih, if_neg (by simpa using h), eraseDups_concat_of_notMem h]

/-- A pile that joins another one brings no cell. -/
theorem positions_addPile_of_mem {pile : Pile} {ps : List Pile}
    (h : pile.position ∈ ps.map Pile.position) :
    (addPile pile ps).map Pile.position = ps.map Pile.position := by
  induction ps with
  | nil => cases h
  | cons p rest ih =>
    rw [addPile]
    by_cases hp : p.position = pile.position
    · rw [if_pos hp]
      rfl
    · have hrest : pile.position ∈ rest.map Pile.position := by
        rcases List.mem_cons.mp h with he | hrest
        · exact absurd he.symm hp
        · exact hrest
      rw [if_neg hp, List.map_cons, ih hrest, List.map_cons]

theorem addPile_of_notMem {pile : Pile} {ps : List Pile}
    (h : pile.position ∉ ps.map Pile.position) : addPile pile ps = ps ++ [pile] := by
  induction ps with
  | nil => rfl
  | cons p rest ih =>
    rw [List.map_cons, List.mem_cons, not_or] at h
    rw [addPile, if_neg (Ne.symm h.1), ih h.2, List.cons_append]

theorem mergePiles_concat (ps : List Pile) (pile : Pile) :
    mergePiles (ps ++ [pile]) = addPile pile (mergePiles ps) := List.foldl_concat ..

/-- Every cell that is named gets one pile, in the order in which the cells are first named. -/
theorem positions_mergePiles (ps : List Pile) :
    (mergePiles ps).map Pile.position = (ps.map Pile.position).eraseDups := by
  induction ps using List.reverseRecOn with
  | nil => rfl
  | append_singleton ps pile ih =>
    have hnamed : pile.position ∈ (mergePiles ps).map Pile.position ↔
        pile.position ∈ ps.map Pile.position := by rw [ih, List.mem_eraseDups]
    rw [mergePiles_concat, List.map_append, List.map_singleton]
    by_cases h : pile.position ∈ ps.map Pile.position
    · rw [positions_addPile_of_mem (hnamed.mpr h), ih, eraseDups_concat_of_mem h]
    · rw [addPile_of_notMem (mt hnamed.mp h), List.map_append, List.map_singleton, ih,
        eraseDups_concat_of_notMem h]

end World

end KarelLab
