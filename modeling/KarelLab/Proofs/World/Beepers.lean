import KarelLab.Proofs.Document.RoundTrip
import KarelLab.World.Goal
import Mathlib.Algebra.GroupWithZero.Nat
import Mathlib.Data.List.Nodup
import Mathlib.Data.List.Perm.Basic

namespace KarelLab.World

def total (ps : List Pile) (c : Position) : Nat :=
  ((ps.filter (·.position = c)).map Pile.count).sum

@[simp] theorem total_nil (c : Position) : total [] c = 0 := rfl

theorem total_cons (p : Pile) (ps : List Pile) (c : Position) :
    total (p :: ps) c = (if p.position = c then p.count else 0) + total ps c := by
  by_cases h : p.position = c
  · simp [total, h]
  · simp [total, h]

theorem total_eq_zero_of_not_mem {ps : List Pile} {c : Position}
    (h : c ∉ ps.map Pile.position) : total ps c = 0 := by
  have hnone : ps.filter (·.position = c) = [] := by
    rw [List.filter_eq_nil_iff]
    intro p hp hc
    apply h
    exact List.mem_map.mpr ⟨p, hp, by simpa using hc⟩
  rw [total, hnone]
  rfl

theorem total_perm {ps qs : List Pile} (h : ps.Perm qs) (c : Position) :
    total ps c = total qs c := ((h.filter _).map _).sum_nat

/-- A pile that is added counts for its cell, whether it is joined to another one or not. -/
theorem total_addPile (pile : Pile) (ps : List Pile) (c : Position) :
    total (addPile pile ps) c = total ps c + if pile.position = c then pile.count else 0 := by
  induction ps with
  | nil => rw [addPile, total_cons, Nat.add_comm]
  | cons p rest ih =>
    by_cases hp : p.position = pile.position
    · have hjoined : ({ p with count := p.count + pile.count } : Pile).position = p.position := rfl
      have hcount : ({ p with count := p.count + pile.count } : Pile).count =
          p.count + pile.count := rfl
      rw [addPile, if_pos hp, total_cons, total_cons, hjoined, hcount, hp]
      split <;> omega
    · rw [addPile, if_neg hp, total_cons, total_cons, ih, Nat.add_assoc]

/-- Joining piles keeps the number of beepers on every cell. -/
theorem total_mergePiles (ps : List Pile) (c : Position) : total (mergePiles ps) c = total ps c := by
  have hfold (rest joined : List Pile) :
      total (rest.foldl (fun ps p => addPile p ps) joined) c = total joined c + total rest c := by
    induction rest generalizing joined with
    | nil => rfl
    | cons p rest ih =>
      rw [List.foldl_cons, ih, total_addPile, total_cons]
      omega
  calc total (mergePiles ps) c = total [] c + total ps c := hfold ps []
    _ = total ps c := Nat.zero_add _

namespace TidyPiles

variable {ps qs : List Pile}

theorem perm (h : TidyPiles ps) (hp : ps.Perm qs) : TidyPiles qs where
  nodup := (hp.map Pile.position).nodup_iff.mp h.nodup
  counts_pos p hm := h.counts_pos p (hp.mem_iff.mpr hm)

theorem tail {p : Pile} (h : TidyPiles (p :: ps)) : TidyPiles ps where
  nodup := (List.nodup_cons.mp h.nodup).2
  counts_pos q hq := h.counts_pos q (List.mem_cons_of_mem p hq)

theorem head_notMem {p : Pile} (h : TidyPiles (p :: ps)) : p.position ∉ ps.map Pile.position :=
  (List.nodup_cons.mp h.nodup).1

/-- Of piles in order the one that is listed for a cell holds all beepers of that cell. -/
theorem mem_iff (h : TidyPiles ps) {pile : Pile} :
    pile ∈ ps ↔ 1 ≤ pile.count ∧ total ps pile.position = pile.count := by
  induction ps with
  | nil =>
    simp only [List.not_mem_nil, total_nil, false_iff]
    omega
  | cons p rest ih =>
    have hp : 1 ≤ p.count := h.counts_pos p List.mem_cons_self
    rw [List.mem_cons, ih h.tail, total_cons]
    by_cases hc : p.position = pile.position
    -- no other pile lies on that cell
    · have hzero : total rest pile.position = 0 := by
        rw [← hc]
        exact total_eq_zero_of_not_mem h.head_notMem
      rw [if_pos hc, hzero]
      constructor
      · rintro (rfl | ⟨hpos, hcount⟩)
        · exact ⟨hp, rfl⟩
        · omega
      · rintro ⟨-, hcount⟩
        left
        obtain ⟨x, y, n⟩ := p
        obtain ⟨x', y', n'⟩ := pile
        simp only [Pile.position, Position.mk.injEq] at hc
        simp only [Pile.mk.injEq]
        simp only [Nat.add_zero] at hcount
        exact ⟨hc.1.symm, hc.2.symm, hcount.symm⟩
    · have hne : pile ≠ p := fun he => hc (by rw [he])
      rw [if_neg hc, Nat.zero_add]
      exact or_iff_right hne

/-- Piles in order are the same up to their order if they put the same number on every cell. -/
theorem perm_iff (h : TidyPiles ps) (k : TidyPiles qs) :
    ps.Perm qs ↔ ∀ c, total ps c = total qs c := by
  constructor
  · exact total_perm
  · intro htotal
    apply (List.perm_ext_iff_of_nodup (List.Nodup.of_map _ h.nodup)
      (List.Nodup.of_map _ k.nodup)).mpr
    intro pile
    rw [h.mem_iff, k.mem_iff, htotal]

/-- A beeper that is taken is one less on its cell. -/
theorem total_takeBeeper (h : TidyPiles ps) (c d : Position) :
    total (World.takeBeeper c ps) d = total ps d - if c = d then 1 else 0 := by
  induction ps with
  | nil => simp [World.takeBeeper]
  | cons p rest ih =>
    by_cases hc : p.position = c
    -- the pile is the only one of its cell
    · have hzero : total rest c = 0 := by
        rw [← hc]
        exact total_eq_zero_of_not_mem h.head_notMem
      rw [World.takeBeeper, if_pos hc, total_cons, hc]
      by_cases hd : c = d
      · rw [if_pos hd, if_pos hd, ← hd, hzero]
        split
        · omega
        · rw [total_cons, hzero]
          have hless : ({ p with count := p.count - 1 } : Pile).position = c := hc
          rw [if_pos hless]
          rfl
      · rw [if_neg hd, if_neg hd]
        split
        · omega
        · rw [total_cons]
          have hless : ({ p with count := p.count - 1 } : Pile).position = c := hc
          rw [hless, if_neg hd]
          rfl
    · rw [World.takeBeeper, if_neg hc, total_cons, total_cons, ih h.tail]
      by_cases hd : c = d
      · have hpd : ¬ p.position = d := hd ▸ hc
        rw [if_neg hpd, Nat.zero_add, Nat.zero_add]
      · rw [if_neg hd]
        rfl

/-- The pile that is found on a cell holds all beepers of that cell. -/
theorem find?_eq (h : TidyPiles ps) (c : Position) :
    ps.find? (·.position = c) =
      if total ps c = 0 then none else some ⟨c.x, c.y, total ps c⟩ := by
  cases hf : ps.find? (·.position = c) with
  | none =>
    have hnone : c ∉ ps.map Pile.position := by
      rw [List.find?_eq_none] at hf
      intro hm
      obtain ⟨p, hp, hpc⟩ := List.mem_map.mp hm
      exact hf p hp (by simpa using hpc)
    rw [if_pos (total_eq_zero_of_not_mem hnone)]
  | some pile =>
    have hmem : pile ∈ ps := List.mem_of_find?_eq_some hf
    have hc : pile.position = c := by simpa using List.find?_some hf
    obtain ⟨hpos, htotal⟩ := h.mem_iff.mp hmem
    rw [← hc, htotal, if_neg (by omega)]
    rfl

end TidyPiles

end KarelLab.World
