import KarelLab.Proofs.Document.Accepted
import KarelLab.Proofs.World.Alike

/-!
# What goals ask for

A goal is compared with a world field by field. Of the piles that a world lists for one cell it makes a
single one; of the piles that a goal lists for one cell the last one decides. So a goal asks for the
beepers that it lists as long as it names no cell twice, and a goal that is copied from the listing of a
world may be missed by that very world.
-/

namespace KarelLab.Goal

open World (TidyPiles total total_cons total_eq_zero_of_not_mem)

def lastCount (ps : List Pile) (c : Position) : Nat := (countAt? ps c).getD 0

/-- Every field that a goal sets agrees with a world, where a list of piles asks for so many beepers on
each cell. -/
structure Meets (count : List Pile → Position → Nat) (g : Goal) (w : World) : Prop where
  position : ∀ p, g.position = some p → w.robot.position = p
  direction : ∀ d, g.direction = some d → w.robot.direction = d
  bag : ∀ n, g.bag = some n → w.robot.bag.toInt = n
  piles : ∀ ps, g.piles = some ps → ∀ c, total w.piles c = count ps c

def Stocked (g : Goal) : Prop := ∀ ps, g.piles = some ps → ∀ p ∈ ps, 1 ≤ p.count

/-- No cell is named by two of the piles that a goal lists. -/
def NamesOnce (g : Goal) : Prop := ∀ ps, g.piles = some ps → (ps.map Pile.position).Nodup

def ofListing (u : World) : Goal where
  position := some u.robot.position
  direction := some u.robot.direction
  piles := some u.piles
  bag := some u.robot.bag.toInt

variable {ps qs : List Pile} {c : Position}

/-! ## The last pile of a cell -/

/-- Only if no later pile is listed for a cell does the first one count. -/
theorem countAt?_cons (p : Pile) (ps : List Pile) (c : Position) :
    countAt? (p :: ps) c =
      (countAt? ps c).or (if p.position = c then some p.count else none) := by
  rw [countAt?, countAt?, List.reverse_cons, List.find?_append, Option.map_or]
  by_cases hp : p.position = c
  · simp [hp]
  · simp [hp]

theorem countAt?_eq_none_iff : countAt? ps c = none ↔ c ∉ ps.map Pile.position := by
  simp [countAt?, List.find?_eq_none]

theorem lastCount_cons_of_mem {p : Pile} (h : c ∈ ps.map Pile.position) :
    lastCount (p :: ps) c = lastCount ps c := by
  cases hc : countAt? ps c with
  | none => exact (countAt?_eq_none_iff.mp hc h).elim
  | some n => rw [lastCount, lastCount, countAt?_cons, hc, Option.some_or]

theorem lastCount_cons_of_notMem {p : Pile} (h : c ∉ ps.map Pile.position) :
    lastCount (p :: ps) c = if p.position = c then p.count else 0 := by
  rw [lastCount, countAt?_cons, countAt?_eq_none_iff.mpr h, Option.none_or]
  split <;> rfl

theorem lastCount_eq_zero_of_notMem (h : c ∉ ps.map Pile.position) : lastCount ps c = 0 := by
  rw [lastCount, countAt?_eq_none_iff.mpr h]
  rfl

/-- Where no pile is empty, the last one of a cell says whether there is any. -/
theorem countAt?_eq_of_stocked (h : ∀ p ∈ ps, 1 ≤ p.count) (c : Position) :
    countAt? ps c = if lastCount ps c = 0 then none else some (lastCount ps c) := by
  rw [lastCount]
  cases hc : countAt? ps c with
  | none => rfl
  | some n =>
    obtain ⟨p, hfind, rfl⟩ := Option.map_eq_some_iff.mp hc
    have hmem : p ∈ ps := List.mem_reverse.mp (List.mem_of_find?_eq_some hfind)
    have hpos : 1 ≤ p.count := h p hmem
    rw [Option.getD_some, if_neg (by omega)]

/-- The last pile of a cell holds at most what all piles of it hold together. -/
theorem lastCount_le_total (ps : List Pile) (c : Position) : lastCount ps c ≤ total ps c := by
  induction ps with
  | nil => exact Nat.le_refl 0
  | cons p rest ih =>
    rw [total_cons]
    by_cases hc : c ∈ rest.map Pile.position
    · rw [lastCount_cons_of_mem hc]
      omega
    · rw [lastCount_cons_of_notMem hc]
      omega

theorem lastCount_eq_total (h : TidyPiles ps) (c : Position) : lastCount ps c = total ps c := by
  rw [lastCount, countAt?_eq h]
  split
  · rename_i hzero
    exact hzero.symm
  · rfl

/-- The last piles of all cells hold everything exactly if no cell has more than one. -/
theorem nodup_iff_lastCount_eq_total (h : ∀ p ∈ ps, 1 ≤ p.count) :
    (ps.map Pile.position).Nodup ↔ ∀ c, lastCount ps c = total ps c := by
  constructor
  · intro hn c
    exact lastCount_eq_total ⟨hn, h⟩ c
  · intro hall
    induction ps with
    | nil => exact List.nodup_nil
    | cons p rest ih =>
      have hp : 1 ≤ p.count := h p List.mem_cons_self
      have hrest : ∀ q ∈ rest, 1 ≤ q.count := fun q hq => h q (List.mem_cons_of_mem p hq)
      -- a later pile of the same cell would hide the beepers of this one
      have hfresh : p.position ∉ rest.map Pile.position := by
        intro hm
        have hc := hall p.position
        have hle := lastCount_le_total rest p.position
        rw [lastCount_cons_of_mem hm, total_cons, if_pos rfl] at hc
        omega
      have htail (c : Position) : lastCount rest c = total rest c := by
        by_cases hm : c ∈ rest.map Pile.position
        · have hne : p.position ≠ c := fun he => hfresh (he ▸ hm)
          have hc := hall c
          rwa [lastCount_cons_of_mem hm, total_cons, if_neg hne, Nat.zero_add] at hc
        · rw [lastCount_eq_zero_of_notMem hm, total_eq_zero_of_not_mem hm]
      exact List.nodup_cons.mpr ⟨hfresh, ih hrest htail⟩

/-! ## The verdict -/

theorem samePiles_iff : samePiles ps qs = true ↔ ∀ c, countAt? ps c = countAt? qs c := by
  rw [samePiles, List.all_eq_true]
  constructor
  · intro hall c
    by_cases hc : c ∈ (ps ++ qs).map Pile.position
    · obtain ⟨p, hp, rfl⟩ := List.mem_map.mp hc
      exact eq_of_beq (hall p hp)
    -- neither list names the cell
    · rw [List.map_append, List.mem_append, not_or] at hc
      rw [countAt?_eq_none_iff.mpr hc.1, countAt?_eq_none_iff.mpr hc.2]
  · intro hall p _
    exact beq_iff_eq.mpr (hall p.position)

theorem check_passed_iff_problems (g : Goal) (w : World) :
    (g.check w).passed = true ↔ g.problems w = [] := by
  rw [check]
  cases g.problems w with
  | nil => simp
  | cons p ps => simp

/-- The verdict is good if every field that is set agrees, where the last pile of each cell decides. -/
theorem check_passed_iff {g : Goal} {w : World} (h : w.WellFormed) (hg : g.Stocked) :
    (g.check w).passed = true ↔ g.Meets lastCount w := by
  have hposition : g.positionProblem? w = none ↔
      ∀ p, g.position = some p → w.robot.position = p := by
    rw [positionProblem?]
    cases g.position <;> simp
  have hdirection : g.directionProblem? w = none ↔
      ∀ d, g.direction = some d → w.robot.direction = d := by
    rw [directionProblem?]
    cases g.direction <;> simp
  have hbag : g.bagProblem? w = none ↔ ∀ n, g.bag = some n → w.robot.bag.toInt = n := by
    rw [bagProblem?]
    cases g.bag <;> simp
  have hpiles : g.pilesProblem? w = none ↔
      ∀ ps, g.piles = some ps → ∀ c, total w.piles c = lastCount ps c := by
    rw [pilesProblem?]
    cases hps : g.piles with
    | none => simp
    | some ps =>
      -- the world has one pile at most for a cell, so its last entry is the total
      have hcount (c : Position) : countAt? ps c = countAt? w.piles c ↔
          total w.piles c = lastCount ps c := by
        rw [countAt?_eq_of_stocked (hg ps hps), countAt?_eq h.tidyPiles]
        split <;> split <;> simp_all [eq_comm]
      simp [samePiles_iff, hcount]
  rw [check_passed_iff_problems, problems, List.filterMap_eq_nil_iff]
  simp only [List.mem_cons, List.not_mem_nil, or_false, forall_eq_or_imp, forall_eq, id_eq]
  rw [hposition, hdirection, hbag, hpiles]
  constructor
  · rintro ⟨hp, hd, hps, hn⟩
    exact ⟨hp, hd, hn, hps⟩
  · rintro ⟨hp, hd, hn, hps⟩
    exact ⟨hp, hd, hps, hn⟩

theorem Meets.congr {count count' : List Pile → Position → Nat} {g : Goal} {w : World}
    (h : g.Meets count w) (hcount : ∀ ps, g.piles = some ps → ∀ c, count ps c = count' ps c) :
    g.Meets count' w :=
  { h with piles := fun ps hps c => (h.piles ps hps c).trans (hcount ps hps c) }

/-- A goal that names no cell twice is reached if every field agrees with the world, and one that names
a cell twice is missed by every world that has what is listed. -/
theorem check_passed_iff_namesOnce {g : Goal} {w : World} (h : w.WellFormed) (hg : g.Stocked) :
    (g.NamesOnce → ((g.check w).passed = true ↔ g.Meets total w)) ∧
      (g.Meets total w → ((g.check w).passed = true ↔ g.NamesOnce)) := by
  have hsame (hn : g.NamesOnce) (ps : List Pile) (hps : g.piles = some ps) (c : Position) :
      lastCount ps c = total ps c :=
    (nodup_iff_lastCount_eq_total (hg ps hps)).mp (hn ps hps) c
  rw [check_passed_iff h hg]
  refine ⟨fun hn => ⟨?_, ?_⟩, fun hm => ⟨?_, ?_⟩⟩
  · intro hlast
    exact hlast.congr (hsame hn)
  · intro hm
    exact hm.congr fun ps hps c => (hsame hn ps hps c).symm
  · intro hlast ps hps
    apply (nodup_iff_lastCount_eq_total (hg ps hps)).mpr
    intro c
    exact (hlast.piles ps hps c).symm.trans (hm.piles ps hps c)
  · intro hn
    exact hm.congr fun ps hps c => (hsame hn ps hps c).symm

/-- What is listed for a world, the world has once it is put in order. -/
theorem meets_ofListing (u : World) : (ofListing u).Meets total u.normalize where
  position _ hp := Option.some.inj hp
  direction _ hd := Option.some.inj hd
  bag _ hn := Option.some.inj hn
  piles ps hps c := by
    obtain rfl : u.piles = ps := Option.some.inj hps
    exact World.total_mergePiles u.piles c

theorem namesOnce_ofListing {u : World} :
    (ofListing u).NamesOnce ↔ (u.piles.map Pile.position).Nodup := by
  constructor
  · intro hn
    exact hn u.piles rfl
  · intro hn ps hps
    obtain rfl : u.piles = ps := Option.some.inj hps
    exact hn

/-- A goal reads the last pile that it lists for each cell. So it asks for what it lists if it names no
cell twice, and only then does a world that has what is listed reach it; in particular the world of a
document reaches the goal that is copied from it exactly if the document names no cell twice. -/
theorem goals_read_last_piles (g : Goal) (w : World) :
    (w.WellFormed → g.Stocked →
      ((g.check w).passed = true ↔ g.Meets lastCount w) ∧
      (g.NamesOnce → ((g.check w).passed = true ↔ g.Meets total w)) ∧
      (g.Meets total w → ((g.check w).passed = true ↔ g.NamesOnce))) ∧
    ∀ (medium : Document.Medium) (j : Json) (u : World), Document.listed medium j = .ok u →
      Document.world medium j = .ok w → g = ofListing u →
        ((g.check w).passed = true ↔ (u.piles.map Pile.position).Nodup) := by
  refine ⟨fun h hg => ⟨check_passed_iff h hg, check_passed_iff_namesOnce h hg⟩, ?_⟩
  rintro medium j u hlisted hworld rfl
  have hwell : w.WellFormed := Document.wellFormed_of_world hworld
  have hstocked : (ofListing u).Stocked := by
    intro ps hps
    obtain rfl : u.piles = ps := Option.some.inj hps
    exact (Document.bounds_of_listed hlisted).2
  -- the goal lists what the world was made of, so only naming a cell twice can spoil it
  have hsummed : (ofListing u).Meets total w := by
    rw [Document.eq_normalize_of_world hlisted hworld]
    exact meets_ofListing u
  rw [(check_passed_iff_namesOnce hwell hstocked).2 hsummed, namesOnce_ofListing]

def stacked (n : Nat) : World where
  width := 1
  height := 1
  robot := ⟨⟨1, 1⟩, .east, .holding 0⟩
  walls := []
  piles := List.replicate n ⟨1, 1, 1⟩

/-- Two piles of one cell are not the same as one, though the world is the same. -/
theorem goals_read_last_piles_stacked :
    (stacked 1).WellFormed ∧ (ofListing (stacked 1)).Stocked ∧ (ofListing (stacked 1)).NamesOnce ∧
      ((ofListing (stacked 1)).check (stacked 1)).passed = true ∧
      ∃ j w, Document.listed .value j = .ok (stacked 2) ∧ Document.world .value j = .ok w ∧
        ((ofListing (stacked 2)).check w).passed = false := by
  have hwell : (stacked 1).WellFormed := by constructor <;> decide
  have hstocked : (ofListing (stacked 1)).Stocked := by
    intro ps hps
    obtain rfl : (stacked 1).piles = ps := Option.some.inj hps
    decide
  have honce : (ofListing (stacked 1)).NamesOnce := namesOnce_ofListing.mpr (by decide)
  obtain ⟨-, hone, -⟩ := (goals_read_last_piles _ _).1 hwell hstocked
  have hlisted : Document.listed .value (Document.ofWorld (stacked 2)) = .ok (stacked 2) := by rfl
  have hworld : Document.world .value (Document.ofWorld (stacked 2)) =
      .ok (stacked 2).normalize := by rfl
  have htwo := (goals_read_last_piles _ _).2 _ _ _ hlisted hworld rfl
  refine ⟨hwell, hstocked, honce, (hone honce).mpr (meets_ofListing (stacked 1)), _, _, hlisted,
    hworld, ?_⟩
  rw [← Bool.not_eq_true, htwo]
  decide

/-- A goal may list what a world has on every cell, summed as a world sums it, and be missed. -/
theorem summed_goal_missed :
    (stacked 2).normalize.WellFormed ∧ (ofListing (stacked 2)).Meets total (stacked 2).normalize ∧
      (ofListing (stacked 2)).check (stacked 2).normalize =
        ⟨false, "The beepers are not where they should be."⟩ :=
  ⟨by constructor <;> decide, meets_ofListing (stacked 2), by decide⟩

end KarelLab.Goal
