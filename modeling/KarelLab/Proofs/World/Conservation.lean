import KarelLab.Proofs.Recording.Trace
import KarelLab.Proofs.World.Calls
import Mathlib.Algebra.GroupWithZero.Nat

/-!
# Where the beepers are

A beeper lies on a cell or is in the bag. Picking one up and putting one down move it from one to the
other, and nothing else touches beepers. A bag that never runs out takes and gives without end, so
there the beepers that lie in the world are counted against the actions.
-/

namespace KarelLab.World

def lying (w : World) : Nat := (w.piles.map Pile.count).sum

def succeeded (w : World) : List String → List String
  | [] => []
  | name :: rest =>
    match w.call name with
    | .ok after => name :: after.succeeded rest
    | .error _ => w.succeeded rest

/-- The account of all beepers between two worlds, when so many were put down and so many picked up
from the one to the other. What a bag that can run out holds and what lies in the world stay the same
together; next to one that cannot, the beepers that lie in the world are those that did, with the ones
that were put down and without those that were picked up. -/
structure Balanced (w : World) (puts picks : Nat) (after : World) : Prop where
  finite : ∀ n, w.robot.bag = .holding n →
    ∃ m, after.robot.bag = .holding m ∧ m + after.lying = n + w.lying
  unlimited : w.robot.bag = .unlimited →
    after.robot.bag = .unlimited ∧ (after.lying : Int) = w.lying + puts - picks

theorem sum_addPile (pile : Pile) (ps : List Pile) :
    ((addPile pile ps).map Pile.count).sum = (ps.map Pile.count).sum + pile.count := by
  induction ps with
  | nil => simp [addPile]
  | cons p rest ih =>
    rw [addPile]
    split
    · simp only [List.map_cons, List.sum_cons]
      omega
    · simp only [List.map_cons, List.sum_cons, ih]
      omega

/-- A beeper is taken if the first pile of the cell is not empty. -/
theorem sum_takeBeeper {c : Position} {ps : List Pile} {pile : Pile}
    (h : ps.find? (·.position = c) = some pile) (hpos : 0 < pile.count) :
    ((takeBeeper c ps).map Pile.count).sum + 1 = (ps.map Pile.count).sum := by
  induction ps with
  | nil => cases h
  | cons p rest ih =>
    rw [takeBeeper]
    by_cases hp : p.position = c
    · rw [List.find?_cons_of_pos (by simpa using hp)] at h
      cases h
      rw [if_pos hp]
      split
      -- the last beeper takes its pile with it
      · rw [List.map_cons, List.sum_cons]
        omega
      · simp only [List.map_cons, List.sum_cons]
        omega
    · rw [List.find?_cons_of_neg (by simpa using hp)] at h
      rw [if_neg hp, List.map_cons, List.map_cons, List.sum_cons, List.sum_cons, ← ih h]
      omega

theorem beepersPresent_iff (w : World) :
    w.beepersPresent = true ↔ ∃ pile, w.pileAt? w.robot.position = some pile ∧ 0 < pile.count := by
  rw [beepersPresent]
  cases w.pileAt? w.robot.position with
  | none => simp
  | some pile => simp

/-- Picking a beeper up takes it from the world into the bag. -/
theorem pickBeeper_eq_ok {w after : World} (h : w.pickBeeper = .ok after) :
    after.robot.bag = w.robot.bag.add ∧ after.lying + 1 = w.lying := by
  dsimp only [pickBeeper] at h
  split at h
  · rename_i hpresent
    obtain ⟨pile, hpile, hpos⟩ := w.beepersPresent_iff.mp hpresent
    cases h
    exact ⟨rfl, sum_takeBeeper hpile hpos⟩
  · cases h

/-- Putting a beeper down takes it from the bag into the world. -/
theorem putBeeper_eq_ok {w after : World} (h : w.putBeeper = .ok after) :
    w.robot.bag = after.robot.bag.add ∧ after.lying = w.lying + 1 := by
  dsimp only [putBeeper] at h
  split at h
  · cases h
  · rename_i bag hbag
    cases h
    exact ⟨bag_of_take? hbag, sum_addPile _ _⟩

namespace Balanced

variable {u v w : World} {puts picks puts' picks' : Nat}

/-- The account of worlds that differ in nothing that concerns beepers. -/
theorem of_same (hbag : w.robot.bag = v.robot.bag) (hpiles : w.piles = v.piles) :
    v.Balanced 0 0 w where
  finite n hn := ⟨n, hbag.trans hn, by rw [lying, lying, hpiles]⟩
  unlimited hu := ⟨hbag.trans hu, by simp [lying, hpiles]⟩

theorem refl (w : World) : w.Balanced 0 0 w := of_same rfl rfl

theorem trans (h : u.Balanced puts picks v) (k : v.Balanced puts' picks' w) :
    u.Balanced (puts + puts') (picks + picks') w where
  finite n hn := by
    obtain ⟨m, hm, hsum⟩ := h.finite n hn
    obtain ⟨m', hm', hsum'⟩ := k.finite m hm
    exact ⟨m', hm', hsum'.trans hsum⟩
  unlimited hu := by
    obtain ⟨hv, hsum⟩ := h.unlimited hu
    obtain ⟨hw, hsum'⟩ := k.unlimited hv
    exact ⟨hw, by omega⟩

/-- Read backwards, what was put down was picked up. -/
theorem symm (h : v.Balanced puts picks w) : w.Balanced picks puts v := by
  -- a bag that can run out stays one, and so does one that cannot
  cases hv : v.robot.bag with
  | unlimited =>
    obtain ⟨hw, hsum⟩ := h.unlimited hv
    refine ⟨?_, ?_⟩
    · intro n hn
      cases hw.symm.trans hn
    · intro _
      exact ⟨hv, by omega⟩
  | holding n =>
    obtain ⟨m, hw, hsum⟩ := h.finite n hv
    refine ⟨?_, ?_⟩
    · intro m' hm'
      cases hw.symm.trans hm'
      exact ⟨n, hv, hsum.symm⟩
    · intro hu
      cases hw.symm.trans hu

/-- A beeper that went from the world into the bag. -/
theorem of_taken (hbag : w.robot.bag = v.robot.bag.add) (hlying : w.lying + 1 = v.lying) :
    v.Balanced 0 1 w where
  finite n hn := by
    rw [hn] at hbag
    exact ⟨n + 1, hbag, by omega⟩
  unlimited hu := by
    rw [hu] at hbag
    exact ⟨hbag, by omega⟩

/-- One action that succeeds. -/
theorem act {a : Action} (h : v.act a = .ok w) :
    v.Balanced ([a].count .putBeeper) ([a].count .pickBeeper) w := by
  cases a with
  | move =>
    change v.move = .ok w at h
    dsimp only [move] at h
    split at h
    · cases h
    · cases h
    · cases h
      exact of_same rfl rfl
  | turnLeft =>
    cases h
    exact of_same rfl rfl
  | pickBeeper =>
    obtain ⟨hbag, hlying⟩ := pickBeeper_eq_ok h
    exact of_taken hbag hlying
  | putBeeper =>
    obtain ⟨hbag, hlying⟩ := putBeeper_eq_ok h
    exact (of_taken hbag hlying.symm).symm

/-- Actions that all succeed, one after another. -/
theorem actAll {actions : List Action} (h : v.actAll actions = .ok w) :
    v.Balanced (actions.count .putBeeper) (actions.count .pickBeeper) w := by
  -- on the actions: the account of the first one and that of the others add up
  induction actions generalizing v with
  | nil =>
    cases h
    exact .refl _
  | cons a rest ih =>
    rw [World.actAll, List.foldlM_cons] at h
    cases ha : v.act a with
    | error f =>
      rw [ha] at h
      cases h
    | ok next =>
      rw [ha] at h
      have hall := (act ha).trans (ih h)
      rw [← List.count_append, ← List.count_append] at hall
      exact hall

end Balanced

/-- Calls that succeed or fail, one after another: the beepers that were put down and picked up by
those that succeeded are on account. -/
theorem balanced_afterCalls (w : World) (names : List String) :
    w.Balanced ((w.succeeded names).count Action.putBeeper.name)
      ((w.succeeded names).count Action.pickBeeper.name) (w.afterCalls names) := by
  induction names generalizing w with
  | nil => exact .refl w
  | cons name rest ih =>
    have hcalls : w.afterCalls (name :: rest) = (w.afterCall name).afterCalls rest := rfl
    rw [hcalls, succeeded]
    cases hcall : w.call name with
    -- a call that fails leaves the world as it was, and is not on account
    | error f =>
      rw [afterCall_of_error hcall]
      exact ih w
    | ok after =>
      obtain ⟨a, rfl, ha⟩ := act_of_call hcall
      -- to count the names of calls is to count actions, since no two of them have one name
      have hcount (b : Action) : [a.name].count b.name = [a].count b := by
        by_cases hb : a = b
        · rw [hb, List.count_singleton_self, List.count_singleton_self]
        · have hname : ¬ a.name = b.name := by
            intro h
            have hab : Primitive.action a = .action b := Primitive.name_injective h
            exact hb (Primitive.action.inj hab)
          rw [List.count_singleton, List.count_singleton]
          simp [hb, hname]
      have hone := Balanced.act ha
      rw [← hcount, ← hcount] at hone
      have hall := hone.trans (ih after)
      rw [← List.count_append, ← List.count_append] at hall
      rw [afterCall_of_ok hcall]
      exact hall

end KarelLab.World
