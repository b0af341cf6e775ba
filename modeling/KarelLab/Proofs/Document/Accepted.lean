import KarelLab.Document.World
import KarelLab.Proofs.Except
import KarelLab.Proofs.World.WellFormed

namespace KarelLab.Document

namespace Checked

variable {α β : Type}

theorem both_eq_ok_iff {x : Checked α} {y : Checked β} {a : α} {b : β} :
    both x y = .ok (a, b) ↔ x = .ok a ∧ y = .ok b := by
  cases x <;> cases y <;> simp [both]

theorem within_eq_ok_iff {step : Step} {x : Checked α} {a : α} :
    within step x = .ok a ↔ x = .ok a := by
  cases x <;> simp [within]

/-- What is returned for a field that has to be there, the field's check returned. -/
theorem of_field {fs : List (String × Json)} {name : String} {check : Json → Checked α} {a : α}
    (h : field fs name check = .ok a) : ∃ j, check j = .ok a := by
  rw [field, within_eq_ok_iff] at h
  split at h
  · exact ⟨_, h⟩
  · cases h

/-- What is returned for a field with a default is that, or the field's check returned it. -/
theorem of_fieldOr {fs : List (String × Json)} {name : String} {default : α}
    {check : Json → Checked α} {a : α} (h : fieldOr fs name default check = .ok a) :
    a = default ∨ ∃ j, check j = .ok a := by
  rw [fieldOr, within_eq_ok_iff] at h
  split at h
  · exact .inr ⟨_, h⟩
  · exact .inl (Except.ok.inj h).symm

theorem of_items {check : Json → Checked α} {n : Nat} {js : List Json} {as : List α}
    (h : items check n js = .ok as) : ∀ a ∈ as, ∃ j, check j = .ok a := by
  induction js generalizing n as with
  | nil =>
    cases h
    simp
  | cons j rest ih =>
    obtain ⟨⟨a, others⟩, hboth, rfl⟩ := map_eq_ok_iff.mp h
    obtain ⟨ha, hrest⟩ := both_eq_ok_iff.mp hboth
    intro b hb
    rcases List.mem_cons.mp hb with rfl | hb
    · exact ⟨j, within_eq_ok_iff.mp ha⟩
    · exact ih hrest b hb

theorem of_list {medium : Medium} {check : Json → Checked α} {j : Json} {as : List α}
    (h : list medium check j = .ok as) : ∀ a ∈ as, ∃ j, check j = .ok a := by
  cases j with
  | array js => exact of_items h
  | _ => cases h

end Checked

open Checked

theorem le_of_wholeFrom {low n : Int} {j : Json} (h : wholeFrom low j = .ok n) : low ≤ n := by
  obtain ⟨m, -, hm⟩ := bind_eq_ok_iff.mp h
  split at hm
  · cases hm
  · cases hm
    omega

theorem between_of_wholeBetween {low high n : Int} {j : Json}
    (h : wholeBetween low high j = .ok n) : low ≤ n ∧ n ≤ high := by
  obtain ⟨m, -, hm⟩ := bind_eq_ok_iff.mp h
  split at hm
  · cases hm
  · split at hm
    · cases hm
    · cases hm
      omega

/-- A pile that is read is not empty. -/
theorem count_pos_of_pile {medium : Medium} {j : Json} {p : Pile} (h : pile medium j = .ok p) :
    1 ≤ p.count := by
  obtain ⟨fs, -, hfs⟩ := bind_eq_ok_iff.mp h
  obtain ⟨⟨x, y, n⟩, hparts, rfl⟩ := map_eq_ok_iff.mp hfs
  obtain ⟨-, hrest⟩ := both_eq_ok_iff.mp hparts
  obtain ⟨-, hcount⟩ := both_eq_ok_iff.mp hrest
  obtain ⟨k, hk⟩ := of_field hcount
  have hn : 1 ≤ n := le_of_wholeFrom hk
  change 1 ≤ n.toNat
  omega

/-- The size that is read of a grid is in bounds. -/
theorem bounds_of_dimensions {medium : Medium} {j : Json} {width height : Nat}
    (h : dimensions medium j = .ok (width, height)) :
    (1 ≤ width ∧ width ≤ World.maxSize) ∧ (1 ≤ height ∧ height ≤ World.maxSize) := by
  obtain ⟨fs, -, hfs⟩ := bind_eq_ok_iff.mp h
  obtain ⟨⟨m, n⟩, hparts, hsize⟩ := map_eq_ok_iff.mp hfs
  obtain ⟨rfl, rfl⟩ := Prod.mk.inj hsize
  obtain ⟨hm, hn⟩ := both_eq_ok_iff.mp hparts
  obtain ⟨jm, hjm⟩ := of_field hm
  obtain ⟨jn, hjn⟩ := of_field hn
  have hwidth := between_of_wholeBetween hjm
  have hheight := between_of_wholeBetween hjn
  omega

def listed (medium : Medium) (j : Json) : Checked World := do
  let fs ← fields medium "World" j
  (both (field fs "dimensions" (dimensions medium)) (both (field fs "robot" (robot medium))
    (both (fieldOr fs "walls" [] (list medium (wall medium)))
      (fieldOr fs "beeper_piles" [] (list medium (pile medium)))))).map
    fun ((width, height), r, walls, piles) => ⟨width, height, r, walls, piles⟩

/-- The world that is read of a document is the one that it lists, put in order. -/
theorem world_eq_accept (medium : Medium) (j : Json) :
    world medium j = listed medium j >>= accept := by
  unfold world listed
  cases fields medium "World" j with
  | error es => rfl
  | ok fs =>
    change (both _ _ >>= _) = ((both _ _).map _ >>= _)
    cases both (field fs "dimensions" (dimensions medium)) (both (field fs "robot" (robot medium))
      (both (fieldOr fs "walls" [] (list medium (wall medium)))
        (fieldOr fs "beeper_piles" [] (list medium (pile medium))))) <;> rfl

theorem eq_normalize_of_world {medium : Medium} {j : Json} {u w : World}
    (hl : listed medium j = .ok u) (hw : world medium j = .ok w) : w = u.normalize := by
  rw [world_eq_accept, hl] at hw
  change accept u = .ok w at hw
  unfold accept at hw
  split at hw
  · exact (Except.ok.inj hw).symm
  · cases hw

/-- What is promised of a world as it is listed: its size is in bounds and no pile of it is empty. -/
theorem bounds_of_listed {medium : Medium} {j : Json} {u : World} (h : listed medium j = .ok u) :
    ((1 ≤ u.width ∧ u.width ≤ World.maxSize) ∧ (1 ≤ u.height ∧ u.height ≤ World.maxSize)) ∧
      ∀ p ∈ u.piles, 1 ≤ p.count := by
  obtain ⟨fs, -, hfs⟩ := bind_eq_ok_iff.mp h
  obtain ⟨⟨⟨width, height⟩, r, walls, piles⟩, hparts, rfl⟩ := map_eq_ok_iff.mp hfs
  obtain ⟨hdimensions, hrest⟩ := both_eq_ok_iff.mp hparts
  obtain ⟨-, hrest⟩ := both_eq_ok_iff.mp hrest
  obtain ⟨-, hpiles⟩ := both_eq_ok_iff.mp hrest
  obtain ⟨jd, hjd⟩ := of_field hdimensions
  refine ⟨bounds_of_dimensions hjd, ?_⟩
  rcases of_fieldOr hpiles with rfl | ⟨jp, hjp⟩
  · simp
  · intro p hp
    obtain ⟨jq, hjq⟩ := of_list hjp p hp
    exact count_pos_of_pile hjq

/-- Whatever world a document is accepted for, it is well-formed. -/
theorem wellFormed_of_world {medium : Medium} {j : Json} {w : World}
    (h : world medium j = .ok w) : w.WellFormed := by
  rw [world_eq_accept] at h
  obtain ⟨u, hlisted, haccept⟩ := bind_eq_ok_iff.mp h
  obtain ⟨⟨hwidth, hheight⟩, hcounts⟩ := bounds_of_listed hlisted
  unfold accept at haccept
  split at haccept
  · rename_i hinside
    cases haccept
    exact World.wellFormed_normalize hwidth hheight hinside hcounts
  · cases haccept

end KarelLab.Document
