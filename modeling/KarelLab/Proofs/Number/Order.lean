import KarelLab.Number.Binary64
import Mathlib.Algebra.Order.Field.Power
import Mathlib.Algebra.Order.Field.Rat

namespace KarelLab.Binary64

def value (negative : Bool) (m : Nat) (e : Int) : ℚ :=
  ((if negative then -(m : Int) else m : Int) : ℚ) * 2 ^ e

def Fits (x : Binary64) : Prop := ∀ s m e, x = .finite s m e → m < 2 ^ 53

structure Same (x y : Binary64) : Prop where
  left : x ≠ .nan
  right : y ≠ .nan
  notBelow : lt x y = false
  notAbove : lt y x = false

variable {x y z floor cap : Binary64}

/-- At a power of two that is not above its own one, the mantissa of a number is a whole number. -/
theorem value_eq_aligned (s : Bool) (m : Nat) {e low : Int} (h : low ≤ e) :
    value s m e =
      ((if s then -((m * 2 ^ (e - low).toNat : Nat) : Int) else (m * 2 ^ (e - low).toNat : Nat) : Int) :
        ℚ) * 2 ^ low := by
  have hexponent : e = ((e - low).toNat : Int) + low := by omega
  have hpower : (2 : ℚ) ^ e = 2 ^ (e - low).toNat * 2 ^ low := by
    conv_lhs => rw [hexponent]
    rw [zpow_add₀ two_ne_zero, zpow_natCast]
  have hmantissa : (if s then -((m * 2 ^ (e - low).toNat : Nat) : Int)
      else (m * 2 ^ (e - low).toNat : Nat)) =
      (if s then -(m : Int) else m) * 2 ^ (e - low).toNat := by cases s <;> simp
  rw [value, hpower, hmantissa, Int.cast_mul, Int.cast_pow, Int.cast_ofNat, mul_assoc]

/-- Finite numbers are compared by their values. -/
theorem lt_finite_iff {s t : Bool} {m n : Nat} {e f : Int} :
    lt (.finite s m e) (.finite t n f) = true ↔ value s m e < value t n f := by
  have hpos : (0 : ℚ) < 2 ^ min e f := zpow_pos two_pos _
  rw [value_eq_aligned s m (min_le_left e f), value_eq_aligned t n (min_le_right e f),
    mul_lt_mul_iff_left₀ hpos, Int.cast_lt]
  exact decide_eq_true_iff

theorem lt_self (x : Binary64) : lt x x = false := by
  cases x with
  | nan => rfl
  | infinite s => cases s <;> rfl
  | finite s m e =>
    rw [← Bool.not_eq_true, lt_finite_iff]
    exact lt_irrefl (value s m e)

theorem lt_of_lt_of_lt (hxy : lt x y = true) (hyz : lt y z = true) : lt x z = true := by
  cases x with
  | nan => cases hxy
  | infinite s =>
    cases y with
    | nan => cases hxy
    | infinite t =>
      -- nothing is above the greater one of two infinities
      have ht : t = false := by simpa using (Bool.and_eq_true_iff.mp hxy).2
      subst ht
      cases z <;> cases hyz
    | finite t n f =>
      have hs : s = true := hxy
      subst hs
      cases z with
      | nan => cases hyz
      | infinite u => exact hyz
      | finite u o g => rfl
  | finite s m e =>
    cases y with
    | nan => cases hxy
    | infinite t =>
      have hnot : (!t) = true := hxy
      have ht : t = false := by simpa using hnot
      subst ht
      cases z <;> cases hyz
    | finite t n f =>
      cases z with
      | nan => cases hyz
      | infinite u => exact hyz
      | finite u o g =>
        rw [lt_finite_iff] at hxy hyz ⊢
        exact hxy.trans hyz

theorem ne_nan_of_lt_right (h : lt x y = true) : y ≠ .nan := by
  rintro rfl
  cases x <;> cases h

/-! ## Floors and caps -/

/-- What is at most a cap is not above it. -/
theorem not_lt_least (x cap : Binary64) : lt cap (least x cap) = false := by
  unfold least
  cases h : lt cap x with
  | true => exact lt_self cap
  | false => simpa using h

/-- A floor that is put under a cap is the only way above the cap. -/
theorem lt_greatest_least_iff :
    lt cap (greatest floor (least x cap)) = true ↔ lt cap floor = true := by
  have hcapped : lt cap (least x cap) = false := not_lt_least x cap
  unfold greatest
  cases hfloor : lt floor (least x cap) with
  | true =>
    rw [if_pos rfl, hcapped]
    refine ⟨nofun, ?_⟩
    intro hbelow
    rw [lt_of_lt_of_lt hbelow hfloor] at hcapped
    exact hcapped.symm
  | false => rw [if_neg Bool.false_ne_true]

/-- A floor that is above the cap is what is left of every number. -/
theorem greatest_least_of_lt (h : lt cap floor = true) : greatest floor (least x cap) = floor := by
  have hcapped : lt cap (least x cap) = false := not_lt_least x cap
  unfold greatest
  cases hfloor : lt floor (least x cap) with
  | true =>
    rw [lt_of_lt_of_lt h hfloor] at hcapped
    cases hcapped
  | false => rw [if_neg Bool.false_ne_true]

/-- A floor that is a number leaves a number. -/
theorem greatest_ne_nan (h : floor ≠ .nan) : greatest floor x ≠ .nan := by
  unfold greatest
  cases hfloor : lt floor x with
  | true =>
    rw [if_pos rfl]
    exact ne_nan_of_lt_right hfloor
  | false =>
    rw [if_neg Bool.false_ne_true]
    exact h

/-- Between the floor and the cap a number stays the same. -/
theorem greatest_least_same (hx : x ≠ .nan) (hfloor : floor ≠ .nan) (hlow : lt x floor = false)
    (hhigh : lt cap x = false) : Same (greatest floor (least x cap)) x := by
  have hleast : least x cap = x := by rw [least, hhigh, if_neg Bool.false_ne_true]
  rw [hleast, greatest]
  cases h : lt floor x with
  | true =>
    rw [if_pos rfl]
    exact ⟨hx, hx, lt_self x, lt_self x⟩
  | false =>
    rw [if_neg Bool.false_ne_true]
    exact ⟨hfloor, hx, h, hlow⟩

/-- A number whose mantissa is odd and has all bits is written in one way. -/
theorem eq_of_same_odd {s : Bool} {m n : Nat} {e f : Int}
    (h : Same (.finite false m e) (.finite s n f)) (hm : 2 ^ 52 ≤ m) (hodd : m % 2 = 1)
    (hn : n < 2 ^ 53) : Binary64.finite s n f = .finite false m e := by
  have hvalue : value false m e = value s n f := by
    have hle : ¬ value false m e < value s n f := by
      rw [← lt_finite_iff, h.notBelow]
      exact Bool.false_ne_true
    have hge : ¬ value s n f < value false m e := by
      rw [← lt_finite_iff, h.notAbove]
      exact Bool.false_ne_true
    exact le_antisymm (not_lt.mp hge) (not_lt.mp hle)
  rw [value_eq_aligned false m (min_le_left e f), value_eq_aligned s n (min_le_right e f)] at hvalue
  have hscale : (2 : ℚ) ^ min e f ≠ 0 := zpow_ne_zero _ two_ne_zero
  have haligned := Rat.intCast_inj.mp (mul_right_cancel₀ hscale hvalue)
  rw [if_neg Bool.false_ne_true] at haligned
  have hpos : 0 < m * 2 ^ (e - min e f).toNat := Nat.mul_pos (by omega) (Nat.two_pow_pos _)
  cases s with
  | true =>
    rw [if_pos rfl] at haligned
    omega
  | false =>
    rw [if_neg Bool.false_ne_true, Int.ofNat_inj] at haligned
    rcases lt_or_ge f e with hlt | hge
    -- with a smaller exponent the mantissa would have one bit more than there are
    · obtain ⟨k, hk⟩ : ∃ k, (e - min e f).toNat = k + 1 := ⟨(e - f).toNat - 1, by omega⟩
      have hzero : (f - min e f).toNat = 0 := by omega
      rw [hk, hzero, pow_zero, mul_one, pow_succ, ← mul_assoc] at haligned
      have hgrown : m ≤ m * 2 ^ k := Nat.le_mul_of_pos_right m (Nat.two_pow_pos k)
      omega
    -- with a greater one it would be even
    · have hzero : (e - min e f).toNat = 0 := by omega
      rw [hzero, pow_zero, mul_one] at haligned
      rcases Nat.eq_zero_or_pos (f - min e f).toNat with hsame | hmore
      · rw [hsame, pow_zero, mul_one] at haligned
        have hexponent : f = e := by omega
        rw [haligned, hexponent]
      · obtain ⟨k, hk⟩ : ∃ k, (f - min e f).toNat = k + 1 := ⟨(f - min e f).toNat - 1, by omega⟩
        rw [hk, pow_succ, ← mul_assoc] at haligned
        omega

end KarelLab.Binary64
