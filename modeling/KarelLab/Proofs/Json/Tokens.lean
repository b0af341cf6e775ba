import KarelLab.Json.Printer
import KarelLab.Json.Reader
import Mathlib.Tactic.SplitIfs

namespace KarelLab.Json

open Text.Unicode (hexDigit?)
open Number (isDigit digitsValue)

section Strings

variable (opening : List Char) (n : Nat) (done rest : List Char)

theorem hexDigit?_digitChar {d : Nat} (h : d < 16) : hexDigit? (Nat.digitChar d) = some d := by
  have hall : ∀ d < 16, hexDigit? (Nat.digitChar d) = some d := by decide
  exact hall d h

/-- The four digits of a unit are read as that unit. -/
theorem fourHex?_unit {u : Nat} (h : u < 0x10000) :
    fourHex? ((unitEscape u).drop 2 ++ rest) = some (u, rest) := by
  have hdigit (i : Nat) : hexDigit? (Nat.digitChar (u / i % 16)) = some (u / i % 16) :=
    hexDigit?_digitChar (Nat.mod_lt _ (by decide))
  have hvalue : ((u / 4096 % 16 * 16 + u / 256 % 16) * 16 + u / 16 % 16) * 16 + u / 1 % 16 = u := by
    omega
  have hdrop : (unitEscape u).drop 2 ++ rest = Nat.digitChar (u / 4096 % 16) ::
      Nat.digitChar (u / 256 % 16) :: Nat.digitChar (u / 16 % 16) :: Nat.digitChar (u / 1 % 16) ::
      rest := rfl
  rw [hdrop, fourHex?, hdigit, hdigit, hdigit, hdigit]
  dsimp only
  rw [hvalue]

theorem unitEscape_append (u : Nat) :
    unitEscape u ++ rest = '\\' :: 'u' :: ((unitEscape u).drop 2 ++ rest) := rfl

/-- A unit that is no first half of a pair stands for its character. -/
theorem readString_unit {u : Nat} (h : u < 0x10000) (hu : ¬(0xD800 ≤ u ∧ u ≤ 0xDBFF)) :
    readString opening (n + 1) done (unitEscape u ++ rest) =
      readString opening n (Char.ofNat u :: done) rest := by
  rw [unitEscape_append, readString]
  simp [fourHex?_unit rest h, hu]

/-- Two halves of a pair stand for one character. -/
theorem readString_pair {high low : Nat} (hhigh : 0xD800 ≤ high ∧ high ≤ 0xDBFF)
    (hlow : 0xDC00 ≤ low ∧ low ≤ 0xDFFF) :
    readString opening (n + 1) done (unitEscape high ++ (unitEscape low ++ rest)) =
      readString opening n
        (Char.ofNat (0x10000 + (high - 0xD800) * 0x400 + (low - 0xDC00)) :: done) rest := by
  have hsecond : lowHalf? high (unitEscape low ++ rest) =
      some (0x10000 + (high - 0xD800) * 0x400 + (low - 0xDC00), rest) := by
    rw [unitEscape_append, lowHalf?, fourHex?_unit rest (by omega)]
    exact if_pos hlow
  rw [unitEscape_append, readString]
  simp [fourHex?_unit _ (show high < 0x10000 by omega), hhigh, hsecond]

theorem toNat_valid (c : Char) : c.toNat < 0xD800 ∨ 0xDFFF < c.toNat ∧ c.toNat < 0x110000 := c.valid

/-- What is written for a character is read as that character, in one turn. -/
theorem readString_encodeChar (c : Char) :
    readString opening (n + 1) done (encodeChar c ++ rest) =
      readString opening n (c :: done) rest := by
  have hback : Char.ofNat c.toNat = c := Char.ofNat_toNat c
  have hvalid := toNat_valid c
  unfold encodeChar
  -- seven short escapes, then a character as it is, one unit, and a pair of units
  split_ifs with hquote hslash hline hreturn htab hback8 hfeed hplain hunit
  · subst hquote
    rfl
  · subst hslash
    rfl
  · subst hline
    rfl
  · subst hreturn
    rfl
  · subst htab
    rfl
  · rw [hback8] at hback
    subst hback
    rfl
  · rw [hfeed] at hback
    subst hback
    rfl
  · have hlow : ¬c.toNat < 32 := by omega
    change readString opening (n + 1) done (c :: rest) = _
    rw [readString.eq_def]
    simp [hquote, hslash, hlow]
  · rw [readString_unit opening n done rest hunit (by omega), hback]
  · have hwhole : 0x10000 + (0xD800 + (c.toNat - 0x10000) / 0x400 - 0xD800) * 0x400 +
        (0xDC00 + (c.toNat - 0x10000) % 0x400 - 0xDC00) = c.toNat := by
      omega
    dsimp only
    rw [List.append_assoc, readString_pair opening n done rest (by omega) (by omega), hwhole, hback]

/-- The characters of a string are read one after another, up to its closing quote. -/
theorem readString_chars {opening rest : List Char} (cs : List Char) {n : Nat} (hn : cs.length < n)
    (done : List Char) :
    readString opening n done (cs.flatMap encodeChar ++ '"' :: rest) =
      .ok (String.ofList (done.reverse ++ cs), rest) := by
  obtain ⟨n, rfl⟩ := Nat.exists_eq_succ_of_ne_zero (Nat.ne_of_gt (Nat.zero_lt_of_lt hn))
  induction cs generalizing n done with
  | nil =>
    rw [List.append_nil]
    rfl
  | cons c cs ih =>
    obtain ⟨n, rfl⟩ : ∃ m, n = m + 1 := by
      rw [List.length_cons] at hn
      exact ⟨n - 1, by omega⟩
    rw [List.flatMap_cons, List.append_assoc, Nat.succ_eq_add_one, readString_encodeChar,
      ih (c :: done) n (by simpa using hn)]
    simp

theorem length_le_flatMap_encodeChar (cs : List Char) : cs.length ≤ (cs.flatMap encodeChar).length := by
  induction cs with
  | nil => exact Nat.le_refl 0
  | cons c cs ih =>
    have hone : 1 ≤ (encodeChar c).length := by
      unfold encodeChar unitEscape
      split_ifs <;> simp
    rw [List.flatMap_cons, List.length_append, List.length_cons]
    omega

/-- A string as it is read behind its opening quote, however it is bounded by the text. -/
theorem readString_encodeString (opening : List Char) {rest : List Char} (s : String) {n : Nat}
    (hn : (s.toList.flatMap encodeChar ++ '"' :: rest).length ≤ n) :
    readString opening n [] (s.toList.flatMap encodeChar ++ '"' :: rest) = .ok (s, rest) := by
  have hlength := length_le_flatMap_encodeChar s.toList
  rw [List.length_append, List.length_cons] at hn
  rw [readString_chars s.toList (by omega) []]
  simp

end Strings

section Numbers

theorem isDigit_of_mem_toDigits {n : Nat} {c : Char} (h : c ∈ Nat.toDigits 10 n) : isDigit c = true :=
  Nat.isDigit_of_mem_toDigits (by decide) (by decide) h

theorem digitsValue_toDigits (n : Nat) : digitsValue (Nat.toDigits 10 n) = n := by
  induction n using Nat.strongRecOn with
  | ind n ih =>
    have hdigit (d : Nat) (h : d < 10) : (Nat.digitChar d).toNat - 48 = d := by
      rw [Nat.toNat_digitChar_of_lt_ten h]
      omega
    rcases Nat.lt_or_ge n 10 with hn | hn
    · rw [Nat.toDigits_of_lt_base hn]
      change 10 * 0 + ((Nat.digitChar n).toNat - 48) = n
      rw [hdigit n hn]
      omega
    · have hfront : digitsValue (Nat.toDigits 10 (n / 10)) = n / 10 := ih (n / 10) (by omega)
      rw [Nat.toDigits_of_base_le (by decide) hn, digitsValue, List.foldl_append]
      change 10 * digitsValue (Nat.toDigits 10 (n / 10)) + ((Nat.digitChar (n % 10)).toNat - 48) = n
      rw [hfront, hdigit (n % 10) (Nat.mod_lt n (by decide))]
      omega

/-- Only zero is written with a zero in front. -/
theorem head?_toDigits {n : Nat} (h : 0 < n) : (Nat.toDigits 10 n).head? ≠ some '0' := by
  induction n using Nat.strongRecOn with
  | ind n ih =>
    rcases Nat.lt_or_ge n 10 with hn | hn
    · have hall : ∀ d < 10, 0 < d → some (Nat.digitChar d) ≠ some '0' := by decide
      rw [Nat.toDigits_of_lt_base hn]
      exact hall n hn h
    · rw [Nat.toDigits_of_base_le (by decide) hn, List.head?_append]
      have hfront := ih (n / 10) (by omega) (by omega)
      have hsome := List.head?_eq_some_head (Nat.toDigits_ne_nil (n := n / 10) (b := 10))
      rw [hsome] at hfront ⊢
      exact hfront

/-- A text that can stand behind a number: it goes on with none of its parts. -/
def Stops (rest : List Char) : Prop :=
  ∀ c, rest.head? = some c → isDigit c = false ∧ c ≠ '.' ∧ c ≠ 'e' ∧ c ≠ 'E'

variable {rest : List Char}

theorem digits_append {ds : List Char} (hd : ∀ c ∈ ds, isDigit c = true) (h : Stops rest) :
    digits (ds ++ rest) = (ds, rest) := by
  rw [digits, List.takeWhile_append_of_pos hd, List.dropWhile_append_of_pos hd]
  cases rest with
  | nil => simp
  | cons c rest =>
    have hc := (h c rfl).1
    simp [hc]

theorem Stops.fraction (h : Stops rest) : fraction rest = ([], rest) := by
  cases rest with
  | nil => rfl
  | cons c rest =>
    have hc := (h c rfl).2.1
    unfold Json.fraction
    split
    · rename_i heq
      exact absurd (List.cons.inj heq).1 hc
    · rfl

theorem Stops.exponent (h : Stops rest) : exponent? rest = none := by
  cases rest with
  | nil => rfl
  | cons c rest =>
    obtain ⟨-, -, he, hE⟩ := h c rfl
    simp [exponent?, he, hE]

/-- The digits of a number are read as that number, behind a minus sign as its opposite. -/
theorem readNumber_toDigits (n : Nat) (h : Stops rest) :
    readNumber (Nat.toDigits 10 n ++ rest) = .ok (.int n, rest) ∧
      readNumber ('-' :: (Nat.toDigits 10 n ++ rest)) = .ok (.int (-n), rest) := by
  have hfraction := h.fraction
  have hexponent := h.exponent
  rcases Nat.eq_zero_or_pos n with rfl | hn
  · change readNumber ('0' :: rest) = _ ∧ readNumber ('-' :: '0' :: rest) = _
    simp [readNumber, hfraction, hexponent, digitsValue]
  · have hall : ∀ c ∈ Nat.toDigits 10 n, isDigit c = true := fun c => isDigit_of_mem_toDigits
    have hdigits := digits_append hall h
    have hvalue := digitsValue_toDigits n
    have hhead := head?_toDigits hn
    obtain ⟨c, t, ht⟩ := List.exists_cons_of_ne_nil (Nat.toDigits_ne_nil (n := n) (b := 10))
    rw [ht] at hall hdigits hvalue hhead ⊢
    have hc : isDigit c = true := hall c List.mem_cons_self
    have hzero : c ≠ '0' := fun e => hhead (congrArg some e)
    have hminus : c ≠ '-' := by
      rintro rfl
      cases hc
    rw [List.cons_append] at hdigits ⊢
    simp [readNumber, hzero, hminus, hdigits, hfraction, hexponent, hvalue]

end Numbers

end KarelLab.Json
