/-!
# Sets of characters

A set of characters is a list of ranges of code points. Its written form is one word per range,
the first and last code point in hexadecimal with a dash between them, or one code point alone.
-/

namespace KarelLab.Text.Unicode

structure Range where
  first : Nat
  last : Nat
  deriving Repr, DecidableEq, Inhabited

abbrev Ranges := Array Range

def hexDigit? (c : Char) : Option Nat :=
  if '0' ≤ c ∧ c ≤ '9' then some (c.toNat - 48)
  else if 'a' ≤ c ∧ c ≤ 'f' then some (c.toNat - 87)
  else if 'A' ≤ c ∧ c ≤ 'F' then some (c.toNat - 55)
  else none

def hexValue (cs : List Char) : Nat :=
  cs.foldl (fun n c => match hexDigit? c with | some d => 16 * n + d | none => n) 0

namespace Range

def ofWord (w : List Char) : Range :=
  let first := w.takeWhile (· != '-')
  match w.dropWhile (· != '-') with
  | [] => ⟨hexValue first, hexValue first⟩
  | _ :: last => ⟨hexValue first, hexValue last⟩

def contains (r : Range) (n : Nat) : Bool := r.first ≤ n && n ≤ r.last

end Range

def words (s : String) : List (List Char) :=
  (s.toList.splitOnP Char.isWhitespace).filter (· ≠ [])

namespace Ranges

def ofText (s : String) : Ranges :=
  ((words s).map Range.ofWord).toArray

def contains (rs : Ranges) (c : Char) : Bool :=
  rs.any (·.contains c.toNat)

end Ranges

end KarelLab.Text.Unicode
