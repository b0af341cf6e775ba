/-!
# Binary floating point

Numbers of the 64-bit binary format as exact values: a sign, a whole number below `2 ^ 53` and a
power of two, besides the two infinities and the value that is no number. Every quotient of
naturals rounds to the nearest of them, a tie to the even one.
-/

namespace KarelLab

inductive Binary64
  | nan
  | infinite (negative : Bool)
  | finite (negative : Bool) (mantissa : Nat) (exponent : Int)
  deriving Repr, DecidableEq, Inhabited

namespace Binary64

def roundDiv (n d : Nat) : Nat :=
  let q := n / d
  let r := n % d
  if 2 * r < d then q
  else if d < 2 * r then q + 1
  else if q % 2 = 0 then q else q + 1

def scaled (n d : Nat) (e : Int) : Nat × Nat :=
  if 0 ≤ e then (n, d * Nat.pow 2 e.toNat) else (n * Nat.pow 2 (-e).toNat, d)

/-- The exponent at which the quotient `n / d` has its rounded mantissa below `2 ^ 53`. -/
def exponentFor (n d : Nat) : Int :=
  let guess : Int := (Nat.log2 n : Int) - (Nat.log2 d : Int) - 52
  let (a, b) := scaled n d guess
  max (-1074) (if a / b < Nat.pow 2 52 then guess - 1 else guess)

def ofRatio (negative : Bool) (n d : Nat) : Binary64 :=
  if n = 0 then .finite negative 0 0
  else
    let e := exponentFor n d
    let (a, b) := scaled n d e
    let m := roundDiv a b
    let (m, e) := if m = Nat.pow 2 53 then (Nat.pow 2 52, e + 1) else (m, e)
    if 971 < e then .infinite negative else .finite negative m e

def ofDecimal (negative : Bool) (digits : Nat) (power : Int) : Binary64 :=
  if digits = 0 then .finite negative 0 0
  else if power > 400 then .infinite negative
  else if (Nat.log2 digits : Int) + 3 * power < -1100 ∧ power < 0 then .finite negative 0 0
  else if 0 ≤ power then ofRatio negative (digits * Nat.pow 10 power.toNat) 1
  else ofRatio negative digits (Nat.pow 10 (-power).toNat)

def ofInt? (n : Int) : Option Binary64 :=
  match ofRatio (n < 0) n.natAbs 1 with
  | .infinite _ => none
  | x => some x

def ratio? : Binary64 → Option (Bool × Nat × Nat)
  | .finite s m e =>
    if 0 ≤ e then some (s, m * Nat.pow 2 e.toNat, 1) else some (s, m, Nat.pow 2 (-e).toNat)
  | _ => none

def toInt? (x : Binary64) : Option Int :=
  match x.ratio? with
  | some (s, n, d) => if n % d = 0 then some (if s then -(n / d : Nat) else (n / d : Nat)) else none
  | none => none

def truncate? (x : Binary64) : Option Int :=
  match x.ratio? with
  | some (s, n, d) => some (if s then -(n / d : Nat) else (n / d : Nat))
  | none => none

/-- Strict order of numbers; nothing compares with `nan`, and both zeros are equal. -/
def lt (x y : Binary64) : Bool :=
  match x, y with
  | .nan, _ | _, .nan => false
  | .infinite s, .infinite t => s && !t
  | .infinite s, _ => s
  | _, .infinite t => !t
  | .finite s m e, .finite t n f =>
    let low := min e f
    let a : Int := (m * Nat.pow 2 (e - low).toNat : Nat)
    let b : Int := (n * Nat.pow 2 (f - low).toNat : Nat)
    (if s then -a else a) < (if t then -b else b)

def least (x y : Binary64) : Binary64 := if lt y x then y else x

def greatest (x y : Binary64) : Binary64 := if lt x y then y else x

def isNegative (x : Binary64) : Bool := lt x (.finite false 0 0)

theorem greatest_eq_or (x y : Binary64) : greatest x y = x ∨ greatest x y = y := by
  unfold greatest; split <;> simp

end Binary64

end KarelLab
