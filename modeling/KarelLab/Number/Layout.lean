import KarelLab.Number.Binary64

namespace KarelLab.Number

def padLeft (fill : Char) (n : Nat) (s : String) : String :=
  String.ofList (List.replicate (n - s.length) fill) ++ s

def withPoint (places : Nat) (units : Nat) : String :=
  if places = 0 then toString units
  else
    toString (units / Nat.pow 10 places) ++ "." ++
      padLeft '0' places (toString (units % Nat.pow 10 places))

def specialText (negative : Bool) : String := if negative then "-inf" else "inf"

def fixed (places : Nat) : Binary64 → String
  | .nan => "nan"
  | .infinite s => specialText s
  | .finite s m e =>
    let (n, d) := if 0 ≤ e then (m * Nat.pow 2 e.toNat, 1) else (m, Nat.pow 2 (-e).toNat)
    (if s then "-" else "") ++ withPoint places (Binary64.roundDiv (n * Nat.pow 10 places) d)

/-- The position of the first digit of `n / d`: the greatest `k` with `10 ^ k ≤ n / d`. -/
def leadingPower (n d : Nat) : Int :=
  if d ≤ n then ((toString (n / d)).length : Int) - 1
  else
    let k := (toString ((d + n - 1) / n - 1)).length
    if d ≤ n * Nat.pow 10 k then -(k : Int) else -(k : Int) - 1

def significant (count : Nat) (n d : Nat) : Nat × Int :=
  let k := leadingPower n d
  let shift : Int := count - 1 - k
  let units :=
    if 0 ≤ shift then Binary64.roundDiv (n * Nat.pow 10 shift.toNat) d
    else Binary64.roundDiv n (d * Nat.pow 10 (-shift).toNat)
  if units = Nat.pow 10 count then (Nat.pow 10 (count - 1), k + 1) else (units, k)

def dropTrailingZeros (s : String) : String :=
  if s.toList.contains '.' then
    let cs := s.toList.reverse.dropWhile (· == '0')
    String.ofList ((match cs with | '.' :: r => r | _ => cs).reverse)
  else s

def general : Binary64 → String
  | .nan => "nan"
  | .infinite s => specialText s
  | .finite s m e =>
    let sign := if s then "-" else ""
    if m = 0 then sign ++ "0"
    else
      let (n, d) := if 0 ≤ e then (m * Nat.pow 2 e.toNat, 1) else (m, Nat.pow 2 (-e).toNat)
      let (units, k) := significant 6 n d
      if k < -4 ∨ 6 ≤ k then
        let mark := if k < 0 then "e-" else "e+"
        sign ++ dropTrailingZeros (withPoint 5 units) ++ mark ++ padLeft '0' 2 (toString k.natAbs)
      else sign ++ dropTrailingZeros (if k ≤ 5 ∧ 0 ≤ k
        then withPoint (5 - k).toNat units else withPoint (5 + k.natAbs) units)

example : general (Binary64.ofDecimal false 1 (-2)) = "0.01" := by decide +kernel
example : general (Binary64.ofDecimal false 30 0) = "30" := by decide +kernel
example : general (Binary64.ofDecimal false 12345678 0) = "1.23457e+07" := by decide +kernel
example : general (Binary64.ofDecimal true 15 (-6)) = "-1.5e-05" := by decide +kernel
example : fixed 6 (Binary64.ofDecimal false 1 (-2)) = "0.010000" := by decide +kernel

end KarelLab.Number
