import KarelLab.Number.Binary64
import KarelLab.Text.Blank
import KarelLab.Text.Unicode.Digit

namespace KarelLab.Number

def maxDigits : Nat := 4300

def plainDigits (cs : List Char) : List Char :=
  cs.map fun c => match Text.Unicode.digitValue? c with
    | some d => Nat.digitChar d
    | none => c

def isDigit (c : Char) : Bool := '0' ≤ c && c ≤ '9'

def digitsValue (cs : List Char) : Nat :=
  cs.foldl (fun n c => 10 * n + (c.toNat - 48)) 0

def dropUnderscores? (cs : List Char) : Option (List Char) :=
  let rec go (prev : Char) : List Char → Option (List Char)
    | [] => if prev = '_' then none else some []
    | c :: rest =>
      if c = '_' then if isDigit prev then go c rest else none
      else if prev = '_' ∧ !isDigit c then none
      else (go c rest).map (c :: ·)
  go ' ' cs

def splitSign : List Char → Bool × List Char
  | '-' :: rest => (true, rest)
  | '+' :: rest => (false, rest)
  | cs => (false, cs)

inductive IntFault
  | malformed
  | tooLong (digits : Nat)
  deriving Repr, DecidableEq

def readInt (s : String) : Except IntFault Int :=
  let (negative, body) := splitSign (Text.trimBy Text.isWhiteSpace (plainDigits s.toList))
  match dropUnderscores? body with
  | none => .error .malformed
  | some digits =>
    if digits.isEmpty || !digits.all isDigit then .error .malformed
    else if maxDigits < digits.length then .error (.tooLong digits.length)
    else
      let n : Int := digitsValue digits
      .ok (if negative then -n else n)

def lower (cs : List Char) : List Char := cs.map Char.toLower

def readExponent? (cs : List Char) : Option Int :=
  let (negative, digits) := splitSign cs
  if digits.isEmpty || !digits.all isDigit then none
  else some (if negative then -(digitsValue digits) else digitsValue digits)

def readDecimal? (negative : Bool) (cs : List Char) : Option Binary64 :=
  let whole := cs.takeWhile isDigit
  let (fraction, rest) := match cs.dropWhile isDigit with
    | '.' :: r => (r.takeWhile isDigit, r.dropWhile isDigit)
    | r => ([], r)
  if whole.isEmpty && fraction.isEmpty then none
  else
    let value (e : Int) :=
      Binary64.ofDecimal negative (digitsValue (whole ++ fraction)) (e - fraction.length)
    match rest with
    | [] => some (value 0)
    | c :: r => if c = 'e' ∨ c = 'E' then (readExponent? r).map value else none

def readReal? (s : String) : Option Binary64 :=
  match dropUnderscores? (Text.trimBy Text.isWhiteSpace (plainDigits s.toList)) with
  | none => none
  | some cs =>
    let (negative, body) := splitSign cs
    let name := String.ofList (lower body)
    if name = "inf" ∨ name = "infinity" then some (.infinite negative)
    else if name = "nan" then some .nan
    else readDecimal? negative body

end KarelLab.Number
