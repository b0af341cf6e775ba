import KarelLab.Document.Issue
import KarelLab.Number.Reader

namespace KarelLab.Document

open Number (isDigit digitsValue)

/-- Drops the leading zeros of a number, an underscore among them too, but keeps a last one. A
number with a minus sign is left alone. -/
def dropZeros? : List Char → Option (List Char)
  | '0' :: rest =>
    let zero (c : Char) : Bool := c == '0' || c == '_'
    let last := (rest.takeWhile zero).getLastD '0'
    match rest.dropWhile zero with
    | [] => some [last]
    | '.' :: after => some (last :: '.' :: after)
    | c :: after => if isDigit c then some (c :: after) else none
  | c :: rest => if isDigit c || c == '-' then some (c :: rest) else none
  | [] => none

def dropFraction (cs : List Char) : List Char :=
  match cs.dropWhile (· ≠ '.') with
  | '.' :: fraction =>
    if fraction.isEmpty || !fraction.all (· == '0') then cs else cs.takeWhile (· ≠ '.')
  | _ => cs

def hasDoubleUnderscore : List Char → Bool
  | '_' :: '_' :: _ => true
  | _ :: rest => hasDoubleUnderscore rest
  | [] => false

def dropSingleUnderscores (cs : List Char) : List Char :=
  if cs.head? = some '_' ∨ cs.getLast? = some '_' ∨ hasDoubleUnderscore cs then cs
  else cs.filter (· ≠ '_')

def plainWhole? (cs : List Char) : Option Int :=
  let (negative, digits) := match cs with
    | '-' :: rest => (true, rest)
    | cs => (false, cs)
  match digits with
  | [] => none
  | ['0'] => some 0
  | '0' :: _ => none
  | digits =>
    if digits.all isDigit then
      some (if negative then -(digitsValue digits : Int) else digitsValue digits)
    else none

def wholeOfText (s : String) : Checked Int :=
  let cs := Text.trimBy Text.isWhiteSpace s.toList
  let unsigned := match cs with
    | '+' :: rest => if rest.head? = some '-' then [] else rest
    | cs => cs
  match (dropZeros? unsigned).bind fun cs => plainWhole? (dropSingleUnderscores (dropFraction cs)) with
  | some n => .ok n
  | none => .issue .unreadableWhole

/-- A number of the binary format as a whole one. Beyond 64 bits it is too large. -/
def wholeOfReal (x : Binary64) : Checked Int :=
  match x.ratio? with
  | none => .issue .notFinite
  | some _ =>
    match x.toInt? with
    | none => .issue .fractional
    | some n => if -Int.pow 2 63 < n ∧ n < Int.pow 2 63 then .ok n else .issue .tooLarge

def whole : Json → Checked Int
  | .int n => .ok n
  | .bool b => .ok (if b then 1 else 0)
  | .real x => wholeOfReal x
  | .string s => if Number.maxDigits < s.length then .issue .tooLarge else wholeOfText s
  | _ => .issue .notWhole

def wholeFrom (low : Int) (j : Json) : Checked Int := do
  let n ← whole j
  if n < low then .issue (.atLeast low) else .ok n

def wholeBetween (low high : Int) (j : Json) : Checked Int := do
  let n ← whole j
  if high < n then .issue (.atMost high) else if n < low then .issue (.atLeast low) else .ok n

end KarelLab.Document
