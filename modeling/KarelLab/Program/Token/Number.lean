import KarelLab.Number.Reader
import KarelLab.Program.SyntaxError
import KarelLab.Text.Unicode.Ranges

namespace KarelLab.Program

open KarelLab.Number (isDigit)

/-- The part of a text that was read, the last character first, and the part that follows. -/
structure Cursor where
  seen : List Char
  rest : List Char
  deriving Repr, DecidableEq, Inhabited

namespace Cursor

def text (c : Cursor) : String := String.ofList c.seen.reverse

def next (c : Cursor) : Cursor :=
  match c.rest with
  | [] => c
  | x :: xs => ⟨x :: c.seen, xs⟩

def ahead (c : Cursor) (p : Char → Bool) : Bool :=
  match c.rest with
  | [] => false
  | x :: _ => p x

end Cursor

/-- Whether a character can begin a name; every one beyond ASCII is checked later. -/
def startsName (c : Char) : Bool := c.isAlpha || c == '_' || 128 ≤ c.toNat

def continuesName (c : Char) : Bool := startsName c || isDigit c

def hasWord (word : String) (cs : List Char) : Bool :=
  word.toList.isPrefixOf cs && match cs.drop word.length with
    | [] => true
    | c :: _ => !continuesName c

def followsNumber (cs : List Char) : Bool :=
  hasWord "and" cs || hasWord "else" cs || hasWord "for" cs || hasWord "or" cs ||
    match cs with
    | 'i' :: c :: _ => c == 'f' || c == 'n' || c == 's'
    | _ => false

def endNumber (base : Base) (c : Cursor) : Except Cause Cursor :=
  if c.ahead continuesName && !followsNumber c.rest then .error (.invalidNumber base) else .ok c

def decimalTail : List Char → List Char → Except Cause Cursor
  | seen, [] => .ok ⟨seen, []⟩
  | seen, c :: rest =>
    if isDigit c then decimalTail (c :: seen) rest
    else if c = '_' then
      match rest with
      | d :: _ => if isDigit d then decimalTail (c :: seen) rest else .error (.invalidNumber .decimal)
      | [] => .error (.invalidNumber .decimal)
    else .ok ⟨seen, c :: rest⟩

def radixTail (base : Base) (valid : Char → Bool) : Bool → List Char → List Char →
    Except Cause Cursor
  | started, seen, c :: rest =>
    if valid c then radixTail base valid true (c :: seen) rest
    else if c = '_' then
      match rest with
      | d :: _ =>
        if valid d then radixTail base valid true (c :: seen) rest
        else if base != .hexadecimal && isDigit d then .error (.invalidDigit d base)
        else .error (.invalidNumber base)
      | [] => .error (.invalidNumber base)
    else if base != .hexadecimal && isDigit c then .error (.invalidDigit c base)
    else if started then endNumber base ⟨seen, c :: rest⟩
    else .error (.invalidNumber base)
  | started, seen, [] => if started then .ok ⟨seen, []⟩ else .error (.invalidNumber base)

def imaginaryPart (c : Cursor) : Except Cause Cursor :=
  if c.ahead (fun x => x == 'j' || x == 'J') then endNumber .imaginary c.next
  else endNumber .decimal c

def exponentPart (c : Cursor) : Except Cause Cursor :=
  if c.ahead (fun x => x == 'e' || x == 'E') then
    let e := c.next
    if e.ahead (fun x => x == '+' || x == '-') then
      if e.next.ahead isDigit then do imaginaryPart (← decimalTail e.next.seen e.next.rest)
      else .error (.invalidNumber .decimal)
    else if e.ahead isDigit then do imaginaryPart (← decimalTail e.seen e.rest)
    else endNumber .decimal c
  else imaginaryPart c

def fractionPart (c : Cursor) : Except Cause Cursor :=
  if c.ahead (· == '.') then
    let f := c.next
    if f.ahead isDigit then do exponentPart (← decimalTail f.seen f.rest)
    else exponentPart f
  else exponentPart c

def zerosTail : List Char → List Char → Except Cause Cursor
  | seen, '0' :: rest => zerosTail ('0' :: seen) rest
  | seen, '_' :: rest =>
    match rest with
    | d :: _ => if isDigit d then zerosTail ('_' :: seen) rest else .error (.invalidNumber .decimal)
    | [] => .error (.invalidNumber .decimal)
  | seen, rest => .ok ⟨seen, rest⟩

def afterZero (c : Cursor) : Except Cause Cursor := do
  let zeros ← zerosTail c.seen c.rest
  if zeros.ahead isDigit then
    let tail ← decimalTail zeros.seen zeros.rest
    if tail.ahead fun x => x == '.' || x == 'e' || x == 'E' || x == 'j' || x == 'J'
    then fractionPart tail
    else .error .leadingZeros
  else fractionPart zeros

def scanNumber (cs : List Char) : Except Cause Cursor :=
  match cs with
  | '0' :: x :: rest =>
    if x = 'x' ∨ x = 'X' then
      radixTail .hexadecimal (fun c => (Text.Unicode.hexDigit? c).isSome) false [x, '0'] rest
    else if x = 'o' ∨ x = 'O' then
      radixTail .octal (fun c => '0' ≤ c && c ≤ '7') false [x, '0'] rest
    else if x = 'b' ∨ x = 'B' then
      radixTail .binary (fun c => c == '0' || c == '1') false [x, '0'] rest
    else afterZero ⟨['0'], x :: rest⟩
  | '.' :: _ => fractionPart ⟨[], cs⟩
  | _ => do fractionPart (← decimalTail [] cs)

end KarelLab.Program
