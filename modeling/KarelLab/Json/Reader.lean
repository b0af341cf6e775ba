import KarelLab.Json.Basic
import KarelLab.Number.Reader
import KarelLab.Text.Unicode.Ranges

/-!
# Reading JSON

A reader of JSON texts. What cannot be read is reported by the text that was left when the reader
gave up, and `parse` turns that into the position of the first offending character.
-/

namespace KarelLab.Json

abbrev Read (α : Type) := Except (List Char) (α × List Char)

def isSpace (c : Char) : Bool := c == ' ' || c == '\t' || c == '\n' || c == '\r'

def skipSpace (cs : List Char) : List Char := cs.dropWhile isSpace

def fourHex? : List Char → Option (Nat × List Char)
  | a :: b :: c :: d :: rest =>
    match Text.Unicode.hexDigit? a, Text.Unicode.hexDigit? b, Text.Unicode.hexDigit? c,
      Text.Unicode.hexDigit? d with
    | some a, some b, some c, some d => some (((a * 16 + b) * 16 + c) * 16 + d, rest)
    | _, _, _, _ => none
  | _ => none

def shortEscape? (c : Char) : Option Char :=
  match c with
  | '"' => some '"'
  | '\\' => some '\\'
  | '/' => some '/'
  | 'b' => some (Char.ofNat 8)
  | 'f' => some (Char.ofNat 12)
  | 'n' => some '\n'
  | 'r' => some '\r'
  | 't' => some '\t'
  | _ => none

def lowHalf? (high : Nat) : List Char → Option (Nat × List Char)
  | '\\' :: 'u' :: rest =>
    match fourHex? rest with
    | some (low, rest) =>
      if 0xDC00 ≤ low ∧ low ≤ 0xDFFF then
        some (0x10000 + (high - 0xD800) * 0x400 + (low - 0xDC00), rest)
      else none
    | none => none
  | _ => none

def readString (opening : List Char) : Nat → List Char → List Char → Read String
  | 0, _, cs => .error cs
  | _, _, [] => .error opening
  | n + 1, done, c :: rest =>
    if c = '"' then .ok (String.ofList done.reverse, rest)
    else if c.toNat < 32 then .error (c :: rest)
    else if c ≠ '\\' then readString opening n (c :: done) rest
    else match rest with
      | [] => .error opening
      | 'u' :: hex =>
        match fourHex? hex with
        | none => .error rest
        | some (unit, rest) =>
          match if 0xD800 ≤ unit ∧ unit ≤ 0xDBFF then lowHalf? unit rest else none with
          | some (whole, rest) => readString opening n (Char.ofNat whole :: done) rest
          | none => readString opening n (Char.ofNat unit :: done) rest
      | e :: rest' =>
        match shortEscape? e with
        | some c => readString opening n (c :: done) rest'
        | none => .error (c :: rest)

def digits (cs : List Char) : List Char × List Char :=
  (cs.takeWhile Number.isDigit, cs.dropWhile Number.isDigit)

def fraction : List Char → List Char × List Char
  | '.' :: rest =>
    match digits rest with
    | ([], _) => ([], '.' :: rest)
    | (ds, after) => (ds, after)
  | cs => ([], cs)

def exponent? : List Char → Option (Int × List Char)
  | c :: rest =>
    if c = 'e' ∨ c = 'E' then
      let (negative, body) := Number.splitSign rest
      match digits body with
      | ([], _) => none
      | (ds, after) =>
        let n : Int := Number.digitsValue ds
        some (if negative then -n else n, after)
    else none
  | [] => none

def readNumber (cs : List Char) : Read Json :=
  let (negative, body) := match cs with
    | '-' :: rest => (true, rest)
    | _ => (false, cs)
  let (whole, rest) := match body with
    | '0' :: rest => (['0'], rest)
    | _ => digits body
  if whole.isEmpty then .error cs
  else
    let (frac, rest') := fraction rest
    match frac, exponent? rest' with
    | [], none =>
      let n : Int := Number.digitsValue whole
      .ok (.int (if negative then -n else n), rest')
    | frac, exp =>
      let (e, after) := exp.getD (0, rest')
      .ok (.real (Binary64.ofDecimal negative (Number.digitsValue (whole ++ frac))
        (e - frac.length)), after)

def readWord (word : List Char) (value : Json) (cs : List Char) : Read Json :=
  if word.isPrefixOf cs then .ok (value, cs.drop word.length) else .error cs

mutual

/-- Reads a value; the number bounds the nesting and the length of what is read. -/
def readValue : Nat → List Char → Read Json
  | 0, cs => .error cs
  | n + 1, cs =>
    match cs with
    | [] => .error []
    | '"' :: rest => (readString cs rest.length.succ [] rest).map fun (s, r) => (.string s, r)
    | '[' :: rest =>
      match skipSpace rest with
      | ']' :: after => .ok (.array [], after)
      | rest => (readItems n [] rest).map fun (xs, r) => (.array xs, r)
    | '\x7b' :: rest =>
      match skipSpace rest with
      | '\x7d' :: after => .ok (.object [], after)
      | rest => (readFields n [] rest).map fun (fs, r) => (.object fs, r)
    | 'n' :: _ => readWord "null".toList .null cs
    | 't' :: _ => readWord "true".toList (.bool true) cs
    | 'f' :: _ => readWord "false".toList (.bool false) cs
    | 'N' :: _ => readWord "NaN".toList (.real .nan) cs
    | 'I' :: _ => readWord "Infinity".toList (.real (.infinite false)) cs
    | '-' :: 'I' :: _ => readWord "-Infinity".toList (.real (.infinite true)) cs
    | _ => readNumber cs

/-- Reads the items of an array up to its end; the ones read so far are in reverse order. -/
def readItems : Nat → List Json → List Char → Read (List Json)
  | 0, _, cs => .error cs
  | n + 1, done, cs =>
    match readValue n cs with
    | .error e => .error e
    | .ok (x, rest) =>
      match skipSpace rest with
      | ']' :: after => .ok ((x :: done).reverse, after)
      | ',' :: after => readItems n (x :: done) (skipSpace after)
      | rest => .error rest

def readFields : Nat → List (String × Json) → List Char → Read (List (String × Json))
  | 0, _, cs => .error cs
  | n + 1, done, cs =>
    match cs with
    | '"' :: rest =>
      match readString cs rest.length.succ [] rest with
      | .error e => .error e
      | .ok (key, rest) =>
        match skipSpace rest with
        | ':' :: rest =>
          match readValue n (skipSpace rest) with
          | .error e => .error e
          | .ok (value, rest) =>
            match skipSpace rest with
            | '\x7d' :: after => .ok (setField key value done, after)
            | ',' :: after => readFields n (setField key value done) (skipSpace after)
            | rest => .error rest
        | rest => .error rest
    | _ => .error cs

end

/-- Reads a whole document. A text that is none gives the position where reading failed. -/
def parse (s : String) : Except Nat Json :=
  let cs := s.toList
  let position (rest : List Char) := cs.length - rest.length
  match readValue (cs.length + 1) (skipSpace cs) with
  | .error rest => .error (position rest)
  | .ok (value, rest) =>
    match skipSpace rest with
    | [] => .ok value
    | rest => .error (position rest)

end KarelLab.Json
