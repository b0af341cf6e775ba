import KarelLab.Number.Reader
import KarelLab.Program.SyntaxError
import KarelLab.Program.Tree
import KarelLab.Text.Unicode.Name

namespace KarelLab.Program

open KarelLab.Number (isDigit)

def numberValue (text : String) : Except Cause Literal :=
  let cs := text.toList.filter (· ≠ '_')
  let value (radix : Nat) (ds : List Char) :=
    ds.foldl (fun n c => radix * n + (Text.Unicode.hexDigit? c).getD 0) 0
  match cs with
  | '0' :: 'x' :: ds | '0' :: 'X' :: ds => .ok (.int (value 16 ds))
  | '0' :: 'o' :: ds | '0' :: 'O' :: ds => .ok (.int (value 8 ds))
  | '0' :: 'b' :: ds | '0' :: 'B' :: ds => .ok (.int (value 2 ds))
  | _ =>
    if cs.any fun c => c == 'j' || c == 'J' then .ok .imaginary
    else if cs.all isDigit then
      if Number.maxDigits < cs.length then .error (.tooManyDigits cs.length)
      else .ok (.int (value 10 cs))
    else
      let mantissa := cs.takeWhile fun c => c != 'e' && c != 'E'
      .ok (.real (mantissa.all fun c => c == '0' || c == '.'))

structure TextToken where
  bytes : Bool
  raw : Bool
  formatted : Bool
  body : List Char
  deriving Repr, DecidableEq, Inhabited

namespace TextToken

def ofText (text : String) : TextToken :=
  let quote (c : Char) := c == '\'' || c == '"'
  let cs := text.toList
  let letters := Number.lower (cs.takeWhile (!quote ·))
  let quoted := cs.dropWhile (!quote ·)
  let size := match quoted with
    | a :: b :: c :: _ :: _ => if a = b ∧ b = c then 3 else 1
    | _ => 1
  { bytes := letters.contains 'b'
    raw := letters.contains 'r'
    formatted := letters.contains 'f'
    body := (quoted.drop size).take (quoted.length - 2 * size) }

end TextToken

def asUnits (c : Char) : List Char :=
  if 128 ≤ c.toNat then
    '\\' :: 'U' :: (List.range 8).map fun i => Nat.digitChar (c.toNat / Nat.pow 16 (7 - i) % 16)
  else [c]

/-- The characters of a text as the reader of escapes counts them: a character beyond ASCII is
written as an escape, and a backslash before one as an escape of its own. -/
def escapeUnits : List Char → List Char
  | [] => []
  | ['\\'] => '\\' :: "u005c".toList
  | '\\' :: d :: rest =>
    (if 128 ≤ d.toNat then '\\' :: "u005c".toList else ['\\']) ++ asUnits d ++ escapeUnits rest
  | c :: rest => asUnits c ++ escapeUnits rest

def hexRun : Nat → List Char → Nat → Nat → Nat × Nat × List Char
  | 0, cs, value, read => (value, read, cs)
  | _, [], value, read => (value, read, [])
  | n + 1, c :: rest, value, read =>
    match Text.Unicode.hexDigit? c with
    | some d => hexRun n rest (16 * value + d) (read + 1)
    | none => (value, read, c :: rest)

def octalRun : Nat → List Char → Nat → Nat × List Char
  | 0, cs, value => (value, cs)
  | _, [], value => (value, [])
  | n + 1, c :: rest, value =>
    if '0' ≤ c ∧ c ≤ '7' then octalRun n rest (8 * value + (c.toNat - 48)) else (value, c :: rest)

def simpleEscape? (c : Char) : Option Char :=
  match c with
  | '\\' => some '\\'
  | '\'' => some '\''
  | '"' => some '"'
  | 'a' => some (Char.ofNat 7)
  | 'b' => some (Char.ofNat 8)
  | 'f' => some (Char.ofNat 12)
  | 'n' => some '\n'
  | 'r' => some '\r'
  | 't' => some '\t'
  | 'v' => some (Char.ofNat 11)
  | _ => none

/-- Resolves the escapes of a text whose head stands at `position`; the number bounds the steps. -/
def resolveEscapes : Nat → Nat → List Char → List Char → Except Cause (List Char)
  | 0, _, _, done => .ok done.reverse
  | _, _, [], done => .ok done.reverse
  | n + 1, position, '\\' :: rest, done =>
    let hex (count : Nat) (digits : List Char) (reason : String) :=
      let (value, read, after) := hexRun count digits 0 0
      if read < count then .error (.badEscape position (position + 1 + read) reason)
      else if 0x10FFFF < value then
        .error (.badEscape position (position + 1 + read) "illegal Unicode character")
      else resolveEscapes n (position + 2 + count) after (Char.ofNat value :: done)
    match rest with
    | [] => .ok done.reverse
    | 'x' :: digits => hex 2 digits "truncated \\xXX escape"
    | 'u' :: digits => hex 4 digits "truncated \\uXXXX escape"
    | 'U' :: digits => hex 8 digits "truncated \\UXXXXXXXX escape"
    | 'N' :: after =>
      match after with
      | '\x7b' :: body =>
        let name := body.takeWhile (· ≠ '\x7d')
        match body.dropWhile (· ≠ '\x7d') with
        | [] => .error (.badEscape position (position + 2 + name.length)
            "malformed \\N character escape")
        | _ :: after =>
          if name.isEmpty then .error (.badEscape position (position + 2)
            "malformed \\N character escape")
          else
            match Text.Unicode.characterNamed? name with
            | some c => resolveEscapes n (position + 4 + name.length) after (c :: done)
            | none => .error (.badEscape position (position + 3 + name.length)
                "unknown Unicode character name")
      | _ => .error (.badEscape position (position + 1) "malformed \\N character escape")
    | '\n' :: after => resolveEscapes n (position + 2) after done
    | c :: after =>
      match simpleEscape? c with
      | some d => resolveEscapes n (position + 2) after (d :: done)
      | none =>
        if '0' ≤ c ∧ c ≤ '7' then
          let (value, after') := octalRun 3 rest 0
          resolveEscapes n (position + 1 + (rest.length - after'.length)) after'
            (Char.ofNat value :: done)
        else resolveEscapes n (position + 2) after (c :: '\\' :: done)
  | n + 1, position, c :: rest, done => resolveEscapes n (position + 1) rest (c :: done)

def textValue (raw : Bool) (body : List Char) : Except Cause String :=
  if raw || !body.contains '\\' then .ok (String.ofList body)
  else
    let units := escapeUnits body
    (resolveEscapes (units.length + 1) 0 units []).map String.ofList

def checkByteEscapes : Nat → Nat → List Char → Except Cause Unit
  | 0, _, _ => .ok ()
  | n + 1, position, '\\' :: 'x' :: rest =>
    let (_, read, after) := hexRun 2 rest 0 0
    if read < 2 then .error (.badByteEscape position) else checkByteEscapes n (position + 4) after
  | n + 1, position, '\\' :: _ :: rest => checkByteEscapes n (position + 2) rest
  | n + 1, position, _ :: rest => checkByteEscapes n (position + 1) rest
  | _, _, [] => .ok ()

def checkBytes (t : TextToken) : Except Cause Unit :=
  if t.body.any (128 ≤ ·.toNat) then .error .nonAsciiBytes
  else if t.raw then .ok ()
  else checkByteEscapes (t.body.length + 1) 0 t.body

example : (textValue false "a\\x41\\n".toList).toOption = some "aA\n" := by decide +kernel
example : (textValue false "\\u12".toList).toOption = none := by decide +kernel

end KarelLab.Program
