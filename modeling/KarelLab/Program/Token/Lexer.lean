import KarelLab.Program.SyntaxError
import KarelLab.Program.Token
import KarelLab.Program.Token.Number
import KarelLab.Text.Lines
import KarelLab.Text.Quoted
import KarelLab.Text.Unicode.Identifier

/-!
# From text to tokens

`Lexed.ofText` splits a program into its tokens. The beginning and the end of an indented block
are tokens too; inside brackets neither line ends nor indentation count. A text that cannot be
split any further ends with the fault that stopped it, behind the tokens before it.
-/

namespace KarelLab.Program

open KarelLab.Number (isDigit)

/-- What stopped the splitting of a text. A fault is `grave` when it is an error even if nobody
asks for the token at its place; `opening` is the innermost bracket that is open there. -/
structure LexFault where
  cause : Cause
  line : Nat
  grave : Bool
  opening : Option (Char × Nat)
  deriving Repr, DecidableEq, Inhabited

structure Lexed where
  tokens : Array Token
  fault : Option LexFault
  deriving Repr, Inhabited

/-- Where the splitting of a text stands. Indentation is kept as pairs of columns, for tabs of
eight places and of one place, the innermost first. -/
structure LexState where
  rest : List Char
  line : Nat
  indents : List (Nat × Nat)
  brackets : List (Char × Nat)
  tokens : Array Token
  deriving Inhabited

namespace LexState

def push (s : LexState) (kind : TokenKind) (text : String) (line : Nat) : LexState :=
  { s with tokens := s.tokens.push ⟨kind, text, line, s.brackets.length⟩ }

def stop (s : LexState) (grave : Bool) (cause : Cause) (line : Nat) : Lexed :=
  ⟨s.tokens, some ⟨cause, line, grave, s.brackets.head?⟩⟩

def currentLine (s : LexState) : Nat := if s.rest.isEmpty then s.line - 1 else s.line

end LexState

def closing (c : Char) : Char :=
  if c = '(' then ')' else if c = '[' then ']' else '\x7d'

/-- The columns reached by the blanks at the head of a line, with the text and line after them. A
backslash joins the next line, and the column of the first one counts for all. -/
def indentation : List Char → Nat → Nat → Nat → Nat →
    Except (Cause × Nat) (Nat × Nat × List Char × Nat)
  | [], line, col, alt, first =>
    .ok (if first = 0 then (col, alt, [], line) else (first, first, [], line))
  | c :: rest, line, col, alt, first =>
    if c = ' ' then indentation rest line (col + 1) (alt + 1) first
    else if c = '\t' then indentation rest line ((col / 8 + 1) * 8) (alt + 1) first
    else if c = '\x0c' then indentation rest line 0 0 first
    else if c = '\\' then
      match rest with
      | '\n' :: [] => .error (.unexpectedEnd, line)
      | '\n' :: rest => indentation rest (line + 1) col alt (if first = 0 then col else first)
      | _ => .error (.badContinuation, line)
    else .ok (if first = 0 then (col, alt, c :: rest, line) else (first, first, c :: rest, line))

def openBlocks (s : LexState) (col alt : Nat) : Except Cause LexState :=
  let line := s.currentLine
  match s.indents with
  | [] => .ok s
  | (top, topAlt) :: _ =>
    -- both ways to count a tab have to agree on which line stands further in
    if col = top then if alt = topAlt then .ok s else .error .mixedTabs
    else if top < col then
      if maxIndents ≤ s.indents.length then .error .tooManyLevels
      else if alt ≤ topAlt then .error .mixedTabs
      else .ok ({ s with indents := (col, alt) :: s.indents }.push .indent "" line)
    else
      let kept := s.indents.dropWhile fun i => col < i.1
      match kept with
      | [] => .error .badDedent
      | (under, underAlt) :: _ =>
        if under ≠ col then .error .badDedent
        else if underAlt ≠ alt then .error .mixedTabs
        else
          let closed := s.indents.length - kept.length
          .ok ((List.range closed).foldl (fun s _ => s.push .dedent "" line)
            { s with indents := kept })

def textPrefixes : List String := ["", "b", "r", "u", "f", "br", "rb", "fr", "rf"]

def endOfText (quote : Char) : List Char → List Char → Nat →
    Except Nat (List Char × List Char × Nat)
  | [], _, line => .error (line - 1)
  | c :: rest, seen, line =>
    if c = quote then .ok (c :: seen, rest, line)
    else if c = '\n' then .error line
    else if c = '\\' then
      match rest with
      | [] => .error (line - 1)
      | d :: rest => endOfText quote rest (d :: c :: seen) (if d = '\n' then line + 1 else line)
    else endOfText quote rest (c :: seen) line

def endOfBlockText (quote : Char) : List Char → List Char → Nat → Nat →
    Except Nat (List Char × List Char × Nat)
  | [], _, line, _ => .error (line - 1)
  | c :: rest, seen, line, run =>
    if c = quote then
      if run = 2 then .ok (c :: seen, rest, line)
      else endOfBlockText quote rest (c :: seen) line (run + 1)
    else if c = '\\' then
      match rest with
      | [] => .error (line - 1)
      | d :: rest => endOfBlockText quote rest (d :: c :: seen) (if d = '\n' then line + 1 else line) 0
    else endOfBlockText quote rest (c :: seen) (if c = '\n' then line + 1 else line) 0

def scanText (quote : Char) (cs seen : List Char) (line : Nat) :
    Except Cause (List Char × List Char × Nat) :=
  match cs with
  | a :: b :: c :: rest =>
    if b = quote ∧ c = quote then
      match endOfBlockText quote rest (c :: b :: a :: seen) line 0 with
      | .ok r => .ok r
      | .error n => .error (.unterminatedBlockText n)
    else
      match endOfText quote (b :: c :: rest) (a :: seen) line with
      | .ok r => .ok r
      | .error n => .error (.unterminatedText n)
  | a :: rest =>
    match endOfText quote rest (a :: seen) line with
    | .ok r => .ok r
    | .error n => .error (.unterminatedText n)
  | [] => .error (.unterminatedText line)

def checkName (cs : List Char) : Except Cause Unit :=
  if cs.all (·.toNat < 128) then .ok ()
  else
    let bad := match cs with
      | [] => none
      | c :: rest =>
        if !Text.Unicode.identifierStart.contains c then some c
        else rest.find? fun c => !Text.Unicode.identifierContinue.contains c
    match bad with
    | none => .ok ()
    | some c => .error (if Text.isPrintable c then .invalidCharacter c else .hiddenCharacter c)

def scanMark (cs : List Char) : String × List Char :=
  let three := String.ofList (cs.take 3)
  let two := String.ofList (cs.take 2)
  if longMarks.contains three then (three, cs.drop 3)
  else if shortMarks.contains two then (two, cs.drop 2)
  else (String.ofList (cs.take 1), cs.drop 1)

def afterMark (s : LexState) (c : Char) : Except Cause LexState :=
  if c = '(' ∨ c = '[' ∨ c = '\x7b' then
    if maxBrackets ≤ s.brackets.length then .error .tooManyBrackets
    else .ok { s with brackets := (c, s.line) :: s.brackets }
  else if c = ')' ∨ c = ']' ∨ c = '\x7d' then
    match s.brackets with
    | [] => .error (.unmatched c)
    | (o, line) :: rest =>
      if closing o = c then .ok { s with brackets := rest }
      else if line = s.line then .error (.mismatched c o)
      else .error (.mismatchedAcross c o line)
  else if Text.isPrintable c then .ok s
  else .error (.hiddenCharacter c)

def dropLine (cs : List Char) : List Char := cs.dropWhile (· ≠ '\n')

inductive LexStep
  | line (s : LexState)
  | inside (s : LexState)
  | done (r : Lexed)

def lineStep (s : LexState) : LexStep :=
  match indentation s.rest s.line 0 0 0 with
  | .error (.unexpectedEnd, line) =>
    match s.brackets with
    | [] => .done (s.stop false .unexpectedEnd line)
    | (o, opened) :: _ => .done (s.stop false (.neverClosed o) opened)
  | .error (cause, line) => .done (s.stop false cause line)
  | .ok (col, alt, rest, line) =>
    let s := { s with rest := rest, line := line }
    match rest with
    -- a line without code has no indentation
    | '\n' :: rest => .line { s with rest := rest, line := line + 1 }
    | '#' :: _ => .line { s with rest := (dropLine rest).drop 1, line := line + 1 }
    | _ =>
      if s.brackets.isEmpty then
        match openBlocks s col alt with
        | .ok s => .inside s
        | .error cause => .done (s.stop false cause s.currentLine)
      else .inside s

def wordStep (s : LexState) : LexStep :=
  let word := s.rest.takeWhile continuesName
  let rest := s.rest.dropWhile continuesName
  -- the word may be the prefix of a text that begins right behind it
  let isText := match rest with
    | c :: _ => (c == '\'' || c == '"') &&
        textPrefixes.contains (String.ofList (Number.lower word))
    | [] => false
  match isText, rest with
  | true, quote :: _ =>
    match scanText quote rest word.reverse s.line with
    | .error cause => .done (s.stop true cause s.line)
    | .ok (seen, rest, line) =>
      .inside { s.push .text (String.ofList seen.reverse) s.line with rest := rest, line := line }
  | _, _ =>
    match checkName word with
    | .error cause => .done (s.stop true cause s.line)
    | .ok _ =>
      let text := String.ofList word
      let kind := if keywords.contains text then .keyword else .name
      .inside { s.push kind text s.line with rest := rest }

def tokenStep (s : LexState) : LexStep :=
  let cs := s.rest.dropWhile fun c => c == ' ' || c == '\t' || c == '\x0c'
  let cs := match cs with
    | '#' :: _ => dropLine cs
    | _ => cs
  let s := { s with rest := cs }
  match cs with
  | [] =>
    match s.brackets with
    | [] => .done ⟨(s.push .finish "" s.currentLine).tokens, none⟩
    | (o, opened) :: _ => .done (s.stop false (.neverClosed o) opened)
  | c :: rest =>
    if c = '\n' then
      let after := { s with rest := rest, line := s.line + 1 }
      if s.brackets.isEmpty then .line (after.push .newline "" s.line) else .line after
    else if startsName c then wordStep s
    else if isDigit c || (c == '.' && match rest with | d :: _ => isDigit d | [] => false) then
      match scanNumber cs with
      | .error cause => .done (s.stop true cause s.line)
      | .ok cursor => .inside { s.push .number cursor.text s.line with rest := cursor.rest }
    else if c = '\'' ∨ c = '"' then wordStep s
    else if c = '\\' then
      match rest with
      | '\n' :: [] =>
        match s.brackets with
        | [] => .done (s.stop false .unexpectedEnd s.line)
        | (o, opened) :: _ => .done (s.stop false (.neverClosed o) opened)
      | '\n' :: rest => .inside { s with rest := rest, line := s.line + 1 }
      | _ => .done (s.stop false .badContinuation s.line)
    else
      let (mark, rest) := scanMark cs
      if mark.length = 1 then
        match afterMark s c with
        | .error cause => .done (s.stop true cause s.line)
        | .ok s => .inside { s.push .mark mark s.line with rest := rest }
      else .inside { s.push .mark mark s.line with rest := rest }

def lexFrom : Nat → Bool → LexState → Lexed
  | 0, _, s => s.stop false .unexpectedEnd s.line
  | n + 1, atLine, s =>
    match if atLine then lineStep s else tokenStep s with
    | .done r => r
    | .line s => lexFrom n true s
    | .inside s => lexFrom n false s

def plainText (text : String) : List Char :=
  let cs := Text.plainLines text.toList
  if cs.getLast? = some '\n' then cs else cs ++ ['\n']

namespace Lexed

def ofChars (cs : List Char) (line : Nat) : Lexed :=
  -- a step takes a character or passes from the head of a line into the line
  lexFrom (2 * cs.length + 4) true ⟨cs, line, [(0, 0)], [], #[]⟩

def ofText (text : String) : Lexed := ofChars (plainText text) 1

end Lexed

end KarelLab.Program
