import KarelLab.Program.Token.Lexer
import KarelLab.Program.Tree
import Std.Data.TreeMap

/-!
# Parsing expression grammars

The grammar of programs is a parsing expression grammar: alternatives are tried in order, each
from the same place, and the first one that matches counts. Results of some rules are noted down,
which keeps the reading fast and lets rules begin with themselves. When a text has been found to
match no rule, it is read a second time with rules switched on that match mistakes and name them.
-/

namespace KarelLab.Program.Grammar

inductive Rule
  | file | statements | statement | simpleStatements | simpleStatement | block | elifStatement
  | exceptBlock | exceptStarBlock
  | expression | starExpression | namedExpression | disjunction | conjunction | inversion
  | binary (level : Nat)
  | factor | awaitPrimary | primary | atom | texts | arguments | comprehension | generator
  | bareExpression | invalidNamedExpression | invalidAnnotationTarget
  | starTarget | starOrAtomTarget | targetPrimary | singleTarget | deleteTarget
  | dottedName
  | pattern | closedPattern | starPattern | attributePattern | nameOrAttribute
  deriving Repr, DecidableEq, Inhabited

inductive Piece
  | nothing
  | expr (e : Expr)
  | stmts (ss : List Stmt)
  deriving Inhabited

/-- Why a rule gives nothing. A commitment that failed rules out the alternatives after it. A
mistake inside an expression of a formatted text is `settled`: its wording is complete. -/
inductive Stop
  | noMatch
  | committed
  | refused (e : SyntaxError)
  | settled (e : SyntaxError)
  | lexical (f : LexFault)
  | tooDeep
  deriving Inhabited

/-- The noted results by the places where the rules began; of two results of a rule the first in the
list counts. -/
abbrev Notes := Std.TreeMap Nat (List (Rule × Option Piece × Nat))

namespace Notes

def find? (notes : Notes) (r : Rule) (place : Nat) : Option (Option Piece × Nat) :=
  ((Std.TreeMap.getD notes place []).find? (·.1 = r)).map (·.2)

def add (notes : Notes) (r : Rule) (place : Nat) (result : Option Piece × Nat) : Notes :=
  Std.TreeMap.insert notes place ((r, result) :: Std.TreeMap.getD notes place [])

end Notes

structure Memory where
  place : Nat
  reached : Nat
  notes : Notes
  deriving Inhabited

/-- What stays the same while a text is read, but for the depth of nested rules. -/
structure Setting where
  lexed : Lexed
  diagnosing : Bool
  depth : Nat
  embedded : List Char → Nat → Except Stop Expr

inductive Outcome (α : Type)
  | match (a : α) (m : Memory)
  | stop (s : Stop) (m : Memory)

def Parser (α : Type) := Setting → Memory → Outcome α

def maxDepth : Nat := 6000

namespace Parser

variable {α β : Type}

instance : Monad Parser where
  pure a := fun _ m => .match a m
  bind p f := fun st m =>
    match p st m with
    | .match a m => f a st m
    | .stop s m => .stop s m

def halt (s : Stop) : Parser α := fun _ m => .stop s m

def fail : Parser α := halt .noMatch

def giveUp : Parser α := halt .committed

def refuse (cause : Cause) (line : Nat) : Parser α := halt (.refused ⟨cause, line⟩)

def refuseHere (cause : Cause) : Parser α := fun st m =>
  let line := match st.lexed.tokens[m.reached - 1]? with
    | some t => t.line
    | none => 1
  .stop (.refused ⟨cause, line⟩) m

def peek : Parser Token := fun st m =>
  match st.lexed.tokens[m.place]? with
  | some t => .match t { m with reached := max m.reached (m.place + 1) }
  | none =>
    match st.lexed.fault with
    | some f => .stop (.lexical f) { m with reached := m.place + 1 }
    | none => .stop .noMatch m

def token (p : Token → Bool) : Parser Token := fun st m =>
  match peek st m with
  | .match t m => if p t then .match t { m with place := m.place + 1 } else .stop .noMatch m
  | .stop s m => .stop s m

def lit (s : String) : Parser Token :=
  token fun t => (t.kind == .mark || t.kind == .keyword) && t.text == s

def name : Parser Token := token (·.kind == .name)

def word (s : String) : Parser Token := token fun t => t.kind == .name && t.text == s

def newline : Parser Token := token (·.kind == .newline)

def indent : Parser Token := token (·.kind == .indent)

def dedent : Parser Token := token (·.kind == .dedent)

def line : Parser Nat := do return (← peek).line

def nested (p : Parser α) : Parser α := fun st m =>
  if maxDepth ≤ st.depth then .stop .tooDeep m else p { st with depth := st.depth + 1 } m

def choice : List (Parser α) → Parser α
  | [] => fail
  | p :: ps => fun st m =>
    let start := m.place
    match p st m with
    | .stop .noMatch m => choice ps st { m with place := start }
    | .stop .committed m => .stop .noMatch { m with place := start }
    | r => r

/-- From here on no later alternative counts. -/
def commit (p : Parser α) : Parser α := fun st m =>
  match p st m with
  | .stop .noMatch m => .stop .committed m
  | r => r

def optional (p : Parser α) : Parser (Option α) :=
  choice [do return some (← p), return none]

def given (p : Parser α) : Parser Bool := do return (← optional p).isSome

def ahead (p : Parser α) : Parser Unit := fun st m =>
  let start := m.place
  match p st m with
  | .match _ m => .match () { m with place := start }
  | .stop .committed m => .stop .noMatch { m with place := start }
  | .stop s m => .stop s { m with place := start }

def absent (p : Parser α) : Parser Unit := fun st m =>
  let start := m.place
  match p st m with
  | .match _ m => .stop .noMatch { m with place := start }
  | .stop .noMatch m | .stop .committed m => .match () { m with place := start }
  | .stop s m => .stop s { m with place := start }

def repeated (p : Parser α) : Nat → List α → Parser (List α)
  | 0, done => pure done
  | n + 1, done => fun st m =>
    let start := m.place
    match p st m with
    | .match a m => repeated p n (a :: done) st m
    | .stop .noMatch m | .stop .committed m => .match done { m with place := start }
    | .stop s m => .stop s m

def many (p : Parser α) : Parser (List α) := nested fun st m =>
  match repeated p (st.lexed.tokens.size + 1) [] st m with
  | .match done m => .match done.reverse m
  | .stop s m => .stop s m

def atLeastOne (p : Parser α) : Parser (List α) := do
  match ← many p with
  | [] => fail
  | xs => return xs

def separated (p : Parser α) (separator : Parser β) : Parser (List α) := nested do
  let first ← p
  let rest ← many (nested do let _ ← separator; p)
  return first :: rest

def diagnosing : Parser Unit := fun st m =>
  if st.diagnosing then .match () m else .stop .noMatch m

/-- An alternative that names mistakes: it never matches. -/
def mistake (p : Parser Unit) : Parser α := do
  diagnosing
  nested p
  fail

def undiagnosed (p : Parser α) : Parser α := fun st m => p { st with diagnosing := false } m

def demand (s : String) : Parser Token := do
  match ← optional (lit s) with
  | some t => return t
  | none => refuse (.expected s) (← line)

def openBrackets : Parser Nat := fun st m =>
  match st.lexed.tokens[m.place - 1]? with
  | some t => .match t.depth m
  | none => .match 0 m

/-- Notes the outcome of a rule, and gives the noted one when there is one. -/
def noted (r : Rule) (p : Parser Piece) : Parser Piece := fun st m =>
  match m.notes.find? r m.place with
  | some (some piece, stop) => .match piece { m with place := stop }
  | some (none, stop) => .stop .noMatch { m with place := stop }
  | none =>
    let start := m.place
    match p st m with
    | .match piece m =>
      let stop := m.place
      .match piece { m with notes := m.notes.add r start (some piece, stop) }
    | .stop .noMatch m | .stop .committed m =>
      .stop .noMatch { m with
        place := start, notes := m.notes.add r start (none, start) }
    | .stop s m => .stop s m

/-- Grows the match of a rule that begins with itself, starting from the last one noted. -/
def grow (r : Rule) (p : Parser Piece) (start : Nat) : Nat → Option Piece → Nat → Parser Piece
  | 0, best, stop => fun _ m =>
    match best with
    | some piece => .match piece { m with place := stop }
    | none => .stop .noMatch { m with place := start }
  | n + 1, best, stop => fun st m =>
    match p st { m with place := start, notes := m.notes.add r start (best, stop) } with
    | .match piece m =>
      if stop < m.place then
        let stop := m.place
        grow r p start n (some piece) stop st m
      else
        match best with
        | some piece => .match piece { m with place := stop }
        | none => .stop .noMatch { m with place := start }
    | .stop .noMatch m | .stop .committed m =>
      match best with
      | some piece => .match piece { m with place := stop }
      | none => .stop .noMatch { m with place := start }
    | .stop s m => .stop s m

def leftRecursive (r : Rule) (p : Parser Piece) : Parser Piece := fun st m =>
  match m.notes.find? r m.place with
  | some (some piece, stop) => .match piece { m with place := stop }
  | some (none, stop) => .stop .noMatch { m with place := stop }
  | none =>
    let start := m.place
    grow r (nested p) start (st.lexed.tokens.size + 2) none start st m

end Parser

abbrev Caller := Rule → Parser Piece

namespace Caller

def expr (call : Caller) (r : Rule) : Parser Expr := do
  match ← call r with
  | .expr e => return e
  | _ => Parser.fail

def stmts (call : Caller) (r : Rule) : Parser (List Stmt) := do
  match ← call r with
  | .stmts ss => return ss
  | _ => Parser.fail

def skip (call : Caller) (r : Rule) : Parser Unit := do
  let _ ← call r

end Caller

end KarelLab.Program.Grammar
