import KarelLab.Program.Grammar.Rules

/-!
# Reading a program

`Tree.ofText` gives the tree of a program or says why there is none. A text that matches no rule
is read again with the rules that name mistakes; what stops the splitting into tokens counts more
than a mistake found by a rule.
-/

namespace KarelLab.Program

inductive Unreadable
  | error (e : SyntaxError)
  | tooDeep
  deriving Repr, DecidableEq, Inhabited

namespace Grammar

/-- How a reading ended that gave nothing. The rules of the text itself name an error of their
`own`; one that is `settled` keeps its wording also where the text is part of another one. -/
inductive Failure
  | own (e : SyntaxError)
  | settled (e : SyntaxError)
  | tooDeep
  deriving Inhabited

def Failure.ofFault (f : LexFault) : Failure :=
  if f.grave then .settled ⟨f.cause, f.line⟩ else .own ⟨f.cause, f.line⟩

/-- The failure in the rest of a text, behind the tokens that were looked at: a grave fault always
counts, and a bracket that stays open counts if it was opened on an earlier line. -/
def restFailure (lexed : Lexed) (reached : Nat) : Option Failure := do
  let fault ← lexed.fault
  if fault.grave then return .ofFault fault
  let (bracket, opened) ← fault.opening
  let last ← lexed.tokens[reached - 1]?
  if opened < last.line then return .own ⟨.neverClosed bracket, opened⟩
  none

def plainFailure (lexed : Lexed) (last : Token) (reached : Nat) : Failure :=
  let here := match lexed.tokens[reached - 1]? with
    | some t => t.line
    | none => last.line
  match last.kind with
  | .indent => .own ⟨.unexpectedIndent, here⟩
  | .dedent => .own ⟨.unexpectedDedent, here⟩
  | _ => (restFailure lexed reached).getD (.own ⟨.invalid, last.line⟩)

def Stop.failure? (lexed : Lexed) (reached : Nat) : Stop → Option Failure
  | .refused e => some ((restFailure lexed reached).getD (.own e))
  | .settled e => some ((restFailure lexed reached).getD (.settled e))
  | .lexical f => some (.ofFault f)
  | .tooDeep => some .tooDeep
  | .noMatch | .committed => none

/-- Reads tokens by a rule; a text that does not match is read a second time for its mistakes. -/
def readTokens {α : Type} (embedded : List Char → Nat → Except Stop Expr) (rule : Parser α)
    (lexed : Lexed) : Except Failure α :=
  let setting (diagnosing : Bool) : Setting := ⟨lexed, diagnosing, 0, embedded⟩
  match rule (setting false) ⟨0, 0, {}⟩ with
  | .match a _ => .ok a
  | .stop s m =>
    match s.failure? lexed m.reached with
    | some failure => .error failure
    | none =>
      let last := lexed.tokens[m.reached - 1]?.getD default
      match rule (setting true) ⟨0, m.reached, {}⟩ with
      | .stop s m => .error ((s.failure? lexed m.reached).getD (plainFailure lexed last m.reached))
      | .match _ m => .error (plainFailure lexed last m.reached)

def rules : Caller := Rule.read maxDepth

def maxEmbedding : Nat := 6

def readEmbeddedText : Nat → List Char → Nat → Except Stop Expr
  | 0, _, _ => .error .tooDeep
  | n + 1, cs, line =>
    match readTokens (readEmbeddedText n) (starExpressions rules)
        (Lexed.ofChars (cs ++ ['\n']) line) with
    | .ok e => .ok e
    | .error (.own e) => .error (.settled ⟨.inFormatted e.cause, e.line⟩)
    | .error (.settled e) => .error (.settled e)
    | .error .tooDeep => .error .tooDeep

end Grammar

namespace Tree

def ofText (text : String) : Except Unreadable Tree :=
  if text.toList.contains '\x00' then .error (.error ⟨.nullCharacter, 1⟩)
  else
    match Grammar.readTokens (Grammar.readEmbeddedText Grammar.maxEmbedding)
        (Grammar.rules.stmts .file) (Lexed.ofText text) with
    | .ok tree => .ok tree
    | .error (.own e) | .error (.settled e) => .error (.error e)
    | .error .tooDeep => .error .tooDeep

end Tree

end KarelLab.Program
