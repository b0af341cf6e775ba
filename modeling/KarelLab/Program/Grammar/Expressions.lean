import KarelLab.Program.Grammar.Targets
import KarelLab.Program.Grammar.Texts

namespace KarelLab.Program.Grammar

open Grammar.Parser

variable (call : Caller)

def commaList (one : Parser Expr) : Parser Expr := nested do
  let l ← line
  choice [
    do
      let first ← one
      let rest ← Parser.atLeastOne (nested do let _ ← lit ","; one)
      let _ ← optional (lit ",")
      return .other l .tuple (first :: rest),
    do
      let e ← one; let _ ← lit ","
      return .other l .tuple [e],
    one]

def starExpressions : Parser Expr := commaList (call.expr .starExpression)

def expressions : Parser Expr := commaList (call.expr .expression)

def starExpression : Parser Expr := do
  let l ← line
  choice [
    do
      let _ ← lit "*"
      return .other l .starred [← call.expr (.binary 0)],
    call.expr .expression]

def starNamedExpression : Parser Expr := nested do
  let l ← line
  choice [
    do
      let _ ← lit "*"
      return .other l .starred [← call.expr (.binary 0)],
    call.expr .namedExpression]

def starNamedExpressions : Parser (List Expr) := nested do
  let es ← separated (starNamedExpression call) (lit ",")
  let _ ← optional (lit ",")
  return es

def assignmentExpression : Parser Expr := nested (choice [do
  let l ← line
  let n ← nameExpr
  let _ ← lit ":="
  commit do return .other l .named [n, ← call.expr .expression]])

def unnamedExpression : Parser Expr := nested (choice [
  assignmentExpression call,
  do
    let e ← call.expr .expression
    absent (lit ":=")
    return e])

def namedExpression : Parser Expr := choice [
  assignmentExpression call,
  do diagnosing; call.skip .invalidNamedExpression; fail,
  do
    let e ← call.expr .expression
    absent (lit ":=")
    return e]

def yieldExpr : Parser Expr := nested do
  let l ← line
  choice [
    do
      let _ ← lit "yield"; let _ ← lit "from"
      return .other l .yieldFrom [← call.expr .expression],
    do
      let _ ← lit "yield"
      let _ ← optional (starExpressions call)
      return .other l .yield []]

def clauses : Parser Unit := nested do
  let clause : Parser Unit := nested (choice [
    do
      let _ ← optional (lit "async")
      let _ ← lit "for"
      let _ ← starTargets call
      let _ ← lit "in"
      commit do
        call.skip .disjunction
        let _ ← many (nested do let _ ← lit "if"; call.skip .disjunction),
    mistake (choice [do
      let _ ← optional (lit "async")
      let _ ← lit "for"
      let e ← starExpressions call
      refuseTarget .loop e])])
  let _ ← Parser.atLeastOne clause

def comprehension : Parser Unit := call.skip .comprehension

def invalidComprehension : Parser Unit :=
  let openAny := nested (choice [lit "[", lit "(", lit "\x7b"])
  let openList := nested (choice [lit "[", lit "\x7b"])
  choice [
    do
      let _ ← openAny
      let e ← starredExpression call
      comprehension call
      refuse .unpackingInComprehension e.line,
    do
      let _ ← openList
      let e ← starNamedExpression call
      let _ ← lit ","
      let _ ← starNamedExpressions call
      comprehension call
      refuse .parenthesesAroundTarget e.line,
    do
      let _ ← openList
      let e ← starNamedExpression call
      let _ ← lit ","
      comprehension call
      refuse .parenthesesAroundTarget e.line]

def generator : Parser Expr := do
  let l ← line
  choice [
    do
      let _ ← lit "("
      let _ ← unnamedExpression call
      comprehension call
      let _ ← lit ")"
      return .other l .generator [],
    mistake (invalidComprehension call)]

def listDisplay : Parser Expr := do
  let l ← line
  choice [
    nested do
      let _ ← lit "["
      let es ← optional (starNamedExpressions call)
      let _ ← lit "]"
      return .other l .list (es.getD []),
    nested (choice [
      do
        let _ ← lit "["
        call.skip .namedExpression
        comprehension call
        let _ ← lit "]"
        return .other l .listComp [],
      mistake (invalidComprehension call)])]

def tupleDisplay : Parser Expr := nested do
  let l ← line
  let _ ← lit "("
  let es ← optional (nested do
    let first ← starNamedExpression call
    let _ ← lit ","
    let rest ← optional (starNamedExpressions call)
    return first :: rest.getD [])
  let _ ← lit ")"
  return .other l .tuple (es.getD [])

def group : Parser Expr := nested (choice [
  do
    let _ ← lit "("
    let e ← nested (choice [yieldExpr call, call.expr .namedExpression])
    let _ ← lit ")"
    return e,
  mistake (choice [
    do
      let _ ← lit "("
      let e ← starredExpression call
      let _ ← lit ")"
      refuse .starredHere e.line,
    do
      let _ ← lit "("
      let star ← lit "**"
      call.skip .expression
      let _ ← lit ")"
      refuse .doubleStarredHere star.line])])

def keyValue : Parser Unit := nested do
  call.skip .expression
  let _ ← lit ":"
  call.skip .expression

def dictEntry : Parser Unit := nested (choice [
  do let _ ← lit "**"; call.skip (.binary 0),
  keyValue call])

def invalidValue : List (Parser Unit) := [
  do
    call.skip .expression
    let _ ← lit ":"
    let star ← lit "*"
    call.skip (.binary 0)
    refuse .starredDictValue star.line,
  do
    call.skip .expression
    let colon ← lit ":"
    ahead (nested (choice [lit "\x7d", lit ","]))
    refuse .dictValueExpected colon.line]

def invalidEntries : Parser Unit := nested (choice ([
  do
    let _ ← separated (dictEntry call) (lit ",")
    let _ ← lit ","
    nested (choice ([
      do
        let e ← call.expr .expression
        absent (lit ":")
        refuse .dictColonExpected e.line] ++ invalidValue call))] ++
  invalidValue call))

def braceDisplay : Parser Expr := do
  let l ← line
  let as (form : ExprForm) : Parser Expr := return .other l form []
  choice [
    nested (choice [
      do
        let _ ← lit "\x7b"
        let _ ← optional (nested do
          let _ ← separated (dictEntry call) (lit ",")
          optional (lit ","))
        let _ ← lit "\x7d"
        as .dict,
      do
        diagnosing
        let _ ← lit "\x7b"
        invalidEntries call
        let _ ← lit "\x7d"
        as .dict]),
    nested do
      let _ ← lit "\x7b"
      let _ ← starNamedExpressions call
      let _ ← lit "\x7d"
      as .set,
    nested (choice [
      do
        let _ ← lit "\x7b"
        keyValue call
        comprehension call
        let _ ← lit "\x7d"
        as .dictComp,
      mistake (choice [do
        let _ ← lit "\x7b"
        let star ← lit "**"
        call.skip (.binary 0)
        comprehension call
        let _ ← lit "\x7d"
        refuse .unpackingInDictComprehension star.line])]),
    nested (choice [
      do
        let _ ← lit "\x7b"
        call.skip .namedExpression
        comprehension call
        let _ ← lit "\x7d"
        as .setComp,
      mistake (invalidComprehension call)])]

def numberExpr : Parser Expr := do
  let t ← token (·.kind == .number)
  match numberValue t.text with
  | .ok v => return .literal t.line v
  | .error c => refuse c t.line

def texts : Parser Expr := do
  let ts ← Parser.atLeastOne (token (·.kind == .text))
  joinTexts ts

def constant (s : String) (v : Literal) : Parser Expr := do
  let t ← lit s
  return .literal t.line v

def atom : Parser Expr := choice [
  nameExpr,
  constant "True" (.bool true),
  constant "False" (.bool false),
  constant "None" .none,
  do ahead (token (·.kind == .text)); call.expr .texts,
  numberExpr,
  do
    ahead (lit "(")
    nested (choice [tupleDisplay call, group call, call.expr .generator]),
  do ahead (lit "["); nested (listDisplay call),
  do ahead (lit "\x7b"); nested (braceDisplay call),
  constant "..." .ellipsis]

def primary : Parser Expr := do
  let l ← line
  let self := call.expr .primary
  choice [
    do
      let e ← self; let _ ← lit "."; let _ ← name
      return .other l .member [e],
    do
      let e ← self
      let g ← call.expr .generator
      return .call l e [g] [],
    do
      let e ← self
      let _ ← lit "("
      let arguments ← optional (call.expr .arguments)
      let _ ← lit ")"
      match arguments with
      | some (.call _ _ args keywords) => return .call l e args keywords
      | _ => return .call l e [] [],
    do
      let e ← self; let _ ← lit "["; slices call; let _ ← lit "]"
      return .other l .subscript [e],
    call.expr .atom]

def awaitPrimary : Parser Expr := do
  let l ← line
  choice [
    do
      let _ ← lit "await"
      return .other l .await [← call.expr .primary],
    call.expr .primary]

def factor : Parser Expr := do
  let l ← line
  let signed (s : String) : Parser Expr := do
    let _ ← lit s
    return .other l .sign [← call.expr .factor]
  choice [
    signed "+", signed "-", signed "~",
    nested (choice [
      do
        let base ← call.expr .awaitPrimary
        let _ ← lit "**"
        return .other l .binary [base, ← call.expr .factor],
      call.expr .awaitPrimary])]

/-- The marks of the binary operators, from the loosest to the tightest. -/
def binaryMarks : List (List String) :=
  [["|"], ["^"], ["&"], ["<<", ">>"], ["+", "-"], ["*", "/", "//", "%", "@"]]

def binaryRule (level : Nat) : Rule := if level < binaryMarks.length then .binary level else .factor

def binary (level : Nat) : Parser Expr := do
  let l ← line
  let tighter := call.expr (binaryRule (level + 1))
  let step (mark : String) : Parser Expr := do
    let left ← call.expr (.binary level)
    let _ ← lit mark
    return .other l .binary [left, ← tighter]
  choice ((binaryMarks.getD level []).map step ++ [tighter])

def comparisonMark : Parser Bool :=
  let plain (s : String) : Parser Bool := do let _ ← lit s; return false
  choice [
    plain "==", plain "!=", plain "<=", plain "<", plain ">=", plain ">",
    do let _ ← lit "not"; let _ ← lit "in"; return false,
    do let _ ← lit "in"; return true,
    do let _ ← lit "is"; let _ ← lit "not"; return false,
    plain "is"]

def comparison : Parser Expr := nested do
  let l ← line
  choice [
    do
      let left ← call.expr (.binary 0)
      let pairs ← Parser.atLeastOne (nested (nested do
        let membership ← comparisonMark
        call.skip (.binary 0)
        return membership))
      return .other l (.comparison (pairs.headD false)) [left],
    call.expr (.binary 0)]

def inversion : Parser Expr := do
  let l ← line
  choice [
    do
      let _ ← lit "not"
      return .not l (← call.expr .inversion),
    comparison call]

def junction (op : Connective) (mark : String) (operand : Rule) : Parser Expr := do
  let l ← line
  choice [
    do
      let first ← call.expr operand
      let rest ← Parser.atLeastOne (nested do let _ ← lit mark; call.expr operand)
      return .junction l op (first :: rest),
    call.expr operand]

def wasStatement (e : Expr) : Bool :=
  match e with
  | .name _ id => id == "print" || id == "exec"
  | _ => false

def conditional : List (Parser Expr) := [
  do
    let l ← line
    call.skip .disjunction
    let _ ← lit "if"
    call.skip .disjunction
    let _ ← lit "else"
    call.skip .expression
    return .other l .conditional [],
  call.expr .disjunction]

def invalidExpression : Parser Unit := choice [
  do
    absent (nested (choice [
      do let _ ← name; let _ ← token (·.kind == .text),
      do let _ ← token fun t => t.kind == .name && softKeywords.contains t.text]))
    let a ← call.expr .disjunction
    let _ ← call.expr .bareExpression
    if wasStatement a || (← openBrackets) == 0 then giveUp
    else refuse .forgottenComma a.line,
  do
    let a ← call.expr .disjunction
    let _ ← lit "if"
    call.skip .disjunction
    absent (nested (choice [lit "else", lit ":"]))
    refuse .expectedElse a.line]

def callWithoutParentheses : Parser Unit := choice [do
  let a ← nameExpr
  absent (lit "(")
  let _ ← starExpressions call
  match a with
  | .name l id =>
    if wasStatement a then refuse (.missingParentheses id) l else giveUp
  | _ => giveUp]

def invalidNamedExpression : Parser Unit := choice [
  do
    let a ← call.expr .expression
    let _ ← lit ":="
    call.skip .expression
    refuse (.cannotNameWith a.kindName) a.line,
  do
    let a ← nameExpr
    let _ ← lit "="
    call.skip (.binary 0)
    absent (nested (choice [lit "=", lit ":="]))
    refuse .equalsForComparison a.line,
  do
    absent (nested (choice [
      do let _ ← nested do
          let _ ← lit "["
          let _ ← optional (starNamedExpressions call)
          lit "]",
      do let _ ← tupleDisplay call,
      call.skip .generator,
      do let _ ← lit "True",
      do let _ ← lit "None",
      do let _ ← lit "False"]))
    let a ← call.expr (.binary 0)
    let _ ← lit "="
    call.skip (.binary 0)
    absent (nested (choice [lit "=", lit ":="]))
    refuse (.cannotAssignHere a.kindName) a.line]

end KarelLab.Program.Grammar
