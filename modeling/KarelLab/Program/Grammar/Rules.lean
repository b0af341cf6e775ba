import KarelLab.Program.Grammar.Statements

/-!
# The grammar

Every rule with its body. `read` ties the rules together: a rule refers to other ones through a
caller that reads at one level less, so the nesting of rules is bounded.
-/

namespace KarelLab.Program.Grammar

open Grammar.Parser

inductive Memorable
  | plain | noted | leftRecursive
  deriving Repr, DecidableEq, Inhabited

namespace Rule

def memorable : Rule → Memorable
  | simpleStatement | block | expression | starExpression | disjunction | conjunction | inversion
  | factor | awaitPrimary | texts | arguments | invalidNamedExpression | starTarget
  | starOrAtomTarget | deleteTarget | closedPattern | starPattern => .noted
  | binary _ | primary | targetPrimary | dottedName | attributePattern => .leftRecursive
  | _ => .plain

def giveExpr (p : Parser Expr) : Parser Piece := do return .expr (← p)

def giveStmts (p : Parser (List Stmt)) : Parser Piece := do return .stmts (← p)

def giveNothing (p : Parser Unit) : Parser Piece := do p; return .nothing

def body (call : Caller) : Rule → Parser Piece
  | file => giveStmts (Grammar.file call)
  | statements => giveStmts (Grammar.statements call)
  | statement => giveStmts (Grammar.statement call)
  | simpleStatements => giveStmts (Grammar.simpleStatements call)
  | simpleStatement => giveStmts do return [← Grammar.simpleStatement call]
  | block => giveStmts (Grammar.block call)
  | elifStatement => giveStmts do return [← conditionalStatement call "elif" .elifs]
  | exceptBlock => giveStmts (Grammar.exceptBlock call)
  | exceptStarBlock => giveStmts (Grammar.exceptStarBlock call)
  | expression => giveExpr (Grammar.expression call)
  | starExpression => giveExpr (Grammar.starExpression call)
  | namedExpression => giveExpr (Grammar.namedExpression call)
  | disjunction => giveExpr (junction call .or "or" .conjunction)
  | conjunction => giveExpr (junction call .and "and" .inversion)
  | inversion => giveExpr (Grammar.inversion call)
  | binary level => giveExpr (Grammar.binary call level)
  | factor => giveExpr (Grammar.factor call)
  | awaitPrimary => giveExpr (Grammar.awaitPrimary call)
  | primary => giveExpr (Grammar.primary call)
  | atom => giveExpr (Grammar.atom call)
  | texts => giveExpr Grammar.texts
  | arguments => giveExpr (Grammar.arguments call)
  | comprehension => giveNothing (clauses call)
  | generator => giveExpr (Grammar.generator call)
  | bareExpression => giveExpr (Grammar.bareExpression call)
  | invalidNamedExpression => giveNothing (Grammar.invalidNamedExpression call)
  | invalidAnnotationTarget => giveExpr (Grammar.invalidAnnotationTarget call)
  | starTarget => giveExpr (Grammar.starTarget call)
  | starOrAtomTarget => giveExpr (Grammar.starOrAtomTarget call)
  | targetPrimary => giveExpr (Grammar.targetPrimary call)
  | singleTarget => giveExpr (Grammar.singleTarget call)
  | deleteTarget => giveNothing (Grammar.deleteTarget call)
  | dottedName => giveNothing (Grammar.dottedName call)
  | pattern => giveNothing (Grammar.pattern call)
  | closedPattern => giveNothing (Grammar.closedPattern call)
  | starPattern => giveNothing Grammar.starPattern
  | attributePattern => giveNothing (Grammar.attributePattern call)
  | nameOrAttribute => giveNothing (Grammar.nameOrAttribute call)

def perform (r : Rule) (p : Parser Piece) : Parser Piece :=
  nested (match r.memorable with
    | .plain => p
    | .noted => noted r p
    | .leftRecursive => leftRecursive r p)

def read : Nat → Caller
  | 0, _ => halt .tooDeep
  | n + 1, r => r.perform (r.body (read n))

end Rule

end KarelLab.Program.Grammar
