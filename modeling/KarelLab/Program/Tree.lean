/-!
# Syntax trees

The tree of a program. What the rules of a lesson can accept is kept in full; of every other
construct the tree keeps its form, its line and the parts that are looked at again.
-/

namespace KarelLab.Program

inductive Literal
  | int (n : Nat)
  | bool (b : Bool)
  | text (s : String)
  | bytes
  | real (zero : Bool)
  | imaginary
  | none
  | ellipsis
  deriving Repr, DecidableEq, Inhabited

/-- Expressions that no rule accepts. One that stands too deep to be looked at is `clipped`. -/
inductive ExprForm
  | binary | sign | lambda | conditional | dict | set | list | tuple | listComp | setComp
  | dictComp | generator | await | yield | yieldFrom | comparison (membership : Bool)
  | formatted | member | subscript | starred | slice | named | clipped
  deriving Repr, DecidableEq, Inhabited

inductive Connective
  | and | or
  deriving Repr, DecidableEq, Inhabited

/-- Expressions. The keywords of a call are the names given, with nothing for an unpacked one. -/
inductive Expr
  | name (line : Nat) (id : String)
  | literal (line : Nat) (value : Literal)
  | call (line : Nat) (function : Expr) (args : List Expr) (keywords : List (Option String))
  | junction (line : Nat) (op : Connective) (operands : List Expr)
  | not (line : Nat) (operand : Expr)
  | other (line : Nat) (form : ExprForm) (parts : List Expr)
  deriving Repr, Inhabited

inductive StmtForm
  | import | importFrom | classDefinition | assign | augmentedAssign | annotatedAssign
  | tryBlock | tryStar | raise | withBlock | asyncWith | asyncFunction | asyncFor | global
  | nonlocal | delete | assert | matchBlock | clipped
  deriving Repr, DecidableEq, Inhabited

/-- What a function definition may carry besides its name and body: whether it has parameters,
the line of its first decorator and whether it announces its result. -/
structure Signature where
  parameters : Bool
  decorator : Option Nat
  annotated : Bool
  deriving Repr, DecidableEq, Inhabited

inductive Stmt
  | expr (line : Nat) (value : Expr)
  | pass (line : Nat)
  | breakLoop (line : Nat)
  | continueLoop (line : Nat)
  | giveBack (line : Nat) (value : Option Expr)
  | define (line : Nat) (name : String) (signature : Signature) (body : List Stmt)
  | branch (line : Nat) (test : Expr) (body orelse : List Stmt)
  | whileLoop (line : Nat) (test : Expr) (body orelse : List Stmt)
  | forLoop (line : Nat) (target iterable : Expr) (body orelse : List Stmt)
  | other (line : Nat) (form : StmtForm) (inner : List Stmt)
  deriving Repr, Inhabited

abbrev Tree := List Stmt

namespace Expr

def line : Expr → Nat
  | name l _ | literal l _ | call l _ _ _ | junction l _ _ | not l _ | other l _ _ => l

def kindName : Expr → String
  | name _ _ => "name"
  | literal _ .none => "None"
  | literal _ (.bool true) => "True"
  | literal _ (.bool false) => "False"
  | literal _ .ellipsis => "ellipsis"
  | literal _ _ => "literal"
  | call _ _ _ _ => "function call"
  | junction _ _ _ | not _ _ => "expression"
  | other _ form _ =>
    match form with
    | .binary | .sign => "expression"
    | .lambda => "lambda"
    | .conditional => "conditional expression"
    | .dict => "dict literal"
    | .set => "set display"
    | .list => "list"
    | .tuple => "tuple"
    | .listComp => "list comprehension"
    | .setComp => "set comprehension"
    | .dictComp => "dict comprehension"
    | .generator => "generator expression"
    | .await => "await expression"
    | .yield | .yieldFrom => "yield expression"
    | .comparison _ => "comparison"
    | .formatted => "f-string expression"
    | .member => "attribute"
    | .subscript => "subscript"
    | .starred => "starred"
    | .slice => "slice"
    | .named => "named expression"
    | .clipped => "expression"

end Expr

namespace Stmt

def line : Stmt → Nat
  | expr l _ | pass l | breakLoop l | continueLoop l | giveBack l _ | define l _ _ _
  | branch l _ _ _ | whileLoop l _ _ _ | forLoop l _ _ _ _ | other l _ _ => l

end Stmt

mutual

def Stmt.functionNames : Stmt → List String
  | .define _ name _ body => name :: blockFunctionNames body
  | .branch _ _ body orelse => blockFunctionNames body ++ blockFunctionNames orelse
  | .whileLoop _ _ body orelse => blockFunctionNames body ++ blockFunctionNames orelse
  | .forLoop _ _ _ body orelse => blockFunctionNames body ++ blockFunctionNames orelse
  | .other _ _ inner => blockFunctionNames inner
  | _ => []

def blockFunctionNames : List Stmt → List String
  | [] => []
  | s :: rest => s.functionNames ++ blockFunctionNames rest

end

end KarelLab.Program
