import KarelLab.Program.Restrictions
import KarelLab.Program.Tree
import KarelLab.Report

namespace KarelLab.Program

inductive Family
  | importing | classes | assignment | collection | subscript | lambda | exception | contexts
  | asynchronous | scope | yielding | deletion | memberAccess
  | kind (name : String)
  deriving Repr, DecidableEq, Inhabited

inductive Objection
  | construct (family : Family)
  | feature (f : Feature)
  | parameters (function : String)
  | decorator
  | announcedResult
  | shadowing (function : String)
  | duplicate (function : String)
  | returnOutside
  | returnValue
  | loopElse
  | forTarget
  | forIterable
  | breakOutside
  | continueOutside
  | notSimpleCall
  | keywordArguments (function : String)
  | countingOutside
  | countingArguments
  | command (name : String)
  | unknownFunction (name : String)
  | arguments (function : String)
  | operator
  | bareName (name : String) (callable : Bool)
  | ellipsis
  | literal
  | nesting
  deriving Repr, DecidableEq, Inhabited

namespace Family

def rule : Family → String
  | importing => "import"
  | classes => "class"
  | assignment => "assignment"
  | collection => "collection"
  | subscript => "subscript"
  | lambda => "lambda"
  | exception => "exception"
  | contexts => "with"
  | asynchronous => "async"
  | scope => "scope"
  | yielding => "yield"
  | deletion => "delete"
  | memberAccess => "attribute"
  | kind _ => "unsupported"

def message : Family → String
  | importing => "Import statements are not allowed."
  | classes => "Class definitions are not allowed."
  | assignment => "Variable assignments are not allowed."
  | collection => "Lists, tuples, sets, dictionaries and comprehensions are not allowed."
  | subscript => "Indexing and slicing are not allowed."
  | lambda => "Lambda expressions are not allowed."
  | exception => "Exception handling is not allowed."
  | contexts => "'with' blocks are not allowed."
  | asynchronous => "Asynchronous code (async/await) is not allowed."
  | scope => "'global' and 'nonlocal' declarations are not allowed."
  | yielding => "'yield' is not allowed."
  | deletion => "'del' statements are not allowed."
  | memberAccess => "Attribute access (the '.' operator) is not allowed."
  | kind name => "'" ++ name ++ "' syntax is not allowed in Karel programs."

end Family

def ExprForm.objection : ExprForm → Objection
  | .binary => .construct (.kind "BinOp")
  | .sign => .operator
  | .lambda => .construct .lambda
  | .conditional => .construct (.kind "IfExp")
  | .dict | .set | .list | .tuple | .listComp | .setComp | .dictComp | .generator =>
    .construct .collection
  | .await => .construct .asynchronous
  | .yield | .yieldFrom => .construct .yielding
  | .comparison _ => .construct (.kind "Compare")
  | .formatted => .construct (.kind "JoinedStr")
  | .member => .construct .memberAccess
  | .subscript | .slice => .construct .subscript
  | .starred => .construct (.kind "Starred")
  | .named => .construct .assignment
  | .clipped => .nesting

def StmtForm.objection : StmtForm → Objection
  | .import | .importFrom => .construct .importing
  | .classDefinition => .construct .classes
  | .assign | .augmentedAssign | .annotatedAssign => .construct .assignment
  | .tryBlock | .tryStar | .raise => .construct .exception
  | .withBlock | .asyncWith => .construct .contexts
  | .asyncFunction | .asyncFor => .construct .asynchronous
  | .global | .nonlocal => .construct .scope
  | .delete => .construct .deletion
  | .assert => .construct (.kind "Assert")
  | .matchBlock => .construct (.kind "Match")
  | .clipped => .nesting

namespace Objection

def rule : Objection → String
  | construct family => family.rule
  | feature _ => "feature"
  | parameters _ => "parameters"
  | decorator => "decorator"
  | announcedResult => "annotation"
  | shadowing _ => "shadowing"
  | duplicate _ => "duplicate"
  | returnOutside | returnValue => "return"
  | loopElse => "loop_else"
  | forTarget | forIterable => "for"
  | breakOutside | continueOutside => "loop_control"
  | notSimpleCall | countingOutside | unknownFunction _ => "call"
  | keywordArguments _ | countingArguments | arguments _ => "arguments"
  | command _ => "command"
  | operator => "operator"
  | bareName _ _ => "name"
  | ellipsis | literal => "literal"
  | nesting => "nesting"

def message : Objection → String
  | construct family => family.message
  | feature f => f.label ++ " are not allowed in this exercise."
  | parameters f =>
    "Function '" ++ f ++ "' cannot have parameters; Karel functions take no arguments."
  | decorator => "Decorators are not allowed."
  | announcedResult => "Return annotations are not allowed."
  | shadowing f => "Function '" ++ f ++ "' would replace a built-in Karel command."
  | duplicate f => "Function '" ++ f ++ "' is defined more than once."
  | returnOutside => "'return' can only be used inside a function."
  | returnValue => "Functions cannot return a value; use a bare 'return'."
  | loopElse => "'else' clauses on loops are not allowed."
  | forTarget => "A for loop must use a single loop variable."
  | forIterable => "for loops may only repeat over range(...)."
  | breakOutside => "'break' can only be used inside a loop."
  | continueOutside => "'continue' can only be used inside a loop."
  | notSimpleCall => "Only simple function calls are allowed."
  | keywordArguments f => "'" ++ f ++ "()' does not accept keyword arguments."
  | countingOutside => "range() can only be used in a for loop header."
  | countingArguments => "range() takes one to three arguments."
  | command name => "'" ++ name ++ "()' is not available in this exercise."
  | unknownFunction name => "Function '" ++ name ++ "()' is not allowed."
  | arguments f => "'" ++ f ++ "()' takes no arguments."
  | operator => "Only the 'not' operator is allowed."
  | bareName name _ => "'" ++ name ++ "' cannot be used on its own here."
  | ellipsis => "'...' can only stand on a line of its own, like 'pass'."
  | literal => "Only whole numbers and True/False are allowed here."
  | nesting => "Program is nested too deeply."

def hint : Objection → Option String
  | parameters f => some ("Write: def " ++ f ++ "():")
  | shadowing _ => some "Pick a different name for your function."
  | forIterable => some "Write: for i in range(4):"
  | unknownFunction _ => some "Only Karel commands and functions you define can be called."
  | bareName name true => some ("Write: " ++ name ++ "()")
  | nesting => some "Move some of the inner blocks into functions of their own."
  | _ => none

end Objection

structure Violation where
  objection : Objection
  line : Nat
  deriving Repr, DecidableEq, Inhabited

namespace Violation

/-- The report on a violation. Too deep a nesting is told of the program as a whole. -/
def report (v : Violation) : Report where
  code := .validation
  message := v.objection.message
  line := some (if v.objection = .nesting then 1 else v.line)
  hint := v.objection.hint
  rule := some v.objection.rule

end Violation

end KarelLab.Program
