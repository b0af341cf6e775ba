import KarelLab.Program.Violation

namespace KarelLab.Program

/-- What is the same for all parts of a program: the restrictions and the names of the functions
that the program defines anywhere. -/
structure Rulebook where
  restrictions : Restrictions
  functions : List String
  deriving Repr, Inhabited

/-- Where a part of a program stands: within a loop or a function, in which loop variables'
bodies, and whether among the arguments of a loop's range. -/
structure Scope where
  inLoop : Bool := false
  inFunction : Bool := false
  counters : List String := []
  inRange : Bool := false
  deriving Repr, DecidableEq, Inhabited

def reject {α : Type} (o : Objection) (line : Nat) : Except Violation α := .error ⟨o, line⟩

def require (ok : Bool) (o : Objection) (line : Nat) : Except Violation Unit :=
  if ok then .ok () else reject o line

namespace Rulebook

variable (book : Rulebook)

def callable (name : String) : Bool :=
  book.restrictions.commandNames.contains name || book.functions.contains name

def checkCall (name : String) (args : List Expr) (line : Nat) : Except Violation Unit := do
  if Primitive.names.contains name then
    require (book.restrictions.commandNames.contains name) (.command name) line
  else
    require (book.functions.contains name) (.unknownFunction name) line
  require args.isEmpty (.arguments name) line

def checkExpr (scope : Scope) : Expr → Except Violation Unit
  | .name line id =>
    require (scope.inRange && scope.counters.contains id) (.bareName id (book.callable id)) line
  | .literal _ (.int _) | .literal _ (.bool _) => .ok ()
  | .literal line .ellipsis => reject .ellipsis line
  | .literal line _ => reject .literal line
  | .not _ operand => checkExpr scope operand
  | .junction _ _ operands => checkExprs operands
  | .other line form _ => reject form.objection line
  | .call line (.name _ id) args keywords => do
    require keywords.isEmpty (.keywordArguments id) line
    require (id != countingName) .countingOutside line
    book.checkCall id args line
  -- an objection within what is called comes before the one to the call
  | .call line function _ _ => do
    checkExpr scope function
    reject .notSimpleCall line
where
  checkExprs : List Expr → Except Violation Unit
    | [] => .ok ()
    | e :: rest => do checkExpr scope e; checkExprs rest

def checkRange (scope : Scope) (args : List Expr) (keywords : List (Option String)) (line : Nat) :
    Except Violation Unit := do
  require keywords.isEmpty (.keywordArguments countingName) line
  require (1 ≤ args.length && args.length ≤ 3) .countingArguments line
  args.forM (book.checkExpr { scope with inRange := true })

def checkSignature (name : String) (s : Signature) (defined : List String) (line : Nat) :
    Except Violation Unit := do
  require (book.restrictions.permits .functions) (.feature .functions) line
  require (!s.parameters) (.parameters name) line
  match s.decorator with
  | some l => reject .decorator l
  | none => pure ()
  require (!s.annotated) .announcedResult line
  require (!reservedNames.contains name) (.shadowing name) line
  require (!defined.contains name) (.duplicate name) line

def checkHeader (scope : Scope) (target iterable : Expr) (orelse : List Stmt) (line : Nat) :
    Except Violation String := do
  require (book.restrictions.permits .forLoops) (.feature .forLoops) line
  let .name _ counter := target | reject .forTarget line
  let .call callLine (.name _ function) args keywords := iterable | reject .forIterable line
  require (function == countingName) .forIterable line
  match orelse with
  | s :: _ => reject .loopElse s.line
  | [] => pure ()
  book.checkRange scope args keywords callLine
  return counter

/-- A statement, with the names of the functions defined before and after it. -/
def checkStmt (scope : Scope) : Stmt → List String → Except Violation (List String)
  | .expr _ (.literal _ (.text _)), defined | .expr _ (.literal _ .ellipsis), defined =>
    .ok defined
  | .expr _ e, defined => do book.checkExpr scope e; return defined
  | .pass _, defined => .ok defined
  | .breakLoop line, defined => do require scope.inLoop .breakOutside line; return defined
  | .continueLoop line, defined => do require scope.inLoop .continueOutside line; return defined
  | .giveBack line value, defined => do
    require scope.inFunction .returnOutside line
    require value.isNone .returnValue line
    return defined
  -- the body stands in no loop, but the counters of the loops around it stay in scope
  | .define line name signature body, defined => do
    book.checkSignature name signature defined line
    checkBlock { scope with inLoop := false, inFunction := true } body (name :: defined)
  -- a name defined in one branch counts as defined in the other one too
  | .branch line test body orelse, defined => do
    require (book.restrictions.permits .branches) (.feature .branches) line
    book.checkExpr scope test
    let defined ← checkBlock scope body defined
    checkBlock scope orelse defined
  | .whileLoop line test body orelse, defined => do
    require (book.restrictions.permits .whileLoops) (.feature .whileLoops) line
    match orelse with
    | s :: _ => reject .loopElse s.line
    | [] => pure ()
    book.checkExpr scope test
    checkBlock { scope with inLoop := true } body defined
  | .forLoop line target iterable body orelse, defined => do
    let counter ← book.checkHeader scope target iterable orelse line
    checkBlock { scope with inLoop := true, counters := counter :: scope.counters } body defined
  | .other line form _, _ => reject form.objection line
where
  checkBlock (scope : Scope) : List Stmt → List String → Except Violation (List String)
    | [], defined => .ok defined
    | s :: rest, defined => do
      let defined ← checkStmt scope s defined
      checkBlock scope rest defined

def check (tree : Tree) : Except Violation Unit := do
  let _ ← checkStmt.checkBlock book {} tree []

end Rulebook

def Tree.check (restrictions : Restrictions) (tree : Tree) : Except Violation Unit :=
  Rulebook.check ⟨restrictions, blockFunctionNames tree⟩ tree

end KarelLab.Program
