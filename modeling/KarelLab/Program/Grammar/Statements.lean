import KarelLab.Program.Grammar.Patterns

namespace KarelLab.Program.Grammar

open Grammar.Parser

variable (call : Caller)

def missingBlock (k : Construct) (line : Nat) : Parser Unit := do
  let _ ← newline
  absent indent
  refuse (.noBlockAfter k line) <| ← lastLine
where
  lastLine : Parser Nat := fun st m =>
    match st.lexed.tokens[m.reached - 1]? with
    | some t => .match t.line m
    | none => .match 1 m

def missingColon : Parser Unit := do
  let _ ← newline
  refuseHere (.expected ":")

def block : Parser (List Stmt) := choice [
  do
    let _ ← newline
    let _ ← indent
    let ss ← call.stmts .statements
    let _ ← dedent
    return ss,
  call.stmts .simpleStatements,
  mistake (choice [do
    let _ ← newline
    absent indent
    refuseHere .noBlock])]

def augmentedMark : Parser Unit := nested (choice
  (["+=", "-=", "*=", "@=", "/=", "%=", "&=", "|=", "^=", "<<=", ">>=", "**=", "//="].map
    fun s => do let _ ← lit s))

def assignedValue : Parser Unit := nested (choice [
  do let _ ← yieldExpr call,
  do let _ ← starExpressions call])

def invalidAnnotationTarget : Parser Expr := choice [
  nested do
    let l ← line
    let _ ← lit "["
    let _ ← optional (starNamedExpressions call)
    let _ ← lit "]"
    return .other l .list [],
  tupleDisplay call,
  do
    let _ ← lit "("
    let e ← call.expr .invalidAnnotationTarget
    let _ ← lit ")"
    return e]

def invalidAssignment : Parser Unit :=
  let targets := many (nested do let _ ← starTargets call; lit "=")
  choice [
    do
      let e ← call.expr .invalidAnnotationTarget
      let _ ← lit ":"
      call.skip .expression
      refuse (.singleTargetOnly e.kindName) e.line,
    do
      let e ← starNamedExpression call
      let _ ← lit ","
      let _ ← many (starNamedExpressions call)
      let _ ← lit ":"
      call.skip .expression
      refuse (.singleTargetOnly "tuple") e.line,
    do
      let e ← call.expr .expression
      let _ ← lit ":"
      call.skip .expression
      refuse .cannotAnnotate e.line,
    do
      let _ ← targets
      let e ← starExpressions call
      let _ ← lit "="
      refuseTarget .assignment e,
    do
      let _ ← targets
      let e ← yieldExpr call
      let _ ← lit "="
      refuse .assignToYield e.line,
    do
      let e ← starExpressions call
      augmentedMark
      assignedValue call
      refuse (.illegalAugmented e.kindName) e.line]

def assignment : Parser Stmt := nested do
  let l ← line
  let annotated : Parser Stmt := do
    let _ ← lit ":"
    call.skip .expression
    let _ ← optional (nested do let _ ← lit "="; assignedValue call)
    return .other l .annotatedAssign []
  choice [
    do let _ ← name; annotated,
    do
      nested (choice [
        do let _ ← lit "("; call.skip .singleTarget; let _ ← lit ")",
        do let _ ← singleMemberTarget call])
      annotated,
    do
      let _ ← atLeastOne (nested do let _ ← starTargets call; lit "=")
      nested (choice [do let _ ← yieldExpr call, do let _ ← starExpressions call])
      absent (lit "=")
      return .other l .assign [],
    do
      call.skip .singleTarget
      augmentedMark
      commit do
        assignedValue call
        return .other l .augmentedAssign [],
    mistake (invalidAssignment call)]

def dottedName : Parser Unit := choice [
  do call.skip .dottedName; let _ ← lit "."; let _ ← name,
  do let _ ← name]

def importedNames : Parser Unit := nested do
  let _ ← separated (nested do
    let _ ← name
    optional (nested do let _ ← lit "as"; name)) (lit ",")

def importStatement : Parser Stmt := nested do
  let l ← line
  let targets := nested (choice [
    do
      let _ ← lit "("
      importedNames
      let _ ← optional (lit ",")
      let _ ← lit ")",
    do importedNames; absent (lit ","),
    do let _ ← lit "*",
    mistake (choice [do
      importedNames
      let _ ← lit ","
      let _ ← newline
      refuseHere .trailingImportComma])])
  let dots := nested (choice [lit ".", lit "..."])
  choice [
    nested do
      let _ ← lit "import"
      let _ ← separated (nested do
        call.skip .dottedName
        optional (nested do let _ ← lit "as"; name)) (lit ",")
      return .other l .import [],
    nested (choice [
      do
        let _ ← lit "from"
        let _ ← many dots
        call.skip .dottedName
        let _ ← lit "import"
        targets
        return .other l .importFrom [],
      do
        let _ ← lit "from"
        let _ ← atLeastOne dots
        let _ ← lit "import"
        targets
        return .other l .importFrom []])]

def deletion : Parser Stmt := nested do
  let l ← line
  choice [
    do
      let _ ← lit "del"
      deleteTargets call
      ahead (nested (choice [do let _ ← lit ";", do let _ ← newline]))
      return .other l .delete [],
    mistake (choice [do
      let _ ← lit "del"
      let e ← starExpressions call
      refuseTarget .deletion e])]

def simpleStatement : Parser Stmt := do
  let l ← line
  let names (s : String) (form : StmtForm) : Parser Stmt := do
    ahead (lit s)
    nested do
      let _ ← lit s
      let _ ← separated name (lit ",")
      return .other l form []
  choice [
    assignment call,
    do return .expr l (← starExpressions call),
    do
      ahead (lit "return")
      nested do
        let _ ← lit "return"
        return .giveBack l (← optional (starExpressions call)),
    do
      ahead (nested (choice [lit "import", lit "from"]))
      importStatement call,
    do
      ahead (lit "raise")
      nested do
        let _ ← lit "raise"
        let _ ← optional do
          call.skip .expression
          optional (nested do let _ ← lit "from"; call.skip .expression)
        return .other l .raise [],
    do let _ ← lit "pass"; return .pass l,
    do ahead (lit "del"); deletion call,
    do ahead (lit "yield"); return .expr l (← yieldExpr call),
    do
      ahead (lit "assert")
      nested do
        let _ ← lit "assert"
        call.skip .expression
        let _ ← optional (nested do let _ ← lit ","; call.skip .expression)
        return .other l .assert [],
    do let _ ← lit "break"; return .breakLoop l,
    do let _ ← lit "continue"; return .continueLoop l,
    names "global" .global,
    names "nonlocal" .nonlocal]

def simpleStatements : Parser (List Stmt) := choice [
  do
    let ss ← call.stmts .simpleStatement
    absent (lit ";")
    let _ ← newline
    return ss,
  do
    let sss ← separated (call.stmts .simpleStatement) (lit ";")
    let _ ← optional (lit ";")
    let _ ← newline
    return sss.flatten]

/-- The part of a function definition from `def` on; `decorator` is the line of the first one. -/
def functionDefinition (decorator : Option Nat) : Parser Stmt := nested do
  let l ← line
  let result := optional (nested do let _ ← lit "->"; call.skip .expression)
  choice [
    mistake (choice [do
      let _ ← optional (lit "async")
      let t ← lit "def"
      let _ ← name
      let _ ← lit "("
      let _ ← optional (parameters call .function)
      let _ ← lit ")"
      let _ ← result
      let _ ← lit ":"
      missingBlock .function t.line]),
    do
      let async ← given (lit "async")
      let _ ← lit "def"
      let t ← name
      let _ ← demand "("
      let parameters ← given (parameters call .function)
      let _ ← lit ")"
      let annotated ← result
      let _ ← demand ":"
      let body ← call.stmts .block
      if async then return .other l .asyncFunction body
      else return .define l (spelledName t) ⟨parameters, decorator, annotated.isSome⟩ body]

def classDefinition : Parser Stmt := nested do
  let l ← line
  let head : Parser Token := do
    let t ← lit "class"
    let _ ← name
    let _ ← optional (nested do
      let _ ← lit "("
      let _ ← optional (call.expr .arguments)
      lit ")")
    return t
  choice [
    mistake (choice [
      do let _ ← head; missingColon,
      do let t ← head; let _ ← lit ":"; missingBlock .classDefinition t.line]),
    do
      let _ ← head
      let _ ← lit ":"
      return .other l .classDefinition (← call.stmts .block)]

def decorators : Parser Nat := nested do
  let ls ← atLeastOne (nested do
    let _ ← lit "@"
    let e ← call.expr .namedExpression
    let _ ← newline
    return e.line)
  return ls.headD 1

def elseBlock : Parser (List Stmt) := nested (choice [
  mistake (choice [do
    let t ← lit "else"
    let _ ← lit ":"
    missingBlock .elses t.line]),
  do
    let _ ← lit "else"
    let _ ← demand ":"
    call.stmts .block])

def elsePart : Parser (List Stmt) := do
  return (← optional (elseBlock call)).getD []

def conditionalStatement (word : String) (k : Construct) : Parser Stmt := do
  let l ← line
  choice [
    mistake (choice [
      do let _ ← lit word; call.skip .namedExpression; missingColon,
      do
        let t ← lit word
        call.skip .namedExpression
        let _ ← lit ":"
        missingBlock k t.line]),
    do
      let _ ← lit word
      let test ← call.expr .namedExpression
      let _ ← lit ":"
      let body ← call.stmts .block
      return .branch l test body (← call.stmts .elifStatement),
    do
      let _ ← lit word
      let test ← call.expr .namedExpression
      let _ ← lit ":"
      let body ← call.stmts .block
      return .branch l test body (← elsePart call)]

def whileStatement : Parser Stmt := nested do
  let l ← line
  choice [
    mistake (choice [
      do let _ ← lit "while"; call.skip .namedExpression; missingColon,
      do
        let t ← lit "while"
        call.skip .namedExpression
        let _ ← lit ":"
        missingBlock .whiles t.line]),
    do
      let _ ← lit "while"
      let test ← call.expr .namedExpression
      let _ ← lit ":"
      let body ← call.stmts .block
      return .whileLoop l test body (← elsePart call)]

def forStatement : Parser Stmt := nested do
  let l ← line
  let head : Parser Token := do
    let _ ← optional (lit "async")
    let t ← lit "for"
    let _ ← starTargets call
    let _ ← lit "in"
    let _ ← starExpressions call
    return t
  choice [
    mistake (choice [
      do let _ ← head; missingColon,
      do let t ← head; let _ ← lit ":"; missingBlock .fors t.line]),
    do
      let async ← given (lit "async")
      let _ ← lit "for"
      let target ← starTargets call
      let _ ← lit "in"
      commit do
        let iterable ← starExpressions call
        let _ ← lit ":"
        let body ← call.stmts .block
        let orelse ← elsePart call
        if async then return .other l .asyncFor (body ++ orelse)
        else return .forLoop l target iterable body orelse,
    mistake (choice [do
      let _ ← optional (lit "async")
      let _ ← lit "for"
      let e ← starExpressions call
      refuseTarget .loop e])]

def withStatement : Parser Stmt := nested do
  let l ← line
  let target := optional (nested do let _ ← lit "as"; call.skip .starTarget)
  let plainHead : Parser Token := do
    let _ ← optional (lit "async")
    let t ← lit "with"
    let _ ← separated (nested do call.skip .expression; target) (lit ",")
    return t
  let bracketHead : Parser Token := do
    let _ ← optional (lit "async")
    let t ← lit "with"
    let _ ← lit "("
    let _ ← separated (nested do let _ ← expressions call; target) (lit ",")
    let _ ← optional (lit ",")
    let _ ← lit ")"
    return t
  let afterItem := ahead (nested (choice [lit ",", lit ")", lit ":"]))
  let item := nested (choice [
    do
      call.skip .expression
      let _ ← lit "as"
      call.skip .starTarget
      afterItem,
    mistake (choice [do
      call.skip .expression
      let _ ← lit "as"
      let e ← call.expr .expression
      afterItem
      refuseTarget .assignment e]),
    call.skip .expression])
  let body (async : Bool) : Parser Stmt := do
    let _ ← lit ":"
    return .other l (if async then .asyncWith else .withBlock) (← call.stmts .block)
  choice [
    mistake (choice [
      do let t ← plainHead; let _ ← lit ":"; missingBlock .withs t.line,
      do let t ← bracketHead; let _ ← lit ":"; missingBlock .withs t.line]),
    do
      let async ← given (lit "async")
      let _ ← lit "with"
      let _ ← lit "("
      let _ ← separated item (lit ",")
      let _ ← optional (lit ",")
      let _ ← lit ")"
      body async,
    do
      let async ← given (lit "async")
      let _ ← lit "with"
      let _ ← separated item (lit ",")
      body async,
    mistake (choice [
      do let _ ← plainHead; missingColon,
      do let _ ← bracketHead; missingColon])]

def invalidExcept : Parser Unit := choice [
  do
    let _ ← lit "except"
    let _ ← optional (lit "*")
    let e ← call.expr .expression
    let _ ← lit ","
    let _ ← expressions call
    let _ ← optional (nested do let _ ← lit "as"; name)
    let _ ← lit ":"
    refuse .unparenthesizedExceptions e.line,
  do
    let _ ← lit "except"
    let _ ← optional (lit "*")
    call.skip .expression
    let _ ← optional (nested do let _ ← lit "as"; name)
    missingColon,
  do let _ ← lit "except"; missingColon,
  do
    let _ ← lit "except"
    let _ ← lit "*"
    nested (choice [do let _ ← newline, do let _ ← lit ":"])
    refuseHere .exceptStarWithoutType]

def exceptBlock : Parser (List Stmt) :=
  let caught := do
    call.skip .expression
    let _ ← optional (nested do let _ ← lit "as"; name)
  choice [
    mistake (choice [
      do
        let t ← lit "except"
        caught
        let _ ← lit ":"
        missingBlock .excepts t.line,
      do
        let t ← lit "except"
        let _ ← lit ":"
        missingBlock .excepts t.line]),
    do let _ ← lit "except"; caught; let _ ← lit ":"; call.stmts .block,
    do let _ ← lit "except"; let _ ← lit ":"; call.stmts .block,
    mistake (invalidExcept call)]

def exceptStarBlock : Parser (List Stmt) :=
  let head : Parser Token := do
    let t ← lit "except"
    let _ ← lit "*"
    call.skip .expression
    let _ ← optional (nested do let _ ← lit "as"; name)
    let _ ← lit ":"
    return t
  choice [
    mistake (choice [do let t ← head; missingBlock .exceptStars t.line]),
    do let _ ← head; call.stmts .block,
    mistake (invalidExcept call)]

def finallyBlock : Parser (List Stmt) := nested (choice [
  mistake (choice [do
    let t ← lit "finally"
    let _ ← lit ":"
    missingBlock .finallys t.line]),
  do
    let _ ← lit "finally"
    let _ ← demand ":"
    call.stmts .block])

def tryStatement : Parser Stmt := nested do
  let l ← line
  let head : Parser (List Stmt) := do
    let _ ← lit "try"
    let _ ← demand ":"
    call.stmts .block
  let ending : Parser (List Stmt) := do
    let orelse ← elsePart call
    let final ← optional (finallyBlock call)
    return orelse ++ final.getD []
  let plain := call.stmts .exceptBlock
  let starred := call.stmts .exceptStarBlock
  choice [
    mistake (choice [
      do
        let t ← lit "try"
        let _ ← lit ":"
        missingBlock .trys t.line,
      do
        let _ ← lit "try"
        let _ ← lit ":"
        let _ ← call.stmts .block
        absent (nested (choice [lit "except", lit "finally"]))
        refuseHere .exceptOrFinally,
      do
        let _ ← lit "try"
        let _ ← lit ":"
        let _ ← many (call.stmts .block)
        nested (choice [
          nested do let _ ← atLeastOne plain; let _ ← starred,
          nested do let _ ← atLeastOne starred; let _ ← plain])
        let _ ← many (call.stmts .block)
        refuseHere .exceptAndExceptStar]),
    do
      let body ← head
      return .other l .tryBlock (body ++ (← finallyBlock call)),
    do
      let body ← head
      let handlers ← atLeastOne plain
      return .other l .tryBlock (body ++ handlers.flatten ++ (← ending)),
    do
      let body ← head
      let handlers ← atLeastOne starred
      return .other l .tryStar (body ++ handlers.flatten ++ (← ending))]

def caseBlock : Parser (List Stmt) :=
  let guard := nested do let _ ← lit "if"; call.skip .namedExpression
  let head : Parser Token := do
    let t ← word "case"
    casePatterns call
    let _ ← optional guard
    return t
  nested (choice [
    mistake (choice [
      do let _ ← head; missingColon,
      do let t ← head; let _ ← lit ":"; missingBlock .cases t.line]),
    do let _ ← head; let _ ← lit ":"; call.stmts .block])

def matchStatement : Parser Stmt := nested do
  let l ← line
  let subject := nested (choice [
    do
      let _ ← starNamedExpression call
      let _ ← lit ","
      let _ ← optional (starNamedExpressions call),
    call.skip .namedExpression])
  choice [
    do
      let _ ← word "match"
      subject
      let _ ← lit ":"
      let _ ← newline
      let _ ← indent
      let cases ← atLeastOne (caseBlock call)
      let _ ← dedent
      return .other l .matchBlock cases.flatten,
    mistake (choice [
      do let _ ← word "match"; subject; missingColon,
      do
        let t ← word "match"
        subject
        let _ ← lit ":"
        missingBlock .matchs t.line])]

def compoundStatement : Parser Stmt :=
  let either (ss : List String) := ahead (nested (choice (ss.map lit)))
  nested (choice [
    do
      either ["def", "@", "async"]
      nested (choice [
        do let l ← decorators call; functionDefinition call (some l),
        functionDefinition call none]),
    do ahead (lit "if"); nested (conditionalStatement call "if" .ifs),
    do
      either ["class", "@"]
      nested (choice [
        do let _ ← decorators call; classDefinition call,
        classDefinition call]),
    do either ["with", "async"]; withStatement call,
    do either ["for", "async"]; forStatement call,
    do ahead (lit "try"); tryStatement call,
    do ahead (lit "while"); whileStatement call,
    matchStatement call])

def statement : Parser (List Stmt) := choice [
  do return [← compoundStatement call],
  call.stmts .simpleStatements]

def statements : Parser (List Stmt) := do
  return (← atLeastOne (call.stmts .statement)).flatten

def file : Parser (List Stmt) := do
  let ss ← optional (call.stmts .statements)
  let _ ← token (·.kind == .finish)
  return ss.getD []

end KarelLab.Program.Grammar
