import KarelLab.Program.Grammar.Expressions

namespace KarelLab.Program.Grammar

open Grammar.Parser

inductive ParameterStyle
  | function | lambda
  deriving Repr, DecidableEq, Inhabited

namespace ParameterStyle

def finish : ParameterStyle → String
  | function => ")"
  | lambda => ":"

end ParameterStyle

variable (call : Caller) (style : ParameterStyle)

def endParameter {α : Type} (p : Parser α) : Parser α := nested (choice [
  do let a ← p; let _ ← lit ","; return a,
  do let a ← p; ahead (lit style.finish); return a])

def parameter : Parser Nat := nested do
  let t ← name
  match style with
  | .function =>
    let _ ← optional (nested do let _ ← lit ":"; call.skip .expression)
    return t.line
  | .lambda => return t.line

def parameterDefault : Parser Unit := nested (choice [
  do let _ ← lit "="; call.skip .expression,
  mistake (choice [do
    let t ← lit "="
    ahead (nested (choice [lit ")", lit ","]))
    refuse .defaultExpected t.line])])

def plainParameter : Parser Nat := endParameter style (parameter call style)

def defaultParameter : Parser Nat :=
  endParameter style do let l ← parameter call style; parameterDefault call; return l

def anyParameter : Parser Nat :=
  endParameter style do
    let l ← parameter call style
    let _ ← optional (parameterDefault call)
    return l

def slashMark : Parser Unit := do
  let _ ← lit "/"
  choice [do let _ ← lit ",", ahead (lit style.finish)]

def plainBeforeSlash : Parser Unit := nested do
  let _ ← atLeastOne (plainParameter call style)
  slashMark style

def defaultsBeforeSlash : Parser Unit := nested do
  let _ ← many (plainParameter call style)
  let _ ← atLeastOne (defaultParameter call style)
  slashMark style

def collectNamed : Parser Unit := nested (choice [
  mistake (choice [
    do
      let _ ← lit "**"
      let _ ← parameter call style
      let t ← lit "="
      refuse .defaultForDoubleStar t.line,
    do
      let _ ← lit "**"
      let _ ← parameter call style
      let _ ← lit ","
      let l ← parameter call style
      refuse .afterDoubleStar l,
    do
      let _ ← lit "**"
      let _ ← parameter call style
      let _ ← lit ","
      let t ← nested (choice [lit "*", lit "**", lit "/"])
      refuse .afterDoubleStar t.line]),
  do
    let _ ← lit "**"
    let _ ← plainParameter call style])

def invalidStar : Parser Unit := choice [
  do
    let t ← lit "*"
    let _ ← nested (choice [
      lit style.finish,
      do let _ ← lit ","; nested (choice [lit style.finish, lit "**"])])
    match style with
    | .function => refuse .bareStar t.line
    | .lambda => refuseHere .bareStar,
  do
    let _ ← lit "*"
    let _ ← parameter call style
    let t ← lit "="
    refuse .defaultForStar t.line,
  do
    let plainOrComma := nested (choice [
      do let _ ← plainParameter call style,
      do let _ ← lit ","])
    let _ ← lit "*"
    plainOrComma
    let _ ← many (anyParameter call style)
    let t ← lit "*"
    plainOrComma
    refuse .secondStar t.line]

def afterStar : Parser Unit := nested (choice [
  mistake (invalidStar call style),
  do
    let _ ← lit "*"
    let _ ← plainParameter call style
    let _ ← many (anyParameter call style)
    let _ ← optional (collectNamed call style),
  do
    if style = .lambda then fail
    let _ ← lit "*"
    endParameter style do
      let _ ← name
      let _ ← lit ":"
      call.skip .starExpression
    let _ ← many (anyParameter call style)
    let _ ← optional (collectNamed call style),
  do
    let _ ← lit "*"
    let _ ← lit ","
    let _ ← atLeastOne (anyParameter call style)
    let _ ← optional (collectNamed call style),
  collectNamed call style])

def invalidParameters : Parser Unit :=
  let beforeSlash := nested (choice [plainBeforeSlash call style, defaultsBeforeSlash call style])
  choice [
    do
      let _ ← many (plainParameter call style)
      nested (choice [
        defaultsBeforeSlash call style,
        do let _ ← atLeastOne (defaultParameter call style)])
      let l ← plainParameter call style
      refuse .nonDefaultAfterDefault l,
    do
      let _ ← many (plainParameter call style)
      let t ← lit "("
      match style with
      | .function => do let _ ← atLeastOne (plainParameter call style)
      | .lambda => do let _ ← separated (parameter call style) (lit ",")
      let _ ← optional (lit ",")
      let _ ← lit ")"
      refuse (match style with
        | .function => .parenthesizedParameters
        | .lambda => .parenthesizedLambdaParameters) t.line,
    do
      let t ← lit "/"
      let _ ← lit ","
      refuse .nothingBeforeSlash t.line,
    do
      beforeSlash
      let _ ← many (anyParameter call style)
      let t ← lit "/"
      refuse .secondSlash t.line,
    do
      let _ ← optional beforeSlash
      let _ ← many (anyParameter call style)
      let _ ← lit "*"
      nested (choice [do let _ ← lit ",", do let _ ← plainParameter call style])
      let _ ← many (anyParameter call style)
      let t ← lit "/"
      refuse .slashAfterStar t.line,
    do
      let _ ← atLeastOne (anyParameter call style)
      let _ ← lit "/"
      let t ← lit "*"
      refuse .commaBetweenSlashAndStar t.line]

def parameters : Parser Unit :=
  let end_ := do let _ ← optional (afterStar call style)
  nested (choice [
    mistake (invalidParameters call style),
    nested (choice [
      do
        plainBeforeSlash call style
        let _ ← many (plainParameter call style)
        let _ ← many (defaultParameter call style)
        end_,
      do
        defaultsBeforeSlash call style
        let _ ← many (defaultParameter call style)
        end_,
      do
        let _ ← atLeastOne (plainParameter call style)
        let _ ← many (defaultParameter call style)
        end_,
      do
        let _ ← atLeastOne (defaultParameter call style)
        end_,
      afterStar call style])])

def lambda : Parser Expr := nested do
  let l ← line
  let _ ← lit "lambda"
  let _ ← optional (parameters call .lambda)
  let _ ← lit ":"
  call.skip .expression
  return .other l .lambda []

def expression : Parser Expr := choice ([
  mistake (invalidExpression call),
  mistake (callWithoutParentheses call)] ++ conditional call ++ [lambda call])

def bareExpression : Parser Expr := undiagnosed (choice (conditional call ++ [lambda call]))

/-- An argument: a value, or a keyword with its name or nothing for an unpacked one. -/
inductive Argument
  | positional (e : Expr)
  | keyword (name : Option String)

def invalidKeyword : Parser Unit := choice [
  do
    let t ← nested (choice [lit "True", lit "False", lit "None"])
    let _ ← lit "="
    refuse (.cannotAssign t.text) t.line,
  do
    let t ← name
    let _ ← lit "="
    call.skip .expression
    comprehension call
    refuse .equalsForComparison t.line,
  do
    absent (nested do let _ ← name; lit "=")
    let e ← call.expr .expression
    let _ ← lit "="
    refuse .assignmentInArgument e.line]

def keywordArgument (stars : String) : Parser Argument := nested (choice [
  mistake (invalidKeyword call),
  do
    let t ← name
    let _ ← lit "="
    call.skip .expression
    return .keyword (some (spelledName t)),
  if stars = "*" then do return .positional (← starredExpression call)
  else do
    let _ ← lit "**"
    call.skip .expression
    return .keyword none])

def keywordArguments : Parser (List Argument) := nested (choice [
  do
    let xs ← separated (keywordArgument call "*") (lit ",")
    let _ ← lit ","
    let ys ← separated (keywordArgument call "**") (lit ",")
    return xs ++ ys,
  separated (keywordArgument call "*") (lit ","),
  separated (keywordArgument call "**") (lit ",")])

def callOf (l : Nat) (arguments : List Argument) : Expr :=
  .call l (.name l "") (arguments.filterMap fun
    | .positional e => some e
    | .keyword _ => none) (arguments.filterMap fun
    | .positional _ => none
    | .keyword n => some n)

def argumentList : Parser Expr := nested do
  let l ← line
  choice [
    do
      let xs ← separated (nested (choice [
        starredExpression call,
        do
          let e ← unnamedExpression call
          absent (lit "=")
          return e])) (lit ",")
      let ys ← optional (nested do let _ ← lit ","; keywordArguments call)
      return callOf l (xs.map .positional ++ ys.getD []),
    do return callOf l (← keywordArguments call)]

def invalidArguments : Parser Unit := choice [
  do
    let a ← argumentList call
    let _ ← lit ","
    let _ ← lit "*"
    refuse .unpackingAfterKeyword a.line,
  do
    let e ← call.expr .expression
    comprehension call
    let _ ← lit ","
    let _ ← optional (nested (choice [
      do let _ ← argumentList call,
      do call.skip .expression; comprehension call]))
    refuse .unparenthesizedGenerator e.line,
  do
    let t ← name
    let _ ← lit "="
    call.skip .expression
    comprehension call
    refuse .equalsForComparison t.line,
  do
    let a ← argumentList call
    comprehension call
    match a with
    | .call _ _ (_ :: x :: rest) _ =>
      refuse .unparenthesizedGenerator ((x :: rest).getLast?.getD x).line
    | _ => giveUp,
  do
    let _ ← argumentList call
    let _ ← lit ","
    let e ← call.expr .expression
    comprehension call
    refuse .unparenthesizedGenerator e.line,
  do
    let a ← argumentList call
    let _ ← lit ","
    let _ ← argumentList call
    match a with
    | .call _ _ _ keywords =>
      refuseHere (if keywords.contains none
        then .positionalAfterUnpacking else .positionalAfterKeyword)
    | _ => giveUp]

def arguments : Parser Expr := choice [
  do
    let a ← argumentList call
    let _ ← optional (lit ",")
    ahead (lit ")")
    return a,
  mistake (invalidArguments call)]

end KarelLab.Program.Grammar
