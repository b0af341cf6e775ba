import KarelLab.Program.Grammar.Parameters

namespace KarelLab.Program.Grammar

open Grammar.Parser

variable (call : Caller)

def numberPart (imaginary : Bool) : Parser Unit := do
  let e ← numberExpr
  let isImaginary := match e with
    | .literal _ .imaginary => true
    | _ => false
  if isImaginary != imaginary then
    refuse (if imaginary then .imaginaryExpected else .realExpected) e.line

def signedNumber : Parser Unit := nested (choice [
  do let _ ← numberExpr,
  do let _ ← lit "-"; let _ ← numberExpr])

def complexNumber : Parser Unit :=
  let real := nested (choice [
    nested (numberPart false),
    do let _ ← lit "-"; nested (numberPart false)])
  nested (choice [
    do real; let _ ← lit "+"; nested (numberPart true),
    do real; let _ ← lit "-"; nested (numberPart true)])

def literalPattern : Parser Unit := nested (choice [
  do signedNumber; absent (nested (choice [lit "+", lit "-"])),
  complexNumber,
  call.skip .texts,
  do let _ ← lit "None",
  do let _ ← lit "True",
  do let _ ← lit "False"])

def notCaptured : Parser Unit := absent (nested (choice [lit ".", lit "(", lit "="]))

def captureTarget : Parser Unit := nested do
  absent (word "_")
  let _ ← name
  notCaptured

def attributePattern : Parser Unit := do
  call.skip .nameOrAttribute
  let _ ← lit "."
  let _ ← name

def nameOrAttribute : Parser Unit := choice [call.skip .attributePattern, do let _ ← name]

def starPattern : Parser Unit := choice [
  do let _ ← lit "*"; captureTarget,
  do let _ ← lit "*"; let _ ← word "_"]

def maybeStarPattern : Parser Unit := nested (choice [call.skip .starPattern, call.skip .pattern])

def sequenceItems : Parser Unit := nested do
  let _ ← separated (maybeStarPattern call) (lit ",")
  let _ ← optional (lit ",")

def openSequence : Parser Unit := nested do
  maybeStarPattern call
  let _ ← lit ","
  let _ ← optional (sequenceItems call)

def sequencePattern : Parser Unit := nested (choice [
  do
    let _ ← lit "["
    let _ ← optional (sequenceItems call)
    let _ ← lit "]",
  do
    let _ ← lit "("
    let _ ← optional (openSequence call)
    let _ ← lit ")"])

def mappingPattern : Parser Unit :=
  let rest := nested do let _ ← lit "**"; captureTarget
  let item := nested do
    nested (choice [literalPattern call, call.skip .attributePattern])
    let _ ← lit ":"
    call.skip .pattern
  let items := nested do let _ ← separated item (lit ",")
  nested (choice [
    do let _ ← lit "\x7b"; let _ ← lit "\x7d",
    do let _ ← lit "\x7b"; rest; let _ ← optional (lit ","); let _ ← lit "\x7d",
    do
      let _ ← lit "\x7b"; items; let _ ← lit ","; rest
      let _ ← optional (lit ","); let _ ← lit "\x7d",
    do let _ ← lit "\x7b"; items; let _ ← optional (lit ","); let _ ← lit "\x7d"])

def classPattern : Parser Unit :=
  let positional := nested (separated (do let l ← line; call.skip .pattern; return l) (lit ","))
  let keyword := nested do
    let _ ← name
    let _ ← lit "="
    call.skip .pattern
  let keywords := nested do let _ ← separated keyword (lit ",")
  let openParen := do call.skip .nameOrAttribute; let _ ← lit "("
  nested (choice [
    do openParen; let _ ← lit ")",
    do openParen; let _ ← positional; let _ ← optional (lit ","); let _ ← lit ")",
    do openParen; keywords; let _ ← optional (lit ","); let _ ← lit ")",
    do
      openParen; let _ ← positional; let _ ← lit ","; keywords
      let _ ← optional (lit ","); let _ ← lit ")",
    mistake (choice [do
      openParen
      let ls ← nested do
        let _ ← optional (nested do let _ ← positional; lit ",")
        keywords
        let _ ← lit ","
        positional
      refuse .positionalAfterKeywordPattern (ls.headD 1)])])

def closedPattern : Parser Unit := choice [
  literalPattern call,
  nested captureTarget,
  nested do let _ ← word "_",
  nested do call.skip .attributePattern; notCaptured,
  nested do let _ ← lit "("; call.skip .pattern; let _ ← lit ")",
  sequencePattern call,
  mappingPattern call,
  classPattern call]

def pattern : Parser Unit :=
  let alternatives := nested do let _ ← separated (call.skip .closedPattern) (lit "|")
  choice [
    nested (choice [
      do
        alternatives
        let _ ← lit "as"
        captureTarget,
      mistake (choice [
        do
          alternatives
          let _ ← lit "as"
          let t ← word "_"
          refuse .underscoreTarget t.line,
        do
          alternatives
          let _ ← lit "as"
          absent name
          let e ← call.expr .expression
          refuse .invalidPatternTarget e.line])]),
    alternatives]

def casePatterns : Parser Unit := nested (choice [openSequence call, call.skip .pattern])

end KarelLab.Program.Grammar
