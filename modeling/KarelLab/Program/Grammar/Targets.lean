import KarelLab.Program.Grammar.Basic
import KarelLab.Text.Unicode.Normal

namespace KarelLab.Program.Grammar

open Grammar.Parser

def spelledName (t : Token) : String := Text.Unicode.normalize t.text

def nameExpr : Parser Expr := do
  let t ← name
  return .name t.line (spelledName t)

inductive TargetPlace
  | assignment | loop | deletion
  deriving Repr, DecidableEq, Inhabited

mutual

def invalidTarget? (place : TargetPlace) : Expr → Option Expr
  | .name _ _ => none
  | .other _ .subscript _ | .other _ .member _ => none
  | .other _ .list parts | .other _ .tuple parts => invalidTargetIn? place parts
  | .other l .starred parts =>
    if place = .deletion then some (.other l .starred parts) else invalidTargetIn? place parts
  | .other l (.comparison membership) parts =>
    if place = .loop then if membership then invalidTargetIn? place parts else none
    else some (.other l (.comparison membership) parts)
  | e => some e

def invalidTargetIn? (place : TargetPlace) : List Expr → Option Expr
  | [] => none
  | e :: rest => (invalidTarget? place e).or (invalidTargetIn? place rest)

end

def refuseTarget (place : TargetPlace) (e : Expr) : Parser Unit :=
  match invalidTarget? place e with
  | some bad =>
    refuse (if place = .deletion then .cannotDelete bad.kindName else .cannotAssign bad.kindName)
      bad.line
  | none => giveUp

variable (call : Caller)

def targetContinues : Parser Unit :=
  nested (choice [do let _ ← lit "(", do let _ ← lit "[", do let _ ← lit "."])

def slice : Parser Unit := nested do
  let expression := call.skip .expression
  choice [
    do
      let _ ← optional expression
      let _ ← lit ":"
      let _ ← optional expression
      let _ ← optional (nested do let _ ← lit ":"; optional expression),
    call.skip .namedExpression]

def starredExpression : Parser Expr := nested do
  let l ← line
  let _ ← lit "*"
  return .other l .starred [← call.expr .expression]

def slices : Parser Unit := nested (choice [
  do slice call; absent (lit ","),
  do
    let _ ← separated (nested (choice [slice call, do let _ ← starredExpression call])) (lit ",")
    let _ ← optional (lit ",")])

def targetPrimary : Parser Expr := do
  let l ← line
  let self := call.expr .targetPrimary
  choice [
    do
      let e ← self; let _ ← lit "."; let _ ← name
      ahead targetContinues
      return .other l .member [e],
    do
      let e ← self; let _ ← lit "["; slices call; let _ ← lit "]"
      ahead targetContinues
      return .other l .subscript [e],
    do
      let e ← self; let _ ← call.expr .generator
      ahead targetContinues
      return .call l e [] [],
    do
      let e ← self; let _ ← lit "("; let _ ← optional (call.expr .arguments); let _ ← lit ")"
      ahead targetContinues
      return .call l e [] [],
    do
      let e ← call.expr .atom
      ahead targetContinues
      return e]

def memberTarget : List (Parser Expr) := [
  do
    let l ← line
    let e ← call.expr .targetPrimary; let _ ← lit "."; let _ ← name
    absent targetContinues
    return .other l .member [e],
  do
    let l ← line
    let e ← call.expr .targetPrimary; let _ ← lit "["; slices call; let _ ← lit "]"
    absent targetContinues
    return .other l .subscript [e]]

def starAtom : Parser Expr := nested do
  let l ← line
  choice [
    nameExpr,
    do
      let _ ← lit "("; let e ← call.expr .starOrAtomTarget; let _ ← lit ")"
      return e,
    do
      let _ ← lit "("
      let targets ← optional (nested (choice [
        do
          let first ← call.expr .starTarget
          let rest ← Parser.atLeastOne (nested do let _ ← lit ","; call.expr .starTarget)
          let _ ← optional (lit ",")
          return first :: rest,
        do
          let e ← call.expr .starTarget; let _ ← lit ","
          return [e]]))
      let _ ← lit ")"
      return .other l .tuple (targets.getD []),
    do
      let _ ← lit "["
      let targets ← optional (nested do
        let ts ← separated (call.expr .starTarget) (lit ",")
        let _ ← optional (lit ",")
        return ts)
      let _ ← lit "]"
      return .other l .list (targets.getD [])]

def starTarget : Parser Expr := do
  let l ← line
  choice [
    do
      let _ ← lit "*"
      absent (lit "*")
      return .other l .starred [← call.expr .starTarget],
    call.expr .starOrAtomTarget]

def starOrAtomTarget : Parser Expr := choice (memberTarget call ++ [starAtom call])

def starTargets : Parser Expr := nested do
  let l ← line
  choice [
    do
      let e ← call.expr .starTarget
      absent (lit ",")
      return e,
    do
      let first ← call.expr .starTarget
      let rest ← many (nested do let _ ← lit ","; call.expr .starTarget)
      let _ ← optional (lit ",")
      return .other l .tuple (first :: rest)]

def singleMemberTarget : Parser Expr := nested (choice (memberTarget call))

def singleTarget : Parser Expr := choice [
  singleMemberTarget call,
  nameExpr,
  do let _ ← lit "("; let e ← call.expr .singleTarget; let _ ← lit ")"; return e]

def deleteTargets : Parser Unit := nested do
  let _ ← separated (call.skip .deleteTarget) (lit ",")
  let _ ← optional (lit ",")

def deleteTarget : Parser Unit := do
  let member := (memberTarget call).map fun p => do let _ ← p
  choice (member ++ [nested (choice [
    do let _ ← name,
    do let _ ← lit "("; call.skip .deleteTarget; let _ ← lit ")",
    do let _ ← lit "("; let _ ← optional (deleteTargets call); let _ ← lit ")",
    do let _ ← lit "["; let _ ← optional (deleteTargets call); let _ ← lit "]"])])

end KarelLab.Program.Grammar
