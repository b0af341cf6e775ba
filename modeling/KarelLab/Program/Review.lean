import KarelLab.Program.Check
import KarelLab.Program.Depth
import KarelLab.Program.Reader
import KarelLab.Program.Structure

namespace KarelLab.Program

inductive Rejection
  | unreadable (e : SyntaxError)
  | violation (v : Violation)
  deriving Repr, DecidableEq, Inhabited

def SyntaxError.report (e : SyntaxError) : Report where
  code := .syntaxError
  message := "Syntax error: " ++ e.message
  line := some e.line
  rule := some "syntax"

def Rejection.report : Rejection → Report
  | unreadable e => e.report
  | violation v => v.report

def tooDeep : Rejection := .violation ⟨.nesting, 1⟩

/-- The tree of a text that may be run under the restrictions, or why it may not. -/
def review (restrictions : Restrictions) (text : String) : Except Rejection Tree := do
  let tree ← match Tree.ofText text with
    | .ok tree => pure tree
    | .error (.error e) => throw (.unreadable e)
    | .error .tooDeep => throw tooDeep
  if maxTreeDepth < blockDepth tree then throw tooDeep
  match Rulebook.check ⟨restrictions, blockFunctionNames tree⟩ tree.clip with
  | .ok _ => pure ()
  | .error v => throw (.violation v)
  match tree.structureError? with
  | none => return tree
  | some e => throw (.unreadable e)

end KarelLab.Program
