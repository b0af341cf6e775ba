import KarelLab.Program.SyntaxError
import KarelLab.Program.Tree

/-!
# The structure of a whole program

Some errors show only when a program is looked at as a whole: loops nested too deeply, jumps out of
nothing, and a name that can never be bound. `Tree.structureError?` gives the first one.
-/

namespace KarelLab.Program

def maxNestedLoops : Nat := 20

def unbindableName : String := "__debug__"

def checkBinding (name : String) (line : Nat) : Except SyntaxError Unit :=
  if name = unbindableName then .error ⟨.cannotAssign name, line⟩ else .ok ()

def checkLoop (loops line : Nat) : Except SyntaxError Unit :=
  if maxNestedLoops ≤ loops then .error ⟨.tooManyNestedLoops, line⟩ else .ok ()

def Stmt.checkStructure (loops : Nat) (inFunction : Bool) : Stmt → Except SyntaxError Unit
  | .expr _ _ | .pass _ | .other _ _ _ => .ok ()
  | .breakLoop line => if loops = 0 then .error ⟨.breakOutsideLoop, line⟩ else .ok ()
  | .continueLoop line => if loops = 0 then .error ⟨.continueOutsideLoop, line⟩ else .ok ()
  | .giveBack line _ => if inFunction then .ok () else .error ⟨.returnOutsideFunction, line⟩
  | .define line name _ body => do
    checkBlock 0 true body
    checkBinding name line
  | .branch _ _ body orelse => do
    checkBlock loops inFunction body
    checkBlock loops inFunction orelse
  | .whileLoop line _ body orelse => do
    checkLoop loops line
    checkBlock (loops + 1) inFunction body
    checkBlock loops inFunction orelse
  | .forLoop line target _ body orelse => do
    checkLoop loops line
    match target with
    | .name line name => checkBinding name line
    | _ => pure ()
    checkBlock (loops + 1) inFunction body
    checkBlock loops inFunction orelse
where
  checkBlock (loops : Nat) (inFunction : Bool) : List Stmt → Except SyntaxError Unit
    | [] => .ok ()
    | s :: rest => do
      checkStructure loops inFunction s
      checkBlock loops inFunction rest

def Tree.structureError? (tree : Tree) : Option SyntaxError :=
  match Stmt.checkStructure.checkBlock 0 false tree with
  | .ok _ => none
  | .error e => some e

end KarelLab.Program
