import KarelLab.Program.Tree

namespace KarelLab.Program

mutual

def Expr.depth : Expr → Nat
  | .name _ _ | .literal _ _ => 1
  | .not _ e => e.depth + 1
  | .junction _ _ es => exprsDepth es + 1
  | .call _ f args _ => max f.depth (exprsDepth args) + 1
  | .other _ _ parts => exprsDepth parts + 1

def exprsDepth : List Expr → Nat
  | [] => 0
  | e :: rest => max e.depth (exprsDepth rest)

end

mutual

def Stmt.depth : Stmt → Nat
  | .expr _ e => e.depth + 1
  | .pass _ | .breakLoop _ | .continueLoop _ | .giveBack _ none => 1
  | .giveBack _ (some e) => e.depth + 1
  | .define _ _ _ body => blockDepth body + 1
  | .branch _ test body orelse => max test.depth (max (blockDepth body) (blockDepth orelse)) + 1
  | .whileLoop _ test body orelse => max test.depth (max (blockDepth body) (blockDepth orelse)) + 1
  | .forLoop _ target iterable body orelse =>
    max (max target.depth iterable.depth) (max (blockDepth body) (blockDepth orelse)) + 1
  | .other _ _ inner => blockDepth inner + 1

def blockDepth : List Stmt → Nat
  | [] => 0
  | s :: rest => max s.depth (blockDepth rest)

end

def maxTreeDepth : Nat := 2900

def maxWalk : Nat := 980

def nodeSteps : Nat := 2

mutual

/-- An expression without the parts that a walk with so many steps left does not reach. -/
def Expr.clip (room : Nat) : Expr → Expr
  | .name l id => if room < nodeSteps then .other l .clipped [] else .name l id
  | .literal l v => if room < nodeSteps then .other l .clipped [] else .literal l v
  | .not l e =>
    if room < nodeSteps then .other l .clipped [] else .not l (e.clip (room - nodeSteps))
  | .junction l op es =>
    if room < nodeSteps then .other l .clipped []
    else .junction l op (clipExprs (room - nodeSteps - 1) es)
  | .call l f args keywords =>
    if room < nodeSteps then .other l .clipped []
    else .call l (f.clip (room - nodeSteps)) (clipExprs (room - nodeSteps - 1) args) keywords
  | .other l form parts => if room < nodeSteps then .other l .clipped [] else .other l form parts

def clipExprs (room : Nat) : List Expr → List Expr
  | [] => []
  | e :: rest => e.clip room :: clipExprs room rest

end

mutual

/-- A statement without the parts that a walk with so many steps left does not reach. The body of a
loop takes one step more than another block. -/
def Stmt.clip (room : Nat) (s : Stmt) : Stmt :=
  if room < nodeSteps then .other s.line .clipped []
  else
    match s with
    | .expr l e => .expr l (e.clip (room - nodeSteps))
    | .define l name signature body =>
      .define l name signature (clipBlock (room - nodeSteps - 1) body)
    | .branch l test body orelse =>
      .branch l (test.clip (room - nodeSteps)) (clipBlock (room - nodeSteps - 1) body)
        (clipBlock (room - nodeSteps - 1) orelse)
    -- the other branch of a loop is refused without a walk through it
    | .whileLoop l test body orelse =>
      .whileLoop l (test.clip (room - nodeSteps)) (clipBlock (room - nodeSteps - 2) body) orelse
    | .forLoop l target iterable body orelse =>
      .forLoop l target (iterable.clip (room - nodeSteps)) (clipBlock (room - nodeSteps - 2) body)
        orelse
    | s => s

def clipBlock (room : Nat) : List Stmt → List Stmt
  | [] => []
  | s :: rest => s.clip room :: clipBlock room rest

end

def Tree.clip (tree : Tree) : Tree := clipBlock (maxWalk - nodeSteps - 1) tree

end KarelLab.Program
