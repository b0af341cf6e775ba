import KarelLab.Program.Tree

namespace KarelLab.Program

mutual

def Stmt.boundNames : Stmt → List String
  | .define _ name _ _ => [name]
  | .branch _ _ body orelse => blockBoundNames body ++ blockBoundNames orelse
  | .whileLoop _ _ body orelse => blockBoundNames body ++ blockBoundNames orelse
  | .forLoop _ (.name _ id) _ body orelse =>
    id :: (blockBoundNames body ++ blockBoundNames orelse)
  | .forLoop _ _ _ body orelse => blockBoundNames body ++ blockBoundNames orelse
  | _ => []

def blockBoundNames : List Stmt → List String
  | [] => []
  | s :: rest => s.boundNames ++ blockBoundNames rest

end

end KarelLab.Program
