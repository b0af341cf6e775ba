import KarelLab.World.Primitive

namespace KarelLab.Program

inductive Feature
  | functions | branches | whileLoops | forLoops
  deriving Repr, DecidableEq, Inhabited

namespace Feature

def all : List Feature := [functions, branches, whileLoops, forLoops]

def name : Feature → String
  | functions => "functions"
  | branches => "if"
  | whileLoops => "while"
  | forLoops => "for"

def label : Feature → String
  | functions => "Function definitions"
  | branches => "'if' statements"
  | whileLoops => "'while' loops"
  | forLoops => "'for' loops"

end Feature

def countingName : String := "range"

def reservedNames : List String := Primitive.names ++ [countingName]

/-- The names of the commands and features that may be used. An axis without a list is not
restricted; names that mean nothing are kept. -/
structure Restrictions where
  commands : Option (List String) := none
  features : Option (List String) := none
  deriving Repr, DecidableEq, Inhabited

namespace Restrictions

def commandNames (r : Restrictions) : List String := r.commands.getD Primitive.names

def permits (r : Restrictions) (f : Feature) : Bool :=
  match r.features with
  | none => true
  | some names => names.contains f.name

end Restrictions

end KarelLab.Program
