import KarelLab.Program.Tree
import KarelLab.World.Primitive

namespace KarelLab.Execution

open Program

/-- The names that a function binds, and the place where a call of it keeps their values. -/
structure LocalScope where
  place : Nat
  names : List String
  deriving Repr, DecidableEq, Inhabited

/-- Where names are looked up that nobody has bound: in the library, or in a value of some type
that has taken its place. -/
inductive Library
  | standard
  | replaced (typeName : String)
  deriving Repr, DecidableEq, Inhabited

structure Function where
  name : String
  body : List Stmt
  scopes : List LocalScope
  library : Library
  deriving Repr, Inhabited

/-- Values. A range is kept as its first number, its step and the number of its members. -/
inductive Value
  | none
  | bool (b : Bool)
  | int (n : Int)
  | text (s : String)
  | bytes
  | real (zero : Bool)
  | imaginary
  | ellipsis
  | range (first step : Int) (count : Nat)
  | primitive (p : Primitive)
  | counting
  | library
  | function (f : Function)
  deriving Repr, Inhabited

namespace Value

def ofLiteral : Literal → Value
  | .int n => int n
  | .bool b => bool b
  | .text s => text s
  | .bytes => bytes
  | .real zero => real zero
  | .imaginary => imaginary
  | .none => none
  | .ellipsis => ellipsis

def truthy : Value → Bool
  | none => false
  | bool b => b
  | int n => n ≠ 0
  | text s => s ≠ ""
  | real zero => !zero
  | range _ _ count => count ≠ 0
  | _ => true

def typeName : Value → String
  | none => "NoneType"
  | bool _ => "bool"
  | int _ => "int"
  | text _ => "str"
  | bytes => "bytes"
  | real _ => "float"
  | imaginary => "complex"
  | ellipsis => "ellipsis"
  | range _ _ _ => "range"
  | primitive _ => "method"
  | counting => "type"
  | library => "dict"
  | function _ => "function"

def toInt? : Value → Option Int
  | bool b => some (if b then 1 else 0)
  | int n => some n
  | _ => .none

def ofAnswer : Option Bool → Value
  | some b => bool b
  | .none => none

end Value

def rangeCount (first stop step : Int) : Nat :=
  if 0 < step then ((stop - first + step - 1) / step).toNat
  else ((first - stop - step - 1) / (-step)).toNat

end KarelLab.Execution
