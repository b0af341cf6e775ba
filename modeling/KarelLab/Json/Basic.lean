import KarelLab.Number.Binary64

/-!
# JSON documents

The values of a JSON document. The fields of an object keep the order in which they were first
named, and whole numbers stay apart from numbers that were written with a point or an exponent.
-/

namespace KarelLab

inductive Json
  | null
  | bool (b : Bool)
  | int (n : Int)
  | real (x : Binary64)
  | string (s : String)
  | array (items : List Json)
  | object (fields : List (String × Json))
  deriving Inhabited

namespace Json

def setField (key : String) (value : Json) : List (String × Json) → List (String × Json)
  | [] => [(key, value)]
  | (k, v) :: rest => if k = key then (k, value) :: rest else (k, v) :: setField key value rest

def lookup (key : String) (fields : List (String × Json)) : Option Json :=
  (fields.find? (·.1 = key)).map (·.2)

def field? (key : String) : Json → Option Json
  | object fields => lookup key fields
  | _ => none

def isNull : Json → Bool
  | null => true
  | _ => false

def given? (key : String) (j : Json) : Option Json :=
  (j.field? key).filter (!·.isNull)

def ofOption {α : Type} (f : α → Json) : Option α → Json
  | some a => f a
  | none => null

def nat (n : Nat) : Json := int n

def string? : Json → Option String
  | string s => some s
  | _ => none

def items? : Json → Option (List Json)
  | array xs => some xs
  | _ => none

def fields? : Json → Option (List (String × Json))
  | object fs => some fs
  | _ => none

theorem lookup_setField (key : String) (value : Json) (fields : List (String × Json)) :
    lookup key (setField key value fields) = some value := by
  induction fields with
  | nil => simp [lookup, setField]
  | cons f rest ih =>
    obtain ⟨k, v⟩ := f
    by_cases h : k = key
    · simp [lookup, setField, h]
    · simpa [lookup, setField, h] using ih

end Json

end KarelLab
