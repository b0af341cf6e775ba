import KarelLab.Json.Basic
import KarelLab.Number.Reader
import KarelLab.Text.Quoted

namespace KarelLab.Document

inductive ConvertFault
  | wholeText (text : String)
  | wholeTooLong (digits : Nat)
  | wholeType (typeName : String)
  | wholeInfinite
  | wholeNan
  | realText (text : String)
  | realType (typeName : String)
  | realHuge
  deriving Repr, DecidableEq, Inhabited

namespace ConvertFault

def maxQuoted : Nat := 200

def message : ConvertFault → String
  | wholeText s =>
    "invalid literal for int() with base 10: " ++
      String.ofList ((Text.quoted s).toList.take maxQuoted)
  | wholeTooLong n =>
    "Exceeds the limit (4300 digits) for integer string conversion: value has " ++ toString n ++
      " digits; use sys.set_int_max_str_digits() to increase the limit"
  | wholeType t =>
    "int() argument must be a string, a bytes-like object or a real number, not '" ++ t ++ "'"
  | wholeInfinite => "cannot convert float infinity to integer"
  | wholeNan => "cannot convert float NaN to integer"
  | realText s => "could not convert string to float: " ++ Text.quoted s
  | realType t => "float() argument must be a string or a real number, not '" ++ t ++ "'"
  | realHuge => "int too large to convert to float"

end ConvertFault

def typeName : Json → String
  | .null => "NoneType"
  | .bool _ => "bool"
  | .int _ => "int"
  | .real _ => "float"
  | .string _ => "str"
  | .array _ => "list"
  | .object _ => "dict"

def wholeFromText (s : String) : Except ConvertFault Int :=
  match Number.readInt s with
  | .ok n => .ok n
  | .error .malformed => .error (.wholeText s)
  | .error (.tooLong n) => .error (.wholeTooLong n)

def realFromText (s : String) : Except ConvertFault Binary64 :=
  match Number.readReal? s with
  | some x => .ok x
  | none => .error (.realText s)

def toWhole : Json → Except ConvertFault Int
  | .int n => .ok n
  | .bool b => .ok (if b then 1 else 0)
  | .real .nan => .error .wholeNan
  | .real x =>
    match x.truncate? with
    | some n => .ok n
    | none => .error .wholeInfinite
  | .string s => wholeFromText s
  | j => .error (.wholeType (typeName j))

def realFromWhole (n : Int) : Except ConvertFault Binary64 :=
  match Binary64.ofInt? n with
  | some x => .ok x
  | none => .error .realHuge

def toReal : Json → Except ConvertFault Binary64
  | .int n => realFromWhole n
  | .bool b => realFromWhole (if b then 1 else 0)
  | .real x => .ok x
  | .string s => realFromText s
  | j => .error (.realType (typeName j))

def truthy : Json → Bool
  | .null => false
  | .bool b => b
  | .int n => n ≠ 0
  | .real x => x.toInt? ≠ some 0
  | .string s => s ≠ ""
  | .array js => !js.isEmpty
  | .object fs => !fs.isEmpty

end KarelLab.Document
