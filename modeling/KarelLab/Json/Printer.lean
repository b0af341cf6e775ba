import KarelLab.Json.Basic
import KarelLab.Number.Layout

namespace KarelLab.Json

def unitEscape (n : Nat) : List Char :=
  '\\' :: 'u' :: (List.range 4).map fun i => Nat.digitChar (n / Nat.pow 16 (3 - i) % 16)

def encodeChar (c : Char) : List Char :=
  if c = '"' then ['\\', '"']
  else if c = '\\' then ['\\', '\\']
  else if c = '\n' then ['\\', 'n']
  else if c = '\r' then ['\\', 'r']
  else if c = '\t' then ['\\', 't']
  else if c.toNat = 8 then ['\\', 'b']
  else if c.toNat = 12 then ['\\', 'f']
  else if 32 ≤ c.toNat ∧ c.toNat < 127 then [c]
  else if c.toNat < 0x10000 then unitEscape c.toNat
  else
    let n := c.toNat - 0x10000
    unitEscape (0xD800 + n / 0x400) ++ unitEscape (0xDC00 + n % 0x400)

def encodeString (s : String) : String :=
  String.ofList ('"' :: s.toList.flatMap encodeChar ++ ['"'])

def encodeReal (x : Binary64) : String := Number.general x

def newLine (level : Nat) : String := "\n" ++ String.ofList (List.replicate (2 * level) ' ')

mutual

def compact : Json → String
  | null => "null"
  | bool b => if b then "true" else "false"
  | int n => toString n
  | real x => encodeReal x
  | string s => encodeString s
  | array xs => "[" ++ String.intercalate "," (compactItems xs) ++ "]"
  | object fs => "\x7b" ++ String.intercalate "," (compactFields fs) ++ "\x7d"

def compactItems : List Json → List String
  | [] => []
  | x :: xs => compact x :: compactItems xs

def compactFields : List (String × Json) → List String
  | [] => []
  | (k, v) :: fs => (encodeString k ++ ":" ++ compact v) :: compactFields fs

end

mutual

def indented (level : Nat) : Json → String
  | array [] => "[]"
  | array (x :: xs) =>
    "[" ++ newLine (level + 1) ++
      String.intercalate ("," ++ newLine (level + 1)) (indentedItems (level + 1) (x :: xs)) ++
      newLine level ++ "]"
  | object [] => "\x7b\x7d"
  | object (f :: fs) =>
    "\x7b" ++ newLine (level + 1) ++
      String.intercalate ("," ++ newLine (level + 1)) (indentedFields (level + 1) (f :: fs)) ++
      newLine level ++ "\x7d"
  | j => compact j

def indentedItems (level : Nat) : List Json → List String
  | [] => []
  | x :: xs => indented level x :: indentedItems level xs

def indentedFields (level : Nat) : List (String × Json) → List String
  | [] => []
  | (k, v) :: fs => (encodeString k ++ ": " ++ indented level v) :: indentedFields level fs

end

end KarelLab.Json
