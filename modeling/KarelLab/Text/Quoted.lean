import KarelLab.Text.Unicode.Printable

namespace KarelLab.Text

def hexDigits (n : Nat) (value : Nat) : String :=
  String.ofList ((List.range n).map fun i => Nat.digitChar (value / Nat.pow 16 (n - 1 - i) % 16))

def isPrintable (c : Char) : Bool :=
  if c.toNat < 128 then 32 ≤ c.toNat && c.toNat < 127 else Unicode.printable.contains c

def escapeChar (quote c : Char) : String :=
  if c = quote ∨ c = '\\' then String.ofList ['\\', c]
  else if c = '\n' then "\\n"
  else if c = '\r' then "\\r"
  else if c = '\t' then "\\t"
  else if isPrintable c then String.singleton c
  else if c.toNat < 0x100 then "\\x" ++ hexDigits 2 c.toNat
  else if c.toNat < 0x10000 then "\\u" ++ hexDigits 4 c.toNat
  else "\\U" ++ hexDigits 8 c.toNat

def quoteFor (s : String) : Char :=
  if s.toList.contains '\'' && !s.toList.contains '"' then '"' else '\''

def quoted (s : String) : String :=
  let q := String.singleton (quoteFor s)
  q ++ String.join (s.toList.map (escapeChar (quoteFor s))) ++ q

end KarelLab.Text
