import KarelLab.Text.Unicode.Decomposition
import KarelLab.Text.Unicode.Ranges
import Std.Data.HashMap

namespace KarelLab.Text.Unicode

def splitAtChar (c : Char) (cs : List Char) : List Char × List Char :=
  (cs.takeWhile (· != c), (cs.dropWhile (· != c)).drop 1)

def decompositions (text : String) : Std.HashMap Nat (List Nat) :=
  (words text).foldl (fun m w =>
    let (key, parts) := splitAtChar '=' w
    m.insert (hexValue key) ((parts.splitOn '+').map hexValue)) {}

def combiningClasses (text : String) : List (Range × Nat) :=
  (words text).map fun w =>
    let (range, number) := splitAtChar ':' w
    (Range.ofWord range, number.foldl (fun n c => 10 * n + (c.toNat - 48)) 0)

def compositions (text : String) : Std.HashMap (Nat × Nat) Nat :=
  (words text).foldl (fun m w =>
    let (pair, whole) := splitAtChar '=' w
    let (a, b) := splitAtChar '+' pair
    m.insert (hexValue a, hexValue b) (hexValue whole)) {}

structure NormalTables where
  parts : Std.HashMap Nat (List Nat)
  classes : List (Range × Nat)
  composites : Std.HashMap (Nat × Nat) Nat

def normalTables (_ : Unit) : NormalTables where
  parts := decompositions decompositionText
  classes := combiningClasses combiningText
  composites := compositions compositionText

namespace NormalTables

def combiningClass (t : NormalTables) (n : Nat) : Nat :=
  match t.classes.find? (·.1.contains n) with
  | some (_, k) => k
  | none => 0

def decompose (t : NormalTables) (n : Nat) : List Nat :=
  if 0xAC00 ≤ n ∧ n ≤ 0xD7A3 then
    let s := n - 0xAC00
    let head := [0x1100 + s / 588, 0x1161 + s % 588 / 28]
    if s % 28 = 0 then head else head ++ [0x11A7 + s % 28]
  else (t.parts.get? n).getD [n]

def insertMark (k : Nat × Nat) : List (Nat × Nat) → List (Nat × Nat)
  | [] => [k]
  | m :: rest => if m.2 ≤ k.2 then k :: m :: rest else m :: insertMark k rest

def reorder (t : NormalTables) : List Nat → List (Nat × Nat) → List (Nat × Nat)
  | [], done => done.reverse
  | n :: rest, done =>
    let k := t.combiningClass n
    let marks := done.takeWhile (·.2 ≠ 0)
    let before := done.dropWhile (·.2 ≠ 0)
    if k = 0 then reorder t rest ((n, 0) :: done)
    else reorder t rest (insertMark (n, k) marks ++ before)

def compose? (t : NormalTables) (a b : Nat) : Option Nat :=
  if 0x1100 ≤ a ∧ a ≤ 0x1112 ∧ 0x1161 ≤ b ∧ b ≤ 0x1175 then
    some (0xAC00 + ((a - 0x1100) * 21 + (b - 0x1161)) * 28)
  else if 0xAC00 ≤ a ∧ a ≤ 0xD7A3 ∧ (a - 0xAC00) % 28 = 0 ∧ 0x11A8 ≤ b ∧ b ≤ 0x11C2 then
    some (a + (b - 0x11A7))
  else t.composites.get? (a, b)

/-- Composes an ordered text. The open cluster is its starter and the marks kept after it, newest
first; a mark is blocked when the one kept last has a class that is not lower. -/
def recompose (t : NormalTables) :
    List (Nat × Nat) → Option Nat → List (Nat × Nat) → List Nat → List Nat
  | [], starter, kept, out => out ++ starter.toList ++ kept.reverse.map (·.1)
  | (n, k) :: rest, none, kept, out =>
    if k = 0 then recompose t rest (some n) [] (out ++ kept.reverse.map (·.1))
    else recompose t rest none ((n, k) :: kept) out
  | (n, k) :: rest, some s, kept, out =>
    let blocked := match kept with
      | [] => false
      | m :: _ => m.2 ≥ k
    match if blocked then none else t.compose? s n with
    | some c => recompose t rest (some c) kept out
    | none =>
      if k = 0 then recompose t rest (some n) [] (out ++ s :: kept.reverse.map (·.1))
      else recompose t rest (some s) ((n, k) :: kept) out

end NormalTables

def normalize (s : String) : String :=
  if s.toList.all (·.toNat < 128) then s
  else
    let t := normalTables ()
    let parts := s.toList.flatMap fun c => t.decompose c.toNat
    String.ofList ((t.recompose (t.reorder parts []) none [] []).map Char.ofNat)

end KarelLab.Text.Unicode
