import KarelLab.Document.World
import KarelLab.Recording.Tick

namespace KarelLab.Document

open Checked

def ofText? (s : Option String) : Json := Json.ofOption .string s

def ofLine? (n : Option Nat) : Json := Json.ofOption .nat n

def ofReport (r : Report) : Json :=
  .object ([("code", .string r.code.name), ("message", .string r.message), ("line", ofLine? r.line)]
    ++ (r.rule.map fun u => ("rule", Json.string u)).toList
    ++ (r.shownHint.map fun h => ("hint", Json.string h)).toList)

/-- A tick with all its fields; what does not belong to its kind is null. -/
def ofTick (t : Tick) : Json :=
  let world := match t.outcome with
    | .acted w => ofWorld w
    | _ => .null
  let value := match t.outcome with
    | .sensed b => .bool b
    | _ => .null
  .object [("index", .nat t.index), ("primitive", .string t.primitive.name), ("line", ofLine? t.line),
    ("world", world), ("value", value), ("error", Json.ofOption ofReport t.report?)]

def ofRecording (r : Recording) : Json :=
  .object [("ticks", .array (r.ticks.toList.map ofTick)), ("error", Json.ofOption ofReport r.error)]

def line (j : Json) : Checked Nat := (wholeFrom 0 j).map Int.toNat

def report (medium : Medium) (j : Json) : Checked Report := do
  let fs ← fields medium "Report" j
  (both (field fs "code" (choice ReportCode.ofName? "the name of a kind of failure"))
    (both (field fs "message" text) (both (fieldOr fs "line" none (optional line))
      (both (fieldOr fs "hint" none (optional text)) (fieldOr fs "rule" none (optional text)))))).map
    fun (code, message, line, hint, rule) => ⟨code, message, line, hint, rule⟩

def outcome : Option World × Option Bool × Option Report → Checked TickOutcome
  | (some w, none, none) => .ok (.acted w)
  | (none, some b, none) => .ok (.sensed b)
  | (none, none, some r) => .ok (.failed r)
  | _ => issue (.refused "a tick shows one outcome")

def tick (medium : Medium) (j : Json) : Checked Tick := do
  let fs ← fields medium "Tick" j
  let (index, primitive, line, shown) ←
    both (field fs "index" line) (both (field fs "primitive" (choice Primitive.ofName? "a command"))
      (both (fieldOr fs "line" none (optional line))
        (both (fieldOr fs "world" none (optional (world medium)))
          (both (fieldOr fs "value" none (optional truthValue))
            (fieldOr fs "error" none (optional (report medium)))))))
  return ⟨index, primitive, line, ← outcome shown⟩

def recording (medium : Medium) (j : Json) : Checked Recording := do
  let fs ← fields medium "Recording" j
  (both (fieldOr fs "ticks" [] (list medium (tick medium)))
    (fieldOr fs "error" none (optional (report medium)))).map fun (ts, e) => ⟨ts.toArray, e⟩

end KarelLab.Document
