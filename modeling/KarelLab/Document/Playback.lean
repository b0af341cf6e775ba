import KarelLab.Document.Recording
import KarelLab.Playback.Player

namespace KarelLab.Document

open Playback

def ofState (s : State) : Json :=
  .object [("status", .string s.status.name), ("current_line", ofLine? s.currentLine),
    ("error_line", ofLine? s.errorLine), ("step_count", .nat s.stepCount),
    ("error", ofText? s.error), ("error_code", ofText? (s.errorCode.map (·.name))),
    ("step_delay_ms", .nat s.delay)]

def ofFrame (t : Tick) : Json :=
  .object [("step", .nat (t.index + 1)), ("line", ofLine? t.line),
    ("primitive", .string t.primitive.name)]

def ofFrames (p : Player) : Json := .array (p.history.map ofFrame)

def ofTestResult (r : TestResult) : Json :=
  .object [("name", .string r.name), ("passed", .bool r.passed), ("message", .string r.message),
    ("status", .string r.status.name), ("error_line", ofLine? r.errorLine),
    ("step_count", .nat r.stepCount), ("world", ofWorld r.world)]

def ofPresets : Json := .object (presets.map fun (name, ms) => (name, .nat ms))

end KarelLab.Document
