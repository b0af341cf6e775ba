import KarelLab.Report

namespace KarelLab.Playback

inductive Status
  | idle | running | paused | error | success
  deriving Repr, DecidableEq, Inhabited

namespace Status

def name : Status → String
  | idle => "idle"
  | running => "running"
  | paused => "paused"
  | error => "error"
  | success => "success"

def terminal : Status → Bool
  | error | success => true
  | _ => false

end Status

def presets : List (String × Nat) :=
  [("Instant", 0), ("Very Fast", 50), ("Fast", 150), ("Normal", 300), ("Slow", 600),
    ("Very Slow", 1000)]

def defaultDelay : Nat := 300

def maxDelay : Nat := 5000

structure State where
  status : Status := .idle
  currentLine : Option Nat := none
  errorLine : Option Nat := none
  stepCount : Nat := 0
  error : Option String := none
  errorCode : Option ReportCode := none
  delay : Nat := defaultDelay
  deriving Repr, DecidableEq, Inhabited

namespace State

def fresh (delay : Nat) : State := { delay := delay }

def fail (s : State) (r : Report) : State :=
  { s with status := .error, error := some r.message, errorCode := some r.code, errorLine := r.line }

end State

end KarelLab.Playback
