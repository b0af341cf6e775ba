import KarelLab.Document.Convert

namespace KarelLab.Service

def filled? (value : Option String) : Option String := value.filter fun s => Text.trim s ≠ ""

def wholeVariable (value : Option String) (default : Int) : Except Document.ConvertFault Int :=
  match filled? value with
  | some s => Document.wholeFromText s
  | none => .ok default

def realVariable (value : Option String) (default : Binary64) :
    Except Document.ConvertFault Binary64 :=
  match filled? value with
  | some s => Document.realFromText s
  | none => .ok default

def logLevels : List (String × Nat) :=
  [("CRITICAL", 50), ("FATAL", 50), ("ERROR", 40), ("WARNING", 30), ("WARN", 30), ("INFO", 20),
    ("DEBUG", 10), ("NOTSET", 0)]

def defaultLogLevel : Nat := 30

def logLevel (name : Option String) (environment : Option String) : Nat :=
  match (name.filter (· ≠ "")).or (environment.filter (· ≠ "")) with
  | none => defaultLogLevel
  | some s =>
    match logLevels.find? (·.1 = s.toUpper) with
    | some (_, level) => level
    | none => defaultLogLevel

end KarelLab.Service
