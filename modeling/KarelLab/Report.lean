namespace KarelLab

inductive ReportCode
  | general
  | syntaxError
  | validation
  | wallCollision
  | boundaryViolation
  | noBeeperPresent
  | bagEmpty
  | runtime
  | stepLimit
  | timeout
  | workerFailed
  deriving Repr, DecidableEq, Inhabited

namespace ReportCode

def name : ReportCode → String
  | general => "KAREL_FAULT"
  | syntaxError => "SYNTAX_ERROR"
  | validation => "VALIDATION_ERROR"
  | wallCollision => "WALL_COLLISION"
  | boundaryViolation => "BOUNDARY_VIOLATION"
  | noBeeperPresent => "NO_BEEPER_PRESENT"
  | bagEmpty => "BAG_EMPTY"
  | runtime => "RUNTIME_ERROR"
  | stepLimit => "STEP_LIMIT"
  | timeout => "TIMEOUT"
  | workerFailed => "SUBPROCESS_FAILED"

def all : List ReportCode :=
  [general, syntaxError, validation, wallCollision, boundaryViolation, noBeeperPresent, bagEmpty,
    runtime, stepLimit, timeout, workerFailed]

def ofName? (s : String) : Option ReportCode := all.find? (·.name = s)

end ReportCode

/-- A failure as it is shown. An empty hint counts as none. -/
structure Report where
  code : ReportCode
  message : String
  line : Option Nat := none
  hint : Option String := none
  rule : Option String := none
  deriving Repr, DecidableEq, Inhabited

namespace Report

def withLine (r : Report) (line : Option Nat) : Report :=
  { r with line := r.line.or line }

def shownHint (r : Report) : Option String := r.hint.filter (· ≠ "")

inductive RuleFault
  | unexpected
  | missing
  deriving Repr, DecidableEq, Inhabited

def RuleFault.message (className : String) : RuleFault → String
  | unexpected => className ++ ".__init__() got an unexpected keyword argument 'rule'"
  | missing => className ++ ".__init__() missing 1 required keyword-only argument: 'rule'"

/-- A report of a kind. Reports of refused programs name the broken rule, and only they do. -/
def build (code : ReportCode) (message : String) (line : Option Nat) (hint rule : Option String) :
    Except RuleFault Report :=
  match code, rule with
  | .validation, none => .error .missing
  | .validation, some rule => .ok ⟨code, message, line, hint, some rule⟩
  | _, some _ => .error .unexpected
  | _, none => .ok ⟨code, message, line, hint, none⟩

end Report

end KarelLab
