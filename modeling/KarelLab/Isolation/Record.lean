import KarelLab.Document.Recording
import KarelLab.Isolation.Worker

namespace KarelLab.Isolation

open Execution

def defaultTimeout : Binary64 := .ofRatio false 5 1

def stopped (timeout : Binary64) : Recording where
  error := some {
    code := .timeout
    message := "Program ran longer than " ++ Number.general timeout ++ "s and was stopped." }

def refused (fault : WorkerFault) : Recording where
  error := some {
    code := .workerFailed
    message := match fault.complaint? with
      | some c => Text.trim ("bad_payload: " ++ c)
      | none => "worker exited with 1" }

def garbled (es : List Document.Issue) : Recording where
  error := some {
    code := .workerFailed
    message := "bad worker output: " ++ String.intercalate "; " (es.map (·.kind.message)) }

def effectiveLimit (limit : TimeLimit) (timeout : Binary64) : TimeLimit :=
  match limit with
  | .seconds s => .seconds (.least s timeout)
  | .huge => .huge

def ofLimit : TimeLimit → Json
  | .seconds s => .real s
  | .huge => .int (Nat.pow 2 1024 : Nat)

def ofNames? (names : Option (List String)) : Json :=
  Json.ofOption (fun ns => .array (ns.map .string)) names

def request (code : String) (world : World) (restrictions : Program.Restrictions)
    (budgets : Budgets) : Json :=
  .object [("code", .string code), ("world", Document.ofWorld world),
    ("karel_commands", ofNames? restrictions.commands),
    ("python_features", ofNames? restrictions.features),
    ("max_steps", .int budgets.maxSteps), ("max_time_s", ofLimit budgets.limit)]

/-- The recording that a worker makes of a program. The request and the answer are documents. -/
def viaDocuments (code : String) (world : World) (restrictions : Program.Restrictions)
    (budgets : Budgets) : Recording :=
  match handle (request code world restrictions budgets) defaultLimit with
  | .error fault => refused fault
  | .ok r =>
    match Document.recording .text (Document.ofRecording r) with
    | .error es => garbled es
    | .ok r => r

def recordIsolated (code : String) (world : World) (restrictions : Program.Restrictions)
    (budgets : Budgets) (timeout : Binary64) : Recording :=
  if TimeLimit.steps timeout = 0 then stopped timeout
  else
    let limit := effectiveLimit budgets.limit timeout
    let r := viaDocuments code world restrictions { budgets with limit := limit }
    -- where the timeout is shorter than the own limit, running out of time means being stopped
    if limit ≠ budgets.limit ∧ r.error.map (·.code) = some .timeout then stopped timeout else r

end KarelLab.Isolation
