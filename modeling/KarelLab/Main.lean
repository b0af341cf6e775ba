import KarelLab.CommandLine.Run

namespace KarelLab.CommandLine

def usage : String :=
  "usage: karel-lab [-h] --code CODE [--world WORLD] [--delay DELAY] [--step] [--trace]\n" ++
    "                 [--subprocess] [--max-steps MAX_STEPS] [--log-level LOG_LEVEL]"

def printTrace (lines : List String) : IO Unit := do
  for line in lines do
    IO.eprint line

partial def playOn (o : Options) (p : Playback.Player) : IO (Except Breakdown Playback.Player) := do
  match advance o p with
  | .error b => return .error b
  | .ok (q, trace) =>
    printTrace trace
    if waiting o q then
      if (← (← IO.getStdin).getLine).isEmpty then return .error .endOfInput
      playOn o q
    else return .ok q

def playFiles (o : Options) : IO (Except Breakdown Playback.Player) := do
  let worldText ← match o.worldFile? with
    | some path => pure (some (← IO.FS.readFile path))
    | none => pure none
  match worldOf worldText with
  | .error b => return .error b
  | .ok w =>
    let code ← IO.FS.readFile (o.code.getD "")
    match playerOf o w code Isolation.defaultLimit with
    | .error b => return .error b
    | .ok p => playOn o p

def perform (arguments : List String) : IO UInt32 := do
  match Options.ofArguments arguments with
  | .error r =>
    match r.outcome with
    | .refused 0 =>
      IO.println usage
      return 0
    | _ =>
      IO.eprintln usage
      return 2
  | .ok o =>
    match ← playFiles o with
    | .error b =>
      IO.eprintln b.message
      return 1
    | .ok p =>
      let r := resultOf p []
      IO.print r.output
      return r.exitCode.toUInt32

end KarelLab.CommandLine

def main (arguments : List String) : IO UInt32 := KarelLab.CommandLine.perform arguments
