import KarelLab.World.Goal

namespace KarelLab.Lesson

/-- What a check says of a finished world: a verdict, or no more than yes or no. -/
inductive Judgement
  | verdict (v : Verdict)
  | plain (passed : Bool)
  deriving Repr, DecidableEq, Inhabited

def Judgement.toVerdict : Judgement → Verdict
  | verdict v => v
  | plain passed => ⟨passed, if passed then "Passed." else "Failed."⟩

/-- What is checked on a finished world. A check that asks a sensor by a name that none has gives
that name instead of an answer. -/
structure Predicate where
  judge : World → Except String Judgement
  deriving Inhabited

namespace Predicate

def goal (g : Goal) : Predicate := ⟨fun w => .ok (.verdict (g.check w))⟩

def sensor (name : String) : Predicate where
  judge w :=
    match Sensor.ofName? name with
    | some s => .ok (.plain (w.sense s))
    | none => .error name

def always (passed : Bool) : Predicate := ⟨fun _ => .ok (.plain passed)⟩

def check (p : Predicate) (w : World) : Except String Verdict := (p.judge w).map Judgement.toVerdict

end Predicate

/-- Worlds by name, in order, with the check for all of them. Only the `loadable` ones can be
loaded by hand; when none is listed all can. -/
structure Suite where
  worlds : List (String × World)
  predicate : Predicate
  loadable : List String := []
  deriving Inhabited

namespace Suite

def world? (s : Suite) (name : String) : Option World :=
  (s.worlds.find? (·.1 = name)).map (·.2)

def loadable? (s : Suite) (name : String) : Option World :=
  if s.loadable.isEmpty || s.loadable.contains name then s.world? name else none

end Suite

end KarelLab.Lesson
