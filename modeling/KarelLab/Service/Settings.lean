import KarelLab.Document.Convert
import KarelLab.Isolation.Record

namespace KarelLab.Service

structure Settings where
  maxSteps : Int := Isolation.defaultMaxSteps
  maxTime : Binary64
  isolated : Bool := false
  deriving Repr, DecidableEq, Inhabited

inductive SettingsFault
  | number (f : Document.ConvertFault)
  | noFields (typeName : String)
  deriving Repr, DecidableEq, Inhabited

def SettingsFault.message : SettingsFault → String
  | number f => f.message
  | noFields t => "'" ++ t ++ "' object has no attribute 'get'"

def minTime : Binary64 := .ofRatio false 1 100

namespace Settings

def requested {α : Type} (fields : List (String × Json)) (name : String) (own : α)
    (convert : Json → Except Document.ConvertFault α) : Except SettingsFault α :=
  match Json.lookup name fields with
  | some j => (convert j).mapError .number
  | none => .ok own

/-- The settings for a request. Nothing asked for means what the server allows. -/
def cap (server : Settings) (asked : Json) : Except SettingsFault Settings :=
  if !Document.truthy asked then .ok server
  else
    match asked with
    | .object fields => do
      let steps ← requested fields "max_steps" server.maxSteps Document.toWhole
      let time ← requested fields "max_time_s" server.maxTime Document.toReal
      let isolated := match Json.lookup "use_subprocess" fields with
        | some j => Document.truthy j
        | none => false
      -- the floors stand outside of the server's ceilings
      return {
        maxSteps := max 1 (min steps server.maxSteps)
        maxTime := .greatest minTime (.least time server.maxTime)
        isolated := isolated || server.isolated }
    | j => .error (.noFields (Document.typeName j))

def budgets (s : Settings) : Isolation.Budgets := ⟨s.maxSteps, .seconds s.maxTime⟩

end Settings

end KarelLab.Service
