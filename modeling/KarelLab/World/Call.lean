import KarelLab.Text.Quoted
import KarelLab.World.Action

namespace KarelLab

inductive CallFault
  | unknown (name : String)
  | impossible (fault : ActionFault)
  deriving Repr, DecidableEq, Inhabited

namespace CallFault

def message : CallFault → String
  | unknown name => "unknown action " ++ Text.quoted name
  | impossible fault => fault.message

end CallFault

namespace World

def call (w : World) (name : String) : Except CallFault World :=
  match Action.ofName? name with
  | some a => (w.act a).mapError .impossible
  | none => .error (.unknown name)

def afterCall (w : World) (name : String) : World :=
  match w.call name with
  | .ok after => after
  | .error _ => w

def afterCalls (w : World) (names : List String) : World := names.foldl afterCall w

end World

end KarelLab
