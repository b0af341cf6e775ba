import KarelLab.Playback.Machine

/-!
# Several plays of one player

A play that waits between two ticks is suspended, and the player is free for other operations, also
for further plays. Whoever decides when a suspended play goes on may choose any of them.
-/

namespace KarelLab.Playback

/-- A player that is operated, and the plays that are suspended. Each of them is known by the
generation that it holds. -/
structure Tasks (ε : Type) where
  config : Config ε
  waiting : List Nat := []
  deriving Inhabited

def Config.waitingPlay? {ε : Type} (c : Config ε) : Option Nat :=
  match c.stack with
  | [.react (.waited _ _), .loop .play g] => some g
  | _ => none

namespace Tasks

variable {ε : Type}

def step (e : Environment ε) (t : Tasks ε) : Tasks ε :=
  match t.config.waitingPlay? with
  | some g => { config := { t.config with stack := [] }, waiting := t.waiting ++ [g] }
  | none => { t with config := t.config.step e }

def call (t : Tasks ε) (op : Operation) (env : ε) : Tasks ε :=
  { t with config := { player := t.config.player, stack := [.perform op], env := env } }

def resume? (t : Tasks ε) (k : Nat) : Option (Tasks ε) :=
  t.waiting[k]?.map fun g => {
    config := { player := t.config.player, stack := [.loop .play g], env := t.config.env }
    waiting := t.waiting.eraseIdx k }

inductive Next (e : Environment ε) (t : Tasks ε) : Tasks ε → Prop
  | step : Next e t (t.step e)
  | call (op : Operation) (env : ε) (free : t.config.stack = []) : Next e t (t.call op env)
  | resume {k : Nat} {t' : Tasks ε} (free : t.config.stack = []) (h : t.resume? k = some t') :
    Next e t t'

end Tasks

end KarelLab.Playback
