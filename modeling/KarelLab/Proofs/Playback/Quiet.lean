import KarelLab.Proofs.Playback.Bookkeeping

namespace KarelLab.Playback

def Operation.Begins : Operation → Prop
  | .run | .play | .step => True
  | _ => False

def Operation.aim : Operation → Aim
  | .play => .loop .play
  | .step => .single
  | _ => .loop .run

def Environment.Quiet {ε : Type} (e : Environment ε) : Prop := ∀ n env, e.answer n env = none

inductive Beat
  | shows (state : State) (world : World)
  | waits (number : Nat) (delay : Nat)
  deriving Repr, DecidableEq, Inhabited

def Beat.notices (listeners : List Nat) : Beat → List Notice
  | .shows state world => listeners.map (.changed · state world)
  | .waits number delay => [.waited number delay]

/-- The wait between two ticks, with so many waits before. A run does not wait without a delay. -/
def Source.pause (s : Source) (waits delay : Nat) : List Beat :=
  if s = .run ∧ delay = 0 then [] else [.waits (waits + 1) delay]

def Source.operation : Source → Operation
  | .run => .run
  | .play => .play

def Player.beat (p : Player) : Beat := .shows p.state p.world

namespace Environment

variable {ε : Type} (e : Environment ε)

def observeAll (ns : List Notice) (env : ε) : ε := ns.foldl (fun env n => e.observe n env) env

def watch (listeners : List Nat) (bs : List Beat) (env : ε) : ε :=
  e.observeAll (bs.flatMap (·.notices listeners)) env

theorem watch_append (ls : List Nat) (bs cs : List Beat) (env : ε) :
    e.watch ls (bs ++ cs) env = e.watch ls cs (e.watch ls bs env) := by
  rw [watch, List.flatMap_append, observeAll, List.foldl_append]
  rfl

theorem watch_cons (ls : List Nat) (b : Beat) (bs : List Beat) (env : ε) :
    e.watch ls (b :: bs) env = e.watch ls bs (e.watch ls [b] env) :=
  e.watch_append ls [b] bs env

theorem watch_beat (p : Player) (ls : List Nat) (env : ε) :
    e.watch ls [p.beat] env = e.observeAll (p.beat.notices ls) env := by
  rw [watch, List.flatMap_singleton]

end Environment

namespace Config

variable {ε : Type} {e : Environment ε} {b c d : Config ε} {m n : Nat}

theorem settle_of_nil (h : c.stack = []) (n : Nat) : settle e n c = c := by
  cases n with
  | zero => rfl
  | succ n => rw [settle, h, List.isEmpty_nil, if_pos rfl]

theorem settle_step (n : Nat) (c : Config ε) : settle e (n + 1) c = settle e n (c.step e) := by
  rw [settle]
  split
  · rename_i h
    have hnil : c.stack = [] := List.isEmpty_iff.mp h
    rw [step_of_nil hnil, settle_of_nil hnil]
  · rfl

theorem settle_add (m n : Nat) (c : Config ε) : settle e (m + n) c = settle e n (settle e m c) := by
  induction m generalizing c with
  | zero => rw [Nat.zero_add, settle]
  | succ m ih => rw [Nat.add_right_comm, settle_step, settle_step, ih]

def Within (e : Environment ε) (n : Nat) (c d : Config ε) : Prop := ∃ m ≤ n, settle e m c = d

namespace Within

theorem single (h : c.step e = d) : Within e 1 c d := ⟨1, Nat.le_refl 1, (settle_step 0 c).trans h⟩

theorem trans (h : Within e m b c) (h' : Within e n c d) : Within e (m + n) b d := by
  obtain ⟨i, hi, rfl⟩ := h
  obtain ⟨j, hj, rfl⟩ := h'
  exact ⟨i + j, Nat.add_le_add hi hj, settle_add i j b⟩

theorem head (h : b.step e = c) (h' : Within e n c d) : Within e (n + 1) b d := by
  obtain ⟨j, hj, rfl⟩ := h'
  subst h
  exact ⟨j + 1, Nat.succ_le_succ hj, settle_step j b⟩

theorem tail (h : Within e n b c) (h' : c.step e = d) : Within e (n + 1) b d := h.trans (single h')

theorem mono (h : Within e m c d) (hn : m ≤ n) : Within e n c d := by
  obtain ⟨i, hi, hd⟩ := h
  exact ⟨i, Nat.le_trans hi hn, hd⟩

/-- When nothing is left to be done, further steps do nothing. -/
theorem settle_eq (h : Within e m c d) (hd : d.stack = []) (hn : m ≤ n) : settle e n c = d := by
  obtain ⟨i, hi, rfl⟩ := h
  -- the steps beyond those that were needed
  obtain ⟨k, rfl⟩ := Nat.exists_eq_add_of_le (Nat.le_trans hi hn)
  rw [settle_add, settle_of_nil hd]

end Within

/-- Listeners that are told in a quiet environment change nothing but what the environment keeps. -/
theorem within_told (he : e.Quiet) (ls : List Nat) {rest : List Frame}
    (h : c.stack = .notify ls :: rest) :
    Within e (2 * ls.length + 1) c
      { c with stack := rest, env := e.watch ls [c.player.beat] c.env } := by
  simp only [Environment.watch_beat]
  induction ls generalizing c with
  | nil => exact .single (step_eq h)
  | cons l ls ih =>
    -- the listener is told, and then it does not answer
    let given := { c with stack := rest }.give e (.changed l c.player.state c.player.world)
      [.notify ls]
    have hgiven : c.step e = given := step_eq h
    have hheard : given.step e = { given with stack := .notify ls :: rest } := by
      rw [step_eq rfl, resume, he]
      rfl
    have htold := ih (c := { given with stack := .notify ls :: rest }) rfl
    exact .head hgiven (.head hheard htold)

theorem step_perform {p : Player} (hs : p.state.status ≠ .running) {op : Operation} (hop : op.Begins)
    (env : ε) : step e ⟨p, [.perform op], 0, env, none⟩ = ⟨p, [.start op.aim], 0, env, none⟩ := by
  cases op with
  | run | play => rfl
  | step =>
    have hpause : p.pause? = none := if_neg hs
    rw [step_eq rfl, resume, begin, hpause]
    rfl
  | _ => exact hop.elim

/-- An operation that begins a run comes to the entry of one, if no other run goes on or has ended. -/
theorem within_entry {p : Player} (hs : p.state.status ≠ .running)
    (ht : p.state.status.terminal = false) (op : Operation) (hop : op.Begins) (env : ε) :
    Within e 2 ⟨p, [.perform op], 0, env, none⟩ ⟨p, [.enter op.aim], 0, env, none⟩ := by
  have hstart : step e ⟨p, [.start op.aim], 0, env, none⟩ = ⟨p, [.enter op.aim], 0, env, none⟩ := by
    rw [step_eq rfl, resume, if_neg (by simp [ht])]
    rfl
  exact .head (step_perform hs hop env) (.single hstart)

/-- A run is entered, and the listeners are told of it. It goes on if the program can run. -/
theorem within_entered {p q : Player} (he : e.Quiet) {running : Bool} (h : p.enter = (.ok running, q))
    (g : Aim) (env : ε) :
    Within e (2 * q.listeners.length + 2) ⟨p, [.enter g], 0, env, none⟩
      ⟨q, if running then [.begin g] else [], 0, e.watch q.listeners [q.beat] env, none⟩ := by
  have henter : step e ⟨p, [.enter g], 0, env, none⟩ =
      ⟨q, .notify q.listeners :: if running then [.begin g] else [], 0, env, none⟩ := by
    rw [step_eq rfl, resume, h]
    cases running <;> rfl
  have htold := within_told he q.listeners
    (c := ⟨q, .notify q.listeners :: if running then [.begin g] else [], 0, env, none⟩) rfl
  exact .head henter htold

/-- A tick is applied, and the listeners are told of it. -/
theorem within_tick {p q : Player} (he : e.Quiet) (ht : p.tick? = some q) (rest : List Frame)
    (waits : Nat) (env : ε) :
    Within e (2 * q.listeners.length + 3) ⟨p, .tick 1 :: rest, waits, env, none⟩
      ⟨q, rest, waits, e.watch q.listeners [q.beat] env, none⟩ := by
  have htick : step e ⟨p, .tick 1 :: rest, waits, env, none⟩ =
      ⟨q, .notify q.listeners :: .tick 0 :: rest, waits, env, none⟩ := by
    rw [step_eq rfl, resume, ht]
    rfl
  have htold := within_told he q.listeners
    (c := ⟨q, .notify q.listeners :: .tick 0 :: rest, waits, env, none⟩) rfl
  exact .head htick (htold.tail rfl)

end Config

end KarelLab.Playback
