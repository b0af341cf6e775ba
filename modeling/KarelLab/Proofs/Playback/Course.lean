import KarelLab.Proofs.Playback.Turn

namespace KarelLab.Playback

variable {ε : Type}

def Environment.once (due : Notice → Bool) (op : Operation) : Environment Bool where
  observe _ waiting := waiting
  answer n waiting := if waiting && due n then some (op, false) else none

theorem Environment.answer_once {due : Notice → Bool} {op op' : Operation} {n : Notice}
    {waiting left : Bool} (h : (once due op).answer n waiting = some (op', left)) :
    due n = true ∧ op' = op := by
  simp only [once] at h
  split at h
  · rename_i hd
    cases h
    rw [Bool.and_eq_true] at hd
    exact ⟨hd.2, rfl⟩
  · cases h

/-- What can come after a configuration: a step, or an operation when nothing is left. Before an
operation the environment may have changed. -/
inductive Next (e : Environment ε) (ops : Operation → Prop) (c : Config ε) : Config ε → Prop
  | step : Next e ops c (c.step e)
  | call {op : Operation} (env : ε) (h : ops op) (done : c.stack = []) :
    Next e ops c { player := c.player, stack := [.perform op], env := env }

namespace Config

def answer? (e : Environment ε) (c : Config ε) : Option Operation :=
  match c.stack with
  | .react n :: _ => (e.answer n c.env).map (·.1)
  | _ => none

def applied? (c : Config ε) : Option Tick := c.stack.head?.bind (Frame.applied? c.player)

/-- What a configuration can be followed by, as far as the player is concerned: another one with the
same player, where no tick was applied, or one with the player that the frame on top makes. -/
def Leads (c d : Config ε) : Prop :=
  (d.player = c.player ∧ c.applied? = none) ∨
    ∃ f rest, c.stack = f :: rest ∧ Moves c.player f d.player

end Config

/-- The configurations of a player that is operated from its beginning on, by operations of a kind
that are begun when nothing is left to be done or given as answers. -/
structure Course (e : Environment ε) (ops : Operation → Prop) (p : Player) (c : Nat → Config ε) :
    Prop where
  player : (c 0).player = p
  stack : (c 0).stack = []
  fault : (c 0).fault = none
  next : ∀ i, Next e ops (c i) (c (i + 1))
  answers : ∀ i op, (c i).answer? e = some op → ops op

def appliedTicks (c : Nat → Config ε) : Nat → List Tick
  | 0 => []
  | i + 1 =>
    if (c (i + 1)).player.recording.isNone then []
    else appliedTicks c i ++ (c i).applied?.toList

def proceed (e : Environment ε) : Config ε × List (Operation × ε) → Config ε × List (Operation × ε)
  | (c, calls) =>
    match c.stack, calls with
    | [], (op, env) :: rest => ({ player := c.player, stack := [.perform op], env := env }, rest)
    | _, _ => (c.step e, calls)

def operated (e : Environment ε) (c : Config ε) (calls : List (Operation × ε)) (i : Nat) : Config ε :=
  (Nat.repeat (proceed e) i (c, calls)).1

def Frame.Of (ops : Operation → Prop) : Frame → Prop
  | .perform op => ops op
  | .setCode text => ops (.loadCode text)
  | _ => True

theorem Turn.of {ops : Operation → Prop} {p q : Player} {f : Frame} {fs : List Frame}
    (h : Turn p f q fs) (hf : f.Of ops) : ∀ g ∈ fs, g.Of ops := by
  cases h with
  | recode text h =>
    intro g hg
    rcases List.mem_cons.mp hg with rfl | hg
    · trivial
    · rw [List.mem_singleton.mp hg]
      exact hf
  | _ => simp [Frame.Of]

namespace Config

variable {e : Environment ε} {ops : Operation → Prop} {c : Config ε}

/-- A step leaves only frames that come from operations of a kind, if its answer is of it. -/
theorem step_of (he : ∀ op, c.answer? e = some op → ops op) (h : ∀ f ∈ c.stack, f.Of ops) :
    ∀ f ∈ (c.step e).stack, f.Of ops := by
  cases hs : c.stack with
  | nil =>
    rw [step_of_nil hs]
    exact h
  | cons f rest =>
    have hf : f.Of ops := h f (by rw [hs]; exact List.mem_cons_self)
    have hrest (g : Frame) (hg : g ∈ rest) : g.Of ops :=
      h g (by rw [hs]; exact List.mem_cons_of_mem f hg)
    intro g hg
    cases step_cases e hs with
    | turn ht _ hst _ =>
      rw [hst, List.mem_append] at hg
      rcases hg with hg | hg
      · exact ht.of hf g hg
      · exact hrest g hg
    | @answer n op env hfr ha _ hst _ =>
      rw [hst, List.mem_cons, List.mem_cons] at hg
      rcases hg with rfl | rfl | hg
      · exact he op (by rw [answer?, hs, hfr]; simp [ha])
      · trivial
      · exact hrest g hg
    | stop _ hst _ => exact hrest g (hst.subset hg)

theorem leads_step (e : Environment ε) (c : Config ε) : c.Leads (c.step e) := by
  cases hs : c.stack with
  | nil => exact .inl ⟨by rw [step_of_nil hs], by simp [applied?, hs]⟩
  | cons f rest => exact .inr ⟨f, rest, hs, step_moves e hs⟩

theorem leads_of_nil {d : Config ε} (h : c.stack = []) (hp : d.player = c.player) : c.Leads d :=
  .inl ⟨hp, by simp [applied?, h]⟩

end Config

theorem Next.leads {e : Environment ε} {ops : Operation → Prop} {c d : Config ε}
    (h : Next e ops c d) : c.Leads d := by
  cases h with
  | step => exact Config.leads_step e c
  | call env _ done => exact Config.leads_of_nil done rfl

namespace Course

variable {e : Environment ε} {ops : Operation → Prop} {p : Player} {c : Nat → Config ε}

theorem next_eq_step (h : Course e ops p c) {i : Nat} (hs : (c i).stack ≠ []) :
    c (i + 1) = (c i).step e := by
  have hn := h.next i
  generalize c (i + 1) = d at hn ⊢
  cases hn with
  | step => rfl
  | call env _ hd => exact (hs hd).elim

/-- What holds at the beginning and is kept by steps and calls holds at all times. -/
theorem always {I : Config ε → Prop} (h : Course e ops p c)
    (start : ∀ d : Config ε, d.player = p → d.stack = [] → d.fault = none → I d)
    (step : ∀ d : Config ε, (∀ op, d.answer? e = some op → ops op) → I d → I (d.step e))
    (call : ∀ d op env, I d → d.stack = [] → ops op →
      I { player := d.player, stack := [.perform op], env := env }) (i : Nat) : I (c i) := by
  induction i with
  | zero => exact start (c 0) h.player h.stack h.fault
  | succ i ih =>
    have hn := h.next i
    generalize c (i + 1) = d at hn
    cases hn with
    | step => exact step (c i) (h.answers i) ih
    | call env hop hd => exact call (c i) _ env ih hd hop

theorem stack_of (h : Course e ops p c) (i : Nat) : ∀ f ∈ (c i).stack, f.Of ops := by
  refine h.always (I := fun d => ∀ f ∈ d.stack, f.Of ops) ?_ ?_ ?_ i
  · intro d _ hs _
    simp [hs]
  · intro d ha hd
    exact Config.step_of ha hd
  · intro d op env _ _ hop
    simpa [Frame.Of] using hop

/-- What every change of a player keeps holds at all times. -/
theorem always_player {P : Player → Prop} (h : Course e ops p c) (start : P p)
    (moves : ∀ q f q', P q → f.Of ops → Moves q f q' → P q') (i : Nat) : P (c i).player := by
  induction i with
  | zero => exact h.player ▸ start
  | succ i ih =>
    have hn := h.next i
    generalize c (i + 1) = d at hn
    cases hn with
    | call env hop hd => exact ih
    | step =>
      cases hs : (c i).stack with
      | nil => exact (Config.step_of_nil hs).symm ▸ ih
      | cons f rest =>
        have hf : f.Of ops := h.stack_of i f (by rw [hs]; exact List.mem_cons_self)
        exact moves (c i).player f _ ih hf (Config.step_moves e hs)

theorem proceed_next {c : Config ε} {calls : List (Operation × ε)}
    (hcalls : ∀ call ∈ calls, ops call.1) :
    Next e ops c (proceed e (c, calls)).1 ∧ ∀ call ∈ (proceed e (c, calls)).2, ops call.1 := by
  simp only [proceed]
  split
  · rename_i op env rest hs
    exact ⟨.call env (hcalls _ List.mem_cons_self) hs,
      fun call hc => hcalls call (List.mem_cons_of_mem _ hc)⟩
  · exact ⟨.step, hcalls⟩

theorem operated_calls (c : Config ε) {calls : List (Operation × ε)}
    (hcalls : ∀ call ∈ calls, ops call.1) (i : Nat) :
    ∀ call ∈ (Nat.repeat (proceed e) i (c, calls)).2, ops call.1 := by
  induction i with
  | zero => exact hcalls
  | succ i ih => exact (proceed_next (e := e) ih).2

/-- Operations that are carried out one after another make a course. -/
theorem of_operated (e : Environment ε) (p : Player) (env : ε) {calls : List (Operation × ε)}
    (hcalls : ∀ call ∈ calls, ops call.1)
    (he : ∀ n env op env', e.answer n env = some (op, env') → ops op) :
    Course e ops p (operated e { player := p, env := env } calls) where
  player := rfl
  stack := rfl
  fault := rfl
  next i := (proceed_next (operated_calls _ hcalls i)).1
  answers i op ha := by
    rw [Config.answer?] at ha
    split at ha
    · obtain ⟨answered, hx, rfl⟩ := Option.map_eq_some_iff.mp ha
      exact he _ _ answered.1 answered.2 hx
    · cases ha

end Course

end KarelLab.Playback
