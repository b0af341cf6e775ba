import KarelLab.Proofs.Execution.Ending
import Mathlib.Algebra.Group.Nat.Defs

/-!
# Limits on the time of an execution

Time only runs out. Under two limits a program does the same, step by step, until the shorter one is
over; if that never happens, both recordings are the same.
-/

namespace KarelLab

/-! ## Limits -/

/-- A finite number as a sign and a quotient; the power of two goes above or below the line. -/
theorem Binary64.ratio?_finite (negative : Bool) (m : Nat) (e : Int) :
    (finite negative m e).ratio? = some (negative, m * 2 ^ e.toNat, 2 ^ (-e).toNat) := by
  by_cases he : 0 ≤ e
  · have hden : (-e).toNat = 0 := by omega
    simp only [ratio?, he, ↓reduceIte, hden, Nat.pow_zero]
    rfl
  · have hnum : e.toNat = 0 := by omega
    simp only [ratio?, he, ↓reduceIte, hnum, Nat.pow_zero, Nat.mul_one]
    rfl

theorem Binary64.isNegative_infinite (negative : Bool) :
    (infinite negative).isNegative = negative := by
  cases negative <;> rfl

namespace Execution.TimeLimit

theorem steps_le_maxSteps (s : Binary64) : steps s ≤ maxSteps := by
  unfold steps
  split
  · split
    · exact Nat.zero_le _
    · exact Nat.min_le_left _ _
  · split
    · exact Nat.zero_le _
    · exact Nat.le_refl _

theorem steps_finite (negative : Bool) (m : Nat) (e : Int) :
    steps (.finite negative m e) =
      if negative then 0 else min maxSteps (m * 2 ^ e.toNat * stepsPerSecond / 2 ^ (-e).toNat) := by
  rw [steps, Binary64.ratio?_finite]

theorem steps_infinite (negative : Bool) :
    steps (.infinite negative) = if negative then 0 else maxSteps := by
  change (if (Binary64.infinite negative).isNegative then 0 else maxSteps) = _
  rw [Binary64.isNegative_infinite]

/-- Two numbers of the binary format that are compared at the same power of two are compared as
quotients. -/
theorem cross_of_aligned {m n : Nat} {e f : Int}
    (h : m * 2 ^ (e - min e f).toNat ≤ n * 2 ^ (f - min e f).toNat) :
    m * 2 ^ e.toNat * 2 ^ (-f).toNat ≤ n * 2 ^ f.toNat * 2 ^ (-e).toNat := by
  -- the exponents above and below the line exceed those compared by the same number
  obtain ⟨c, he, hf⟩ : ∃ c, e.toNat + (-f).toNat = (e - min e f).toNat + c ∧
      f.toNat + (-e).toNat = (f - min e f).toNat + c :=
    ⟨e.toNat + (-f).toNat - (e - min e f).toNat, by omega, by omega⟩
  rw [Nat.mul_assoc, Nat.mul_assoc, ← Nat.pow_add, ← Nat.pow_add, he, hf, Nat.pow_add,
    Nat.pow_add, ← Nat.mul_assoc, ← Nat.mul_assoc]
  exact Nat.mul_le_mul_right _ h

theorem div_le_div_of_cross {a b c d : Nat} (k : Nat) (hb : 0 < b) (hd : 0 < d)
    (h : a * d ≤ c * b) : a * k / b ≤ c * k / d := by
  rw [Nat.le_div_iff_mul_le hd]
  calc a * k / b * d
      ≤ a * k * d / b := by
        rw [Nat.mul_comm, Nat.mul_comm _ d]
        exact Nat.mul_div_le_mul_div_assoc ..
    _ = a * d * k / b := by rw [Nat.mul_right_comm]
    _ ≤ c * b * k / b := Nat.div_le_div_right (Nat.mul_le_mul_right _ h)
    _ = c * k * b / b := by rw [Nat.mul_right_comm]
    _ = c * k := Nat.mul_div_cancel _ hb

/-- A lower limit has no more steps of time. -/
theorem steps_le_of_lt {x y : Binary64} (h : Binary64.lt x y = true) : steps x ≤ steps y := by
  cases x with
  | nan => cases h
  | infinite s =>
    cases y with
    | nan => cases h
    | infinite t =>
      have hs : s = true := (Bool.and_eq_true_iff.mp h).1
      rw [steps_infinite, hs]
      exact Nat.zero_le _
    | finite t n f =>
      have hs : s = true := h
      rw [steps_infinite, hs]
      exact Nat.zero_le _
  | finite s m e =>
    cases y with
    | nan => cases h
    | infinite t =>
      have ht : t = false := by simpa [Binary64.lt] using h
      rw [steps_infinite, ht]
      exact steps_le_maxSteps _
    | finite t n f =>
      rw [steps_finite, steps_finite]
      cases s with
      | true => exact Nat.zero_le _
      | false =>
        have hlt : ((m * 2 ^ (e - min e f).toNat : Nat) : Int) <
            if t then -((n * 2 ^ (f - min e f).toNat : Nat) : Int)
            else ((n * 2 ^ (f - min e f).toNat : Nat) : Int) := of_decide_eq_true h
        cases t with
        | true =>
          rw [if_pos rfl] at hlt
          omega
        | false =>
          rw [if_neg Bool.false_ne_true, Int.ofNat_lt] at hlt
          have hquotient := div_le_div_of_cross stepsPerSecond (Nat.two_pow_pos _) (Nat.two_pow_pos _)
            (cross_of_aligned (Nat.le_of_lt hlt))
          simp only [Bool.false_eq_true, ↓reduceIte]
          omega

/-- The smaller of two limits has no more steps of time than the first. -/
theorem steps_least_le (x y : Binary64) : steps (.least x y) ≤ steps x := by
  unfold Binary64.least
  split
  · rename_i h
    exact steps_le_of_lt h
  · exact Nat.le_refl _

end Execution.TimeLimit

namespace Execution

open Program

/-! ## Executions -/

def Fault.TimedOut : Fault → Prop
  | .timeout _ _ => True
  | _ => False

def Machine.later (m : Machine) (more : Nat) : Machine := { m with time := m.time + more }

def Context.within (ctx : Context) (limit : Binary64) : Context := { ctx with limit := limit }

variable {α β : Type} {more : Nat}

/-- From a machine on, the second part does with more time what the first one does, unless the time
of the first is over. No part gains time. -/
def OutlastsFrom (more : Nat) (m : Machine) (x y : Run α) : Prop :=
  match x m with
  | .ok a after => after.time ≤ m.time ∧ y (m.later more) = .ok a (after.later more)
  | .error f after => f.TimedOut ∨ y (m.later more) = .error f (after.later more)

def Outlasts (more : Nat) (x y : Run α) : Prop := ∀ m, OutlastsFrom more m x y

theorem OutlastsFrom.time_le {m after : Machine} {x y : Run α} {a : α}
    (h : OutlastsFrom more m x y) (hx : x m = .ok a after) : after.time ≤ m.time := by
  unfold OutlastsFrom at h
  rw [hx] at h
  exact h.1

theorem OutlastsFrom.bind {m : Machine} {x y : Run α} {k l : α → Run β}
    (h : OutlastsFrom more m x y)
    (hk : ∀ a after, x m = .ok a after → OutlastsFrom more after (k a) (l a)) :
    OutlastsFrom more m (x >>= k) (y >>= l) := by
  unfold OutlastsFrom at h ⊢
  change match EStateM.bind x k m with
    | .ok a after => after.time ≤ m.time ∧ EStateM.bind y l (m.later more) = .ok a (after.later more)
    | .error f after => f.TimedOut ∨ EStateM.bind y l (m.later more) = .error f (after.later more)
  unfold EStateM.bind
  cases hx : x m with
  | error f after =>
    rw [hx] at h
    rcases h with ht | hy
    · exact .inl ht
    · exact .inr (by rw [hy])
  | ok a after =>
    rw [hx] at h
    obtain ⟨htime, hy⟩ := h
    have hafter := hk a after hx
    unfold OutlastsFrom at hafter
    rw [hy]
    dsimp only
    cases hka : k a after with
    | error f last =>
      rw [hka] at hafter
      exact hafter
    | ok b last =>
      rw [hka] at hafter
      exact ⟨Nat.le_trans hafter.1 htime, hafter.2⟩

namespace Outlasts

theorem pure (a : α) : Outlasts more (Pure.pure a) (Pure.pure a) := fun _ => ⟨Nat.le_refl _, rfl⟩

theorem raise (e : RunError) (line : Nat) :
    Outlasts more (Run.raise e line : Run α) (Run.raise e line) := fun _ => .inr rfl

theorem bind {x y : Run α} {k l : α → Run β} (h : Outlasts more x y)
    (hk : ∀ a, Outlasts more (k a) (l a)) : Outlasts more (x >>= k) (y >>= l) :=
  fun m => (h m).bind fun a after _ => hk a after

/-- The machine is looked at; what follows may be told the time. -/
theorem look {k l : Machine → Run β} (h : ∀ m, Outlasts more (k m) (l (m.later more))) :
    Outlasts more (MonadState.get >>= k) (MonadState.get >>= l) := fun m => h m m

/-- A change of the machine that does not depend on the time and leaves it. -/
theorem change {f : Machine → Machine} (hf : ∀ m : Machine, f (m.later more) = (f m).later more)
    (htime : ∀ m : Machine, (f m).time = m.time) :
    Outlasts more (modify f : Run PUnit) (modify f) := by
  intro m
  refine ⟨Nat.le_of_eq (htime m), ?_⟩
  change EStateM.Result.ok PUnit.unit (f (m.later more)) = _
  rw [hf m]

theorem command (p : Primitive) (line : Nat) :
    Outlasts more (Run.command p line) (Run.command p line) := by
  intro m
  unfold OutlastsFrom Run.command
  have hlog : (m.later more).log = m.log := rfl
  rw [hlog]
  cases m.log.command p (some line) with
  | mk answer after =>
    cases answer with
    | ok a => exact ⟨Nat.le_refl _, rfl⟩
    | error f => exact .inr rfl

/-- A step of time that is left under the shorter limit is left under the longer one. -/
theorem pass (ctx : Context) (limit : Binary64) (line : Nat) :
    Outlasts more (Run.pass ctx line) (Run.pass (ctx.within limit) line) := by
  intro m
  obtain ⟨log, globals, calls, time⟩ := m
  cases time with
  | zero => exact .inl trivial
  | succ n =>
    refine ⟨Nat.le_succ n, ?_⟩
    have htime : (Machine.later ⟨log, globals, calls, n + 1⟩ more).time = n + more + 1 :=
      Nat.add_right_comm n 1 more
    rw [Run.pass, Run.get_bind, htime]
    rfl

theorem globalValue (ctx : Context) (limit : Binary64) (name : String) (line : Nat) :
    Outlasts more (Run.globalValue ctx name line) (Run.globalValue (ctx.within limit) name line) := by
  refine look fun m => ?_
  have hglobals : (m.later more).globals = m.globals := rfl
  have hlibrary : (ctx.within limit).library = ctx.library := rfl
  rw [hglobals, hlibrary]
  split
  · exact pure _
  · split
    · split
      · exact pure _
      · exact raise _ _
    · exact raise _ _

theorem localValue?_later (m : Machine) (scope : LocalScope) (name : String) :
    Run.localValue? (m.later more) scope name = Run.localValue? m scope name := rfl

theorem read (ctx : Context) (limit : Binary64) (name : String) (line : Nat) :
    Outlasts more (Run.read ctx name line) (Run.read (ctx.within limit) name line) := by
  have hscopes : (ctx.within limit).scopes = ctx.scopes := rfl
  unfold Run.read
  rw [hscopes]
  split
  · exact globalValue ctx limit name line
  · split
    · refine look fun m => ?_
      rw [localValue?_later]
      split
      · exact pure _
      · exact raise _ _
    · split
      · refine look fun m => ?_
        rw [localValue?_later]
        split
        · exact pure _
        · exact raise _ _
      · exact globalValue ctx limit name line

theorem bindName (ctx : Context) (limit : Binary64) (name : String) (value : Value) :
    Outlasts more (Run.bind ctx name value) (Run.bind (ctx.within limit) name value) := by
  have hscopes : (ctx.within limit).scopes = ctx.scopes := rfl
  unfold Run.bind
  rw [hscopes]
  split
  · exact change (fun _ => rfl) fun _ => rfl
  · exact change (fun _ => rfl) fun _ => rfl

theorem openCall : Outlasts more Run.openCall Run.openCall := fun _ => ⟨Nat.le_refl _, rfl⟩

theorem closeCall (place : Nat) (body : List Stmt) :
    Outlasts more (Run.closeCall place body) (Run.closeCall place body) := by
  unfold Run.closeCall
  split
  · refine change (fun m => ?_) fun m => ?_
    · change (if m.calls.size = place + 1 then _ else _) = _
      split <;> rfl
    · split <;> rfl
  · exact pure _

theorem boundOf (v : Value) (line : Nat) : Outlasts more (boundOf v line) (boundOf v line) := by
  unfold Execution.boundOf
  split
  · exact pure _
  · exact raise _ _

theorem makeRange (args : List Value) (line : Nat) :
    Outlasts more (makeRange args line) (makeRange args line) := by
  unfold Execution.makeRange
  split
  · exact raise _ _
  · exact (boundOf _ _).bind fun _ => pure _
  · exact (boundOf _ _).bind fun _ => (boundOf _ _).bind fun _ => pure _
  · refine (boundOf _ _).bind fun _ => (boundOf _ _).bind fun _ => (boundOf _ _).bind fun step => ?_
    split
    · exact (raise _ _).bind fun _ => pure _
    · exact pure _
  · exact raise _ _

end Outlasts

def LastingCalls (more : Nat) (invoke invoke' : Invoke) : Prop :=
  ∀ (f : Function) (line : Nat), Outlasts more (invoke f line) (invoke' f line)

variable {invoke invoke' : Invoke}

theorem LastingCalls.apply (h : LastingCalls more invoke invoke') (f : Value) (args : List Value)
    (line : Nat) : Outlasts more (apply invoke f args line) (apply invoke' f args line) := by
  unfold Execution.apply
  split
  · split
    · exact .command _ _
    · exact .raise _ _
  · exact .makeRange _ _
  · split
    · exact h _ _
    · exact .raise _ _
  · exact .raise _ _

theorem evalJunction_cons (ctx : Context) (invoke : Invoke) (op : Connective) (e e' : Expr)
    (rest : List Expr) :
    evalExpr.evalJunction ctx invoke op (e :: e' :: rest) = (do
      let v ← evalExpr ctx invoke e
      if v.truthy == (op == .or) then return v
      else evalExpr.evalJunction ctx invoke op (e' :: rest)) := by
  rw [evalExpr.evalJunction]
  -- the list is not the one of the case before
  simp

-- The recursion is the one of the program, as for its script; calls are again assumed here and shown
-- below on their depth.
mutual

theorem LastingCalls.expr (h : LastingCalls more invoke invoke') (ctx : Context) (limit : Binary64) :
    (e : Expr) → Outlasts more (evalExpr ctx invoke e) (evalExpr (ctx.within limit) invoke' e)
  | .name line id => by
    rw [evalExpr, evalExpr]
    split
    · exact .pure _
    · exact .read ctx limit id line
  | .literal line v => by
    rw [evalExpr, evalExpr]
    exact .pure _
  | .not line e => by
    rw [evalExpr, evalExpr]
    exact (h.expr ctx limit e).bind fun _ => .pure _
  | .junction line op es => by
    rw [evalExpr, evalExpr]
    exact h.junction ctx limit op es
  | .call line f args keywords => by
    rw [evalExpr, evalExpr]
    refine (h.expr ctx limit f).bind fun f => (h.args ctx limit args).bind fun args => ?_
    split
    · exact h.apply f args line
    · exact .raise _ _
  | .other line form parts => by
    rw [evalExpr, evalExpr]
    exact .raise _ _

theorem LastingCalls.junction (h : LastingCalls more invoke invoke') (ctx : Context)
    (limit : Binary64) (op : Connective) : (es : List Expr) →
      Outlasts more (evalExpr.evalJunction ctx invoke op es)
        (evalExpr.evalJunction (ctx.within limit) invoke' op es)
  | [] => by
    rw [evalExpr.evalJunction, evalExpr.evalJunction]
    exact .pure _
  | [e] => by
    rw [evalExpr.evalJunction, evalExpr.evalJunction]
    exact h.expr ctx limit e
  | e :: e' :: rest => by
    rw [evalJunction_cons, evalJunction_cons]
    refine (h.expr ctx limit e).bind fun v => ?_
    split
    · exact .pure _
    · exact h.junction ctx limit op (e' :: rest)

theorem LastingCalls.args (h : LastingCalls more invoke invoke') (ctx : Context)
    (limit : Binary64) : (es : List Expr) →
      Outlasts more (evalExpr.evalArgs ctx invoke es)
        (evalExpr.evalArgs (ctx.within limit) invoke' es)
  | [] => by
    rw [evalExpr.evalArgs, evalExpr.evalArgs]
    exact .pure _
  | e :: rest => by
    rw [evalExpr.evalArgs, evalExpr.evalArgs]
    exact (h.expr ctx limit e).bind fun v => (h.args ctx limit rest).bind fun _ => .pure _

end

/-- A loop that may go on for as many passes as it has steps of time never ends for lack of passes,
so more of both changes nothing. -/
theorem OutlastsFrom.repeatWhile {pass pass' : Run Unit} {test test' : Run Value}
    {body body' : Run Flow} (hp : Outlasts more pass pass') (ht : Outlasts more test test')
    (hb : Outlasts more body body')
    (hspent : ∀ m after, pass m = .ok () after → after.time < m.time) {n n' : Nat} (hn : n ≤ n')
    (m : Machine) (hm : m.time < n) :
    OutlastsFrom more m (repeatWhile pass test body n) (repeatWhile pass' test' body' n') := by
  induction n generalizing n' m with
  | zero => exact (Nat.not_lt_zero _ hm).elim
  | succ n ih =>
    obtain ⟨n', rfl⟩ : ∃ k, n' = k + 1 := ⟨n' - 1, by omega⟩
    refine (hp m).bind fun _ m₁ hpass => (ht m₁).bind fun v m₂ htest => ?_
    have hless : m₂.time < n := by
      have hpassed := hspent m m₁ hpass
      have htested := (ht m₁).time_le htest
      omega
    split
    · refine (hb m₂).bind fun flow m₃ hbody => ?_
      have hleft : m₃.time < n := Nat.lt_of_le_of_lt ((hb m₂).time_le hbody) hless
      cases flow with
      | next => exact ih (Nat.le_of_succ_le_succ hn) m₃ hleft
      | broke => exact Outlasts.pure _ m₃
      | continued => exact ih (Nat.le_of_succ_le_succ hn) m₃ hleft
      | returned v => exact Outlasts.pure _ m₃
    · exact Outlasts.pure _ m₂

theorem Run.time_lt_of_pass {ctx : Context} {line : Nat} {m after : Machine}
    (h : Run.pass ctx line m = .ok () after) : after.time < m.time := by
  obtain ⟨log, globals, calls, time⟩ := m
  cases time with
  | zero => cases h
  | succ n =>
    cases h
    exact Nat.lt_succ_self n

theorem Outlasts.repeatFor {pass pass' : Run Unit} {set set' : Int → Run Unit}
    {body body' : Run Flow} (hp : Outlasts more pass pass')
    (hs : ∀ i, Outlasts more (set i) (set' i)) (hb : Outlasts more body body') (step : Int) (n : Nat)
    (i : Int) :
    Outlasts more (repeatFor pass set body step n i) (repeatFor pass' set' body' step n i) := by
  induction n generalizing i with
  | zero => exact .pure _
  | succ n ih =>
    refine hp.bind fun _ => (hs i).bind fun _ => hb.bind fun flow => ?_
    cases flow with
    | next => exact ih _
    | broke => exact .pure _
    | continued => exact ih _
    | returned v => exact .pure _

theorem Outlasts.afterLoop {orelse orelse' : Run Flow} (h : Outlasts more orelse orelse')
    (e : LoopEnd) : Outlasts more (afterLoop orelse e) (afterLoop orelse' e) := by
  cases e with
  | exhausted => exact h
  | broken => exact .pure _
  | returned v => exact .pure _

theorem Outlasts.currentLibrary : Outlasts more currentLibrary currentLibrary := by
  refine look fun m => ?_
  have hglobals : (m.later more).globals = m.globals := rfl
  rw [hglobals]
  split <;> exact .pure _

theorem Outlasts.makeFunction (ctx : Context) (limit : Binary64) (name : String)
    (body : List Stmt) :
    Outlasts more (makeFunction ctx name body) (makeFunction (ctx.within limit) name body) :=
  Outlasts.currentLibrary.bind fun _ => .pure _

mutual

theorem LastingCalls.stmt (h : LastingCalls more invoke invoke') (ctx : Context)
    (limit : Binary64) :
    (s : Stmt) → Outlasts more (runStmt ctx invoke s) (runStmt (ctx.within limit) invoke' s)
  | .expr line e => by
    rw [runStmt, runStmt]
    exact (Outlasts.pass ctx limit line).bind fun _ => (h.expr ctx limit e).bind fun _ => .pure _
  | .pass line => by
    rw [runStmt, runStmt]
    exact (Outlasts.pass ctx limit line).bind fun _ => .pure _
  | .breakLoop line => by
    rw [runStmt, runStmt]
    exact (Outlasts.pass ctx limit line).bind fun _ => .pure _
  | .continueLoop line => by
    rw [runStmt, runStmt]
    exact (Outlasts.pass ctx limit line).bind fun _ => .pure _
  | .giveBack line value => by
    rw [runStmt.eq_def, runStmt.eq_def]
    refine (Outlasts.pass ctx limit line).bind fun _ => ?_
    cases value with
    | none => exact .pure _
    | some e => exact (h.expr ctx limit e).bind fun _ => .pure _
  | .define line name signature body => by
    rw [runStmt, runStmt]
    have hset : Outlasts more
        (do Run.bind ctx name (← makeFunction ctx name body); return Flow.next)
        (do
          Run.bind (ctx.within limit) name (← makeFunction (ctx.within limit) name body)
          return Flow.next) :=
      (Outlasts.makeFunction ctx limit name body).bind fun f =>
        (Outlasts.bindName ctx limit name f).bind fun _ => .pure _
    refine (Outlasts.pass ctx limit line).bind fun _ => ?_
    split
    · exact (Outlasts.raise _ _).bind fun _ => hset
    · exact hset
  | .branch line test body orelse => by
    rw [runStmt, runStmt]
    refine (Outlasts.pass ctx limit line).bind fun _ => (h.expr ctx limit test).bind fun v => ?_
    split
    · exact h.block ctx limit body
    · exact h.block ctx limit orelse
  | .whileLoop line test body orelse => by
    rw [runStmt, runStmt]
    intro m
    have hfuel : m.time + 1 ≤ (m.later more).time + 1 :=
      Nat.succ_le_succ (Nat.le_add_right m.time more)
    exact (OutlastsFrom.repeatWhile (.pass ctx limit line) (h.expr ctx limit test)
      (h.block ctx limit body) (fun _ _ => Run.time_lt_of_pass) hfuel m (Nat.lt_succ_self _)).bind
        fun e after _ => Outlasts.afterLoop (h.block ctx limit orelse) e after
  | .forLoop line target iterable body orelse => by
    rw [runStmt, runStmt]
    refine (Outlasts.pass ctx limit line).bind fun _ =>
      (h.expr ctx limit iterable).bind fun items => ?_
    split
    · exact (Outlasts.repeatFor (.pass ctx limit line)
        (fun i => .bindName ctx limit _ (.int i)) (h.block ctx limit body) _ _ _).bind
          fun e => Outlasts.afterLoop (h.block ctx limit orelse) e
    · exact .raise _ _
    · exact .raise _ _
  | .other line form inner => by
    rw [runStmt, runStmt]
    exact .raise _ _

theorem LastingCalls.block (h : LastingCalls more invoke invoke') (ctx : Context)
    (limit : Binary64) : (ss : List Stmt) →
      Outlasts more (runStmt.runBlock ctx invoke ss)
        (runStmt.runBlock (ctx.within limit) invoke' ss)
  | [] => by
    rw [runStmt.runBlock, runStmt.runBlock]
    exact .pure _
  | s :: rest => by
    rw [runStmt.runBlock, runStmt.runBlock]
    refine (h.stmt ctx limit s).bind fun flow => ?_
    cases flow with
    | next => exact h.block ctx limit rest
    | broke => exact .pure _
    | continued => exact .pure _
    | returned v => exact .pure _

end

theorem LastingCalls.runFunction (h : LastingCalls more invoke invoke') (short long : Binary64)
    (f : Function) :
    Outlasts more (runFunction short invoke f) (runFunction long invoke' f) := by
  refine Outlasts.openCall.bind fun place => ?_
  refine (h.block ⟨⟨place, blockBoundNames f.body⟩ :: f.scopes, f.library, f.name ++ ".<locals>.",
    short⟩ long f.body).bind fun flow => (Outlasts.closeCall place f.body).bind fun _ => ?_
  cases flow <;> exact .pure _

theorem lastingCalls_invoke (short long : Binary64) (n : Nat) :
    LastingCalls more (Execution.invoke short n) (Execution.invoke long n) := by
  induction n with
  | zero => exact fun f line => .raise _ _
  | succ n ih => exact fun f line => ih.runFunction short long f

/-- A program does the same under a longer limit until the shorter one is over. -/
theorem outlasts_runProgram (short long : Binary64) (tree : Tree) :
    Outlasts more (runProgram short tree) (runProgram long tree) :=
  Outlasts.currentLibrary.bind fun library =>
    ((lastingCalls_invoke short long maxCalls).block ⟨[], library, "", short⟩ long tree).bind
      fun _ => .pure _

/-! ## Recordings -/

/-- A session under a longer limit runs a text as under the shorter one, unless that is over. -/
theorem Session.execute_within {s : Session} {short : Binary64} (hs : s.limit = .seconds short)
    {long : Binary64} (hle : TimeLimit.steps short ≤ TimeLimit.steps long) (text : String) :
    (∃ f, (s.execute text).1 = some f ∧ f.TimedOut) ∨
      (({ s with limit := .seconds long }.execute text).1 = (s.execute text).1 ∧
        ({ s with limit := .seconds long }.execute text).2.log = (s.execute text).2.log) := by
  cases hc : compile text with
  | error f => exact .inr (by simp [execute, hc, clear])
  | ok tree =>
    have hlater : Machine.later ⟨s.log, s.globals, #[], TimeLimit.steps short⟩
        (TimeLimit.steps long - TimeLimit.steps short) =
          ⟨s.log, s.globals, #[], TimeLimit.steps long⟩ := by
      simp [Machine.later, Nat.add_sub_cancel' hle]
    have hprogram : Outlasts (TimeLimit.steps long - TimeLimit.steps short) (runProgram short tree)
        (runProgram long tree) := outlasts_runProgram short long tree
    have hrun := hprogram ⟨s.log, s.globals, #[], TimeLimit.steps short⟩
    unfold OutlastsFrom at hrun
    rw [hlater] at hrun
    cases hm : runProgram short tree ⟨s.log, s.globals, #[], TimeLimit.steps short⟩ with
    | ok u m =>
      rw [hm] at hrun
      exact .inr (by simp [execute, hc, hs, hm, hrun.2, clear, Machine.later])
    | error f m =>
      rw [hm] at hrun
      rcases hrun with ht | hlong
      · exact .inl ⟨f, by simp [execute, hc, hs, hm], ht⟩
      · exact .inr (by simp [execute, hc, hs, hm, hlong, clear, Machine.later])

theorem Session.start_within {log : Log} {allowed : Option (List String)} {limit : TimeLimit}
    {s : Session} (h : start log allowed limit = .ok s) (other : TimeLimit) :
    start log allowed other = .ok { s with limit := other } ∧ s.limit = limit := by
  unfold start register at h ⊢
  cases hr : registerNames (allowed.getD Primitive.names) (Bindings.set libraryName .library [])
    with
  | error u =>
    rw [hr] at h
    cases h
  | ok globals =>
    rw [hr] at h
    cases h
    exact ⟨rfl, rfl⟩

/-- A time that was over is always told as the error of the recording. -/
theorem error_of_timedOut {s : Session} (h : s.log.Unfailed) {text : String} {f : Fault}
    (hf : (s.execute text).1 = some f) (ht : f.TimedOut) :
    ∃ e, (recordingOf (s.execute text).1 (s.execute text).2.log).error = some e ∧
      e.code = .timeout := by
  have hshows := Session.execute_shows h text
  cases f with
  | timeout limit line =>
    rw [hf] at hshows ⊢
    have hlast := unshown_of_unfailed hshows
    exact ⟨(Fault.timeout limit line).report, by simp [recordingOf, hlast], rfl⟩
  | _ => exact ht.elim

/-- A recording that was not stopped for its time is the same under every longer limit. -/
theorem record_within {text : String} {w : World} {allowed : Option (List String)} {maxSteps : Int}
    {short long : Binary64} (hle : TimeLimit.steps short ≤ TimeLimit.steps long) {r : Recording}
    (h : record text ⟨w, allowed, maxSteps, .seconds short⟩ = .ok r)
    (ht : r.error.map (·.code) ≠ some .timeout) :
    record text ⟨w, allowed, maxSteps, .seconds long⟩ = .ok r := by
  obtain ⟨s, fault, after, hs, he, rfl⟩ := record_cases h
  obtain ⟨hs', hlimit⟩ := Session.start_within hs (.seconds long)
  have hstart : s.log.Unfailed := by
    rw [Session.log_register hs]
    exact Log.unfailed_start _ _
  have hrecord : record text ⟨w, allowed, maxSteps, .seconds long⟩ =
      .ok (recordingOf ({ s with limit := .seconds long }.execute text).1
        ({ s with limit := .seconds long }.execute text).2.log) := by
    unfold record
    rw [hs']
    rfl
  rcases Session.execute_within hlimit hle text with ⟨f, hf, htimed⟩ | ⟨hfault, hlog⟩
  · obtain ⟨e, hshown, hcode⟩ := error_of_timedOut hstart hf htimed
    rw [he] at hshown
    rw [hshown] at ht
    exact (ht (congrArg some hcode)).elim
  · rw [hrecord, hfault, hlog, he]

end Execution

end KarelLab
