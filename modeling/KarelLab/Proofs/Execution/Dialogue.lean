import KarelLab.Execution.Session
import Mathlib.Tactic.Choose

/-!
# Programs as dialogues

A running program reaches its log only through commands, and all that it learns of the log are the
answers. So a part of a program that begins with a certain machine has a script that does not depend
on the log: it gives commands, each chosen after the answers to the ones before, until it ends.
-/

namespace KarelLab.Execution

open Program

def Fault.Own : Fault → Prop
  | .action _ _ | .overBudget _ _ => False
  | _ => True

def Machine.withLog (m : Machine) (log : Log) : Machine := { m with log := log }

/-- What a part of an execution does: it ends with a value or a fault of its own, or it gives a
command and goes on upon the answer. The machines are those that it leaves, apart from their logs. -/
inductive Dialogue (α : Type)
  | done (a : α) (m : Machine)
  | failed (f : Fault) (own : f.Own) (m : Machine)
  | command (p : Primitive) (line : Nat) (m : Machine) (next : Option Bool → Dialogue α)

def Dialogue.run {α : Type} : Dialogue α → Log → EStateM.Result Fault Machine α
  | .done a m, log => .ok a (m.withLog log)
  | .failed f _ m, log => .error f (m.withLog log)
  | .command p line m next, log =>
    match log.command p (some line) with
    | (.ok answer, after) => (next answer).run after
    | (.error f, after) => .error (.ofCommand f (some line)) (m.withLog after)

def Dialogue.finish {α : Type} (d : Dialogue α) (log : Log) : Option Fault × Log :=
  match d.run log with
  | .ok _ after => (none, after.log)
  | .error f after => (some f, after.log)

theorem Dialogue.finish_command {α : Type} (p : Primitive) (line : Nat) (m : Machine)
    (next : Option Bool → Dialogue α) (log : Log) :
    (Dialogue.command p line m next).finish log =
      match log.command p (some line) with
      | (.ok answer, after) => (next answer).finish after
      | (.error f, after) => (some (.ofCommand f (some line)), after) := by
  rw [finish, run]
  cases log.command p (some line) with
  | mk answer after => cases answer <;> rfl

def Scripted {α : Type} (x : Run α) : Prop :=
  ∀ m : Machine, ∃ d : Dialogue α, ∀ log, x (m.withLog log) = d.run log

variable {α β : Type}

theorem Scripted.pure (a : α) : Scripted (Pure.pure a) := fun m => ⟨.done a m, fun _ => rfl⟩

/-- A dialogue goes on with what is scripted for each of its ends. -/
theorem Dialogue.exists_bind (d : Dialogue α) {k : α → Run β} (hk : ∀ a, Scripted (k a)) :
    ∃ e : Dialogue β, ∀ log,
      (match d.run log with
      | .ok a after => k a after
      | .error f after => .error f after) = e.run log := by
  -- on the dialogue: it ends with a machine that is known but for the log, so the script of what
  -- follows begins there, and after a command there is one such script for each answer
  induction d with
  | done a m => exact hk a m
  | failed f own m => exact ⟨.failed f own m, fun _ => rfl⟩
  | command p line m next ih =>
    choose e he using ih
    refine ⟨.command p line m e, fun log => ?_⟩
    simp only [Dialogue.run]
    cases log.command p (some line) with
    | mk answer after =>
      cases answer with
      | ok a => exact he a after
      | error f => rfl

theorem Scripted.bind {x : Run α} {k : α → Run β} (hx : Scripted x) (hk : ∀ a, Scripted (k a)) :
    Scripted (x >>= k) := by
  intro m
  obtain ⟨d, hd⟩ := hx m
  obtain ⟨e, he⟩ := d.exists_bind hk
  refine ⟨e, fun log => ?_⟩
  change EStateM.bind x k (m.withLog log) = e.run log
  rw [← he log, ← hd log]
  unfold EStateM.bind
  cases x (m.withLog log) <;> rfl

theorem Scripted.raise (e : RunError) (line : Nat) : Scripted (Run.raise e line : Run α) :=
  fun m => ⟨.failed (.error e line) trivial m, fun _ => rfl⟩

/-- The machine is looked at, but not its log. -/
theorem Scripted.look {k : Machine → Run β} (hlog : ∀ m log, k (m.withLog log) = k m)
    (hk : ∀ m, Scripted (k m)) : Scripted (MonadState.get >>= k) := by
  intro m
  obtain ⟨d, hd⟩ := hk m m
  refine ⟨d, fun log => ?_⟩
  rw [← hd log, ← hlog m log]
  rfl

/-- A change of the machine that leaves the log alone. -/
theorem Scripted.change {f : Machine → Machine}
    (hf : ∀ m log, f (m.withLog log) = (f m).withLog log) : Scripted (modify f : Run PUnit) := by
  intro m
  refine ⟨.done ⟨⟩ (f m), fun log => ?_⟩
  change EStateM.Result.ok PUnit.unit (f (m.withLog log)) = _
  rw [hf m log]
  rfl

theorem Scripted.command (p : Primitive) (line : Nat) : Scripted (Run.command p line) := by
  intro m
  refine ⟨.command p line m fun answer => .done (.ofAnswer answer) m, fun log => ?_⟩
  unfold Run.command
  simp only [Dialogue.run]
  have hlog : (m.withLog log).log = log := rfl
  rw [hlog]
  cases log.command p (some line) with
  | mk answer after => cases answer <;> rfl

theorem Scripted.pass (ctx : Context) (line : Nat) : Scripted (Run.pass ctx line) := by
  refine Scripted.look (fun _ _ => rfl) fun m => ?_
  cases m.time with
  | zero => exact fun m => ⟨.failed (.timeout ctx.limit line) trivial m, fun _ => rfl⟩
  | succ n => exact Scripted.change fun _ _ => rfl

theorem Scripted.globalValue (ctx : Context) (name : String) (line : Nat) :
    Scripted (Run.globalValue ctx name line) := by
  refine Scripted.look (fun _ _ => rfl) fun m => ?_
  split
  · exact Scripted.pure _
  · split
    · split
      · exact Scripted.pure _
      · exact Scripted.raise _ _
    · exact Scripted.raise _ _

theorem Scripted.read (ctx : Context) (name : String) (line : Nat) :
    Scripted (Run.read ctx name line) := by
  unfold Run.read
  split
  · exact Scripted.globalValue ctx name line
  · split
    · refine Scripted.look (fun _ _ => rfl) fun m => ?_
      split
      · exact Scripted.pure _
      · exact Scripted.raise _ _
    · split
      · refine Scripted.look (fun _ _ => rfl) fun m => ?_
        split
        · exact Scripted.pure _
        · exact Scripted.raise _ _
      · exact Scripted.globalValue ctx name line

theorem Scripted.bindName (ctx : Context) (name : String) (value : Value) :
    Scripted (Run.bind ctx name value) := by
  unfold Run.bind
  split
  · exact Scripted.change fun _ _ => rfl
  · exact Scripted.change fun _ _ => rfl

theorem Scripted.openCall : Scripted Run.openCall :=
  fun m => ⟨.done m.calls.size { m with calls := m.calls.push [] }, fun _ => rfl⟩

theorem Scripted.closeCall (place : Nat) (body : List Stmt) :
    Scripted (Run.closeCall place body) := by
  unfold Run.closeCall
  split
  · refine Scripted.change fun m log => ?_
    change (if m.calls.size = place + 1 then _ else _) = _
    split <;> rfl
  · exact Scripted.pure _

theorem Scripted.boundOf (v : Value) (line : Nat) : Scripted (boundOf v line) := by
  unfold Execution.boundOf
  split
  · exact Scripted.pure _
  · exact Scripted.raise _ _

theorem Scripted.makeRange (args : List Value) (line : Nat) : Scripted (makeRange args line) := by
  unfold Execution.makeRange
  split
  · exact Scripted.raise _ _
  · exact (Scripted.boundOf _ _).bind fun _ => Scripted.pure _
  · exact (Scripted.boundOf _ _).bind fun _ => (Scripted.boundOf _ _).bind fun _ => Scripted.pure _
  · refine (Scripted.boundOf _ _).bind fun _ => (Scripted.boundOf _ _).bind fun _ =>
      (Scripted.boundOf _ _).bind fun step => ?_
    split
    · exact (Scripted.raise _ _).bind fun _ => Scripted.pure _
    · exact Scripted.pure _
  · exact Scripted.raise _ _

def ScriptedCalls (invoke : Invoke) : Prop :=
  ∀ (f : Function) (line : Nat), Scripted (invoke f line)

variable {invoke : Invoke}

theorem ScriptedCalls.apply (h : ScriptedCalls invoke) (f : Value) (args : List Value)
    (line : Nat) : Scripted (apply invoke f args line) := by
  unfold Execution.apply
  split
  · split
    · exact Scripted.command _ _
    · exact Scripted.raise _ _
  · exact Scripted.makeRange _ _
  · split
    · exact h _ _
    · exact Scripted.raise _ _
  · exact Scripted.raise _ _

-- The recursion is the one of the program. A function that is called runs another program, so that
-- calls are scripted is assumed here and shown below on their depth.
mutual

theorem ScriptedCalls.expr (h : ScriptedCalls invoke) (ctx : Context) :
    (e : Expr) → Scripted (evalExpr ctx invoke e)
  | .name line id => by
    rw [evalExpr]
    split
    · exact Scripted.pure _
    · exact Scripted.read ctx id line
  | .literal line v => by
    rw [evalExpr]
    exact Scripted.pure _
  | .not line e => by
    rw [evalExpr]
    exact (h.expr ctx e).bind fun _ => Scripted.pure _
  | .junction line op es => by
    rw [evalExpr]
    exact h.junction ctx op es
  | .call line f args keywords => by
    rw [evalExpr]
    refine (h.expr ctx f).bind fun f => (h.args ctx args).bind fun args => ?_
    split
    · exact h.apply f args line
    · exact Scripted.raise _ _
  | .other line form parts => by
    rw [evalExpr]
    exact Scripted.raise _ _

theorem ScriptedCalls.junction (h : ScriptedCalls invoke) (ctx : Context) (op : Connective) :
    (es : List Expr) → Scripted (evalExpr.evalJunction ctx invoke op es)
  | [] => by
    rw [evalExpr.evalJunction]
    exact Scripted.pure _
  | [e] => by
    rw [evalExpr.evalJunction]
    exact h.expr ctx e
  | e :: e' :: rest => by
    rw [evalExpr.evalJunction]
    · refine (h.expr ctx e).bind fun v => ?_
      split
      · exact Scripted.pure _
      · exact h.junction ctx op (e' :: rest)
    -- the list is not the one of the case before
    · simp

theorem ScriptedCalls.args (h : ScriptedCalls invoke) (ctx : Context) :
    (es : List Expr) → Scripted (evalExpr.evalArgs ctx invoke es)
  | [] => by
    rw [evalExpr.evalArgs]
    exact Scripted.pure _
  | e :: rest => by
    rw [evalExpr.evalArgs]
    exact (h.expr ctx e).bind fun v => (h.args ctx rest).bind fun _ => Scripted.pure _

end

theorem Scripted.repeatWhile {pass : Run Unit} {test : Run Value} {body : Run Flow}
    (hp : Scripted pass) (ht : Scripted test) (hb : Scripted body) (n : Nat) :
    Scripted (repeatWhile pass test body n) := by
  -- on the passes for which there is time
  induction n with
  | zero => exact Scripted.pure _
  | succ n ih =>
    refine hp.bind fun _ => ht.bind fun v => ?_
    split
    · refine hb.bind fun flow => ?_
      cases flow with
      | next => exact ih
      | broke => exact Scripted.pure _
      | continued => exact ih
      | returned v => exact Scripted.pure _
    · exact Scripted.pure _

theorem Scripted.repeatFor {pass : Run Unit} {set : Int → Run Unit} {body : Run Flow}
    (hp : Scripted pass) (hs : ∀ i, Scripted (set i)) (hb : Scripted body) (step : Int) (n : Nat)
    (i : Int) : Scripted (repeatFor pass set body step n i) := by
  induction n generalizing i with
  | zero => exact Scripted.pure _
  | succ n ih =>
    refine hp.bind fun _ => (hs i).bind fun _ => hb.bind fun flow => ?_
    cases flow with
    | next => exact ih _
    | broke => exact Scripted.pure _
    | continued => exact ih _
    | returned v => exact Scripted.pure _

theorem Scripted.afterLoop {orelse : Run Flow} (h : Scripted orelse) (e : LoopEnd) :
    Scripted (afterLoop orelse e) := by
  cases e with
  | exhausted => exact h
  | broken => exact Scripted.pure _
  | returned v => exact Scripted.pure _

theorem Scripted.currentLibrary : Scripted currentLibrary := by
  refine Scripted.look (fun _ _ => rfl) fun m => ?_
  split <;> exact Scripted.pure _

theorem Scripted.makeFunction (ctx : Context) (name : String) (body : List Stmt) :
    Scripted (makeFunction ctx name body) := Scripted.currentLibrary.bind fun _ => Scripted.pure _

mutual

theorem ScriptedCalls.stmt (h : ScriptedCalls invoke) (ctx : Context) :
    (s : Stmt) → Scripted (runStmt ctx invoke s)
  | .expr line e => by
    rw [runStmt]
    exact (Scripted.pass ctx line).bind fun _ => (h.expr ctx e).bind fun _ => Scripted.pure _
  | .pass line => by
    rw [runStmt]
    exact (Scripted.pass ctx line).bind fun _ => Scripted.pure _
  | .breakLoop line => by
    rw [runStmt]
    exact (Scripted.pass ctx line).bind fun _ => Scripted.pure _
  | .continueLoop line => by
    rw [runStmt]
    exact (Scripted.pass ctx line).bind fun _ => Scripted.pure _
  | .giveBack line value => by
    rw [runStmt.eq_def]
    refine (Scripted.pass ctx line).bind fun _ => ?_
    cases value with
    | none => exact Scripted.pure _
    | some e => exact (h.expr ctx e).bind fun _ => Scripted.pure _
  | .define line name signature body => by
    rw [runStmt]
    refine (Scripted.pass ctx line).bind fun _ => ?_
    split
    · exact (Scripted.raise _ _).bind fun _ => (Scripted.makeFunction ctx name body).bind fun f =>
        (Scripted.bindName ctx name f).bind fun _ => Scripted.pure _
    · exact (Scripted.makeFunction ctx name body).bind fun f =>
        (Scripted.bindName ctx name f).bind fun _ => Scripted.pure _
  | .branch line test body orelse => by
    rw [runStmt]
    refine (Scripted.pass ctx line).bind fun _ => (h.expr ctx test).bind fun v => ?_
    split
    · exact h.block ctx body
    · exact h.block ctx orelse
  | .whileLoop line test body orelse => by
    rw [runStmt]
    refine Scripted.look (fun _ _ => rfl) fun m => ?_
    exact (Scripted.repeatWhile (Scripted.pass ctx line) (h.expr ctx test) (h.block ctx body) _).bind
      fun e => Scripted.afterLoop (h.block ctx orelse) e
  | .forLoop line target iterable body orelse => by
    rw [runStmt]
    refine (Scripted.pass ctx line).bind fun _ => (h.expr ctx iterable).bind fun items => ?_
    split
    · exact (Scripted.repeatFor (Scripted.pass ctx line) (fun i => Scripted.bindName ctx _ (.int i))
        (h.block ctx body) _ _ _).bind fun e => Scripted.afterLoop (h.block ctx orelse) e
    · exact Scripted.raise _ _
    · exact Scripted.raise _ _
  | .other line form inner => by
    rw [runStmt]
    exact Scripted.raise _ _

theorem ScriptedCalls.block (h : ScriptedCalls invoke) (ctx : Context) :
    (ss : List Stmt) → Scripted (runStmt.runBlock ctx invoke ss)
  | [] => by
    rw [runStmt.runBlock]
    exact Scripted.pure _
  | s :: rest => by
    rw [runStmt.runBlock]
    refine (h.stmt ctx s).bind fun flow => ?_
    cases flow with
    | next => exact h.block ctx rest
    | broke => exact Scripted.pure _
    | continued => exact Scripted.pure _
    | returned v => exact Scripted.pure _

end

theorem ScriptedCalls.runFunction (h : ScriptedCalls invoke) (limit : Binary64) (f : Function) :
    Scripted (runFunction limit invoke f) := by
  refine Scripted.openCall.bind fun place => (h.block _ f.body).bind fun flow =>
    (Scripted.closeCall place f.body).bind fun _ => ?_
  split <;> exact Scripted.pure _

theorem scriptedCalls_invoke (limit : Binary64) (n : Nat) :
    ScriptedCalls (Execution.invoke limit n) := by
  -- on the depth of calls: a function calls others one level deeper only
  induction n with
  | zero => exact fun f line => Scripted.raise _ _
  | succ n ih => exact fun f line => ih.runFunction limit f

/-- Every program has a script. -/
theorem scripted_runProgram (limit : Binary64) (tree : Tree) : Scripted (runProgram limit tree) :=
  Scripted.currentLibrary.bind fun library =>
    ((scriptedCalls_invoke limit maxCalls).block ⟨[], library, "", limit⟩ tree).bind fun _ =>
      Scripted.pure _

/-! ## Sessions -/

theorem Session.compile_own {text : String} {f : Fault} (h : compile text = .error f) : f.Own := by
  unfold compile at h
  split at h
  · cases h
    trivial
  · cases h
    trivial
  · split at h
    · cases h
      trivial
    · split at h
      · cases h
        trivial
      · cases h

/-- A session runs a text as a dialogue with its log. -/
theorem Session.execute_scripted (s : Session) (text : String) :
    ∃ d : Dialogue Unit, ∀ log,
      (({ s with log := log }.execute text).1, ({ s with log := log }.execute text).2.log) =
        d.finish log := by
  cases hc : compile text with
  | error f =>
    refine ⟨.failed f (compile_own hc) default, fun log => ?_⟩
    simp only [execute, hc]
    rfl
  | ok tree =>
    cases s.limit with
    | huge =>
      refine ⟨.failed .hugeLimit trivial default, fun log => ?_⟩
      simp only [execute, hc]
      rfl
    | seconds limit =>
      obtain ⟨d, hd⟩ :=
        scripted_runProgram limit tree ⟨s.log, s.globals, #[], TimeLimit.steps limit⟩
      refine ⟨d, fun log => ?_⟩
      have hrun : runProgram limit tree ⟨log, s.globals, #[], TimeLimit.steps limit⟩ = d.run log :=
        hd log
      simp only [execute, hc, hrun, Dialogue.finish]
      cases d.run log <;> rfl

end KarelLab.Execution
