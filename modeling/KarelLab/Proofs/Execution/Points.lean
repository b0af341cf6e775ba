import KarelLab.Proofs.Execution.Names
import KarelLab.Proofs.Program.Review
import Mathlib.Logic.Relation

/-!
# The points of an execution

An execution comes to the parts of a program one after another, and finds a machine at each of them.
At every point that the execution of an accepted program comes to, a command that may be used is what
its name means, unless the program counts with that name; a call of it gives the command.
-/

namespace KarelLab.Execution

open Program

/-! ## Points -/

/-- A part of a program that is begun. Of a loop it is also known how often it can still go round,
and with which number it goes on. -/
inductive Task
  | block (ss : List Stmt)
  | stmt (s : Stmt)
  | whileLoop (line : Nat) (test : Expr) (body : List Stmt) (left : Nat)
  | forLoop (line : Nat) (counter : String) (body : List Stmt) (step : Int) (left : Nat) (i : Int)
  | expr (e : Expr)
  | junction (op : Connective) (es : List Expr)
  | args (es : List Expr)

section

variable (ctx : Context) (call : Invoke)

/-- Within one call, the beginning of one part of a program leads to the beginning of another, with
what was run in between. -/
inductive Leads : Task → Machine → Task → Machine → Prop
  | head {s : Stmt} {rest : List Stmt} {m : Machine} : Leads (.block (s :: rest)) m (.stmt s) m
  | tail {s : Stmt} {rest : List Stmt} {m after : Machine} :
      runStmt ctx call s m = .ok .next after → Leads (.block (s :: rest)) m (.block rest) after
  | value {line : Nat} {e : Expr} {m begun : Machine} : Run.pass ctx line m = .ok () begun →
      Leads (.stmt (.expr line e)) m (.expr e) begun
  | result {line : Nat} {e : Expr} {m begun : Machine} : Run.pass ctx line m = .ok () begun →
      Leads (.stmt (.giveBack line (some e))) m (.expr e) begun
  | test {line : Nat} {test : Expr} {body orelse : List Stmt} {m begun : Machine} :
      Run.pass ctx line m = .ok () begun →
      Leads (.stmt (.branch line test body orelse)) m (.expr test) begun
  | branch {line : Nat} {test : Expr} {body orelse : List Stmt} {m begun after : Machine}
      {v : Value} : Run.pass ctx line m = .ok () begun →
      evalExpr ctx call test begun = .ok v after →
      Leads (.stmt (.branch line test body orelse)) m
        (.block (if v.truthy then body else orelse)) after
  | whileLoop {line : Nat} {test : Expr} {body orelse : List Stmt} {m : Machine} :
      Leads (.stmt (.whileLoop line test body orelse)) m
        (.whileLoop line test body (m.time + 1)) m
  | whileElse {line : Nat} {test : Expr} {body orelse : List Stmt} {m after : Machine} :
      repeatWhile (Run.pass ctx line) (evalExpr ctx call test) (runStmt.runBlock ctx call body)
        (m.time + 1) m = .ok .exhausted after →
      Leads (.stmt (.whileLoop line test body orelse)) m (.block orelse) after
  | iterable {line : Nat} {target iterable : Expr} {body orelse : List Stmt} {m begun : Machine} :
      Run.pass ctx line m = .ok () begun →
      Leads (.stmt (.forLoop line target iterable body orelse)) m (.expr iterable) begun
  | forLoop {line place : Nat} {counter : String} {iterable : Expr} {body orelse : List Stmt}
      {m begun ranged : Machine} {first step : Int} {count : Nat} :
      Run.pass ctx line m = .ok () begun →
      evalExpr ctx call iterable begun = .ok (.range first step count) ranged →
      Leads (.stmt (.forLoop line (.name place counter) iterable body orelse)) m
        (.forLoop line counter body step count first) ranged
  | forElse {line place : Nat} {counter : String} {iterable : Expr} {body orelse : List Stmt}
      {m begun ranged after : Machine} {first step : Int} {count : Nat} :
      Run.pass ctx line m = .ok () begun →
      evalExpr ctx call iterable begun = .ok (.range first step count) ranged →
      repeatFor (Run.pass ctx line) (fun i => Run.bind ctx counter (.int i))
        (runStmt.runBlock ctx call body) step count first ranged = .ok .exhausted after →
      Leads (.stmt (.forLoop line (.name place counter) iterable body orelse)) m
        (.block orelse) after
  | whileTest {line left : Nat} {test : Expr} {body : List Stmt} {m begun : Machine} :
      Run.pass ctx line m = .ok () begun →
      Leads (.whileLoop line test body (left + 1)) m (.expr test) begun
  | whileBody {line left : Nat} {test : Expr} {body : List Stmt} {m begun tested : Machine}
      {v : Value} : Run.pass ctx line m = .ok () begun →
      evalExpr ctx call test begun = .ok v tested → v.truthy = true →
      Leads (.whileLoop line test body (left + 1)) m (.block body) tested
  | whileAgain {line left : Nat} {test : Expr} {body : List Stmt}
      {m begun tested after : Machine} {v : Value} {flow : Flow} :
      Run.pass ctx line m = .ok () begun →
      evalExpr ctx call test begun = .ok v tested → v.truthy = true →
      runStmt.runBlock ctx call body tested = .ok flow after → flow = .next ∨ flow = .continued →
      Leads (.whileLoop line test body (left + 1)) m (.whileLoop line test body left) after
  | forBody {line left : Nat} {counter : String} {body : List Stmt} {step i : Int}
      {m begun bound : Machine} : Run.pass ctx line m = .ok () begun →
      Run.bind ctx counter (.int i) begun = .ok () bound →
      Leads (.forLoop line counter body step (left + 1) i) m (.block body) bound
  | forAgain {line left : Nat} {counter : String} {body : List Stmt} {step i : Int}
      {m begun bound after : Machine} {flow : Flow} : Run.pass ctx line m = .ok () begun →
      Run.bind ctx counter (.int i) begun = .ok () bound →
      runStmt.runBlock ctx call body bound = .ok flow after → flow = .next ∨ flow = .continued →
      Leads (.forLoop line counter body step (left + 1) i) m
        (.forLoop line counter body step left (i + step)) after
  | not {line : Nat} {e : Expr} {m : Machine} : Leads (.expr (.not line e)) m (.expr e) m
  | junction {line : Nat} {op : Connective} {es : List Expr} {m : Machine} :
      Leads (.expr (.junction line op es)) m (.junction op es) m
  | operand {op : Connective} {e : Expr} {rest : List Expr} {m : Machine} :
      Leads (.junction op (e :: rest)) m (.expr e) m
  | operands {op : Connective} {e : Expr} {rest : List Expr} {m after : Machine} {v : Value} :
      evalExpr ctx call e m = .ok v after → (v.truthy == (op == .or)) = false →
      Leads (.junction op (e :: rest)) m (.junction op rest) after
  | callee {line : Nat} {f : Expr} {args : List Expr} {keywords : List (Option String)}
      {m : Machine} : Leads (.expr (.call line f args keywords)) m (.expr f) m
  | args {line : Nat} {f : Expr} {args : List Expr} {keywords : List (Option String)}
      {m after : Machine} {v : Value} : evalExpr ctx call f m = .ok v after →
      Leads (.expr (.call line f args keywords)) m (.args args) after
  | arg {e : Expr} {rest : List Expr} {m : Machine} : Leads (.args (e :: rest)) m (.expr e) m
  | nextArgs {e : Expr} {rest : List Expr} {m after : Machine} {v : Value} :
      evalExpr ctx call e m = .ok v after → Leads (.args (e :: rest)) m (.args rest) after

end

structure Point where
  depth : Nat
  ctx : Context
  task : Task
  machine : Machine

variable (limit : Binary64)

/-- The points to which a point leads: further ones of the same call, and the body of a function that
is called. -/
inductive Step : Point → Point → Prop
  | within {p : Point} {t : Task} {m : Machine} :
      Leads p.ctx (invoke limit p.depth) p.task p.machine t m →
      Step p { p with task := t, machine := m }
  | call {depth line place : Nat} {ctx : Context} {f : Expr} {function : Function}
      {args : List Expr} {m found given opened : Machine} :
      evalExpr ctx (invoke limit (depth + 1)) f m = .ok (.function function) found →
      evalExpr.evalArgs ctx (invoke limit (depth + 1)) args found = .ok [] given →
      Run.openCall given = .ok place opened →
      Step ⟨depth + 1, ctx, .expr (.call line f args []), m⟩
        ⟨depth, ⟨⟨place, blockBoundNames function.body⟩ :: function.scopes, function.library,
          function.name ++ ".<locals>.", limit⟩, .block function.body, opened⟩

/-- The points to which the execution of a program comes that begins with a machine. -/
def Visits (tree : Tree) (m : Machine) (p : Point) : Prop :=
  ∃ library, currentLibrary m = .ok library m ∧
    Relation.ReflTransGen (Step limit) ⟨maxCalls, ⟨[], library, "", limit⟩, .block tree, m⟩ p

/-! ## What holds at every point -/

def Task.Follows (o : Outline) : Task → Prop
  | .block ss => o.FollowsBlock ss
  | .stmt s => o.FollowsStmt s
  | .whileLoop _ test body _ => o.FollowsExpr test ∧ o.FollowsBlock body
  | .forLoop _ counter body _ _ _ => counter ∈ o.counters ∧ o.FollowsBlock body
  | .expr e => o.FollowsExpr e
  | .junction _ es | .args es => o.FollowsExprs es

structure Point.Follows (o : Outline) (fixed : List String) (p : Point) : Prop where
  situated : Situated o p.ctx.scopes p.ctx.library
  task : p.task.Follows o
  tame : Tame o fixed p.machine

variable {o : Outline} {fixed : List String} {limit : Binary64}

theorem followsExpr_callee {line : Nat} {f : Expr} {args : List Expr}
    {keywords : List (Option String)} (h : o.FollowsExpr (.call line f args keywords)) :
    (∃ place id, f = .name place id) ∧ o.FollowsExprs args := by
  cases f with
  | name place id => exact ⟨⟨place, id, rfl⟩, h.2.2.2⟩
  | literal _ _ | call _ _ _ _ | junction _ _ _ | not _ _ | other _ _ _ => exact h.elim

theorem Leads.follows {ctx : Context} {call : Invoke} {t t' : Task} {m m' : Machine}
    (h : Leads ctx call t m t' m') (hcall : TameCalls o fixed call)
    (hctx : Situated o ctx.scopes ctx.library) (ht : t.Follows o) (hm : Tame o fixed m) :
    t'.Follows o ∧ Tame o fixed m' := by
  have hpass {line : Nat} {m begun : Machine} (hm : Tame o fixed m)
      (h : Run.pass ctx line m = .ok () begun) : Tame o fixed begun :=
    ((Tame.pass ctx line).of_ok hm h).1
  have hexpr {e : Expr} {m after : Machine} {v : Value} (he : o.FollowsExpr e)
      (hm : Tame o fixed m) (h : evalExpr ctx call e m = .ok v after) : Tame o fixed after :=
    ((hcall.expr ctx e he).of_ok hm h).1
  have hblock {ss : List Stmt} {m after : Machine} {flow : Flow} (hs : o.FollowsBlock ss)
      (hm : Tame o fixed m) (h : runStmt.runBlock ctx call ss m = .ok flow after) :
      Tame o fixed after := ((hcall.block hctx ss hs).of_ok hm h).1
  have hbind {n : String} {i : Int} {m after : Machine} (hn : n ∈ o.counters)
      (hm : Tame o fixed m) (h : Run.bind ctx n (.int i) m = .ok () after) : Tame o fixed after :=
    ((Tame.bind ctx (v := .int i) hn).of_ok hm h).1
  -- what was run in between keeps the machine tame, and the next part is a part of this one
  cases h with
  | head => exact ⟨ht.1, hm⟩
  | tail hs => exact ⟨ht.2, ((hcall.stmt hctx _ ht.1).of_ok hm hs).1⟩
  | value hp | result hp => exact ⟨ht, hpass hm hp⟩
  | test hp => exact ⟨ht.1, hpass hm hp⟩
  | @branch line test body orelse _ _ _ v hp he =>
    refine ⟨?_, hexpr ht.1 (hpass hm hp) he⟩
    cases v.truthy with
    | true => exact ht.2.1
    | false => exact ht.2.2
  | whileLoop => exact ⟨⟨ht.1, ht.2.1⟩, hm⟩
  | whileElse hr =>
    refine ⟨ht.2.2, (((Tame.pass ctx _).repeatWhile (hcall.expr ctx _ ht.1)
      (hcall.block hctx _ ht.2.1) _).of_ok hm hr).1⟩
  | @iterable line target iterable body orelse _ _ hp =>
    refine ⟨?_, hpass hm hp⟩
    cases target with
    | name place id => exact ht.2.1
    | literal _ _ | call _ _ _ _ | junction _ _ _ | not _ _ | other _ _ _ => exact ht.1
  | forLoop hp he => exact ⟨⟨ht.1, ht.2.2.1⟩, hexpr ht.2.1 (hpass hm hp) he⟩
  | forElse hp he hr =>
    refine ⟨ht.2.2.2, (((Tame.pass ctx _).repeatFor (fun i => Tame.bind ctx (v := .int i) ht.1)
      (hcall.block hctx _ ht.2.2.1) _ _ _).of_ok (hexpr ht.2.1 (hpass hm hp) he) hr).1⟩
  | whileTest hp => exact ⟨ht.1, hpass hm hp⟩
  | whileBody hp he => exact ⟨ht.2, hexpr ht.1 (hpass hm hp) he⟩
  | whileAgain hp he _ hb => exact ⟨ht, hblock ht.2 (hexpr ht.1 (hpass hm hp) he) hb⟩
  | forBody hp hi => exact ⟨ht.2, hbind ht.1 (hpass hm hp) hi⟩
  | forAgain hp hi hb => exact ⟨ht, hblock ht.2 (hbind ht.1 (hpass hm hp) hi) hb⟩
  | not | junction => exact ⟨ht, hm⟩
  | operand | arg => exact ⟨ht.1, hm⟩
  | operands he _ | nextArgs he => exact ⟨ht.2, hexpr ht.1 hm he⟩
  | callee =>
    obtain ⟨⟨place, id, rfl⟩, -⟩ := followsExpr_callee ht
    exact ⟨trivial, hm⟩
  | args hf =>
    obtain ⟨⟨place, id, rfl⟩, hargs⟩ := followsExpr_callee ht
    exact ⟨hargs, hexpr (e := .name place id) trivial hm hf⟩

/-- A step of an execution goes from points that follow an outline to such points. -/
theorem Step.follows {p q : Point} (h : Step limit p q) (hp : p.Follows o fixed) :
    q.Follows o fixed := by
  cases h with
  | within hl =>
    obtain ⟨ht, hm⟩ := hl.follows (tameCalls_invoke limit p.depth) hp.situated hp.task hp.tame
    exact ⟨hp.situated, ht, hm⟩
  | @call depth line place ctx f function args m found given opened hf ha hopen =>
    obtain ⟨⟨l, id, rfl⟩, hargs⟩ := followsExpr_callee hp.task
    have hcall : TameCalls o fixed (invoke limit (depth + 1)) := tameCalls_invoke limit _
    -- the function is the meaning of a name, so its body was a part of the program
    obtain ⟨hfound, -, hbody, hscopes⟩ := (TameCalls.name ctx _ l id).of_ok hp.tame hf
    have hgiven := ((hcall.args ctx args hargs).of_ok hfound ha).1
    refine ⟨⟨?_, hscopes.library_eq⟩, hbody, (Tame.openCall.of_ok hgiven hopen).1⟩
    exact List.forall_mem_cons.mpr
      ⟨fun _ => Outline.binds_of_mem_blockBoundNames function.body hbody, hscopes.binds⟩

/-- All points to which the execution of a program of an outline comes follow the outline. -/
theorem Visits.follows {tree : Tree} {m : Machine} {p : Point} (h : Visits limit tree m p)
    (htree : o.FollowsBlock tree) (hm : Tame o fixed m) : p.Follows o fixed := by
  obtain ⟨library, hlibrary, hsteps⟩ := h
  have hl := (Tame.currentLibrary.of_ok hm hlibrary).2
  -- on the steps of the execution, each of which keeps what holds at its beginning
  induction hsteps with
  | refl => exact ⟨⟨nofun, hl⟩, htree, hm⟩
  | tail _ hstep ih => exact hstep.follows ih

/-! ## Commands -/

/-- A name that no function around binds is looked up among the names of the whole program. -/
theorem read_eq_globalValue {ctx : Context} {n : String} (h : ∀ s ∈ ctx.scopes, n ∉ s.names)
    (line : Nat) : Run.read ctx n line = Run.globalValue ctx n line := by
  unfold Run.read
  split
  · rfl
  · rename_i own outer hscopes
    rw [hscopes] at h
    have hown : ¬ own.names.contains n = true := by
      rw [List.contains_iff_mem]
      exact h own List.mem_cons_self
    have houter : outer.find? (fun s => s.names.contains n) = none := by
      refine List.find?_eq_none.mpr fun s hs => ?_
      rw [List.contains_iff_mem]
      exact h s (List.mem_cons_of_mem own hs)
    rw [if_neg hown, houter]

theorem globalValue_of_find? {ctx : Context} {n : String} {m : Machine} {v : Value}
    (h : m.globals.find? n = some v) (line : Nat) : Run.globalValue ctx n line m = .ok v m := by
  rw [Run.globalValue, Run.get_bind, h]
  rfl

variable {ctx : Context} {m : Machine}

theorem Situated.not_mem_names (h : Situated o ctx.scopes ctx.library) {n : String}
    (hn : ¬ o.Binds n) : ∀ s ∈ ctx.scopes, n ∉ s.names :=
  fun s hs hmem => hn (h.binds s hs n hmem)

/-- A name that is kept has its first meaning, where no part of the program binds it. -/
theorem Tame.read_fixed (hm : Tame o fixed m) (hctx : Situated o ctx.scopes ctx.library)
    {n : String} (hn : n ∈ fixed) (hb : ¬ o.Binds n) {v : Value} (hv : initialMeaning? n = some v)
    (line : Nat) : Run.read ctx n line m = .ok v m := by
  obtain ⟨u, hu⟩ := hm.kept n hn
  obtain ⟨w, hw⟩ := Bindings.exists_find? hu
  have hmeaning := (hm.meaning_of_find? hw).initial hb
  obtain rfl : v = w := Option.some.inj (hv.symm.trans hmeaning)
  rw [read_eq_globalValue (hctx.not_mem_names hb), globalValue_of_find? hw]

/-- The counting function has its name, where no part of the program binds it or the name of the
library. -/
theorem Tame.read_counting (hm : Tame o fixed m) (hctx : Situated o ctx.scopes ctx.library)
    (hb : ¬ o.Binds countingName) (hl : ¬ o.Binds libraryName) (line : Nat) :
    Run.read ctx countingName line m = .ok .counting m := by
  rw [read_eq_globalValue (hctx.not_mem_names hb)]
  cases hv : m.globals.find? countingName with
  | none =>
    have hlibrary := hctx.library_eq.resolve_right hl
    rw [Run.globalValue, Run.get_bind, hv, hlibrary]
    rfl
  | some v =>
    obtain rfl : Value.counting = v := Option.some.inj ((hm.meaning_of_find? hv).initial hb)
    exact globalValue_of_find? hv line

theorem Run.bind_of_eq_ok {α β : Type} {x : Run α} {f : α → Run β} {a : α} {after : Machine}
    (h : x m = .ok a after) : (x >>= f) m = f a after := by
  change EStateM.bind x f m = _
  unfold EStateM.bind
  rw [h]

theorem currentLibrary_congr {m' : Machine} {library : Library}
    (h : currentLibrary m = .ok library m) (hglobals : m'.globals = m.globals) :
    currentLibrary m' = .ok library m' := by
  unfold currentLibrary at h ⊢
  rw [Run.get_bind] at h ⊢
  rw [hglobals]
  cases hv : m.globals.find? libraryName with
  | none =>
    rw [hv] at h
    cases h
    rfl
  | some v =>
    rw [hv] at h
    cases v <;> cases h <;> rfl

/-- A definition of a function binds its name to the function. -/
theorem runStmt_define {call : Invoke} {line : Nat} {name : String} {body : List Stmt}
    {begun after : Machine} {library : Library} (hpass : Run.pass ctx line m = .ok () begun)
    (hlibrary : currentLibrary begun = .ok library begun)
    (hbind : Run.bind ctx name (.function ⟨ctx.path ++ name, body, ctx.scopes, library⟩) begun =
      .ok () after) :
    runStmt ctx call (.define line name ⟨false, none, false⟩ body) m = .ok .next after := by
  have hmake : makeFunction ctx name body begun =
      .ok (.function ⟨ctx.path ++ name, body, ctx.scopes, library⟩) begun :=
    Run.bind_of_eq_ok hlibrary
  rw [runStmt, Run.bind_of_eq_ok hpass]
  change (makeFunction ctx name body >>= _) begun = _
  rw [Run.bind_of_eq_ok hmake, Run.bind_of_eq_ok hbind]
  rfl

theorem evalExpr_name {call : Invoke} {id : String} {place : Nat} {v : Value}
    (hid : id ≠ unbindableName) (h : Run.read ctx id place m = .ok v m) :
    evalExpr ctx call (.name place id) m = .ok v m := by
  rw [evalExpr, if_neg hid, h]

/-- A call of a name without arguments calls what the name means. -/
theorem evalExpr_call {call : Invoke} {id : String} {place : Nat} {v : Value}
    (hid : id ≠ unbindableName) (h : Run.read ctx id place m = .ok v m) (line : Nat) :
    evalExpr ctx call (.call line (.name place id) [] []) m = apply call v [] line m := by
  rw [evalExpr, Run.bind_of_eq_ok (evalExpr_name hid h), evalExpr.evalArgs]
  rfl

/-- A range of one bound. -/
theorem evalExpr_range {place : Nat} (h : Run.read ctx countingName place m = .ok .counting m)
    (call : Invoke) (line l bound : Nat) :
    evalExpr ctx call (.call line (.name place countingName) [.literal l (.int bound)] []) m =
      .ok (.range 0 1 (rangeCount 0 bound 1)) m := by
  rw [evalExpr, Run.bind_of_eq_ok (evalExpr_name (by decide) h), evalExpr.evalArgs,
    evalExpr.evalArgs, evalExpr]
  rfl

/-- Outside of functions, a loop that counts with the name of a command takes the command away: a call
of the name fails from then on. -/
theorem evalExpr_counter {call : Invoke} {c : Primitive} {i : Int} {bound : Machine}
    (hctx : ctx.scopes = []) (h : Run.bind ctx c.name (.int i) m = .ok () bound) (line place : Nat) :
    evalExpr ctx call (.call line (.name place c.name) [] []) bound =
      .error (.error (.notCallable "int") line) bound := by
  have hbound : bound = { m with globals := m.globals.set c.name (.int i) } := by
    rw [Run.bind, hctx] at h
    cases h
    rfl
  have hread : Run.read ctx c.name place bound = .ok (.int i) bound := by
    have hscopes : ∀ s ∈ ctx.scopes, c.name ∉ s.names := by
      rw [hctx]
      exact nofun
    rw [read_eq_globalValue hscopes, hbound, globalValue_of_find? (Bindings.find?_set _ _ _)]
  rw [evalExpr_call (c.name_ne (by decide)) hread]
  rfl

/-- Wherever a program comes that binds neither its name nor the library's, it can count. -/
theorem Visits.read_counting {restrictions : Restrictions} {tree : Tree} {s : Session} {w : World}
    {budget : Int} {limit : TimeLimit} {seconds : Binary64} {time : Nat} {p : Point}
    (hp : Visits seconds tree ⟨s.log, s.globals, #[], time⟩ p)
    (hlanguage : tree.InLanguage restrictions)
    (hs : Session.start (.start w budget) restrictions.commands limit = .ok s)
    (hb : ¬ tree.outline.Binds countingName) (hl : ¬ tree.outline.Binds libraryName) (line : Nat) :
    Run.read p.ctx countingName line p.machine = .ok .counting p.machine := by
  have hfollows := hp.follows hlanguage.follows (tame_of_start hs rfl time)
  exact hfollows.tame.read_counting hfollows.situated hb hl line

/-- At every point to which the execution of an accepted program comes, a command that may be used is
what its name means, and a call of it gives the command, unless a loop of the program counts with its
name. The counting function and the library have their names unless the program binds them. -/
theorem commands_keep_names {restrictions : Restrictions} {text : String} {tree : Tree}
    (hreview : review restrictions text = .ok tree) {w : World} {budget : Int} {limit : TimeLimit}
    {s : Session} (hs : Session.start (.start w budget) restrictions.commands limit = .ok s)
    {seconds : Binary64} {time : Nat} {p : Point}
    (hp : Visits seconds tree ⟨s.log, s.globals, #[], time⟩ p) :
    (∀ c : Primitive, c.name ∈ restrictions.commandNames → c.name ∉ blockLoopVariables tree →
      ∀ line, Run.read p.ctx c.name line p.machine = .ok (.primitive c) p.machine) ∧
    (∀ line place id args keywords,
      p.task = .expr (.call line (.name place id) args keywords) → id ∈ Primitive.names →
      id ∉ blockLoopVariables tree → ∃ c : Primitive, c.name = id ∧
        evalExpr p.ctx (invoke seconds p.depth) (.call line (.name place id) args keywords)
          p.machine = Run.command c line p.machine) ∧
    (libraryName ∉ blockLoopVariables tree → libraryName ∉ blockFunctionNames tree →
      (∀ line, Run.read p.ctx libraryName line p.machine = .ok .library p.machine) ∧
      (countingName ∉ blockLoopVariables tree →
        ∀ line, Run.read p.ctx countingName line p.machine = .ok .counting p.machine)) := by
  obtain ⟨-, -, -, hlanguage, -⟩ := review_eq_ok_iff.mp hreview
  have hfollows := hp.follows hlanguage.follows (tame_of_start hs rfl time)
  have hbinds {n : String} (hr : n ∈ reservedNames) (hn : n ∉ blockLoopVariables tree) :
      ¬ tree.outline.Binds n :=
    fun h => h.elim hn fun hf => hlanguage.functionNames_not_reserved n hf hr
  have hread {c : Primitive} (hc : c.name ∈ restrictions.commandNames)
      (hn : c.name ∉ blockLoopVariables tree) (line : Nat) :
      Run.read p.ctx c.name line p.machine = .ok (.primitive c) p.machine := by
    have hb := hbinds (List.mem_append_left _ c.name_mem_names) hn
    exact hfollows.tame.read_fixed hfollows.situated (List.mem_cons_of_mem _ hc) hb
      (initialMeaning?_name c) line
  refine ⟨fun c hc hn => hread hc hn, ?_, fun hloop hfun => ⟨?_, ?_⟩⟩
  · intro line place id args keywords htask hid hn
    -- the call stands in a program of the language, so its name is that of an allowed command
    obtain ⟨c, hc, rfl⟩ := List.mem_map.mp hid
    have hcall := hfollows.task
    rw [htask] at hcall
    obtain ⟨hcalled, hargs, rfl, -⟩ := hcall
    obtain rfl := hargs.resolve_left (c.name_ne (by decide))
    have hname := hread (hlanguage.command_of_call hcalled) hn place
    exact ⟨c, rfl, evalExpr_call (c.name_ne (by decide)) hname line⟩
  · intro line
    exact hfollows.tame.read_fixed hfollows.situated List.mem_cons_self
      (fun h => h.elim hloop hfun) rfl line
  · intro hn line
    refine hp.read_counting hlanguage hs (hbinds ?_ hn) (fun h => h.elim hloop hfun) line
    exact List.mem_append_right _ List.mem_cons_self

theorem exists_currentLibrary (m : Machine) : ∃ library, currentLibrary m = .ok library m := by
  simp only [currentLibrary, Run.get_bind]
  cases m.globals.find? libraryName with
  | none => exact ⟨_, rfl⟩
  | some v => cases v <;> exact ⟨_, rfl⟩

def loopBody : List Stmt :=
  [.forLoop 2 (.name 2 "i") (.call 2 (.name 2 "range") [.literal 2 (.int 2)] [])
    [.expr 2 (.call 2 (.name 2 "move") [] [])] []]

def loopInFunction : Tree :=
  [.define 1 "ahead" ⟨false, none, false⟩ loopBody, .expr 3 (.call 3 (.name 3 "ahead") [] [])]

def isLoopInFunction : Except Rejection Tree → Bool
  | .ok [.define 1 ahead signature
      [.forLoop 2 (.name 2 i) (.call 2 (.name 2 range) [.literal 2 (.int 2)] [])
        [.expr 2 (.call 2 (.name 2 move) [] [])] []],
      .expr 3 (.call 3 (.name 3 ahead') [] [])] =>
    [ahead, i, range, move, ahead'] = ["ahead", "i", "range", "move", "ahead"] ∧
      signature = ⟨false, none, false⟩
  | _ => false

theorem eq_of_isLoopInFunction {x : Except Rejection Tree} (h : isLoopInFunction x = true) :
    x = .ok loopInFunction := by
  unfold isLoopInFunction at h
  split at h
  · obtain ⟨⟨rfl, rfl, rfl, rfl, rfl, -⟩, rfl⟩ := by simpa using of_decide_eq_true h
    rfl
  · cases h

/-- The command in the loop is reached after the function was bound for the whole program and, in its
call, the variable of the loop to a number. -/
theorem commands_keep_names_loopInFunction :
    ∃ s p, review {} "def ahead():\n    for i in range(2): move()\nahead()" = .ok loopInFunction ∧
      Session.start (.start .default 10) none (.ofInt 10) = .ok s ∧
      Visits (.finite false 1 0) loopInFunction ⟨s.log, s.globals, #[], 10⟩ p ∧
      p.task = .expr (.call 2 (.name 2 "move") [] []) ∧
      (∃ f, p.machine.globals.find? "ahead" = some (.function f)) ∧
      Run.read p.ctx "i" 2 p.machine = .ok (.int 0) p.machine ∧
      evalExpr p.ctx (invoke (.finite false 1 0) p.depth) (.call 2 (.name 2 "move") [] [])
        p.machine = Run.command (.action .move) 2 p.machine := by
  have htree : review {} "def ahead():\n    for i in range(2): move()\nahead()" =
      .ok loopInFunction := eq_of_isLoopInFunction (by decide +kernel)
  have hok : (Session.start (.start .default 10) none (.ofInt 10)).isOk = true := by
    decide +kernel
  obtain ⟨s, hs⟩ := exists_eq_ok_of_isOk hok
  obtain ⟨-, -, -, hlanguage, -⟩ := review_eq_ok_iff.mp htree
  have hbinds {n : String} (hn : n ∉ ["i", "ahead"]) : ¬ loopInFunction.outline.Binds n := by
    rintro (h | h)
    · exact hn (List.mem_cons.mpr (.inl (List.mem_singleton.mp h)))
    · exact hn (List.mem_cons_of_mem _ h)
  obtain ⟨library, hl⟩ := exists_currentLibrary ⟨s.log, s.globals, #[], 10⟩
  let f : Function := ⟨"ahead", loopBody, [], library⟩
  let globals := s.globals.set "ahead" (.function f)
  have hstart : Relation.ReflTransGen (Step (.finite false 1 0))
    ⟨maxCalls, ⟨[], library, "", .finite false 1 0⟩, .block loopInFunction,
      ⟨s.log, s.globals, #[], 10⟩⟩ _ := .refl
  -- the definition, the call with its argument list, and the loop in the body of the function
  have hdefined := hstart.tail (.within (.tail (runStmt_define rfl (currentLibrary_congr hl rfl) rfl)))
  have hcalled := (hdefined.tail (.within .head)).tail (.within (.value rfl))
  have hahead : Run.read ⟨[], library, "", .finite false 1 0⟩ "ahead" 3 ⟨s.log, globals, #[], 8⟩ =
      .ok (.function f) ⟨s.log, globals, #[], 8⟩ := by
    rw [read_eq_globalValue]
    · exact globalValue_of_find? (Bindings.find?_set _ _ _) 3
    · exact nofun
  have hbody := hcalled.tail (.call (evalExpr_name (by decide) hahead) rfl rfl)
  have hloop := hbody.tail (.within .head)
  have hbound := hloop.tail (.within (.iterable rfl))
  have hrange := Visits.read_counting ⟨library, hl, hbound⟩ hlanguage hs (hbinds (by decide))
    (hbinds (by decide)) 2
  have hranged := evalExpr_range hrange (invoke (.finite false 1 0) 959) 2 2 2
  have hcounted := (hloop.tail (.within (.forLoop rfl hranged))).tail (.within (.forBody rfl rfl))
  have hmove := (hcounted.tail (.within .head)).tail (.within (.value rfl))
  obtain ⟨-, hcalls, -⟩ := commands_keep_names htree hs ⟨library, hl, hmove⟩
  obtain ⟨c, hc, heval⟩ := hcalls 2 2 "move" [] [] rfl (by decide) (by decide)
  obtain rfl : c = .action .move := Primitive.name_injective hc
  exact ⟨s, _, htree, hs, ⟨library, hl, hmove⟩, rfl, ⟨f, Bindings.find?_set _ _ _⟩, rfl,
    heval⟩

/-- A program that counts with the name of a command is accepted, and its call of the command fails. -/
theorem counted_move_not_callable :
    (review {} "for move in range(1): pass\nmove()").isOk = true ∧
      (record "for move in range(1): pass\nmove()" ⟨.default, none, 10, .ofInt 10⟩).toOption =
        some ⟨#[], some (Fault.error (.notCallable "int") 2).report⟩ := by
  decide +kernel

end KarelLab.Execution
