import KarelLab.Proofs.Except
import KarelLab.Proofs.Execution.Kept
import KarelLab.Proofs.Execution.Record

/-!
# Sessions that are registered again

Programs leave traces among the names of a session: they bind names of their own, and they can give
other values to the names that belong to the session. What they bind is dropped after each program,
however it ends, and what belongs to the session stays in its place. So a session that is registered
again is the one that would begin anew on the same log.
-/

namespace KarelLab.Execution

open Program

namespace Bindings

def names (bs : Bindings) : List String := bs.map (·.1)

variable {bs cs : Bindings} {n : String} {v : Value}

theorem mem_names_iff : n ∈ bs.names ↔ ∃ v, bs.find? n = some v := by
  constructor
  · intro h
    obtain ⟨⟨k, v⟩, hb, rfl⟩ := List.mem_map.mp h
    exact exists_find? hb
  · rintro ⟨v, hv⟩
    exact List.mem_map.mpr ⟨(n, v), mem_of_find? hv, rfl⟩

theorem names_set_of_mem (h : n ∈ bs.names) (v : Value) : (bs.set n v).names = bs.names := by
  induction bs with
  | nil => cases h
  | cons c rest ih =>
    rw [set]
    split
    · rename_i hc
      subst hc
      rfl
    · rename_i hc
      have hrest : n ∈ Bindings.names rest := (List.mem_cons.mp h).resolve_left fun hn => hc hn.symm
      exact congrArg (c.1 :: ·) (ih hrest)

theorem names_set_of_notMem (h : n ∉ bs.names) (v : Value) :
    (bs.set n v).names = bs.names ++ [n] := by
  induction bs with
  | nil => rfl
  | cons c rest ih =>
    have hc : ¬ c.1 = n := fun hc => h (List.mem_cons.mpr (.inl hc.symm))
    have hrest : n ∉ Bindings.names rest := fun hn => h (List.mem_cons_of_mem _ hn)
    rw [set, if_neg hc]
    exact congrArg (c.1 :: ·) (ih hrest)

theorem nodup_names_set (h : bs.names.Nodup) (n : String) (v : Value) :
    (bs.set n v).names.Nodup := by
  by_cases hn : n ∈ bs.names
  · rwa [names_set_of_mem hn]
  · rw [names_set_of_notMem hn, List.nodup_append]
    refine ⟨h, List.nodup_singleton n, fun a ha b hb => ?_⟩
    rw [List.mem_singleton.mp hb]
    exact ne_of_mem_of_not_mem ha hn

/-- Bindings of the same names in the same order are equal if every name has the same value. -/
theorem eq_of_find? (hnames : bs.names = cs.names) (hn : bs.names.Nodup)
    (h : ∀ n ∈ bs.names, bs.find? n = cs.find? n) : bs = cs := by
  induction bs generalizing cs with
  | nil => exact (List.map_eq_nil_iff.mp hnames.symm).symm
  | cons b rest ih =>
    cases cs with
    | nil => cases hnames
    | cons c rest' =>
      obtain ⟨hkey, hrest⟩ := List.cons.inj hnames
      obtain ⟨hfresh, hnodup⟩ := List.nodup_cons.mp hn
      have hhead : b.2 = c.2 := by
        have hfind := h b.1 List.mem_cons_self
        rw [find?, find?, List.find?_cons_of_pos (by simp), List.find?_cons_of_pos (by simp [hkey])]
          at hfind
        exact Option.some.inj hfind
      have htail (n : String) (hn : n ∈ Bindings.names rest) :
          Bindings.find? rest n = Bindings.find? rest' n := by
        have hb : b.1 ≠ n := by
          rintro rfl
          exact hfresh hn
        have hfind := h n (List.mem_cons_of_mem _ hn)
        rw [find?, find?, List.find?_cons_of_neg (by simpa using hb),
          List.find?_cons_of_neg (by simpa [← hkey] using hb)] at hfind
        exact hfind
      rw [ih hrest hnodup htail, Prod.ext hkey hhead]

end Bindings

/-! ## What is kept of the names of the whole program -/

section Globals

variable {J : Bindings → Prop} {ctx : Context} {call : Invoke} {α : Type}

def OnGlobals (J : Bindings → Prop) (m : Machine) : Prop := J m.globals

def KeepsGlobals (J : Bindings → Prop) (call : Invoke) : Prop :=
  ∀ (f : Function) (line : Nat), Run.Upholds (OnGlobals J) (call f line) fun _ => True

theorem Run.Upholds.read {I : Machine → Prop} (ctx : Context) (n : String) (line : Nat) :
    Run.Upholds I (Run.read ctx n line) fun _ => True := by
  intro m hm
  -- the machine is only looked at
  rcases read_cases ctx n line m with ⟨v, -, h⟩ | ⟨-, h | ⟨f, h⟩⟩
  · rw [h]
    exact ⟨hm, trivial⟩
  · rw [h]
    exact ⟨hm, trivial⟩
  · rw [h]
    exact hm

theorem Run.Upholds.currentLibrary {I : Machine → Prop} :
    Run.Upholds I Execution.currentLibrary fun _ => True := by
  refine .look fun m _ => ?_
  split <;> exact .pure trivial

namespace KeepsGlobals

theorem pass (ctx : Context) (line : Nat) :
    Run.Upholds (OnGlobals J) (Run.pass ctx line) fun _ => True := by
  refine .look fun m _ => ?_
  cases m.time with
  | zero => exact fun m hm => hm
  | succ n => exact .change fun m hm => hm

theorem command (p : Primitive) (line : Nat) :
    Run.Upholds (OnGlobals J) (Run.command p line) fun _ => True := by
  intro m hm
  unfold Run.command
  rcases m.log.command p (some line) with ⟨answer | answer, log⟩
  · exact hm
  · exact ⟨hm, trivial⟩

theorem bind (hJ : ∀ bs n v, J bs → J (bs.set n v)) (ctx : Context) (n : String) (v : Value) :
    Run.Upholds (OnGlobals J) (Run.bind ctx n v) fun _ => True := by
  unfold Run.bind
  split
  · exact .change fun m hm => hJ _ _ _ hm
  · exact .change fun m hm => hm

theorem openCall : Run.Upholds (OnGlobals J) Run.openCall fun _ => True :=
  fun _ hm => ⟨hm, trivial⟩

theorem closeCall (place : Nat) (body : List Stmt) :
    Run.Upholds (OnGlobals J) (Run.closeCall place body) fun _ => True := by
  unfold Run.closeCall
  split
  · refine .change fun m hm => ?_
    split <;> exact hm
  · exact .pure trivial

theorem apply (h : KeepsGlobals J call) (f : Value) (args : List Value) (line : Nat) :
    Run.Upholds (OnGlobals J) (apply call f args line) fun _ => True := by
  unfold Execution.apply
  split
  · split
    · exact command _ _
    · exact .raise _ _
  · exact .makeRange _ _
  · split
    · exact h _ _
    · exact .raise _ _
  · exact .raise _ _

mutual

theorem expr (h : KeepsGlobals J call) (ctx : Context) : (e : Expr) →
    Run.Upholds (OnGlobals J) (evalExpr ctx call e) fun _ => True
  | .name line id => by
    rw [evalExpr]
    split
    · exact .pure trivial
    · exact .read ctx id line
  | .literal line v => by
    rw [evalExpr]
    exact .pure trivial
  | .not line e => by
    rw [evalExpr]
    exact (h.expr ctx e).bind fun _ _ => .pure trivial
  | .junction line op es => by
    rw [evalExpr]
    exact h.junction ctx op es
  | .call line f args keywords => by
    rw [evalExpr]
    refine (h.expr ctx f).bind fun f _ => (h.args ctx args).bind fun args _ => ?_
    split
    · exact h.apply f args line
    · exact .raise _ _
  | .other line form parts => by
    rw [evalExpr]
    exact .raise _ _

theorem junction (h : KeepsGlobals J call) (ctx : Context) (op : Connective) : (es : List Expr) →
    Run.Upholds (OnGlobals J) (evalExpr.evalJunction ctx call op es) fun _ => True
  | [] => by
    rw [evalExpr.evalJunction]
    exact .pure trivial
  | [e] => by
    rw [evalExpr.evalJunction]
    exact h.expr ctx e
  | e :: e' :: rest => by
    rw [evalExpr.evalJunction]
    · refine (h.expr ctx e).bind fun v _ => ?_
      split
      · exact .pure trivial
      · exact h.junction ctx op (e' :: rest)
    -- the list is not the one of the case before
    · simp

theorem args (h : KeepsGlobals J call) (ctx : Context) : (es : List Expr) →
    Run.Upholds (OnGlobals J) (evalExpr.evalArgs ctx call es) fun _ => True
  | [] => by
    rw [evalExpr.evalArgs]
    exact .pure trivial
  | e :: rest => by
    rw [evalExpr.evalArgs]
    exact (h.expr ctx e).bind fun v _ => (h.args ctx rest).bind fun _ _ => .pure trivial

end

mutual

theorem stmt (h : KeepsGlobals J call) (hJ : ∀ bs n v, J bs → J (bs.set n v)) (ctx : Context) :
    (s : Stmt) → Run.Upholds (OnGlobals J) (runStmt ctx call s) fun _ => True
  | .expr line e => by
    rw [runStmt]
    exact (pass ctx line).bind fun _ _ => (h.expr ctx e).bind fun _ _ => .pure trivial
  | .pass line | .breakLoop line | .continueLoop line | .giveBack line none => by
    rw [runStmt]
    exact (pass ctx line).bind fun _ _ => .pure trivial
  | .giveBack line (some e) => by
    rw [runStmt]
    exact (pass ctx line).bind fun _ _ => (h.expr ctx e).bind fun _ _ => .pure trivial
  | .define line name signature body => by
    have hmake : Run.Upholds (OnGlobals J) (makeFunction ctx name body) fun _ => True :=
      Run.Upholds.currentLibrary.bind fun _ _ => .pure trivial
    have hbind : Run.Upholds (OnGlobals J)
        (makeFunction ctx name body >>= fun f => Run.bind ctx name f >>= fun _ => pure Flow.next)
        fun _ => True :=
      hmake.bind fun f _ => (bind hJ ctx name f).bind fun _ _ => .pure trivial
    rw [runStmt]
    refine (pass ctx line).bind fun _ _ => ?_
    split
    · exact (Run.Upholds.raise (P := fun _ => True) _ _).bind fun _ _ => hbind
    · exact hbind
  | .branch line test body orelse => by
    rw [runStmt]
    refine (pass ctx line).bind fun _ _ => (h.expr ctx test).bind fun v _ => ?_
    split
    · exact h.block hJ ctx body
    · exact h.block hJ ctx orelse
  | .whileLoop line test body orelse => by
    rw [runStmt]
    refine .look fun m _ => ?_
    exact ((pass ctx line).repeatWhile (h.expr ctx test) (h.block hJ ctx body) _).bind
      fun e _ => (h.block hJ ctx orelse).afterLoop e
  | .forLoop line target iterable body orelse => by
    rw [runStmt]
    refine (pass ctx line).bind fun _ _ => (h.expr ctx iterable).bind fun items _ => ?_
    split
    · rename_i id
      exact ((pass ctx line).repeatFor (fun i => bind hJ ctx id (.int i)) (h.block hJ ctx body)
        _ _ _).bind fun e _ => (h.block hJ ctx orelse).afterLoop e
    · exact .raise _ _
    · exact .raise _ _
  | .other line form inner => by
    rw [runStmt]
    exact .raise _ _

theorem block (h : KeepsGlobals J call) (hJ : ∀ bs n v, J bs → J (bs.set n v)) (ctx : Context) :
    (ss : List Stmt) → Run.Upholds (OnGlobals J) (runStmt.runBlock ctx call ss) fun _ => True
  | [] => by
    rw [runStmt.runBlock]
    exact .pure trivial
  | s :: rest => by
    rw [runStmt.runBlock]
    refine (h.stmt hJ ctx s).bind fun flow _ => ?_
    cases flow with
    | next => exact h.block hJ ctx rest
    | broke | continued | returned v => exact .pure trivial

end

end KeepsGlobals

theorem keepsGlobals_invoke (hJ : ∀ bs n v, J bs → J (bs.set n v)) (limit : Binary64) (n : Nat) :
    KeepsGlobals J (invoke limit n) := by
  -- on the depth of calls: a function calls others one level deeper only
  induction n with
  | zero => exact fun f line => .raise _ _
  | succ n ih =>
    intro f line
    refine KeepsGlobals.openCall.bind fun place _ => (ih.block hJ _ f.body).bind fun flow _ =>
      (KeepsGlobals.closeCall place f.body).bind fun _ _ => ?_
    split <;> exact .pure trivial

/-- What holds of the names of the whole program and outlasts every binding outlasts every program. -/
theorem upholds_runProgram (hJ : ∀ bs n v, J bs → J (bs.set n v)) (limit : Binary64) (tree : Tree) :
    Run.Upholds (OnGlobals J) (runProgram limit tree) fun _ => True :=
  Run.Upholds.currentLibrary.bind fun _ _ =>
    Run.Upholds.bind (P := fun _ => True)
      ((keepsGlobals_invoke hJ limit maxCalls).block hJ _ tree) fun _ _ => .pure trivial

end Globals

/-! ## Registration -/

namespace Session

def keptNames (fixed : List String) (bs : Bindings) : List String :=
  bs.names.filter (fixed.contains ·)

/-- To set a name changes nothing of the order of names that are set already. -/
theorem keptNames_set {fixed kept : List String} (hfixed : ∀ n ∈ fixed, n ∈ kept) {bs : Bindings}
    (h : keptNames fixed bs = kept) (n : String) (v : Value) :
    keptNames fixed (bs.set n v) = kept := by
  by_cases hn : n ∈ bs.names
  · rw [keptNames, Bindings.names_set_of_mem hn]
    exact h
  · -- a new name is none of the fixed ones, which are all there
    have hfresh : n ∉ fixed := by
      intro hf
      have hkept := hfixed n hf
      rw [← h] at hkept
      exact hn (List.mem_filter.mp hkept).1
    rw [keptNames, Bindings.names_set_of_notMem hn, List.filter_append,
      List.filter_singleton, ← keptNames, h]
    simp [hfresh]

/-- What registration sets: every name gets the command of that name, and names that are there keep
their place. -/
structure Registered (names : List String) (before after : Bindings) : Prop where
  set : ∀ n ∈ names, ∃ p, Primitive.ofName? n = some p ∧ after.find? n = some (.primitive p)
  kept : ∀ n ∉ names, after.find? n = before.find? n
  nodup : before.names.Nodup → after.names.Nodup
  places : (∀ n ∈ names, n ∈ before.names) → after.names = before.names

theorem registered {names : List String} {before after : Bindings}
    (h : registerNames names before = .ok after) : Registered names before after := by
  induction names generalizing before with
  | nil =>
    cases h
    exact ⟨nofun, fun _ _ => rfl, id, fun _ => rfl⟩
  | cons name rest ih =>
    rw [registerNames] at h
    split at h
    · rename_i p hp
      have hrest := ih h
      refine ⟨fun n hn => ?_, fun n hn => ?_, fun hb => ?_, fun hb => ?_⟩
      · by_cases hagain : n ∈ rest
        · exact hrest.set n hagain
        · obtain rfl := (List.mem_cons.mp hn).resolve_right hagain
          exact ⟨p, hp, (hrest.kept n hagain).trans (Bindings.find?_set _ _ _)⟩
      · have hne : n ≠ name := fun hname => hn (hname ▸ List.mem_cons_self)
        rw [hrest.kept n fun hagain => hn (List.mem_cons_of_mem _ hagain),
          Bindings.find?_set_of_ne hne]
      · exact hrest.nodup (Bindings.nodup_names_set hb _ _)
      · have hsame := Bindings.names_set_of_mem (hb name List.mem_cons_self) (.primitive p)
        rw [hrest.places fun n hn => hsame ▸ hb n (List.mem_cons_of_mem _ hn), hsame]
    · cases h

variable {s t : Session} {log : Log} {allowed : Option (List String)} {limit : TimeLimit}

def afterPrograms (s : Session) (texts : List String) : Session :=
  texts.foldl (fun s text => (s.execute text).2) s

/-- The names of the library and of the allowed commands, in the order of a new session. -/
structure Furnished (s : Session) (names : List String) : Prop where
  names_eq : s.globals.names = names
  fixed : ∀ n, n ∈ s.fixedNames ↔ n ∈ names

theorem names_clear (s : Session) :
    s.clear.globals.names = keptNames s.fixedNames s.globals := by
  rw [keptNames, Bindings.names, Bindings.names, List.filter_map]
  rfl

theorem keptNames_of_fixed {fixed : List String} {bs : Bindings} (h : ∀ n ∈ bs.names, n ∈ fixed) :
    keptNames fixed bs = bs.names := by
  rw [keptNames, List.filter_eq_self]
  intro n hn
  exact List.contains_iff_mem.mpr (h n hn)

/-- A program leaves a session with the same names, allowed commands and limit. -/
theorem Furnished.execute {names : List String} (h : s.Furnished names) (text : String) :
    (s.execute text).2.Furnished names ∧ (s.execute text).2.allowed = s.allowed ∧
      (s.execute text).2.limit = s.limit := by
  have hkept : keptNames s.fixedNames s.globals = names := by
    rw [keptNames_of_fixed fun n hn => (h.fixed n).mpr (h.names_eq ▸ hn), h.names_eq]
  -- every way in which a program can end goes through the same clearing
  have hclear {t : Session} (hallowed : t.allowed = s.allowed) (hlimit : t.limit = s.limit)
      (ht : keptNames s.fixedNames t.globals = names) :
      t.clear.Furnished names ∧ t.clear.allowed = s.allowed ∧ t.clear.limit = s.limit := by
    have hfixed : t.fixedNames = s.fixedNames := by rw [fixedNames, hallowed, fixedNames]
    refine ⟨⟨?_, fun n => ?_⟩, hallowed, hlimit⟩
    · rw [names_clear, hfixed, ht]
    · rw [← h.fixed n, ← hfixed]
      rfl
  unfold Session.execute
  split
  · exact hclear rfl rfl hkept
  · rename_i tree _
    split
    · exact hclear rfl rfl hkept
    · rename_i seconds _
      -- the names that belong to the session keep their order while the program runs
      have hrun := upholds_runProgram (J := fun bs => keptNames s.fixedNames bs = names)
        (fun bs n v hb => keptNames_set (fun n hn => (h.fixed n).mp hn) hb n v) seconds tree
        ⟨s.log, s.globals, #[], TimeLimit.steps seconds⟩ hkept
      split
      · rename_i m hm
        rw [hm] at hrun
        exact hclear rfl rfl hrun.1
      · rename_i f m hm
        rw [hm] at hrun
        exact hclear rfl rfl hrun

theorem Furnished.afterPrograms {names : List String} (h : s.Furnished names) (texts : List String) :
    (s.afterPrograms texts).Furnished names ∧ (s.afterPrograms texts).allowed = s.allowed ∧
      (s.afterPrograms texts).limit = s.limit := by
  -- on the programs, each of which leaves what the next one finds
  induction texts generalizing s with
  | nil => exact ⟨h, rfl, rfl⟩
  | cons text rest ih =>
    obtain ⟨hnext, hallowed, hlimit⟩ := h.execute text
    obtain ⟨hlast, hallowed', hlimit'⟩ := ih hnext
    exact ⟨hlast, hallowed'.trans hallowed, hlimit'.trans hlimit⟩

theorem library_notMem {names : List String} {before after : Bindings}
    (h : Registered names before after) : libraryName ∉ names := by
  intro hn
  obtain ⟨p, hp, -⟩ := h.set _ hn
  have hnone : Primitive.ofName? libraryName = none := by decide
  rw [hnone] at hp
  cases hp

/-- The names of a session that has just been registered have the values that belong to them. -/
theorem Registered.find?_eq {names : List String} {before before' after after' : Bindings}
    (h : Registered names (before.set libraryName .library) after)
    (h' : Registered names (before'.set libraryName .library) after') {n : String}
    (hn : n ∈ libraryName :: names) : after.find? n = after'.find? n ∧ ∃ v, after.find? n = some v := by
  rcases List.mem_cons.mp hn with rfl | hn
  · have hout := library_notMem h
    rw [h.kept _ hout, h'.kept _ hout, Bindings.find?_set, Bindings.find?_set]
    exact ⟨rfl, _, rfl⟩
  · obtain ⟨p, hp, hv⟩ := h.set n hn
    obtain ⟨p', hp', hv'⟩ := h'.set n hn
    obtain rfl := Option.some.inj (hp.symm.trans hp')
    exact ⟨hv.trans hv'.symm, _, hv⟩

/-- What begins with a session that has been started. -/
theorem start_eq_ok (h : start log allowed limit = .ok s) :
    s.log = log ∧ s.allowed = allowed.getD Primitive.names ∧ s.limit = limit ∧
      registerNames s.allowed (Bindings.set libraryName .library []) = .ok s.globals := by
  rw [start_eq, map_eq_ok_iff] at h
  obtain ⟨globals, hg, rfl⟩ := h
  exact ⟨rfl, rfl, rfl, hg⟩

theorem furnished_of_start (h : start log allowed limit = .ok s) :
    s.Furnished s.globals.names ∧ s.globals.names.Nodup := by
  obtain ⟨-, -, -, hg⟩ := start_eq_ok h
  have hr := registered hg
  refine ⟨⟨rfl, fun n => ⟨fun hn => ?_, fun hn => ?_⟩⟩, hr.nodup (List.nodup_singleton _)⟩
  · exact Bindings.mem_names_iff.mpr (hr.find?_eq hr hn).2
  · -- a name that no command has was there before the commands, so it is the library's
    by_cases hnames : n ∈ s.allowed
    · exact List.mem_cons_of_mem _ hnames
    · obtain ⟨v, hv⟩ := Bindings.mem_names_iff.mp hn
      rw [hr.kept n hnames] at hv
      have hlibrary : n ∈ Bindings.names (Bindings.set libraryName .library []) :=
        Bindings.mem_names_iff.mpr ⟨v, hv⟩
      rw [List.mem_singleton.mp hlibrary]
      exact List.mem_cons_self

/-- A session of the same allowed commands and with the same names registers the same values. -/
theorem register_eq_ok (hs : start log allowed limit = .ok s) (ht : t.Furnished s.globals.names)
    (hallowed : t.allowed = s.allowed) :
    t.register = .ok { t with globals := s.globals } := by
  obtain ⟨-, -, -, hg⟩ := start_eq_ok hs
  obtain ⟨hfurnished, hnodup⟩ := furnished_of_start hs
  have hr := registered hg
  obtain ⟨globals, hglobals⟩ : ∃ globals,
      registerNames t.allowed (t.globals.set libraryName .library) = .ok globals := by
    refine registerNames_isOk (fun n hn => ?_) _
    obtain ⟨p, hp, -⟩ := hr.set n (hallowed ▸ hn)
    rw [← Primitive.name_of_ofName? hp]
    exact p.name_mem_names
  have hr' := registered hglobals
  have hlibrary : (t.globals.set libraryName .library).names = s.globals.names := by
    rw [Bindings.names_set_of_mem, ht.names_eq]
    rw [ht.names_eq]
    exact (ht.fixed _).mp List.mem_cons_self
  have hnames : globals.names = s.globals.names := by
    rw [hr'.places, hlibrary]
    intro n hn
    rw [hlibrary]
    exact (ht.fixed n).mp (List.mem_cons_of_mem _ hn)
  have hsame : globals = s.globals := by
    -- the same names in the same order, each set to the value that belongs to it
    refine Bindings.eq_of_find? hnames (hnames ▸ hnodup) fun n hn => ?_
    rw [hallowed] at hr'
    exact (hr'.find?_eq hr ((hfurnished.fixed n).mpr (hnames ▸ hn))).1
  unfold register
  rw [hglobals, hsame]
  rfl

/-- After any programs that were run in a session, however they ended, the session has the names that it
began with, and they belong to it. Registered again it is the very session that would begin anew on the
log to which it has come, with the world and the budget that are left. So whatever is run then gives the
same commands at the same lines and ends in the same way. -/
theorem registered_again_is_new (hs : start log allowed limit = .ok s) (texts : List String) :
    (s.afterPrograms texts).globals.names = s.globals.names ∧
    (∀ b ∈ (s.afterPrograms texts).globals, b.1 ∈ (s.afterPrograms texts).fixedNames) ∧
    ∃ renewed, (s.afterPrograms texts).register = .ok renewed ∧
      start (s.afterPrograms texts).log allowed limit = .ok renewed ∧
      renewed.log = (s.afterPrograms texts).log := by
  obtain ⟨hlog, hnames, hlimit, hg⟩ := start_eq_ok hs
  obtain ⟨hlast, hallowed, hlimit'⟩ := (furnished_of_start hs).1.afterPrograms texts
  -- registering writes to every name that is left, so what was bound to it is lost
  have hfresh : start (s.afterPrograms texts).log allowed limit =
      .ok { s.afterPrograms texts with globals := s.globals } := by
    rw [start_eq, ← hnames, hg, ← hlimit, ← hlimit', ← hallowed]
    rfl
  refine ⟨hlast.names_eq, fun b hb => ?_, _, register_eq_ok hs hlast hallowed, hfresh, rfl⟩
  rw [hlast.fixed, ← hlast.names_eq]
  exact List.mem_map_of_mem hb

/-- Programs that count with the name of a command, call a function of their own and run into the limit
on commands. -/
theorem registered_again_is_new_spoilt :
    ∃ s, start (.start .default 2) none (.ofInt 10) = .ok s ∧
      ∃ t renewed, s.afterPrograms ["for move in range(2): pass",
          "def ahead():\n    turn_left()\nahead()\nahead()\nahead()"] = t ∧
        t.log.ticks.size = 2 ∧ t.register = .ok renewed ∧
        start t.log none (.ofInt 10) = .ok renewed := by
  have heval : (start (.start .default 2) none (.ofInt 10)).toOption.map (fun s =>
      (s.afterPrograms ["for move in range(2): pass",
        "def ahead():\n    turn_left()\nahead()\nahead()\nahead()"]).log.ticks.size) = some 2 := by
    decide +kernel
  cases hs : start (.start .default 2) none (.ofInt 10) with
  | error u =>
    rw [hs] at heval
    cases heval
  | ok s =>
    rw [hs] at heval
    obtain ⟨-, -, renewed, hrenewed, hfresh, -⟩ := registered_again_is_new hs
      ["for move in range(2): pass", "def ahead():\n    turn_left()\nahead()\nahead()\nahead()"]
    exact ⟨s, rfl, _, renewed, rfl, Option.some.inj heval, hrenewed, hfresh⟩

end Session

end KarelLab.Execution
