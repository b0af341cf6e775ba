import KarelLab.Execution.Session
import KarelLab.Proofs.Program.Outline
import KarelLab.Proofs.Recording.Trace

/-!
# What names mean while a program runs

A running program gives names to its functions and to the numbers that its loops count; everything
else was there before it began. So a name never stands for a command of another name, and as long as
a program follows an outline, every command that it gives is a call that the outline lists.
-/

namespace KarelLab.Execution

open Program

/-! ## Parts of an execution that keep an invariant -/

namespace Run

variable {α β : Type} {I : Machine → Prop}

/-- A part of an execution that keeps an invariant, also when it fails, and gives only such values
as are expected. -/
def Upholds (I : Machine → Prop) (x : Run α) (P : α → Prop) : Prop :=
  ∀ m, I m →
    match x m with
    | .ok a after => I after ∧ P a
    | .error _ after => I after

theorem Upholds.pure {P : α → Prop} {a : α} (h : P a) : Upholds I (Pure.pure a) P :=
  fun _ hm => ⟨hm, h⟩

theorem Upholds.bind {x : Run α} {k : α → Run β} {P : α → Prop} {Q : β → Prop}
    (hx : Upholds I x P) (hk : ∀ a, P a → Upholds I (k a) Q) : Upholds I (x >>= k) Q := by
  intro m hm
  have h := hx m hm
  change match EStateM.bind x k m with
    | .ok a after => I after ∧ Q a
    | .error _ after => I after
  unfold EStateM.bind
  cases hxm : x m with
  | ok a after =>
    rw [hxm] at h
    exact hk a h.2 after h.1
  | error f after =>
    rw [hxm] at h
    exact h

theorem Upholds.mono {x : Run α} {P Q : α → Prop} (h : Upholds I x P) (hPQ : ∀ a, P a → Q a) :
    Upholds I x Q := by
  intro m hm
  have hx := h m hm
  cases hxm : x m with
  | ok a after =>
    rw [hxm] at hx
    exact ⟨hx.1, hPQ a hx.2⟩
  | error f after =>
    rw [hxm] at hx
    exact hx

theorem Upholds.raise {P : α → Prop} (e : RunError) (line : Nat) :
    Upholds I (Run.raise e line : Run α) P := fun _ hm => hm

theorem Upholds.change {f : Machine → Machine} (hf : ∀ m, I m → I (f m)) :
    Upholds I (modify f : Run PUnit) fun _ => True := fun m hm => ⟨hf m hm, trivial⟩

/-- What a part that went through has left and given. -/
theorem Upholds.of_ok {x : Run α} {P : α → Prop} (h : Upholds I x P) {m after : Machine} {a : α}
    (hm : I m) (hx : x m = .ok a after) : I after ∧ P a := by
  have hafter := h m hm
  rw [hx] at hafter
  exact hafter

/-- Looking at the machine does not change it. -/
theorem get_bind (k : Machine → Run β) (m : Machine) : (MonadState.get >>= k) m = k m m := rfl

/-- The machine is looked at where the invariant holds. -/
theorem Upholds.look {k : Machine → Run β} {Q : β → Prop} (h : ∀ m, I m → Upholds I (k m) Q) :
    Upholds I (MonadState.get >>= k) Q := fun m hm => h m hm m hm

end Run

/-! ## Bindings -/

namespace Bindings

theorem mem_of_find? {bs : Bindings} {n : String} {v : Value} (h : bs.find? n = some v) :
    (n, v) ∈ bs := by
  obtain ⟨b, hb, rfl⟩ := Option.map_eq_some_iff.mp h
  have hn : b.1 = n := by simpa using List.find?_some hb
  subst hn
  exact List.mem_of_find?_eq_some hb

theorem exists_find? {bs : Bindings} {n : String} {v : Value} (h : (n, v) ∈ bs) :
    ∃ w, bs.find? n = some w := by
  have hs : (List.find? (·.1 = n) bs).isSome := List.find?_isSome.mpr ⟨(n, v), h, by simp⟩
  obtain ⟨b, hb⟩ := Option.isSome_iff_exists.mp hs
  exact ⟨b.2, Option.map_eq_some_iff.mpr ⟨b, hb, rfl⟩⟩

theorem mem_of_mem_set {bs : Bindings} {n : String} {v : Value} {b : String × Value}
    (h : b ∈ set n v bs) : b = (n, v) ∨ b ∈ bs := by
  induction bs with
  | nil => exact .inl (List.mem_singleton.mp h)
  | cons c rest ih =>
    by_cases hc : c.1 = n
    · rw [set, if_pos hc] at h
      subst hc
      exact (List.mem_cons.mp h).imp_right (List.mem_cons_of_mem c)
    · rw [set, if_neg hc] at h
      rcases List.mem_cons.mp h with rfl | h
      · exact .inr List.mem_cons_self
      · exact (ih h).imp_right (List.mem_cons_of_mem c)

theorem mem_set (bs : Bindings) (n : String) (v : Value) : (n, v) ∈ set n v bs := by
  induction bs with
  | nil => exact List.mem_singleton_self _
  | cons c rest ih =>
    rw [set]
    split
    · rename_i hc
      subst hc
      exact List.mem_cons_self
    · exact List.mem_cons_of_mem c ih

theorem find?_set (bs : Bindings) (n : String) (v : Value) : (set n v bs).find? n = some v := by
  induction bs with
  | nil => simp [set, find?]
  | cons c rest ih =>
    rw [set]
    split
    · rename_i hc
      simp [find?, hc]
    · rename_i hc
      rw [find?, List.find?_cons_of_neg (by simpa using hc)]
      exact ih

/-- A name that has a value keeps one. -/
theorem exists_mem_set {bs : Bindings} {k : String} {w : Value} (h : (k, w) ∈ bs) (n : String)
    (v : Value) : ∃ u, (k, u) ∈ set n v bs := by
  induction bs with
  | nil => cases h
  | cons c rest ih =>
    rw [set]
    split
    · rename_i hc
      subst hc
      rcases List.mem_cons.mp h with rfl | h
      · exact ⟨v, List.mem_cons_self⟩
      · exact ⟨w, List.mem_cons_of_mem _ h⟩
    · rcases List.mem_cons.mp h with rfl | h
      · exact ⟨w, List.mem_cons_self⟩
      · obtain ⟨u, hu⟩ := ih h
        exact ⟨u, List.mem_cons_of_mem c hu⟩

end Bindings

/-! ## Meanings -/

/-- Where a part of a program of an outline stands: the functions around it bind names of the
outline, and its library was not replaced unless the program binds the name of the library. -/
structure Situated (o : Outline) (scopes : List LocalScope) (library : Library) : Prop where
  binds : ∀ s ∈ scopes, ∀ n ∈ s.names, o.Binds n
  library_eq : library = .standard ∨ o.Binds libraryName

def initialMeaning? (name : String) : Option Value :=
  match Primitive.ofName? name with
  | some p => some (.primitive p)
  | none =>
    if name = countingName then some .counting
    else if name = libraryName then some .library
    else if name = unbindableName then some (.bool true)
    else none

theorem initialMeaning?_name (p : Primitive) : initialMeaning? p.name = some (.primitive p) := by
  rw [initialMeaning?, p.ofName?_name]

theorem name_of_initialMeaning? {name : String} {p : Primitive}
    (h : initialMeaning? name = some (.primitive p)) : p.name = name := by
  unfold initialMeaning? at h
  split at h
  · rename_i q hq
    cases h
    exact Primitive.name_of_ofName? hq
  · split_ifs at h <;> cases h

def Meaning (o : Outline) (name : String) : Value → Prop
  | .int _ => name ∈ o.counters
  | .function f => name ∈ o.functions ∧ o.FollowsBlock f.body ∧ Situated o f.scopes f.library
  | v => initialMeaning? name = some v

/-- A machine in which every name means what it can mean, certain names have a meaning, and every
command was given by a call of the outline. -/
structure Tame (o : Outline) (fixed : List String) (m : Machine) : Prop where
  globals : ∀ b ∈ m.globals, Meaning o b.1 b.2
  locals : ∀ (place : Nat) (names : Bindings), m.calls[place]? = some names →
    ∀ b ∈ names, Meaning o b.1 b.2
  kept : ∀ n ∈ fixed, ∃ v, (n, v) ∈ m.globals
  called : ∀ t ∈ m.log.ticks.toList, ∃ line, t.line = some line ∧ (t.primitive.name, line) ∈ o.calls

variable {o : Outline} {fixed : List String} {α : Type}

/-- A name that the program does not bind means what it meant before. -/
theorem Meaning.initial {name : String} {v : Value} (h : Meaning o name v)
    (hb : ¬ o.Binds name) : initialMeaning? name = some v := by
  cases v with
  | int n => exact (hb (.inl h)).elim
  | function f => exact (hb (.inr h.1)).elim
  | none | bool _ | text _ | bytes | real _ | imaginary | ellipsis | range _ _ _ | primitive _
    | counting | library => exact h

/-! ## Elementary steps -/

theorem Tame.pass (ctx : Context) (line : Nat) :
    Run.Upholds (Tame o fixed) (Run.pass ctx line) fun _ => True := by
  refine Run.Upholds.look fun m _ => ?_
  cases m.time with
  | zero => exact fun m hm => hm
  | succ n => exact Run.Upholds.change fun m hm => ⟨hm.globals, hm.locals, hm.kept, hm.called⟩

theorem Tame.command {p : Primitive} {line : Nat} (hc : (p.name, line) ∈ o.calls) :
    Run.Upholds (Tame o fixed) (Run.command p line) fun _ => True := by
  intro m hm
  have hticks (w : World) (t : TickOutcome) :
      Tame o fixed { m with log := { m.log with world := w }.record p (some line) t } := by
    refine ⟨hm.globals, hm.locals, hm.kept, ?_⟩
    rw [Log.ticks_record]
    exact List.forall_mem_append.mpr
      ⟨hm.called, List.forall_mem_singleton.mpr ⟨line, rfl, hc⟩⟩
  -- a command that is refused leaves no tick, and any other one leaves one at the line of the call
  unfold Run.command
  rcases m.log.command_cases p (some line) with ⟨-, he⟩ | ⟨s, -, -, he⟩ | ⟨a, after, -, -, -, he⟩ |
      ⟨a, fault, -, -, -, he⟩
  · rw [he]
    exact hm
  · rw [he]
    exact ⟨hticks m.log.world _, trivial⟩
  · rw [he]
    exact ⟨hticks after _, trivial⟩
  · rw [he]
    exact hticks m.log.world _

theorem Tame.meaning_of_find? {m : Machine} (hm : Tame o fixed m) {n : String} {v : Value}
    (h : m.globals.find? n = some v) : Meaning o n v :=
  hm.globals _ (Bindings.mem_of_find? h)

theorem Tame.meaning_of_localValue? {m : Machine} (hm : Tame o fixed m) {scope : LocalScope}
    {n : String} {v : Value} (h : Run.localValue? m scope n = some v) : Meaning o n v := by
  obtain ⟨names, hn, hv⟩ := Option.bind_eq_some_iff.mp h
  exact hm.locals _ names hn _ (Bindings.mem_of_find? hv)

theorem Tame.globalValue (ctx : Context) (n : String) (line : Nat) :
    Run.Upholds (Tame o fixed) (Run.globalValue ctx n line) (Meaning o n) := by
  refine Run.Upholds.look fun m hm => ?_
  split
  · rename_i v hv
    exact .pure (hm.meaning_of_find? hv)
  · split
    · split
      · rename_i hn
        subst hn
        exact .pure rfl
      · exact .raise _ _
    · exact .raise _ _

theorem Tame.read (ctx : Context) (n : String) (line : Nat) :
    Run.Upholds (Tame o fixed) (Run.read ctx n line) (Meaning o n) := by
  unfold Run.read
  split
  · exact Tame.globalValue ctx n line
  · split
    · refine Run.Upholds.look fun m hm => ?_
      split
      · rename_i v hv
        exact .pure (hm.meaning_of_localValue? hv)
      · exact .raise _ _
    · split
      · refine Run.Upholds.look fun m hm => ?_
        split
        · rename_i v hv
          exact .pure (hm.meaning_of_localValue? hv)
        · exact .raise _ _
      · exact Tame.globalValue ctx n line

theorem Tame.bind (ctx : Context) {n : String} {v : Value} (h : Meaning o n v) :
    Run.Upholds (Tame o fixed) (Run.bind ctx n v) fun _ => True := by
  unfold Run.bind
  split
  · refine Run.Upholds.change fun m hm => ⟨?_, hm.locals, ?_, hm.called⟩
    · intro b hb
      rcases Bindings.mem_of_mem_set hb with rfl | hb
      · exact h
      · exact hm.globals b hb
    · intro k hk
      obtain ⟨w, hw⟩ := hm.kept k hk
      exact Bindings.exists_mem_set hw n v
  · rename_i own rest
    refine Run.Upholds.change fun m hm => ⟨hm.globals, ?_, hm.kept, hm.called⟩
    intro place names hn b hb
    rw [Array.getElem?_modify] at hn
    split at hn
    · obtain ⟨before, hbefore, rfl⟩ := Option.map_eq_some_iff.mp hn
      rcases Bindings.mem_of_mem_set hb with rfl | hb
      · exact h
      · exact hm.locals place before hbefore b hb
    · exact hm.locals place names hn b hb

theorem Tame.openCall : Run.Upholds (Tame o fixed) Run.openCall fun _ => True := by
  intro m hm
  refine ⟨⟨hm.globals, ?_, hm.kept, hm.called⟩, trivial⟩
  intro place names hn
  rw [Array.getElem?_push] at hn
  split at hn
  · cases hn
    exact nofun
  · exact hm.locals place names hn

theorem Tame.closeCall (place : Nat) (body : List Stmt) :
    Run.Upholds (Tame o fixed) (Run.closeCall place body) fun _ => True := by
  unfold Run.closeCall
  split
  · refine Run.Upholds.change fun m hm => ?_
    split
    · refine ⟨hm.globals, ?_, hm.kept, hm.called⟩
      intro place names hn
      rw [Array.getElem?_pop] at hn
      split at hn
      · exact hm.locals place names hn
      · cases hn
    · exact hm
  · exact .pure trivial

theorem Run.Upholds.boundOf {I : Machine → Prop} (v : Value) (line : Nat) :
    Run.Upholds I (boundOf v line) fun _ => True := by
  unfold Execution.boundOf
  split
  · exact .pure trivial
  · exact .raise _ _

/-- Making a range changes nothing. -/
theorem Run.Upholds.makeRange {I : Machine → Prop} (args : List Value) (line : Nat) :
    Run.Upholds I (makeRange args line) fun _ => True := by
  unfold Execution.makeRange
  split
  · exact .raise _ _
  · exact (boundOf _ _).bind fun _ _ => .pure trivial
  · exact (boundOf _ _).bind fun _ _ => (boundOf _ _).bind fun _ _ => .pure trivial
  · refine (boundOf _ _).bind fun _ _ => (boundOf _ _).bind fun _ _ =>
      (boundOf _ _).bind fun step _ => ?_
    split
    · exact (Run.Upholds.raise (P := fun _ => True) _ _).bind fun _ _ => .pure trivial
    · exact .pure trivial
  · exact .raise _ _

theorem Run.Upholds.repeatWhile {I : Machine → Prop} {pass : Run Unit} {test : Run Value}
    {body : Run Flow} (hp : Run.Upholds I pass fun _ => True)
    (ht : Run.Upholds I test fun _ => True) (hb : Run.Upholds I body fun _ => True) (n : Nat) :
    Run.Upholds I (Execution.repeatWhile pass test body n) fun _ => True := by
  -- on the passes for which there is time
  induction n with
  | zero => exact .pure trivial
  | succ n ih =>
    refine hp.bind fun _ _ => ht.bind fun v _ => ?_
    split
    · refine hb.bind fun flow _ => ?_
      cases flow with
      | next | continued => exact ih
      | broke | returned v => exact .pure trivial
    · exact .pure trivial

theorem Run.Upholds.repeatFor {I : Machine → Prop} {pass : Run Unit} {set : Int → Run Unit}
    {body : Run Flow} (hp : Run.Upholds I pass fun _ => True)
    (hs : ∀ i, Run.Upholds I (set i) fun _ => True) (hb : Run.Upholds I body fun _ => True)
    (step : Int) (n : Nat) (i : Int) :
    Run.Upholds I (Execution.repeatFor pass set body step n i) fun _ => True := by
  induction n generalizing i with
  | zero => exact .pure trivial
  | succ n ih =>
    refine hp.bind fun _ _ => (hs i).bind fun _ _ => hb.bind fun flow _ => ?_
    cases flow with
    | next | continued => exact ih _
    | broke | returned v => exact .pure trivial

theorem Run.Upholds.afterLoop {I : Machine → Prop} {orelse : Run Flow}
    (h : Run.Upholds I orelse fun _ => True) (e : LoopEnd) :
    Run.Upholds I (Execution.afterLoop orelse e) fun _ => True := by
  cases e with
  | exhausted => exact h
  | broken | returned v => exact .pure trivial

/-- The library is only replaced by a program that binds its name. -/
theorem Tame.currentLibrary :
    Run.Upholds (Tame o fixed) currentLibrary fun l => l = .standard ∨ o.Binds libraryName := by
  refine Run.Upholds.look fun m hm => ?_
  split
  · exact .pure (.inl rfl)
  · exact .pure (.inl rfl)
  · rename_i v hlib hv
    refine .pure (.inr ?_)
    by_contra hb
    have hinitial : initialMeaning? libraryName = some .library := rfl
    exact hlib (Option.some.inj (((hm.meaning_of_find? hv).initial hb).symm.trans hinitial))

variable {ctx : Context} {invoke : Invoke}

theorem Tame.makeFunction (hctx : Situated o ctx.scopes ctx.library) {name : String}
    (hname : name ∈ o.functions) {body : List Stmt} (hbody : o.FollowsBlock body) :
    Run.Upholds (Tame o fixed) (makeFunction ctx name body) (Meaning o name) :=
  Tame.currentLibrary.bind fun _ hl => .pure ⟨hname, hbody, hctx.binds, hl⟩

/-! ## Running programs -/

def TameCalls (o : Outline) (fixed : List String) (invoke : Invoke) : Prop :=
  ∀ (f : Function) (line : Nat), o.FollowsBlock f.body → Situated o f.scopes f.library →
    Run.Upholds (Tame o fixed) (invoke f line) fun _ => True

namespace TameCalls

/-- What a name means is called at a place of the outline. -/
theorem apply (h : TameCalls o fixed invoke) {id : String} {f : Value} (hf : Meaning o id f)
    (args : List Value) {line : Nat} (hc : (id, line) ∈ o.calls) :
    Run.Upholds (Tame o fixed) (apply invoke f args line) fun _ => True := by
  unfold Execution.apply
  split
  · rename_i p
    split
    · have hp : p.name = id := name_of_initialMeaning? hf
      exact Tame.command (hp ▸ hc)
    · exact .raise _ _
  · exact .makeRange _ _
  · split
    · exact h _ _ hf.2.1 hf.2.2
    · exact .raise _ _
  · exact .raise _ _

/-- The value of a name is what the name means. -/
theorem name (ctx : Context) (invoke : Invoke) (place : Nat) (id : String) :
    Run.Upholds (Tame o fixed) (evalExpr ctx invoke (.name place id)) (Meaning o id) := by
  rw [evalExpr]
  split
  · rename_i hid
    subst hid
    exact .pure rfl
  · exact Tame.read ctx id place

mutual

theorem expr (h : TameCalls o fixed invoke) (ctx : Context) : (e : Expr) → o.FollowsExpr e →
    Run.Upholds (Tame o fixed) (evalExpr ctx invoke e) fun _ => True
  | .name line id, _ => (name ctx invoke line id).mono fun _ _ => trivial
  | .literal line v, _ => by
    rw [evalExpr]
    exact .pure trivial
  | .not line e, he => by
    rw [evalExpr]
    exact (h.expr ctx e he).bind fun _ _ => .pure trivial
  | .junction line op es, he => by
    rw [evalExpr]
    exact h.junction ctx op es he
  | .call line (.name place id) args keywords, he => by
    rw [evalExpr]
    obtain ⟨hc, -, -, hargs⟩ := he
    refine (name ctx invoke place id).bind fun f hf => (h.args ctx args hargs).bind fun args _ => ?_
    split
    · exact h.apply hf args hc
    · exact .raise _ _
  | .other line form parts, _ => by
    rw [evalExpr]
    exact .raise _ _

theorem junction (h : TameCalls o fixed invoke) (ctx : Context) (op : Connective) :
    (es : List Expr) → o.FollowsExprs es →
    Run.Upholds (Tame o fixed) (evalExpr.evalJunction ctx invoke op es) fun _ => True
  | [], _ => by
    rw [evalExpr.evalJunction]
    exact .pure trivial
  | [e], he => by
    rw [evalExpr.evalJunction]
    exact h.expr ctx e he.1
  | e :: e' :: rest, he => by
    rw [evalExpr.evalJunction]
    · refine (h.expr ctx e he.1).bind fun v _ => ?_
      split
      · exact .pure trivial
      · exact h.junction ctx op (e' :: rest) he.2
    -- the list is not the one of the case before
    · simp

theorem args (h : TameCalls o fixed invoke) (ctx : Context) : (es : List Expr) →
    o.FollowsExprs es →
    Run.Upholds (Tame o fixed) (evalExpr.evalArgs ctx invoke es) fun _ => True
  | [], _ => by
    rw [evalExpr.evalArgs]
    exact .pure trivial
  | e :: rest, he => by
    rw [evalExpr.evalArgs]
    exact (h.expr ctx e he.1).bind fun v _ => (h.args ctx rest he.2).bind fun _ _ => .pure trivial

end

end TameCalls

namespace TameCalls

mutual

theorem stmt (h : TameCalls o fixed invoke) (hctx : Situated o ctx.scopes ctx.library) :
    (s : Stmt) → o.FollowsStmt s →
    Run.Upholds (Tame o fixed) (runStmt ctx invoke s) fun _ => True
  | .expr line e, hs => by
    rw [runStmt]
    exact (Tame.pass ctx line).bind fun _ _ => (h.expr ctx e hs).bind fun _ _ => .pure trivial
  | .pass line, _ | .breakLoop line, _ | .continueLoop line, _ => by
    rw [runStmt]
    exact (Tame.pass ctx line).bind fun _ _ => .pure trivial
  | .giveBack line none, _ => by
    rw [runStmt]
    exact (Tame.pass ctx line).bind fun _ _ => .pure trivial
  | .giveBack line (some e), hs => by
    rw [runStmt]
    exact (Tame.pass ctx line).bind fun _ _ => (h.expr ctx e hs).bind fun _ _ => .pure trivial
  | .define line name signature body, hs => by
    have hbind : Run.Upholds (Tame o fixed)
        (makeFunction ctx name body >>= fun f => Run.bind ctx name f >>= fun _ => pure Flow.next)
        fun _ => True :=
      (Tame.makeFunction hctx hs.1 hs.2).bind fun f hf =>
        (Tame.bind ctx hf).bind fun _ _ => .pure trivial
    rw [runStmt]
    refine (Tame.pass ctx line).bind fun _ _ => ?_
    split
    · exact (Run.Upholds.raise (P := fun _ => True) _ _).bind fun _ _ => hbind
    · exact hbind
  | .branch line test body orelse, hs => by
    rw [runStmt]
    refine (Tame.pass ctx line).bind fun _ _ => (h.expr ctx test hs.1).bind fun v _ => ?_
    split
    · exact h.block hctx body hs.2.1
    · exact h.block hctx orelse hs.2.2
  | .whileLoop line test body orelse, hs => by
    rw [runStmt]
    refine Run.Upholds.look fun m _ => ?_
    exact ((Tame.pass ctx line).repeatWhile (h.expr ctx test hs.1) (h.block hctx body hs.2.1) _).bind
      fun e _ => (h.block hctx orelse hs.2.2).afterLoop e
  | .forLoop line (.name place id) iterable body orelse, hs => by
    rw [runStmt]
    refine (Tame.pass ctx line).bind fun _ _ => (h.expr ctx iterable hs.2.1).bind fun items _ => ?_
    have hset (i : Int) : Run.Upholds (Tame o fixed) (Run.bind ctx id (.int i)) fun _ => True :=
      Tame.bind ctx hs.1
    cases items with
    | range first step count =>
      exact ((Tame.pass ctx line).repeatFor hset (h.block hctx body hs.2.2.1) _ _ _).bind
        fun e _ => (h.block hctx orelse hs.2.2.2).afterLoop e
    | none | bool _ | int _ | text _ | bytes | real _ | imaginary | ellipsis | primitive _
      | counting | library | function _ => exact .raise _ _
  | .forLoop line (.literal _ _) iterable body orelse, hs
  | .forLoop line (.call _ _ _ _) iterable body orelse, hs
  | .forLoop line (.junction _ _ _) iterable body orelse, hs
  | .forLoop line (.not _ _) iterable body orelse, hs
  | .forLoop line (.other _ _ _) iterable body orelse, hs => by
    rw [runStmt]
    refine (Tame.pass ctx line).bind fun _ _ => (h.expr ctx iterable hs.1).bind fun items _ => ?_
    -- there is no name that could be bound
    cases items <;> exact .raise _ _
  | .other line form inner, _ => by
    rw [runStmt]
    exact .raise _ _

theorem block (h : TameCalls o fixed invoke) (hctx : Situated o ctx.scopes ctx.library) :
    (ss : List Stmt) → o.FollowsBlock ss →
    Run.Upholds (Tame o fixed) (runStmt.runBlock ctx invoke ss) fun _ => True
  | [], _ => by
    rw [runStmt.runBlock]
    exact .pure trivial
  | s :: rest, hs => by
    rw [runStmt.runBlock]
    refine (h.stmt hctx s hs.1).bind fun flow _ => ?_
    cases flow with
    | next => exact h.block hctx rest hs.2
    | broke | continued | returned v => exact .pure trivial

end

end TameCalls

theorem TameCalls.runFunction (h : TameCalls o fixed invoke) (limit : Binary64) (f : Function)
    (hb : o.FollowsBlock f.body) (hf : Situated o f.scopes f.library) :
    Run.Upholds (Tame o fixed) (runFunction limit invoke f) fun _ => True := by
  refine Tame.openCall.bind fun place _ => ?_
  have hctx : Situated o (⟨place, blockBoundNames f.body⟩ :: f.scopes) f.library :=
    ⟨List.forall_mem_cons.mpr
      ⟨fun _ => Outline.binds_of_mem_blockBoundNames f.body hb, hf.binds⟩, hf.library_eq⟩
  refine (h.block hctx f.body hb).bind fun flow _ =>
    (Tame.closeCall place f.body).bind fun _ _ => ?_
  split <;> exact .pure trivial

theorem tameCalls_invoke (limit : Binary64) (n : Nat) :
    TameCalls o fixed (Execution.invoke limit n) := by
  -- on the depth of calls: a function calls others one level deeper only
  induction n with
  | zero => exact fun f line _ _ => .raise _ _
  | succ n ih => exact fun f line hb hf => ih.runFunction limit f hb hf

/-- A program that follows an outline keeps a machine tame. -/
theorem Tame.runProgram (limit : Binary64) {tree : Tree} (h : o.FollowsBlock tree) :
    Run.Upholds (Tame o fixed) (runProgram limit tree) fun _ => True := by
  refine Tame.currentLibrary.bind fun library hl => ?_
  have hctx : Situated o [] library := ⟨nofun, hl⟩
  exact Run.Upholds.bind (P := fun _ => True)
    ((tameCalls_invoke limit maxCalls).block hctx tree h) fun _ _ => .pure trivial

/-! ## The beginning -/

/-- The names that are registered mean the commands of these names. -/
theorem registerNames_meaning {names : List String} {before after : Bindings}
    (h : Session.registerNames names before = .ok after)
    (hb : ∀ b ∈ before, Meaning o b.1 b.2) :
    (∀ b ∈ after, Meaning o b.1 b.2) ∧
      ∀ n, (n ∈ names ∨ ∃ v, (n, v) ∈ before) → ∃ v, (n, v) ∈ after := by
  induction names generalizing before with
  | nil =>
    cases h
    exact ⟨hb, fun n hn => hn.resolve_left (List.not_mem_nil)⟩
  | cons name rest ih =>
    rw [Session.registerNames] at h
    split at h
    · rename_i p hp
      have hname : Meaning o name (.primitive p) := by
        change initialMeaning? name = some (.primitive p)
        rw [initialMeaning?, hp]
      have hset : ∀ b ∈ before.set name (.primitive p), Meaning o b.1 b.2 := by
        intro b hmem
        rcases Bindings.mem_of_mem_set hmem with rfl | hmem
        · exact hname
        · exact hb b hmem
      obtain ⟨hmeaning, hkept⟩ := ih h hset
      refine ⟨hmeaning, fun n hn => hkept n ?_⟩
      rcases hn with hn | ⟨v, hv⟩
      · rcases List.mem_cons.mp hn with rfl | hn
        · exact .inr ⟨_, Bindings.mem_set before n _⟩
        · exact .inl hn
      · exact .inr (Bindings.exists_mem_set hv name _)
    · cases h

/-- A new session on an empty log begins with a tame machine. -/
theorem tame_of_start {log : Log} {allowed : Option (List String)} {limit : TimeLimit}
    {session : Session} (h : Session.start log allowed limit = .ok session)
    (hlog : log.ticks = #[]) (time : Nat) :
    Tame o (libraryName :: allowed.getD Primitive.names)
      ⟨session.log, session.globals, #[], time⟩ := by
  unfold Session.start Session.register at h
  cases hr : Session.registerNames (allowed.getD Primitive.names)
      (Bindings.set libraryName .library []) with
  | error u =>
    rw [hr] at h
    cases h
  | ok globals =>
    rw [hr] at h
    cases h
    have hlibrary : ∀ b ∈ Bindings.set libraryName .library [], Meaning o b.1 b.2 :=
      List.forall_mem_singleton.mpr rfl
    obtain ⟨hmeaning, hkept⟩ := registerNames_meaning hr hlibrary
    refine ⟨hmeaning, fun place names hn => ?_, fun n hn => hkept n ?_, ?_⟩
    · simp at hn
    · rcases List.mem_cons.mp hn with rfl | hn
      · exact .inr ⟨_, Bindings.mem_set [] libraryName _⟩
      · exact .inl hn
    · simp [hlog]

end KarelLab.Execution
