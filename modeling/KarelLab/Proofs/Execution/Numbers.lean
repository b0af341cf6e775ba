import KarelLab.Proofs.Execution.Kept
import KarelLab.Proofs.Program.Counters

/-!
# The numbers of loops stay

A loop binds its variable to a number before its body begins, and the number stays where it is kept
until the call is over to which it belongs: no other call reaches it, and nothing but a loop binds the
name again. A function that reads the variable was defined in the body of the loop, so it can be called
only where the number is kept.
-/

namespace KarelLab.Execution

open Program

variable {m after : Machine} {ctx : Context} {name n : String} {v : Value} {place : Option Nat}

/-! ## Numbers stay -/

/-- A function can be called: the calls around it are open, and where it reads a name that was counted
outside of it, a number is kept. -/
structure Fits (name : String) (m : Machine) (f : Function) : Prop where
  opened : ∀ s ∈ f.scopes, s.place < m.calls.size
  reads : ∃ counted, (counted = true → m.Holds (placeOf f.scopes name) name) ∧
    blockReadsCounted name (counted && !(blockBoundNames f.body).contains name) f.body = true

def Sound (name : String) (m : Machine) : Prop :=
  ∀ place n f, m.value? place n = some (.function f) →
    Fits name m f ∧ ∀ s ∈ f.scopes, ∃ k, place = some k ∧ s.place ≤ k

structure Grows (name : String) (m after : Machine) : Prop where
  size_le : m.calls.size ≤ after.calls.size
  holds : ∀ place, m.Holds place name → after.Holds place name

structure Keeps (name : String) (m after : Machine) : Prop extends Grows name m after where
  sound : Sound name after

theorem Fits.grows {f : Function} (hf : Fits name m f) (h : Grows name m after) :
    Fits name after f where
  opened s hs := Nat.lt_of_lt_of_le (hf.opened s hs) h.size_le
  reads := by
    obtain ⟨counted, hholds, hbody⟩ := hf.reads
    exact ⟨counted, fun hc => h.holds _ (hholds hc), hbody⟩

theorem Grows.trans {first second third : Machine} (h : Grows name first second)
    (k : Grows name second third) : Grows name first third where
  size_le := Nat.le_trans h.size_le k.size_le
  holds place hp := k.holds place (h.holds place hp)

theorem Keeps.trans {first second third : Machine} (h : Keeps name first second)
    (k : Keeps name second third) : Keeps name first third :=
  ⟨h.toGrows.trans k.toGrows, k.sound⟩

/-- To change none of the values that are kept, and to close no call, keeps everything. -/
theorem Sound.keeps (hm : Sound name m) (hsize : m.calls.size ≤ after.calls.size)
    (hvalue : ∀ place n, after.value? place n = m.value? place n) : Keeps name m after := by
  have hgrows : Grows name m after := by
    refine ⟨hsize, fun place hp => ?_⟩
    unfold Machine.Holds
    rw [hvalue]
    exact hp
  refine ⟨hgrows, fun place n f hf => ?_⟩
  rw [hvalue] at hf
  obtain ⟨hfits, horder⟩ := hm place n f hf
  exact ⟨hfits.grows hgrows, horder⟩

theorem Sound.refl (hm : Sound name m) : Keeps name m m := hm.keeps (Nat.le_refl _) fun _ _ => rfl

theorem Sound.keeps_of_eq (hm : Sound name m) (hg : after.globals = m.globals)
    (hc : after.calls = m.calls) : Keeps name m after := by
  refine hm.keeps (Nat.le_of_eq (by rw [hc])) fun place n => ?_
  cases place with
  | none => rw [Machine.value?, Machine.value?, hg]
  | some k => rw [Machine.value?, Machine.value?, hc]

/-- To bind a name to a number keeps everything, and so does to bind another name to a function of the
call that runs. -/
theorem Sound.keeps_of_bind (hm : Sound name m) {u : Unit} (h : Run.bind ctx n v m = .ok u after)
    (hv : (∃ i, v = .int i) ∨ (n ≠ name ∧ ∃ f, v = .function f ∧ Fits name m f ∧
      ∀ s ∈ f.scopes, ∃ k, ctx.place = some k ∧ s.place ≤ k)) : Keeps name m after := by
  have hgrows : Grows name m after := by
    refine ⟨Nat.le_of_eq (size_of_bind h).symm, fun place hp => ?_⟩
    rcases value?_of_bind h place name with hsame | ⟨-, rfl, hnew⟩
    · unfold Machine.Holds
      rw [hsame]
      exact hp
    · rcases hv with ⟨i, rfl⟩ | ⟨hne, -⟩
      · exact ⟨i, hnew⟩
      · exact (hne rfl).elim
  refine ⟨hgrows, fun place k f hf => ?_⟩
  rcases value?_of_bind h place k with hsame | ⟨rfl, rfl, hnew⟩
  · obtain ⟨hfits, horder⟩ := hm place k f (hsame ▸ hf)
    exact ⟨hfits.grows hgrows, horder⟩
  · rw [hnew] at hf
    rcases hv with ⟨i, rfl⟩ | ⟨-, g, rfl, hfits, horder⟩
    · cases hf
    · cases hf
      exact ⟨hfits.grows hgrows, horder⟩

/-- When a call is closed that was opened in between, all numbers that were there before stay. -/
theorem Keeps.closeCall (h : Keeps name m after) {k : Nat} (hk : m.calls.size ≤ k)
    {body : List Stmt} {u : Unit} {closed : Machine}
    (hclose : Run.closeCall k body after = .ok u closed) : Keeps name m closed := by
  unfold Run.closeCall at hclose
  split at hclose
  · cases hclose
    dsimp only
    split
    · rename_i hlast
      have hholds (place : Option Nat) (hplace : ∀ q, place = some q → q < k) {n : String}
          (hp : after.Holds place n) :
          Machine.Holds { after with calls := after.calls.pop } place n := by
        cases place with
        | none => exact hp
        | some q =>
          have hq : q < k := hplace q rfl
          unfold Machine.Holds
          rw [value?_pop (by omega)]
          exact hp
      refine ⟨⟨?_, fun place hp => hholds place ?_ (h.holds place hp)⟩, fun place n f hf => ?_⟩
      · simp only [Array.size_pop]
        omega
      · rintro q rfl
        obtain ⟨i, hi⟩ := hp
        have hq := lt_size_of_value? hi
        omega
      -- a function that stays is kept further out than the call, and so is all that it reads
      · have hplace : ∀ q, place = some q → q < k := by
          rintro q rfl
          have hq := lt_size_of_value? hf
          simp only [Array.size_pop] at hq
          omega
        have hkept : after.value? place n = some (.function f) := by
          cases place with
          | none => exact hf
          | some q =>
            have hq := hplace q rfl
            rwa [value?_pop (by omega)] at hf
        obtain ⟨hfits, horder⟩ := h.sound place n f hkept
        have houter : ∀ s ∈ f.scopes, s.place < k := by
          intro s hs
          obtain ⟨q, hq, hle⟩ := horder s hs
          exact Nat.lt_of_le_of_lt hle (hplace q hq)
        refine ⟨⟨?_, ?_⟩, horder⟩
        · intro s hs
          have hs' := houter s hs
          simp only [Array.size_pop]
          omega
        · obtain ⟨counted, hreads, hbody⟩ := hfits.reads
          refine ⟨counted, fun hc => hholds _ ?_ (hreads hc), hbody⟩
          intro q hq
          obtain ⟨s, hs, rfl⟩ := mem_of_placeOf hq
          exact houter s hs
    · exact h
  · cases hclose
    exact h

/-! ## Running programs -/

variable {α β : Type} {counted : Bool}

/-- Where a part of a program runs: the calls around it are open, its own one is the last of them, and
if a loop around it counts with the name, a number is kept where the name is looked up. -/
structure Inside (name : String) (ctx : Context) (counted : Bool) (m : Machine) : Prop where
  opened : ∀ s ∈ ctx.scopes, s.place < m.calls.size
  nested : ∀ s ∈ ctx.scopes, ∃ k, ctx.place = some k ∧ s.place ≤ k
  holds : counted = true → m.Holds (placeOf ctx.scopes name) name

theorem Inside.grows (hin : Inside name ctx counted m) (h : Grows name m after) :
    Inside name ctx counted after where
  opened s hs := Nat.lt_of_lt_of_le (hin.opened s hs) h.size_le
  nested := hin.nested
  holds hc := h.holds _ (hin.holds hc)

def Carries (name : String) (ctx : Context) (counted : Bool) (x : Run α) : Prop :=
  ∀ ⦃m a after⦄, Sound name m → Inside name ctx counted m → x m = .ok a after → Keeps name m after

theorem Run.exists_of_bind_eq_ok {x : Run α} {k : α → Run β} {b : β}
    (h : (x >>= k) m = .ok b after) : ∃ a mid, x m = .ok a mid ∧ k a mid = .ok b after := by
  change EStateM.bind x k m = _ at h
  unfold EStateM.bind at h
  cases hx : x m with
  | ok a mid =>
    rw [hx] at h
    exact ⟨a, mid, rfl, h⟩
  | error f mid =>
    rw [hx] at h
    cases h

namespace Carries

theorem pure (a : α) : Carries name ctx counted (Pure.pure a) := by
  intro m b after hm _ h
  cases h
  exact hm.refl

theorem raise (e : RunError) (line : Nat) :
    Carries name ctx counted (Run.raise e line : Run α) := by
  intro m b after _ _ h
  cases h

theorem bind {x : Run α} {k : α → Run β} (hx : Carries name ctx counted x)
    (hk : ∀ a, Carries name ctx counted (k a)) : Carries name ctx counted (x >>= k) := by
  intro m b after hm hin h
  obtain ⟨a, mid, hxm, hkm⟩ := Run.exists_of_bind_eq_ok h
  have hfirst := hx hm hin hxm
  exact hfirst.trans (hk a hfirst.sound (hin.grows hfirst.toGrows) hkm)

/-- What depends on the machine keeps everything if it does so for every machine. -/
theorem look {k : Machine → Run β} (h : ∀ m, Carries name ctx counted (k m)) :
    Carries name ctx counted (MonadState.get >>= k) :=
  fun m _ _ hm hin hk => h m hm hin hk

theorem pass (line : Nat) : Carries name ctx counted (Run.pass ctx line) := by
  refine look fun m' => ?_
  cases m'.time with
  | zero =>
    intro m a after _ _ h
    cases h
  | succ t =>
    intro m a after hm _ h
    cases h
    exact hm.keeps_of_eq rfl rfl

theorem command (p : Primitive) (line : Nat) : Carries name ctx counted (Run.command p line) := by
  intro m a after hm _ h
  unfold Run.command at h
  dsimp only at h
  split at h
  · cases h
    exact hm.keeps_of_eq rfl rfl
  · cases h

theorem makeRange (args : List Value) (line : Nat) :
    Carries name ctx counted (makeRange args line) := by
  intro m a after hm _ h
  have hsame : Run.Upholds (· = m) (Execution.makeRange args line) fun _ => True := .makeRange _ _
  rw [(hsame.of_ok rfl h).1]
  exact hm.refl

/-- A loop binds its variable to a number. -/
theorem count (n : String) (i : Int) : Carries name ctx counted (Run.bind ctx n (.int i)) :=
  fun _ _ _ hm _ h => hm.keeps_of_bind h (.inl ⟨i, rfl⟩)

theorem repeatWhile {pass : Run Unit} {test : Run Value} {body : Run Flow}
    (hp : Carries name ctx counted pass) (ht : Carries name ctx counted test)
    (hb : Carries name ctx counted body) (left : Nat) :
    Carries name ctx counted (repeatWhile pass test body left) := by
  induction left with
  | zero => exact pure _
  | succ left ih =>
    refine hp.bind fun _ => ht.bind fun v => ?_
    split
    · refine hb.bind fun flow => ?_
      cases flow with
      | next | continued => exact ih
      | broke | returned v => exact pure _
    · exact pure _

theorem repeatFor {pass : Run Unit} {set : Int → Run Unit} {body : Run Flow}
    (hp : Carries name ctx counted pass) (hb : ∀ i, Carries name ctx counted (set i >>= fun _ => body))
    (step : Int) (left : Nat) (i : Int) :
    Carries name ctx counted (repeatFor pass set body step left i) := by
  induction left generalizing i with
  | zero => exact pure _
  | succ left ih =>
    refine hp.bind fun _ => ?_
    -- the body begins with the variable that was bound
    rw [← bind_assoc]
    refine (hb i).bind fun flow => ?_
    cases flow with
    | next | continued => exact ih _
    | broke | returned v => exact pure _

theorem afterLoop {orelse : Run Flow} (h : Carries name ctx counted orelse) (e : LoopEnd) :
    Carries name ctx counted (afterLoop orelse e) := by
  cases e with
  | exhausted => exact h
  | broken | returned v => exact pure _

end Carries

/-- The body of a loop begins with a number for the variable, where the function that runs binds it. -/
theorem inside_of_count (hin : Inside name ctx counted m) {i : Int} {u : Unit}
    (hown : n = name → ctx.Binds name) (hkeeps : Keeps name m after)
    (h : Run.bind ctx n (.int i) m = .ok u after) :
    Inside name ctx (counted || n == name) after where
  opened := (hin.grows hkeeps.toGrows).opened
  nested := hin.nested
  holds hc := by
    rcases Bool.or_eq_true_iff.mp hc with hc | hn
    · exact (hin.grows hkeeps.toGrows).holds hc
    · obtain rfl := eq_of_beq hn
      rw [placeOf_of_binds (hown rfl)]
      exact ⟨i, value?_place_of_bind h hin.opened⟩

/-- A round of a loop, which is its body with the variable bound. -/
theorem Carries.round {body : Run Flow} (hown : n = name → ctx.Binds name)
    (hbody : Carries name ctx (counted || n == name) body) (i : Int) :
    Carries name ctx counted (Run.bind ctx n (.int i) >>= fun _ => body) := by
  intro m flow after hm hin hrun
  obtain ⟨u, bound, hb, hrest⟩ := Run.exists_of_bind_eq_ok hrun
  have hbound := Carries.count n i hm hin hb
  exact hbound.trans (hbody hbound.sound (inside_of_count hin hown hbound hb) hrest)

def CallsKeep (name : String) (call : Invoke) : Prop :=
  ∀ ⦃f line m v after⦄, Sound name m → Fits name m f → call f line m = .ok v after →
    Keeps name m after

/-- A name is only read: what it stands for can be called, if it is a function. -/
theorem callee_eq_ok {call : Invoke} {place : Nat} {id : String} (hm : Sound name m)
    (h : evalExpr ctx call (.name place id) m = .ok v after) :
    after = m ∧ ∀ f, v = .function f → Fits name m f := by
  rw [evalExpr] at h
  split at h
  · cases h
    exact ⟨rfl, nofun⟩
  · rcases read_cases ctx id place m with ⟨w, hw, hread⟩ | ⟨-, hread | ⟨e, hread⟩⟩
    · cases hread.symm.trans h
      exact ⟨rfl, fun f hf => (hm _ id f (hf ▸ hw)).1⟩
    · cases hread.symm.trans h
      exact ⟨rfl, nofun⟩
    · cases hread.symm.trans h

theorem makeFunction_eq_ok {body : List Stmt} (h : makeFunction ctx n body m = .ok v after) :
    after = m ∧ ∃ library, v = .function ⟨ctx.path ++ n, body, ctx.scopes, library⟩ := by
  obtain ⟨library, found, hlibrary, hv⟩ := Run.exists_of_bind_eq_ok h
  rw [currentLibrary, Run.get_bind] at hlibrary
  cases hv
  refine ⟨?_, library, rfl⟩
  cases hg : m.globals.find? libraryName with
  | none =>
    rw [hg] at hlibrary
    cases hlibrary
    rfl
  | some w =>
    rw [hg] at hlibrary
    cases w <;> cases hlibrary <;> rfl

namespace CallsKeep

variable {call : Invoke}

theorem apply (h : CallsKeep name call) {f : Value} (args : List Value) (line : Nat)
    (hm : Sound name m) (hin : Inside name ctx counted m) (hf : ∀ g, f = .function g → Fits name m g)
    (happly : apply call f args line m = .ok v after) : Keeps name m after := by
  unfold Execution.apply at happly
  split at happly
  · split at happly
    · exact Carries.command _ _ hm hin happly
    · cases happly
  · exact Carries.makeRange _ _ hm hin happly
  · split at happly
    · exact h hm (hf _ rfl) happly
    · cases happly
  · cases happly

mutual

theorem expr (h : CallsKeep name call) : (e : Expr) → e.readsCounted name counted = true →
    Carries name ctx counted (evalExpr ctx call e)
  | .name line id, _ => by
    intro m v after hm _ hv
    rw [(callee_eq_ok hm hv).1]
    exact hm.refl
  | .literal line v, _ => by
    rw [evalExpr]
    exact .pure _
  | .not line e, he => by
    rw [evalExpr]
    exact (h.expr e he).bind fun _ => .pure _
  | .junction line op es, he => by
    rw [evalExpr]
    exact h.junction op es he
  | .call line (.name place id) args keywords, he => by
    intro m v after hm hin hcall
    rw [evalExpr] at hcall
    obtain ⟨f, found, hf, hrest⟩ := Run.exists_of_bind_eq_ok hcall
    obtain ⟨vs, given, hargs, hlast⟩ := Run.exists_of_bind_eq_ok hrest
    obtain ⟨rfl, hfits⟩ := callee_eq_ok hm hf
    have hgiven := h.args args he hm hin hargs
    split at hlast
    · have happly := h.apply vs line hgiven.sound (hin.grows hgiven.toGrows)
        (fun g hg => (hfits g hg).grows hgiven.toGrows) hlast
      exact hgiven.trans happly
    · cases hlast
  | .other line form parts, _ => by
    rw [evalExpr]
    exact .raise _ _

theorem junction (h : CallsKeep name call) (op : Connective) : (es : List Expr) →
    exprsReadCounted name counted es = true →
    Carries name ctx counted (evalExpr.evalJunction ctx call op es)
  | [], _ => by
    rw [evalExpr.evalJunction]
    exact .pure _
  | [e], he => by
    rw [evalExpr.evalJunction]
    exact h.expr e (Bool.and_eq_true_iff.mp he).1
  | e :: e' :: rest, he => by
    obtain ⟨hhead, htail⟩ := Bool.and_eq_true_iff.mp he
    rw [evalExpr.evalJunction]
    · refine (h.expr e hhead).bind fun v => ?_
      split
      · exact .pure _
      · exact h.junction op (e' :: rest) htail
    -- the list is not the one of the case before
    · simp

theorem args (h : CallsKeep name call) : (es : List Expr) →
    exprsReadCounted name counted es = true →
    Carries name ctx counted (evalExpr.evalArgs ctx call es)
  | [], _ => by
    rw [evalExpr.evalArgs]
    exact .pure _
  | e :: rest, he => by
    obtain ⟨hhead, htail⟩ := Bool.and_eq_true_iff.mp he
    rw [evalExpr.evalArgs]
    exact (h.expr e hhead).bind fun v => (h.args rest htail).bind fun _ => .pure _

end

mutual

theorem stmt (h : CallsKeep name call) {counted : Bool} : (s : Stmt) →
    s.readsCounted name counted = true → (name ∈ s.boundNames → ctx.Binds name) →
    Carries name ctx counted (runStmt ctx call s)
  | .expr line e, hs, _ => by
    rw [runStmt]
    exact (Carries.pass line).bind fun _ => (h.expr e hs).bind fun _ => .pure _
  | .pass line, _, _ | .breakLoop line, _, _ | .continueLoop line, _, _ => by
    rw [runStmt]
    exact (Carries.pass line).bind fun _ => .pure _
  | .giveBack line none, _, _ => by
    rw [runStmt]
    exact (Carries.pass line).bind fun _ => .pure _
  | .giveBack line (some e), hs, _ => by
    rw [runStmt]
    exact (Carries.pass line).bind fun _ => (h.expr e hs).bind fun _ => .pure _
  | .define line function signature body, hs, _ => by
    obtain ⟨hne, hbody⟩ := Bool.and_eq_true_iff.mp hs
    have hbind : Carries name ctx counted (makeFunction ctx function body >>= fun f =>
        Run.bind ctx function f >>= fun _ => pure Flow.next) := by
      intro m flow after hm hin hdef
      obtain ⟨f, made, hf, hrest⟩ := Run.exists_of_bind_eq_ok hdef
      obtain ⟨u, bound, hb, hlast⟩ := Run.exists_of_bind_eq_ok hrest
      obtain ⟨rfl, library, rfl⟩ := makeFunction_eq_ok hf
      cases hlast
      have hfits : Fits name made ⟨ctx.path ++ function, body, ctx.scopes, library⟩ :=
        ⟨hin.opened, counted, hin.holds, hbody⟩
      exact hm.keeps_of_bind hb (.inr ⟨bne_iff_ne.mp hne, _, rfl, hfits, hin.nested⟩)
    rw [runStmt]
    refine (Carries.pass line).bind fun _ => ?_
    split
    · exact (Carries.raise _ _).bind fun _ => hbind
    · exact hbind
  | .branch line test body orelse, hs, hown => by
    rw [Stmt.readsCounted, Bool.and_eq_true, Bool.and_eq_true] at hs
    obtain ⟨⟨htest, hbody⟩, horelse⟩ := hs
    rw [runStmt]
    refine (Carries.pass line).bind fun _ => (h.expr test htest).bind fun v => ?_
    split
    · exact h.block body hbody fun hn => hown (List.mem_append_left _ hn)
    · exact h.block orelse horelse fun hn => hown (List.mem_append_right _ hn)
  | .whileLoop line test body orelse, hs, hown => by
    rw [Stmt.readsCounted, Bool.and_eq_true, Bool.and_eq_true] at hs
    obtain ⟨⟨htest, hbody⟩, horelse⟩ := hs
    have hblock := h.block body hbody fun hn => hown (List.mem_append_left _ hn)
    have helse := h.block orelse horelse fun hn => hown (List.mem_append_right _ hn)
    rw [runStmt]
    refine Carries.look fun m => ?_
    exact (Carries.repeatWhile (.pass line) (h.expr test htest) hblock _).bind fun e =>
      Carries.afterLoop helse e
  | .forLoop line (.name place id) iterable body orelse, hs, hown => by
    rw [Stmt.readsCounted, Bool.and_eq_true, Bool.and_eq_true] at hs
    obtain ⟨⟨hiter, hbody⟩, horelse⟩ := hs
    have hblock := h.block body hbody
      fun hn => hown (List.mem_cons_of_mem _ (List.mem_append_left _ hn))
    have hround := Carries.round (fun hid => hown (hid ▸ List.mem_cons_self)) hblock
    have helse := h.block orelse horelse
      fun hn => hown (List.mem_cons_of_mem _ (List.mem_append_right _ hn))
    rw [runStmt]
    refine (Carries.pass line).bind fun _ => (h.expr iterable hiter).bind fun items => ?_
    cases items with
    | range first step count =>
      exact (Carries.repeatFor (.pass line) hround _ _ _).bind fun e => Carries.afterLoop helse e
    | none | bool _ | int _ | text _ | bytes | real _ | imaginary | ellipsis | primitive _
      | counting | library | function _ => exact .raise _ _
  | .forLoop line (.literal _ _) iterable body orelse, hs, _
  | .forLoop line (.call _ _ _ _) iterable body orelse, hs, _
  | .forLoop line (.junction _ _ _) iterable body orelse, hs, _
  | .forLoop line (.not _ _) iterable body orelse, hs, _
  | .forLoop line (.other _ _ _) iterable body orelse, hs, _ => by
    rw [runStmt]
    refine (Carries.pass line).bind fun _ => (h.expr iterable hs).bind fun items => ?_
    -- there is no name that could be bound
    cases items <;> exact .raise _ _
  | .other line form inner, _, _ => by
    rw [runStmt]
    exact .raise _ _

theorem block (h : CallsKeep name call) {counted : Bool} : (ss : List Stmt) →
    blockReadsCounted name counted ss = true → (name ∈ blockBoundNames ss → ctx.Binds name) →
    Carries name ctx counted (runStmt.runBlock ctx call ss)
  | [], _, _ => by
    rw [runStmt.runBlock]
    exact .pure _
  | s :: rest, hs, hown => by
    obtain ⟨hhead, htail⟩ := Bool.and_eq_true_iff.mp hs
    rw [runStmt.runBlock]
    refine (h.stmt s hhead fun hn => hown (List.mem_append_left _ hn)).bind fun flow => ?_
    cases flow with
    | next => exact h.block rest htail fun hn => hown (List.mem_append_right _ hn)
    | broke | continued | returned v => exact .pure _

end

end CallsKeep

/-! ## Calls -/

/-- A function that is called begins in a call of its own. The number that was counted outside is still
looked up where it is kept, unless the function binds the name. -/
theorem Fits.enter {f : Function} (hf : Fits name m f) (hm : Sound name m) {k : Nat}
    {opened : Machine} (hopen : Run.openCall m = .ok k opened) (library : Library) (path : String)
    (limit : Binary64) : m.calls.size = k ∧ Keeps name m opened ∧
      ∃ counted, blockReadsCounted name counted f.body = true ∧
        Inside name ⟨⟨k, blockBoundNames f.body⟩ :: f.scopes, library, path, limit⟩ counted opened := by
  cases hopen
  have hkeeps : Keeps name m { m with calls := m.calls.push [] } := by
    refine hm.keeps ?_ fun place n => value?_push m place n
    simp only [Array.size_push]
    omega
  obtain ⟨counted, hholds, hbody⟩ := hf.reads
  refine ⟨rfl, hkeeps, _, hbody, ⟨?_, ?_, ?_⟩⟩
  · simp only [Array.size_push]
    refine List.forall_mem_cons.mpr ⟨Nat.lt_succ_self _, fun s hs => ?_⟩
    exact Nat.lt_succ_of_lt (hf.opened s hs)
  · refine List.forall_mem_cons.mpr ⟨⟨_, rfl, Nat.le_refl _⟩, fun s hs => ⟨_, rfl, ?_⟩⟩
    exact Nat.le_of_lt (hf.opened s hs)
  · intro hc
    obtain ⟨hcounted, hown⟩ := Bool.and_eq_true_iff.mp hc
    have hnot : name ∉ blockBoundNames f.body := by simpa using hown
    rw [placeOf_cons_of_notMem hnot]
    exact hkeeps.holds _ (hholds hcounted)

theorem CallsKeep.runFunction {call : Invoke} (h : CallsKeep name call) (limit : Binary64)
    {f : Function} (hm : Sound name m) (hf : Fits name m f)
    (hrun : runFunction limit call f m = .ok v after) : Keeps name m after := by
  obtain ⟨k, opened, hopen, hrest⟩ := Run.exists_of_bind_eq_ok hrun
  obtain ⟨flow, left, hblock, hrest⟩ := Run.exists_of_bind_eq_ok hrest
  obtain ⟨u, closed, hclose, hlast⟩ := Run.exists_of_bind_eq_ok hrest
  obtain ⟨hk, hopened, counted, hbody, hin⟩ :=
    hf.enter hm hopen f.library (f.name ++ ".<locals>.") limit
  have hown : name ∈ blockBoundNames f.body → Context.Binds
      ⟨⟨k, blockBoundNames f.body⟩ :: f.scopes, f.library, f.name ++ ".<locals>.", limit⟩ name := by
    rintro hn own ho
    cases ho
    exact hn
  have hleft := h.block f.body hbody hown hopened.sound hin hblock
  have hclosed := (hopened.trans hleft).closeCall (Nat.le_of_eq hk) hclose
  split at hlast <;> cases hlast <;> exact hclosed

theorem callsKeep_invoke (name : String) (limit : Binary64) (depth : Nat) :
    CallsKeep name (invoke limit depth) := by
  -- on the depth of calls: a function calls others one level deeper only
  induction depth with
  | zero =>
    intro f line m v after _ _ h
    cases h
  | succ depth ih => exact fun f line m v after hm hf h => ih.runFunction limit hm hf h

end KarelLab.Execution
