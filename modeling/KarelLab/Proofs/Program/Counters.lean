import KarelLab.Program.Structure
import KarelLab.Proofs.Program.Outline

/-!
# Where the variable of a loop is read

A bound of a range may be the variable of a loop around it, and a function may stand between the two.
There is always a number to be read if no function has the name of the variable, and if between the loop
and the bound no function binds the name for itself. The language asks for the loop alone.
-/

namespace KarelLab.Program

mutual

def Expr.readsCounted (name : String) (counted : Bool) : Expr → Bool
  | .name _ id => id != name || counted
  | .literal _ _ | .other _ _ _ => true
  | .not _ e => e.readsCounted name counted
  | .junction _ _ es => exprsReadCounted name counted es
  | .call _ (.name _ _) args _ => exprsReadCounted name counted args
  | .call _ _ _ _ => false

def exprsReadCounted (name : String) (counted : Bool) : List Expr → Bool
  | [] => true
  | e :: rest => e.readsCounted name counted && exprsReadCounted name counted rest

end

mutual

/-- Whether a statement reads a name for itself only where it is counted: in the body of a loop that
counts with it, but there not in a function that binds it anew. No function may have that name. -/
def Stmt.readsCounted (name : String) (counted : Bool) : Stmt → Bool
  | .expr _ e | .giveBack _ (some e) => e.readsCounted name counted
  | .define _ function _ body => function != name &&
    blockReadsCounted name (counted && !(blockBoundNames body).contains name) body
  | .branch _ test body orelse | .whileLoop _ test body orelse =>
    test.readsCounted name counted && blockReadsCounted name counted body &&
      blockReadsCounted name counted orelse
  | .forLoop _ (.name _ id) iterable body orelse =>
    iterable.readsCounted name counted && blockReadsCounted name (counted || id == name) body &&
      blockReadsCounted name counted orelse
  | .forLoop _ _ iterable _ _ => iterable.readsCounted name counted
  | .pass _ | .breakLoop _ | .continueLoop _ | .giveBack _ none | .other _ _ _ => true

def blockReadsCounted (name : String) (counted : Bool) : List Stmt → Bool
  | [] => true
  | s :: rest => s.readsCounted name counted && blockReadsCounted name counted rest

end

mutual

def Stmt.innerBoundNames : Stmt → List String
  | .define _ _ _ body => blockBoundNames body ++ blockInnerBoundNames body
  | .branch _ _ body orelse | .whileLoop _ _ body orelse | .forLoop _ _ _ body orelse =>
    blockInnerBoundNames body ++ blockInnerBoundNames orelse
  | _ => []

def blockInnerBoundNames : List Stmt → List String
  | [] => []
  | s :: rest => s.innerBoundNames ++ blockInnerBoundNames rest

end

variable {name : String} {counted : Bool}

theorem exprsReadCounted_iff {es : List Expr} :
    exprsReadCounted name counted es = true ↔ ∀ e ∈ es, e.readsCounted name counted = true := by
  induction es with
  | nil => simp [exprsReadCounted]
  | cons e rest ih => simp [exprsReadCounted, ih]

theorem blockReadsCounted_iff {ss : List Stmt} :
    blockReadsCounted name counted ss = true ↔ ∀ s ∈ ss, s.readsCounted name counted = true := by
  induction ss with
  | nil => simp [blockReadsCounted]
  | cons s rest ih => simp [blockReadsCounted, ih]

theorem mem_blockInnerBoundNames {ss : List Stmt} :
    name ∈ blockInnerBoundNames ss ↔ ∃ s ∈ ss, name ∈ s.innerBoundNames := by
  induction ss with
  | nil => simp [blockInnerBoundNames]
  | cons s rest ih => simp [blockInnerBoundNames, ih]

namespace Rulebook

variable {book : Rulebook} {scope : Scope}

/-- An expression of the language reads the variables of the loops around it. -/
theorem AllowsExpr.readsCounted {e : Expr} (h : book.AllowsExpr scope e)
    (hc : name ∈ scope.counters → counted = true) : e.readsCounted name counted = true := by
  induction h with
  | int | bool | command | function => rfl
  | @counter line id hr hid =>
    rw [Expr.readsCounted, Bool.or_eq_true, bne_iff_ne]
    by_cases hname : id = name
    · exact .inr (hc (hname ▸ hid))
    · exact .inl hname
  | not _ ih => exact ih
  | junction _ ih => exact exprsReadCounted_iff.mpr ih

/-- If no function has the name or binds it, all loops that count with it are in one scope with the
places where it is read. -/
theorem AllowsStmt.readsCounted {s : Stmt} (h : book.AllowsStmt scope s)
    (hc : name ∈ scope.counters → counted = true) (hf : name ∉ s.functionNames)
    (hi : name ∉ s.innerBoundNames) : s.readsCounted name counted = true := by
  have hblock {scope : Scope} {counted : Bool} {ss : List Stmt}
      (ih : ∀ s ∈ ss, ∀ {counted : Bool}, (name ∈ scope.counters → counted = true) →
        name ∉ s.functionNames → name ∉ s.innerBoundNames → s.readsCounted name counted = true)
      (hc : name ∈ scope.counters → counted = true) (hf : name ∉ blockFunctionNames ss)
      (hi : name ∉ blockInnerBoundNames ss) : blockReadsCounted name counted ss = true := by
    refine blockReadsCounted_iff.mpr fun s hs => ih s hs hc ?_ ?_
    · exact fun hn => hf (mem_blockFunctionNames.mpr ⟨s, hs, hn⟩)
    · exact fun hn => hi (mem_blockInnerBoundNames.mpr ⟨s, hs, hn⟩)
  induction h generalizing counted with
  | text | ellipsis | pass | breakLoop | continueLoop | giveBack => rfl
  | expr he => exact he.readsCounted hc
  | @define scope line function body _ _ _ ih =>
    rw [Stmt.functionNames, List.mem_cons, not_or] at hf
    rw [Stmt.innerBoundNames, List.mem_append, not_or] at hi
    have hown : (blockBoundNames body).contains name = false := by simpa using hi.1
    rw [Stmt.readsCounted, Bool.and_eq_true, bne_iff_ne, hown, Bool.not_false, Bool.and_true]
    exact ⟨Ne.symm hf.1, hblock ih hc hf.2 hi.2⟩
  | branch _ ht _ _ ihb iho =>
    rw [Stmt.functionNames, List.mem_append, not_or] at hf
    rw [Stmt.innerBoundNames, List.mem_append, not_or] at hi
    rw [Stmt.readsCounted, Bool.and_eq_true, Bool.and_eq_true]
    exact ⟨⟨ht.readsCounted hc, hblock ihb hc hf.1 hi.1⟩, hblock iho hc hf.2 hi.2⟩
  | whileLoop _ ht _ ih =>
    rw [Stmt.functionNames, List.mem_append, not_or] at hf
    rw [Stmt.innerBoundNames, List.mem_append, not_or] at hi
    rw [Stmt.readsCounted, Bool.and_eq_true, Bool.and_eq_true]
    exact ⟨⟨ht.readsCounted hc, hblock ih hc hf.1 hi.1⟩, rfl⟩
  | @forLoop scope line target call function counter bounds body _ _ _ hb _ ih =>
    rw [Stmt.functionNames, List.mem_append, not_or] at hf
    rw [Stmt.innerBoundNames, List.mem_append, not_or] at hi
    rw [Stmt.readsCounted, Bool.and_eq_true, Bool.and_eq_true]
    have hinner : name ∈ counter :: scope.counters → (counted || counter == name) = true := by
      intro hn
      rw [Bool.or_eq_true, beq_iff_eq]
      rcases List.mem_cons.mp hn with rfl | hn
      · exact .inr rfl
      · exact .inl (hc hn)
    refine ⟨⟨?_, hblock ih hinner hf.1 hi.1⟩, rfl⟩
    exact exprsReadCounted_iff.mpr fun e he => (hb e he).readsCounted hc

end Rulebook

/-- A program of the language reads a name only where it is counted, if no function has the name or
binds it. -/
theorem Tree.InLanguage.readsCounted {restrictions : Restrictions} {tree : Tree}
    (h : tree.InLanguage restrictions) (hf : name ∉ blockFunctionNames tree)
    (hi : name ∉ blockInnerBoundNames tree) : blockReadsCounted name false tree = true := by
  refine blockReadsCounted_iff.mpr fun s hs => (h.statements s hs).readsCounted nofun ?_ ?_
  · exact fun hn => hf (Rulebook.mem_blockFunctionNames.mpr ⟨s, hs, hn⟩)
  · exact fun hn => hi (mem_blockInnerBoundNames.mpr ⟨s, hs, hn⟩)

/-! ## A name that no loop counts with -/

theorem checkStructure_of_checkBlock {loops : Nat} {inFunction : Bool} {ss : List Stmt}
    (h : Stmt.checkStructure.checkBlock loops inFunction ss = .ok ()) :
    ∀ s ∈ ss, s.checkStructure loops inFunction = .ok () := by
  induction ss with
  | nil => exact List.forall_mem_nil _
  | cons s rest ih =>
    obtain ⟨_, hs, hrest⟩ := bind_eq_ok_iff.mp h
    exact List.forall_mem_cons.mpr ⟨hs, ih hrest⟩

/-- No loop of a program of the language counts with the name that cannot be bound. -/
theorem Rulebook.AllowsStmt.unbindableName_notMem {book : Rulebook} {scope : Scope} {s : Stmt}
    (h : book.AllowsStmt scope s) {loops : Nat} {inFunction : Bool}
    (hs : s.checkStructure loops inFunction = .ok ()) : unbindableName ∉ s.loopVariables := by
  have hblock {ss : List Stmt} {loops : Nat} {inFunction : Bool}
      (ih : ∀ s ∈ ss, ∀ {loops : Nat} {inFunction : Bool},
        s.checkStructure loops inFunction = .ok () → unbindableName ∉ s.loopVariables)
      (hs : Stmt.checkStructure.checkBlock loops inFunction ss = .ok ()) :
      unbindableName ∉ blockLoopVariables ss := by
    intro hn
    obtain ⟨s, hm, hn⟩ := mem_blockLoopVariables.mp hn
    exact ih s hm (checkStructure_of_checkBlock hs s hm) hn
  induction h generalizing loops inFunction with
  | text | ellipsis | expr | pass | breakLoop | continueLoop | giveBack =>
    exact List.not_mem_nil
  | define _ _ _ ih =>
    obtain ⟨_, hb, -⟩ := bind_eq_ok_iff.mp hs
    exact hblock ih hb
  | branch _ _ _ _ ihb iho =>
    obtain ⟨_, hb, ho⟩ := bind_eq_ok_iff.mp hs
    exact List.not_mem_append (hblock ihb hb) (hblock iho ho)
  | whileLoop _ _ _ ih =>
    simp only [Stmt.checkStructure, bind_eq_ok_iff] at hs
    obtain ⟨_, -, _, hb, -⟩ := hs
    exact List.not_mem_append (hblock ih hb) List.not_mem_nil
  | @forLoop scope line target call function counter bounds body _ _ _ _ _ ih =>
    simp only [Stmt.checkStructure, bind_eq_ok_iff] at hs
    obtain ⟨_, -, _, hcounter, _, hb, -⟩ := hs
    have hne : unbindableName ≠ counter := by
      rintro rfl
      cases hcounter
    exact List.not_mem_cons_of_ne_of_not_mem hne (List.not_mem_append (hblock ih hb) List.not_mem_nil)

theorem Tree.InLanguage.unbindableName_notMem {restrictions : Restrictions} {tree : Tree}
    (h : tree.InLanguage restrictions) (hs : tree.structureError? = none) :
    unbindableName ∉ blockLoopVariables tree := by
  unfold Tree.structureError? at hs
  split at hs
  · rename_i hblock
    intro hn
    obtain ⟨s, hm, hn⟩ := mem_blockLoopVariables.mp hn
    exact (h.statements s hm).unbindableName_notMem (checkStructure_of_checkBlock hblock s hm) hn
  · cases hs

end KarelLab.Program
