import KarelLab.Execution.Scoping
import KarelLab.Proofs.Program.Language

namespace KarelLab.Program

mutual

def Expr.calls : Expr → List (String × Nat)
  | .name _ _ | .literal _ _ => []
  | .not _ e => e.calls
  | .junction _ _ es => exprsCalls es
  | .call line (.name _ id) args _ => (id, line) :: exprsCalls args
  | .call _ f args _ => f.calls ++ exprsCalls args
  | .other _ _ parts => exprsCalls parts

def exprsCalls : List Expr → List (String × Nat)
  | [] => []
  | e :: rest => e.calls ++ exprsCalls rest

end

mutual

def Stmt.calls : Stmt → List (String × Nat)
  | .expr _ e => e.calls
  | .pass _ | .breakLoop _ | .continueLoop _ | .giveBack _ none => []
  | .giveBack _ (some e) => e.calls
  | .define _ _ _ body => blockCalls body
  | .branch _ test body orelse => test.calls ++ (blockCalls body ++ blockCalls orelse)
  | .whileLoop _ test body orelse => test.calls ++ (blockCalls body ++ blockCalls orelse)
  | .forLoop _ target iterable body orelse =>
    target.calls ++ (iterable.calls ++ (blockCalls body ++ blockCalls orelse))
  | .other _ _ inner => blockCalls inner

def blockCalls : List Stmt → List (String × Nat)
  | [] => []
  | s :: rest => s.calls ++ blockCalls rest

end

mutual

def Stmt.loopVariables : Stmt → List String
  | .define _ _ _ body => blockLoopVariables body
  | .branch _ _ body orelse => blockLoopVariables body ++ blockLoopVariables orelse
  | .whileLoop _ _ body orelse => blockLoopVariables body ++ blockLoopVariables orelse
  | .forLoop _ (.name _ id) _ body orelse =>
    id :: (blockLoopVariables body ++ blockLoopVariables orelse)
  | .forLoop _ _ _ body orelse => blockLoopVariables body ++ blockLoopVariables orelse
  | .other _ _ inner => blockLoopVariables inner
  | _ => []

def blockLoopVariables : List Stmt → List String
  | [] => []
  | s :: rest => s.loopVariables ++ blockLoopVariables rest

end

theorem mem_exprsCalls {es : List Expr} {c : String × Nat} :
    c ∈ exprsCalls es ↔ ∃ e ∈ es, c ∈ e.calls := by
  induction es with
  | nil => simp [exprsCalls]
  | cons e rest ih => simp [exprsCalls, ih]

theorem mem_blockCalls {ss : List Stmt} {c : String × Nat} :
    c ∈ blockCalls ss ↔ ∃ s ∈ ss, c ∈ s.calls := by
  induction ss with
  | nil => simp [blockCalls]
  | cons s rest ih => simp [blockCalls, ih]

theorem mem_blockLoopVariables {ss : List Stmt} {n : String} :
    n ∈ blockLoopVariables ss ↔ ∃ s ∈ ss, n ∈ s.loopVariables := by
  induction ss with
  | nil => simp [blockLoopVariables]
  | cons s rest ih => simp [blockLoopVariables, ih]

structure Outline where
  calls : List (String × Nat)
  counters : List String
  functions : List String

def Tree.outline (tree : Tree) : Outline :=
  ⟨blockCalls tree, blockLoopVariables tree, blockFunctionNames tree⟩

namespace Outline

variable (o : Outline)

def Binds (name : String) : Prop := name ∈ o.counters ∨ name ∈ o.functions

mutual

/-- An expression follows an outline if all that it calls are names, at places of the outline, and
only the counting function is given arguments. -/
def FollowsExpr : Expr → Prop
  | .name _ _ | .literal _ _ | .other _ _ _ => True
  | .not _ e => FollowsExpr e
  | .junction _ _ es => FollowsExprs es
  | .call line (.name _ id) args keywords =>
    (id, line) ∈ o.calls ∧ (id = countingName ∨ args = []) ∧ keywords = [] ∧ FollowsExprs args
  | .call _ _ _ _ => False

def FollowsExprs : List Expr → Prop
  | [] => True
  | e :: rest => FollowsExpr e ∧ FollowsExprs rest

end

mutual

def FollowsStmt : Stmt → Prop
  | .expr _ e | .giveBack _ (some e) => o.FollowsExpr e
  | .define _ name _ body => name ∈ o.functions ∧ FollowsBlock body
  | .branch _ test body orelse | .whileLoop _ test body orelse =>
    o.FollowsExpr test ∧ FollowsBlock body ∧ FollowsBlock orelse
  | .forLoop _ (.name _ id) iterable body orelse =>
    id ∈ o.counters ∧ o.FollowsExpr iterable ∧ FollowsBlock body ∧ FollowsBlock orelse
  | .forLoop _ _ iterable body orelse =>
    o.FollowsExpr iterable ∧ FollowsBlock body ∧ FollowsBlock orelse
  | .pass _ | .breakLoop _ | .continueLoop _ | .giveBack _ none | .other _ _ _ => True

def FollowsBlock : List Stmt → Prop
  | [] => True
  | s :: rest => FollowsStmt s ∧ FollowsBlock rest

end

variable {o}

theorem followsExprs_of_forall {es : List Expr} (h : ∀ e ∈ es, o.FollowsExpr e) :
    o.FollowsExprs es := by
  induction es with
  | nil => trivial
  | cons e rest ih =>
    exact ⟨h e List.mem_cons_self, ih fun e' he' => h e' (List.mem_cons_of_mem e he')⟩

theorem followsBlock_of_forall {ss : List Stmt} (h : ∀ s ∈ ss, o.FollowsStmt s) :
    o.FollowsBlock ss := by
  induction ss with
  | nil => trivial
  | cons s rest ih =>
    exact ⟨h s List.mem_cons_self, ih fun s' hs' => h s' (List.mem_cons_of_mem s hs')⟩

/-- A statement of a block makes calls and binds names of the block. -/
theorem subset_of_mem_block {s : Stmt} {ss : List Stmt} (h : s ∈ ss) :
    s.calls ⊆ blockCalls ss ∧ s.loopVariables ⊆ blockLoopVariables ss ∧
      s.functionNames ⊆ blockFunctionNames ss := by
  exact ⟨fun c hc => mem_blockCalls.mpr ⟨s, h, hc⟩,
    fun n hn => mem_blockLoopVariables.mpr ⟨s, h, hn⟩,
    fun n hn => Rulebook.mem_blockFunctionNames.mpr ⟨s, h, hn⟩⟩

mutual

/-- The names that a statement of an outline binds around it are names of the outline. -/
theorem binds_of_mem_boundNames {n : String} : (s : Stmt) → o.FollowsStmt s →
    n ∈ s.boundNames → o.Binds n
  | .define _ _ _ _, h, hn => by
    obtain rfl := List.mem_singleton.mp hn
    exact .inr h.1
  | .branch _ _ body orelse, h, hn | .whileLoop _ _ body orelse, h, hn =>
    (List.mem_append.mp hn).elim (binds_of_mem_blockBoundNames body h.2.1)
      (binds_of_mem_blockBoundNames orelse h.2.2)
  | .forLoop _ (.name _ id) _ body orelse, h, hn => by
    rcases List.mem_cons.mp hn with rfl | hn
    · exact .inl h.1
    · exact (List.mem_append.mp hn).elim (binds_of_mem_blockBoundNames body h.2.2.1)
        (binds_of_mem_blockBoundNames orelse h.2.2.2)
  | .forLoop _ (.literal _ _) _ body orelse, h, hn
  | .forLoop _ (.call _ _ _ _) _ body orelse, h, hn
  | .forLoop _ (.junction _ _ _) _ body orelse, h, hn
  | .forLoop _ (.not _ _) _ body orelse, h, hn
  | .forLoop _ (.other _ _ _) _ body orelse, h, hn =>
    (List.mem_append.mp hn).elim (binds_of_mem_blockBoundNames body h.2.1)
      (binds_of_mem_blockBoundNames orelse h.2.2)
  | .expr _ _, _, hn | .pass _, _, hn | .breakLoop _, _, hn | .continueLoop _, _, hn
  | .giveBack _ _, _, hn | .other _ _ _, _, hn => nomatch hn

theorem binds_of_mem_blockBoundNames {n : String} : (ss : List Stmt) → o.FollowsBlock ss →
    n ∈ blockBoundNames ss → o.Binds n
  | [], _, hn => nomatch hn
  | s :: rest, h, hn => (List.mem_append.mp hn).elim (binds_of_mem_boundNames s h.1)
      (binds_of_mem_blockBoundNames rest h.2)

end

end Outline

namespace Rulebook

variable {book : Rulebook} {o : Outline}

/-- An expression of the language calls by name only. -/
theorem AllowsExpr.follows {scope : Scope} {e : Expr} (h : book.AllowsExpr scope e)
    (hc : e.calls ⊆ o.calls) : o.FollowsExpr e := by
  induction h with
  | int | bool | counter => trivial
  | command | function => exact ⟨hc List.mem_cons_self, .inr rfl, rfl, trivial⟩
  | not _ ih => exact ih hc
  | junction _ ih =>
    refine Outline.followsExprs_of_forall fun e he => ih e he ?_
    exact fun c hce => hc (mem_exprsCalls.mpr ⟨e, he, hce⟩)

theorem AllowsStmt.follows {scope : Scope} {s : Stmt} (h : book.AllowsStmt scope s)
    (hc : s.calls ⊆ o.calls) (hv : s.loopVariables ⊆ o.counters)
    (hf : s.functionNames ⊆ o.functions) : o.FollowsStmt s := by
  have hblock {ss : List Stmt}
      (ih : ∀ s ∈ ss, s.calls ⊆ o.calls → s.loopVariables ⊆ o.counters →
        s.functionNames ⊆ o.functions → o.FollowsStmt s)
      (hc : blockCalls ss ⊆ o.calls) (hv : blockLoopVariables ss ⊆ o.counters)
      (hf : blockFunctionNames ss ⊆ o.functions) : o.FollowsBlock ss := by
    refine Outline.followsBlock_of_forall fun s hs => ?_
    obtain ⟨hsc, hsv, hsf⟩ := Outline.subset_of_mem_block hs
    -- what occurs in a statement occurs in its block
    exact ih s hs (fun c h => hc (hsc h)) (fun n h => hv (hsv h)) (fun n h => hf (hsf h))
  induction h with
  | text | ellipsis | pass | breakLoop | continueLoop | giveBack => trivial
  | expr he => exact he.follows hc
  | define _ _ _ ih =>
    rw [Stmt.functionNames, List.cons_subset] at hf
    exact ⟨hf.1, hblock ih hc hv hf.2⟩
  | branch _ ht _ _ ihb iho =>
    rw [Stmt.calls, List.append_subset, List.append_subset] at hc
    rw [Stmt.loopVariables, List.append_subset] at hv
    rw [Stmt.functionNames, List.append_subset] at hf
    exact ⟨ht.follows hc.1, hblock ihb hc.2.1 hv.1 hf.1, hblock iho hc.2.2 hv.2 hf.2⟩
  | whileLoop _ ht _ ih =>
    rw [Stmt.calls, List.append_subset, List.append_subset] at hc
    rw [Stmt.loopVariables, List.append_subset] at hv
    rw [Stmt.functionNames, List.append_subset] at hf
    exact ⟨ht.follows hc.1, hblock ih hc.2.1 hv.1 hf.1, trivial⟩
  | forLoop _ _ _ hb _ ih =>
    rw [Stmt.calls, List.append_subset, List.append_subset, List.append_subset] at hc
    rw [Stmt.loopVariables, List.cons_subset, List.append_subset] at hv
    rw [Stmt.functionNames, List.append_subset] at hf
    obtain ⟨-, hcall, hcbody, -⟩ := hc
    rw [Expr.calls, List.cons_subset] at hcall
    have hbounds := Outline.followsExprs_of_forall fun e he =>
      (hb e he).follows fun c hce => hcall.2 (mem_exprsCalls.mpr ⟨e, he, hce⟩)
    exact ⟨hv.1, ⟨hcall.1, .inl rfl, rfl, hbounds⟩, hblock ih hcbody hv.2.1 hf.1, trivial⟩

/-- What is called in an expression of the language is a command that may be used or a function. -/
theorem AllowsExpr.callee {scope : Scope} {e : Expr} (h : book.AllowsExpr scope e) :
    ∀ c ∈ e.calls, c.1 ∈ book.restrictions.commandNames ∨ c.1 ∈ book.functions := by
  induction h with
  | int | bool | counter => nofun
  | command _ hc => exact List.forall_mem_singleton.mpr (.inl hc)
  | function hf => exact List.forall_mem_singleton.mpr (.inr hf)
  | not _ ih => exact ih
  | junction _ ih =>
    intro c hc
    obtain ⟨e, he, hce⟩ := mem_exprsCalls.mp hc
    exact ih e he c hce

/-- In a statement of the language the counting function is called besides. -/
theorem AllowsStmt.callee {scope : Scope} {s : Stmt} (h : book.AllowsStmt scope s) :
    ∀ c ∈ s.calls, c.1 = countingName ∨ c.1 ∈ book.restrictions.commandNames ∨
      c.1 ∈ book.functions := by
  have hblock {ss : List Stmt} (ih : ∀ s ∈ ss, ∀ c ∈ s.calls, c.1 = countingName ∨
      c.1 ∈ book.restrictions.commandNames ∨ c.1 ∈ book.functions) :
      ∀ c ∈ blockCalls ss, c.1 = countingName ∨ c.1 ∈ book.restrictions.commandNames ∨
        c.1 ∈ book.functions := by
    intro c hc
    obtain ⟨s, hs, hcs⟩ := mem_blockCalls.mp hc
    exact ih s hs c hcs
  induction h with
  | text | ellipsis | pass | breakLoop | continueLoop | giveBack => nofun
  | expr he => exact fun c hc => .inr (he.callee c hc)
  | define _ _ _ ih => exact hblock ih
  | branch _ ht _ _ ihb iho =>
    refine List.forall_mem_append.mpr ⟨fun c hc => .inr (ht.callee c hc), ?_⟩
    exact List.forall_mem_append.mpr ⟨hblock ihb, hblock iho⟩
  | whileLoop _ ht _ ih =>
    refine List.forall_mem_append.mpr ⟨fun c hc => .inr (ht.callee c hc), ?_⟩
    exact List.forall_mem_append.mpr ⟨hblock ih, nofun⟩
  | forLoop _ _ _ hb _ ih =>
    refine List.forall_mem_append.mpr ⟨nofun, List.forall_mem_append.mpr ⟨?_, ?_⟩⟩
    · refine List.forall_mem_cons.mpr ⟨.inl rfl, fun c hc => ?_⟩
      obtain ⟨e, he, hce⟩ := mem_exprsCalls.mp hc
      exact .inr ((hb e he).callee c hce)
    · exact List.forall_mem_append.mpr ⟨hblock ih, nofun⟩

end Rulebook

/-- A program of the language follows its own outline. -/
theorem Tree.InLanguage.follows {restrictions : Restrictions} {tree : Tree}
    (h : tree.InLanguage restrictions) : tree.outline.FollowsBlock tree := by
  refine Outline.followsBlock_of_forall fun s hs => ?_
  obtain ⟨hc, hv, hf⟩ := Outline.subset_of_mem_block hs
  exact (h.statements s hs).follows hc hv hf

/-- A command that a program of the language calls is one that may be used. -/
theorem Tree.InLanguage.command_of_call {restrictions : Restrictions} {tree : Tree}
    (h : tree.InLanguage restrictions) {p : Primitive} {line : Nat}
    (hc : (p.name, line) ∈ blockCalls tree) : p.name ∈ restrictions.commandNames := by
  obtain ⟨s, hs, hcs⟩ := mem_blockCalls.mp hc
  rcases (h.statements s hs).callee _ hcs with hr | hr | hr
  · exact (p.name_ne (by decide) hr).elim
  · exact hr
  · exact (h.functionNames_not_reserved p.name hr (List.mem_append_left _ p.name_mem_names)).elim

end KarelLab.Program
