import KarelLab.Program.Check
import KarelLab.Proofs.Except
import Mathlib.Data.List.Nodup

/-!
# The language of a lesson

The programs that a lesson accepts, as a language: which expressions and statements may stand
where, and that no two functions of a program share a name. Nothing here depends on the order in
which a program is walked through. The check accepts exactly the programs of the language.
-/

namespace KarelLab.Program

namespace Rulebook

variable (book : Rulebook)

/-- The expressions of the language. What is called is called without arguments; a name stands for
itself only among the bounds of a range, where it is the variable of a loop around. -/
inductive AllowsExpr (scope : Scope) : Expr → Prop
  | int {line n : Nat} : AllowsExpr scope (.literal line (.int n))
  | bool {line : Nat} {b : Bool} : AllowsExpr scope (.literal line (.bool b))
  | counter {line : Nat} {id : String} : scope.inRange = true → id ∈ scope.counters →
      AllowsExpr scope (.name line id)
  | command {line place : Nat} {id : String} : id ∈ Primitive.names →
      id ∈ book.restrictions.commandNames → AllowsExpr scope (.call line (.name place id) [] [])
  | function {line place : Nat} {id : String} : id ∈ book.functions →
      AllowsExpr scope (.call line (.name place id) [] [])
  | not {line : Nat} {e : Expr} : AllowsExpr scope e → AllowsExpr scope (.not line e)
  | junction {line : Nat} {op : Connective} {es : List Expr} :
      (∀ e ∈ es, AllowsExpr scope e) → AllowsExpr scope (.junction line op es)

/-- The statements of the language. A function begins outside of all loops, but the variables of the
loops around it can still be read. -/
inductive AllowsStmt : Scope → Stmt → Prop
  | text {scope : Scope} {line place : Nat} {s : String} :
      AllowsStmt scope (.expr line (.literal place (.text s)))
  | ellipsis {scope : Scope} {line place : Nat} :
      AllowsStmt scope (.expr line (.literal place .ellipsis))
  | expr {scope : Scope} {line : Nat} {e : Expr} : book.AllowsExpr scope e →
      AllowsStmt scope (.expr line e)
  | pass {scope : Scope} {line : Nat} : AllowsStmt scope (.pass line)
  | breakLoop {scope : Scope} {line : Nat} : scope.inLoop = true →
      AllowsStmt scope (.breakLoop line)
  | continueLoop {scope : Scope} {line : Nat} : scope.inLoop = true →
      AllowsStmt scope (.continueLoop line)
  | giveBack {scope : Scope} {line : Nat} : scope.inFunction = true →
      AllowsStmt scope (.giveBack line none)
  | define {scope : Scope} {line : Nat} {name : String} {body : List Stmt} :
      book.restrictions.permits .functions = true → name ∉ reservedNames →
      (∀ s ∈ body, AllowsStmt { scope with inLoop := false, inFunction := true } s) →
      AllowsStmt scope (.define line name ⟨false, none, false⟩ body)
  | branch {scope : Scope} {line : Nat} {test : Expr} {body orelse : List Stmt} :
      book.restrictions.permits .branches = true → book.AllowsExpr scope test →
      (∀ s ∈ body, AllowsStmt scope s) → (∀ s ∈ orelse, AllowsStmt scope s) →
      AllowsStmt scope (.branch line test body orelse)
  | whileLoop {scope : Scope} {line : Nat} {test : Expr} {body : List Stmt} :
      book.restrictions.permits .whileLoops = true → book.AllowsExpr scope test →
      (∀ s ∈ body, AllowsStmt { scope with inLoop := true } s) →
      AllowsStmt scope (.whileLoop line test body [])
  | forLoop {scope : Scope} {line target call function : Nat} {counter : String}
      {bounds : List Expr} {body : List Stmt} :
      book.restrictions.permits .forLoops = true → 1 ≤ bounds.length → bounds.length ≤ 3 →
      (∀ e ∈ bounds, book.AllowsExpr { scope with inRange := true } e) →
      (∀ s ∈ body,
        AllowsStmt { scope with inLoop := true, counters := counter :: scope.counters } s) →
      AllowsStmt scope (.forLoop line (.name target counter)
        (.call call (.name function countingName) bounds []) body [])

end Rulebook

/-- A program of the language: its statements belong to it where every function of the program can
be called, and every function has a name that no function before it has. -/
structure Tree.InLanguage (restrictions : Restrictions) (tree : Tree) : Prop where
  statements : ∀ s ∈ tree, Rulebook.AllowsStmt ⟨restrictions, blockFunctionNames tree⟩ {} s
  functions_nodup : (blockFunctionNames tree).Nodup

theorem require_eq_ok_iff {ok : Bool} {o : Objection} {line : Nat} {u : Unit} :
    require ok o line = .ok u ↔ ok = true := by
  cases ok with
  | true => exact ⟨fun _ => rfl, fun _ => rfl⟩
  | false => exact ⟨nofun, nofun⟩

theorem reject_ne_ok {α : Type} {o : Objection} {line : Nat} {a : α} :
    reject o line ≠ .ok a := nofun

namespace Rulebook

variable {book : Rulebook} {scope : Scope}

/-! ## Expressions -/

theorem checkCall_eq_ok_iff {name : String} {args : List Expr} {line : Nat} {u : Unit} :
    book.checkCall name args line = .ok u ↔
      (if name ∈ Primitive.names then name ∈ book.restrictions.commandNames
        else name ∈ book.functions) ∧ args = [] := by
  unfold checkCall
  by_cases h : name ∈ Primitive.names
  · simp [h, bind_eq_ok_iff, require_eq_ok_iff]
  · simp [h, bind_eq_ok_iff, require_eq_ok_iff]

mutual

/-- An expression that is accepted belongs to the language. -/
theorem allowsExpr_of_check {u : Unit} :
    (e : Expr) → book.checkExpr scope e = .ok u → book.AllowsExpr scope e
  | .name line id, h => by
    rw [checkExpr, require_eq_ok_iff, Bool.and_eq_true, List.contains_iff_mem] at h
    exact .counter h.1 h.2
  | .literal line v, h => by
    cases v with
    | int n => exact .int
    | bool b => exact .bool
    | text s => exact (reject_ne_ok h).elim
    | bytes => exact (reject_ne_ok h).elim
    | real zero => exact (reject_ne_ok h).elim
    | imaginary => exact (reject_ne_ok h).elim
    | none => exact (reject_ne_ok h).elim
    | ellipsis => exact (reject_ne_ok h).elim
  | .not line e, h => .not (allowsExpr_of_check e h)
  | .junction line op es, h => .junction (allowsExprs_of_check es h)
  | .other line form parts, h => (reject_ne_ok h).elim
  | .call line f args keywords, h => by
    cases f with
    | name place id =>
      simp only [checkExpr, bind_eq_ok_iff, require_eq_ok_iff, checkCall_eq_ok_iff] at h
      obtain ⟨_, hk, _, -, hname, rfl⟩ := h
      obtain rfl : keywords = [] := by simpa using hk
      by_cases hp : id ∈ Primitive.names
      · rw [if_pos hp] at hname
        exact .command hp hname
      · rw [if_neg hp] at hname
        exact .function hname
    -- what is called has no name, so the call is refused in any case
    | literal _ _ | call _ _ _ _ | junction _ _ _ | not _ _ | other _ _ _ =>
      obtain ⟨_, -, h⟩ := bind_eq_ok_iff.mp h
      exact (reject_ne_ok h).elim

theorem allowsExprs_of_check {u : Unit} : (es : List Expr) →
    checkExpr.checkExprs book scope es = .ok u → ∀ e ∈ es, book.AllowsExpr scope e
  | [], _ => nofun
  | e :: rest, h => by
    obtain ⟨_, he, hrest⟩ := bind_eq_ok_iff.mp h
    exact List.forall_mem_cons.mpr ⟨allowsExpr_of_check e he, allowsExprs_of_check rest hrest⟩

end

theorem checkExprs_eq_ok {es : List Expr} (h : ∀ e ∈ es, book.checkExpr scope e = .ok ()) :
    checkExpr.checkExprs book scope es = .ok () := by
  induction es with
  | nil => rfl
  | cons e rest ih =>
    refine bind_eq_ok_iff.mpr ⟨(), h e List.mem_cons_self, ?_⟩
    exact ih fun e' he' => h e' (List.mem_cons_of_mem e he')

/-- An expression of the language is accepted, since no function has the name of a command. -/
theorem AllowsExpr.check (hf : ∀ n ∈ book.functions, n ∉ reservedNames) {e : Expr}
    (h : book.AllowsExpr scope e) : book.checkExpr scope e = .ok () := by
  have hcounting : countingName ∉ Primitive.names := by decide
  induction h with
  | int => rfl
  | bool => rfl
  | counter hr hc =>
    rw [checkExpr, require_eq_ok_iff, hr, List.contains_iff_mem.mpr hc]
    rfl
  | @command line place id hp hc =>
    have hne : id ≠ countingName := fun he => hcounting (he ▸ hp)
    simp [checkExpr, bind_eq_ok_iff, require_eq_ok_iff, checkCall_eq_ok_iff, hne, hp, hc]
  | @function line place id hfun =>
    have hres := hf id hfun
    rw [reservedNames, List.mem_append, List.mem_singleton, not_or] at hres
    simp [checkExpr, bind_eq_ok_iff, require_eq_ok_iff, checkCall_eq_ok_iff, hres, hfun]
  | not _ ih => exact ih
  | junction _ ih => exact checkExprs_eq_ok ih

/-! ## Heads of functions and loops -/

theorem checkSignature_eq_ok_iff {name : String} {s : Signature} {defined : List String}
    {line : Nat} {u : Unit} :
    book.checkSignature name s defined line = .ok u ↔
      book.restrictions.permits .functions = true ∧ s = ⟨false, none, false⟩ ∧
        name ∉ reservedNames ∧ name ∉ defined := by
  obtain ⟨parameters, decorator, annotated⟩ := s
  unfold checkSignature
  cases decorator with
  | some l => simp [bind_eq_ok_iff, reject_ne_ok]
  | none =>
    simp only [bind_eq_ok_iff, require_eq_ok_iff]
    cases parameters <;> cases annotated <;> simp

theorem forM_eq_ok_iff {f : Expr → Except Violation Unit} {es : List Expr} {u : Unit} :
    es.forM f = .ok u ↔ ∀ e ∈ es, f e = .ok () := by
  induction es with
  | nil => exact ⟨fun _ => nofun, fun _ => rfl⟩
  | cons e rest ih =>
    rw [List.forM, bind_eq_ok_iff, List.forall_mem_cons, ← ih]
    exact ⟨fun ⟨_, h⟩ => h, fun h => ⟨(), h⟩⟩

theorem checkRange_eq_ok_iff {args : List Expr} {keywords : List (Option String)} {line : Nat}
    {u : Unit} :
    book.checkRange scope args keywords line = .ok u ↔
      keywords = [] ∧ (1 ≤ args.length ∧ args.length ≤ 3) ∧
        ∀ e ∈ args, book.checkExpr { scope with inRange := true } e = .ok () := by
  unfold checkRange
  simp only [bind_eq_ok_iff, require_eq_ok_iff, forM_eq_ok_iff]
  simp

theorem checkHeader_eq_ok_iff {target iterable : Expr} {orelse : List Stmt} {line : Nat}
    {counter : String} :
    book.checkHeader scope target iterable orelse line = .ok counter ↔
      book.restrictions.permits .forLoops = true ∧ orelse = [] ∧
        ∃ place call function bounds, target = .name place counter ∧
          iterable = .call call (.name function countingName) bounds [] ∧
          (1 ≤ bounds.length ∧ bounds.length ≤ 3) ∧
          ∀ e ∈ bounds, book.checkExpr { scope with inRange := true } e = .ok () := by
  constructor
  · intro h
    obtain ⟨_, hp, h⟩ := bind_eq_ok_iff.mp h
    rw [require_eq_ok_iff] at hp
    -- only one form each is accepted of the variable, the range and what stands behind the loop
    split at h
    · split at h
      · obtain ⟨_, hn, h⟩ := bind_eq_ok_iff.mp h
        rw [require_eq_ok_iff, beq_iff_eq] at hn
        dsimp only at h
        split at h
        · obtain ⟨_, hr, -⟩ := bind_eq_ok_iff.mp h
          exact (reject_ne_ok hr).elim
        · obtain ⟨_, hr, hc⟩ := bind_eq_ok_iff.mp h
          obtain ⟨rfl, hb, he⟩ := checkRange_eq_ok_iff.mp hr
          cases hc
          subst hn
          exact ⟨hp, rfl, _, _, _, _, rfl, rfl, hb, he⟩
      · exact (reject_ne_ok h).elim
    · exact (reject_ne_ok h).elim
  · rintro ⟨hp, rfl, place, call, function, bounds, rfl, rfl, hb, he⟩
    have hr : book.checkRange scope bounds [] call = .ok () :=
      checkRange_eq_ok_iff.mpr ⟨rfl, hb, he⟩
    unfold checkHeader
    simp only [bind_eq_ok_iff, require_eq_ok_iff]
    exact ⟨(), hp, (), by simp, (), hr, rfl⟩

/-! ## Statements -/

/-- A text or an ellipsis on a line of its own is accepted like an expression. -/
theorem checkStmt_expr_eq_ok_iff {line : Nat} {e : Expr} {defined after : List String} :
    book.checkStmt scope (.expr line e) defined = .ok after ↔
      after = defined ∧ ((∃ place s, e = .literal place (.text s)) ∨
        (∃ place, e = .literal place .ellipsis) ∨ book.checkExpr scope e = .ok ()) := by
  have hplain : book.checkExpr scope e >>= (fun _ => pure defined) = .ok after ↔
      after = defined ∧ book.checkExpr scope e = .ok () := by
    rw [bind_eq_ok_iff]
    exact ⟨fun ⟨_, he, ha⟩ => ⟨(Except.ok.inj ha).symm, he⟩, fun ⟨ha, he⟩ => ⟨(), he, ha ▸ rfl⟩⟩
  cases e with
  | literal place v =>
    cases v with
    | text s =>
      exact ⟨fun h => ⟨(Except.ok.inj h).symm, .inl ⟨place, s, rfl⟩⟩, fun h => h.1 ▸ rfl⟩
    | ellipsis =>
      exact ⟨fun h => ⟨(Except.ok.inj h).symm, .inr (.inl ⟨place, rfl⟩)⟩, fun h => h.1 ▸ rfl⟩
    | int _ | bool _ | bytes | real _ | imaginary | none => exact hplain.trans (by simp)
  | name _ _ | call _ _ _ _ | junction _ _ _ | not _ _ | other _ _ _ =>
    exact hplain.trans (by simp)

mutual

/-- A statement that is accepted belongs to the language, and the names of its functions are new
and different. -/
theorem allowsStmt_of_check {scope : Scope} {defined after : List String} : (s : Stmt) →
    book.checkStmt scope s defined = .ok after →
    book.AllowsStmt scope s ∧ after = s.functionNames.reverse ++ defined ∧
      (defined.Nodup → after.Nodup)
  | .expr line e, h => by
    obtain ⟨rfl, he⟩ := checkStmt_expr_eq_ok_iff.mp h
    refine ⟨?_, rfl, id⟩
    rcases he with ⟨place, s, rfl⟩ | ⟨place, rfl⟩ | he
    · exact .text
    · exact .ellipsis
    · exact .expr (allowsExpr_of_check e he)
  | .pass line, h => by
    cases h
    exact ⟨.pass, rfl, id⟩
  | .breakLoop line, h => by
    obtain ⟨_, hl, ha⟩ := bind_eq_ok_iff.mp h
    cases ha
    exact ⟨.breakLoop (require_eq_ok_iff.mp hl), rfl, id⟩
  | .continueLoop line, h => by
    obtain ⟨_, hl, ha⟩ := bind_eq_ok_iff.mp h
    cases ha
    exact ⟨.continueLoop (require_eq_ok_iff.mp hl), rfl, id⟩
  | .giveBack line value, h => by
    simp only [checkStmt, bind_eq_ok_iff, require_eq_ok_iff] at h
    obtain ⟨_, hf, _, hv, ha⟩ := h
    cases ha
    obtain rfl := Option.isNone_iff_eq_none.mp hv
    exact ⟨.giveBack hf, rfl, id⟩
  | .define line name signature body, h => by
    obtain ⟨_, hs, hb⟩ := bind_eq_ok_iff.mp h
    obtain ⟨hp, rfl, hr, hn⟩ := checkSignature_eq_ok_iff.mp hs
    obtain ⟨hbody, ha, hd⟩ := allowsBlock_of_check body hb
    refine ⟨.define hp hr hbody, ?_, fun hdefined => hd (List.nodup_cons.mpr ⟨hn, hdefined⟩)⟩
    -- the names are collected from the last one back
    rw [ha, Stmt.functionNames, List.reverse_cons, List.append_assoc]
    rfl
  | .branch line test body orelse, h => by
    simp only [checkStmt, bind_eq_ok_iff, require_eq_ok_iff] at h
    obtain ⟨_, hp, _, ht, between, hb, ho⟩ := h
    obtain ⟨hbody, hbetween, hbd⟩ := allowsBlock_of_check body hb
    obtain ⟨horelse, hafter, hod⟩ := allowsBlock_of_check orelse ho
    refine ⟨.branch hp (allowsExpr_of_check test ht) hbody horelse, ?_, fun hd => hod (hbd hd)⟩
    rw [hafter, hbetween, Stmt.functionNames, List.reverse_append, List.append_assoc]
  | .whileLoop line test body orelse, h => by
    simp only [checkStmt, bind_eq_ok_iff, require_eq_ok_iff] at h
    obtain ⟨_, hp, h⟩ := h
    cases orelse with
    | cons s rest =>
      obtain ⟨_, hr, -⟩ := bind_eq_ok_iff.mp h
      exact (reject_ne_ok hr).elim
    | nil =>
      simp only [bind_eq_ok_iff] at h
      obtain ⟨_, ht, hb⟩ := h
      obtain ⟨hbody, hafter, hd⟩ := allowsBlock_of_check body hb
      refine ⟨.whileLoop hp (allowsExpr_of_check test ht) hbody, ?_, hd⟩
      rw [hafter, Stmt.functionNames, blockFunctionNames, List.append_nil]
  | .forLoop line target iterable body orelse, h => by
    simp only [checkStmt, bind_eq_ok_iff, checkHeader_eq_ok_iff] at h
    obtain ⟨counter, ⟨hp, rfl, place, call, function, bounds, rfl, rfl, hb, he⟩, h⟩ := h
    obtain ⟨hbody, hafter, hd⟩ := allowsBlock_of_check body h
    refine ⟨.forLoop hp hb.1 hb.2 (fun e hm => allowsExpr_of_check e (he e hm)) hbody, ?_, hd⟩
    rw [hafter, Stmt.functionNames, blockFunctionNames, List.append_nil]
  | .other line form inner, h => (reject_ne_ok h).elim

theorem allowsBlock_of_check {scope : Scope} {defined after : List String} : (ss : List Stmt) →
    checkStmt.checkBlock book scope ss defined = .ok after →
    (∀ s ∈ ss, book.AllowsStmt scope s) ∧ after = (blockFunctionNames ss).reverse ++ defined ∧
      (defined.Nodup → after.Nodup)
  | [], h => by
    cases h
    exact ⟨nofun, rfl, id⟩
  | s :: rest, h => by
    obtain ⟨between, hs, hrest⟩ := bind_eq_ok_iff.mp h
    obtain ⟨hstmt, hbetween, hsd⟩ := allowsStmt_of_check s hs
    obtain ⟨hblock, hafter, hrd⟩ := allowsBlock_of_check rest hrest
    refine ⟨List.forall_mem_cons.mpr ⟨hstmt, hblock⟩, ?_, fun hd => hrd (hsd hd)⟩
    rw [hafter, hbetween, blockFunctionNames, List.reverse_append, List.append_assoc]

end

theorem mem_blockFunctionNames {ss : List Stmt} {n : String} :
    n ∈ blockFunctionNames ss ↔ ∃ s ∈ ss, n ∈ s.functionNames := by
  induction ss with
  | nil => simp [blockFunctionNames]
  | cons s rest ih => simp [blockFunctionNames, ih]

/-- No function of the language has the name of a command or of the counting function. -/
theorem AllowsStmt.functionNames_not_reserved {scope : Scope} {s : Stmt}
    (h : book.AllowsStmt scope s) : ∀ n ∈ s.functionNames, n ∉ reservedNames := by
  have hblock {ss : List Stmt} (hs : ∀ s ∈ ss, ∀ n ∈ s.functionNames, n ∉ reservedNames) :
      ∀ n ∈ blockFunctionNames ss, n ∉ reservedNames := by
    intro n hn
    obtain ⟨s, hm, hn⟩ := mem_blockFunctionNames.mp hn
    exact hs s hm n hn
  induction h with
  | define _ hr _ ih => exact List.forall_mem_cons.mpr ⟨hr, hblock ih⟩
  | branch _ _ _ _ ihb iho => exact List.forall_mem_append.mpr ⟨hblock ihb, hblock iho⟩
  | whileLoop _ _ _ ih => exact List.forall_mem_append.mpr ⟨hblock ih, nofun⟩
  | forLoop _ _ _ _ _ ih => exact List.forall_mem_append.mpr ⟨hblock ih, nofun⟩
  | text | ellipsis | expr _ | pass | breakLoop _ | continueLoop _ | giveBack _ => exact nofun

/-- Statements that are each accepted are accepted one after another. -/
theorem checkBlock_eq_ok {scope : Scope} {ss : List Stmt}
    (h : ∀ s ∈ ss, ∀ defined, (s.functionNames.reverse ++ defined).Nodup →
      book.checkStmt scope s defined = .ok (s.functionNames.reverse ++ defined))
    {defined : List String} (hd : ((blockFunctionNames ss).reverse ++ defined).Nodup) :
    checkStmt.checkBlock book scope ss defined =
      .ok ((blockFunctionNames ss).reverse ++ defined) := by
  induction ss generalizing defined with
  | nil => rfl
  | cons s rest ih =>
    rw [blockFunctionNames, List.reverse_append, List.append_assoc] at hd ⊢
    refine bind_eq_ok_iff.mpr ⟨s.functionNames.reverse ++ defined, ?_, ?_⟩
    · exact h s List.mem_cons_self defined hd.of_append_right
    · exact ih (fun s' hs' => h s' (List.mem_cons_of_mem s hs')) hd

/-- A statement of the language is accepted behind functions of other names. -/
theorem AllowsStmt.check (hf : ∀ n ∈ book.functions, n ∉ reservedNames) {scope : Scope} {s : Stmt}
    (h : book.AllowsStmt scope s) : ∀ defined, (s.functionNames.reverse ++ defined).Nodup →
      book.checkStmt scope s defined = .ok (s.functionNames.reverse ++ defined) := by
  induction h with
  | text | ellipsis | pass => exact fun defined _ => rfl
  | expr he => exact fun defined _ => checkStmt_expr_eq_ok_iff.mpr ⟨rfl, .inr (.inr (he.check hf))⟩
  | breakLoop hl | continueLoop hl =>
    exact fun defined _ => bind_eq_ok_iff.mpr ⟨(), require_eq_ok_iff.mpr hl, rfl⟩
  | giveBack hl =>
    exact fun defined _ => bind_eq_ok_iff.mpr ⟨(), require_eq_ok_iff.mpr hl, rfl⟩
  | @define scope line name body hp hr _ ih =>
    intro defined hd
    rw [Stmt.functionNames, List.reverse_cons, List.append_assoc] at hd ⊢
    have hn : name ∉ defined := (List.nodup_cons.mp hd.of_append_right).1
    exact bind_eq_ok_iff.mpr
      ⟨(), checkSignature_eq_ok_iff.mpr ⟨hp, rfl, hr, hn⟩, checkBlock_eq_ok ih hd⟩
  | branch hp ht _ _ ihb iho =>
    intro defined hd
    rw [Stmt.functionNames, List.reverse_append, List.append_assoc] at hd ⊢
    simp only [checkStmt, bind_eq_ok_iff, require_eq_ok_iff]
    exact ⟨(), hp, (), ht.check hf, _, checkBlock_eq_ok ihb hd.of_append_right,
      checkBlock_eq_ok iho hd⟩
  | whileLoop hp ht _ ih =>
    intro defined hd
    rw [Stmt.functionNames, blockFunctionNames, List.append_nil] at hd ⊢
    simp only [checkStmt, bind_eq_ok_iff, require_eq_ok_iff]
    exact ⟨(), hp, (), ht.check hf, checkBlock_eq_ok ih hd⟩
  | forLoop hp hmin hmax hb _ ih =>
    intro defined hd
    rw [Stmt.functionNames, blockFunctionNames, List.append_nil] at hd ⊢
    refine bind_eq_ok_iff.mpr ⟨_, checkHeader_eq_ok_iff.mpr ?_, checkBlock_eq_ok ih hd⟩
    exact ⟨hp, rfl, _, _, _, _, rfl, rfl, ⟨hmin, hmax⟩, fun e he => (hb e he).check hf⟩

end Rulebook

namespace Tree

variable {restrictions : Restrictions} {tree : Tree}

theorem InLanguage.functionNames_not_reserved (h : tree.InLanguage restrictions) :
    ∀ n ∈ blockFunctionNames tree, n ∉ reservedNames := by
  intro n hn
  obtain ⟨s, hs, hn⟩ := Rulebook.mem_blockFunctionNames.mp hn
  exact (h.statements s hs).functionNames_not_reserved n hn

theorem inLanguage_of_check (h : tree.check restrictions = .ok ()) :
    tree.InLanguage restrictions := by
  obtain ⟨after, hb, -⟩ := bind_eq_ok_iff.mp h
  obtain ⟨hs, rfl, hd⟩ := Rulebook.allowsBlock_of_check tree hb
  have hn := hd List.nodup_nil
  rw [List.append_nil, List.nodup_reverse] at hn
  exact ⟨hs, hn⟩

theorem InLanguage.check (h : tree.InLanguage restrictions) : tree.check restrictions = .ok () := by
  have hf := h.functionNames_not_reserved
  refine bind_eq_ok_iff.mpr ⟨(blockFunctionNames tree).reverse ++ [], ?_, rfl⟩
  refine Rulebook.checkBlock_eq_ok (fun s hs => (h.statements s hs).check hf) ?_
  rw [List.append_nil, List.nodup_reverse]
  exact h.functions_nodup

end Tree

end KarelLab.Program
