import KarelLab.Proofs.Except
import KarelLab.Proofs.Program.Filter

/-!
# Where the walk through a program stops

A program that breaks a rule is rejected within one of its statements. What stands behind that
statement is not looked at, apart from the names of the functions that are defined there, and the line
that is reported is one of the statement itself.
-/

namespace KarelLab.Program

mutual

def Expr.lines : Expr → List Nat
  | .name line _ | .literal line _ => [line]
  | .not line e => line :: e.lines
  | .junction line _ es => line :: exprsLines es
  | .call line f args _ => line :: (f.lines ++ exprsLines args)
  | .other line _ parts => line :: exprsLines parts

def exprsLines : List Expr → List Nat
  | [] => []
  | e :: rest => e.lines ++ exprsLines rest

end

mutual

def Stmt.lines : Stmt → List Nat
  | .expr line e => line :: e.lines
  | .pass line | .breakLoop line | .continueLoop line | .giveBack line none => [line]
  | .giveBack line (some e) => line :: e.lines
  | .define line _ signature body => line :: (signature.decorator.toList ++ blockLines body)
  | .branch line test body orelse => line :: (test.lines ++ (blockLines body ++ blockLines orelse))
  | .whileLoop line test body orelse =>
    line :: (test.lines ++ (blockLines body ++ blockLines orelse))
  | .forLoop line target iterable body orelse =>
    line :: (target.lines ++ (iterable.lines ++ (blockLines body ++ blockLines orelse)))
  | .other line _ inner => line :: blockLines inner

def blockLines : List Stmt → List Nat
  | [] => []
  | s :: rest => s.lines ++ blockLines rest

end

theorem Stmt.line_mem_lines (s : Stmt) : s.line ∈ s.lines := by
  cases s with
  | giveBack line value => cases value <;> exact List.mem_cons_self
  | _ => exact List.mem_cons_self

/-! ## Objections stand on the lines of what is looked at -/

def ObjectsOn {α : Type} (lines : List Nat) (x : Except Violation α) : Prop :=
  ∀ v, x = .error v → v.line ∈ lines

namespace ObjectsOn

variable {α β : Type} {lines lines' : List Nat} {line : Nat} {o : Objection}

theorem ok (a : α) : ObjectsOn lines (.ok a) := nofun

theorem reject (h : line ∈ lines) : ObjectsOn lines (Program.reject o line : Except Violation α) := by
  intro v hv
  cases hv
  exact h

theorem require {condition : Bool} (h : line ∈ lines) :
    ObjectsOn lines (Program.require condition o line) := by
  cases condition with
  | true => exact .ok ()
  | false => exact .reject h

theorem bind {x : Except Violation α} {f : α → Except Violation β} (hx : ObjectsOn lines x)
    (hf : ∀ a, ObjectsOn lines (f a)) : ObjectsOn lines (x >>= f) := by
  intro v hv
  rcases bind_eq_error_iff.mp hv with hv | ⟨a, -, hv⟩
  · exact hx v hv
  · exact hf a v hv

theorem mono {x : Except Violation α} (h : ObjectsOn lines x) (hl : lines ⊆ lines') :
    ObjectsOn lines' x :=
  fun v hv => hl (h v hv)

end ObjectsOn

namespace Rulebook

variable (book : Rulebook)

theorem objectsOn_checkCall (name : String) (args : List Expr) {lines : List Nat} {line : Nat}
    (h : line ∈ lines) : ObjectsOn lines (book.checkCall name args line) := by
  unfold checkCall
  split
  · exact .bind (.require h) fun _ => .require h
  · exact .bind (.require h) fun _ => .require h

mutual

theorem objectsOn_checkExpr (scope : Scope) : (e : Expr) →
    ObjectsOn e.lines (book.checkExpr scope e)
  | .name line id => .require List.mem_cons_self
  | .literal line v => by
    cases v with
    | int n | bool b => exact .ok ()
    | ellipsis | text s | bytes | real z | imaginary | none => exact .reject List.mem_cons_self
  | .not line e => (objectsOn_checkExpr scope e).mono (List.subset_cons_self _ _)
  | .junction line op es => (objectsOn_checkExprs scope es).mono (List.subset_cons_self _ _)
  | .other line form parts => .reject List.mem_cons_self
  | .call line f args keywords => by
    have hline : line ∈ Expr.lines (.call line f args keywords) := List.mem_cons_self
    cases f with
    | name place id =>
      exact .bind (.require hline) fun _ => .bind (.require hline) fun _ =>
        book.objectsOn_checkCall id args hline
    | literal _ _ | call _ _ _ _ | junction _ _ _ | not _ _ | other _ _ _ =>
      refine .bind ((objectsOn_checkExpr scope _).mono ?_) fun _ => .reject hline
      exact List.Subset.trans (List.subset_append_left _ _) (List.subset_cons_self _ _)

theorem objectsOn_checkExprs (scope : Scope) : (es : List Expr) →
    ObjectsOn (exprsLines es) (checkExpr.checkExprs book scope es)
  | [] => .ok ()
  | e :: rest =>
    .bind ((objectsOn_checkExpr scope e).mono (List.subset_append_left _ _)) fun _ =>
      (objectsOn_checkExprs scope rest).mono (List.subset_append_right _ _)

end

theorem objectsOn_forM (scope : Scope) (es : List Expr) :
    ObjectsOn (exprsLines es) (es.forM (book.checkExpr scope)) := by
  induction es with
  | nil => exact .ok ()
  | cons e rest ih =>
    exact .bind ((book.objectsOn_checkExpr scope e).mono (List.subset_append_left _ _)) fun _ =>
      ih.mono (List.subset_append_right _ _)

theorem objectsOn_checkRange (scope : Scope) (args : List Expr) (keywords : List (Option String))
    {lines : List Nat} {line : Nat} (h : line ∈ lines) (ha : exprsLines args ⊆ lines) :
    ObjectsOn lines (book.checkRange scope args keywords line) :=
  .bind (.require h) fun _ => .bind (.require h) fun _ => (book.objectsOn_forM _ args).mono ha

theorem objectsOn_checkSignature (name : String) (s : Signature) (defined : List String)
    {lines : List Nat} {line : Nat} (h : line ∈ lines) (hs : s.decorator.toList ⊆ lines) :
    ObjectsOn lines (book.checkSignature name s defined line) := by
  unfold checkSignature
  refine .bind (.require h) fun _ => .bind (.require h) fun _ => ?_
  cases hd : s.decorator with
  | none => exact .bind (.require h) fun _ => .bind (.require h) fun _ => .require h
  | some l => exact .reject (hs (by rw [hd]; exact List.mem_cons_self))

theorem objectsOn_checkHeader (scope : Scope) (target iterable : Expr) (orelse : List Stmt)
    {lines : List Nat} {line : Nat} (h : line ∈ lines) (hi : iterable.lines ⊆ lines)
    (ho : blockLines orelse ⊆ lines) :
    ObjectsOn lines (book.checkHeader scope target iterable orelse line) := by
  unfold checkHeader
  refine .bind (.require h) fun _ => ?_
  split
  · split
    · rename_i callLine _ function args keywords
      have hcall : callLine ∈ lines := hi List.mem_cons_self
      have hargs : exprsLines args ⊆ lines := by
        intro l hl
        exact hi (List.mem_cons_of_mem _ (List.mem_append_right _ hl))
      refine .bind (.require h) fun _ => ?_
      cases orelse with
      | cons s rest => exact .reject (ho (List.mem_append_left _ s.line_mem_lines))
      | nil => exact .bind (book.objectsOn_checkRange scope args keywords hcall hargs) fun _ => .ok _
    · exact .reject h
  · exact .reject h

mutual

/-- A statement is rejected on one of its own lines. -/
theorem objectsOn_checkStmt (scope : Scope) (defined : List String) : (s : Stmt) →
    ObjectsOn s.lines (book.checkStmt scope s defined)
  | .expr line e => by
    have hplain : ObjectsOn (line :: e.lines)
        (book.checkExpr scope e >>= fun _ => pure defined) :=
      .bind ((book.objectsOn_checkExpr scope e).mono (List.subset_cons_self _ _)) fun _ => .ok _
    cases e with
    | literal place v =>
      cases v with
      | text _ | ellipsis => exact .ok _
      | int _ | bool _ | bytes | real _ | imaginary | none => exact hplain
    | name _ _ | call _ _ _ _ | junction _ _ _ | not _ _ | other _ _ _ => exact hplain
  | .pass line => .ok _
  | .breakLoop line => .bind (.require List.mem_cons_self) fun _ => .ok _
  | .continueLoop line => .bind (.require List.mem_cons_self) fun _ => .ok _
  | .giveBack line value => by
    have hline : line ∈ Stmt.lines (.giveBack line value) := Stmt.line_mem_lines _
    exact .bind (.require hline) fun _ => .bind (.require hline) fun _ => .ok _
  | .other line form inner => .reject List.mem_cons_self
  | .define line name signature body => by
    refine .bind (book.objectsOn_checkSignature name signature defined List.mem_cons_self ?_)
      fun _ => (objectsOn_checkBlock _ _ body).mono ?_
    · exact List.Subset.trans (List.subset_append_left _ _) (List.subset_cons_self _ _)
    · exact List.Subset.trans (List.subset_append_right _ _) (List.subset_cons_self _ _)
  | .branch line test body orelse => by
    refine .bind (.require List.mem_cons_self) fun _ =>
      .bind ((book.objectsOn_checkExpr scope test).mono ?_) fun _ =>
        .bind ((objectsOn_checkBlock scope defined body).mono ?_) fun _ =>
          (objectsOn_checkBlock scope _ orelse).mono ?_
    all_goals intro l hl; simp [Stmt.lines, hl]
  | .whileLoop line test body orelse => by
    refine .bind (.require List.mem_cons_self) fun _ => ?_
    cases orelse with
    | cons s rest => exact .reject (by simp [Stmt.lines, blockLines, s.line_mem_lines])
    | nil =>
      refine .bind ((book.objectsOn_checkExpr scope test).mono ?_) fun _ =>
        (objectsOn_checkBlock _ defined body).mono ?_
      all_goals intro l hl; simp [Stmt.lines, hl]
  | .forLoop line target iterable body orelse => by
    refine .bind (book.objectsOn_checkHeader scope target iterable orelse List.mem_cons_self ?_ ?_)
      fun _ => (objectsOn_checkBlock _ defined body).mono ?_
    all_goals intro l hl; simp [Stmt.lines, hl]

theorem objectsOn_checkBlock (scope : Scope) (defined : List String) : (ss : List Stmt) →
    ObjectsOn (blockLines ss) (checkStmt.checkBlock book scope ss defined)
  | [] => .ok _
  | s :: rest =>
    .bind ((objectsOn_checkStmt scope defined s).mono (List.subset_append_left _ _)) fun _ =>
      (objectsOn_checkBlock scope _ rest).mono (List.subset_append_right _ _)

end

end Rulebook

/-! ## What the walk sees has no other lines -/

private theorem append_subset_append {as bs as' bs' : List Nat} (ha : as ⊆ as') (hb : bs ⊆ bs') :
    as ++ bs ⊆ as' ++ bs' :=
  List.append_subset.mpr
    ⟨List.subset_append_of_subset_left bs' ha, List.subset_append_of_subset_right as' hb⟩

mutual

-- a node without room keeps its own line and loses its parts, any other has parts with less room
theorem lines_clip_subset : (e : Expr) → (room : Nat) → (e.clip room).lines ⊆ e.lines
  | .name line id, room | .literal line v, room => by
    rw [Expr.clip]
    split <;> exact List.Subset.refl _
  | .other line form parts, room => by
    rw [Expr.clip]
    split
    · exact List.cons_subset_cons _ (List.nil_subset _)
    · exact List.Subset.refl _
  | .not line e, room => by
    rw [Expr.clip]
    split
    · exact List.cons_subset_cons _ (List.nil_subset _)
    · exact List.cons_subset_cons _ (lines_clip_subset e _)
  | .junction line op es, room => by
    rw [Expr.clip]
    split
    · exact List.cons_subset_cons _ (List.nil_subset _)
    · exact List.cons_subset_cons _ (lines_clipExprs_subset es _)
  | .call line f args keywords, room => by
    rw [Expr.clip]
    split
    · exact List.cons_subset_cons _ (List.nil_subset _)
    · exact List.cons_subset_cons _
        (append_subset_append (lines_clip_subset f _) (lines_clipExprs_subset args _))

theorem lines_clipExprs_subset : (es : List Expr) → (room : Nat) →
    exprsLines (clipExprs room es) ⊆ exprsLines es
  | [], _ => List.Subset.refl _
  | e :: rest, room =>
    append_subset_append (lines_clip_subset e room) (lines_clipExprs_subset rest room)

end

mutual

theorem Stmt.lines_clip_subset (s : Stmt) (room : Nat) : (s.clip room).lines ⊆ s.lines := by
  by_cases hroom : room < nodeSteps
  · have hclip : s.clip room = .other s.line .clipped [] := by rw [Stmt.clip.eq_def, if_pos hroom]
    rw [hclip]
    exact List.cons_subset.mpr ⟨s.line_mem_lines, List.nil_subset _⟩
  · cases s with
    | expr l e =>
      rw [Stmt.clip, if_neg hroom]
      exact List.cons_subset_cons _ (Program.lines_clip_subset e _)
    | define l name signature body =>
      rw [Stmt.clip, if_neg hroom]
      exact List.cons_subset_cons _ (append_subset_append (List.Subset.refl _) (lines_clipBlock_subset body _))
    | branch l test body orelse =>
      rw [Stmt.clip, if_neg hroom]
      exact List.cons_subset_cons _ (append_subset_append (Program.lines_clip_subset test _)
        (append_subset_append (lines_clipBlock_subset body _) (lines_clipBlock_subset orelse _)))
    | whileLoop l test body orelse =>
      rw [Stmt.clip, if_neg hroom]
      exact List.cons_subset_cons _ (append_subset_append (Program.lines_clip_subset test _)
        (append_subset_append (lines_clipBlock_subset body _) (List.Subset.refl _)))
    | forLoop l target iterable body orelse =>
      rw [Stmt.clip, if_neg hroom]
      exact List.cons_subset_cons _ (append_subset_append (List.Subset.refl _)
        (append_subset_append (Program.lines_clip_subset iterable _)
          (append_subset_append (lines_clipBlock_subset body _) (List.Subset.refl _))))
    | pass _ | breakLoop _ | continueLoop _ | giveBack _ _ | other _ _ _ =>
      rw [Stmt.clip.eq_def, if_neg hroom]
      exact List.Subset.refl _

theorem lines_clipBlock_subset (ss : List Stmt) (room : Nat) :
    blockLines (clipBlock room ss) ⊆ blockLines ss := by
  cases ss with
  | nil => exact List.Subset.refl _
  | cons s rest =>
    exact append_subset_append (Stmt.lines_clip_subset s room) (lines_clipBlock_subset rest room)

end

theorem clipBlock_eq_map (room : Nat) (ss : List Stmt) : clipBlock room ss = ss.map (·.clip room) := by
  induction ss with
  | nil => rfl
  | cons s rest ih => rw [clipBlock, ih, List.map_cons]

/-! ## Where the walk stops -/

/-- The walk accepts all statements before a place and stops within the statement there. -/
def Tree.StopsAt (r : Restrictions) (tree : Tree) (k : Nat) (v : Violation) : Prop :=
  ∃ s defined, tree.clip[k]? = some s ∧
    Rulebook.checkStmt.checkBlock ⟨r, blockFunctionNames tree⟩ {} (tree.clip.take k) [] = .ok defined ∧
    Rulebook.checkStmt ⟨r, blockFunctionNames tree⟩ {} s defined = .error v

/-- A block is rejected within the first of its statements that is. -/
theorem Rulebook.checkBlock_eq_error_iff {book : Rulebook} {scope : Scope} {ss : List Stmt}
    {defined : List String} {v : Violation} :
    checkStmt.checkBlock book scope ss defined = .error v ↔
      ∃ k s before, ss[k]? = some s ∧ checkStmt.checkBlock book scope (ss.take k) defined = .ok before ∧
        book.checkStmt scope s before = .error v := by
  -- on the statements: what the accepted ones define is handed on to the next one
  induction ss generalizing defined with
  | nil => simp [checkStmt.checkBlock]
  | cons s rest ih =>
    rw [checkStmt.checkBlock, bind_eq_error_iff]
    constructor
    · rintro (h | ⟨a, ha, h⟩)
      · exact ⟨0, s, defined, rfl, rfl, h⟩
      · obtain ⟨k, t, before, ht, hbefore, hv⟩ := ih.mp h
        refine ⟨k + 1, t, before, ht, ?_, hv⟩
        rw [List.take_succ_cons, checkStmt.checkBlock, ha]
        exact hbefore
    · rintro ⟨k, t, before, ht, hbefore, hv⟩
      cases k with
      | zero =>
        cases ht
        cases hbefore
        exact .inl hv
      | succ k =>
        rw [List.take_succ_cons, checkStmt.checkBlock] at hbefore
        obtain ⟨a, ha, hbefore⟩ := bind_eq_ok_iff.mp hbefore
        exact .inr ⟨a, ha, ih.mpr ⟨k, t, before, ht, hbefore, hv⟩⟩

namespace Tree.StopsAt

variable {r : Restrictions} {tree tree' : Tree} {text text' : String} {k : Nat} {v : Violation}

/-- The statement in which the walk stops has the line of the violation. -/
theorem line_mem (h : tree.StopsAt r k v) : ∃ s, tree[k]? = some s ∧ v.line ∈ s.lines := by
  obtain ⟨s, defined, hs, -, hv⟩ := h
  rw [Tree.clip, clipBlock_eq_map, List.getElem?_map, Option.map_eq_some_iff] at hs
  obtain ⟨t, ht, rfl⟩ := hs
  exact ⟨t, ht, t.lines_clip_subset _ (Rulebook.objectsOn_checkStmt _ {} defined _ v hv)⟩

/-- The walk through a program with the same beginning and the same names of functions stops at the same
place. -/
theorem congr (h : tree.StopsAt r k v) (hsame : tree'.take (k + 1) = tree.take (k + 1))
    (hnames : ∀ name, name ∈ blockFunctionNames tree' ↔ name ∈ blockFunctionNames tree) :
    tree'.StopsAt r k v := by
  obtain ⟨s, defined, hs, hbefore, hv⟩ := h
  have hclip : tree'.clip.take (k + 1) = tree.clip.take (k + 1) := by
    rw [Tree.clip, Tree.clip, clipBlock_eq_map, clipBlock_eq_map, ← List.map_take, hsame,
      List.map_take]
  have hplace : tree'.clip[k]? = tree.clip[k]? := by
    rw [← List.getElem?_take_of_lt (Nat.lt_succ_self k), hclip,
      List.getElem?_take_of_lt (Nat.lt_succ_self k)]
  have hstart : tree'.clip.take k = tree.clip.take k := by
    have htake := congrArg (List.take k) hclip
    rwa [List.take_take, List.take_take, Nat.min_eq_left (Nat.le_succ k)] at htake
  -- the rules look names of functions up, and nothing else of them
  have hcontains (name : String) : (blockFunctionNames tree').contains name =
      (blockFunctionNames tree).contains name := by
    rw [Bool.eq_iff_iff, List.contains_iff_mem, List.contains_iff_mem]
    exact hnames name
  have hbooks : Rulebook.Matches id ⟨r, blockFunctionNames tree'⟩ ⟨r, blockFunctionNames tree⟩ := by
    refine ⟨hcontains, fun _ => rfl, fun _ => rfl, fun name line => ?_⟩
    rw [Rulebook.callable, Rulebook.callable, hcontains]
  have hblock := hbooks.checkBlock {} [] (tree.clip.take k)
  have hstmt := hbooks.checkStmt {} defined s
  rw [mapError_id, mapError_id] at hblock hstmt
  refine ⟨s, defined, hplace.trans hs, ?_, hstmt.trans hv⟩
  rw [hstart]
  exact hblock.trans hbefore

/-- A text is rejected by the rules exactly if the walk stops somewhere. -/
theorem review_iff (ht : Tree.ofText text = .ok tree) (hd : blockDepth tree ≤ maxTreeDepth) :
    review r text = .error (.violation v) ↔ ∃ k, tree.StopsAt r k v := by
  have hcheck : Rulebook.check ⟨r, blockFunctionNames tree⟩ tree.clip = .error v ↔
      ∃ k, tree.StopsAt r k v := by
    rw [Rulebook.check, bind_eq_error_iff, Rulebook.checkBlock_eq_error_iff]
    -- nothing is objected to after the last statement
    exact or_iff_left fun ⟨a, _, h⟩ => nomatch h
  rw [← hcheck, review_of_tree ht, if_neg (Nat.not_lt.mpr hd)]
  cases Rulebook.check ⟨r, blockFunctionNames tree⟩ tree.clip with
  | error v' => simp
  | ok u => cases tree.structureError? <;> simp

end Tree.StopsAt

/-- A text that can be read and is not nested too deeply breaks a rule exactly if the walk through it
stops within one of its statements. The report has a line, and it is one of that statement unless too
deep a nesting is reported. Every such text that begins in the same way, up to that statement, and defines
functions of the same names is rejected with the same report. -/
theorem violation_ignores_rest {r : Restrictions} {text : String} {tree : Tree}
    (ht : Tree.ofText text = .ok tree) (hd : blockDepth tree ≤ maxTreeDepth) :
    (∀ v, review r text = .error (.violation v) ↔ ∃ k, tree.StopsAt r k v) ∧
    ∀ k v, tree.StopsAt r k v →
      v.report.line ≠ none ∧
      (v.objection ≠ .nesting →
        v.report.line = some v.line ∧ ∃ s, tree[k]? = some s ∧ v.line ∈ s.lines) ∧
      ∀ text' tree', Tree.ofText text' = .ok tree' → blockDepth tree' ≤ maxTreeDepth →
        tree'.take (k + 1) = tree.take (k + 1) →
        (∀ name, name ∈ blockFunctionNames tree' ↔ name ∈ blockFunctionNames tree) →
        tree'.StopsAt r k v ∧ review r text' = review r text := by
  refine ⟨fun v => Tree.StopsAt.review_iff ht hd, fun k v hk => ⟨nofun, fun hn => ?_, ?_⟩⟩
  · refine ⟨?_, hk.line_mem⟩
    rw [Violation.report, if_neg hn]
  · intro text' tree' ht' hd' hsame hnames
    -- both texts stop at the same statement with the same objection
    have hk' := hk.congr hsame hnames
    refine ⟨hk', ?_⟩
    rw [(Tree.StopsAt.review_iff ht hd).mpr ⟨k, hk⟩, (Tree.StopsAt.review_iff ht' hd').mpr ⟨k, hk'⟩]

private def jumpsSecond : Tree → Bool
  | .expr 1 (.call 1 (.name 1 "move") [] []) :: .expr 2 (.call 2 (.name 2 "jump") [] []) :: _ => true
  | _ => false

private theorem eq_of_jumpsSecond {tree : Tree} (h : jumpsSecond tree = true) :
    ∃ rest, tree = .expr 1 (.call 1 (.name 1 "move") [] []) ::
      .expr 2 (.call 2 (.name 2 "jump") [] []) :: rest := by
  unfold jumpsSecond at h
  split at h
  · exact ⟨_, rfl⟩
  · cases h

private theorem tree_of_jumpsSecond {text : String}
    (h : (Tree.ofText text).toOption.any (fun t => jumpsSecond t && blockDepth t ≤ maxTreeDepth &&
      blockFunctionNames t == []) = true) :
    ∃ rest, Tree.ofText text = .ok (.expr 1 (.call 1 (.name 1 "move") [] []) ::
        .expr 2 (.call 2 (.name 2 "jump") [] []) :: rest) ∧
      blockDepth (.expr 1 (.call 1 (.name 1 "move") [] []) ::
        .expr 2 (.call 2 (.name 2 "jump") [] []) :: rest) ≤ maxTreeDepth ∧
      blockFunctionNames rest = [] := by
  cases ht : Tree.ofText text with
  | error e =>
    rw [ht] at h
    cases h
  | ok tree =>
    rw [ht] at h
    simp only [Except.toOption, Option.any_some, Bool.and_eq_true, decide_eq_true_eq,
      beq_iff_eq] at h
    obtain ⟨⟨hj, hd⟩, hn⟩ := h
    obtain ⟨rest, rfl⟩ := eq_of_jumpsSecond hj
    exact ⟨rest, rfl, hd, hn⟩

/-- A jump is reported in the second line, and what stands behind it does not matter. -/
theorem violation_ignores_rest_jump :
    let text := "move()\njump()\nturn_left()"
    let text' := "move()\njump()\nwhile 1 < 2:\n    import os"
    review {} text = .error (.violation ⟨.unknownFunction "jump", 2⟩) ∧
      review {} text' = review {} text := by
  intro text text'
  obtain ⟨rest, ht, hd, hn⟩ := @tree_of_jumpsSecond text (by decide +kernel)
  obtain ⟨rest', ht', hd', hn'⟩ := @tree_of_jumpsSecond text' (by decide +kernel)
  obtain ⟨hiff, hall⟩ := violation_ignores_rest (r := {}) ht hd
  have hstops : Tree.StopsAt {} (.expr 1 (.call 1 (.name 1 "move") [] []) ::
      .expr 2 (.call 2 (.name 2 "jump") [] []) :: rest) 1 ⟨.unknownFunction "jump", 2⟩ := by
    rw [Tree.StopsAt, blockFunctionNames, blockFunctionNames, hn]
    exact ⟨.expr 2 (.call 2 (.name 2 "jump") [] []), [], rfl, rfl, rfl⟩
  obtain ⟨-, -, hrest⟩ := hall 1 _ hstops
  refine ⟨(hiff _).mpr ⟨1, hstops⟩, (hrest text' _ ht' hd' rfl fun name => ?_).2⟩
  rw [blockFunctionNames, blockFunctionNames, hn', blockFunctionNames, blockFunctionNames, hn]

end KarelLab.Program
