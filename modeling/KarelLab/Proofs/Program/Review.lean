import KarelLab.Program.Review
import KarelLab.Proofs.Program.Language

namespace KarelLab.Program

theorem clip_ne_clipped {e : Expr} {room : Nat}
    (h : ∀ l parts, e.clip room ≠ .other l .clipped parts) : ¬ room < nodeSteps := by
  intro hlt
  cases e <;> exact h _ _ (by rw [Expr.clip, if_pos hlt])

def Expr.IsLeaf : Expr → Prop
  | .name _ _ | .literal _ _ => True
  | _ => False

/-- A name or a literal that is left was there. -/
theorem eq_of_clip_eq_leaf {e leaf : Expr} {room : Nat} (hl : leaf.IsLeaf)
    (h : e.clip room = leaf) : e = leaf := by
  subst h
  have hroom : ¬ room < nodeSteps := clip_ne_clipped fun l parts hc => by
    rw [hc] at hl
    exact hl
  cases e with
  | name _ _ | literal _ _ => rw [Expr.clip, if_neg hroom]
  | call _ _ _ _ | junction _ _ _ | not _ _ | other _ _ _ =>
    rw [Expr.clip, if_neg hroom] at hl
    exact hl.elim

theorem eq_nil_of_clipExprs {es : List Expr} {room : Nat} (h : clipExprs room es = []) :
    es = [] := by
  cases es with
  | nil => rfl
  | cons e rest => cases h

namespace Rulebook

variable {book : Rulebook}

theorem AllowsExpr.ne_clipped {scope : Scope} {e : Expr} (h : book.AllowsExpr scope e) (l : Nat)
    (parts : List Expr) : e ≠ .other l .clipped parts := by
  rintro rfl
  cases h

mutual

/-- Of an expression that belongs to the language nothing was left out. -/
theorem AllowsExpr.clip_eq {scope : Scope} : (e : Expr) → {room : Nat} →
    book.AllowsExpr scope (e.clip room) → e.clip room = e
  | .name l id, room, h => by rw [Expr.clip, if_neg (clip_ne_clipped h.ne_clipped)]
  | .literal l v, room, h => by rw [Expr.clip, if_neg (clip_ne_clipped h.ne_clipped)]
  | .not l e, room, h => by
    have hroom := clip_ne_clipped h.ne_clipped
    rw [Expr.clip, if_neg hroom] at h ⊢
    cases h with
    | not he => rw [AllowsExpr.clip_eq e he]
  | .junction l op es, room, h => by
    have hroom := clip_ne_clipped h.ne_clipped
    rw [Expr.clip, if_neg hroom] at h ⊢
    cases h with
    | junction hs => rw [AllowsExpr.clipExprs_eq es hs]
  | .call l f args keywords, room, h => by
    have hroom := clip_ne_clipped h.ne_clipped
    rw [Expr.clip, if_neg hroom] at h ⊢
    -- what is called is a name, and it is called without arguments
    generalize hf : f.clip (room - nodeSteps) = f' at h ⊢
    generalize ha : clipExprs (room - nodeSteps - 1) args = args' at h ⊢
    cases h with
    | command | function => rw [eq_of_clip_eq_leaf (by trivial) hf, eq_nil_of_clipExprs ha]
  | .other l form parts, room, h => by
    have hroom := clip_ne_clipped h.ne_clipped
    rw [Expr.clip, if_neg hroom]

theorem AllowsExpr.clipExprs_eq {scope : Scope} : (es : List Expr) → {room : Nat} →
    (∀ e ∈ clipExprs room es, book.AllowsExpr scope e) → clipExprs room es = es
  | [], _, _ => rfl
  | e :: rest, room, h => by
    obtain ⟨he, hrest⟩ := List.forall_mem_cons.mp h
    rw [clipExprs, AllowsExpr.clip_eq e he, AllowsExpr.clipExprs_eq rest hrest]

end

/-- Of a range whose bounds belong to the language nothing was left out. -/
theorem eq_of_clip_eq_range {scope : Scope} {e : Expr} {room line place : Nat} {id : String}
    {bounds : List Expr} {keywords : List (Option String)}
    (h : e.clip room = .call line (.name place id) bounds keywords)
    (hb : ∀ b ∈ bounds, book.AllowsExpr scope b) :
    e = .call line (.name place id) bounds keywords := by
  have hroom : ¬ room < nodeSteps := clip_ne_clipped fun l parts hc => by
    rw [h] at hc
    cases hc
  cases e with
  | call l f args keywords' =>
    rw [Expr.clip, if_neg hroom, Expr.call.injEq] at h
    obtain ⟨rfl, hf, rfl, rfl⟩ := h
    rw [eq_of_clip_eq_leaf (by trivial) hf, AllowsExpr.clipExprs_eq args hb]
  | name _ _ | literal _ _ | junction _ _ _ | not _ _ | other _ _ _ =>
    rw [Expr.clip, if_neg hroom] at h
    cases h

mutual

/-- Of a statement that belongs to the language nothing was left out. -/
theorem AllowsStmt.clip_eq {scope : Scope} (s : Stmt) {room : Nat}
    (h : book.AllowsStmt scope (s.clip room)) : s.clip room = s := by
  -- a part that the walk does not reach is none of the language
  have hroom : ¬ room < nodeSteps := by
    intro hlt
    rw [Stmt.clip.eq_def, if_pos hlt] at h
    cases h
  cases s with
  | expr l e =>
    rw [Stmt.clip, if_neg hroom] at h ⊢
    generalize he : e.clip (room - nodeSteps) = e' at h ⊢
    cases h with
    | text | ellipsis => rw [eq_of_clip_eq_leaf (by trivial) he]
    | expr ha =>
      subst he
      rw [ha.clip_eq]
  | define l name signature body =>
    rw [Stmt.clip, if_neg hroom] at h ⊢
    cases h with
    | define _ _ hb => rw [AllowsStmt.clipBlock_eq body hb]
  | branch l test body orelse =>
    rw [Stmt.clip, if_neg hroom] at h ⊢
    cases h with
    | branch _ ht hb ho =>
      rw [ht.clip_eq, AllowsStmt.clipBlock_eq body hb, AllowsStmt.clipBlock_eq orelse ho]
  | whileLoop l test body orelse =>
    rw [Stmt.clip, if_neg hroom] at h ⊢
    cases h with
    | whileLoop _ ht hb => rw [ht.clip_eq, AllowsStmt.clipBlock_eq body hb]
  | forLoop l target iterable body orelse =>
    rw [Stmt.clip, if_neg hroom] at h ⊢
    generalize hi : iterable.clip (room - nodeSteps) = iterable' at h ⊢
    cases h with
    | forLoop _ _ _ ha hb => rw [eq_of_clip_eq_range hi ha, AllowsStmt.clipBlock_eq body hb]
  | pass _ | breakLoop _ | continueLoop _ | giveBack _ _ | other _ _ _ =>
    rw [Stmt.clip.eq_def, if_neg hroom]

theorem AllowsStmt.clipBlock_eq {scope : Scope} (ss : List Stmt) {room : Nat}
    (h : ∀ s ∈ clipBlock room ss, book.AllowsStmt scope s) : clipBlock room ss = ss := by
  cases ss with
  | nil => rfl
  | cons s rest =>
    obtain ⟨hs, hrest⟩ := List.forall_mem_cons.mp h
    rw [clipBlock, AllowsStmt.clip_eq s hs, AllowsStmt.clipBlock_eq rest hrest]

end

end Rulebook

/-- What the walk sees of an accepted program is the whole program. -/
theorem check_clip_eq_ok_iff {restrictions : Restrictions} {tree : Tree} {u : Unit} :
    Rulebook.check ⟨restrictions, blockFunctionNames tree⟩ tree.clip = .ok u ↔
      tree.clip = tree ∧ tree.InLanguage restrictions := by
  constructor
  · intro h
    obtain ⟨after, hb, -⟩ := bind_eq_ok_iff.mp h
    have hclip : tree.clip = tree :=
      Rulebook.AllowsStmt.clipBlock_eq tree (Rulebook.allowsBlock_of_check tree.clip hb).1
    rw [hclip] at h
    exact ⟨hclip, Tree.inLanguage_of_check h⟩
  · rintro ⟨hclip, h⟩
    rw [hclip]
    exact h.check

/-- The review of a text that has a tree: each check that fails ends it. -/
theorem review_of_tree {restrictions : Restrictions} {text : String} {t : Tree}
    (ht : Tree.ofText text = .ok t) :
    review restrictions text =
      if maxTreeDepth < blockDepth t then .error tooDeep
      else
        match Rulebook.check ⟨restrictions, blockFunctionNames t⟩ t.clip with
        | .error v => .error (.violation v)
        | .ok _ =>
          match t.structureError? with
          | none => .ok t
          | some e => .error (.unreadable e) := by
  unfold review
  rw [ht]
  by_cases hd : maxTreeDepth < blockDepth t
  · simp only [if_pos hd]
    change (if _ then _ else _) = _
    rw [if_pos hd]
    rfl
  · simp only [if_neg hd]
    change (if _ then _ else _) = _
    rw [if_neg hd]
    cases Rulebook.check ⟨restrictions, blockFunctionNames t⟩ t.clip with
    | error v => rfl
    | ok u => cases t.structureError? <;> rfl

/-- A text is accepted if it has a tree, nested not too deeply, of which the walk sees all, that
belongs to the language and whose structure has no error. -/
theorem review_eq_ok_iff {restrictions : Restrictions} {text : String} {tree : Tree} :
    review restrictions text = .ok tree ↔
      Tree.ofText text = .ok tree ∧ blockDepth tree ≤ maxTreeDepth ∧ tree.clip = tree ∧
        tree.InLanguage restrictions ∧ tree.structureError? = none := by
  cases ht : Tree.ofText text with
  | error e =>
    unfold review
    rw [ht]
    cases e <;> exact ⟨nofun, fun h => nomatch h.1⟩
  | ok t =>
    -- what was read passes three gates: its depth, the rules, and its structure
    rw [review_of_tree ht]
    constructor
    · intro h
      split at h
      · cases h
      · rename_i hd
        split at h
        · cases h
        · rename_i u hc
          split at h
          · rename_i hs
            cases h
            obtain ⟨hclip, hl⟩ := check_clip_eq_ok_iff.mp hc
            exact ⟨rfl, Nat.not_lt.mp hd, hclip, hl, hs⟩
          · cases h
    · rintro ⟨hte, hd, hclip, hl, hs⟩
      cases hte
      have hc : Rulebook.check ⟨restrictions, blockFunctionNames tree⟩ tree.clip = .ok () :=
        check_clip_eq_ok_iff.mpr ⟨hclip, hl⟩
      rw [if_neg (Nat.not_lt.mpr hd), hc, hs]

/-- The check accepts exactly the programs of the language, and the texts of these programs are
accepted exactly if they keep to the limits on nesting and their structure has no error. -/
theorem accepts_exactly_language (restrictions : Restrictions) (tree : Tree) :
    (tree.check restrictions = .ok () ↔ tree.InLanguage restrictions) ∧
      ∀ text, review restrictions text = .ok tree ↔
        Tree.ofText text = .ok tree ∧ blockDepth tree ≤ maxTreeDepth ∧ tree.clip = tree ∧
          tree.InLanguage restrictions ∧ tree.structureError? = none :=
  ⟨⟨Tree.inLanguage_of_check, Tree.InLanguage.check⟩, fun _ => review_eq_ok_iff⟩

end KarelLab.Program
