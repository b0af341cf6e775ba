import KarelLab.Proofs.Program.Outline
import KarelLab.Proofs.Program.Review

/-!
# Restrictions are filters

The restrictions of a lesson are looked at where a command is called and where a construct begins, and
nowhere else. So a program is accepted under restrictions exactly if it is accepted without any, and
they cover what occurs in it. Of lists that agree on what means something, not even a report can tell
one from the other, apart from the hint that a bare name could be called.
-/

namespace KarelLab.Program

mutual

def Stmt.features : Stmt → List Feature
  | .define _ _ _ body => .functions :: blockFeatures body
  | .branch _ _ body orelse => .branches :: (blockFeatures body ++ blockFeatures orelse)
  | .whileLoop _ _ body orelse => .whileLoops :: (blockFeatures body ++ blockFeatures orelse)
  | .forLoop _ _ _ body orelse => .forLoops :: (blockFeatures body ++ blockFeatures orelse)
  | .other _ _ inner => blockFeatures inner
  | .expr _ _ | .pass _ | .breakLoop _ | .continueLoop _ | .giveBack _ _ => []

def blockFeatures : List Stmt → List Feature
  | [] => []
  | s :: rest => s.features ++ blockFeatures rest

end

theorem mem_blockFeatures {ss : List Stmt} {f : Feature} :
    f ∈ blockFeatures ss ↔ ∃ s ∈ ss, f ∈ s.features := by
  induction ss with
  | nil => simp [blockFeatures]
  | cons s rest ih => simp [blockFeatures, ih]

/-- Restrictions cover calls and features: the commands among the calls may be used, and the features
as well. -/
structure Restrictions.Covers (r : Restrictions) (calls : List (String × Nat))
    (features : List Feature) : Prop where
  commands : ∀ (p : Primitive) (line : Nat), (p.name, line) ∈ calls → p.name ∈ r.commandNames
  features : ∀ f ∈ features, r.permits f = true

namespace Restrictions.Covers

variable {r : Restrictions} {calls calls' : List (String × Nat)} {features features' : List Feature}

theorem mono (h : r.Covers calls features) (hc : calls' ⊆ calls) (hf : features' ⊆ features) :
    r.Covers calls' features' where
  commands p line hp := h.commands p line (hc hp)
  features f hm := h.features f (hf hm)

/-- Without restrictions everything is covered. -/
theorem unrestricted (calls : List (String × Nat)) (features : List Feature) :
    Covers {} calls features where
  commands p _ _ := p.name_mem_names
  features _ _ := rfl

theorem of_mem_block {ss : List Stmt} (h : r.Covers (blockCalls ss) (blockFeatures ss)) {s : Stmt}
    (hs : s ∈ ss) : r.Covers s.calls s.features := by
  apply h.mono
  · exact (Outline.subset_of_mem_block hs).1
  · intro f hf
    exact mem_blockFeatures.mpr ⟨s, hs, hf⟩

end Restrictions.Covers

namespace Rulebook

variable {book : Rulebook} {r : Restrictions}

/-! ## The language under other restrictions -/

/-- An expression of the language stays in it under all restrictions that cover its calls. -/
theorem AllowsExpr.under {scope : Scope} {e : Expr} (h : book.AllowsExpr scope e)
    (hr : r.Covers e.calls []) : AllowsExpr ⟨r, book.functions⟩ scope e := by
  induction h with
  | int => exact .int
  | bool => exact .bool
  | counter hrange hcounter => exact .counter hrange hcounter
  | @command line place id hp _ =>
    obtain ⟨p, -, rfl⟩ := List.mem_map.mp hp
    exact .command hp (hr.commands p line List.mem_cons_self)
  | function hf => exact .function hf
  | not _ ih => exact .not (ih hr)
  | junction _ ih =>
    refine .junction fun e he => ih e he (hr.mono ?_ (List.Subset.refl _))
    intro c hc
    exact mem_exprsCalls.mpr ⟨e, he, hc⟩

/-- A statement of the language stays in it under all restrictions that cover it. -/
theorem AllowsStmt.under {scope : Scope} {s : Stmt} (h : book.AllowsStmt scope s)
    (hr : r.Covers s.calls s.features) : AllowsStmt ⟨r, book.functions⟩ scope s := by
  have hblock {scope : Scope} {ss : List Stmt}
      (ih : ∀ s ∈ ss, r.Covers s.calls s.features → AllowsStmt ⟨r, book.functions⟩ scope s)
      (hss : r.Covers (blockCalls ss) (blockFeatures ss)) :
      ∀ s ∈ ss, AllowsStmt ⟨r, book.functions⟩ scope s :=
    fun s hs => ih s hs (hss.of_mem_block hs)
  induction h with
  | text => exact .text
  | ellipsis => exact .ellipsis
  | pass => exact .pass
  | breakLoop hl => exact .breakLoop hl
  | continueLoop hl => exact .continueLoop hl
  | giveBack hf => exact .giveBack hf
  | expr he => exact .expr (he.under hr)
  | define _ hn _ ih =>
    have hbody := hr.mono (List.Subset.refl _) (List.subset_cons_self _ _)
    exact .define (hr.features _ List.mem_cons_self) hn (hblock ih hbody)
  | branch _ ht _ _ ihb iho =>
    -- the test, the body and what stands behind it occur one after another
    have htest := hr.mono (List.subset_append_left _ _) (List.nil_subset _)
    have hparts := hr.mono (List.subset_append_right _ _) (List.subset_cons_self _ _)
    have hbody := hparts.mono (List.subset_append_left _ _) (List.subset_append_left _ _)
    have horelse := hparts.mono (List.subset_append_right _ _) (List.subset_append_right _ _)
    exact .branch (hr.features _ List.mem_cons_self) (ht.under htest) (hblock ihb hbody)
      (hblock iho horelse)
  | whileLoop _ ht _ ih =>
    have htest := hr.mono (List.subset_append_left _ _) (List.nil_subset _)
    have hparts := hr.mono (List.subset_append_right _ _) (List.subset_cons_self _ _)
    have hbody := hparts.mono (List.subset_append_left _ _) (List.subset_append_left _ _)
    exact .whileLoop (hr.features _ List.mem_cons_self) (ht.under htest) (hblock ih hbody)
  | forLoop _ hmin hmax hb _ ih =>
    -- the variable calls nothing, so the range comes first
    have hall := hr.mono (List.subset_append_right _ _) (List.Subset.refl _)
    have hrange := hall.mono (List.subset_append_left _ _) (List.nil_subset _)
    have hparts := hall.mono (List.subset_append_right _ _) (List.subset_cons_self _ _)
    have hbody := hparts.mono (List.subset_append_left _ _) (List.subset_append_left _ _)
    refine .forLoop (hr.features _ List.mem_cons_self) hmin hmax ?_ (hblock ih hbody)
    intro e he
    refine (hb e he).under (hrange.mono ?_ (List.Subset.refl _))
    intro c hc
    exact List.mem_cons_of_mem _ (mem_exprsCalls.mpr ⟨e, he, hc⟩)

/-- A statement of the language uses only features that may be used. -/
theorem AllowsStmt.permits {scope : Scope} {s : Stmt} (h : book.AllowsStmt scope s) :
    ∀ f ∈ s.features, book.restrictions.permits f = true := by
  have hblock {ss : List Stmt}
      (ih : ∀ s ∈ ss, ∀ f ∈ s.features, book.restrictions.permits f = true) :
      ∀ f ∈ blockFeatures ss, book.restrictions.permits f = true := by
    intro f hf
    obtain ⟨s, hs, hf⟩ := mem_blockFeatures.mp hf
    exact ih s hs f hf
  induction h with
  | text | ellipsis | expr _ | pass | breakLoop _ | continueLoop _ | giveBack _ => nofun
  | define hp _ _ ih => exact List.forall_mem_cons.mpr ⟨hp, hblock ih⟩
  | branch hp _ _ _ ihb iho =>
    exact List.forall_mem_cons.mpr ⟨hp, List.forall_mem_append.mpr ⟨hblock ihb, hblock iho⟩⟩
  | whileLoop hp _ _ ih =>
    exact List.forall_mem_cons.mpr ⟨hp, List.forall_mem_append.mpr ⟨hblock ih, nofun⟩⟩
  | forLoop hp _ _ _ _ ih =>
    exact List.forall_mem_cons.mpr ⟨hp, List.forall_mem_append.mpr ⟨hblock ih, nofun⟩⟩

end Rulebook

namespace Tree.InLanguage

variable {r r' : Restrictions} {tree : Tree}

/-- The restrictions of a lesson cover the programs of its language. -/
theorem covers (h : tree.InLanguage r) : r.Covers (blockCalls tree) (blockFeatures tree) where
  commands _ _ hc := h.command_of_call hc
  features f hf := by
    obtain ⟨s, hs, hf⟩ := mem_blockFeatures.mp hf
    exact (h.statements s hs).permits f hf

theorem under (h : tree.InLanguage r) (hr : r'.Covers (blockCalls tree) (blockFeatures tree)) :
    tree.InLanguage r' where
  statements s hs := (h.statements s hs).under (hr.of_mem_block hs)
  functions_nodup := h.functions_nodup

end Tree.InLanguage

/-- A text that is accepted under some restrictions is accepted under all that cover it. -/
theorem review_under {r r' : Restrictions} {text : String} {tree : Tree}
    (h : review r text = .ok tree) (hr : r'.Covers (blockCalls tree) (blockFeatures tree)) :
    review r' text = .ok tree := by
  obtain ⟨hread, hdepth, hclip, hlanguage, hstructure⟩ := review_eq_ok_iff.mp h
  exact review_eq_ok_iff.mpr ⟨hread, hdepth, hclip, hlanguage.under hr, hstructure⟩

theorem covers_of_review {r : Restrictions} {text : String} {tree : Tree}
    (h : review r text = .ok tree) : r.Covers (blockCalls tree) (blockFeatures tree) := by
  obtain ⟨-, -, -, hlanguage, -⟩ := review_eq_ok_iff.mp h
  exact hlanguage.covers

/-! ## Restrictions that mean the same -/

def Violation.unhinted (v : Violation) : Violation :=
  match v.objection with
  | .bareName id _ => ⟨.bareName id false, v.line⟩
  | _ => v

def Rejection.onViolation (g : Violation → Violation) : Rejection → Rejection
  | .unreadable e => .unreadable e
  | .violation v => .violation (g v)

section Matching

variable {α β : Type} {g : Violation → Violation}

theorem mapError_bind_congr {x y : Except Violation α} {f f' : α → Except Violation β}
    (hx : x.mapError g = y.mapError g) (hf : ∀ a, (f a).mapError g = (f' a).mapError g) :
    (x >>= f).mapError g = (y >>= f').mapError g := by
  cases x with
  | error v =>
    cases y with
    | error v' => exact congrArg Except.error (Except.error.inj hx)
    | ok b => cases hx
  | ok a =>
    cases y with
    | error v' => cases hx
    | ok b =>
      cases Except.ok.inj hx
      exact hf a

/-- Rulebooks that say the same of functions, commands and features, and of a bare name up to what is
left of a violation. -/
structure Rulebook.Matches (g : Violation → Violation) (a b : Rulebook) : Prop where
  functions : ∀ name, a.functions.contains name = b.functions.contains name
  commands : ∀ p : Primitive,
    a.restrictions.commandNames.contains p.name = b.restrictions.commandNames.contains p.name
  features : ∀ f, a.restrictions.permits f = b.restrictions.permits f
  bareNames : ∀ id line,
    g ⟨.bareName id (a.callable id), line⟩ = g ⟨.bareName id (b.callable id), line⟩

namespace Rulebook.Matches

variable {a b : Rulebook}

theorem checkCall (h : a.Matches g b) (name : String) (args : List Expr) (line : Nat) :
    a.checkCall name args line = b.checkCall name args line := by
  unfold Rulebook.checkCall
  -- only the names of commands are looked up in the list of the restrictions
  by_cases hp : name ∈ Primitive.names
  · obtain ⟨p, -, rfl⟩ := List.mem_map.mp hp
    rw [h.commands, h.functions]
  · rw [h.functions]
    simp [hp]

mutual

/-- Rulebooks that match reject an expression alike. -/
theorem checkExpr (h : a.Matches g b) (scope : Scope) : (e : Expr) →
    (a.checkExpr scope e).mapError g = (b.checkExpr scope e).mapError g
  | .name line id => by
    rw [Rulebook.checkExpr, Rulebook.checkExpr]
    cases scope.inRange && scope.counters.contains id with
    | true => rfl
    -- the one place where a report looks at what may be called
    | false => exact congrArg Except.error (h.bareNames id line)
  | .literal line v => by cases v <;> rfl
  | .not line e => checkExpr h scope e
  | .junction line op es => checkExprs h scope es
  | .other line form parts => rfl
  | .call line f args keywords => by
    cases f with
    | name place id =>
      rw [Rulebook.checkExpr, Rulebook.checkExpr, h.checkCall]
    | literal _ _ | call _ _ _ _ | junction _ _ _ | not _ _ | other _ _ _ =>
      exact mapError_bind_congr (checkExpr h scope _) fun _ => rfl

theorem checkExprs (h : a.Matches g b) (scope : Scope) : (es : List Expr) →
    (checkExpr.checkExprs a scope es).mapError g = (checkExpr.checkExprs b scope es).mapError g
  | [] => rfl
  | e :: rest => mapError_bind_congr (checkExpr h scope e) fun _ => checkExprs h scope rest

end

theorem forM (h : a.Matches g b) (scope : Scope) (es : List Expr) :
    (es.forM (a.checkExpr scope)).mapError g = (es.forM (b.checkExpr scope)).mapError g := by
  induction es with
  | nil => rfl
  | cons e rest ih => exact mapError_bind_congr (h.checkExpr scope e) fun _ => ih

theorem checkRange (h : a.Matches g b) (scope : Scope) (args : List Expr)
    (keywords : List (Option String)) (line : Nat) :
    (a.checkRange scope args keywords line).mapError g =
      (b.checkRange scope args keywords line).mapError g :=
  mapError_bind_congr rfl fun _ => mapError_bind_congr rfl fun _ => h.forM _ args

theorem checkSignature (h : a.Matches g b) (name : String) (s : Signature) (defined : List String)
    (line : Nat) : a.checkSignature name s defined line = b.checkSignature name s defined line := by
  unfold Rulebook.checkSignature
  rw [h.features]

theorem checkHeader (h : a.Matches g b) (scope : Scope) (target iterable : Expr)
    (orelse : List Stmt) (line : Nat) :
    (a.checkHeader scope target iterable orelse line).mapError g =
      (b.checkHeader scope target iterable orelse line).mapError g := by
  unfold Rulebook.checkHeader
  rw [h.features]
  refine mapError_bind_congr rfl fun _ => ?_
  split
  · split
    · refine mapError_bind_congr rfl fun _ => ?_
      cases orelse with
      | cons s rest => rfl
      | nil => exact mapError_bind_congr (h.checkRange _ _ _ _) fun _ => rfl
    · rfl
  · rfl

mutual

/-- Rulebooks that match reject a statement alike. -/
theorem checkStmt (h : a.Matches g b) (scope : Scope) (defined : List String) : (s : Stmt) →
    (a.checkStmt scope s defined).mapError g = (b.checkStmt scope s defined).mapError g
  | .expr line e => by
    have hplain : (a.checkExpr scope e >>= fun _ => pure defined).mapError g =
        (b.checkExpr scope e >>= fun _ => pure defined).mapError g :=
      mapError_bind_congr (h.checkExpr scope e) fun _ => rfl
    cases e with
    | literal place v => cases v <;> rfl
    | name _ _ | call _ _ _ _ | junction _ _ _ | not _ _ | other _ _ _ => exact hplain
  | .pass line => rfl
  | .breakLoop line => rfl
  | .continueLoop line => rfl
  | .giveBack line value => rfl
  | .other line form inner => rfl
  | .define line name signature body => by
    rw [Rulebook.checkStmt, Rulebook.checkStmt, h.checkSignature]
    exact mapError_bind_congr rfl fun _ => checkBlock h _ _ body
  | .branch line test body orelse => by
    rw [Rulebook.checkStmt, Rulebook.checkStmt, h.features]
    refine mapError_bind_congr rfl fun _ => ?_
    refine mapError_bind_congr (h.checkExpr scope test) fun _ => ?_
    exact mapError_bind_congr (checkBlock h scope defined body) fun _ => checkBlock h scope _ orelse
  | .whileLoop line test body orelse => by
    rw [Rulebook.checkStmt, Rulebook.checkStmt, h.features]
    refine mapError_bind_congr rfl fun _ => ?_
    cases orelse with
    | cons s rest => rfl
    | nil => exact mapError_bind_congr (h.checkExpr scope test) fun _ => checkBlock h _ _ body
  | .forLoop line target iterable body orelse => by
    rw [Rulebook.checkStmt, Rulebook.checkStmt]
    exact mapError_bind_congr (h.checkHeader scope target iterable orelse line) fun _ =>
      checkBlock h _ _ body

theorem checkBlock (h : a.Matches g b) (scope : Scope) (defined : List String) : (ss : List Stmt) →
    (checkStmt.checkBlock a scope ss defined).mapError g =
      (checkStmt.checkBlock b scope ss defined).mapError g
  | [] => rfl
  | s :: rest => mapError_bind_congr (checkStmt h scope defined s) fun _ => checkBlock h scope _ rest

end

theorem check (h : a.Matches g b) (tree : Tree) :
    (a.check tree).mapError g = (b.check tree).mapError g :=
  mapError_bind_congr (h.checkBlock {} [] tree) fun _ => rfl

end Rulebook.Matches

/-- Restrictions whose rulebooks match lead to reviews that are alike. -/
theorem review_matches {r r' : Restrictions}
    (h : ∀ functions, Rulebook.Matches g ⟨r, functions⟩ ⟨r', functions⟩) (text : String) :
    (review r text).mapError (Rejection.onViolation g) =
      (review r' text).mapError (Rejection.onViolation g) := by
  cases ht : Tree.ofText text with
  | error e =>
    unfold review
    rw [ht]
    cases e <;> rfl
  | ok tree =>
    -- the text is read and measured without restrictions, so only the check can differ
    have hcheck := (h (blockFunctionNames tree)).check tree.clip
    rw [review_of_tree ht, review_of_tree ht]
    split
    · rfl
    · cases hr : Rulebook.check ⟨r, blockFunctionNames tree⟩ tree.clip with
      | error v =>
        cases hr' : Rulebook.check ⟨r', blockFunctionNames tree⟩ tree.clip with
        | error v' =>
          rw [hr, hr'] at hcheck
          exact congrArg (fun v => Except.error (Rejection.violation v)) (Except.error.inj hcheck)
        | ok u =>
          rw [hr, hr'] at hcheck
          cases hcheck
      | ok u =>
        cases hr' : Rulebook.check ⟨r', blockFunctionNames tree⟩ tree.clip with
        | error v' =>
          rw [hr, hr'] at hcheck
          cases hcheck
        | ok u' => rfl

end Matching

/-- Restrictions that list the same commands and permit the same features lead to the same review. -/
theorem review_congr {r r' : Restrictions} (hc : r.commandNames = r'.commandNames)
    (hf : ∀ f, r.permits f = r'.permits f) (text : String) : review r text = review r' text := by
  have hmatches (functions : List String) :
      Rulebook.Matches id ⟨r, functions⟩ ⟨r', functions⟩ := by
    refine ⟨fun _ => rfl, fun p => ?_, hf, fun name line => ?_⟩
    · rw [hc]
    · rw [Rulebook.callable, Rulebook.callable, hc]
  have hid : Rejection.onViolation id = id := by
    funext f
    cases f <;> rfl
  have hreview := review_matches hmatches text
  rw [hid, mapError_id, mapError_id] at hreview
  exact hreview

/-- Restrictions are filters. Under them a text is accepted exactly if it is accepted without any, all
commands that are called anywhere in it may be used, and so may the features of all functions,
branches and loops that occur in it. So longer lists accept no less; names that are no commands change
nothing but the hint that a bare name could be called; and no list is the same as one of everything. -/
theorem restrictions_only_filter :
    (∀ (r : Restrictions) (text : String) (tree : Tree),
      review r text = .ok tree ↔
        review {} text = .ok tree ∧
          (∀ (p : Primitive) (line : Nat), (p.name, line) ∈ blockCalls tree →
            p.name ∈ r.commandNames) ∧
          ∀ f ∈ blockFeatures tree, r.permits f = true) ∧
    (∀ (commands commands' : List String) (features : Option (List String)) (text : String)
      (tree : Tree), commands ⊆ commands' → review ⟨some commands, features⟩ text = .ok tree →
        review ⟨some commands', features⟩ text = .ok tree) ∧
    (∀ (commands : Option (List String)) (features features' : List String) (text : String)
      (tree : Tree), features ⊆ features' → review ⟨commands, some features⟩ text = .ok tree →
        review ⟨commands, some features'⟩ text = .ok tree) ∧
    (∀ (commands commands' : List String) (features : Option (List String)) (text : String),
      (∀ p : Primitive, p.name ∈ commands ↔ p.name ∈ commands') →
        (review ⟨some commands, features⟩ text).mapError (Rejection.onViolation Violation.unhinted) =
          (review ⟨some commands', features⟩ text).mapError (Rejection.onViolation Violation.unhinted)) ∧
    (∀ (features : Option (List String)) (text : String),
      review ⟨none, features⟩ text = review ⟨some Primitive.names, features⟩ text) ∧
    ∀ (commands : Option (List String)) (text : String),
      review ⟨commands, none⟩ text = review ⟨commands, some (Feature.all.map Feature.name)⟩ text := by
  refine ⟨?_, ?_, ?_, ?_, ?_, ?_⟩
  · intro r text tree
    constructor
    · intro h
      have hcovers := covers_of_review h
      exact ⟨review_under h (.unrestricted _ _), hcovers.commands, hcovers.features⟩
    · rintro ⟨h, hcommands, hfeatures⟩
      exact review_under h ⟨hcommands, hfeatures⟩
  -- longer lists cover what shorter ones do
  · intro commands commands' features text tree hsub h
    have hcovers := covers_of_review h
    exact review_under h ⟨fun p line hp => hsub (hcovers.commands p line hp), hcovers.features⟩
  · intro commands features features' text tree hsub h
    have hcovers := covers_of_review h
    refine review_under h ⟨hcovers.commands, fun f hf => ?_⟩
    have hlisted : f.name ∈ features := List.contains_iff_mem.mp (hcovers.features f hf)
    exact List.contains_iff_mem.mpr (hsub hlisted)
  · intro commands commands' features text hsame
    -- names of no command can only occur in what an objection suggests
    have hcontains (p : Primitive) : commands.contains p.name = commands'.contains p.name := by
      rw [Bool.eq_iff_iff, List.contains_iff_mem, List.contains_iff_mem]
      exact hsame p
    have hmatches (functions : List String) : Rulebook.Matches Violation.unhinted
        ⟨⟨some commands, features⟩, functions⟩ ⟨⟨some commands', features⟩, functions⟩ :=
      ⟨fun _ => rfl, hcontains, fun _ => rfl, fun _ _ => rfl⟩
    exact review_matches hmatches text
  · intro features text
    have hcommands : (⟨none, features⟩ : Restrictions).commandNames =
        (⟨some Primitive.names, features⟩ : Restrictions).commandNames := rfl
    exact review_congr hcommands (fun f => rfl) text
  · intro commands text
    have hfeatures (f : Feature) : (⟨commands, none⟩ : Restrictions).permits f =
        (⟨commands, some (Feature.all.map Feature.name)⟩ : Restrictions).permits f := by
      cases f <;> rfl
    have hcommands : (⟨commands, none⟩ : Restrictions).commandNames =
        (⟨commands, some (Feature.all.map Feature.name)⟩ : Restrictions).commandNames := rfl
    exact review_congr hcommands hfeatures text

/-- A program with one function that takes a step: longer lists accept it as well, and without the
feature of the function it is rejected. -/
theorem restrictions_only_filter_one_function :
    let text := "def ahead():\n    move()\nahead()"
    (∃ tree, review ⟨some ["move", "jump"], some ["functions", "if"]⟩ text = .ok tree) ∧
      ∀ tree, review ⟨some ["move"], some ["if"]⟩ text ≠ .ok tree := by
  intro text
  obtain ⟨tree, hsmall⟩ : ∃ tree, review ⟨some ["move"], some ["functions"]⟩ text = .ok tree :=
    exists_eq_ok_of_isOk (by decide +kernel)
  have hcommands : review ⟨some ["move", "jump"], some ["functions"]⟩ text = .ok tree :=
    restrictions_only_filter.2.1 ["move"] ["move", "jump"] _ text tree (by decide) hsmall
  refine ⟨⟨tree, ?_⟩, ?_⟩
  · exact restrictions_only_filter.2.2.1 _ ["functions"] ["functions", "if"] text tree (by decide)
      hcommands
  · intro tree' h
    have hrejected : (review ⟨some ["move"], some ["if"]⟩ text).isOk = false := by decide +kernel
    rw [h] at hrejected
    cases hrejected

end KarelLab.Program
