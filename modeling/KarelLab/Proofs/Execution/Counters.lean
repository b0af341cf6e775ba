import KarelLab.Proofs.Execution.Numbers

namespace KarelLab.Execution

open Program

variable {m after : Machine} {ctx : Context} {name : String} {place : Option Nat} {counted : Bool}

/-! ## Points -/

/-- A part of a program reads a name for itself only where it is counted. What is called is no such
reading. -/
def Task.ReadsCounted (name : String) (counted : Bool) : Task → Prop
  | .block ss => blockReadsCounted name counted ss = true
  | .stmt s => s.readsCounted name counted = true
  | .whileLoop _ test body _ =>
    test.readsCounted name counted = true ∧ blockReadsCounted name counted body = true
  | .forLoop _ counter body _ _ _ => blockReadsCounted name (counted || counter == name) body = true
  | .expr (.name _ _) => True
  | .expr e => e.readsCounted name counted = true
  | .junction _ es | .args es => exprsReadCounted name counted es = true

def Task.boundNames : Task → List String
  | .block ss | .whileLoop _ _ ss _ => blockBoundNames ss
  | .stmt s => s.boundNames
  | .forLoop _ counter body _ _ _ => counter :: blockBoundNames body
  | .expr _ | .junction _ _ | .args _ => []

/-- The name that a part of a program reads for itself before anything else, with its line: the first
operand of a connective or the first of some arguments. -/
def Task.bareName? : Task → Option (Nat × String)
  | .args (.name line id :: _) | .junction _ (.name line id :: _) | .expr (.not _ (.name line id)) =>
    some (line, id)
  | _ => none

structure Point.Counts (name : String) (p : Point) : Prop where
  sound : Sound name p.machine
  inside : ∃ counted, Inside name p.ctx counted p.machine ∧ p.task.ReadsCounted name counted
  binds : name ∈ p.task.boundNames → p.ctx.Binds name

theorem Task.readsCounted_expr {e : Expr} (h : e.readsCounted name counted = true) :
    (Task.expr e).ReadsCounted name counted := by
  cases e with
  | name _ _ => trivial
  | literal _ _ | call _ _ _ _ | junction _ _ _ | not _ _ | other _ _ _ => exact h

/-- Within one call, a point where the name is read where it is counted leads to such points. -/
theorem Leads.counts {depth : Nat} {call : Invoke} {t t' : Task}
    (h : Leads ctx call t m t' after) (hcall : CallsKeep name call)
    (hp : Point.Counts name ⟨depth, ctx, t, m⟩) : Point.Counts name ⟨depth, ctx, t', after⟩ := by
  obtain ⟨hm, ⟨counted, hin, ht⟩, hown⟩ := hp
  dsimp only at hm hin ht hown
  -- but for the body of a loop, a part is counted where the one is that it belongs to
  have hsame (hk : Keeps name m after) (ht' : t'.ReadsCounted name counted)
      (hb : name ∈ t'.boundNames → name ∈ t.boundNames) :
      Point.Counts name ⟨depth, ctx, t', after⟩ :=
    ⟨hk.sound, ⟨counted, hin.grows hk.toGrows, ht'⟩, fun hn => hown (hb hn)⟩
  have hpass {line : Nat} {begun : Machine} (hbegun : Run.pass ctx line m = .ok () begun) :
      Keeps name m begun := Carries.pass line hm hin hbegun
  have hexpr {e : Expr} {begun tested : Machine} {v : Value} (hk : Keeps name m begun)
      (he : e.readsCounted name counted = true) (hv : evalExpr ctx call e begun = .ok v tested) :
      Keeps name m tested :=
    hk.trans (hcall.expr e he hk.sound (hin.grows hk.toGrows) hv)
  cases h with
  | head =>
    obtain ⟨hs, -⟩ := Bool.and_eq_true_iff.mp ht
    exact hsame hm.refl hs (List.mem_append_left _)
  | tail hs =>
    obtain ⟨hhead, htail⟩ := Bool.and_eq_true_iff.mp ht
    have hk := hcall.stmt _ hhead (fun hn => hown (List.mem_append_left _ hn)) hm hin hs
    exact hsame hk htail (List.mem_append_right _)
  | value hbegun | result hbegun =>
    exact hsame (hpass hbegun) (Task.readsCounted_expr ht) nofun
  | test hbegun =>
    obtain ⟨ht, -⟩ := Bool.and_eq_true_iff.mp ht
    obtain ⟨htest, -⟩ := Bool.and_eq_true_iff.mp ht
    exact hsame (hpass hbegun) (Task.readsCounted_expr htest) nofun
  | @branch line test body orelse _ _ _ v hbegun hv =>
    obtain ⟨ht, helse⟩ := Bool.and_eq_true_iff.mp ht
    obtain ⟨htest, hbody⟩ := Bool.and_eq_true_iff.mp ht
    refine hsame (hexpr (hpass hbegun) htest hv) ?_ ?_
    · cases v.truthy with
      | true => exact hbody
      | false => exact helse
    · cases v.truthy with
      | true => exact List.mem_append_left _
      | false => exact List.mem_append_right _
  | whileLoop =>
    obtain ⟨ht, -⟩ := Bool.and_eq_true_iff.mp ht
    exact hsame hm.refl (Bool.and_eq_true_iff.mp ht) (List.mem_append_left _)
  | whileElse hr =>
    obtain ⟨ht, helse⟩ := Bool.and_eq_true_iff.mp ht
    obtain ⟨htest, hbody⟩ := Bool.and_eq_true_iff.mp ht
    have hblock := hcall.block _ hbody fun hn => hown (List.mem_append_left _ hn)
    have hk := Carries.repeatWhile (.pass _) (hcall.expr _ htest) hblock _ hm hin hr
    exact hsame hk helse (List.mem_append_right _)
  | @iterable line target iterable body orelse _ _ hbegun =>
    have hiter : iterable.readsCounted name counted = true := by
      cases target with
      | name _ _ => exact (Bool.and_eq_true_iff.mp (Bool.and_eq_true_iff.mp ht).1).1
      | literal _ _ | call _ _ _ _ | junction _ _ _ | not _ _ | other _ _ _ => exact ht
    exact hsame (hpass hbegun) (Task.readsCounted_expr hiter) nofun
  | forLoop hbegun hv =>
    obtain ⟨ht, -⟩ := Bool.and_eq_true_iff.mp ht
    obtain ⟨hiter, hbody⟩ := Bool.and_eq_true_iff.mp ht
    refine hsame (hexpr (hpass hbegun) hiter hv) hbody fun hn => ?_
    rcases List.mem_cons.mp hn with rfl | hn
    · exact List.mem_cons_self
    · exact List.mem_cons_of_mem _ (List.mem_append_left _ hn)
  | forElse hbegun hv hr =>
    obtain ⟨ht, helse⟩ := Bool.and_eq_true_iff.mp ht
    obtain ⟨hiter, hbody⟩ := Bool.and_eq_true_iff.mp ht
    have hblock := hcall.block _ hbody
      fun hn => hown (List.mem_cons_of_mem _ (List.mem_append_left _ hn))
    have hround := Carries.round (fun hid => hown (hid ▸ List.mem_cons_self)) hblock
    have hranged := hexpr (hpass hbegun) hiter hv
    have hk := Carries.repeatFor (.pass _) hround _ _ _ hranged.sound (hin.grows hranged.toGrows) hr
    refine hsame (hranged.trans hk) helse fun hn => ?_
    exact List.mem_cons_of_mem _ (List.mem_append_right _ hn)
  | whileTest hbegun => exact hsame (hpass hbegun) (Task.readsCounted_expr ht.1) nofun
  | whileBody hbegun hv _ => exact hsame (hexpr (hpass hbegun) ht.1 hv) ht.2 id
  | whileAgain hbegun hv _ hb _ =>
    have htested := hexpr (hpass hbegun) ht.1 hv
    have hk := hcall.block _ ht.2 hown htested.sound (hin.grows htested.toGrows) hb
    exact hsame (htested.trans hk) ht id
  | forBody hbegun hi =>
    have hk := hpass hbegun
    have hinside := hin.grows hk.toGrows
    have hbound := Carries.count _ _ hk.sound hinside hi
    have hbody := inside_of_count hinside (fun hid => hown (hid ▸ List.mem_cons_self)) hbound hi
    exact ⟨hbound.sound, ⟨_, hbody, ht⟩, fun hn => hown (List.mem_cons_of_mem _ hn)⟩
  | forAgain hbegun hi hb _ =>
    have hk := hpass hbegun
    have hinside := hin.grows hk.toGrows
    have hbound := Carries.count _ _ hk.sound hinside hi
    have hbody := inside_of_count hinside (fun hid => hown (hid ▸ List.mem_cons_self)) hbound hi
    have hblock := hcall.block _ ht (fun hn => hown (List.mem_cons_of_mem _ hn)) hbound.sound hbody hb
    exact hsame ((hk.trans hbound).trans hblock) ht id
  | not => exact hsame hm.refl (Task.readsCounted_expr ht) nofun
  | junction => exact hsame hm.refl ht nofun
  | operand | arg =>
    exact hsame hm.refl (Task.readsCounted_expr (Bool.and_eq_true_iff.mp ht).1) nofun
  | operands hv _ | nextArgs hv =>
    obtain ⟨hhead, htail⟩ := Bool.and_eq_true_iff.mp ht
    exact hsame (hexpr hm.refl hhead hv) htail nofun
  | @callee line f args keywords _ =>
    cases f with
    | name place id => exact hsame hm.refl trivial nofun
    | literal _ _ | call _ _ _ _ | junction _ _ _ | not _ _ | other _ _ _ => cases ht
  | @args line f args keywords _ _ v hf =>
    cases f with
    | name place id =>
      obtain ⟨rfl, -⟩ := callee_eq_ok hm hf
      exact hsame hm.refl ht nofun
    | literal _ _ | call _ _ _ _ | junction _ _ _ | not _ _ | other _ _ _ => cases ht

variable {limit : Binary64} {p q : Point}

/-- A step of an execution goes from points where the name is read where it is counted to such points. -/
theorem Step.counts (h : Step limit p q) (hp : p.Counts name) : q.Counts name := by
  cases h with
  | within hl => exact hl.counts (callsKeep_invoke name limit p.depth) hp
  | @call depth line place ctx f function args m found given opened hf ha hopen =>
    obtain ⟨counted, hin, htask⟩ := hp.inside
    cases f with
    | name l id =>
      obtain ⟨rfl, hfits⟩ := callee_eq_ok hp.sound hf
      have hgiven := (callsKeep_invoke name limit (depth + 1)).args args htask hp.sound hin ha
      have hfunction := (hfits function rfl).grows hgiven.toGrows
      obtain ⟨-, hopened, counted', hbody, hinside⟩ :=
        hfunction.enter hgiven.sound hopen function.library (function.name ++ ".<locals>.") limit
      refine ⟨hopened.sound, ⟨counted', hinside, hbody⟩, ?_⟩
      rintro hn own ho
      cases ho
      exact hn
    | literal _ _ | call _ _ _ _ | junction _ _ _ | not _ _ | other _ _ _ => cases htask

/-- All points to which the execution of a program comes that reads a name for itself only where it is
counted are such points. -/
theorem Visits.counts {tree : Tree} (h : Visits limit tree m p) (hm : Sound name m)
    (htree : blockReadsCounted name false tree = true) : p.Counts name := by
  obtain ⟨library, -, hsteps⟩ := h
  -- on the steps of the execution; outside of functions no call is open and nothing is counted
  induction hsteps with
  | refl => exact ⟨hm, ⟨false, ⟨nofun, nofun, nofun⟩, htree⟩, fun _ => nofun⟩
  | tail _ hstep ih => exact hstep.counts ih

/-! ## Reading -/

/-- Only a loop of the program keeps a number for a name. -/
theorem Tame.mem_counters_of_holds {o : Outline} {fixed : List String} (hm : Tame o fixed m)
    (h : m.Holds place name) : name ∈ o.counters := by
  obtain ⟨i, hi⟩ := h
  cases place with
  | none => exact hm.meaning_of_find? hi
  | some k =>
    have hkept : Run.localValue? m ⟨k, []⟩ name = some (.int i) := hi
    exact hm.meaning_of_localValue? hkept

/-- Before a program begins no function is kept. -/
theorem sound_of_start {log : Log} {allowed : Option (List String)} {limit : TimeLimit}
    {session : Session} (h : Session.start log allowed limit = .ok session)
    (hlog : log.ticks = #[]) (time : Nat) (name : String) :
    Sound name ⟨session.log, session.globals, #[], time⟩ := by
  intro place n f hf
  cases place with
  | none =>
    -- a program without functions leaves no name that could mean one
    have htame := tame_of_start (o := ⟨[], [], []⟩) h hlog time
    exact nomatch (htame.meaning_of_find? hf).1
  | some k => exact nomatch lt_size_of_value? hf

theorem Task.counted_of_bareName? {t : Task} {line : Nat} (ht : t.ReadsCounted name counted)
    (hb : t.bareName? = some (line, name)) : counted = true := by
  unfold bareName? at hb
  split at hb
  · cases hb
    simpa [ReadsCounted, exprsReadCounted, Expr.readsCounted] using (Bool.and_eq_true_iff.mp ht).1
  · cases hb
    simpa [ReadsCounted, exprsReadCounted, Expr.readsCounted] using (Bool.and_eq_true_iff.mp ht).1
  · cases hb
    simpa [ReadsCounted, Expr.readsCounted] using ht
  · cases hb

/-- Whenever the execution of an accepted program reads a name for itself that the program reads only
where it is counted, the name is the variable of a loop and is bound to a number. Every name is such a
name that no function of the program has or binds. -/
theorem counters_read_as_numbers {restrictions : Restrictions} {text : String} {tree : Tree}
    (hreview : review restrictions text = .ok tree) {w : World} {budget : Int} {limit : TimeLimit}
    {s : Session} (hs : Session.start (.start w budget) restrictions.commands limit = .ok s)
    (name : String) :
    (blockReadsCounted name false tree = true →
      ∀ (seconds : Binary64) (time : Nat) (p : Point) (line : Nat),
        Visits seconds tree ⟨s.log, s.globals, #[], time⟩ p → p.task.bareName? = some (line, name) →
          name ∈ blockLoopVariables tree ∧
            ∃ i, evalExpr p.ctx (invoke seconds p.depth) (.name line name) p.machine =
              .ok (.int i) p.machine) ∧
    (name ∉ blockFunctionNames tree → name ∉ blockInnerBoundNames tree →
      blockReadsCounted name false tree = true) := by
  obtain ⟨-, -, -, hlanguage, hstructure⟩ := review_eq_ok_iff.mp hreview
  refine ⟨?_, hlanguage.readsCounted⟩
  intro hreads seconds time p line hp hbare
  -- where a counted name is read, its place holds a number, and only counters are given numbers
  obtain ⟨counted, hin, htask⟩ := (hp.counts (sound_of_start hs rfl time name) hreads).inside
  have hholds := hin.holds (Task.counted_of_bareName? htask hbare)
  have hfollows := hp.follows hlanguage.follows (tame_of_start hs rfl time)
  have hloop : name ∈ blockLoopVariables tree := hfollows.tame.mem_counters_of_holds hholds
  have hne : name ≠ unbindableName :=
    fun he => hlanguage.unbindableName_notMem hstructure (he ▸ hloop)
  refine ⟨hloop, ?_⟩
  rw [evalExpr, if_neg hne]
  exact exists_read_eq_ok hholds line

def nestedLoops : Tree :=
  [.forLoop 1 (.name 1 "i") (.call 1 (.name 1 "range") [.literal 1 (.int 2)] [])
    [.forLoop 2 (.name 2 "j") (.call 2 (.name 2 "range") [.name 2 "i"] [])
      [.expr 2 (.call 2 (.name 2 "move") [] [])] []] []]

def isNestedLoops : Except Rejection Tree → Bool
  | .ok [.forLoop 1 (.name 1 i) (.call 1 (.name 1 range) [.literal 1 (.int 2)] [])
      [.forLoop 2 (.name 2 j) (.call 2 (.name 2 range') [.name 2 i'] [])
        [.expr 2 (.call 2 (.name 2 move) [] [])] []] []] =>
    [i, range, j, range', i', move] = ["i", "range", "j", "range", "i", "move"]
  | _ => false

theorem eq_of_isNestedLoops {x : Except Rejection Tree} (h : isNestedLoops x = true) :
    x = .ok nestedLoops := by
  unfold isNestedLoops at h
  split at h
  · obtain ⟨rfl, rfl, rfl, rfl, rfl, rfl, -⟩ := by simpa using of_decide_eq_true h
    rfl
  · cases h

/-- The bound of the inner loop is reached, and there the outer loop has bound its variable. -/
theorem counters_read_as_numbers_nestedLoops :
    ∃ s p, review {} "for i in range(2):\n    for j in range(i): move()" = .ok nestedLoops ∧
      Session.start (.start .default 10) none (.ofInt 10) = .ok s ∧
      Visits (.finite false 1 0) nestedLoops ⟨s.log, s.globals, #[], 10⟩ p ∧
      p.task.bareName? = some (2, "i") ∧ "i" ∈ blockLoopVariables nestedLoops ∧
      ∃ i, evalExpr p.ctx (invoke (.finite false 1 0) p.depth) (.name 2 "i") p.machine =
        .ok (.int i) p.machine := by
  have htree : review {} "for i in range(2):\n    for j in range(i): move()" = .ok nestedLoops :=
    eq_of_isNestedLoops (by decide +kernel)
  have hok : (Session.start (.start .default 10) none (.ofInt 10)).isOk = true := by
    decide +kernel
  obtain ⟨s, hs⟩ := exists_eq_ok_of_isOk hok
  obtain ⟨-, -, -, hlanguage, -⟩ := review_eq_ok_iff.mp htree
  have hbinds {n : String} (hn : n ∉ ["i", "j"]) : ¬ nestedLoops.outline.Binds n :=
    fun h => h.elim hn nofun
  have hrange {p : Point} (hp : Visits (.finite false 1 0) nestedLoops ⟨s.log, s.globals, #[], 10⟩ p)
      (line : Nat) : Run.read p.ctx countingName line p.machine = .ok .counting p.machine :=
    hp.read_counting hlanguage hs (hbinds (by decide)) (hbinds (by decide)) line
  obtain ⟨library, hl⟩ := exists_currentLibrary ⟨s.log, s.globals, #[], 10⟩
  have hstart : Relation.ReflTransGen (Step (.finite false 1 0))
    ⟨maxCalls, ⟨[], library, "", .finite false 1 0⟩, .block nestedLoops,
      ⟨s.log, s.globals, #[], 10⟩⟩ _ := .refl
  have houter := hstart.tail (.within .head)
  have hranged := evalExpr_range (hrange ⟨library, hl, houter.tail (.within (.iterable rfl))⟩ 1)
    (invoke (.finite false 1 0) maxCalls) 1 1 2
  have hbody := (houter.tail (.within (.forLoop rfl hranged))).tail (.within (.forBody rfl rfl))
  have hinner := (hbody.tail (.within .head)).tail (.within (.iterable rfl))
  have hp := hinner.tail (.within (.args (evalExpr_name (by decide) (hrange ⟨library, hl, hinner⟩ 2))))
  exact ⟨s, _, htree, hs, ⟨library, hl, hp⟩, rfl,
    (counters_read_as_numbers htree hs "i").1 (by decide) _ _ _ _ ⟨library, hl, hp⟩ rfl⟩

/-- A function may have the name of the variable of a loop around it. A program in which it takes the
place of the number is accepted, and has no bound for its range. -/
theorem hidden_counter_not_whole :
    (review {} "for i in range(2):\n    def i(): pass\n    for j in range(i): move()").isOk = true ∧
      (record "for i in range(2):\n    def i(): pass\n    for j in range(i): move()"
        ⟨.default, none, 10, .ofInt 10⟩).toOption =
          some ⟨#[], some (Fault.error (.notWhole "function") 3).report⟩ := by
  decide +kernel

end KarelLab.Execution
