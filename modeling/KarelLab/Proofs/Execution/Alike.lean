import KarelLab.Proofs.Isolation.Record
import KarelLab.Proofs.World.Alike
import Mathlib.Data.List.Forall2

/-!
# Recordings that differ in the order of walls and piles

A program learns of its world by answers only. In worlds that are alike it gets the same answers, so
it gives the same commands, and each of them leaves worlds that are alike. What is recorded differs
in nothing but the order in which the worlds of the ticks list their walls and piles.
-/

namespace KarelLab

inductive TickOutcome.Alike : TickOutcome → TickOutcome → Prop
  | acted {v w : World} (h : v.Alike w) : Alike (.acted v) (.acted w)
  | sensed (value : Bool) : Alike (.sensed value) (.sensed value)
  | failed (r : Report) : Alike (.failed r) (.failed r)

structure Tick.Alike (s t : Tick) : Prop where
  index : s.index = t.index
  primitive : s.primitive = t.primitive
  line : s.line = t.line
  outcome : s.outcome.Alike t.outcome

structure Recording.Alike (r s : Recording) : Prop where
  ticks : List.Forall₂ Tick.Alike r.ticks.toList s.ticks.toList
  error : r.error = s.error

structure Log.Alike (l m : Log) : Prop where
  world : l.world.Alike m.world
  budget : l.budget = m.budget
  ticks : List.Forall₂ Tick.Alike l.ticks.toList m.ticks.toList

theorem Tick.Alike.report?_eq {s t : Tick} (h : s.Alike t) : s.report? = t.report? := by
  obtain ⟨index, p, line, o⟩ := s
  obtain ⟨index', p', line', o'⟩ := t
  have ho : o.Alike o' := h.outcome
  cases ho <;> rfl

/-- The reports of ticks that are alike are the same, tick by tick. -/
theorem reports_eq {ts us : List Tick} (h : List.Forall₂ Tick.Alike ts us) :
    ts.map Tick.report? = us.map Tick.report? := by
  rw [← List.forall₂_eq_eq_eq, List.forall₂_map_left_iff, List.forall₂_map_right_iff]
  exact h.imp fun _ _ ht => ht.report?_eq

namespace Recording.Alike

variable {r s : Recording}

theorem of_no_ticks (e : Option Report) : (⟨#[], e⟩ : Recording).Alike ⟨#[], e⟩ := ⟨.nil, rfl⟩

theorem size_eq (h : r.Alike s) : r.ticks.size = s.ticks.size := h.ticks.length_eq

/-- Recordings that are alike end with the same report, or both without one. -/
theorem report?_eq (h : r.Alike s) : r.report? = s.report? := by
  have hfirst (ts : List Tick) : ts.findSome? Tick.report? = (ts.map Tick.report?).findSome? id := by
    rw [List.findSome?_map]
    rfl
  rw [Recording.report?, Recording.report?, hfirst, hfirst, reports_eq h.ticks, h.error]

theorem failed_eq (h : r.Alike s) : r.failed = s.failed := by
  rw [failed_eq_report?, failed_eq_report?, h.report?_eq]

theorem lastLine_eq (h : r.Alike s) :
    r.ticks.toList.getLast?.bind Tick.line = s.ticks.toList.getLast?.bind Tick.line := by
  have hlines : r.ticks.toList.map Tick.line = s.ticks.toList.map Tick.line := by
    rw [← List.forall₂_eq_eq_eq, List.forall₂_map_left_iff, List.forall₂_map_right_iff]
    exact h.ticks.imp fun _ _ ht => ht.line
  have hlast (ts : List Tick) : ts.getLast?.bind Tick.line = (ts.map Tick.line).getLast?.join := by
    rw [List.getLast?_map]
    cases ts.getLast? <;> rfl
  rw [hlast, hlast, hlines]

end Recording.Alike

theorem World.shown_cons (w : World) (t : Tick) (ts : List Tick) :
    w.shown (t :: ts) = (t.world?.getD w).shown ts := by
  rw [shown, shown]
  cases ht : t.world? with
  | none => rw [List.filterMap_cons_none ht, Option.getD_none]
  | some after =>
    rw [List.filterMap_cons_some ht, List.getLast?_cons, Option.getD_some, Option.getD_some]

/-- The last worlds that are shown are alike. -/
theorem World.Alike.shown {v w : World} (h : v.Alike w) {ts us : List Tick}
    (hts : List.Forall₂ Tick.Alike ts us) : (v.shown ts).Alike (w.shown us) := by
  induction hts generalizing v w with
  | nil => exact h
  | @cons s t ts us ht _ ih =>
    have hnext : (s.world?.getD v).Alike (t.world?.getD w) := by
      obtain ⟨index, p, line, o⟩ := s
      obtain ⟨index', p', line', o'⟩ := t
      have ho : o.Alike o' := ht.outcome
      cases ho with
      | acted ha => exact ha
      | sensed value => exact h
      | failed r => exact h
    rw [World.shown_cons, World.shown_cons]
    exact ih hnext

namespace Log.Alike

variable {l m : Log}

theorem start {v w : World} (h : v.Alike w) (budget : Int) :
    (Log.start v budget).Alike (Log.start w budget) := ⟨h, rfl, .nil⟩

theorem size_eq (h : l.Alike m) : l.ticks.size = m.ticks.size := h.ticks.length_eq

theorem record (h : l.Alike m) {v w : World} (hw : v.Alike w) {o o' : TickOutcome}
    (ho : o.Alike o') (p : Primitive) (line : Option Nat) :
    ({ l with world := v }.record p line o).Alike ({ m with world := w }.record p line o') := by
  have ht : Tick.Alike ⟨l.ticks.size, p, line, o⟩ ⟨m.ticks.size, p, line, o'⟩ :=
    ⟨h.size_eq, rfl, rfl, ho⟩
  refine ⟨hw, h.budget, ?_⟩
  rw [ticks_record, ticks_record]
  exact List.rel_append h.ticks (.cons ht .nil)

/-- A command has the same answer or the same fault on both logs, and leaves logs that are alike. -/
theorem command (h : l.Alike m) (p : Primitive) (line : Option Nat) :
    (l.command p line).1 = (m.command p line).1 ∧
      (l.command p line).2.Alike (m.command p line).2 := by
  have hspent : l.budget ≤ l.ticks.size ↔ m.budget ≤ m.ticks.size := by
    rw [h.budget, h.size_eq]
  unfold Log.command
  by_cases hb : m.budget ≤ m.ticks.size
  · rw [if_pos (hspent.mpr hb), if_pos hb, h.budget]
    exact ⟨rfl, h⟩
  · rw [if_neg (mt hspent.mp hb), if_neg hb]
    cases p with
    | sensor s =>
      have hs : l.world.sense s = m.world.sense s := h.world.sense_eq s
      dsimp only
      rw [hs]
      exact ⟨rfl, h.record h.world (.sensed _) _ line⟩
    | action a =>
      have ha : Agrees World.Alike (l.world.act a) (m.world.act a) := h.world.act a
      dsimp only
      generalize l.world.act a = x at ha ⊢
      generalize m.world.act a = y at ha ⊢
      cases ha with
      | ok hw => exact ⟨rfl, h.record hw (.acted hw) _ line⟩
      | error f => exact ⟨rfl, h.record h.world (.failed _) _ line⟩

end Log.Alike

namespace Execution

/-- A dialogue ends in the same way with logs that are alike, and leaves logs that are alike. -/
theorem Dialogue.finish_alike {α : Type} (d : Dialogue α) {l m : Log} (h : l.Alike m) :
    (d.finish l).1 = (d.finish m).1 ∧ (d.finish l).2.Alike (d.finish m).2 := by
  -- on the dialogue: the answers are the same, so it goes on in the same way after each of them
  induction d generalizing l m with
  | done a machine => exact ⟨rfl, h⟩
  | failed f own machine => exact ⟨rfl, h⟩
  | command p line machine next ih =>
    obtain ⟨hanswer, hlog⟩ := h.command p (some line)
    rw [finish_command, finish_command]
    generalize l.command p (some line) = x at hanswer hlog ⊢
    generalize m.command p (some line) = y at hanswer hlog ⊢
    obtain ⟨answer, l'⟩ := x
    obtain ⟨answer', m'⟩ := y
    cases hanswer
    cases answer with
    | ok a => exact ih a hlog
    | error f => exact ⟨rfl, hlog⟩

theorem recordingOf_alike (fault : Option Fault) {l m : Log} (h : l.Alike m) :
    (recordingOf fault l).Alike (recordingOf fault m) := by
  have hlast (log : Log) : log.ticks.back?.bind Tick.report? =
      (log.ticks.toList.map Tick.report?).getLast?.join := by
    rw [← Array.getLast?_toList, List.getLast?_map]
    cases log.ticks.toList.getLast? <;> rfl
  refine ⟨h.ticks, ?_⟩
  unfold recordingOf
  rw [hlast, hlast, reports_eq h.ticks]

/-- A session runs a text in the same way with logs that are alike. -/
theorem Session.execute_alike (s : Session) (text : String) {l m : Log} (h : l.Alike m) :
    ({ s with log := l }.execute text).1 = ({ s with log := m }.execute text).1 ∧
      ({ s with log := l }.execute text).2.log.Alike ({ s with log := m }.execute text).2.log := by
  obtain ⟨d, hd⟩ := s.execute_scripted text
  obtain ⟨hfault, hlog⟩ := d.finish_alike h
  rw [← hd l, ← hd m] at hfault hlog
  exact ⟨hfault, hlog⟩

/-- Whatever program is recorded in worlds that are alike, the recordings are alike. -/
theorem record_alike (text : String) {v w : World} (h : v.Alike w) (allowed : Option (List String))
    (maxSteps : Int) (limit : TimeLimit) :
    Agrees Recording.Alike (record text ⟨v, allowed, maxSteps, limit⟩)
      (record text ⟨w, allowed, maxSteps, limit⟩) := by
  unfold record
  rw [Session.start_eq, Session.start_eq]
  dsimp only
  cases Session.registerNames (allowed.getD Primitive.names)
      (Bindings.set libraryName .library []) with
  | error u => exact .error u
  | ok globals =>
    let session (log : Log) : Session := ⟨log, allowed.getD Primitive.names, globals, limit⟩
    have hlogs : (Log.start v maxSteps).Alike (.start w maxSteps) := .start h maxSteps
    obtain ⟨hfault, hlog⟩ := (session (.start v maxSteps)).execute_alike text hlogs
    have halike := recordingOf_alike ((session (.start v maxSteps)).execute text).1 hlog
    refine .ok ?_
    dsimp only
    rw [hfault] at halike ⊢
    exact halike

end Execution

namespace Isolation

open Execution

/-- What a worker hands out for worlds that are alike is alike. -/
theorem answer_alike (code : String) {v w : World} (h : v.Alike w)
    (restrictions : Program.Restrictions) (budgets : Except WorkerFault Budgets) :
    Agrees Recording.Alike (answer code v restrictions budgets)
      (answer code w restrictions budgets) := by
  unfold answer
  cases Program.review restrictions code with
  | error e => exact .ok (.of_no_ticks _)
  | ok tree =>
    cases budgets with
    | error f => exact .error f
    | ok b => exact (record_alike code h restrictions.commands b.maxSteps b.limit).mapError _

theorem viaDocuments_alike (code : String) {v w : World} (h : v.Alike w) (hv : v.WellFormed)
    (hw : w.WellFormed) (restrictions : Program.Restrictions) (budgets : Budgets) :
    (viaDocuments code v restrictions budgets).Alike
      (viaDocuments code w restrictions budgets) := by
  have ha := answer_alike code h restrictions (readBudgets budgets)
  rw [viaDocuments_eq code hv, viaDocuments_eq code hw]
  generalize answer code v restrictions (readBudgets budgets) = x at ha ⊢
  generalize answer code w restrictions (readBudgets budgets) = y at ha ⊢
  cases ha with
  | ok hr => exact hr
  | error f => exact .of_no_ticks _

/-- So are recordings by way of a worker, whether it is stopped or not. -/
theorem recordIsolated_alike (code : String) {v w : World} (h : v.Alike w) (hv : v.WellFormed)
    (hw : w.WellFormed) (restrictions : Program.Restrictions) (budgets : Budgets)
    (timeout : Binary64) :
    (recordIsolated code v restrictions budgets timeout).Alike
      (recordIsolated code w restrictions budgets timeout) := by
  have hr := viaDocuments_alike code h hv hw restrictions
    { budgets with limit := effectiveLimit budgets.limit timeout }
  unfold recordIsolated
  split
  · exact .of_no_ticks _
  · dsimp only
    rw [hr.error]
    split
    · exact .of_no_ticks _
    · exact hr

end Isolation

end KarelLab
