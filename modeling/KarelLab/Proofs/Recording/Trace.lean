import KarelLab.Recording.Log

/-!
# Traces

A list of ticks is a trace from a world when every tick shows what its command did in the world
that the ticks before it left. A log only ever holds a trace, and its world is the one to which the
trace leads.
-/

namespace KarelLab

namespace Tick

def effect (w : World) (t : Tick) : World :=
  match t.primitive, t.outcome with
  | .action a, .acted _ => (w.act a).toOption.getD w
  | _, _ => w

/-- A tick shows what its command does in a world: the world after an action, the fault of one that
is impossible, or the answer of a sensor. -/
def Faithful (w : World) (t : Tick) : Prop :=
  match t.primitive, t.outcome with
  | .action a, .acted after => w.act a = .ok after
  | .action a, .failed r => ∃ f, w.act a = .error f ∧ r = f.report t.line
  | .sensor s, .sensed b => b = w.sense s
  | _, _ => False

def action? (t : Tick) : Option Action :=
  match t.primitive, t.outcome with
  | .action a, .acted _ => some a
  | _, _ => none

def world? (t : Tick) : Option World :=
  match t.outcome with
  | .acted after => some after
  | _ => none

theorem effect_eq_self {t : Tick} (h : ∀ after, t.outcome ≠ .acted after) (w : World) :
    t.effect w = w := by
  obtain ⟨index, p, line, o⟩ := t
  cases o with
  | acted after => exact (h after rfl).elim
  | sensed b => cases p <;> rfl
  | failed r => cases p <;> rfl

theorem Faithful.effect_acted {w after : World} {t : Tick} (h : t.Faithful w)
    (ho : t.outcome = .acted after) : t.effect w = after := by
  obtain ⟨index, p, line, o⟩ := t
  subst ho
  cases p with
  | action a =>
    have ha : w.act a = .ok after := h
    simp [effect, ha, Except.toOption]
  | sensor s => exact h.elim

end Tick

def World.actAll (w : World) (actions : List Action) : Except ActionFault World :=
  actions.foldlM World.act w

def World.replay (w : World) (ts : List Tick) : World := ts.foldl Tick.effect w

def World.shown (w : World) (ts : List Tick) : World := (ts.filterMap Tick.world?).getLast?.getD w

def Traces : World → List Tick → Prop
  | _, [] => True
  | w, t :: ts => t.Faithful w ∧ Traces (t.effect w) ts

@[simp] theorem World.replay_nil (w : World) : w.replay [] = w := rfl

@[simp] theorem World.replay_append (w : World) (xs ys : List Tick) :
    w.replay (xs ++ ys) = (w.replay xs).replay ys := List.foldl_append

@[simp] theorem World.replay_singleton (w : World) (t : Tick) : w.replay [t] = t.effect w := rfl

theorem traces_append (w : World) (xs ys : List Tick) :
    Traces w (xs ++ ys) ↔ Traces w xs ∧ Traces (w.replay xs) ys := by
  induction xs generalizing w with
  | nil => simp [Traces]
  | cons t ts ih =>
    rw [List.cons_append, Traces, Traces, ih, and_assoc]
    rfl

/-- The tick at a place of a trace is faithful to the world that the ticks before it left. -/
theorem Traces.faithful_getElem {w : World} {ts : List Tick} (h : Traces w ts) {n : Nat} {t : Tick}
    (ht : ts[n]? = some t) : t.Faithful (w.replay (ts.take n)) := by
  obtain ⟨hn, rfl⟩ := List.getElem?_eq_some_iff.mp ht
  rw [← List.take_append_drop n ts, traces_append, List.drop_eq_getElem_cons hn] at h
  exact h.2.1

/-- All actions of a trace that show a success can be carried out again, and lead to the same
world. -/
theorem Traces.actAll {w : World} {ts : List Tick} (h : Traces w ts) :
    w.actAll (ts.filterMap Tick.action?) = .ok (w.replay ts) := by
  induction ts generalizing w with
  | nil => rfl
  | cons t ts ih =>
    obtain ⟨ht, hts⟩ := h
    have hrest := ih hts
    obtain ⟨index, p, line, o⟩ := t
    -- only an action that succeeded is carried out again, and nothing else has an effect
    cases p with
    | sensor s => exact hrest
    | action a =>
      cases o with
      | sensed b => exact hrest
      | failed r => exact hrest
      | acted after =>
        have ha : w.act a = .ok after := ht
        rw [ht.effect_acted rfl] at hrest
        have hreplay : w.replay (⟨index, .action a, line, .acted after⟩ :: ts) = after.replay ts :=
          congrArg (World.replay · ts) (ht.effect_acted rfl)
        have haction : Tick.action? ⟨index, .action a, line, .acted after⟩ = some a := rfl
        rw [hreplay, ← hrest, World.actAll, List.filterMap_cons_some haction, List.foldlM_cons, ha]
        rfl

/-- The world to which a trace leads is the last one that it shows. -/
theorem Traces.replay_eq_shown {w : World} {ts : List Tick} (h : Traces w ts) :
    w.replay ts = w.shown ts := by
  induction ts generalizing w with
  | nil => rfl
  | cons t ts ih =>
    have hrest : w.replay (t :: ts) = (t.effect w).shown ts := ih h.2
    rw [hrest, World.shown, World.shown]
    cases ho : t.outcome with
    | acted after =>
      have hw : t.world? = some after := by rw [Tick.world?, ho]
      rw [List.filterMap_cons_some hw, List.getLast?_cons, h.1.effect_acted ho]
      rfl
    | sensed b =>
      have hw : t.world? = none := by rw [Tick.world?, ho]
      rw [List.filterMap_cons_none hw, Tick.effect_eq_self (by simp [ho])]
    | failed r =>
      have hw : t.world? = none := by rw [Tick.world?, ho]
      rw [List.filterMap_cons_none hw, Tick.effect_eq_self (by simp [ho])]

namespace Log

structure Faithful (start : World) (log : Log) : Prop where
  traces : Traces start log.ticks.toList
  world_eq : log.world = start.replay log.ticks.toList

def Unfailed (log : Log) : Prop := ∀ t ∈ log.ticks.toList, t.report? = none

def OnlyLastFails (log : Log) : Prop := ∀ t ∈ log.ticks.toList.dropLast, t.report? = none

@[simp] theorem ticks_record (log : Log) (p : Primitive) (line : Option Nat) (o : TickOutcome) :
    (log.record p line o).ticks.toList =
      log.ticks.toList ++ [⟨log.ticks.size, p, line, o⟩] := by
  simp [record]

/-- All that a command can do to a log. -/
theorem command_cases (log : Log) (p : Primitive) (line : Option Nat) :
    (log.budget ≤ log.ticks.size ∧
      log.command p line = (.error (.overBudget log.budget), log)) ∨
    (∃ s, log.ticks.size < log.budget ∧ p = .sensor s ∧ log.command p line =
      (.ok (some (log.world.sense s)), log.record p line (.sensed (log.world.sense s)))) ∨
    (∃ a after, log.ticks.size < log.budget ∧ p = .action a ∧ log.world.act a = .ok after ∧
      log.command p line = (.ok none, { log with world := after }.record p line (.acted after))) ∨
    (∃ a fault, log.ticks.size < log.budget ∧ p = .action a ∧ log.world.act a = .error fault ∧
      log.command p line =
        (.error (.action fault), log.record p line (.failed (fault.report line)))) := by
  unfold command
  by_cases hb : log.budget ≤ log.ticks.size
  · exact .inl ⟨hb, if_pos hb⟩
  · rw [if_neg hb]
    have hb' := Int.not_le.mp hb
    cases p with
    | sensor s => exact .inr (.inl ⟨s, hb', rfl, rfl⟩)
    | action a =>
      cases ha : log.world.act a with
      | ok after => exact .inr (.inr (.inl ⟨a, after, hb', rfl, ha, by simp [ha]⟩))
      | error fault => exact .inr (.inr (.inr ⟨a, fault, hb', rfl, ha, by simp [ha]⟩))

theorem Faithful.record {start : World} {log : Log} (h : log.Faithful start) {p : Primitive}
    {line : Option Nat} {o : TickOutcome} {after : World}
    (ht : Tick.Faithful log.world ⟨log.ticks.size, p, line, o⟩)
    (ha : Tick.effect log.world ⟨log.ticks.size, p, line, o⟩ = after) :
    ({ log with world := after }.record p line o).Faithful start := by
  refine ⟨?_, ?_⟩
  · rw [ticks_record, traces_append]
    exact ⟨h.traces, h.world_eq ▸ ht, trivial⟩
  · rw [ticks_record, World.replay_append, ← h.world_eq, World.replay_singleton]
    exact ha.symm

/-- A command keeps a log faithful, also one that fails. -/
theorem Faithful.command {start : World} {log : Log} (h : log.Faithful start) (p : Primitive)
    (line : Option Nat) : (log.command p line).2.Faithful start := by
  rcases log.command_cases p line with ⟨-, he⟩ | ⟨s, -, rfl, he⟩ | ⟨a, after, -, rfl, ha, he⟩ |
      ⟨a, fault, -, rfl, ha, he⟩
  · rw [he]
    exact h
  · rw [he]
    exact h.record rfl rfl
  · rw [he]
    have ht : Tick.Faithful log.world ⟨log.ticks.size, .action a, line, .acted after⟩ := ha
    exact h.record ht (ht.effect_acted rfl)
  · rw [he]
    exact h.record ⟨fault, ha, rfl⟩ rfl

/-- A command that succeeds leaves no tick of a failure, and one that fails at most the last. -/
theorem Unfailed.command {log : Log} (h : log.Unfailed) (p : Primitive) (line : Option Nat) :
    match log.command p line with
    | (.ok _, after) => after.Unfailed
    | (.error _, after) => after.OnlyLastFails := by
  have hpush (w : World) (o : TickOutcome)
      (ho : Tick.report? ⟨log.ticks.size, p, line, o⟩ = none) :
      ({ log with world := w }.record p line o).Unfailed := by
    intro t ht
    rw [ticks_record, List.mem_append, List.mem_singleton] at ht
    rcases ht with ht | rfl
    · exact h t ht
    · exact ho
  -- the ticks before stay as they are, so only the new one has to be looked at
  rcases log.command_cases p line with ⟨-, he⟩ | ⟨s, -, rfl, he⟩ | ⟨a, after, -, rfl, -, he⟩ |
      ⟨a, fault, -, rfl, -, he⟩
  · rw [he]
    exact fun t ht => h t (List.dropLast_subset _ ht)
  · rw [he]
    exact hpush log.world (.sensed (log.world.sense s)) rfl
  · rw [he]
    exact hpush after (.acted after) rfl
  · rw [he]
    intro t ht
    rw [ticks_record, List.dropLast_concat] at ht
    exact h t ht

theorem faithful_start (w : World) (budget : Int) : (Log.start w budget).Faithful w :=
  ⟨trivial, rfl⟩

theorem unfailed_start (w : World) (budget : Int) : (Log.start w budget).Unfailed := by
  intro t ht
  cases ht

end Log

namespace Recording

/-- The report with which a recording ends, if it failed: the one of the tick that failed, or else its
error. -/
def report? (r : Recording) : Option Report :=
  (r.ticks.toList.findSome? Tick.report?).or r.error

theorem failed_eq_report? (r : Recording) : r.failed = r.report?.isSome := by
  rw [failed, report?, Option.isSome_or, List.isSome_findSome?, Bool.or_comm, ← Array.any_toList]

/-- What is promised of the recording of a program that began in a world: its ticks are a trace, at
most the last one shows a failure, and then the recording names no other error. -/
structure Sound (w : World) (r : Recording) : Prop where
  traces : Traces w r.ticks.toList
  only_last_fails : ∀ t ∈ r.ticks.toList.dropLast, t.report? = none
  error_apart : r.error.isSome → ∀ t ∈ r.ticks.toList, t.report? = none

theorem sound_of_no_ticks (w : World) {r : Recording} (h : r.ticks = #[]) : r.Sound w := by
  obtain ⟨ticks, error⟩ := r
  subst h
  exact ⟨trivial, by simp, by simp⟩

variable {w : World} {r : Recording} {e : Report}

/-- A tick that shows a failure is the last one, and the recording ends with its report. -/
theorem Sound.report?_of_tick (h : r.Sound w) {n : Nat} {t : Tick}
    (ht : r.ticks.toList[n]? = some t) (he : t.report? = some e) :
    n + 1 = r.ticks.size ∧ r.report? = some e := by
  obtain ⟨hn, htn⟩ := List.getElem?_eq_some_iff.mp ht
  rcases List.eq_nil_or_concat r.ticks.toList with hnil | ⟨init, last, hs⟩
  · simp [hnil] at hn
  · have hinit := h.only_last_fails
    rw [hs, List.concat_eq_append, List.dropLast_concat] at hinit
    rw [hs, List.concat_eq_append] at ht hn
    rw [List.length_append, List.length_singleton] at hn
    -- no tick before the last one shows a failure
    rcases Nat.lt_or_eq_of_le (Nat.le_of_lt_succ hn) with hlt | rfl
    · rw [List.getElem?_append_left hlt] at ht
      rw [hinit t (List.mem_of_getElem? ht)] at he
      cases he
    · rw [List.getElem?_concat_length] at ht
      cases ht
      have hnone : init.findSome? Tick.report? = none := List.findSome?_eq_none_iff.mpr hinit
      refine ⟨?_, ?_⟩
      · rw [← Array.length_toList, hs, List.concat_eq_append, List.length_append]
        rfl
      · rw [report?, hs, List.concat_eq_append, List.findSome?_append, hnone, List.findSome?_cons,
          he]
        rfl

theorem Sound.report?_of_error (h : r.Sound w) (he : r.error = some e) : r.report? = some e := by
  have hnone : r.ticks.toList.findSome? Tick.report? = none :=
    List.findSome?_eq_none_iff.mpr (h.error_apart (by simp [he]))
  rw [report?, hnone, he]
  rfl

end Recording

end KarelLab
