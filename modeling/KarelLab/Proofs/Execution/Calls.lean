import KarelLab.Proofs.Execution.Numbering
import Mathlib.Data.List.Induction

/-!
# A log and the calls that it gets

A log is used by calling commands on it and by running programs against it, in any order and also after
calls that failed. A program does nothing to a log but call commands. So whatever is done with a log, it
holds the first calls that its budget has room for, each with what came of it, and its world is the one
to which the actions that succeeded lead.
-/

namespace KarelLab

structure CommandCall where
  primitive : Primitive
  line : Option Nat
  deriving Repr, DecidableEq, Inhabited

def Tick.call (t : Tick) : CommandCall := ⟨t.primitive, t.line⟩

namespace Log

def call (log : Log) (c : CommandCall) : Except CommandFault (Option Bool) × Log :=
  log.command c.primitive c.line

def afterCommands (log : Log) (cs : List CommandCall) : Log :=
  cs.foldl (fun log c => (log.call c).2) log

/-- What a call within the budget comes to in a world: what is logged, what is answered and the world
that is left. -/
inductive Comes (w : World) (c : CommandCall) :
    TickOutcome → Except CommandFault (Option Bool) → World → Prop
  | sensed {s : Sensor} : c.primitive = .sensor s →
      Comes w c (.sensed (w.sense s)) (.ok (some (w.sense s))) w
  | acted {a : Action} {after : World} : c.primitive = .action a → w.act a = .ok after →
      Comes w c (.acted after) (.ok none) after
  | failed {a : Action} {f : ActionFault} : c.primitive = .action a → w.act a = .error f →
      Comes w c (.failed (f.report c.line)) (.error (.action f)) w

structure Handles (log : Log) (c : CommandCall) : Prop where
  /-- Within the budget the call leaves one tick more, which has the next number and tells what came of
  the call. -/
  logged : log.ticks.size < log.budget →
    ∃ outcome answer after, Comes log.world c outcome answer after ∧ log.call c =
      (answer, { log with
        world := after
        ticks := log.ticks.push ⟨log.ticks.size, c.primitive, c.line, outcome⟩ })
  /-- Beyond the budget it leaves nothing, and fails as such. -/
  refused : log.budget ≤ log.ticks.size →
    (∃ f, log.call c = (.error f, log) ∧
      (Execution.Fault.ofCommand f c.line).report.code = .stepLimit)
  /-- Only an action that succeeds changes the world. -/
  unchanged : (∃ s, c.primitive = .sensor s) ∨ (∃ f, (log.call c).1 = .error f) →
    (log.call c).2.world = log.world

/-- What is promised of a log that began in a world with a budget and got some calls. -/
structure TraceOf (w : World) (budget : Int) (cs : List CommandCall) (log : Log) : Prop where
  numbered : Numbered log.ticks.toList
  size_le : log.ticks.size ≤ budget
  /-- The log tells of the calls in order, as many as there was room for. -/
  calls : log.ticks.toList.map Tick.call = cs.take budget.toNat
  /-- The world of the log is the one to which the actions lead that succeeded. -/
  world : w.actAll (log.ticks.toList.filterMap Tick.action?) = .ok log.world
  next : ∀ c, log.Handles c

variable {w : World} {log : Log} {c : CommandCall} {budget : Int}

/-! ## One call -/

/-- A call is beyond the budget, or it leaves a tick. -/
theorem call_cases (log : Log) (c : CommandCall) :
    (log.budget ≤ log.ticks.size ∧ log.call c = (.error (.overBudget log.budget), log)) ∨
    (log.ticks.size < log.budget ∧ ∃ outcome answer after,
      Comes log.world c outcome answer after ∧ log.call c =
        (answer, { log with
          world := after
          ticks := log.ticks.push ⟨log.ticks.size, c.primitive, c.line, outcome⟩ })) := by
  rcases log.command_cases c.primitive c.line with ⟨hfull, he⟩ | ⟨s, hroom, hp, he⟩ |
      ⟨a, after, hroom, hp, ha, he⟩ | ⟨a, fault, hroom, hp, ha, he⟩
  · exact .inl ⟨hfull, he⟩
  · exact .inr ⟨hroom, _, _, _, .sensed hp, he⟩
  · exact .inr ⟨hroom, _, _, _, .acted hp ha, he⟩
  · exact .inr ⟨hroom, _, _, _, .failed hp ha, he⟩

theorem Comes.world_eq {outcome : TickOutcome} {answer : Except CommandFault (Option Bool)}
    {after : World} (h : Comes w c outcome answer after)
    (hc : (∃ s, c.primitive = .sensor s) ∨ ∃ f, answer = .error f) : after = w := by
  cases h with
  | sensed _ => rfl
  | failed _ _ => rfl
  | acted hp _ =>
    rcases hc with ⟨s, hs⟩ | ⟨f, hf⟩
    · rw [hp] at hs
      cases hs
    · cases hf

theorem handles (log : Log) (c : CommandCall) : log.Handles c := by
  rcases log.call_cases c with ⟨hfull, he⟩ | ⟨hroom, outcome, answer, after, hcomes, he⟩
  · exact {
      logged := fun hroom => absurd hfull (Int.not_le.mpr hroom)
      refused := fun _ => ⟨_, he, rfl⟩
      unchanged := fun _ => by rw [he] }
  · exact {
      logged := fun _ => ⟨outcome, answer, after, hcomes, he⟩
      refused := fun hfull => absurd hfull (Int.not_le.mpr hroom)
      unchanged := fun hc => by
        rw [he] at hc ⊢
        exact hcomes.world_eq hc }

/-! ## Many calls -/

theorem afterCommands_append (log : Log) (cs ds : List CommandCall) :
    log.afterCommands (cs ++ ds) = (log.afterCommands cs).afterCommands ds := List.foldl_append

theorem afterCommands_concat (log : Log) (cs : List CommandCall) (c : CommandCall) :
    log.afterCommands (cs ++ [c]) = ((log.afterCommands cs).call c).2 := List.foldl_concat ..

/-- What every call keeps, any number of calls keeps. -/
theorem afterCommands_of_step {P : Log → Prop} (hstep : ∀ log c, P log → P (log.call c).2)
    (h : P log) (cs : List CommandCall) : P (log.afterCommands cs) := by
  induction cs using List.reverseRecOn with
  | nil => exact h
  | append_singleton cs c ih =>
    rw [afterCommands_concat]
    exact hstep _ c ih

theorem budget_afterCommands (log : Log) (cs : List CommandCall) :
    (log.afterCommands cs).budget = log.budget :=
  afterCommands_of_step (P := fun l => l.budget = log.budget)
    (fun l c h => (l.budget_command c.primitive c.line).trans h) rfl cs

/-- An empty log takes the calls in order until its budget is used up. -/
theorem calls_afterCommands (hb : 0 ≤ budget) (cs : List CommandCall) :
    ((start w budget).afterCommands cs).ticks.toList.map Tick.call = cs.take budget.toNat := by
  induction cs using List.reverseRecOn with
  | nil => exact List.take_nil.symm
  | append_singleton cs c ih =>
    have hbudget : ((start w budget).afterCommands cs).budget = budget := budget_afterCommands _ cs
    -- so far there are as many ticks as calls, unless the budget is used up
    have hsize : ((start w budget).afterCommands cs).ticks.size = min budget.toNat cs.length := by
      rw [← Array.length_toList, ← List.length_map Tick.call, ih, List.length_take]
    rw [afterCommands_concat]
    rcases call_cases ((start w budget).afterCommands cs) c with
      ⟨hfull, he⟩ | ⟨hroom, outcome, answer, after, -, he⟩
    · rw [hbudget] at hfull
      have hlong : budget.toNat ≤ cs.length := by omega
      rw [he, ih, List.take_append_of_le_length hlong]
    · rw [hbudget] at hroom
      have hshort : cs.length < budget.toNat := by omega
      have hone : (cs ++ [c]).length ≤ budget.toNat := by
        rw [List.length_append, List.length_singleton]
        exact hshort
      rw [he, List.take_of_length_le hone, Array.toList_push, List.map_append, ih,
        List.take_of_length_le (Nat.le_of_lt hshort)]
      rfl

theorem traceOf_afterCommands (w : World) (hb : 0 ≤ budget) (cs : List CommandCall) :
    TraceOf w budget cs ((start w budget).afterCommands cs) := by
  have hcalls : ((start w budget).afterCommands cs).ticks.toList.map Tick.call =
      cs.take budget.toNat := calls_afterCommands hb cs
  have hempty : Numbered (start w budget).ticks.toList := rfl
  have hfaithful : ((start w budget).afterCommands cs).Faithful w :=
    afterCommands_of_step (fun _ c h => h.command c.primitive c.line) (faithful_start w budget) cs
  exact {
    numbered := afterCommands_of_step (P := fun l => Numbered l.ticks.toList)
      (fun _ c h => numbered_command h c.primitive c.line) hempty cs
    size_le := by
      have hlength := congrArg List.length hcalls
      rw [List.length_map, Array.length_toList, List.length_take] at hlength
      omega
    calls := hcalls
    world := by
      rw [hfaithful.world_eq]
      exact hfaithful.traces.actAll
    next := handles _ }

end Log

namespace Execution

/-! ## Programs -/

def Dialogue.calls {α : Type} : Dialogue α → Log → List CommandCall
  | .done _ _, _ => []
  | .failed _ _ _, _ => []
  | .command p line _ next, log =>
    ⟨p, some line⟩ ::
      match log.command p (some line) with
      | (.ok answer, after) => (next answer).calls after
      | (.error _, _) => []

/-- All that a dialogue leaves of a log is what its calls leave. -/
theorem Dialogue.finish_log {α : Type} (d : Dialogue α) (log : Log) :
    (d.finish log).2 = log.afterCommands (d.calls log) := by
  induction d generalizing log with
  | done a m => rfl
  | failed f own m => rfl
  | command p line m next ih =>
    have hfirst (cs : List CommandCall) : log.afterCommands (⟨p, some line⟩ :: cs) =
        (log.command p (some line)).2.afterCommands cs := rfl
    rw [finish_command, calls, hfirst]
    cases log.command p (some line) with
    | mk answer after =>
      cases answer with
      | ok a => exact ih a after
      | error f => rfl

inductive LogUse
  | call (c : CommandCall)
  | program (s : Session) (text : String)

end Execution

namespace Log

open Execution

def afterUse (log : Log) : LogUse → Log
  | .call c => (log.call c).2
  | .program s text => ({ s with log := log }.execute text).2.log

def afterUses (log : Log) (us : List LogUse) : Log := us.foldl afterUse log

/-- Every use of a log comes to calls. -/
theorem exists_calls_afterUse (log : Log) (u : LogUse) :
    ∃ cs, log.afterUse u = log.afterCommands cs := by
  cases u with
  | call c => exact ⟨[c], rfl⟩
  | program s text =>
    obtain ⟨d, hd⟩ := s.execute_scripted text
    have hlog : ({ s with log := log }.execute text).2.log = (d.finish log).2 :=
      congrArg Prod.snd (hd log)
    exact ⟨d.calls log, hlog.trans (d.finish_log log)⟩

theorem exists_calls_afterUses (log : Log) (us : List LogUse) :
    ∃ cs, log.afterUses us = log.afterCommands cs := by
  induction us using List.reverseRecOn with
  | nil => exact ⟨[], rfl⟩
  | append_singleton us u ih =>
    obtain ⟨cs, hcs⟩ := ih
    obtain ⟨ds, hds⟩ := exists_calls_afterUse (log.afterUses us) u
    have hlast : log.afterUses (us ++ [u]) = (log.afterUses us).afterUse u := List.foldl_concat ..
    refine ⟨cs ++ ds, ?_⟩
    rw [hlast, hds, hcs, afterCommands_append]

/-- Whatever is done with a log, it comes to calls in a certain order, and whatever calls a log got, it
holds a faithful trace of them: as many ticks as its budget has room for, numbered from zero on, each
with what came of its call, and a world to which exactly the actions lead that succeeded. -/
theorem uses_leave_faithful_trace (w : World) {budget : Int} (hb : 0 ≤ budget) :
    (∀ us, ∃ cs, (start w budget).afterUses us = (start w budget).afterCommands cs ∧
      TraceOf w budget cs ((start w budget).afterUses us)) ∧
    ∀ cs, TraceOf w budget cs ((start w budget).afterCommands cs) := by
  refine ⟨?_, traceOf_afterCommands w hb⟩
  intro us
  obtain ⟨cs, hcs⟩ := exists_calls_afterUses (start w budget) us
  refine ⟨cs, hcs, ?_⟩
  rw [hcs]
  exact traceOf_afterCommands w hb cs

def sharedUses (s : Session) : List LogUse :=
  [.program s "turn_left()\nturn_left()\nmove()", .call ⟨.sensor .beepersPresent, none⟩,
    .program s "turn_left()", .call ⟨.action .turnLeft, none⟩]

theorem uses_leave_faithful_trace_shared :
    ∃ s, Session.start (start .default 4) none (.ofInt 10) = .ok s ∧
      ∃ log, (start .default 4).afterUses (sharedUses s) = log ∧ log.ticks.size = 4 ∧
        World.default.actAll (log.ticks.toList.filterMap Tick.action?) = .ok log.world ∧
        ∃ f, log.call ⟨.action .move, none⟩ = (.error f, log) := by
  have heval : (Session.start (start .default 4) none (.ofInt 10)).toOption.map
      (fun s => ((start .default 4).afterUses (sharedUses s)).ticks.size) = some 4 := by
    decide +kernel
  cases hs : Session.start (start .default 4) none (.ofInt 10) with
  | error u =>
    rw [hs] at heval
    cases heval
  | ok s =>
    rw [hs] at heval
    have hsize : ((start .default 4).afterUses (sharedUses s)).ticks.size = 4 :=
      Option.some.inj heval
    obtain ⟨cs, hcs, htrace⟩ :=
      (uses_leave_faithful_trace .default (by decide : (0 : Int) ≤ 4)).1 (sharedUses s)
    have hbudget : ((start .default 4).afterUses (sharedUses s)).budget = 4 := by
      rw [hcs]
      exact budget_afterCommands _ cs
    obtain ⟨f, hf, -⟩ := (htrace.next ⟨.action .move, none⟩).refused (by rw [hbudget, hsize]; decide)
    exact ⟨s, rfl, _, rfl, hsize, htrace.world, f, hf⟩

end Log

end KarelLab
