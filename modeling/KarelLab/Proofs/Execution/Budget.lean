import KarelLab.Proofs.Execution.Ending

/-!
# Budgets of commands

A budget does nothing but cut an execution short. Under two budgets a program gives the same commands
and gets the same answers until the smaller one is used up; if the program gives a further command, it
is stopped there, and otherwise both recordings are the same.
-/

namespace KarelLab

namespace Log

def withBudget (log : Log) (n : Int) : Log := { log with budget := n }

/-- A command within both of two budgets does the same under each of them. -/
theorem command_withBudget {log : Log} {n : Int} (hm : log.ticks.size < log.budget)
    (hn : log.ticks.size < n) (p : Primitive) (line : Option Nat) :
    (log.withBudget n).command p line =
      ((log.command p line).1, (log.command p line).2.withBudget n) := by
  have hbudget : ¬ (log.withBudget n).budget ≤ (log.withBudget n).ticks.size := Int.not_le.mpr hn
  unfold command
  rw [if_neg hbudget, if_neg (Int.not_le.mpr hm)]
  cases p with
  | sensor s => rfl
  | action a =>
    have hworld : (log.withBudget n).world = log.world := rfl
    rw [hworld]
    cases ha : log.world.act a <;> simp [ha, withBudget, record]

/-- A command within the budget is not refused, and leaves one tick more, with its line. -/
theorem command_of_lt {log : Log} (h : log.ticks.size < log.budget) (p : Primitive)
    (line : Option Nat) :
    (∀ b, (log.command p line).1 ≠ .error (.overBudget b)) ∧
      ∃ o, (log.command p line).2.ticks.toList =
        log.ticks.toList ++ [⟨log.ticks.size, p, line, o⟩] := by
  rcases log.command_cases p line with ⟨hb, -⟩ | ⟨s, -, -, he⟩ | ⟨a, after, -, -, -, he⟩ |
      ⟨a, fault, -, -, -, he⟩
  · exact (Int.not_le.mpr h hb).elim
  · rw [he]
    exact ⟨fun _ => nofun, _, ticks_record _ _ _ _⟩
  · rw [he]
    exact ⟨fun _ => nofun, _, ticks_record _ _ _ _⟩
  · rw [he]
    exact ⟨fun _ => nofun, _, ticks_record _ _ _ _⟩

theorem command_overBudget {log : Log} (h : log.budget ≤ log.ticks.size) (p : Primitive)
    (line : Option Nat) : log.command p line = (.error (.overBudget log.budget), log) := if_pos h

theorem prefix_command (log : Log) (p : Primitive) (line : Option Nat) :
    log.ticks.toList <+: (log.command p line).2.ticks.toList := by
  by_cases h : log.budget ≤ log.ticks.size
  · have heq : (log.command p line).2 = log := by rw [command_overBudget h]
    exact heq.symm ▸ List.prefix_rfl
  · obtain ⟨-, o, ho⟩ := command_of_lt (Int.not_le.mp h) p line
    rw [ho]
    exact List.prefix_append _ _

end Log

namespace Execution

def growthWatch (ts : List Tick) : Watch where
  during log := ts <+: log.ticks.toList
  stopped _ log := ts <+: log.ticks.toList
  of_command log p line h := by
    have hgrown := h.trans (log.prefix_command p (some line))
    cases hc : log.command p (some line) with
    | mk answer after =>
      rw [hc] at hgrown
      cases answer <;> exact hgrown
  of_own _ _ _ h := h

theorem Dialogue.prefix_finish {α : Type} (d : Dialogue α) {log : Log} {ts : List Tick}
    (h : ts <+: log.ticks.toList) : ts <+: (d.finish log).2.ticks.toList := by
  have hgrown := (growthWatch ts).finish d h
  cases hf : d.finish log with
  | mk fault after =>
    rw [hf] at hgrown
    cases fault <;> exact hgrown

/-- How an execution that ended within a budget or was cut short by it is related to the one under a
greater budget: they are the same, or the greater one has a tick of the call that was refused. -/
inductive Cuts (budget : Int) (short long : Option Fault × Log) : Prop
  | whole : short.1 = long.1 → short.2.ticks = long.2.ticks → short.2.ticks.size ≤ budget →
      (∀ b line, short.1 ≠ some (.overBudget b line)) → Cuts budget short long
  | cut {line : Nat} {t : Tick} : short.1 = some (.overBudget budget (some line)) →
      short.2.ticks.size = budget → t.line = some line →
      short.2.ticks.toList ++ [t] <+: long.2.ticks.toList → Cuts budget short long

namespace Cuts

variable {budget : Int} {short long : Option Fault × Log}

theorem size_le (h : Cuts budget short long) : short.2.ticks.size ≤ budget := by
  cases h with
  | whole _ _ hsize _ => exact hsize
  | cut _ hsize _ _ => exact Int.le_of_eq hsize

theorem take_eq (h : Cuts budget short long) (hbudget : 0 ≤ budget) :
    short.2.ticks.toList = long.2.ticks.toList.take budget.toNat := by
  cases h with
  | whole _ hticks hsize _ =>
    rw [← hticks, List.take_of_length_le]
    rw [Array.length_toList]
    omega
  | cut _ hsize _ hprefix =>
    obtain ⟨rest, hrest⟩ := hprefix
    rw [← hrest, List.append_assoc, List.take_left']
    rw [Array.length_toList]
    omega

/-- The call that was refused is the next tick under the greater budget. -/
theorem next_tick (h : Cuts budget short long) (hbudget : 0 ≤ budget) {line : Nat}
    (hs : short.1 = some (.overBudget budget (some line))) :
    ∃ t, long.2.ticks[budget.toNat]? = some t ∧ t.line = some line := by
  cases h with
  | whole _ _ _ hno => exact (hno _ _ hs).elim
  | @cut line' t hfault hsize hline hprefix =>
    obtain rfl : line' = line := by
      rw [hfault] at hs
      simpa using hs
    obtain ⟨rest, hrest⟩ := hprefix
    have hlength : budget.toNat = short.2.ticks.toList.length := by
      rw [Array.length_toList]
      omega
    refine ⟨t, ?_, hline⟩
    rw [← Array.getElem?_toList, ← hrest, List.append_assoc, hlength,
      List.getElem?_append_right (Nat.le_refl _), Nat.sub_self]
    rfl

end Cuts

/-- A dialogue under two budgets: as long as there is some of the smaller one left, every command does
the same under both. -/
theorem Dialogue.cuts {α : Type} (d : Dialogue α) (log : Log) {n : Int}
    (hsize : log.ticks.size ≤ log.budget) (hn : log.budget < n) :
    Cuts log.budget (d.finish log) (d.finish (log.withBudget n)) := by
  -- on the dialogue; the logs under both budgets have the same ticks and the same world throughout
  induction d generalizing log with
  | done a m => exact .whole rfl rfl hsize (fun _ _ => nofun)
  | failed f own m =>
    refine .whole rfl rfl hsize fun b line hf => ?_
    cases hf
    exact own
  | command p line m next ih =>
    rw [finish_command, finish_command]
    rcases Int.lt_or_eq_of_le hsize with hlt | heq
    · rw [Log.command_withBudget hlt (Int.lt_trans hlt hn)]
      obtain ⟨hfault, o, ho⟩ := Log.command_of_lt hlt p (some line)
      have hbudget := log.budget_command p (some line)
      have hticks : (log.command p (some line)).2.ticks.size ≤ log.budget := by
        rw [← Array.length_toList, ho, List.length_append, List.length_singleton,
          Array.length_toList]
        exact hlt
      cases hc : log.command p (some line) with
      | mk answer after =>
        rw [hc] at hfault hbudget hticks
        cases answer with
        | ok a =>
          have hafter := ih a after (hbudget ▸ hticks) (hbudget ▸ hn)
          rw [hbudget] at hafter
          exact hafter
        -- an action that was impossible ends both executions with the same tick
        | error f =>
          refine .whole rfl rfl hticks fun b l hf => ?_
          cases f with
          | overBudget b => exact hfault b rfl
          | action fault => cases hf
    -- the smaller budget is used up, and the greater one is not
    · rw [Log.command_overBudget (Int.le_of_eq heq.symm)]
      have hlt : (log.withBudget n).ticks.size < (log.withBudget n).budget := by
        change log.ticks.size < n
        omega
      obtain ⟨-, o, ho⟩ := Log.command_of_lt hlt p (some line)
      refine .cut rfl heq (t := ⟨log.ticks.size, p, some line, o⟩) rfl ?_
      cases hc : (log.withBudget n).command p (some line) with
      | mk answer after =>
        rw [hc] at ho
        have hprefix : log.ticks.toList ++ [⟨log.ticks.size, p, some line, o⟩] <+:
            after.ticks.toList := by
          rw [ho]
          exact List.prefix_rfl
        cases answer with
        | ok a => exact (next a).prefix_finish hprefix
        | error f => exact hprefix

/-! ## Recordings -/

theorem Session.start_on {log : Log} {allowed : Option (List String)} {limit : TimeLimit}
    {s : Session} (h : start log allowed limit = .ok s) (other : Log) :
    start other allowed limit = .ok { s with log := other } := by
  rw [start_eq] at h ⊢
  cases hr : registerNames (allowed.getD Primitive.names) (Bindings.set libraryName .library [])
    with
  | error u =>
    rw [hr] at h
    cases h
  | ok globals =>
    rw [hr] at h
    cases h
    rfl

/-- The recordings of a program on a world are what one dialogue leaves under each budget. -/
theorem record_scripted (text : String) (request : RecordRequest)
    (hnames : ∀ names, request.allowed = some names → ∀ n ∈ names, n ∈ Primitive.names) :
    ∃ d : Dialogue Unit, ∀ budget, record text { request with maxSteps := budget } =
      .ok (recordingOf (d.finish (.start request.world budget)).1
        (d.finish (.start request.world budget)).2) := by
  obtain ⟨r, hr⟩ := record_isOk text request hnames
  obtain ⟨s, -, -, hs, -⟩ := record_cases hr
  obtain ⟨d, hd⟩ := s.execute_scripted text
  refine ⟨d, fun budget => ?_⟩
  have hstart := Session.start_on hs (.start request.world budget)
  rw [← hd (.start request.world budget)]
  unfold record
  rw [hstart]
  rfl

end Execution

def Recording.OverBudget (r : Recording) : Prop := ∃ e, r.error = some e ∧ e.code = .stepLimit

namespace Execution

theorem Fault.overBudget_of_code {f : Fault} (h : f.report.code = .stepLimit) :
    ∃ b line, f = .overBudget b line := by
  cases f with
  | overBudget b line => exact ⟨b, line, rfl⟩
  | action fault line => cases fault <;> cases h
  | unreadable e =>
    rw [report] at h
    split at h <;> cases h
  | timeout _ _ | error _ _ | tooManyRules | tooDeep | hugeLimit => cases h

theorem not_overBudget_recordingOf {fault : Option Fault}
    (h : ∀ b line, fault ≠ some (.overBudget b line)) (log : Log) :
    ¬ (recordingOf fault log).OverBudget := by
  rintro ⟨e, he, hcode⟩
  unfold recordingOf at he
  dsimp only at he
  split at he
  · cases he
  · obtain ⟨f, rfl, rfl⟩ := Option.map_eq_some_iff.mp he
    obtain ⟨b, line, rfl⟩ := Fault.overBudget_of_code hcode
    exact h b line rfl

/-- The fault of a command beyond the budget is always told as the error of the recording. -/
theorem error_recordingOf {α : Type} {d : Dialogue α} {w : World} {budget b : Int}
    {line : Option Nat} (h : (d.finish (.start w budget)).1 = some (.overBudget b line)) :
    (recordingOf (d.finish (.start w budget)).1 (d.finish (.start w budget)).2).error =
      some (Fault.overBudget b line).report := by
  have hw := failureWatch.finish d (Log.unfailed_start w budget)
  cases hf : d.finish (.start w budget) with
  | mk fault after =>
    rw [hf] at h hw
    cases h
    have hunfailed : after.Unfailed := hw
    have hlast := unshown_of_unfailed hunfailed
    simp [recordingOf, hlast]

/-- The recordings of two executions of which the first may have been cut short: they are the same, or
the first has as many ticks as its budget allows and the other one more. -/
theorem Cuts.recordings {budget : Int} {short long : Option Fault × Log}
    (h : Cuts budget short long) :
    (recordingOf short.1 short.2 = recordingOf long.1 long.2 ∧ long.2.ticks.size ≤ budget ∧
      ¬ (recordingOf long.1 long.2).OverBudget) ∨
    (budget < long.2.ticks.size ∧ short.2.ticks.size = budget ∧
      ∃ line, short.1 = some (.overBudget budget (some line))) := by
  cases h with
  | whole hfault hticks hsize hno =>
    refine .inl ⟨by rw [recordingOf, recordingOf, hfault, hticks], hticks ▸ hsize, ?_⟩
    rw [← hfault]
    exact not_overBudget_recordingOf hno long.2
  | cut hfault hsize _ hprefix =>
    have hlength := hprefix.length_le
    rw [List.length_append, List.length_singleton, Array.length_toList,
      Array.length_toList] at hlength
    exact .inr ⟨by omega, hsize, _, hfault⟩

/-- Of two budgets the smaller one only truncates the recording. Its ticks are the first ones of the
recording under the greater budget; both are the same if these are all and no command was refused.
Otherwise as many commands were given as the smaller budget allows, and the one that was refused is
the next tick under any greater budget. -/
theorem budget_only_truncates (text : String) (request : RecordRequest)
    (hnames : ∀ names, request.allowed = some names → ∀ n ∈ names, n ∈ Primitive.names)
    {m n : Int} (hm : 0 ≤ m) (hmn : m ≤ n) :
    ∃ short long, record text { request with maxSteps := m } = .ok short ∧
      record text { request with maxSteps := n } = .ok long ∧
      short.ticks.toList = long.ticks.toList.take m.toNat ∧
      (long.ticks.size ≤ m ∧ ¬ long.OverBudget → short = long) ∧
      (¬ (long.ticks.size ≤ m ∧ ¬ long.OverBudget) → short.ticks.size = m ∧
        ∃ e line, short.error = some e ∧ e.code = .stepLimit ∧ e.line = some line ∧
          ∀ N, m < N → ∃ r t, record text { request with maxSteps := N } = .ok r ∧
            r.ticks[m.toNat]? = some t ∧ t.line = some line) := by
  obtain ⟨d, hd⟩ := record_scripted text request hnames
  have hcuts (N : Int) (hN : m < N) : Cuts m (d.finish (.start request.world m))
      (d.finish (.start request.world N)) := d.cuts (.start request.world m) hm hN
  -- the command that a budget refuses is the next tick of every greater budget
  have hrefused {line : Nat} (hfault : (d.finish (.start request.world m)).1 =
      some (.overBudget m (some line))) : ∃ e line,
      (recordingOf (d.finish (.start request.world m)).1
        (d.finish (.start request.world m)).2).error = some e ∧
      e.code = .stepLimit ∧ e.line = some line ∧
      ∀ N, m < N → ∃ r t, record text { request with maxSteps := N } = .ok r ∧
        r.ticks[m.toNat]? = some t ∧ t.line = some line := by
    refine ⟨_, line, error_recordingOf hfault, rfl, rfl, fun N hN => ?_⟩
    obtain ⟨t, ht, hline⟩ := (hcuts N hN).next_tick hm hfault
    exact ⟨_, t, hd N, ht, hline⟩
  refine ⟨_, _, hd m, hd n, ?_⟩
  rcases Int.lt_or_eq_of_le hmn with hlt | rfl
  · refine ⟨(hcuts n hlt).take_eq hm, ?_⟩
    rcases (hcuts n hlt).recordings with ⟨heq, hsize, hno⟩ | ⟨hlong, hsize, line, hfault⟩
    · exact ⟨fun _ => heq, fun h => (h ⟨hsize, hno⟩).elim⟩
    · exact ⟨fun h => (Int.not_le.mpr hlong h.1).elim, fun _ => ⟨hsize, hrefused hfault⟩⟩
  -- of equal budgets a greater one tells whether a command was refused
  · have hnext := hcuts (m + 1) (Int.lt_succ m)
    have hsize : (d.finish (.start request.world m)).2.ticks.size ≤ m := hnext.size_le
    refine ⟨?_, fun _ => rfl, fun h => ?_⟩
    · refine (List.take_of_length_le ?_).symm
      rw [Array.length_toList]
      exact Int.le_toNat hm |>.mpr hsize
    · rcases hnext.recordings with ⟨heq, -, hno⟩ | ⟨-, hfull, line, hfault⟩
      · exact (h ⟨hsize, heq ▸ hno⟩).elim
      · exact ⟨hfull, hrefused hfault⟩

/-- A budget of one command refuses the second of two. -/
theorem budget_only_truncates_second_move :
    ∃ short, record "move()\nmove()" ⟨.default, none, 1, .ofInt 10⟩ = .ok short ∧
      short.ticks.size = 1 ∧ short.OverBudget := by
  obtain ⟨short, long, hshort, hlong, -, -, hcut⟩ := budget_only_truncates "move()\nmove()"
    ⟨.default, none, 1, .ofInt 10⟩ nofun (m := 1) (n := 2) (by decide) (by decide)
  have heval : (record "move()\nmove()" ⟨.default, none, 2, .ofInt 10⟩).toOption.map
      (fun r => r.ticks.size) = some 2 := by decide +kernel
  rw [hlong] at heval
  have hticks : long.ticks.size = 2 := Option.some.inj heval
  obtain ⟨hsize, e, line, he, hcode, -⟩ := hcut (by omega)
  exact ⟨short, hshort, by exact_mod_cast hsize, e, he, hcode⟩

end Execution

end KarelLab
