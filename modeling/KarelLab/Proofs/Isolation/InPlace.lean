import KarelLab.Proofs.Execution.Time
import KarelLab.Proofs.Isolation.Record

namespace KarelLab.Isolation

open Execution

def recordInPlace (code : String) (w : World) (restrictions : Program.Restrictions)
    (budgets : Budgets) : Except UnknownPrimitive Recording :=
  match Program.review restrictions code with
  | .error e => .ok ⟨#[], some e.report⟩
  | .ok _ => record code ⟨w, restrictions.commands, budgets.maxSteps, budgets.limit⟩

/-- Restrictions that name nothing but commands of the robot, if they name commands. -/
def Known (restrictions : Program.Restrictions) : Prop :=
  ∀ name ∈ restrictions.commandNames, name ∈ Primitive.names

instance (restrictions : Program.Restrictions) : Decidable (Known restrictions) :=
  inferInstanceAs (Decidable (∀ name ∈ _, _))

/-- No limit on the time is hit: a worker that may take so long can be started, and the program comes
to its end within the shorter of both limits. -/
structure InTime (code : String) (w : World) (restrictions : Program.Restrictions) (maxSteps : Int)
    (limit timeout : Binary64) : Prop where
  started : TimeLimit.steps timeout ≠ 0
  unstopped : ((recordInPlace code w restrictions
    ⟨maxSteps, .seconds (.least limit timeout)⟩).toOption.bind (·.error)).map (·.code) ≠ some .timeout

instance (code : String) (w : World) (restrictions : Program.Restrictions) (maxSteps : Int)
    (limit timeout : Binary64) : Decidable (InTime code w restrictions maxSteps limit timeout) :=
  decidable_of_iff
    (TimeLimit.steps timeout ≠ 0 ∧ ((recordInPlace code w restrictions
      ⟨maxSteps, .seconds (.least limit timeout)⟩).toOption.bind (·.error)).map (·.code) ≠
        some .timeout)
    ⟨fun h => ⟨h.1, h.2⟩, fun h => ⟨h.started, h.unstopped⟩⟩

theorem Known.allowed {restrictions : Program.Restrictions} (h : Known restrictions) :
    ∀ names, restrictions.commands = some names → ∀ n ∈ names, n ∈ Primitive.names := by
  intro names hnames
  unfold Known Program.Restrictions.commandNames at h
  rw [hnames] at h
  exact h

theorem recordInPlace_isOk (code : String) (w : World) {restrictions : Program.Restrictions}
    (h : Known restrictions) (budgets : Budgets) :
    ∃ r, recordInPlace code w restrictions budgets = .ok r := by
  unfold recordInPlace
  cases Program.review restrictions code with
  | error e => exact ⟨_, rfl⟩
  | ok tree => exact record_isOk code _ h.allowed

theorem answer_eq (code : String) (w : World) (restrictions : Program.Restrictions)
    (budgets : Budgets) : answer code w restrictions (.ok budgets) =
      (recordInPlace code w restrictions budgets).mapError .unknownPrimitive := by
  unfold answer recordInPlace
  cases Program.review restrictions code <;> rfl

/-- What is recorded in place within a limit is recorded under every longer one. -/
theorem recordInPlace_within {code : String} {w : World} {restrictions : Program.Restrictions}
    {maxSteps : Int} {short long : Binary64} (hle : TimeLimit.steps short ≤ TimeLimit.steps long)
    {r : Recording}
    (h : recordInPlace code w restrictions ⟨maxSteps, .seconds short⟩ = .ok r)
    (ht : r.error.map (·.code) ≠ some .timeout) :
    recordInPlace code w restrictions ⟨maxSteps, .seconds long⟩ = .ok r := by
  unfold recordInPlace at h ⊢
  cases hreview : Program.review restrictions code with
  | error e =>
    rw [hreview] at h
    exact h
  | ok tree =>
    rw [hreview] at h
    exact record_within hle h ht

/-- The documents of a request and its answer carry what is recorded in place. -/
theorem recordInPlace_eq_viaDocuments (code : String) {w : World} (hw : w.WellFormed)
    {restrictions : Program.Restrictions} (hk : Known restrictions) (maxSteps : Int)
    (limit : Binary64) :
    recordInPlace code w restrictions ⟨maxSteps, .seconds limit⟩ =
      .ok (viaDocuments code w restrictions ⟨maxSteps, .seconds limit⟩) := by
  obtain ⟨r, hr⟩ := recordInPlace_isOk code w hk ⟨maxSteps, .seconds limit⟩
  have hanswer : answer code w restrictions (readBudgets ⟨maxSteps, .seconds limit⟩) = .ok r := by
    rw [readBudgets, answer_eq, hr]
    rfl
  rw [viaDocuments_eq code hw, hanswer, hr]

/-- What a worker records that is not stopped is recorded in place within the shorter limit. -/
theorem recordInPlace_of_unstopped {code : String} {w : World} (hw : w.WellFormed)
    {restrictions : Program.Restrictions} (hk : Known restrictions) {maxSteps : Int}
    {limit timeout : Binary64}
    (h : (recordIsolated code w restrictions ⟨maxSteps, .seconds limit⟩ timeout).error.map (·.code) ≠
      some .timeout) :
    recordInPlace code w restrictions ⟨maxSteps, .seconds (.least limit timeout)⟩ =
      .ok (recordIsolated code w restrictions ⟨maxSteps, .seconds limit⟩ timeout) := by
  rw [recordInPlace_eq_viaDocuments code hw hk]
  unfold recordIsolated at h ⊢
  split at h
  · exact (h rfl).elim
  · rename_i hstarted
    rw [if_neg hstarted]
    dsimp only [effectiveLimit] at h ⊢
    split at h
    · exact (h rfl).elim
    · rename_i hkept
      rw [if_neg hkept]

/-- A recording by way of a worker is the one that is made in place. -/
theorem recordIsolated_eq {code : String} {w : World} (hw : w.WellFormed)
    {restrictions : Program.Restrictions} (hk : Known restrictions) {maxSteps : Int}
    {limit timeout : Binary64} (ht : InTime code w restrictions maxSteps limit timeout) :
    recordInPlace code w restrictions ⟨maxSteps, .seconds limit⟩ =
      .ok (recordIsolated code w restrictions ⟨maxSteps, .seconds limit⟩ timeout) := by
  -- the worker records within the shorter limit, and its answer is read as it was given
  have hworker := recordInPlace_eq_viaDocuments code hw hk maxSteps (.least limit timeout)
  have hstopped : (viaDocuments code w restrictions
      ⟨maxSteps, .seconds (.least limit timeout)⟩).error.map (·.code) ≠ some .timeout := by
    have hunstopped := ht.unstopped
    rw [hworker] at hunstopped
    exact hunstopped
  have hisolated : recordIsolated code w restrictions ⟨maxSteps, .seconds limit⟩ timeout =
      viaDocuments code w restrictions ⟨maxSteps, .seconds (.least limit timeout)⟩ := by
    unfold recordIsolated
    rw [if_neg ht.started]
    exact if_neg fun h => hstopped h.2
  rw [hisolated]
  exact recordInPlace_within (TimeLimit.steps_least_le limit timeout) hworker hstopped

end KarelLab.Isolation
