import KarelLab.Proofs.Isolation.Record
import KarelLab.Proofs.Json.Spelling
import KarelLab.Proofs.World.Calls

/-!
# Worlds and recordings survive as documents

Whatever becomes of an accepted world, its document is read as that world, with its walls and piles in
their order, and so is each text of the document. The same holds of all that is recorded of a program,
and of what a worker hands out for one that it refuses.
-/

namespace KarelLab

open Json (Exact)

namespace Document

theorem exact_ofOption {α : Type} {f : α → Json} (h : ∀ a, (f a).Exact) (o : Option α) :
    (Json.ofOption f o).Exact := by
  cases o with
  | none => exact .null
  | some a => exact h a

theorem exact_ofLine? (n : Option Nat) : (ofLine? n).Exact :=
  exact_ofOption (f := Json.nat) (fun n => .int n) n

theorem exact_array_map {α : Type} {f : α → Json} (h : ∀ a, (f a).Exact) (as : List α) :
    (Json.array (as.map f)).Exact := by
  refine .array ?_
  intro j hj
  obtain ⟨a, -, rfl⟩ := List.mem_map.mp hj
  exact h a

theorem exact_ofPosition (p : Position) : (ofPosition p).Exact := by
  refine .object (by simp) ?_
  simp [Exact.int]

theorem exact_ofWall (w : Wall) : (ofWall w).Exact := by
  refine .object (by simp) ?_
  simp [Exact.int, Exact.string]

theorem exact_ofPile (p : Pile) : (ofPile p).Exact := by
  refine .object (by simp) ?_
  simp [Exact.int, Json.nat]

theorem exact_ofWorld (w : World) : (ofWorld w).Exact := by
  have hsize : (Json.object [("width", .nat w.width), ("height", .nat w.height)]).Exact := by
    refine .object (by simp) ?_
    simp [Exact.int, Json.nat]
  have hrobot : (Json.object [("position", ofPosition w.robot.position),
      ("direction", .string w.robot.direction.name),
      ("beeper_bag", .int w.robot.bag.toInt)]).Exact := by
    refine .object (by simp) ?_
    simp [Exact.int, Exact.string, exact_ofPosition]
  refine .object (by simp) ?_
  simp [hsize, hrobot, exact_array_map exact_ofWall, exact_array_map exact_ofPile]

theorem exact_ofReport (r : Report) : (ofReport r).Exact := by
  -- hint and rule have fields of their own only where there are any
  refine .object ?_ ?_
  · cases r.rule <;> cases r.shownHint <;> simp
  · cases r.rule <;> cases r.shownHint <;> simp [Exact.string, exact_ofLine?]

theorem exact_ofTick (t : Tick) : (ofTick t).Exact := by
  obtain ⟨index, p, l, o⟩ := t
  have herror := exact_ofOption exact_ofReport (Tick.report? ⟨index, p, l, o⟩)
  refine .object (by simp) ?_
  cases o <;> simp [Exact.null, Exact.bool, Exact.int, Exact.string, Json.nat, exact_ofLine?,
    exact_ofWorld, herror]

theorem exact_ofRecording (r : Recording) : (ofRecording r).Exact := by
  refine .object (by simp) ?_
  simp [exact_array_map exact_ofTick, exact_ofOption exact_ofReport]

/-- A value comes back from its document however that comes in, and the document from each of its two
written forms. -/
structure Survives {α : Type} (read : Medium → Json → Checked α) (write : α → Json) (a : α) :
    Prop where
  document : ∀ medium, read medium (write a) = .ok a
  compact : Json.parse (write a).compact = .ok (write a)
  indented : Json.parse ((write a).indented 0) = .ok (write a)

theorem survives_of_exact {α : Type} {read : Medium → Json → Checked α} {write : α → Json} {a : α}
    (hread : ∀ medium, read medium (write a) = .ok a) (h : (write a).Exact) :
    Survives read write a :=
  ⟨hread, h.parse_eq.1, h.parse_eq.2⟩

theorem survives_world {w : World} (h : w.WellFormed) : Survives world ofWorld w :=
  survives_of_exact (fun medium => world_ofWorld medium h) (exact_ofWorld w)

/-- A recording that is sound from an accepted world survives, if its error has no empty hint. -/
theorem survives_recording {w : World} (hw : w.WellFormed) {r : Recording} (hs : r.Sound w)
    (hp : ∀ e, r.error = some e → Plain e) : Survives recording ofRecording r :=
  survives_of_exact (fun medium => recording_ofRecording medium (hs.traces.readable hw) hp)
    (exact_ofRecording r)

end Document

namespace Isolation

/-- What a worker hands out, it answered about a world that it accepted. -/
theorem answer_of_handle {payload : Json} {limit : Binary64} {r : Recording}
    (h : handle payload limit = .ok r) :
    ∃ w code restrictions budgets, World.WellFormed w ∧ answer code w restrictions budgets = .ok r := by
  cases payload with
  | object fields =>
    unfold handle at h
    dsimp only at h
    split at h
    · rename_i doc hdoc
      cases hworld : Document.world .value doc with
      | error es =>
        rw [hworld] at h
        cases h
      | ok w =>
        have hw := Document.wellFormed_of_world hworld
        rw [hworld] at h
        dsimp only [Except.mapError, bind, Except.bind] at h
        split at h
        · rename_i code hcode
          split at h
          · cases h
          · exact ⟨w, code, _, _, hw, h⟩
          · exact ⟨w, code, _, _, hw, h⟩
        · cases h
    · cases h
  | _ => cases h

/-- A worker that is asked to run a program that is rejected hands out the report on it. -/
theorem handle_of_rejected {w : World} (hw : w.WellFormed) {code : String}
    {restrictions : Program.Restrictions} {e : Program.Rejection}
    (h : Program.review restrictions code = .error e) (budgets : Budgets) (limit : Binary64) :
    handle (request code w restrictions budgets) limit = .ok ⟨#[], some e.report⟩ := by
  have hanswer : answer code w restrictions (readBudgets budgets) = .ok ⟨#[], some e.report⟩ := by
    rw [answer, h]
  rw [handle_request, Document.world_ofWorld .value hw, ← hanswer]
  rfl

end Isolation

namespace Document

open Execution (record RecordRequest)

/-- After any calls an accepted world survives as a document. So does every recording of a program
from there, and there is one whenever the commands that it may use are known. So does whatever a worker
hands out, and of a program that is rejected that is the report on it. -/
theorem worlds_and_recordings_survive {medium : Medium} {j : Json} {w : World}
    (h : world medium j = .ok w) (names : List String) :
    Survives world ofWorld (w.afterCalls names) ∧
      (∀ (code : String) (request : RecordRequest), request.world = w.afterCalls names →
        (∀ r, record code request = .ok r → Survives recording ofRecording r) ∧
          ((∀ allowed, request.allowed = some allowed → ∀ name ∈ allowed, name ∈ Primitive.names) →
            ∃ r, record code request = .ok r)) ∧
      (∀ (payload : Json) (limit : Binary64) (r : Recording),
        Isolation.handle payload limit = .ok r → Survives recording ofRecording r) ∧
      ∀ (code : String) (restrictions : Program.Restrictions) (e : Program.Rejection)
        (budgets : Isolation.Budgets) (limit : Binary64), Program.review restrictions code = .error e →
        Isolation.handle (Isolation.request code (w.afterCalls names) restrictions budgets) limit =
          .ok ⟨#[], some e.report⟩ := by
  have hwell := ((wellFormed_of_world h).afterCalls names).1
  refine ⟨survives_world hwell, ?_, ?_, ?_⟩
  · intro code request hw
    refine ⟨?_, Execution.record_isOk code request⟩
    intro r hr
    have hsound := Execution.record_sound hr
    rw [hw] at hsound
    exact survives_recording hwell hsound (Isolation.plain_of_record hr)
  · intro payload limit r hr
    obtain ⟨v, code, restrictions, budgets, hv, hanswer⟩ := Isolation.answer_of_handle hr
    -- whatever a worker answers was recorded on the world that it has read
    obtain ⟨hsound, hplain⟩ := Isolation.answer_sound hanswer
    exact survives_recording hv hsound hplain
  · intro code restrictions e budgets limit hreview
    exact Isolation.handle_of_rejected hwell hreview budgets limit

def cellDocument : Json :=
  .object [
    ("dimensions", .object [("width", .nat 2), ("height", .nat 1)]),
    ("robot", .object [("position", .object [("x", .nat 1), ("y", .nat 1)]),
      ("beeper_bag", .int (-1))]),
    ("walls", .array [.object [("orientation", .string "vertical"), ("x", .nat 1), ("y", .nat 1)]]),
    ("beeper_piles", .array [
      .object [("x", .nat 1), ("y", .nat 1), ("count", .nat 1)],
      .object [("x", .nat 2), ("y", .nat 1), ("count", .nat 3)]])]

def cell : World where
  width := 2
  height := 1
  robot := ⟨⟨1, 1⟩, .east, .unlimited⟩
  walls := [⟨.vertical, 1, 1⟩]
  piles := [⟨1, 1, 1⟩, ⟨2, 1, 3⟩]

/-- A pile is emptied and made again behind the other one. A program then puts down one more beeper, asks
whether the way is free and runs into the wall; another one is refused. -/
theorem worlds_and_recordings_survive_wall_collision :
    world .text cellDocument = .ok cell ∧
      cell.afterCalls ["pick_beeper", "put_beeper"] = { cell with piles := [⟨2, 1, 3⟩, ⟨1, 1, 1⟩] } ∧
      Survives world ofWorld (cell.afterCalls ["pick_beeper", "put_beeper"]) ∧
      (∃ r, record "put_beeper()\nfront_is_clear()\nmove()"
          ⟨cell.afterCalls ["pick_beeper", "put_beeper"], none, 10, .ofInt 10⟩ = .ok r ∧
        r.ticks.size = 3 ∧ Survives recording ofRecording r) ∧
      ∃ r, Isolation.handle (.object [("code", .string "import os"), ("world", cellDocument)])
          Isolation.defaultLimit = .ok r ∧
        r.error.map (·.code) = some .validation ∧ Survives recording ofRecording r := by
  have hdoc : world .text cellDocument = .ok cell := by rfl
  obtain ⟨hworld, hrecorded, hhandled, -⟩ :=
    worlds_and_recordings_survive hdoc ["pick_beeper", "put_beeper"]
  have hrun : (record "put_beeper()\nfront_is_clear()\nmove()"
      ⟨cell.afterCalls ["pick_beeper", "put_beeper"], none, 10, .ofInt 10⟩).toOption.map
        (·.ticks.size) = some 3 := by decide +kernel
  have hrefused : (Isolation.handle
      (.object [("code", .string "import os"), ("world", cellDocument)])
        Isolation.defaultLimit).toOption.map (·.error.map (·.code)) = some (some .validation) := by
    decide +kernel
  have hback {ε : Type} {x : Except ε Recording} {r : Recording} (h : x.toOption = some r) :
      x = .ok r := by
    cases x with
    | error e => cases h
    | ok a => exact congrArg Except.ok (Option.some.inj h)
  obtain ⟨r, hr, hsize⟩ := Option.map_eq_some_iff.mp hrun
  obtain ⟨refusal, he, hcode⟩ := Option.map_eq_some_iff.mp hrefused
  refine ⟨hdoc, by decide, hworld, ⟨r, hback hr, hsize, ?_⟩, refusal, hback he, hcode, ?_⟩
  · exact (hrecorded _ _ rfl).1 r (hback hr)
  · exact hhandled _ _ refusal (hback he)

end Document

end KarelLab
