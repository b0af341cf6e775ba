import KarelLab.Proofs.Execution.Alike
import KarelLab.Proofs.Playback.Alone

namespace KarelLab

namespace Document

open Checked

/-- Documents that list one world are read as worlds that are alike. -/
theorem alike_of_listsSame {m₁ m₂ : Medium} {j₁ j₂ : Json} {u₁ u₂ w₁ w₂ : World}
    (hl₁ : listed m₁ j₁ = .ok u₁) (hl₂ : listed m₂ j₂ = .ok u₂) (h : u₁.ListsSame u₂)
    (hw₁ : world m₁ j₁ = .ok w₁) (hw₂ : world m₂ j₂ = .ok w₂) : w₁.Alike w₂ := by
  have hnormal₁ : w₁ = u₁.normalize := eq_normalize_of_world hl₁ hw₁
  have hnormal₂ : w₂ = u₂.normalize := eq_normalize_of_world hl₂ hw₂
  have hwell₁ : w₁.WellFormed := wellFormed_of_world hw₁
  have hwell₂ : w₂.WellFormed := wellFormed_of_world hw₂
  rw [hnormal₁] at hwell₁ ⊢
  rw [hnormal₂] at hwell₂ ⊢
  exact h.alike hwell₁ hwell₂

end Document

namespace Playback.Player

open Execution (UnknownPrimitive)

variable {p p' q q' : Player} {R R' : Recording}

/-- Players that were told the same but for the order of walls and piles make recordings that are
alike. -/
theorem reviewed_alike {v w : World} (h : v.Alike w) (hv : v.WellFormed) (hw : w.WellFormed)
    (code : String) (restrictions : Program.Restrictions) (suite : Option Lesson.Suite)
    (budgets : Isolation.Budgets) (isolated : Bool) (d : Nat) :
    Agrees Recording.Alike (start v code restrictions suite budgets isolated d).reviewed
      (start w code restrictions suite budgets isolated d).reviewed := by
  unfold reviewed
  dsimp only [start]
  cases Program.review restrictions code with
  | error e => exact .ok (.of_no_ticks _)
  | ok tree =>
    cases isolated with
    | true =>
      have hr := Isolation.recordIsolated_alike code h hv hw restrictions budgets
        Isolation.defaultTimeout
      exact .ok hr
    | false => exact Execution.record_alike code h restrictions.commands budgets.maxSteps budgets.limit

/-- A run that knows not all commands that its program may use does not begin. -/
theorem runsTo_of_unknown (hi : p.state.status = .idle) {u : UnknownPrimitive}
    (h : p.reviewed = .error u) :
    p.RunsTo (some (.unknownPrimitive u)) { p with generation := p.generation + 1 } := by
  apply runsTo_of_enter_error hi
  unfold reviewed at h
  cases hreview : Program.review p.restrictions p.code with
  | error e =>
    rw [hreview] at h
    cases h
  | ok tree =>
    rw [hreview] at h
    have hrecord : p.record = .error u := h
    have he := p.entered
    generalize p.enter = a at he ⊢
    cases he with
    | resumed hs => exact (hs hi).elim
    | rejected _ hr => cases hr.symm.trans hreview
    | unknown _ hr =>
      cases hr.symm.trans hrecord
      rfl
    | stillborn _ hr _ _ => cases hr.symm.trans hrecord
    | recorded _ hr _ => cases hr.symm.trans hrecord

/-- Runs whose recordings are alike end in the same state. -/
theorem Ended.state_eq (h : p.Ended q R) (h' : p'.Ended q' R') (hR : R.Alike R')
    (hd : p.state.delay = p'.state.delay) : q.state = q'.state := by
  rw [h.state_eq_end, h'.state_eq_end, State.atEnd, State.atEnd, hR.failed_eq, hR.report?_eq,
    hR.size_eq, hR.lastLine_eq, hd]

/-- Runs in worlds that are alike end in one way: with one fault or none, in one state, and in worlds
that are alike. -/
theorem runsTo_alike {v w : World} (h : v.Alike w) (hv : v.WellFormed) (hw : w.WellFormed)
    (code : String) (restrictions : Program.Restrictions) (suite : Option Lesson.Suite)
    (budgets : Isolation.Budgets) (isolated : Bool) {d : Nat} (hd : d ≤ maxDelay) :
    ∃ fault q q', (start v code restrictions suite budgets isolated d).RunsTo fault q ∧
      (start w code restrictions suite budgets isolated d).RunsTo fault q' ∧
        q.state = q'.state ∧ q.world.Alike q'.world := by
  have hready : (start v code restrictions suite budgets isolated d).Ready :=
    ready_start hv code restrictions suite budgets isolated hd
  have hready' : (start w code restrictions suite budgets isolated d).Ready :=
    ready_start hw code restrictions suite budgets isolated hd
  have hreviewed := reviewed_alike h hv hw code restrictions suite budgets isolated d
  cases hR : (start v code restrictions suite budgets isolated d).reviewed with
  | error u =>
    rw [hR] at hreviewed
    generalize hR' : (start w code restrictions suite budgets isolated d).reviewed = y at hreviewed
    cases hreviewed
    exact ⟨_, _, _, runsTo_of_unknown rfl hR, runsTo_of_unknown rfl hR', rfl, h⟩
  | ok R =>
    rw [hR] at hreviewed
    generalize hR' : (start w code restrictions suite budgets isolated d).reviewed = y at hreviewed
    cases hreviewed with
    | ok halike =>
      obtain ⟨q, -, hruns, hend⟩ := hready.runsTo hR
      obtain ⟨q', -, hruns', hend'⟩ := hready'.runsTo hR'
      refine ⟨none, q, q', hruns, hruns', hend.state_eq hend' halike rfl, ?_⟩
      rw [hend.world, hend'.world]
      exact h.shown halike.ticks

end Playback.Player

namespace Document

open Playback Execution

/-- However a document lists a world, it is the same world to a program. Whatever is recorded in the
worlds of two documents that list the same, the recordings have the same ticks and the same error but
for the order of walls and piles in snapshots; and every run of a player in them ends in one state
and in worlds on which all goals agree. -/
theorem listing_never_matters {m₁ m₂ : Medium} {j₁ j₂ : Json} {u₁ u₂ w₁ w₂ : World}
    (hl₁ : listed m₁ j₁ = .ok u₁) (hl₂ : listed m₂ j₂ = .ok u₂) (h : u₁.ListsSame u₂)
    (hw₁ : world m₁ j₁ = .ok w₁) (hw₂ : world m₂ j₂ = .ok w₂) :
    w₁.Alike w₂ ∧
      (∀ (text : String) (allowed : Option (List String)) (maxSteps : Int) (limit : TimeLimit),
        Agrees Recording.Alike (record text ⟨w₁, allowed, maxSteps, limit⟩)
            (record text ⟨w₂, allowed, maxSteps, limit⟩) ∧
          ((∀ names, allowed = some names → ∀ name ∈ names, name ∈ Primitive.names) →
            ∃ r s, record text ⟨w₁, allowed, maxSteps, limit⟩ = .ok r ∧
              record text ⟨w₂, allowed, maxSteps, limit⟩ = .ok s ∧ r.Alike s)) ∧
      ∀ (code : String) (restrictions : Program.Restrictions) (suite : Option Lesson.Suite)
        (budgets : Isolation.Budgets) (isolated : Bool) (d : Nat), d ≤ maxDelay →
        ∃ fault q₁ q₂,
          (Player.start w₁ code restrictions suite budgets isolated d).RunsTo fault q₁ ∧
            (Player.start w₂ code restrictions suite budgets isolated d).RunsTo fault q₂ ∧
              q₁.state = q₂.state ∧ q₁.world.Alike q₂.world ∧
                ∀ g : Goal, g.check q₁.world = g.check q₂.world := by
  have halike : w₁.Alike w₂ := alike_of_listsSame hl₁ hl₂ h hw₁ hw₂
  refine ⟨halike, ?_, ?_⟩
  · intro text allowed maxSteps limit
    have hrecord := record_alike text halike allowed maxSteps limit
    refine ⟨hrecord, ?_⟩
    intro hnames
    obtain ⟨r, hr⟩ := record_isOk text ⟨w₁, allowed, maxSteps, limit⟩ hnames
    obtain ⟨s, hs⟩ := record_isOk text ⟨w₂, allowed, maxSteps, limit⟩ hnames
    rw [hr, hs] at hrecord
    cases hrecord with
    | ok hrs => exact ⟨r, s, hr, hs, hrs⟩
  · intro code restrictions suite budgets isolated d hd
    obtain ⟨fault, q₁, q₂, hruns₁, hruns₂, hstate, hworld⟩ := Player.runsTo_alike halike
      (wellFormed_of_world hw₁) (wellFormed_of_world hw₂) code restrictions suite budgets isolated hd
    exact ⟨fault, q₁, q₂, hruns₁, hruns₂, hstate, hworld, fun g => Goal.check_eq hworld g⟩

def splitPiles : Json :=
  .object [
    ("dimensions", .object [("width", .nat 3), ("height", .nat 1)]),
    ("robot", .object [("position", .object [("x", .nat 1), ("y", .nat 1)])]),
    ("walls", .array [ofWall ⟨.vertical, 2, 1⟩, ofWall ⟨.vertical, 2, 1⟩]),
    ("beeper_piles", .array [ofPile ⟨1, 1, 1⟩, ofPile ⟨3, 1, 2⟩, ofPile ⟨1, 1, 1⟩])]

def joinedPiles : Json :=
  .object [
    ("dimensions", .object [("width", .nat 3), ("height", .nat 1)]),
    ("robot", .object [("position", .object [("x", .nat 1), ("y", .nat 1)])]),
    ("walls", .array [ofWall ⟨.vertical, 2, 1⟩]),
    ("beeper_piles", .array [ofPile ⟨3, 1, 2⟩, ofPile ⟨1, 1, 2⟩])]

/-- Two beepers are taken of a pile that stands first in one listing and last in the other; the step
after the next one is stopped by the wall. -/
theorem listing_never_matters_split_pile :
    ∃ w₁ w₂ : World, world .value splitPiles = .ok w₁ ∧ world .text joinedPiles = .ok w₂ ∧
      w₁.piles ≠ w₂.piles ∧
      ∃ r s, record "pick_beeper()\npick_beeper()\nmove()\nmove()"
          ⟨w₁, none, 10, .seconds Isolation.defaultLimit⟩ = .ok r ∧
        record "pick_beeper()\npick_beeper()\nmove()\nmove()"
          ⟨w₂, none, 10, .seconds Isolation.defaultLimit⟩ = .ok s ∧
        r.ticks.size = 4 ∧ r.failed = true ∧ r.Alike s := by
  let robot : Robot := ⟨⟨1, 1⟩, .east, .holding 0⟩
  let u₁ : World := ⟨3, 1, robot, [⟨.vertical, 2, 1⟩, ⟨.vertical, 2, 1⟩],
    [⟨1, 1, 1⟩, ⟨3, 1, 2⟩, ⟨1, 1, 1⟩]⟩
  let u₂ : World := ⟨3, 1, robot, [⟨.vertical, 2, 1⟩], [⟨3, 1, 2⟩, ⟨1, 1, 2⟩]⟩
  have hsame : u₁.ListsSame u₂ := by
    refine ⟨rfl, rfl, rfl, ?_, ?_⟩
    · intro a
      simp [u₁, u₂]
    · intro c
      by_cases hrobot : (⟨1, 1⟩ : Position) = c <;> by_cases hlast : (⟨3, 1⟩ : Position) = c <;>
        simp [u₁, u₂, World.total_cons, Pile.position, hrobot, hlast]
  have hw₁ : world .value splitPiles = .ok u₁.normalize := rfl
  have hw₂ : world .text joinedPiles = .ok u₂.normalize := rfl
  have hlisted₁ : listed .value splitPiles = .ok u₁ := rfl
  have hlisted₂ : listed .text joinedPiles = .ok u₂ := rfl
  have hall := listing_never_matters hlisted₁ hlisted₂ hsame hw₁ hw₂
  obtain ⟨r, s, hr, hs, halike⟩ := (hall.2.1 "pick_beeper()\npick_beeper()\nmove()\nmove()" none 10
    (.seconds Isolation.defaultLimit)).2 (by simp)
  have heval : ((record "pick_beeper()\npick_beeper()\nmove()\nmove()" ⟨u₁.normalize, none, 10,
      .seconds Isolation.defaultLimit⟩).toOption.map fun r => (r.ticks.size, r.failed)) =
        some (4, true) := by
    decide +kernel
  rw [hr] at heval
  obtain ⟨hsize, hfailed⟩ := Prod.mk.inj (Option.some.inj heval)
  exact ⟨_, _, hw₁, hw₂, by decide, r, s, hr, hs, hsize, hfailed, halike⟩

end Document

end KarelLab
