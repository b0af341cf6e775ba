import KarelLab.Proofs.Execution.Dialogue

namespace KarelLab.Execution

open Program

/-- What is watched of a log: what holds while a program runs, and what holds once it has ended with
a fault. Commands lead from the one to the other, and so do the faults of the program's own. -/
structure Watch where
  during : Log → Prop
  stopped : Fault → Log → Prop
  of_command : ∀ (log : Log) (p : Primitive) (line : Nat), during log →
    match log.command p (some line) with
    | (.ok _, after) => during after
    | (.error f, after) => stopped (.ofCommand f (some line)) after
  of_own : ∀ (log : Log) (f : Fault), f.Own → during log → stopped f log

namespace Watch

/-- What is watched of a log holds after a dialogue with it. -/
theorem finish (W : Watch) {α : Type} (d : Dialogue α) {log : Log} (h : W.during log) :
    match d.finish log with
    | (none, after) => W.during after
    | (some f, after) => W.stopped f after := by
  induction d generalizing log with
  | done a m => exact h
  | failed f own m => exact W.of_own log f own h
  | command p line m next ih =>
    have hc := W.of_command log p line h
    rw [Dialogue.finish_command]
    cases ha : log.command p (some line) with
    | mk answer after =>
      rw [ha] at hc
      cases answer with
      | ok a => exact ih a hc
      | error f => exact hc

/-- However a program ends, what every command keeps holds of the log that it leaves. -/
theorem execute (W : Watch) (s : Session) (text : String) (h : W.during s.log) :
    match s.execute text with
    | (none, t) => W.during t.log
    | (some f, t) => W.stopped f t.log := by
  obtain ⟨d, hd⟩ := s.execute_scripted text
  have hlog : ((s.execute text).1, (s.execute text).2.log) = d.finish s.log := hd s.log
  have hkept := W.finish d h
  rw [← hlog] at hkept
  cases he : s.execute text with
  | mk fault t =>
    rw [he] at hkept
    cases fault <;> exact hkept

end Watch

end KarelLab.Execution
