/-
Functions that make steps of a transition system, and the runs that they compute.
-/

import EternalTerminal.Library.Program
import EternalTerminal.Library.TransitionSystem

namespace EternalTerminal.Library

/-! ### Programs -/

/-- A program that is answered by a function ends as it does against any environment that may
answer so. -/
theorem Program.run_interpret {signature : Signature} {Exn α World : Type}
    {answers : World → (operation : signature.Operation) → signature.Answer operation → World →
      Prop}
    {answer : World → (operation : signature.Operation) → signature.Answer operation × World}
    (answered : ∀ world operation,
      answers world operation (answer world operation).1 (answer world operation).2)
    (program : Program signature Exn α) (world : World) :
    Program.Run answers world program (program.interpret answer world).1
      (program.interpret answer world).2 := by
  induction program generalizing world with
  | done value => exact .done world value
  | raise exn => exact .raise world exn
  | abort message => exact .abort world message
  | perform operation next ih => exact .perform (answered world operation) (ih _ _)

/-! ### Runs -/

variable {State Label : Type}

structure Execution (system : TransitionSystem State Label) where
  make : State → Label → Option State
  sound : ∀ before label after, make before label = some after → system.step before label after

namespace Execution

variable {system : TransitionSystem State Label} (execution : Execution system)
  (allowed : State → Label → Prop) [∀ state label, Decidable (allowed state label)]

/-- The state after these steps, if all of them can be taken and are admitted. -/
def run : List Label → State → Option State
  | [], state => some state
  | label :: rest, state =>
      if allowed state label then (execution.make state label).bind (run rest) else none

variable {execution allowed}

theorem run_reaches {labels : List Label} {before after : State}
    (reached : system.ReachableBy allowed before)
    (ran : execution.run allowed labels before = some after) :
    system.ReachableBy allowed after := by
  induction labels generalizing before with
  | nil =>
      cases ran
      exact reached
  | cons label rest ih =>
      rw [run] at ran
      split at ran
      · rename_i admitted
        obtain ⟨next, made, later⟩ := Option.bind_eq_some_iff.mp ran
        exact ih (reached.next admitted (execution.sound before label next made)) later
      · cases ran

variable (execution allowed)

/-- A test that the last state passes is passed by a state that is reached. -/
theorem exists_reached (labels : List Label) (passes : State → Bool) {before : State}
    (reached : system.ReachableBy allowed before)
    (ran : (execution.run allowed labels before).any passes = true) :
    ∃ after, system.ReachableBy allowed after ∧ passes after = true := by
  obtain ⟨after, isLast, passed⟩ := (Option.any_eq_true _ _).mp ran
  exact ⟨after, run_reaches reached isLast, passed⟩

end Execution

end EternalTerminal.Library
