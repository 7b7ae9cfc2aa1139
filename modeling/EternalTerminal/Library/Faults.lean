/-
Faults: steps that a system leaves out.

A fault may leave the state as it is.  A run all of whose faults do is a run of the system
without them.
-/

import EternalTerminal.Library.TransitionSystem

namespace EternalTerminal.Library.TransitionSystem

variable {State Label Fault : Type}

def withFaults (system : TransitionSystem State Label)
    (fault : State → Fault → State → Prop) : TransitionSystem State (Label ⊕ Fault) where
  initial := system.initial
  step
    | before, .inl label, after => system.step before label after
    | before, .inr kind, after => fault before kind after

variable {system : TransitionSystem State Label} {fault : State → Fault → State → Prop}
  {allowed : State → Label ⊕ Fault → Prop} {state : State}

theorem ReachableBy.nextStep {after : State} {label : Label}
    (reached : (system.withFaults fault).ReachableBy allowed state)
    (admitted : allowed state (.inl label)) (step : system.step state label after) :
    (system.withFaults fault).ReachableBy allowed after :=
  reached.take (.inl label) admitted step

theorem ReachableBy.nextFault {after : State} {kind : Fault}
    (reached : (system.withFaults fault).ReachableBy allowed state)
    (admitted : allowed state (.inr kind)) (happens : fault state kind after) :
    (system.withFaults fault).ReachableBy allowed after :=
  reached.take (.inr kind) admitted happens

theorem ReachableBy.faultless
    (idle : ∀ before kind after, allowed before (.inr kind) → fault before kind after →
      after = before)
    (reached : (system.withFaults fault).ReachableBy allowed state) :
    system.ReachableBy (fun state label => allowed state (.inl label)) state := by
  induction reached with
  | start initial => exact .start initial
  | @next before after label _ admitted step ih =>
      cases label with
      | inl label => exact .next ih admitted step
      | inr kind =>
          rw [idle before kind after admitted step]
          exact ih

theorem ReachableBy.withFaults
    (reached : system.ReachableBy (fun state label => allowed state (.inl label)) state) :
    (system.withFaults fault).ReachableBy allowed state := by
  induction reached with
  | start initial => exact .start initial
  | next _ admitted step ih => exact ih.nextStep admitted step

end EternalTerminal.Library.TransitionSystem
