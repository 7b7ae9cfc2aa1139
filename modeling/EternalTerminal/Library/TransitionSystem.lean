/-
Labelled transition systems and the induction rules for their runs.

A run may be restricted to steps that an `allowed` predicate admits, which is
how a result about all runs that avoid some kind of step is stated.
-/

import Mathlib.Tactic.Common

namespace EternalTerminal.Library

structure TransitionSystem (State Label : Type) where
  initial : State → Prop
  step : State → Label → State → Prop

namespace TransitionSystem

variable {State Label : Type}

/-- The states reached by steps that `allowed` admits. -/
inductive ReachableBy (system : TransitionSystem State Label)
    (allowed : State → Label → Prop) : State → Prop
  | start {state : State} :
      system.initial state → ReachableBy system allowed state
  | next {before after : State} {label : Label} :
      ReachableBy system allowed before → allowed before label →
      system.step before label after → ReachableBy system allowed after

def Reachable (system : TransitionSystem State Label) : State → Prop :=
  system.ReachableBy (fun _ _ => True)

/-- A sequence of steps, with the labels in the order they are taken. -/
inductive Path (system : TransitionSystem State Label) :
    State → List Label → State → Prop
  | refl (state : State) : Path system state [] state
  | cons {before middle after : State} {label : Label} {labels : List Label} :
      system.step before label middle → Path system middle labels after →
      Path system before (label :: labels) after

variable {system : TransitionSystem State Label}
  {allowed permitted : State → Label → Prop} {state before after : State}

theorem ReachableBy.mono (weaker : ∀ state label, allowed state label → permitted state label)
    (reached : system.ReachableBy allowed state) :
    system.ReachableBy permitted state := by
  induction reached with
  | start initial => exact .start initial
  | next _ admitted step ih => exact .next ih (weaker _ _ admitted) step

theorem ReachableBy.reachable (reached : system.ReachableBy allowed state) :
    system.Reachable state :=
  reached.mono (fun _ _ _ => trivial)

theorem Reachable.next {label : Label} (reached : system.Reachable before)
    (step : system.step before label after) : system.Reachable after :=
  ReachableBy.next reached trivial step

theorem ReachableBy.take (reached : system.ReachableBy allowed before) (label : Label)
    (admitted : allowed before label) (step : system.step before label after) :
    system.ReachableBy allowed after :=
  .next reached admitted step

/-- A property of every initial state that admitted steps preserve holds in
every state reached by them. -/
theorem ReachableBy.invariant {property : State → Prop}
    (initially : ∀ state, system.initial state → property state)
    (preserved : ∀ before label after, property before → allowed before label →
      system.step before label after → property after)
    (reached : system.ReachableBy allowed state) : property state := by
  induction reached with
  | start initial => exact initially _ initial
  | next _ admitted step ih => exact preserved _ _ _ ih admitted step

theorem Reachable.invariant {property : State → Prop}
    (initially : ∀ state, system.initial state → property state)
    (preserved : ∀ before label after, property before →
      system.step before label after → property after)
    (reached : system.Reachable state) : property state :=
  ReachableBy.invariant initially
    (fun before label after holds _ step => preserved before label after holds step)
    reached

theorem Path.single {label : Label} (step : system.step before label after) :
    system.Path before [label] after :=
  .cons step (.refl after)

theorem Path.append {middle : State} {first second : List Label}
    (left : system.Path before first middle)
    (right : system.Path middle second after) :
    system.Path before (first ++ second) after := by
  induction left with
  | refl state => exact right
  | cons step _ ih => exact .cons step (ih right)

theorem Path.reachable {labels : List Label} (path : system.Path before labels after)
    (reached : system.Reachable before) : system.Reachable after := by
  induction path with
  | refl state => exact reached
  | cons step _ ih => exact ih (reached.next step)

/-- Where every step lowers a measure, a path is no longer than the measure it starts from. -/
theorem Path.length_le (measure : State → Nat) (invariant : State → Prop)
    (kept : ∀ {before label after}, invariant before → system.step before label after →
      invariant after)
    (lower : ∀ {before label after}, invariant before → system.step before label after →
      measure after < measure before)
    {labels : List Label} (path : system.Path before labels after) (holds : invariant before) :
    invariant after ∧ labels.length + measure after ≤ measure before := by
  induction path with
  | refl state => exact ⟨holds, by simp⟩
  | cons step _ ih =>
      obtain ⟨holdsAfter, rest⟩ := ih (kept holds step)
      have now := lower holds step
      refine ⟨holdsAfter, ?_⟩
      rw [List.length_cons]
      omega

/-! ### What the steps record -/

section

variable {Entry : Type} {record : State → State → List Entry}

/-- The system with what its steps record, in the order of the steps. -/
def recording (system : TransitionSystem State Label) (record : State → State → List Entry) :
    TransitionSystem (State × List Entry) Label where
  initial state := system.initial state.1 ∧ state.2 = []
  step before label after :=
    system.step before.1 label after.1 ∧ after.2 = before.2 ++ record before.1 after.1

theorem ReachableBy.unrecorded {state : State × List Entry}
    (reached : (system.recording record).ReachableBy (fun state => allowed state.1) state) :
    system.ReachableBy allowed state.1 := by
  induction reached with
  | start initial => exact .start initial.1
  | next _ admitted step ih => exact .next ih admitted step.1

theorem ReachableBy.recorded (record : State → State → List Entry)
    (reached : system.ReachableBy allowed state) :
    ∃ entries, (system.recording record).ReachableBy (fun state => allowed state.1)
      (state, entries) := by
  induction reached with
  | start initial => exact ⟨[], .start ⟨initial, rfl⟩⟩
  | @next before after label _ admitted step ih =>
      obtain ⟨entries, reached⟩ := ih
      exact ⟨entries ++ record before after, .next reached admitted ⟨step, rfl⟩⟩

end

end TransitionSystem

end EternalTerminal.Library
