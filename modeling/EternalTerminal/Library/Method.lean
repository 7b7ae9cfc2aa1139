/-
Methods of an object.

A method performs the operations of a signature and may read and replace the
state of its object in between.  The state is part of the world of a run, so
an exception leaves it as it is at that point and a handler goes on from there.
-/

import EternalTerminal.Library.Program

namespace EternalTerminal.Library

inductive MethodCall (signature : Signature) (State : Type) where
  | call (operation : signature.Operation)
  | get
  | set (state : State)

namespace MethodCall

variable {signature : Signature} {State : Type}

def Answer : MethodCall signature State → Type
  | call operation => signature.Answer operation
  | get => State
  | set _ => Unit

end MethodCall

abbrev Signature.methods (signature : Signature) (State : Type) : Signature :=
  { Operation := MethodCall signature State
    Answer := MethodCall.Answer }

abbrev Method (signature : Signature) (State Exn : Type) :=
  Program (signature.methods State) Exn

namespace Method

variable {signature : Signature} {State Exn α β : Type}

def get : Method signature State Exn State :=
  .perform .get .done

def set (state : State) : Method signature State Exn Unit :=
  .perform (.set state) .done

def call : Program signature Exn α → Method signature State Exn α
  | .done value => .done value
  | .raise exn => .raise exn
  | .abort message => .abort message
  | .perform operation next => .perform (.call operation) (fun answer => call (next answer))

section Runs

variable {World : Type}
  {given : World → (operation : signature.Operation) →
    signature.Answer operation → World → Prop}
  {world : World} {state : State} {after : World × State}

def answers (given : World → (operation : signature.Operation) →
      signature.Answer operation → World → Prop) :
    World × State → (operation : MethodCall signature State) → operation.Answer →
      World × State → Prop
  | before, .call operation, answer, after =>
      given before.1 operation answer after.1 ∧ after.2 = before.2
  | before, .get, answer, after => answer = before.2 ∧ after = before
  | before, .set state, _, after => after = (before.1, state)

theorem run_call_iff {program : Program signature Exn α} {outcome : Outcome Exn α} :
    Program.Run (answers given) (world, state) (call program) outcome after ↔
      Program.Run given world program outcome after.1 ∧ after.2 = state := by
  induction program generalizing world with
  | done value =>
      rw [call, Program.run_done_iff, Program.run_done_iff, Prod.ext_iff, and_assoc]
  | raise exn =>
      rw [call, Program.run_raise_iff, Program.run_raise_iff, Prod.ext_iff, and_assoc]
  | abort message =>
      rw [call, Program.run_abort_iff, Program.run_abort_iff, Prod.ext_iff, and_assoc]
  | perform operation next ih =>
      rw [call, Program.run_perform_iff, Program.run_perform_iff]
      constructor
      · intro ⟨answer, between, ⟨answered, same⟩, rest⟩
        have whole : between = (between.1, state) := Prod.ext rfl same
        rw [whole] at rest
        obtain ⟨ran, unchanged⟩ := (ih answer).mp rest
        exact ⟨⟨answer, between.1, answered, ran⟩, unchanged⟩
      · intro ⟨⟨answer, between, answered, rest⟩, same⟩
        exact ⟨answer, (between, state), ⟨answered, rfl⟩, (ih answer).mpr ⟨rest, same⟩⟩

@[simp] theorem run_get_bind_iff {next : State → Method signature State Exn α}
    {outcome : Outcome Exn α} :
    Program.Run (answers given) (world, state) (get >>= next) outcome after ↔
      Program.Run (answers given) (world, state) (next state) outcome after := by
  constructor
  · intro run
    obtain ⟨answer, between, ⟨rfl, rfl⟩, rest⟩ := Program.run_perform_iff.mp run
    exact rest
  · intro rest
    exact Program.run_perform_iff.mpr ⟨state, (world, state), ⟨rfl, rfl⟩, rest⟩

@[simp] theorem run_set_bind_iff {replacement : State}
    {next : Unit → Method signature State Exn α} {outcome : Outcome Exn α} :
    Program.Run (answers given) (world, state) (set replacement >>= next) outcome after ↔
      Program.Run (answers given) (world, replacement) (next ()) outcome after := by
  constructor
  · intro run
    obtain ⟨answer, between, same, rest⟩ := Program.run_perform_iff.mp run
    cases same
    exact rest
  · intro rest
    exact Program.run_perform_iff.mpr ⟨(), (world, replacement), rfl, rest⟩

theorem run_call_bind_iff {program : Program signature Exn α}
    {next : α → Method signature State Exn β} {outcome : Outcome Exn β} :
    Program.Run (answers given) (world, state) (call program >>= next) outcome after ↔
      (∃ value between, Program.Run given world program (.returned value) between ∧
        Program.Run (answers given) (between, state) (next value) outcome after) ∨
      (∃ exn, outcome = .raised exn ∧ Program.Run given world program (.raised exn) after.1 ∧
        after.2 = state) ∨
      (∃ message, outcome = .aborted message ∧
        Program.Run given world program (.aborted message) after.1 ∧ after.2 = state) := by
  rw [Program.run_bind_iff]
  simp only [run_call_iff]
  constructor
  · intro ended
    rcases ended with ⟨value, between, ⟨first, same⟩, rest⟩ | raised | aborted
    · have whole : between = (between.1, state) := Prod.ext rfl same
      rw [whole] at rest
      exact Or.inl ⟨value, between.1, first, rest⟩
    · exact Or.inr (Or.inl raised)
    · exact Or.inr (Or.inr aborted)
  · intro ended
    rcases ended with ⟨value, between, first, rest⟩ | raised | aborted
    · exact Or.inl ⟨value, (between, state), ⟨first, rfl⟩, rest⟩
    · exact Or.inr (Or.inl raised)
    · exact Or.inr (Or.inr aborted)

end Runs

/-! ### All or nothing -/

/-- From this state, the method does what the program computes: it replaces the state only by
returning, and leaves it alone when it ends otherwise. -/
structure Atomic (state : State) (method : Method signature State Exn α)
    (program : Program signature Exn (α × State)) : Prop where
  run_iff : ∀ {World : Type} (given : World → (operation : signature.Operation) →
      signature.Answer operation → World → Prop) (world : World) (outcome : Outcome Exn α)
    (after : World × State),
    Program.Run (answers given) (world, state) method outcome after ↔
      match outcome with
      | .returned value => Program.Run given world program (.returned (value, after.2)) after.1
      | .raised exn => Program.Run given world program (.raised exn) after.1 ∧ after.2 = state
      | .aborted message =>
          Program.Run given world program (.aborted message) after.1 ∧ after.2 = state

/-- From this state, the method returns the value and leaves the other state, without any
operation. -/
structure Commits (state : State) (method : Method signature State Exn α) (value : α)
    (replacement : State) : Prop where
  run_iff : ∀ {World : Type} (given : World → (operation : signature.Operation) →
      signature.Answer operation → World → Prop) (world : World) (outcome : Outcome Exn α)
    (after : World × State),
    Program.Run (answers given) (world, state) method outcome after ↔
      outcome = .returned value ∧ after = (world, replacement)

namespace Commits

variable {state replacement final : State} {value : α}

theorem done (value : α) (state : State) :
    Commits state (.done value : Method signature State Exn α) value state :=
  ⟨fun _ _ _ _ => Program.run_done_iff⟩

theorem get_bind {next : State → Method signature State Exn α}
    (rest : Commits state (next state) value final) :
    Commits state (get >>= next) value final := by
  refine ⟨fun {World} given world outcome after => ?_⟩
  rw [run_get_bind_iff]
  exact rest.run_iff given world outcome after

theorem set_bind {next : Unit → Method signature State Exn α}
    (rest : Commits replacement (next ()) value final) :
    Commits state (set replacement >>= next) value final := by
  refine ⟨fun {World} given world outcome after => ?_⟩
  rw [run_set_bind_iff]
  exact rest.run_iff given world outcome after

end Commits

namespace Atomic

variable {state replacement : State} {value : α}

theorem done (value : α) (state : State) :
    Atomic state (.done value : Method signature State Exn α) (.done (value, state)) := by
  refine ⟨fun {World} given world outcome after => ?_⟩
  cases outcome with
  | returned result =>
      simp only [Program.run_done_iff, Outcome.returned.injEq, Prod.ext_iff]
      constructor
      · intro reached
        obtain ⟨same, kept, rest⟩ := reached
        exact ⟨⟨same, rest⟩, kept⟩
      · intro reached
        obtain ⟨⟨same, rest⟩, kept⟩ := reached
        exact ⟨same, kept, rest⟩
  | raised exn => simp
  | aborted message => simp

theorem raise (exn : Exn) (state : State) :
    Atomic state (.raise exn : Method signature State Exn α) (.raise exn) := by
  refine ⟨fun {World} given world outcome after => ?_⟩
  cases outcome with
  | returned result => simp
  | raised other => simp [Prod.ext_iff, and_assoc]
  | aborted message => simp

theorem abort (message : String) (state : State) :
    Atomic state (.abort message : Method signature State Exn α) (.abort message) := by
  refine ⟨fun {World} given world outcome after => ?_⟩
  cases outcome with
  | returned result => simp
  | raised exn => simp
  | aborted other => simp [Prod.ext_iff, and_assoc]

/-- What cannot fail replaces the state at once, however many steps it takes. -/
theorem of_commits {method : Method signature State Exn α}
    (commits : Commits state method value replacement) :
    Atomic state method (.done (value, replacement)) := by
  refine ⟨fun {World} given world outcome after => ?_⟩
  have doneAtomic : Atomic replacement (.done value : Method signature State Exn α)
      (.done (value, replacement)) := done value replacement
  have committed := doneAtomic.run_iff given world outcome after
  rw [commits.run_iff given world outcome after, ← Program.run_done_iff, committed]
  cases outcome with
  | returned result => rfl
  | raised exn => simp
  | aborted message => simp

theorem get_bind {next : State → Method signature State Exn α}
    {program : Program signature Exn (α × State)} (rest : Atomic state (next state) program) :
    Atomic state (get >>= next) program := by
  refine ⟨fun {World} given world outcome after => ?_⟩
  rw [run_get_bind_iff]
  exact rest.run_iff given world outcome after

theorem call_bind {first : Program signature Exn α} {next : α → Method signature State Exn β}
    {later : α → Program signature Exn (β × State)}
    (rest : ∀ value, Atomic state (next value) (later value)) :
    Atomic state (call first >>= next) (first >>= later) := by
  refine ⟨fun {World} given world outcome after => ?_⟩
  rw [run_call_bind_iff]
  cases outcome with
  | returned result =>
      simp only [Program.run_bind_iff, (rest _).run_iff given _ _ after]
      simp
  | raised exn =>
      simp only [Program.run_bind_iff, (rest _).run_iff given _ _ after]
      constructor
      · intro ended
        rcases ended with ⟨value, between, ran, later, same⟩ | ⟨_, ⟨⟩, ran, kept⟩ | ⟨_, ⟨⟩, _⟩
        · exact ⟨Or.inl ⟨value, between, ran, later⟩, same⟩
        · exact ⟨Or.inr (Or.inl ⟨_, rfl, ran⟩), kept⟩
      · intro ended
        rcases ended with ⟨⟨value, between, ran, later⟩ | ⟨_, ⟨⟩, ran⟩ | ⟨_, ⟨⟩, _⟩, kept⟩
        · exact Or.inl ⟨value, between, ran, later, kept⟩
        · exact Or.inr (Or.inl ⟨_, rfl, ran, kept⟩)
  | aborted message =>
      simp only [Program.run_bind_iff, (rest _).run_iff given _ _ after]
      constructor
      · intro ended
        rcases ended with ⟨value, between, ran, later, same⟩ | ⟨_, ⟨⟩, _⟩ | ⟨_, ⟨⟩, ran, kept⟩
        · exact ⟨Or.inl ⟨value, between, ran, later⟩, same⟩
        · exact ⟨Or.inr (Or.inr ⟨_, rfl, ran⟩), kept⟩
      · intro ended
        rcases ended with ⟨⟨value, between, ran, later⟩ | ⟨_, ⟨⟩, _⟩ | ⟨_, ⟨⟩, ran⟩, kept⟩
        · exact Or.inl ⟨value, between, ran, later, kept⟩
        · exact Or.inr (Or.inr ⟨_, rfl, ran, kept⟩)

/-- The handler of an atomic body starts from the state that the body started from. -/
theorem handle {body : Method signature State Exn α}
    {handler : Exn → Method signature State Exn α}
    {program : Program signature Exn (α × State)}
    {handling : Exn → Program signature Exn (α × State)}
    (tried : Atomic state body program)
    (caught : ∀ exn, Atomic state (handler exn) (handling exn)) :
    Atomic state (body.handle handler) (program.handle handling) := by
  refine ⟨fun {World} given world outcome after => ?_⟩
  have handled : ∀ exn, (∃ between, Program.Run (answers given) (world, state) body
        (.raised exn) between ∧
        Program.Run (answers given) between (handler exn) outcome after) ↔
      ∃ between, Program.Run given world program (.raised exn) between ∧
        Program.Run (answers given) (between, state) (handler exn) outcome after := by
    intro exn
    constructor
    · intro ⟨between, raised, rest⟩
      obtain ⟨ran, same⟩ := (tried.run_iff given world _ between).mp raised
      have whole : between = (between.1, state) := Prod.ext rfl same
      rw [whole] at rest
      exact ⟨between.1, ran, rest⟩
    · intro ⟨between, ran, rest⟩
      exact ⟨(between, state), (tried.run_iff given world _ _).mpr ⟨ran, rfl⟩, rest⟩
  rw [Program.run_handle_iff]
  simp only [handled, tried.run_iff given world _ after]
  cases outcome with
  | returned result =>
      simp only [Program.run_handle_iff, (caught _).run_iff given _ _ after]
      simp
  | raised exn =>
      simp only [Program.run_handle_iff, (caught _).run_iff given _ _ after]
      constructor
      · intro ended
        rcases ended with ⟨_, ⟨⟩, _⟩ | ⟨other, between, ran, rest, kept⟩ | ⟨_, ⟨⟩, _⟩
        exact ⟨Or.inr (Or.inl ⟨other, between, ran, rest⟩), kept⟩
      · intro ended
        rcases ended with ⟨⟨_, ⟨⟩, _⟩ | ⟨other, between, ran, rest⟩ | ⟨_, ⟨⟩, _⟩, kept⟩
        exact Or.inr (Or.inl ⟨other, between, ran, rest, kept⟩)
  | aborted message =>
      simp only [Program.run_handle_iff, (caught _).run_iff given _ _ after]
      constructor
      · intro ended
        rcases ended with ⟨_, ⟨⟩, _⟩ | ⟨other, between, ran, rest, kept⟩ | ⟨_, ⟨⟩, ran, kept⟩
        · exact ⟨Or.inr (Or.inl ⟨other, between, ran, rest⟩), kept⟩
        · exact ⟨Or.inr (Or.inr ⟨_, rfl, ran⟩), kept⟩
      · intro ended
        rcases ended with ⟨⟨_, ⟨⟩, _⟩ | ⟨other, between, ran, rest⟩ | ⟨_, ⟨⟩, ran⟩, kept⟩
        · exact Or.inr (Or.inl ⟨other, between, ran, rest, kept⟩)
        · exact Or.inr (Or.inr ⟨_, rfl, ran, kept⟩)

end Atomic

end Method

end EternalTerminal.Library
