/-
Finite interaction programs.

A program performs operations of a signature one at a time and continues with
the answer it is given.  It ends by returning a value, by raising an exception
that a caller may handle, or by aborting.  Loops that wait for an answer belong
to the operation, so every program is finite and ends as soon as its
operations are answered.
-/

import Mathlib.Tactic.Common

namespace EternalTerminal.Library

/-- The operations a program may perform and the type of each one's answer. -/
structure Signature where
  Operation : Type
  Answer : Operation → Type

inductive Program (signature : Signature) (Exn : Type) (α : Type) where
  | done (value : α)
  | raise (exn : Exn)
  | abort (message : String)
  | perform (operation : signature.Operation)
      (next : signature.Answer operation → Program signature Exn α)

inductive Outcome (Exn : Type) (α : Type) where
  | returned (value : α)
  | raised (exn : Exn)
  | aborted (message : String)
  deriving DecidableEq

namespace Program

variable {signature : Signature} {Exn α β γ : Type}

def bind : Program signature Exn α → (α → Program signature Exn β) →
    Program signature Exn β
  | done value, rest => rest value
  | raise exn, _ => raise exn
  | abort message, _ => abort message
  | perform operation next, rest =>
      perform operation (fun answer => (next answer).bind rest)

/-- Run `handler` on an exception that `body` raises; an abort is not caught. -/
def handle : Program signature Exn α → (Exn → Program signature Exn α) →
    Program signature Exn α
  | done value, _ => done value
  | raise exn, handler => handler exn
  | abort message, _ => abort message
  | perform operation next, handler =>
      perform operation (fun answer => (next answer).handle handler)

instance : Monad (Program signature Exn) where
  pure := done
  bind := bind

instance : MonadExceptOf Exn (Program signature Exn) where
  throw := raise
  tryCatch := handle

@[simp] theorem pure_eq_done (value : α) :
    (pure value : Program signature Exn α) = done value := rfl

@[simp] theorem throw_eq_raise (exn : Exn) :
    (throw exn : Program signature Exn α) = raise exn := rfl

@[simp] theorem tryCatch_eq_handle (body : Program signature Exn α)
    (handler : Exn → Program signature Exn α) :
    tryCatch body handler = body.handle handler := rfl

@[simp] theorem bind_eq (program : Program signature Exn α)
    (rest : α → Program signature Exn β) : program.bind rest = (program >>= rest) := rfl

@[simp] theorem done_bind (value : α) (rest : α → Program signature Exn β) :
    (done value >>= rest) = rest value := rfl

@[simp] theorem raise_bind (exn : Exn) (rest : α → Program signature Exn β) :
    (raise exn >>= rest) = raise exn := rfl

@[simp] theorem abort_bind (message : String)
    (rest : α → Program signature Exn β) :
    (abort message >>= rest) = abort message := rfl

@[simp] theorem perform_bind (operation : signature.Operation)
    (next : signature.Answer operation → Program signature Exn α)
    (rest : α → Program signature Exn β) :
    (perform operation next >>= rest) =
      perform operation (fun answer => next answer >>= rest) := rfl

@[simp] theorem done_handle (value : α)
    (handler : Exn → Program signature Exn α) :
    (done value).handle handler = done value := rfl

@[simp] theorem raise_handle (exn : Exn)
    (handler : Exn → Program signature Exn α) :
    (raise exn).handle handler = handler exn := rfl

@[simp] theorem abort_handle (message : String)
    (handler : Exn → Program signature Exn α) :
    (abort message).handle handler = abort message := rfl

@[simp] theorem perform_handle (operation : signature.Operation)
    (next : signature.Answer operation → Program signature Exn α)
    (handler : Exn → Program signature Exn α) :
    (perform operation next).handle handler =
      perform operation (fun answer => (next answer).handle handler) := rfl

theorem bind_done (program : Program signature Exn α) :
    program >>= done = program := by
  induction program with
  | done value => rfl
  | raise exn => rfl
  | abort message => rfl
  | perform operation next ih =>
      rw [perform_bind]
      congr 1
      funext answer
      exact ih answer

theorem bind_bind (program : Program signature Exn α)
    (first : α → Program signature Exn β)
    (second : β → Program signature Exn γ) :
    program >>= first >>= second = program >>= fun value => first value >>= second := by
  induction program with
  | done value => rfl
  | raise exn => rfl
  | abort message => rfl
  | perform operation next ih =>
      simp only [perform_bind]
      congr 1
      funext answer
      exact ih answer

instance : LawfulMonad (Program signature Exn) :=
  LawfulMonad.mk' (Program signature Exn)
    (fun program => bind_done program)
    (fun _ _ => rfl)
    (fun program first second => bind_bind program first second)

/-! ### The operations of a program -/

inductive Performs (allowed : signature.Operation → Prop) :
    Program signature Exn α → Prop
  | done (value : α) : Performs allowed (done value)
  | raise (exn : Exn) : Performs allowed (raise exn)
  | abort (message : String) : Performs allowed (abort message)
  | perform {operation : signature.Operation}
      {next : signature.Answer operation → Program signature Exn α} :
      allowed operation → (∀ answer, Performs allowed (next answer)) →
      Performs allowed (perform operation next)

theorem Performs.bind {allowed : signature.Operation → Prop}
    {program : Program signature Exn α} {rest : α → Program signature Exn β}
    (first : Performs allowed program) (second : ∀ value, Performs allowed (rest value)) :
    Performs allowed (program >>= rest) := by
  induction first with
  | done value => exact second value
  | raise exn => exact .raise exn
  | abort message => exact .abort message
  | perform permitted _ ih => exact .perform permitted ih

/-- Every value that the program may come to return, whatever it is answered, satisfies the
predicate. -/
inductive Returns (post : α → Prop) : Program signature Exn α → Prop
  | done {value : α} : post value → Returns post (done value)
  | raise (exn : Exn) : Returns post (raise exn)
  | abort (message : String) : Returns post (abort message)
  | perform {operation : signature.Operation}
      {next : signature.Answer operation → Program signature Exn α} :
      (∀ answer, Returns post (next answer)) → Returns post (perform operation next)

namespace Returns

variable {post : α → Prop} {program : Program signature Exn α}

theorem bind {later : β → Prop} {rest : α → Program signature Exn β}
    (first : Returns post program) (second : ∀ value, post value → Returns later (rest value)) :
    Returns later (program >>= rest) := by
  induction first with
  | done holds => exact second _ holds
  | raise exn => exact .raise exn
  | abort message => exact .abort message
  | perform _ ih => exact .perform ih

theorem handle {handler : Exn → Program signature Exn α} (body : Returns post program)
    (caught : ∀ exn, Returns post (handler exn)) : Returns post (program.handle handler) := by
  induction body with
  | done holds => exact .done holds
  | raise exn => exact caught exn
  | abort message => exact .abort message
  | perform _ ih => exact .perform ih

theorem mono {weaker : α → Prop} (returns : Returns post program)
    (implied : ∀ value, post value → weaker value) : Returns weaker program := by
  induction returns with
  | done holds => exact .done (implied _ holds)
  | raise exn => exact .raise exn
  | abort message => exact .abort message
  | perform _ ih => exact .perform ih

theorem always (program : Program signature Exn α) : Returns (fun _ => True) program := by
  induction program with
  | done value => exact .done trivial
  | raise exn => exact .raise exn
  | abort message => exact .abort message
  | perform operation next ih => exact .perform ih

end Returns

/-! ### Runs against an environment -/

/-- `Run answers world program outcome world'`: the program can end with
`outcome` when `answers` says which answers an operation may be given and what
they make of the world. -/
inductive Run {World : Type}
    (answers : World → (operation : signature.Operation) →
      signature.Answer operation → World → Prop) :
    World → Program signature Exn α → Outcome Exn α → World → Prop
  | done (world : World) (value : α) :
      Run answers world (done value) (.returned value) world
  | raise (world : World) (exn : Exn) :
      Run answers world (raise exn) (.raised exn) world
  | abort (world : World) (message : String) :
      Run answers world (abort message) (.aborted message) world
  | perform {world between after : World} {operation : signature.Operation}
      {next : signature.Answer operation → Program signature Exn α}
      {answer : signature.Answer operation} {outcome : Outcome Exn α} :
      answers world operation answer between →
      Run answers between (next answer) outcome after →
      Run answers world (perform operation next) outcome after

section Runs

variable {World : Type}
  {answers : World → (operation : signature.Operation) →
    signature.Answer operation → World → Prop}
  {world after : World}

@[simp] theorem run_done_iff {value : α} {outcome : Outcome Exn α} :
    Run answers world (Program.done value) outcome after ↔
      outcome = .returned value ∧ after = world := by
  constructor
  · intro run
    cases run
    exact ⟨rfl, rfl⟩
  · rintro ⟨rfl, rfl⟩
    exact .done _ _

@[simp] theorem run_raise_iff {exn : Exn} {outcome : Outcome Exn α} :
    Run answers world (Program.raise exn) outcome after ↔
      outcome = .raised exn ∧ after = world := by
  constructor
  · intro run
    cases run
    exact ⟨rfl, rfl⟩
  · rintro ⟨rfl, rfl⟩
    exact .raise _ _

@[simp] theorem run_abort_iff {message : String} {outcome : Outcome Exn α} :
    Run answers world (Program.abort message) outcome after ↔
      outcome = .aborted message ∧ after = world := by
  constructor
  · intro run
    cases run
    exact ⟨rfl, rfl⟩
  · rintro ⟨rfl, rfl⟩
    exact .abort _ _

theorem run_perform_iff {operation : signature.Operation}
    {next : signature.Answer operation → Program signature Exn α}
    {outcome : Outcome Exn α} :
    Run answers world (Program.perform operation next) outcome after ↔
      ∃ answer between, answers world operation answer between ∧
        Run answers between (next answer) outcome after := by
  constructor
  · intro run
    cases run with
    | perform answered rest => exact ⟨_, _, answered, rest⟩
  · rintro ⟨answer, between, answered, rest⟩
    exact .perform answered rest

theorem run_bind_iff {program : Program signature Exn α}
    {rest : α → Program signature Exn β} {outcome : Outcome Exn β} :
    Run answers world (program >>= rest) outcome after ↔
      (∃ value between, Run answers world program (.returned value) between ∧
        Run answers between (rest value) outcome after) ∨
      (∃ exn, outcome = .raised exn ∧
        Run answers world program (.raised exn) after) ∨
      (∃ message, outcome = .aborted message ∧
        Run answers world program (.aborted message) after) := by
  induction program generalizing world with
  | done value => simp
  | raise exn => simp
  | abort message => simp
  | perform operation next ih =>
      simp only [perform_bind, run_perform_iff, ih]
      constructor
      · rintro ⟨answer, between, answered,
          ⟨value, middle, first, second⟩ | ⟨exn, rfl, first⟩ | ⟨message, rfl, first⟩⟩
        · exact Or.inl ⟨value, middle, ⟨answer, between, answered, first⟩, second⟩
        · exact Or.inr (Or.inl ⟨exn, rfl, answer, between, answered, first⟩)
        · exact Or.inr (Or.inr ⟨message, rfl, answer, between, answered, first⟩)
      · rintro (⟨value, middle, ⟨answer, between, answered, first⟩, second⟩ |
          ⟨exn, rfl, answer, between, answered, first⟩ |
          ⟨message, rfl, answer, between, answered, first⟩)
        · exact ⟨answer, between, answered, Or.inl ⟨value, middle, first, second⟩⟩
        · exact ⟨answer, between, answered, Or.inr (Or.inl ⟨exn, rfl, first⟩)⟩
        · exact ⟨answer, between, answered, Or.inr (Or.inr ⟨message, rfl, first⟩)⟩

theorem run_handle_iff {program : Program signature Exn α}
    {handler : Exn → Program signature Exn α} {outcome : Outcome Exn α} :
    Run answers world (program.handle handler) outcome after ↔
      (∃ value, outcome = .returned value ∧
        Run answers world program (.returned value) after) ∨
      (∃ exn between, Run answers world program (.raised exn) between ∧
        Run answers between (handler exn) outcome after) ∨
      (∃ message, outcome = .aborted message ∧
        Run answers world program (.aborted message) after) := by
  induction program generalizing world with
  | done value => simp
  | raise exn => simp
  | abort message => simp
  | perform operation next ih =>
      simp only [perform_handle, run_perform_iff, ih]
      constructor
      · rintro ⟨answer, between, answered,
          ⟨value, rfl, first⟩ | ⟨exn, middle, first, second⟩ | ⟨message, rfl, first⟩⟩
        · exact Or.inl ⟨value, rfl, answer, between, answered, first⟩
        · exact Or.inr (Or.inl ⟨exn, middle, ⟨answer, between, answered, first⟩, second⟩)
        · exact Or.inr (Or.inr ⟨message, rfl, answer, between, answered, first⟩)
      · rintro (⟨value, rfl, answer, between, answered, first⟩ |
          ⟨exn, middle, ⟨answer, between, answered, first⟩, second⟩ |
          ⟨message, rfl, answer, between, answered, first⟩)
        · exact ⟨answer, between, answered, Or.inl ⟨value, rfl, first⟩⟩
        · exact ⟨answer, between, answered, Or.inr (Or.inl ⟨exn, middle, first, second⟩)⟩
        · exact ⟨answer, between, answered, Or.inr (Or.inr ⟨message, rfl, first⟩)⟩

/-- What the allowed operations preserve, a program of such operations preserves. -/
theorem Performs.preserves {allowed : signature.Operation → Prop}
    (property : World → Prop)
    (preserved : ∀ world operation answer next, allowed operation →
      answers world operation answer next → property world → property next)
    {program : Program signature Exn α} {outcome : Outcome Exn α}
    (performs : Performs allowed program)
    (run : Run answers world program outcome after) (holds : property world) :
    property after := by
  induction run with
  | done world value => exact holds
  | raise world exn => exact holds
  | abort world message => exact holds
  | perform answered _ ih =>
      cases performs with
      | perform permitted rest =>
          exact ih (rest _) (preserved _ _ _ _ permitted answered holds)

/-- An environment that matches the answers to the allowed operations lets the program end
in the same way. -/
theorem Run.transport {World' : Type}
    {answers' : World' → (operation : signature.Operation) →
      signature.Answer operation → World' → Prop}
    {allowed : signature.Operation → Prop} {related : World → World' → Prop}
    (matched : ∀ world world' operation answer next, allowed operation →
      related world world' → answers world operation answer next →
      ∃ next', answers' world' operation answer next' ∧ related next next')
    {program : Program signature Exn α} {outcome : Outcome Exn α}
    (run : Run answers world program outcome after) (performs : Performs allowed program)
    {world' : World'} (together : related world world') :
    ∃ after', Run answers' world' program outcome after' ∧ related after after' := by
  induction run generalizing world' with
  | done world value => exact ⟨world', .done _ _, together⟩
  | raise world exn => exact ⟨world', .raise _ _, together⟩
  | abort world message => exact ⟨world', .abort _ _, together⟩
  | perform answered _ ih =>
      cases performs with
      | perform permitted rest =>
          obtain ⟨between', answered', still⟩ :=
            matched _ world' _ _ _ permitted together answered
          obtain ⟨after', run', ended⟩ := ih (rest _) still
          exact ⟨after', .perform answered' run', ended⟩

theorem Returns.of_run {post : α → Prop} {program : Program signature Exn α} {value : α}
    (returns : Returns post program) (run : Run answers world program (.returned value) after) :
    post value := by
  induction returns generalizing world with
  | done holds =>
      cases run
      exact holds
  | raise exn => cases run
  | abort message => cases run
  | perform _ ih =>
      cases run with
      | perform _ rest => exact ih _ rest

theorem Run.bind {program : Program signature Exn α} {rest : α → Program signature Exn β}
    {value : α} {between : World} {outcome : Outcome Exn β}
    (first : Run answers world program (.returned value) between)
    (second : Run answers between (rest value) outcome after) :
    Run answers world (program >>= rest) outcome after :=
  run_bind_iff.mpr (Or.inl ⟨value, between, first, second⟩)

theorem Run.handle_returned {program : Program signature Exn α}
    {handler : Exn → Program signature Exn α} {value : α}
    (body : Run answers world program (.returned value) after) :
    Run answers world (program.handle handler) (.returned value) after :=
  run_handle_iff.mpr (Or.inl ⟨value, rfl, body⟩)

theorem Run.handle_raised {program : Program signature Exn α}
    {handler : Exn → Program signature Exn α} {exn : Exn} {between : World}
    {outcome : Outcome Exn α}
    (body : Run answers world program (.raised exn) between)
    (handled : Run answers between (handler exn) outcome after) :
    Run answers world (program.handle handler) outcome after :=
  run_handle_iff.mpr (Or.inr (Or.inl ⟨exn, between, body, handled⟩))

theorem Run.handle_aborted {program : Program signature Exn α}
    {handler : Exn → Program signature Exn α} {message : String}
    (body : Run answers world program (.aborted message) after) :
    Run answers world (program.handle handler) (.aborted message) after :=
  run_handle_iff.mpr (Or.inr (Or.inr ⟨message, rfl, body⟩))

theorem exists_run (answered : ∀ world operation, ∃ answer next,
      answers world operation answer next)
    (world : World) (program : Program signature Exn α) :
    ∃ outcome after, Run answers world program outcome after := by
  induction program generalizing world with
  | done value => exact ⟨_, _, .done _ _⟩
  | raise exn => exact ⟨_, _, .raise _ _⟩
  | abort message => exact ⟨_, _, .abort _ _⟩
  | perform operation next ih =>
      obtain ⟨answer, between, given⟩ := answered world operation
      obtain ⟨outcome, after, rest⟩ := ih answer between
      exact ⟨outcome, after, .perform given rest⟩

end Runs

/-! ### Runs against a function -/

section Interpretation

variable {World : Type}
  (answer : World → (operation : signature.Operation) → signature.Answer operation × World)

/-- The end of the program when every operation has one answer. -/
def interpret : Program signature Exn α → World → Outcome Exn α × World
  | done value, world => (.returned value, world)
  | raise exn, world => (.raised exn, world)
  | abort message, world => (.aborted message, world)
  | perform operation next, world =>
      interpret (next (answer world operation).1) (answer world operation).2

variable {answer} {world after : World}

@[simp] theorem interpret_done (value : α) :
    (done value : Program signature Exn α).interpret answer world =
      (.returned value, world) := rfl

@[simp] theorem interpret_raise (exn : Exn) :
    (raise exn : Program signature Exn α).interpret answer world = (.raised exn, world) := rfl

@[simp] theorem interpret_abort (message : String) :
    (abort message : Program signature Exn α).interpret answer world =
      (.aborted message, world) := rfl

@[simp] theorem interpret_perform (operation : signature.Operation)
    (next : signature.Answer operation → Program signature Exn α) :
    (perform operation next).interpret answer world =
      (next (answer world operation).1).interpret answer (answer world operation).2 := rfl

theorem interpret_bind (program : Program signature Exn α)
    (rest : α → Program signature Exn β) :
    (program >>= rest).interpret answer world =
      match program.interpret answer world with
      | (.returned value, between) => (rest value).interpret answer between
      | (.raised exn, between) => (.raised exn, between)
      | (.aborted message, between) => (.aborted message, between) := by
  induction program generalizing world with
  | done value => rfl
  | raise exn => rfl
  | abort message => rfl
  | perform operation next ih =>
      rw [perform_bind, interpret_perform, interpret_perform]
      exact ih _

theorem interpret_handle (program : Program signature Exn α)
    (handler : Exn → Program signature Exn α) :
    (program.handle handler).interpret answer world =
      match program.interpret answer world with
      | (.returned value, between) => (.returned value, between)
      | (.raised exn, between) => (handler exn).interpret answer between
      | (.aborted message, between) => (.aborted message, between) := by
  induction program generalizing world with
  | done value => rfl
  | raise exn => rfl
  | abort message => rfl
  | perform operation next ih =>
      rw [perform_handle, interpret_perform, interpret_perform]
      exact ih _

/-- A sequence returns exactly when both of its parts do. -/
theorem interpret_bind_returned {program : Program signature Exn α}
    {rest : α → Program signature Exn β} {result : β} :
    (program >>= rest).interpret answer world = (.returned result, after) ↔
      ∃ value between, program.interpret answer world = (.returned value, between) ∧
        (rest value).interpret answer between = (.returned result, after) := by
  induction program generalizing world with
  | done value =>
      rw [done_bind, interpret_done]
      constructor
      · intro ends
        exact ⟨value, world, rfl, ends⟩
      · intro ⟨_, _, same, ends⟩
        cases same
        exact ends
  | raise exn => simp
  | abort message => simp
  | perform operation next ih =>
      rw [perform_bind, interpret_perform, interpret_perform]
      exact ih _

end Interpretation

end Program

end EternalTerminal.Library
