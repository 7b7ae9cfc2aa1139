/-
Texts that include other texts.

The content of a node is a list of actions on a state and of visits to other nodes.  A run takes
them in order and enters the visited nodes, down to a given depth; it is too deep if there is
more to enter.
-/

import Mathlib.Data.Set.Card
import Mathlib.Logic.Relation

namespace EternalTerminal.Library

section Cycles

variable {Node : Type} {Edge : Node → Node → Prop} {node : Node}

theorem not_self_of_acc {r : Node → Node → Prop} (acc : Acc r node) : ¬ r node node := by
  induction acc with
  | intro node _ ih => exact fun self => ih node self self

theorem acc_of_reflTransGen {again : Node} (acc : Acc (fun next node => Edge node next) node)
    (reached : Relation.ReflTransGen Edge node again) :
    Acc (fun next node => Edge node next) again := by
  induction reached with
  | refl => exact acc
  | tail _ edge ih => exact ih.inv edge

/-- With finitely many nodes that lead on, every way ends unless there is a cycle. -/
theorem acc_iff_no_cycle (finite : {node | ∃ next, Edge node next}.Finite) :
    Acc (fun next node => Edge node next) node ↔
      ¬ ∃ again, Relation.ReflTransGen Edge node again ∧ Relation.TransGen Edge again again := by
  constructor
  · intro acc ⟨again, reached, cycle⟩
    exact not_self_of_acc (acc_of_reflTransGen acc reached).transGen cycle.swap
  · intro acyclic
    induction size : {later | Relation.ReflTransGen Edge node later ∧
        ∃ next, Edge later next}.ncard using Nat.strong_induction_on generalizing node with
    | _ size ih =>
      constructor
      intro next edge
      have acyclicNext : ¬ ∃ again, Relation.ReflTransGen Edge next again ∧
          Relation.TransGen Edge again again := by
        intro ⟨again, reached, cycle⟩
        exact acyclic ⟨again, reached.head edge, cycle⟩
      have fewer : {later | Relation.ReflTransGen Edge next later ∧ ∃ next, Edge later next} ⊂
          {later | Relation.ReflTransGen Edge node later ∧ ∃ next, Edge later next} := by
        constructor
        · intro later ⟨reached, leads⟩
          exact ⟨reached.head edge, leads⟩
        · intro same
          have back := (same ⟨Relation.ReflTransGen.refl, next, edge⟩).1
          exact acyclic ⟨node, Relation.ReflTransGen.refl,
            Relation.TransGen.head' edge back⟩
      have bounded : {later | Relation.ReflTransGen Edge node later ∧
          ∃ next, Edge later next}.Finite :=
        finite.subset fun later isLater => isLater.2
      exact ih _ (size ▸ Set.ncard_lt_ncard fewer bounded) acyclicNext rfl

end Cycles

inductive Item (Action Node : Type) where
  | act (action : Action)
  | visit (node : Node)

inductive Halt (Fault : Type) where
  | fault (fault : Fault)
  | tooDeep
  deriving DecidableEq

namespace Inclusion

variable {Node Action State Fault : Type} (content : Node → List (Item Action Node))
  (exec : State → Action → Except Fault State)

def step (enter : State → Node → Except (Halt Fault) State) (state : State) :
    Item Action Node → Except (Halt Fault) State
  | .act action => (exec state action).mapError .fault
  | .visit node => enter state node

def run : Nat → State → Node → Except (Halt Fault) State
  | 0, _, _ => .error .tooDeep
  | depth + 1, state, node => (content node).foldlM (step exec (run depth)) state

/-- The actions in the order in which they are met, `none` where it is too deep. -/
def walk : Nat → Node → List (Option Action)
  | 0, _ => [none]
  | depth + 1, node => (content node).flatMap fun item =>
      match item with
      | .act action => [some action]
      | .visit node => walk depth node

def perform (state : State) : Option Action → Except (Halt Fault) State
  | some action => (exec state action).mapError .fault
  | none => .error .tooDeep

def met : List (Option Action) → List Action
  | some action :: rest => action :: met rest
  | _ => []

def Visits (parent child : Node) : Prop := .visit child ∈ content parent

section

variable {content exec} {depth more : Nat} {state after : State} {node : Node}
  {items : List (Item Action Node)} {enter deeper : State → Node → Except (Halt Fault) State}

/-! ### Deeper runs -/

theorem foldlM_deeper
    (agree : ∀ state node, enter state node ≠ .error .tooDeep →
      deeper state node = enter state node)
    (done : items.foldlM (step exec enter) state ≠ .error .tooDeep) :
    items.foldlM (step exec deeper) state = items.foldlM (step exec enter) state := by
  induction items generalizing state with
  | nil => rfl
  | cons item rest ih =>
      rw [List.foldlM_cons] at done ⊢
      rw [List.foldlM_cons]
      have same : step exec deeper state item = step exec enter state item := by
        cases item with
        | act action => rfl
        | visit node =>
            apply agree
            intro tooDeep
            apply done
            change enter state node >>= _ = _
            rw [tooDeep]
            rfl
      rw [same]
      cases first : step exec enter state item with
      | error halt => rfl
      | ok between =>
          rw [first] at done
          exact ih done

theorem run_succ (done : run content exec depth state node ≠ .error .tooDeep) :
    run content exec (depth + 1) state node = run content exec depth state node := by
  induction depth generalizing state node with
  | zero => exact absurd rfl done
  | succ depth ih => exact foldlM_deeper (fun state node => ih) done

theorem run_mono (le : depth ≤ more) (done : run content exec depth state node ≠ .error .tooDeep) :
    run content exec more state node = run content exec depth state node := by
  induction le with
  | refl => rfl
  | step _ ih =>
      rw [← ih] at done
      rw [run_succ done, ih]

/-! ### When a run ends -/

theorem foldlM_not_tooDeep
    (ends : ∀ child, .visit child ∈ items → ∀ state, enter state child ≠ .error .tooDeep) :
    items.foldlM (step exec enter) state ≠ .error .tooDeep := by
  induction items generalizing state with
  | nil => exact fun impossible => by cases impossible
  | cons item rest ih =>
      have first : step exec enter state item ≠ .error .tooDeep := by
        cases item with
        | act action =>
            cases done : exec state action with
            | ok after => simp [step, done, Except.mapError]
            | error fault => simp [step, done, Except.mapError]
        | visit child => exact ends child List.mem_cons_self state
      rw [List.foldlM_cons]
      cases begins : step exec enter state item with
      | error halt =>
          rw [begins] at first
          exact first
      | ok between => exact ih fun child later => ends child (List.mem_cons_of_mem item later)

theorem exists_depth_of_forall
    (ends : ∀ child, .visit child ∈ items →
      ∃ depth, ∀ state, run content exec depth state child ≠ .error .tooDeep) :
    ∃ depth, ∀ child, .visit child ∈ items →
      ∀ state, run content exec depth state child ≠ .error .tooDeep := by
  induction items with
  | nil => exact ⟨0, fun child impossible => by cases impossible⟩
  | cons item rest ih =>
      obtain ⟨depth, later⟩ :=
        ih fun child isLater => ends child (List.mem_cons_of_mem item isLater)
      have first : ∃ depth, ∀ child, item = .visit child →
          ∀ state, run content exec depth state child ≠ .error .tooDeep := by
        cases item with
        | act action => exact ⟨0, fun child impossible => by cases impossible⟩
        | visit node =>
            obtain ⟨depth, endsHere⟩ := ends node List.mem_cons_self
            exact ⟨depth, fun child same => by cases same; exact endsHere⟩
      obtain ⟨firstDepth, first⟩ := first
      refine ⟨max depth firstDepth, ?_⟩
      intro child isChild state
      cases isChild with
      | head =>
          have ends := first child rfl state
          rw [run_mono (le_max_right depth firstDepth) ends]
          exact ends
      | tail _ isLater =>
          have ends := later child isLater state
          rw [run_mono (le_max_left depth firstDepth) ends]
          exact ends

theorem exists_depth_of_acc (exec : State → Action → Except Fault State)
    (acc : Acc (fun child parent => Visits content parent child) node) :
    ∃ depth, ∀ state, run content exec depth state node ≠ .error .tooDeep := by
  induction acc with
  | intro node _ ih =>
      obtain ⟨depth, ends⟩ := exists_depth_of_forall ih
      exact ⟨depth + 1, fun state => foldlM_not_tooDeep ends⟩

theorem visit_ok_of_foldlM_ok (done : items.foldlM (step exec enter) state = .ok after)
    {child : Node} (isChild : .visit child ∈ items) :
    ∃ before later, enter before child = .ok later := by
  induction items generalizing state with
  | nil => cases isChild
  | cons item rest ih =>
      rw [List.foldlM_cons] at done
      cases first : step exec enter state item with
      | error halt =>
          rw [first] at done
          cases done
      | ok between =>
          rw [first] at done
          cases isChild with
          | head => exact ⟨state, between, first⟩
          | tail _ isLater => exact ih done isLater

theorem acc_of_run_ok (done : run content exec depth state node = .ok after) :
    Acc (fun child parent => Visits content parent child) node := by
  induction depth generalizing state node after with
  | zero => cases done
  | succ depth ih =>
      constructor
      intro child isChild
      obtain ⟨before, later, entered⟩ := visit_ok_of_foldlM_ok done isChild
      exact ih entered

/-! ### The actions of a run -/

theorem run_eq_walk :
    run content exec depth state node = (walk content depth node).foldlM (perform exec) state := by
  induction depth generalizing state node with
  | zero => rfl
  | succ depth ih =>
      rw [run, walk]
      induction content node generalizing state with
      | nil => rfl
      | cons item rest inner =>
          rw [List.foldlM_cons, List.flatMap_cons, List.foldlM_append]
          cases item with
          | act action =>
              have single : [some action].foldlM (perform exec) state =
                  (exec state action).mapError Halt.fault := bind_pure _
              change (exec state action).mapError Halt.fault >>= _ = _
              rw [single]
              exact bind_congr fun between => inner
          | visit node =>
              change run content exec depth state node >>= _ = _
              rw [ih]
              exact bind_congr fun between => inner

theorem foldlM_perform_fault_iff {actions : List (Option Action)} {fault : Fault} :
    actions.foldlM (perform exec) state = .error (.fault fault) ↔
      (met actions).foldlM exec state = .error fault := by
  induction actions generalizing state with
  | nil => simp [met, pure, Except.pure]
  | cons action rest ih =>
      cases action with
      | none => simp [met, perform, pure, Except.pure, bind, Except.bind]
      | some action =>
          rw [met, List.foldlM_cons, List.foldlM_cons, perform]
          cases done : exec state action with
          | error other => simp [Except.mapError, bind, Except.bind]
          | ok between => exact ih

/-- The first action that comes to a fault does so where the ones before it have led. -/
theorem foldlM_error_iff {actions : List Action} :
    (∃ fault, actions.foldlM exec state = .error fault) ↔
      ∃ front action rest between, actions = front ++ action :: rest ∧
        front.foldlM exec state = .ok between ∧ ∃ fault, exec between action = .error fault := by
  induction actions generalizing state with
  | nil =>
      constructor
      · rintro ⟨_, ⟨⟩⟩
      · rintro ⟨front, _, _, _, isNil, _⟩
        cases front <;> cases isNil
  | cons action rest ih =>
      rw [List.foldlM_cons]
      cases done : exec state action with
      | error fault =>
          exact iff_of_true ⟨fault, rfl⟩ ⟨[], action, rest, state, rfl, rfl, fault, done⟩
      | ok next =>
          refine Iff.trans ih ⟨?_, ?_⟩
          · rintro ⟨front, other, later, between, rfl, ran, fails⟩
            refine ⟨action :: front, other, later, between, rfl, ?_, fails⟩
            rw [List.foldlM_cons, done]
            exact ran
          · rintro ⟨front, other, later, between, isFront, ran, fails⟩
            cases front with
            | nil =>
                cases isFront
                cases ran
                obtain ⟨fault, isFault⟩ := fails
                cases done.symm.trans isFault
            | cons first front =>
                cases isFront
                rw [List.foldlM_cons, done] at ran
                exact ⟨front, other, later, between, rfl, ran, fails⟩

/-- A run ends if every way down ends, or if what it meets comes to a fault. -/
theorem run_ends_iff :
    (∃ depth, run content exec depth state node ≠ .error .tooDeep) ↔
      Acc (fun child parent => Visits content parent child) node ∨
        ∃ depth fault, (met (walk content depth node)).foldlM exec state = .error fault := by
  constructor
  · intro ⟨depth, ends⟩
    cases ended : run content exec depth state node with
    | ok after => exact Or.inl (acc_of_run_ok ended)
    | error halt =>
        cases halt with
        | tooDeep => exact absurd ended ends
        | fault fault =>
            rw [run_eq_walk, foldlM_perform_fault_iff] at ended
            exact Or.inr ⟨depth, fault, ended⟩
  · intro holds
    rcases holds with acc | ⟨depth, fault, faults⟩
    · obtain ⟨depth, ends⟩ := exists_depth_of_acc exec acc
      exact ⟨depth, ends state⟩
    · refine ⟨depth, ?_⟩
      rw [run_eq_walk, foldlM_perform_fault_iff.mpr faults]
      exact fun impossible => by cases impossible

end

end Inclusion

end EternalTerminal.Library
