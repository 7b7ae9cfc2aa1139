/-
Fallible steps one after another: the first failure is the outcome of all.
-/

import Mathlib.Data.List.Forall2

namespace EternalTerminal.Library

variable {ε α β : Type}

/-- The results of `step` on a list, in order, or the first failure. -/
def collect (step : α → Except ε (List β)) : List α → Except ε (List β)
  | [] => .ok []
  | first :: rest =>
      match step first with
      | .error failure => .error failure
      | .ok results =>
          match collect step rest with
          | .error failure => .error failure
          | .ok more => .ok (results ++ more)

section

variable {step : α → Except ε (List β)} {inputs : List α} {results : List β} {failure : ε}

theorem collect_ok_iff :
    collect step inputs = .ok results ↔
      ∃ parts, List.Forall₂ (fun input part => step input = .ok part) inputs parts ∧
        results = parts.flatten := by
  induction inputs generalizing results with
  | nil => simp [collect, eq_comm]
  | cons first rest ih =>
      cases taken : step first with
      | error failure =>
          simp only [collect, taken, reduceCtorEq, false_iff]
          intro ⟨parts, all, _⟩
          cases all with
          | cons head tail => cases taken.symm.trans head
      | ok part =>
          cases later : collect step rest with
          | error failure =>
              have none : ¬ ∃ parts, List.Forall₂ (fun input part => step input = .ok part)
                  rest parts := by
                intro ⟨parts, all⟩
                cases later.symm.trans (ih.mpr ⟨parts, all, rfl⟩)
              simp only [collect, taken, later, reduceCtorEq, false_iff]
              intro ⟨parts, all, _⟩
              cases all with
              | cons _ all => exact none ⟨_, all⟩
          | ok more =>
              obtain ⟨parts, all, flat⟩ := ih.mp later
              simp only [collect, taken, later, Except.ok.injEq]
              constructor
              · intro same
                exact ⟨part :: parts, .cons taken all, by rw [← same, flat, List.flatten_cons]⟩
              · intro ⟨others, allOthers, flatOthers⟩
                cases allOthers with
                | cons head tail =>
                    cases taken.symm.trans head
                    cases later.symm.trans (ih.mpr ⟨_, tail, rfl⟩)
                    rw [flatOthers, List.flatten_cons]

theorem collect_error_iff :
    collect step inputs = .error failure ↔
      ∃ before input after, inputs = before ++ input :: after ∧
        (∀ earlier ∈ before, ∃ part, step earlier = .ok part) ∧ step input = .error failure := by
  induction inputs with
  | nil => simp [collect]
  | cons first rest ih =>
      cases taken : step first with
      | error other =>
          simp only [collect, taken, Except.error.injEq]
          constructor
          · intro same
            refine ⟨[], first, rest, rfl, by simp, ?_⟩
            rw [taken, same]
          · intro ⟨before, input, after, split, allBefore, failed⟩
            cases before with
            | nil =>
                cases split
                exact Except.error.inj (taken.symm.trans failed)
            | cons head tail =>
                cases split
                obtain ⟨part, ok⟩ := allBefore first List.mem_cons_self
                cases taken.symm.trans ok
      | ok part =>
          have later : collect step (first :: rest) = .error failure ↔
              collect step rest = .error failure := by
            simp only [collect, taken]
            cases collect step rest with
            | error other => simp
            | ok more => simp
          rw [later, ih]
          constructor
          · intro ⟨before, input, after, split, allBefore, failed⟩
            refine ⟨first :: before, input, after, by rw [split, List.cons_append], ?_, failed⟩
            intro earlier isEarlier
            cases isEarlier with
            | head => exact ⟨part, taken⟩
            | tail _ inBefore => exact allBefore earlier inBefore
          · intro ⟨before, input, after, split, allBefore, failed⟩
            cases before with
            | nil =>
                cases split
                cases taken.symm.trans failed
            | cons head tail =>
                cases split
                exact ⟨tail, input, after, rfl,
                  fun earlier inTail => allBefore earlier (List.mem_cons_of_mem _ inTail), failed⟩

/-- A loop that appends the results of each step has what `collect` gives. -/
theorem foldlM_eq_collect {loop : List β → α → Except ε (List β)}
    (appends : ∀ done input, loop done input = (step input).map (done ++ ·))
    (inputs : List α) (start : List β) :
    inputs.foldlM loop start = (collect step inputs).map (start ++ ·) := by
  induction inputs generalizing start with
  | nil => simp [collect, Except.map, pure, Except.pure]
  | cons first rest ih =>
      rw [List.foldlM_cons, appends]
      cases taken : step first with
      | error failure =>
          simp only [collect, taken]
          rfl
      | ok part =>
          have next := ih (start ++ part)
          simp only [collect, taken]
          cases later : collect step rest with
          | error failure =>
              rw [later] at next
              exact next
          | ok more =>
              rw [later] at next
              exact next.trans (congrArg Except.ok (List.append_assoc start part more))

end

end EternalTerminal.Library
