/-
Maps as partial functions, changed one key at a time.
-/

import Mathlib.Logic.Function.Basic
import Mathlib.Tactic.Common

namespace EternalTerminal.Library

variable {K V : Type} [DecidableEq K] {table : K → Option V} {key place : K} {value new : V}

theorem update_some_iff :
    Function.update table key (some new) place = some value ↔
      place = key ∧ new = value ∨ place ≠ key ∧ table place = some value := by
  by_cases here : place = key
  · subst here
    simp
  · simp [here]

theorem update_none_iff :
    Function.update table key none place = some value ↔
      place ≠ key ∧ table place = some value := by
  by_cases here : place = key
  · subst here
    simp
  · simp [here]

end EternalTerminal.Library
