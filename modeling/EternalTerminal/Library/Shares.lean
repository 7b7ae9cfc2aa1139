/-
Shares of a whole: positive numbers that add up to one.

A new share takes a half, and all others give a half of theirs.  When a share is taken
away, the others are scaled by the ratio of the two counts.
-/

import Mathlib.Algebra.BigOperators.Ring.List
import Mathlib.Algebra.Order.Field.Basic
import Mathlib.Data.List.Perm.Basic
import Mathlib.Tactic.FieldSimp
import Mathlib.Tactic.Linarith
import Mathlib.Tactic.Positivity
import Mathlib.Tactic.Ring

namespace EternalTerminal.Library

section Field

variable {F : Type} [Field F] {sizes : List F}

/-- Scale what is left of `sizes.length + 1` shares. -/
def rescale (sizes : List F) : List F :=
  sizes.map fun size => size * (sizes.length + 1 : Nat) / sizes.length

theorem sum_scale (sizes : List F) (factor : F) :
    (sizes.map (· * factor)).sum = sizes.sum * factor := by
  have scaled := List.sum_map_mul_right sizes id factor
  rw [List.map_id] at scaled
  exact scaled

theorem sum_rescale (sizes : List F) :
    (rescale sizes).sum = sizes.sum * ((sizes.length + 1 : Nat) / sizes.length) := by
  rw [← sum_scale, rescale]
  simp only [mul_div_assoc]

theorem sum_halve (sizes : List F) : (sizes.map (· / 2)).sum = sizes.sum / 2 := by
  rw [div_eq_mul_inv, ← sum_scale]
  simp only [div_eq_mul_inv]

theorem sum_eraseIdx {place : Nat} (inside : place < sizes.length) :
    (sizes.eraseIdx place).sum = sizes.sum - sizes[place] := by
  have whole := (List.getElem_cons_eraseIdx_perm inside).sum_eq
  rw [List.sum_cons] at whole
  exact eq_sub_of_add_eq' whole

end Field

variable {F : Type} [Field F] [LinearOrder F] [IsStrictOrderedRing F] {sizes : List F}

structure Shares (sizes : List F) : Prop where
  positive : ∀ size ∈ sizes, 0 < size
  total : sizes.sum = 1

namespace Shares

theorem halves : Shares [(1 : F) / 2, 1 / 2] := by
  constructor
  · intro size member
    have half : size = 1 / 2 := by simpa using member
    rw [half]
    positivity
  · rw [List.sum_pair]
    ring

theorem append_half (shares : Shares sizes) : Shares (sizes.map (· / 2) ++ [1 / 2]) := by
  constructor
  · intro size member
    rcases List.mem_append.mp member with old | new
    · obtain ⟨former, isFormer, rfl⟩ := List.mem_map.mp old
      exact half_pos (shares.positive former isFormer)
    · obtain rfl := List.mem_singleton.mp new
      positivity
  · rw [List.sum_append, List.sum_singleton, sum_halve, shares.total]
    ring

/-- Taking a share away keeps the whole exactly when the share was an even one. -/
theorem rescale_iff (shares : Shares sizes) {place : Nat} (inside : place < sizes.length)
    (many : 2 ≤ sizes.length) :
    Shares (rescale (sizes.eraseIdx place)) ↔ sizes[place] = 1 / sizes.length := by
  obtain ⟨count, length⟩ : ∃ count, sizes.length = count + 1 + 1 := ⟨sizes.length - 2, by omega⟩
  have fewer : (sizes.eraseIdx place).length = count + 1 := by
    rw [List.length_eraseIdx_of_lt inside, length]
    rfl
  have newCount : (0 : F) < (count + 1 : Nat) := Nat.cast_pos.mpr (Nat.succ_pos count)
  have oldCount : (0 : F) < (count + 1 + 1 : Nat) := Nat.cast_pos.mpr (Nat.succ_pos (count + 1))
  have sum : (rescale (sizes.eraseIdx place)).sum =
      (1 - sizes[place]) * ((count + 1 + 1 : Nat) / (count + 1 : Nat)) := by
    rw [sum_rescale, sum_eraseIdx inside, shares.total, fewer]
  have even : (1 - sizes[place]) * (((count + 1 + 1 : Nat) : F) / (count + 1 : Nat)) = 1 ↔
      sizes[place] = 1 / (count + 1 + 1 : Nat) := by
    rw [mul_div_assoc', div_eq_one_iff_eq newCount.ne', eq_div_iff oldCount.ne']
    push_cast
    constructor
    · intro same
      linarith
    · intro same
      linarith
  rw [length, ← even, ← sum]
  constructor
  · exact fun rescaled => rescaled.total
  · intro total
    refine ⟨?_, total⟩
    intro size member
    obtain ⟨former, isFormer, rfl⟩ := List.mem_map.mp member
    have positive := shares.positive former (List.mem_of_mem_eraseIdx isFormer)
    rw [fewer]
    positivity

end Shares

end EternalTerminal.Library
