/-
Tables whose entries are numbered 0, 1, ..., size - 1.

A new entry takes the number after the last.  When an entry goes, the numbers above
its own close up by one.
-/

import Mathlib.Data.List.Perm.Subperm
import Mathlib.Data.List.Range
import Mathlib.Logic.Function.Basic

namespace EternalTerminal.Library

structure Ranked {K : Type} (rank : K → Option Int) (size : Nat) : Prop where
  nonneg {key : K} {place : Int} : rank key = some place → 0 ≤ place
  lt_size {key : K} {place : Int} : rank key = some place → place < size
  distinct {left right : K} {place : Int} : rank left = some place →
    rank right = some place → left = right

/-- Where an entry stands once the one at `gap` has gone. -/
def closeGap (gap place : Int) : Int := if place > gap then place - 1 else place

theorem closeGap_lt_iff {gap left right : Int} (leftOther : left ≠ gap)
    (rightOther : right ≠ gap) : closeGap gap left < closeGap gap right ↔ left < right := by
  unfold closeGap
  split <;> split <;> omega

theorem closeGap_injective {gap left right : Int} (leftOther : left ≠ gap)
    (rightOther : right ≠ gap) (same : closeGap gap left = closeGap gap right) :
    left = right := by
  rcases Int.lt_trichotomy left right with below | equal | above
  · exact absurd ((closeGap_lt_iff leftOther rightOther).mpr below) (by omega)
  · exact equal
  · exact absurd ((closeGap_lt_iff rightOther leftOther).mpr above) (by omega)

namespace Ranked

variable {K : Type} {rank after : K → Option Int} {size : Nat} {key : K}

theorem empty : Ranked (fun _ : K => none) 0 := by
  constructor
  · intro key place impossible
    cases impossible
  · intro key place impossible
    cases impossible
  · intro left right place impossible
    cases impossible

theorem append [DecidableEq K] (ranked : Ranked rank size) :
    Ranked (Function.update rank key (some size)) (size + 1) := by
  have cases_of : ∀ {other : K} {place : Int},
      Function.update rank key (some (size : Int)) other = some place →
        (other = key ∧ place = size) ∨ (other ≠ key ∧ rank other = some place) := by
    intro other place found
    by_cases here : other = key
    · subst here
      rw [Function.update_self] at found
      exact Or.inl ⟨rfl, (Option.some.inj found).symm⟩
    · rw [Function.update_of_ne here] at found
      exact Or.inr ⟨here, found⟩
  constructor
  · intro other place found
    rcases cases_of found with ⟨_, last⟩ | ⟨_, old⟩
    · omega
    · exact ranked.nonneg old
  · intro other place found
    rcases cases_of found with ⟨_, last⟩ | ⟨_, old⟩
    · omega
    · have below := ranked.lt_size old
      omega
  · intro left right place foundLeft foundRight
    rcases cases_of foundLeft with ⟨isLeft, last⟩ | ⟨_, oldLeft⟩
    · rcases cases_of foundRight with ⟨isRight, _⟩ | ⟨_, oldRight⟩
      · exact isLeft.trans isRight.symm
      · have below := ranked.lt_size oldRight
        omega
    · rcases cases_of foundRight with ⟨_, last⟩ | ⟨_, oldRight⟩
      · have below := ranked.lt_size oldLeft
        omega
      · exact ranked.distinct oldLeft oldRight

theorem remove (ranked : Ranked rank size) {gap : Int} (found : rank key = some gap)
    (gone : after key = none)
    (kept : ∀ other, other ≠ key → after other = (rank other).map (closeGap gap)) :
    Ranked after (size - 1) := by
  have former : ∀ {other : K} {place : Int}, after other = some place →
      ∃ old, rank other = some old ∧ old ≠ gap ∧ place = closeGap gap old := by
    intro other place stands
    have isOther : other ≠ key := by
      rintro rfl
      cases gone.symm.trans stands
    rw [kept other isOther] at stands
    obtain ⟨old, wasThere, moved⟩ := Option.map_eq_some_iff.mp stands
    refine ⟨old, wasThere, ?_, moved.symm⟩
    rintro rfl
    exact isOther (ranked.distinct wasThere found)
  have gapNonneg := ranked.nonneg found
  have gapBelow := ranked.lt_size found
  constructor
  · intro other place stands
    obtain ⟨old, wasThere, _, moved⟩ := former stands
    have nonneg := ranked.nonneg wasThere
    rw [moved, closeGap]
    split <;> omega
  · intro other place stands
    obtain ⟨old, wasThere, notGap, moved⟩ := former stands
    have below := ranked.lt_size wasThere
    rw [moved, closeGap]
    split <;> omega
  · intro left right place standsLeft standsRight
    obtain ⟨oldLeft, wasLeft, leftOther, movedLeft⟩ := former standsLeft
    obtain ⟨oldRight, wasRight, rightOther, movedRight⟩ := former standsRight
    have same := closeGap_injective leftOther rightOther (movedLeft.symm.trans movedRight)
    exact ranked.distinct wasLeft (same ▸ wasRight)

end Ranked

theorem perm_range_of_nodup {places : List Int} (nodup : places.Nodup)
    (bounded : ∀ place ∈ places, 0 ≤ place ∧ place < places.length) :
    places.Perm ((List.range places.length).map Int.ofNat) := by
  have inside : places ⊆ (List.range places.length).map Int.ofNat := by
    intro place member
    obtain ⟨nonneg, below⟩ := bounded place member
    apply List.mem_map.mpr
    exact ⟨place.toNat, List.mem_range.mpr (by omega), Int.toNat_of_nonneg nonneg⟩
  apply (List.subperm_of_subset nodup inside).perm_of_length_le
  rw [List.length_map, List.length_range]

end EternalTerminal.Library
