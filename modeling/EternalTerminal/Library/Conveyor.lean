/-
Stages that pass items on in order.

A stage takes items at one end and gives them at the other, and holds what it has taken and not
yet given.  A stage that may have lost some of them has at least kept the order: what it has given
is the beginning of what it has taken.
-/

import Mathlib.Data.List.Infix

namespace EternalTerminal.Library

variable {α β : Type}

/-- `whole` is the balance of a stage that has not lost anything. -/
structure Conveys (lost : Prop) (taken held given : List α) : Prop where
  ordered : given <+: taken
  whole : ¬ lost → given ++ held = taken

namespace Conveys

variable {lost alsoLost : Prop} {taken held given items more : List α}

theorem start (lost : Prop) : Conveys lost ([] : List α) [] [] :=
  ⟨List.prefix_rfl, fun _ => rfl⟩

theorem takes (conveys : Conveys lost taken held given) (items : List α) :
    Conveys lost (taken ++ items) (held ++ items) given := by
  refine ⟨conveys.ordered.trans (List.prefix_append taken items), ?_⟩
  intro kept
  rw [← List.append_assoc, conveys.whole kept]

theorem gives (conveys : Conveys lost taken (items ++ held) given) (kept : ¬ lost) :
    Conveys lost taken held (given ++ items) := by
  have balance : given ++ items ++ held = taken := by
    rw [List.append_assoc]
    exact conveys.whole kept
  exact ⟨⟨held, balance⟩, fun _ => balance⟩

theorem loses (conveys : Conveys lost taken held given) (isLost : alsoLost)
    (held : List α) : Conveys alsoLost taken held given :=
  ⟨conveys.ordered, fun kept => absurd isLost kept⟩

theorem weaken (conveys : Conveys lost taken held given) (implies : lost → alsoLost) :
    Conveys alsoLost taken held given :=
  ⟨conveys.ordered, fun kept => conveys.whole fun isLost => kept (implies isLost)⟩

/-- A stage that never loses anything and has given a beginning of what it has taken. -/
theorem of_prefix (isPrefix : given <+: taken) :
    Conveys False taken (taken.drop given.length) given := by
  refine ⟨isPrefix, fun _ => ?_⟩
  obtain ⟨rest, rfl⟩ := isPrefix
  rw [List.drop_left]

theorem through {last between : List α} (first : Conveys lost taken held given)
    (second : Conveys alsoLost given between last) :
    Conveys (lost ∨ alsoLost) taken (between ++ held) last := by
  refine ⟨second.ordered.trans first.ordered, ?_⟩
  intro kept
  rw [← List.append_assoc, second.whole fun isLost => kept (Or.inr isLost),
    first.whole fun isLost => kept (Or.inl isLost)]

theorem flatMap (conveys : Conveys lost taken held given) (means : α → List β) :
    Conveys lost (taken.flatMap means) (held.flatMap means) (given.flatMap means) := by
  refine ⟨conveys.ordered.flatMap means, ?_⟩
  intro kept
  rw [← List.flatMap_append, conveys.whole kept]

theorem filterMap (conveys : Conveys lost taken held given) (means : α → Option β) :
    Conveys lost (taken.filterMap means) (held.filterMap means) (given.filterMap means) := by
  refine ⟨conveys.ordered.filterMap means, ?_⟩
  intro kept
  rw [← List.filterMap_append, conveys.whole kept]

end Conveys

theorem filter_filterMap {keep : α → Bool} {means : α → Option β}
    (silent : ∀ item, keep item = false → means item = none) (items : List α) :
    (items.filter keep).filterMap means = items.filterMap means := by
  rw [List.filterMap_filter]
  apply List.filterMap_congr
  intro item _
  cases kept : keep item with
  | true => exact if_pos rfl
  | false => exact (if_neg Bool.false_ne_true).trans (silent item kept).symm

end EternalTerminal.Library
