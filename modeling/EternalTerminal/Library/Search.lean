/-
Where a text first occurs in another, and what is left of a text without its last blanks.
-/

import Mathlib.Data.List.DropRight
import Mathlib.Data.List.Infix

namespace EternalTerminal.Library

variable {α : Type}

section

variable {front other rest tail : List α} {char : α}

/-- Two ways to cut one text: the longer front starts with the shorter one. -/
theorem front_of_longer (shorter : other.length ≤ front.length)
    (same : front ++ rest = other ++ tail) :
    ∃ more, front = other ++ more ∧ tail = more ++ rest := by
  rcases List.append_eq_append_iff.mp same with ⟨more, isOther, isRest⟩ | ⟨more, isFront, isTail⟩
  · have empty : more = [] := by
      apply List.length_eq_zero_iff.mp
      have lengths := congrArg List.length isOther
      rw [List.length_append] at lengths
      omega
    refine ⟨[], ?_, ?_⟩
    · rw [isOther, empty, List.append_nil, List.append_nil]
    · rw [isRest, empty, List.nil_append, List.nil_append]
  · exact ⟨more, isFront, isTail⟩

theorem mem_of_shorter_front (shorter : other.length < front.length)
    (same : front ++ rest = other ++ char :: tail) : char ∈ front := by
  obtain ⟨more, isFront, isTail⟩ := front_of_longer (Nat.le_of_lt shorter) same
  cases more with
  | nil =>
      rw [isFront, List.append_nil] at shorter
      exact absurd shorter (Nat.lt_irrefl _)
  | cons head others =>
      cases isTail
      rw [isFront]
      exact List.mem_append_right other List.mem_cons_self

end

section

variable [DecidableEq α]

/-- The first index at which `pattern` stands. -/
def find (pattern : List α) : List α → Option Nat
  | [] => if pattern = [] then some 0 else none
  | char :: rest =>
      if pattern.isPrefixOf (char :: rest) then some 0
      else (find pattern rest).map (· + 1)

variable {pattern text before after : List α}

theorem find_eq_zero (starts : pattern <+: text) : find pattern text = some 0 := by
  cases text with
  | nil => simp [find, List.prefix_nil.mp starts]
  | cons char rest => simp [find, List.isPrefixOf_iff_prefix.mpr starts]

theorem find_cons {char : α} {rest : List α} (other : ¬ pattern <+: char :: rest) :
    find pattern (char :: rest) = (find pattern rest).map (· + 1) := by
  have no : pattern.isPrefixOf (char :: rest) = false := by
    rw [Bool.eq_false_iff, ne_eq, List.isPrefixOf_iff_prefix]
    exact other
  rw [find, no]
  rfl

theorem find_eq_none (absent : ¬ pattern <:+: text) : find pattern text = none := by
  induction text with
  | nil =>
      refine if_neg ?_
      rintro rfl
      exact absent List.nil_infix
  | cons char rest ih =>
      have absentRest : ¬ pattern <:+: rest :=
        fun inRest => absent (inRest.trans (List.suffix_cons char rest).isInfix)
      rw [find_cons fun starts => absent starts.isInfix, ih absentRest]
      rfl

/-- A pattern that ends in a character it has once does not start within what stands before
it. -/
theorem find_append {stem : List α} {last : α} (once : last ∉ stem)
    (absent : ¬ stem ++ [last] <:+: before) (after : List α) :
    find (stem ++ [last]) (before ++ (stem ++ [last] ++ after)) = some before.length := by
  induction before with
  | nil => exact find_eq_zero (List.prefix_append _ _)
  | cons char rest ih =>
      have absentRest : ¬ stem ++ [last] <:+: rest :=
        fun inRest => absent (inRest.trans (List.suffix_cons char rest).isInfix)
      have notHere : ¬ stem ++ [last] <+: char :: (rest ++ (stem ++ [last] ++ after)) := by
        intro starts
        by_cases long : (stem ++ [last]).length ≤ (char :: rest).length
        · have within : stem ++ [last] <+: char :: rest :=
            List.prefix_of_prefix_length_le starts
              (List.prefix_append (char :: rest) (stem ++ [last] ++ after)) long
          exact absent within.isInfix
        · -- The last character of the pattern would lie in the stem that follows.
          obtain ⟨tail, whole⟩ := starts
          have shorter : (char :: rest).length ≤ stem.length := by
            simp only [List.length_append, List.length_cons, List.length_nil] at long ⊢
            omega
          have aligned : stem ++ last :: tail =
              (char :: rest) ++ (stem ++ last :: after) := by
            simpa [List.append_assoc] using whole
          obtain ⟨more, isStem, later⟩ := front_of_longer shorter aligned
          have moreShorter : more.length < stem.length := by
            have lengths := congrArg List.length isStem
            simp only [List.length_append, List.length_cons] at lengths
            omega
          exact once (mem_of_shorter_front moreShorter later)
      rw [List.cons_append, find_cons notHere, ih absentRest]
      rfl

end

theorem rdropWhile_append {blank : α → Bool} {text : List α}
    (ends : ∀ nonempty : text ≠ [], blank (text.getLast nonempty) = false) (rest : List α) :
    ∃ kept, (text ++ rest).rdropWhile blank = text ++ kept := by
  induction rest using List.reverseRecOn with
  | nil =>
      refine ⟨[], ?_⟩
      rw [List.append_nil, List.rdropWhile_eq_self_iff]
      intro nonempty
      rw [ends nonempty]
      exact Bool.false_ne_true
  | append_singleton rest char ih =>
      rw [← List.append_assoc, List.rdropWhile_concat]
      split
      · exact ih
      · exact ⟨rest ++ [char], by rw [List.append_assoc]⟩

end EternalTerminal.Library
