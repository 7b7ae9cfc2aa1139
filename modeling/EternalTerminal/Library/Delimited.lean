/-
Texts cut at a delimiter.

`items` reads the delimiter as the end of an item: what follows the last one is an item only
if it is not empty.  `List.splitOn` reads it as a separator and has one item more there.
-/

import Mathlib.Algebra.GroupWithZero.Nat
import Mathlib.Data.List.Basic
import Mathlib.Data.List.TakeWhile

namespace EternalTerminal.Library

variable {α : Type} [DecidableEq α]

def items (delim : α) : List α → List (List α)
  | [] => []
  | char :: rest =>
      if char = delim then [] :: items delim rest
      else
        match items delim rest with
        | [] => [[char]]
        | item :: more => (char :: item) :: more

/-- What stands before the first delimiter and what stands after it. -/
def cut (delim : α) : List α → Option (List α × List α)
  | [] => none
  | char :: rest =>
      if char = delim then some ([], rest)
      else (cut delim rest).map fun parts => (char :: parts.1, parts.2)

def withoutFinal (delim : α) (text : List α) : List α :=
  if text.getLast? = some delim then text.dropLast else text

section

variable {delim : α} {text front rest : List α}

@[simp] theorem items_nil (delim : α) : items delim ([] : List α) = [] := rfl

@[simp] theorem items_delim (delim : α) (rest : List α) :
    items delim (delim :: rest) = [] :: items delim rest := by
  rw [items, if_pos rfl]

theorem items_eq_nil_iff : items delim text = [] ↔ text = [] := by
  cases text with
  | nil => simp
  | cons char rest =>
      by_cases ends : char = delim
      · simp [items, ends]
      · cases more : items delim rest with
        | nil => simp [items, ends, more]
        | cons item others => simp [items, ends, more]

theorem items_append_delim (free : delim ∉ front) (rest : List α) :
    items delim (front ++ delim :: rest) = front :: items delim rest := by
  induction front with
  | nil => exact items_delim delim rest
  | cons char front ih =>
      have other : char ≠ delim := fun same => free (same ▸ List.mem_cons_self)
      have later : delim ∉ front := fun inFront => free (List.mem_cons_of_mem char inFront)
      rw [List.cons_append, items, if_neg other, ih later]

/-- A text without delimiter is one item, unless it is empty. -/
theorem items_of_not_mem (free : delim ∉ text) (nonempty : text ≠ []) :
    items delim text = [text] := by
  induction text with
  | nil => exact absurd rfl nonempty
  | cons char rest ih =>
      have other : char ≠ delim := fun same => free (same ▸ List.mem_cons_self)
      have later : delim ∉ rest := fun inRest => free (List.mem_cons_of_mem char inRest)
      cases rest with
      | nil => simp [items, other]
      | cons next more =>
          rw [items, if_neg other, ih later (List.cons_ne_nil next more)]

theorem not_mem_of_mem_items {item : List α} (isItem : item ∈ items delim text) :
    delim ∉ item := by
  induction text generalizing item with
  | nil => cases isItem
  | cons char rest ih =>
      by_cases ends : char = delim
      · rw [items, if_pos ends] at isItem
        cases isItem with
        | head => exact List.not_mem_nil
        | tail _ later => exact ih later
      · cases more : items delim rest with
        | nil =>
            simp only [items, ends, if_false, more, List.mem_singleton] at isItem
            rw [isItem, List.mem_singleton]
            exact fun same => ends same.symm
        | cons first others =>
            simp only [items, ends, if_false, more, List.mem_cons] at isItem
            cases isItem with
            | inl isFirst =>
                have freeFirst : delim ∉ first := ih (more ▸ List.mem_cons_self)
                rw [isFirst, List.mem_cons, not_or]
                exact ⟨fun same => ends same.symm, freeFirst⟩
            | inr isOther => exact ih (more ▸ List.mem_cons_of_mem first isOther)

theorem mem_of_mem_items {item : List α} {char : α} (isItem : item ∈ items delim text)
    (inItem : char ∈ item) : char ∈ text := by
  induction text generalizing item with
  | nil => cases isItem
  | cons first rest ih =>
      by_cases ends : first = delim
      · rw [items, if_pos ends] at isItem
        cases isItem with
        | head => cases inItem
        | tail _ later => exact List.mem_cons_of_mem first (ih later inItem)
      · cases more : items delim rest with
        | nil =>
            simp only [items, ends, if_false, more, List.mem_singleton] at isItem
            rw [isItem, List.mem_singleton] at inItem
            exact inItem ▸ List.mem_cons_self
        | cons head others =>
            simp only [items, ends, if_false, more, List.mem_cons] at isItem
            cases isItem with
            | inl isFirst =>
                rw [isFirst, List.mem_cons] at inItem
                cases inItem with
                | inl same => exact same ▸ List.mem_cons_self
                | inr inHead =>
                    exact List.mem_cons_of_mem first (ih (more ▸ List.mem_cons_self) inHead)
            | inr isOther =>
                exact List.mem_cons_of_mem first
                  (ih (more ▸ List.mem_cons_of_mem head isOther) inItem)

/-- Either there is a delimiter, and the first item stands before it, or there is none. -/
theorem items_cases (delim : α) (text : List α) :
    (∃ front rest, text = front ++ delim :: rest ∧ delim ∉ front) ∨ delim ∉ text := by
  by_cases inText : delim ∈ text
  · obtain ⟨front, rest, split, first⟩ := List.eq_append_cons_of_mem inText
    exact Or.inl ⟨front, rest, split, first⟩
  · exact Or.inr inText

/-- A delimiter ends its item, whatever stands behind it. -/
theorem items_append_of_delim (delim : α) (front rest : List α) :
    items delim (front ++ delim :: rest) = items delim (front ++ [delim]) ++ items delim rest := by
  induction front with
  | nil => simp
  | cons char front ih =>
      by_cases ends : char = delim
      · simp [ends, ih]
      · have nonempty : items delim (front ++ [delim]) ≠ [] := by
          rw [ne_eq, items_eq_nil_iff]
          simp
        obtain ⟨item, more, first⟩ := List.exists_cons_of_ne_nil nonempty
        simp only [List.cons_append, items, if_neg ends, ih, first]

theorem items_head? (nonempty : text ≠ []) :
    (items delim text).head? = some (text.takeWhile (· ≠ delim)) := by
  have inside : ∀ {front : List α}, delim ∉ front →
      ∀ char ∈ front, decide (char ≠ delim) = true := by
    intro front free char inFront
    rw [decide_eq_true_iff]
    exact fun same => free (same ▸ inFront)
  rcases items_cases delim text with ⟨front, rest, isText, free⟩ | free
  · rw [isText, items_append_delim free, List.takeWhile_append_of_pos (inside free)]
    simp
  · rw [items_of_not_mem free nonempty, List.takeWhile_eq_self_iff.mpr (inside free)]
    rfl

theorem second_item_iff {item : List α} :
    (items delim text)[1]? = some item ↔
      ∃ front rest, text = front ++ delim :: rest ∧ delim ∉ front ∧ rest ≠ [] ∧
        item = rest.takeWhile (· ≠ delim) := by
  constructor
  · intro second
    rcases items_cases delim text with ⟨front, rest, isText, free⟩ | free
    · rw [isText, items_append_delim free, List.getElem?_cons_succ, ← List.head?_eq_getElem?]
        at second
      have nonempty : rest ≠ [] := by
        intro empty
        rw [empty] at second
        cases second
      rw [items_head? nonempty, Option.some.injEq] at second
      exact ⟨front, rest, isText, free, nonempty, second.symm⟩
    · have one : (items delim text).length ≤ 1 := by
        by_cases empty : text = []
        · simp [empty]
        · simp [items_of_not_mem free empty]
      rw [List.getElem?_eq_none one] at second
      cases second
  · intro ⟨front, rest, isText, free, nonempty, isItem⟩
    rw [isText, items_append_delim free, List.getElem?_cons_succ, ← List.head?_eq_getElem?,
      items_head? nonempty, isItem]

theorem two_le_length_items_iff :
    2 ≤ (items delim text).length ↔ ∃ front rest, text = front ++ delim :: rest ∧ rest ≠ [] := by
  constructor
  · intro two
    obtain ⟨front, rest, isText, -, nonempty, -⟩ :=
      second_item_iff.mp (List.getElem?_eq_getElem two)
    exact ⟨front, rest, isText, nonempty⟩
  · intro ⟨front, rest, isText, nonempty⟩
    have before : items delim (front ++ [delim]) ≠ [] := by
      rw [ne_eq, items_eq_nil_iff]
      simp
    have behind : items delim rest ≠ [] := by
      rw [ne_eq, items_eq_nil_iff]
      exact nonempty
    have first := List.length_pos_iff.mpr before
    have second := List.length_pos_iff.mpr behind
    rw [isText, items_append_of_delim, List.length_append]
    omega

/-- Texts without delimiter are read back from the joined text, when the last is not empty. -/
theorem items_intercalate {texts : List (List α)} (free : ∀ text ∈ texts, delim ∉ text)
    (ends : texts.getLast? ≠ some []) :
    items delim ([delim].intercalate texts) = texts := by
  induction texts with
  | nil => rfl
  | cons text rest ih =>
      have freeText : delim ∉ text := free text List.mem_cons_self
      cases rest with
      | nil =>
          rw [List.intercalate_singleton]
          exact items_of_not_mem freeText fun empty => ends (by simp [empty])
      | cons next more =>
          have freeRest : ∀ other ∈ next :: more, delim ∉ other :=
            fun other isOther => free other (List.mem_cons_of_mem text isOther)
          have endsRest : (next :: more).getLast? ≠ some [] := by
            simpa [List.getLast?_cons_cons] using ends
          rw [List.intercalate_cons_cons, List.append_assoc, List.singleton_append,
            items_append_delim freeText, ih freeRest endsRest]

theorem cut_eq_some_iff :
    cut delim text = some (front, rest) ↔ text = front ++ delim :: rest ∧ delim ∉ front := by
  induction text generalizing front with
  | nil => simp [cut]
  | cons char later ih =>
      by_cases ends : char = delim
      · subst ends
        cases front with
        | nil => simp [cut]
        | cons head tail =>
            simp only [cut, if_true, Option.some.injEq, Prod.mk.injEq, List.cons_append,
              List.cons.injEq, List.mem_cons, not_or]
            constructor
            · intro impossible
              cases impossible.1
            · intro ⟨⟨same, _⟩, other, _⟩
              exact absurd same other
      · cases front with
        | nil => simp [cut, ends]
        | cons head tail =>
            have inner := @ih tail
            simp only [cut, ends, if_false, Option.map_eq_some_iff, Prod.mk.injEq,
              List.cons.injEq, List.cons_append, List.mem_cons, not_or, Prod.exists]
            constructor
            · intro ⟨first, second, found, ⟨same, isTail⟩, isRest⟩
              subst isTail isRest same
              obtain ⟨split, free⟩ := inner.mp found
              exact ⟨⟨rfl, split⟩, fun other => ends other.symm, free⟩
            · intro ⟨⟨same, split⟩, _, free⟩
              exact ⟨tail, rest, inner.mpr ⟨split, free⟩, ⟨same, rfl⟩, rfl⟩

theorem cut_eq_none_iff : cut delim text = none ↔ delim ∉ text := by
  induction text with
  | nil => simp [cut]
  | cons char rest ih =>
      by_cases ends : char = delim
      · simp [cut, ends]
      · simp only [cut, ends, if_false, Option.map_eq_none_iff, ih, List.mem_cons, not_or]
        exact ⟨fun free => ⟨fun other => ends other.symm, free⟩, fun both => both.2⟩

theorem cut_append (free : delim ∉ front) (rest : List α) :
    cut delim (front ++ delim :: rest) = some (front, rest) :=
  cut_eq_some_iff.mpr ⟨rfl, free⟩

theorem count_le_length_items (delim : α) (text : List α) :
    text.count delim ≤ (items delim text).length := by
  induction text with
  | nil => exact Nat.le_refl 0
  | cons char rest ih =>
      by_cases ends : char = delim
      · subst ends
        rw [items_delim, List.count_cons_self, List.length_cons]
        exact Nat.succ_le_succ ih
      · rw [List.count_cons_of_ne ends, items, if_neg ends]
        cases later : items delim rest with
        | nil =>
            rw [later, List.length_nil] at ih
            exact Nat.le_succ_of_le ih
        | cons item others =>
            rw [later, List.length_cons] at ih
            rw [List.length_cons]
            exact ih

/-- `splitOn` has an empty item after a delimiter at the end. -/
theorem splitOn_eq_items (nonempty : text ≠ []) :
    text.splitOn delim =
      items delim text ++ if text.getLast? = some delim then [[]] else [] := by
  induction text with
  | nil => exact absurd rfl nonempty
  | cons char rest ih =>
      rw [List.splitOn_cons_eq_if_modifyHead, items]
      cases rest with
      | nil =>
          by_cases ends : char = delim
          · simp [ends]
          · simp [ends]
      | cons next more =>
          rw [ih (List.cons_ne_nil next more), List.getLast?_cons_cons]
          by_cases ends : char = delim
          · simp [ends]
          · cases later : items delim (next :: more) with
            | nil => exact absurd (items_eq_nil_iff.mp later) (List.cons_ne_nil next more)
            | cons item others => simp [ends]

/-! ### Joined texts -/

omit [DecidableEq α] in
/-- The last text of `front` and the first of `rest` become one. -/
theorem intercalate_glue (delim : α) (front : List (List α)) (last first : List α)
    (rest : List (List α)) :
    [delim].intercalate (front ++ (last ++ first) :: rest) =
      [delim].intercalate (front ++ [last]) ++ [delim].intercalate (first :: rest) := by
  induction front with
  | nil =>
      cases rest with
      | nil => simp
      | cons next more => simp [List.intercalate_cons_cons]
  | cons text front ih =>
      have more : front ++ (last ++ first) :: rest ≠ [] := by simp
      have oneMore : front ++ [last] ≠ [] := by simp
      rw [List.cons_append, List.cons_append, List.intercalate_cons_of_ne_nil more,
        List.intercalate_cons_of_ne_nil oneMore, ih]
      simp only [List.append_assoc]

theorem intercalate_items (delim : α) (text : List α) :
    [delim].intercalate (items delim text) = withoutFinal delim text := by
  by_cases nonempty : text = []
  · subst nonempty
    rfl
  · have joined : [delim].intercalate (text.splitOn delim) = text :=
      List.intercalate_splitOn delim
    rw [splitOn_eq_items nonempty] at joined
    by_cases ends : text.getLast? = some delim
    · rw [if_pos ends] at joined
      rcases List.eq_nil_or_concat (items delim text) with empty | ⟨front, last, cutUp⟩
      · exact absurd (items_eq_nil_iff.mp empty) nonempty
      · have delimited : text = [delim].intercalate (items delim text) ++ [delim] := by
          have glued := intercalate_glue delim front last [] [[]]
          rw [List.append_nil, List.intercalate_cons_cons] at glued
          rw [List.concat_eq_append] at cutUp
          rw [cutUp]
          rw [cutUp, List.append_assoc, List.singleton_append] at joined
          rw [← joined, glued]
          simp
        rw [withoutFinal, if_pos ends]
        exact (List.dropLast_concat ▸ congrArg List.dropLast delimited).symm
    · rw [if_neg ends, List.append_nil] at joined
      rw [withoutFinal, if_neg ends, joined]

theorem withoutFinal_sublist (delim : α) (text : List α) :
    (withoutFinal delim text).Sublist text := by
  unfold withoutFinal
  by_cases ends : text.getLast? = some delim
  · rw [if_pos ends]
    exact List.dropLast_sublist text
  · rw [if_neg ends]

theorem withoutFinal_eq_self_iff : withoutFinal delim text = text ↔ text.getLast? ≠ some delim := by
  unfold withoutFinal
  by_cases ends : text.getLast? = some delim
  · rw [if_pos ends]
    constructor
    · intro same
      have shorter := congrArg List.length same
      obtain ⟨front, whole⟩ := List.getLast?_eq_some_iff.mp ends
      rw [whole, List.dropLast_concat, List.length_append, List.length_singleton] at shorter
      omega
    · intro unended
      exact absurd ends unended
  · rw [if_neg ends]
    exact ⟨fun _ => ends, fun _ => rfl⟩

theorem withoutFinal_append (front : List α) (nonempty : text ≠ []) :
    withoutFinal delim (front ++ text) = front ++ withoutFinal delim text := by
  have last : (front ++ text).getLast? = text.getLast? := by
    rw [List.getLast?_append_of_ne_nil front nonempty]
  unfold withoutFinal
  rw [last]
  by_cases ends : text.getLast? = some delim
  · rw [if_pos ends, if_pos ends, List.dropLast_append_of_ne_nil nonempty]
  · rw [if_neg ends, if_neg ends]

/-- What is left is the text itself or the text up to a final delimiter. -/
theorem eq_withoutFinal_iff (text part : List α) :
    part = withoutFinal delim text ↔
      part.Sublist (withoutFinal delim text) ∧ (part = text ∨ part ++ [delim] = text) := by
  unfold withoutFinal
  by_cases ends : text.getLast? = some delim
  · rw [if_pos ends]
    obtain ⟨front, rfl⟩ := List.getLast?_eq_some_iff.mp ends
    rw [List.dropLast_concat]
    constructor
    · intro same
      subst same
      exact ⟨List.Sublist.refl part, Or.inr rfl⟩
    · intro ⟨sub, whole⟩
      rcases whole with whole | whole
      · have longer := sub.length_le
        rw [whole, List.length_append, List.length_singleton] at longer
        omega
      · exact List.append_cancel_right whole
  · rw [if_neg ends]
    constructor
    · intro same
      subst same
      exact ⟨List.Sublist.refl part, Or.inl rfl⟩
    · intro ⟨_, whole⟩
      rcases whole with whole | whole
      · exact whole
      · exact absurd (by rw [← whole, List.getLast?_concat]) ends

theorem count_intercalate {texts : List (List α)} (free : ∀ text ∈ texts, delim ∉ text)
    (nonempty : texts ≠ []) : ([delim].intercalate texts).count delim + 1 = texts.length := by
  induction texts with
  | nil => exact absurd rfl nonempty
  | cons text rest ih =>
      have freeText : text.count delim = 0 :=
        List.count_eq_zero_of_not_mem (free text List.mem_cons_self)
      cases rest with
      | nil => rw [List.intercalate_singleton, freeText, List.length_singleton]
      | cons next more =>
          have inner := ih (fun other isOther => free other (List.mem_cons_of_mem text isOther))
            (List.cons_ne_nil next more)
          rw [List.intercalate_cons_cons, List.count_append, List.count_append, freeText,
            List.count_singleton_self, List.length_cons]
          omega

theorem countP_intercalate {texts : List (List α)} (free : ∀ text ∈ texts, delim ∉ text) :
    ([delim].intercalate texts).countP (· ≠ delim) = (texts.map List.length).sum := by
  induction texts with
  | nil => rfl
  | cons text rest ih =>
      have freeText : text.countP (· ≠ delim) = text.length := by
        rw [List.countP_eq_length]
        intro char inText
        exact decide_eq_true fun same => free text List.mem_cons_self (same ▸ inText)
      have inner := ih fun other isOther => free other (List.mem_cons_of_mem text isOther)
      cases rest with
      | nil => simpa using freeText
      | cons next more =>
          rw [List.intercalate_cons_cons, List.countP_append, List.countP_append, freeText,
            inner, List.map_cons, List.sum_cons]
          simp

end

end EternalTerminal.Library
