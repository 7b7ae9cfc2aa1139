/-
Handles that are given out again after they have been closed.

Every opening has a number, so that two openings of one handle are told apart.  An owner closes
only what it has opened.
-/

import Mathlib.Logic.Function.Basic
import EternalTerminal.Library.HandleTrace

namespace EternalTerminal.Library

/-- The openings in their order, the one that each handle stands for, and those that have been
closed. -/
structure HandleTable (Handle Owner : Type) where
  opened : List (Handle × Owner)
  current : Handle → Option Nat
  closed : List Nat

namespace HandleTable

variable {Handle Owner : Type}

def empty : HandleTable Handle Owner :=
  { opened := []
    current := fun _ => none
    closed := [] }

def openedSince (table after : HandleTable Handle Owner) : List Nat :=
  List.range' table.opened.length (after.opened.length - table.opened.length)

/-- The opening is open: its handle stands for it, and it has not been closed. -/
structure Holds (table : HandleTable Handle Owner) (number : Nat) (handle : Handle)
    (owner : Owner) : Prop where
  isOpening : table.opened[number]? = some (handle, owner)
  isCurrent : table.current handle = some number
  notClosed : number ∉ table.closed

/-- Handles stand for what has been opened, and only that has been closed. -/
structure Bounded (table : HandleTable Handle Owner) : Prop where
  current {handle : Handle} {number : Nat} :
    table.current handle = some number → number < table.opened.length
  closed {number : Nat} : number ∈ table.closed → number < table.opened.length

variable {table after : HandleTable Handle Owner} {number : Nat} {handle other : Handle}
  {owner closer : Owner}

theorem mem_openedSince (longer : table.opened.length ≤ after.opened.length) :
    number ∈ table.openedSince after ↔
      table.opened.length ≤ number ∧ number < after.opened.length := by
  rw [openedSince, List.mem_range'_1, Nat.add_sub_cancel' longer]

theorem empty_bounded : (empty : HandleTable Handle Owner).Bounded := by
  constructor
  · intro handle number impossible
    cases impossible
  · intro number impossible
    cases impossible

theorem Holds.lt (holds : table.Holds number handle owner) : number < table.opened.length :=
  (List.getElem?_eq_some_iff.mp holds.isOpening).1

theorem Holds.number_eq {second : Nat} (holds : table.Holds number handle owner)
    (same : table.Holds second handle closer) : number = second :=
  Option.some.inj (holds.isCurrent.symm.trans same.isCurrent)

section Opening

variable [DecidableEq Handle]

def openAs (table : HandleTable Handle Owner) (handle : Handle) (owner : Owner) :
    HandleTable Handle Owner :=
  { table with
    opened := table.opened ++ [(handle, owner)]
    current := Function.update table.current handle (some table.opened.length) }

theorem Bounded.openAs (bounded : table.Bounded) (handle : Handle) (owner : Owner) :
    (table.openAs handle owner).Bounded := by
  have longer : (table.openAs handle owner).opened.length = table.opened.length + 1 :=
    List.length_append
  constructor
  · intro other number isCurrent
    rw [longer]
    unfold HandleTable.openAs at isCurrent
    dsimp only at isCurrent
    by_cases same : other = handle
    · rw [same, Function.update_self] at isCurrent
      rw [← Option.some.inj isCurrent]
      exact Nat.lt_succ_self _
    · rw [Function.update_of_ne same] at isCurrent
      exact Nat.lt_succ_of_lt (bounded.current isCurrent)
  · intro number isClosed
    rw [longer]
    exact Nat.lt_succ_of_lt (bounded.closed isClosed)

theorem Bounded.holds_openAs (bounded : table.Bounded) (handle : Handle) (owner : Owner) :
    (table.openAs handle owner).Holds table.opened.length handle owner := by
  constructor
  · exact List.getElem?_concat_length
  · exact Function.update_self ..
  · intro isClosed
    exact absurd (bounded.closed isClosed) (Nat.lt_irrefl _)

theorem Holds.openAs (holds : table.Holds number handle owner)
    (free : table.current other = none) (opener : Owner) :
    (table.openAs other opener).Holds number handle owner := by
  have different : handle ≠ other := by
    intro same
    rw [← same, holds.isCurrent] at free
    cases free
  constructor
  · exact (List.getElem?_append_left holds.lt).trans holds.isOpening
  · exact (Function.update_of_ne different _ _).trans holds.isCurrent
  · exact holds.notClosed

end Opening

variable [DecidableEq Handle] [DecidableEq Owner]

/-- Nothing happens to a handle that the owner does not have. -/
def closeAs (table : HandleTable Handle Owner) (handle : Handle) (owner : Owner) :
    HandleTable Handle Owner :=
  match table.current handle with
  | none => table
  | some number =>
      if table.opened[number]? = some (handle, owner) then
        { table with
          current := Function.update table.current handle none
          closed := table.closed ++ [number] }
      else table

/-- The calls of several owners.  A handle is opened only while it stands for nothing. -/
inductive Performs : HandleTable Handle Owner → List (HandleCall (Handle × Owner)) →
    HandleTable Handle Owner → Prop
  | nil (table : HandleTable Handle Owner) : Performs table [] table
  | opened {table after : HandleTable Handle Owner} {handle : Handle} {owner : Owner}
      {calls : List (HandleCall (Handle × Owner))} :
      table.current handle = none → Performs (table.openAs handle owner) calls after →
      Performs table (.opened (handle, owner) :: calls) after
  | used {table after : HandleTable Handle Owner} {handle : Handle × Owner}
      {calls : List (HandleCall (Handle × Owner))} :
      Performs table calls after → Performs table (.used handle :: calls) after
  | closed {table after : HandleTable Handle Owner} {handle : Handle} {owner : Owner}
      {calls : List (HandleCall (Handle × Owner))} :
      Performs (table.closeAs handle owner) calls after →
      Performs table (.closed (handle, owner) :: calls) after

variable {calls : List (HandleCall (Handle × Owner))}

theorem Bounded.closeAs (bounded : table.Bounded) (handle : Handle) (owner : Owner) :
    (table.closeAs handle owner).Bounded := by
  unfold HandleTable.closeAs
  split
  · exact bounded
  · rename_i number isCurrent
    split
    · constructor
      · intro other remaining isOther
        dsimp only at isOther
        by_cases same : other = handle
        · rw [same, Function.update_self] at isOther
          cases isOther
        · rw [Function.update_of_ne same] at isOther
          exact bounded.current isOther
      · intro closing isClosed
        rcases List.mem_append.mp isClosed with before | new
        · exact bounded.closed before
        · rw [List.mem_singleton.mp new]
          exact bounded.current isCurrent
    · exact bounded

theorem Bounded.performs (bounded : table.Bounded) (performs : Performs table calls after) :
    after.Bounded := by
  induction performs with
  | nil => exact bounded
  | opened _ _ ih => exact ih (bounded.openAs _ _)
  | used _ ih => exact ih bounded
  | closed _ ih => exact ih (bounded.closeAs _ _)

theorem Performs.opened_le (performs : Performs table calls after) :
    table.opened.length ≤ after.opened.length := by
  induction performs with
  | nil => exact Nat.le_refl _
  | opened _ _ ih =>
      rw [openAs, List.length_append] at ih
      exact Nat.le_of_succ_le ih
  | used _ ih => exact ih
  | @closed table _ handle owner _ _ ih =>
      have same : (table.closeAs handle owner).opened = table.opened := by
        unfold closeAs
        split
        · rfl
        · split
          · rfl
          · rfl
      exact same ▸ ih

theorem Holds.closeAs_away (holds : table.Holds number handle owner) (away : handle ≠ other)
    (closer : Owner) : (table.closeAs other closer).Holds number handle owner := by
  unfold HandleTable.closeAs
  split
  · exact holds
  · rename_i closing isCurrent
    split
    · rename_i isOpening
      have different : closing ≠ number := by
        intro same
        rw [same, holds.isOpening] at isOpening
        exact away (congrArg Prod.fst (Option.some.inj isOpening))
      constructor
      · exact holds.isOpening
      · exact (Function.update_of_ne away _ _).trans holds.isCurrent
      · intro isClosed
        rcases List.mem_append.mp isClosed with before | new
        · exact holds.notClosed before
        · exact different (List.mem_singleton.mp new).symm
    · exact holds

theorem Holds.closeAs (holds : table.Holds number handle owner) (other : Handle)
    (stranger : closer ≠ owner) : (table.closeAs other closer).Holds number handle owner := by
  by_cases same : handle = other
  · have unchanged : table.closeAs other closer = table := by
      unfold HandleTable.closeAs
      rw [← same, holds.isCurrent]
      dsimp only
      rw [holds.isOpening, if_neg]
      intro isOwner
      exact stranger (congrArg Prod.snd (Option.some.inj isOwner)).symm
    rw [unchanged]
    exact holds
  · exact holds.closeAs_away same closer

theorem Holds.performs (holds : table.Holds number handle owner)
    (performs : Performs table calls after)
    (strangers : ∀ other closer, .closed (other, closer) ∈ calls → closer ≠ owner) :
    after.Holds number handle owner := by
  induction performs with
  | nil => exact holds
  | opened free _ ih =>
      exact ih (holds.openAs free _)
        (fun other closer member => strangers other closer (List.mem_cons_of_mem _ member))
  | used _ ih =>
      exact ih holds
        (fun other closer member => strangers other closer (List.mem_cons_of_mem _ member))
  | closed _ ih =>
      exact ih (holds.closeAs _ (strangers _ _ List.mem_cons_self))
        (fun other closer member => strangers other closer (List.mem_cons_of_mem _ member))

end HandleTable

end EternalTerminal.Library
