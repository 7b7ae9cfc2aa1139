/-
Messages whose fields are optional: each is written when it is set, and the last one with its
number is read.
-/

import EternalTerminal.Library.WireFormat

namespace EternalTerminal.Library

structure FieldType (α : Type) where
  field : Nat → α → WireField
  value : Nat → WireField → Option α
  number_field : ∀ number content, (field number content).number = number
  valid_field : ∀ number content, (field number content).value.Valid
  value_field : ∀ number content, value number (field number content) = some content
  value_other : ∀ number field, field.number ≠ number → value number field = none

namespace FieldType

variable {α β : Type} (type : FieldType α) (other : FieldType β)

def write (number : Nat) (content : Option α) : List WireField :=
  content.toList.map (type.field number)

def get (number : Nat) (fields : List WireField) : Option α :=
  (fields.filterMap (type.value number)).getLast?

@[simp] theorem filterMap_write (number : Nat) (content : Option α) :
    (type.write number content).filterMap (type.value number) = content.toList := by
  cases content with
  | none => rfl
  | some content => exact List.filterMap_cons_some (type.value_field number content)

@[simp] theorem filterMap_write_other {number another : Nat} (different : another ≠ number)
    (content : Option β) :
    (other.write another content).filterMap (type.value number) = [] := by
  cases content with
  | none => rfl
  | some content =>
      apply List.filterMap_cons_none
      apply type.value_other
      rw [other.number_field]
      exact different

@[simp] theorem getLast?_toList (content : Option α) : content.toList.getLast? = content := by
  cases content with
  | none | some content => rfl

theorem write_valid {number : Nat} {content : Option α} {field : WireField}
    (member : field ∈ type.write number content) : field.value.Valid := by
  obtain ⟨content, _, rfl⟩ := List.mem_map.mp member
  exact type.valid_field number content

end FieldType

end EternalTerminal.Library
