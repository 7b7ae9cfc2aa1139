/-
The protobuf wire format: varints, and messages as sequences of tagged fields.

A decoder accepts every encoding and returns the fields it was made of.
-/

import Mathlib.Tactic.Ring
import Mathlib.Tactic.Linarith
import EternalTerminal.Library.Numeral

namespace EternalTerminal.Library

/-! ### Varints -/

/-- `more` bytes that announce another one, then the last. -/
def varintBytes : Nat → Nat → List UInt8
  | 0, value => [UInt8.ofNat value]
  | more + 1, value => UInt8.ofNat (value % 128 + 128) :: varintBytes more (value / 128)

/-- Seven bits a byte, least significant first. -/
def varint (value : Nat) : List UInt8 := varintBytes (value.log2 / 7) value

def varintSize (value : Nat) : Nat := value.log2 / 7 + 1

def readVarint : List UInt8 → Option (Nat × List UInt8)
  | [] => none
  | byte :: rest =>
      if byte.toNat < 128 then some (byte.toNat, rest)
      else
        match readVarint rest with
        | none => none
        | some (high, rest) => some (byte.toNat - 128 + 128 * high, rest)

theorem varintBytes_length (more value : Nat) :
    (varintBytes more value).length = more + 1 := by
  induction more generalizing value with
  | zero => rfl
  | succ more ih => rw [varintBytes, List.length_cons, ih]

@[simp] theorem varint_length (value : Nat) : (varint value).length = varintSize value :=
  varintBytes_length _ _

theorem varintSize_pos (value : Nat) : 0 < varintSize value := Nat.succ_pos _

/-- A value of at most `7 * size` bits takes at most `size` bytes. -/
theorem varintSize_le {value size : Nat} (positive : 0 < size)
    (small : value < 2 ^ (7 * size)) : varintSize value ≤ size := by
  unfold varintSize
  by_cases zero : value = 0
  · subst zero
    simp
    omega
  · have bits := (Nat.log2_lt zero).mpr small
    omega

theorem readVarint_varintBytes (more value : Nat) (rest : List UInt8)
    (fits : value < 128 ^ (more + 1)) :
    readVarint (varintBytes more value ++ rest) = some (value, rest) := by
  induction more generalizing value with
  | zero =>
      have byteEq : (UInt8.ofNat value).toNat = value := by
        rw [UInt8.toNat_ofNat']
        omega
      rw [varintBytes, List.singleton_append, readVarint, if_pos (by omega), byteEq]
  | succ more ih =>
      have byteEq : (UInt8.ofNat (value % 128 + 128)).toNat = value % 128 + 128 := by
        rw [UInt8.toNat_ofNat']
        omega
      have high : value / 128 < 128 ^ (more + 1) := by
        rw [Nat.div_lt_iff_lt_mul (by omega), ← Nat.pow_succ]
        exact fits
      rw [varintBytes, List.cons_append, readVarint, if_neg (by omega), ih _ high]
      simp only [byteEq, Option.some.injEq, Prod.mk.injEq, and_true]
      omega

theorem readVarint_varint (value : Nat) (rest : List UInt8) :
    readVarint (varint value ++ rest) = some (value, rest) := by
  apply readVarint_varintBytes
  by_cases zero : value = 0
  · subst zero
    exact Nat.pow_pos (by omega)
  · have bits : value < 2 ^ (value.log2 + 1) := (Nat.log2_lt zero).mp (Nat.lt_succ_self _)
    have wide : 2 ^ (value.log2 + 1) ≤ 2 ^ (7 * (value.log2 / 7 + 1)) :=
      Nat.pow_le_pow_right (by omega) (by omega)
    rw [show (128 : Nat) = 2 ^ 7 from rfl, ← Nat.pow_mul]
    omega

/-! ### Fields -/

inductive WireValue where
  | varint (value : Nat)
  | fixed64 (value : Nat)
  | bytes (content : List UInt8)
  | fixed32 (value : Nat)
  deriving DecidableEq

structure WireField where
  number : Nat
  value : WireValue
  deriving DecidableEq

namespace WireValue

def wireType : WireValue → Nat
  | varint _ => 0
  | fixed64 _ => 1
  | bytes _ => 2
  | fixed32 _ => 5

def encode : WireValue → List UInt8
  | varint value => Library.varint value
  | fixed64 value => littleEndian 8 value
  | bytes content => Library.varint content.length ++ content
  | fixed32 value => littleEndian 4 value

theorem wireType_lt (value : WireValue) : value.wireType < 8 := by
  cases value <;> simp only [wireType] <;> omega

def Valid : WireValue → Prop
  | fixed64 value => value < 256 ^ 8
  | fixed32 value => value < 256 ^ 4
  | _ => True

end WireValue

namespace WireField

def encode (field : WireField) : List UInt8 :=
  Library.varint (8 * field.number + field.value.wireType) ++ field.value.encode

/-- The first `count` bytes and the rest, when there are as many. -/
def readBytes (count : Nat) (input : List UInt8) : Option (List UInt8 × List UInt8) :=
  if input.length < count then none else some (input.take count, input.drop count)

def readValue (wireType : Nat) (input : List UInt8) :
    Option (WireValue × List UInt8) :=
  match wireType with
  | 0 => do
      let (value, rest) ← readVarint input
      some (.varint value, rest)
  | 1 => do
      let (bytes, rest) ← readBytes 8 input
      some (.fixed64 (littleEndianValue bytes), rest)
  | 2 => do
      let (length, rest) ← readVarint input
      let (content, rest) ← readBytes length rest
      some (.bytes content, rest)
  | 5 => do
      let (bytes, rest) ← readBytes 4 input
      some (.fixed32 (littleEndianValue bytes), rest)
  | _ => none

def read (input : List UInt8) : Option (WireField × List UInt8) := do
  let (tag, rest) ← readVarint input
  let (value, rest) ← readValue (tag % 8) rest
  some ({ number := tag / 8, value := value }, rest)

theorem readBytes_append (content rest : List UInt8) :
    readBytes content.length (content ++ rest) = some (content, rest) := by
  rw [readBytes, if_neg (by simp), List.take_left, List.drop_left]

theorem readBytes_littleEndian (width value : Nat) (rest : List UInt8) :
    readBytes width (littleEndian width value ++ rest) =
      some (littleEndian width value, rest) := by
  have whole := readBytes_append (littleEndian width value) rest
  rwa [littleEndian_length] at whole

theorem readValue_encode {value : WireValue} (valid : value.Valid) (rest : List UInt8) :
    readValue value.wireType (value.encode ++ rest) = some (value, rest) := by
  cases value with
  | varint value =>
      simp only [WireValue.wireType, WireValue.encode, readValue, readVarint_varint]
      rfl
  | fixed64 value =>
      simp only [WireValue.wireType, WireValue.encode, readValue, readBytes_littleEndian,
        Option.bind_eq_bind, Option.bind_some, littleEndianValue_littleEndian,
        Nat.mod_eq_of_lt valid]
  | bytes content =>
      simp only [WireValue.wireType, WireValue.encode, readValue, List.append_assoc,
        readVarint_varint, Option.bind_eq_bind, Option.bind_some, readBytes_append]
  | fixed32 value =>
      simp only [WireValue.wireType, WireValue.encode, readValue, readBytes_littleEndian,
        Option.bind_eq_bind, Option.bind_some, littleEndianValue_littleEndian,
        Nat.mod_eq_of_lt valid]

theorem read_encode {field : WireField} (valid : field.value.Valid) (rest : List UInt8) :
    read (field.encode ++ rest) = some (field, rest) := by
  have small := field.value.wireType_lt
  have typeEq : (8 * field.number + field.value.wireType) % 8 = field.value.wireType := by
    omega
  have numberEq : (8 * field.number + field.value.wireType) / 8 = field.number := by
    omega
  simp only [read, encode, List.append_assoc, readVarint_varint, Option.bind_eq_bind,
    Option.bind_some, typeEq, numberEq, readValue_encode valid]

theorem encode_length_pos (field : WireField) : 0 < field.encode.length := by
  have positive := varintSize_pos (8 * field.number + field.value.wireType)
  simp only [encode, List.length_append, varint_length]
  omega

end WireField

/-! ### Messages -/

def encodeFields (fields : List WireField) : List UInt8 :=
  fields.flatMap WireField.encode

/-- Read fields to the end of the input; every field takes some of it. -/
def decodeFields : Nat → List UInt8 → Option (List WireField)
  | _, [] => some []
  | 0, _ :: _ => none
  | fuel + 1, input =>
      match WireField.read input with
      | none => none
      | some (field, rest) => (decodeFields fuel rest).map (field :: ·)

theorem decodeFields_encodeFields {fields : List WireField} {fuel : Nat}
    (valid : ∀ field ∈ fields, field.value.Valid) (enough : fields.length ≤ fuel) :
    decodeFields fuel (encodeFields fields) = some fields := by
  induction fields generalizing fuel with
  | nil => cases fuel <;> rfl
  | cons field rest ih =>
      obtain ⟨fuel, rfl⟩ : ∃ less, fuel = less + 1 := ⟨fuel - 1, by simp at enough; omega⟩
      have headValid := valid field (List.mem_cons_self ..)
      have tailValid := fun other member => valid other (List.mem_cons_of_mem field member)
      have decoded := ih tailValid (by simpa using enough)
      have readHead := WireField.read_encode headValid (encodeFields rest)
      have shape : encodeFields (field :: rest) = field.encode ++ encodeFields rest := by
        simp only [encodeFields, List.flatMap_cons]
      rw [shape]
      cases image : field.encode ++ encodeFields rest with
      | nil =>
          have positive := field.encode_length_pos
          have empty := congrArg List.length image
          rw [List.length_append, List.length_nil] at empty
          omega
      | cons byte others =>
          rw [image] at readHead
          simp only [decodeFields, readHead, decoded, Option.map_some]

theorem length_le_encodeFields (fields : List WireField) :
    fields.length ≤ (encodeFields fields).length := by
  induction fields with
  | nil => exact Nat.zero_le _
  | cons field rest ih =>
      have positive := field.encode_length_pos
      simp only [encodeFields, List.flatMap_cons, List.length_append,
        List.length_cons] at ih ⊢
      omega

def decodeMessage (input : List UInt8) : Option (List WireField) :=
  decodeFields input.length input

theorem decodeMessage_encodeFields {fields : List WireField}
    (valid : ∀ field ∈ fields, field.value.Valid) :
    decodeMessage (encodeFields fields) = some fields :=
  decodeFields_encodeFields valid (length_le_encodeFields fields)

end EternalTerminal.Library
