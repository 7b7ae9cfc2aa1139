/-
The messages of `ET.proto` in the protobuf wire format.

Fields that a sender sets are written, also with their default values; a reader
takes the last occurrence of a field and skips the fields it does not know.
-/

import EternalTerminal.Base.SocketHandler

namespace EternalTerminal

open Library

/-- The last value that `select` finds. -/
def lastField {α : Type} (select : WireField → Option α) (default : α)
    (fields : List WireField) : α :=
  ((fields.filterMap select).getLast?).getD default

def int32Value (number : Nat) (field : WireField) : Option Int32 :=
  match field.value with
  | .varint value => if field.number = number then some (Int32.ofNat value) else none
  | _ => none

def bytesValue (number : Nat) (field : WireField) : Option Bytes :=
  match field.value with
  | .bytes content => if field.number = number then some content else none
  | _ => none

/-- A negative `int32` is sign-extended to 64 bits. -/
def int32Field (number : Nat) (value : Int32) : WireField :=
  { number := number
    value := .varint (value.toInt % 2 ^ 64).toNat }

def bytesField (number : Nat) (content : Bytes) : WireField :=
  { number := number
    value := .bytes content }

theorem int32Value_int32Field (number : Nat) (value : Int32) :
    int32Value number (int32Field number value) = some value := by
  have bounded := value.toInt_lt
  have low := value.le_toInt
  simp only [int32Value, int32Field, if_true, Option.some.injEq]
  apply Int32.toInt_inj.mp
  rw [Int32.toInt_ofNat', Int.bmod_def, show Int32.size = 4294967296 from rfl]
  split <;> omega

theorem bytesValue_bytesField (number : Nat) (content : Bytes) :
    bytesValue number (bytesField number content) = some content := by
  simp only [bytesValue, bytesField, if_true]

theorem int32Field_valid (number : Nat) (value : Int32) :
    (int32Field number value).value.Valid := trivial

theorem bytesField_valid (number : Nat) (content : Bytes) :
    (bytesField number content).value.Valid := trivial

theorem int32Field_length (number : Nat) (value : Int32) (small : number < 16) :
    1 < (int32Field number value).encode.length ∧
      (int32Field number value).encode.length ≤ 11 := by
  have tag : varintSize (8 * number + 0) ≤ 1 := varintSize_le (by omega) (by omega)
  have content : varintSize (value.toInt % 2 ^ 64).toNat ≤ 10 :=
    varintSize_le (by omega) (by omega)
  have tagPos := varintSize_pos (8 * number + 0)
  have contentPos := varintSize_pos (value.toInt % 2 ^ 64).toNat
  simp only [int32Field, WireField.encode, WireValue.wireType, WireValue.encode,
    List.length_append, varint_length]
  omega

theorem bytesField_length (number : Nat) (content : Bytes) (small : number < 16) :
    (bytesField number content).encode.length = entrySize content := by
  have tag : varintSize (8 * number + 2) ≤ 1 := varintSize_le (by omega) (by omega)
  have tagPos := varintSize_pos (8 * number + 2)
  simp only [bytesField, WireField.encode, WireValue.wireType, WireValue.encode,
    List.length_append, varint_length, entrySize]
  omega

/-! ### The messages -/

namespace SequenceHeader

def fields (header : SequenceHeader) : List WireField :=
  [int32Field 1 header.sequenceNumber]

def ofFields (fields : List WireField) : SequenceHeader :=
  { sequenceNumber := lastField (int32Value 1) 0 fields }

theorem ofFields_fields (header : SequenceHeader) : ofFields header.fields = header := by
  simp only [ofFields, fields, lastField, List.filterMap_cons, int32Value_int32Field,
    List.filterMap_nil, List.getLast?_singleton, Option.getD_some]

end SequenceHeader

namespace CatchupBuffer

def fields (catchup : CatchupBuffer) : List WireField :=
  catchup.buffer.map (bytesField 1)

def ofFields (fields : List WireField) : CatchupBuffer :=
  { buffer := fields.filterMap (bytesValue 1) }

theorem ofFields_fields (catchup : CatchupBuffer) : ofFields catchup.fields = catchup := by
  have selected : (fun content => bytesValue 1 (bytesField 1 content)) = some :=
    funext (bytesValue_bytesField 1)
  simp only [ofFields, fields, List.filterMap_map, Function.comp_def, selected,
    List.filterMap_some]

end CatchupBuffer

namespace ConnectRequest

def fields (request : ConnectRequest) : List WireField :=
  [bytesField 1 request.clientId, int32Field 2 request.version]

def ofFields (fields : List WireField) : ConnectRequest :=
  { clientId := lastField (bytesValue 1) [] fields
    version := lastField (int32Value 2) 0 fields }

theorem ofFields_fields (request : ConnectRequest) : ofFields request.fields = request := by
  simp only [ofFields, fields, lastField, List.filterMap_cons, bytesValue_bytesField,
    int32Value_int32Field, List.filterMap_nil]
  rfl

end ConnectRequest

namespace ConnectStatus

def number : ConnectStatus → Nat
  | NEW_CLIENT => 1
  | RETURNING_CLIENT => 2
  | INVALID_KEY => 3
  | MISMATCHED_PROTOCOL => 4

def ofNumber : Nat → Option ConnectStatus
  | 1 => some NEW_CLIENT
  | 2 => some RETURNING_CLIENT
  | 3 => some INVALID_KEY
  | 4 => some MISMATCHED_PROTOCOL
  | _ => none

def value (field : WireField) : Option ConnectStatus :=
  match field.value with
  | .varint number => if field.number = 1 then ofNumber number else none
  | _ => none

end ConnectStatus

namespace ConnectResponse

def fields (response : ConnectResponse) : List WireField :=
  { number := 1
    value := .varint response.status.number } ::
    if response.error = [] then [] else [bytesField 2 response.error]

def ofFields (fields : List WireField) : ConnectResponse :=
  { status := lastField ConnectStatus.value .NEW_CLIENT fields
    error := lastField (bytesValue 2) [] fields }

theorem ofFields_fields (response : ConnectResponse) :
    ofFields response.fields = response := by
  cases response with
  | mk status error =>
      by_cases empty : error = []
      · subst empty
        cases status <;> rfl
      · simp only [fields, empty, if_false]
        cases status <;> rfl

theorem fields_valid (response : ConnectResponse) :
    ∀ field ∈ response.fields, field.value.Valid := by
  intro field member
  simp only [fields, List.mem_cons] at member
  rcases member with rfl | member
  · trivial
  · split at member
    · cases member
    · rw [List.mem_singleton] at member
      subst member
      trivial

theorem fields_length (response : ConnectResponse) :
    (encodeFields response.fields).length ≤ 2 + entrySize response.error := by
  have status : (WireField.encode
      { number := 1
        value := .varint response.status.number }).length = 2 := by
    cases response.status <;> decide
  simp only [fields, encodeFields, List.flatMap_cons, List.length_append, status]
  split
  · simp only [List.flatMap_nil, List.length_nil]
    omega
  · simp only [List.flatMap_cons, List.flatMap_nil, List.append_nil,
      bytesField_length 2 response.error (by omega), le_refl]

end ConnectResponse

def messageOfFields {α : Type} (fields : α → List WireField) (ofFields : List WireField → α)
    (valid : ∀ message, ∀ field ∈ fields message, field.value.Valid)
    (ofFields_fields : ∀ message, ofFields (fields message) = message) : ProtoMessage α where
  serialize message := encodeFields (fields message)
  parse input := (decodeMessage input).map ofFields
  default := ofFields []
  parse_serialize := by
    intro message
    rw [decodeMessage_encodeFields (valid message), Option.map_some, ofFields_fields]
  parse_nil := rfl

/-- The generated code of `ET.proto`. -/
def Protobuf.standard : Protobuf where
  sequenceHeader := messageOfFields SequenceHeader.fields SequenceHeader.ofFields
    (by
      intro header field member
      rw [SequenceHeader.fields, List.mem_singleton] at member
      subst member
      trivial)
    SequenceHeader.ofFields_fields
  catchupBuffer := messageOfFields CatchupBuffer.fields CatchupBuffer.ofFields
    (by
      intro catchup field member
      obtain ⟨content, _, rfl⟩ := List.mem_map.mp member
      trivial)
    CatchupBuffer.ofFields_fields
  connectRequest := messageOfFields ConnectRequest.fields ConnectRequest.ofFields
    (by
      intro request field member
      simp only [ConnectRequest.fields, List.mem_cons, List.not_mem_nil, or_false] at member
      rcases member with rfl | rfl <;> trivial)
    ConnectRequest.ofFields_fields
  connectResponse := messageOfFields ConnectResponse.fields ConnectResponse.ofFields
    ConnectResponse.fields_valid ConnectResponse.ofFields_fields
  sequenceHeader_size := by
    intro header
    have bounds := int32Field_length 1 header.sequenceNumber (by omega)
    simp only [messageOfFields, SequenceHeader.fields, encodeFields, List.flatMap_cons,
      List.flatMap_nil, List.append_nil]
    omega
  catchupBuffer_size := by
    intro catchup
    simp only [messageOfFields, CatchupBuffer.fields, encodeFields, List.length_flatMap,
      List.map_map]
    congr 2
    funext content
    exact bytesField_length 1 content (by omega)
  connectRequest_size := by
    intro request
    have bound := int32Field_length 2 request.version (by omega)
    simp only [messageOfFields, ConnectRequest.fields, encodeFields, List.flatMap_cons,
      List.flatMap_nil, List.append_nil, List.length_append,
      bytesField_length 1 request.clientId (by omega)]
    omega
  connectResponse_size := ConnectResponse.fields_length

end EternalTerminal
