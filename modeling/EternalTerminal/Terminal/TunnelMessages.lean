/-
The packets of the port forward handlers, as they are written to a connection and read from it.
-/

import EternalTerminal.Library.OptionalFields
import EternalTerminal.Terminal.PortForwardHandler
import EternalTerminal.Terminal.TerminalClientRun

namespace EternalTerminal

open Library

/-! ### Types of fields -/

def bytesType : FieldType Bytes where
  field := bytesField
  value := bytesValue
  number_field _ _ := rfl
  valid_field := bytesField_valid
  value_field := bytesValue_bytesField
  value_other := by
    intro number field different
    unfold bytesValue
    split
    · exact if_neg different
    · rfl

def int32Type : FieldType Int32 where
  field := int32Field
  value := int32Value
  number_field _ _ := rfl
  valid_field := int32Field_valid
  value_field := int32Value_int32Field
  value_other := by
    intro number field different
    unfold int32Value
    split
    · exact if_neg different
    · rfl

def boolType : FieldType Bool where
  field number content :=
    { number := number
      value := .varint (if content then 1 else 0) }
  value number field :=
    match field.value with
    | .varint value => if field.number = number then some (value != 0) else none
    | _ => none
  number_field _ _ := rfl
  valid_field _ _ := trivial
  value_field := by
    intro number content
    cases content with
    | true | false => exact if_pos rfl
  value_other := by
    intro number field different
    split
    · exact if_neg different
    · rfl

/-! ### The messages -/

namespace SocketEndpoint

def fields (endpoint : SocketEndpoint) : List WireField :=
  bytesType.write 1 endpoint.name ++ int32Type.write 2 (endpoint.port.map Int32.ofInt)

def ofFields (fields : List WireField) : SocketEndpoint :=
  { name := bytesType.get 1 fields
    port := (int32Type.get 2 fields).map Int32.toInt }

def serialize (endpoint : SocketEndpoint) : Bytes := encodeFields endpoint.fields

def parse (input : Bytes) : Option SocketEndpoint := (decodeMessage input).map ofFields

end SocketEndpoint

theorem IsInt.toInt_ofInt {value : Int} (isInt : IsInt value) :
    (Int32.ofInt value).toInt = value :=
  Int32.toInt_ofInt_of_le isInt.1 isInt.2

theorem SocketEndpoint.parse_serialize {endpoint : SocketEndpoint}
    (isInt : ∀ port, endpoint.port = some port → IsInt port) :
    parse endpoint.serialize = some endpoint := by
  have valid : ∀ field ∈ endpoint.fields, field.value.Valid := by
    intro field member
    rcases List.mem_append.mp member with isName | isPort
    · exact bytesType.write_valid isName
    · exact int32Type.write_valid isPort
  obtain ⟨name, port⟩ := endpoint
  rw [parse, serialize, decodeMessage_encodeFields valid]
  have same : (port.map Int32.ofInt).map Int32.toInt = port := by
    cases port with
    | none => rfl
    | some port => exact congrArg some (isInt port rfl).toInt_ofInt
  simp [ofFields, fields, FieldType.get, List.filterMap_append, same]

/-- An embedded message that is malformed makes the whole malformed. -/
structure DestinationRequestMessage where
  destination : Option Bytes
  fd : Option Int32

structure DestinationResponseMessage where
  clientfd : Option Int32
  socketid : Option Int32
  error : Option Bytes

structure ForwardDataMessage where
  sourcetodestination : Option Bool
  socketid : Option Int32
  buffer : Option Bytes
  error : Option Bytes
  closed : Option Bool

namespace DestinationRequestMessage

def fields (pfdr : DestinationRequestMessage) : List WireField :=
  bytesType.write 1 pfdr.destination ++ int32Type.write 2 pfdr.fd

def ofFields (fields : List WireField) : DestinationRequestMessage :=
  { destination := bytesType.get 1 fields
    fd := int32Type.get 2 fields }

theorem ofFields_fields (pfdr : DestinationRequestMessage) : ofFields pfdr.fields = pfdr := by
  simp [ofFields, fields, FieldType.get, List.filterMap_append]

theorem fields_valid (pfdr : DestinationRequestMessage) :
    ∀ field ∈ pfdr.fields, field.value.Valid := by
  intro field member
  rcases List.mem_append.mp member with isDestination | isFd
  · exact bytesType.write_valid isDestination
  · exact int32Type.write_valid isFd

end DestinationRequestMessage

namespace DestinationResponseMessage

def fields (pfdr : DestinationResponseMessage) : List WireField :=
  int32Type.write 1 pfdr.clientfd ++ int32Type.write 2 pfdr.socketid ++
    bytesType.write 3 pfdr.error

def ofFields (fields : List WireField) : DestinationResponseMessage :=
  { clientfd := int32Type.get 1 fields
    socketid := int32Type.get 2 fields
    error := bytesType.get 3 fields }

theorem ofFields_fields (pfdr : DestinationResponseMessage) : ofFields pfdr.fields = pfdr := by
  simp [ofFields, fields, FieldType.get, List.filterMap_append]

theorem fields_valid (pfdr : DestinationResponseMessage) :
    ∀ field ∈ pfdr.fields, field.value.Valid := by
  intro field member
  simp only [fields, List.mem_append] at member
  rcases member with (isClientfd | isSocketid) | isError
  · exact int32Type.write_valid isClientfd
  · exact int32Type.write_valid isSocketid
  · exact bytesType.write_valid isError

end DestinationResponseMessage

namespace ForwardDataMessage

def fields (pwd : ForwardDataMessage) : List WireField :=
  boolType.write 1 pwd.sourcetodestination ++ int32Type.write 2 pwd.socketid ++
    bytesType.write 3 pwd.buffer ++ bytesType.write 4 pwd.error ++ boolType.write 5 pwd.closed

def ofFields (fields : List WireField) : ForwardDataMessage :=
  { sourcetodestination := boolType.get 1 fields
    socketid := int32Type.get 2 fields
    buffer := bytesType.get 3 fields
    error := bytesType.get 4 fields
    closed := boolType.get 5 fields }

theorem ofFields_fields (pwd : ForwardDataMessage) : ofFields pwd.fields = pwd := by
  simp [ofFields, fields, FieldType.get, List.filterMap_append]

theorem fields_valid (pwd : ForwardDataMessage) :
    ∀ field ∈ pwd.fields, field.value.Valid := by
  intro field member
  simp only [fields, List.mem_append] at member
  rcases member with (((isDirection | isSocketid) | isBuffer) | isError) | isClosed
  · exact boolType.write_valid isDirection
  · exact int32Type.write_valid isSocketid
  · exact bytesType.write_valid isBuffer
  · exact bytesType.write_valid isError
  · exact boolType.write_valid isClosed

end ForwardDataMessage

def portForwardDestinationRequest : ProtoMessage DestinationRequestMessage :=
  messageOfFields DestinationRequestMessage.fields DestinationRequestMessage.ofFields
    DestinationRequestMessage.fields_valid DestinationRequestMessage.ofFields_fields

def portForwardDestinationResponse : ProtoMessage DestinationResponseMessage :=
  messageOfFields DestinationResponseMessage.fields DestinationResponseMessage.ofFields
    DestinationResponseMessage.fields_valid DestinationResponseMessage.ofFields_fields

def portForwardData : ProtoMessage ForwardDataMessage :=
  messageOfFields ForwardDataMessage.fields ForwardDataMessage.ofFields
    ForwardDataMessage.fields_valid ForwardDataMessage.ofFields_fields

/-! ### Writing -/

namespace PortForwardContent

/-- `update` sets one of the three fields. -/
def message (strerror : Errno → Bytes) (sourcetodestination : Bool) (socketid : Int) :
    PortForwardContent → ForwardDataMessage
  | .buffer bytes =>
      { sourcetodestination := some sourcetodestination
        socketid := some (Int32.ofInt socketid)
        buffer := some bytes
        error := none
        closed := none }
  | .error errno =>
      { sourcetodestination := some sourcetodestination
        socketid := some (Int32.ofInt socketid)
        buffer := none
        error := some (strerror errno)
        closed := none }
  | .closed =>
      { sourcetodestination := some sourcetodestination
        socketid := some (Int32.ofInt socketid)
        buffer := none
        error := none
        closed := some true }

end PortForwardContent

def PortForwardDestinationResponse.message (pfdr : PortForwardDestinationResponse) :
    DestinationResponseMessage :=
  match pfdr.result with
  | .ok socketid =>
      { clientfd := some (Int32.ofInt pfdr.clientfd)
        socketid := some (Int32.ofInt socketid)
        error := none }
  | .error what =>
      { clientfd := some (Int32.ofInt pfdr.clientfd)
        socketid := none
        error := some (ServerConnection.toBytes what) }

namespace TunnelPacket

def packet (strerror : Errno → Bytes) : TunnelPacket → Packet
  | .destinationRequest pfdr =>
      Packet.plain PORT_FORWARD_DESTINATION_REQUEST
        (portForwardDestinationRequest.serialize
          { destination := some pfdr.destination.serialize
            fd := some (Int32.ofInt pfdr.fd) })
  | .destinationResponse pfdr =>
      Packet.plain PORT_FORWARD_DESTINATION_RESPONSE
        (portForwardDestinationResponse.serialize pfdr.message)
  | .data pwd =>
      Packet.plain PORT_FORWARD_DATA
        (portForwardData.serialize
          (pwd.content.message strerror pwd.sourcetodestination pwd.socketid))

/-- Descriptors, ids and ports are `int`s. -/
def Fits : TunnelPacket → Prop
  | .destinationRequest pfdr =>
      IsInt pfdr.fd ∧ ∀ port, pfdr.destination.port = some port → IsInt port
  | .destinationResponse pfdr =>
      IsInt pfdr.clientfd ∧ ∀ socketid, pfdr.result = .ok socketid → IsInt socketid
  | .data pwd => IsInt pwd.socketid

end TunnelPacket

/-! ### Reading -/

/-- What `handlePacket` looks at; the text of an error it only logs. -/
def ForwardDataMessage.content (pwd : ForwardDataMessage) : PortForwardContent :=
  if pwd.closed.isSome then .closed
  else if pwd.error.isSome then .error (.other 0)
  else .buffer (pwd.buffer.getD [])

namespace Packet

def tunnelData (packet : Packet) : Option TunnelPacket :=
  (portForwardData.parse packet.payload).map fun pwd =>
    .data
      { sourcetodestination := pwd.sourcetodestination.getD false
        socketid := (pwd.socketid.getD 0).toInt
        content := pwd.content }

def tunnelRequest (packet : Packet) : Option TunnelPacket := do
  let pfdr ← portForwardDestinationRequest.parse packet.payload
  let destination ← SocketEndpoint.parse (pfdr.destination.getD [])
  some
    (.destinationRequest
      { destination := destination
        fd := (pfdr.fd.getD 0).toInt.toNat
        connection := 0 })

def tunnelResponse (packet : Packet) : Option TunnelPacket :=
  (portForwardDestinationResponse.parse packet.payload).map fun pfdr =>
    .destinationResponse
      { clientfd := (pfdr.clientfd.getD 0).toInt.toNat
        result := if pfdr.error.isSome then .error "" else .ok (pfdr.socketid.getD 0).toInt }

/-- `handlePacket` aborts where this is `none`. -/
def tunnelPacket? (packet : Packet) : Option TunnelPacket :=
  if packet.header = PORT_FORWARD_DATA then packet.tunnelData
  else if packet.header = PORT_FORWARD_DESTINATION_REQUEST then packet.tunnelRequest
  else if packet.header = PORT_FORWARD_DESTINATION_RESPONSE then packet.tunnelResponse
  else none

end Packet

/-! ### What comes through -/

namespace TunnelPacket

def seen : TunnelPacket → TunnelPacket
  | .destinationRequest pfdr => .destinationRequest { pfdr with connection := 0 }
  | .destinationResponse pfdr =>
      .destinationResponse
        { pfdr with result := pfdr.result.mapError fun _ => "" }
  | .data pwd =>
      .data
        { pwd with
          content := match pwd.content with
            | .error _ => .error (.other 0)
            | content => content }

variable {strerror : Errno → Bytes}

theorem packet_isForward (tunnel : TunnelPacket) :
    (tunnel.packet strerror).isForward = true := by
  cases tunnel with
  | destinationRequest pfdr | destinationResponse pfdr | data pwd => rfl

theorem tunnelPacket?_packet {tunnel : TunnelPacket} (fits : tunnel.Fits) :
    (tunnel.packet strerror).tunnelPacket? = some tunnel.seen := by
  cases tunnel with
  | destinationRequest pfdr =>
      obtain ⟨destination, fd, connection⟩ := pfdr
      obtain ⟨isFd, isPort⟩ : IsInt fd ∧ ∀ port, destination.port = some port → IsInt port := fits
      have parsed := SocketEndpoint.parse_serialize isPort
      show Packet.tunnelRequest _ = _
      simp only [Packet.tunnelRequest, packet, Packet.plain,
        portForwardDestinationRequest.parse_serialize, Option.bind_eq_bind, Option.bind_some,
        Option.getD_some, parsed, isFd.toInt_ofInt, Int.toNat_natCast]
      rfl
  | destinationResponse pfdr =>
      obtain ⟨clientfd, result⟩ := pfdr
      obtain ⟨isFd, isId⟩ : IsInt clientfd ∧ ∀ socketid, result = .ok socketid → IsInt socketid :=
        fits
      show Packet.tunnelResponse _ = _
      simp only [Packet.tunnelResponse, packet, Packet.plain,
        portForwardDestinationResponse.parse_serialize, Option.map_some]
      cases result with
      | ok socketid =>
          have sameId := (isId socketid rfl).toInt_ofInt
          simp only [PortForwardDestinationResponse.message, Option.getD_some, isFd.toInt_ofInt,
            Int.toNat_natCast, sameId]
          rfl
      | error what =>
          simp only [PortForwardDestinationResponse.message, Option.getD_some, isFd.toInt_ofInt,
            Int.toNat_natCast]
          rfl
  | data pwd =>
      obtain ⟨sourcetodestination, socketid, content⟩ := pwd
      have sameId := IsInt.toInt_ofInt (show IsInt socketid from fits)
      show Packet.tunnelData _ = _
      simp only [Packet.tunnelData, packet, Packet.plain, portForwardData.parse_serialize]
      cases content with
      | buffer bytes | error errno | closed =>
          simp [PortForwardContent.message, ForwardDataMessage.content, sameId, seen]

end TunnelPacket

/-- A handler does the same with what it sees; it only records the connection. -/
theorem PortForwardHandler.handlePacket_seen (handler : PortForwardHandler)
    (answers : PacketAnswers) (table : DescriptorTable) (tunnel : TunnelPacket) :
    let seen := handler.handlePacket answers table tunnel.seen
    let result := handler.handlePacket answers table tunnel
    seen.1 = result.1 ∧ seen.2.1 = result.2.1 ∧ seen.2.2.1 = result.2.2.1 := by
  cases tunnel with
  | destinationRequest pfdr => exact ⟨rfl, rfl, rfl⟩
  | destinationResponse pfdr =>
      obtain ⟨clientfd, result⟩ := pfdr
      cases result with
      | ok socketid | error what => exact ⟨rfl, rfl, rfl⟩
  | data pwd =>
      obtain ⟨sourcetodestination, socketid, content⟩ := pwd
      cases content with
      | buffer bytes | error errno | closed =>
          cases sourcetodestination with
          | true | false => exact ⟨rfl, rfl, rfl⟩

end EternalTerminal
