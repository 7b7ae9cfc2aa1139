/-
What etterminal tells the router, and what `TerminalServer::run` makes of it.
-/

import EternalTerminal.Terminal.PacketPipe
import EternalTerminal.Terminal.Registry
import EternalTerminal.Terminal.TunnelMessages

namespace EternalTerminal

open Library

/-! ### The message -/

def int64Value (number : Nat) (field : WireField) : Option Int64 :=
  match field.value with
  | .varint value => if field.number = number then some (Int64.ofNat value) else none
  | _ => none

def int64Field (number : Nat) (value : Int64) : WireField :=
  { number := number
    value := .varint (value.toInt % 2 ^ 64).toNat }

theorem int64Value_int64Field (number : Nat) (value : Int64) :
    int64Value number (int64Field number value) = some value := by
  have bounded := value.toInt_lt
  have low := value.le_toInt
  simp only [int64Value, int64Field, if_true, Option.some.injEq]
  apply Int64.toInt_inj.mp
  rw [Int64.toInt_ofNat', Int.bmod_def, show Int64.size = 18446744073709551616 from rfl]
  split <;> omega

theorem int64Value_other (number : Nat) (field : WireField) (different : field.number ≠ number) :
    int64Value number field = none := by
  unfold int64Value
  split
  · exact if_neg different
  · rfl

def int64Type : FieldType Int64 where
  field := int64Field
  value := int64Value
  number_field _ _ := rfl
  valid_field _ _ := trivial
  value_field := int64Value_int64Field
  value_other := int64Value_other

structure UserInfoMessage where
  id : Bytes
  passkey : Bytes
  uid : UInt32
  gid : UInt32

namespace UserInfoMessage

def idNumber (number : UInt32) : Int64 := Int64.ofInt number.toNat

def fields (tui : UserInfoMessage) : List WireField :=
  bytesType.write 1 (some tui.id) ++ bytesType.write 2 (some tui.passkey) ++
    int64Type.write 3 (some (idNumber tui.uid)) ++ int64Type.write 4 (some (idNumber tui.gid))

def serialize (tui : UserInfoMessage) : Bytes := encodeFields tui.fields

def packet (tui : UserInfoMessage) : Packet := Packet.plain TERMINAL_USER_INFO tui.serialize

def info (tui : UserInfoMessage) : TerminalUserInfo :=
  { id := tui.id
    passkey := tui.passkey
    uid := tui.uid.toNat
    gid := tui.gid.toNat
    fd := 0 }

end UserInfoMessage

namespace TerminalUserInfo

def ofFields (fields : List WireField) : TerminalUserInfo :=
  { id := (bytesType.get 1 fields).getD []
    passkey := (bytesType.get 2 fields).getD []
    uid := ((int64Type.get 3 fields).map Int64.toInt).getD 0
    gid := ((int64Type.get 4 fields).map Int64.toInt).getD 0
    fd := ((int64Type.get 5 fields).map Int64.toInt).getD 0 }

def parse (input : Bytes) : Option TerminalUserInfo := (decodeMessage input).map ofFields

end TerminalUserInfo

namespace UserInfoMessage

theorem toInt_idNumber (number : UInt32) : (idNumber number).toInt = number.toNat := by
  have bounded := number.toNat_lt
  exact Int64.toInt_ofInt_of_le (by omega) (by omega)

theorem parse_serialize (tui : UserInfoMessage) :
    TerminalUserInfo.parse tui.serialize = some tui.info := by
  have valid : ∀ field ∈ tui.fields, field.value.Valid := by
    intro field member
    simp only [fields, List.mem_append] at member
    rcases member with ((isId | isPasskey) | isUid) | isGid
    · exact bytesType.write_valid isId
    · exact bytesType.write_valid isPasskey
    · exact int64Type.write_valid isUid
    · exact int64Type.write_valid isGid
  rw [TerminalUserInfo.parse, serialize, decodeMessage_encodeFields valid]
  simp [TerminalUserInfo.ofFields, fields, info, FieldType.get, List.filterMap_append,
    toInt_idNumber]

theorem int64Field_length (number : Nat) (content : Int64) (small : number < 16) :
    (int64Field number content).encode.length ≤ 11 := by
  have tag : varintSize (8 * number + 0) ≤ 1 := varintSize_le (by omega) (by omega)
  have size : varintSize (content.toInt % 2 ^ 64).toNat ≤ 10 := varintSize_le (by omega) (by omega)
  simp only [int64Field, WireField.encode, WireValue.wireType, WireValue.encode,
    List.length_append, varint_length]
  omega

theorem packet_fits {tui : UserInfoMessage} (idShort : tui.id.length < 2 ^ 20)
    (passkeyShort : tui.passkey.length < 2 ^ 20) :
    tui.packet.serialize.length ≤ SocketHandler.MAX_PROTO_BYTES := by
  have sizes {content : Bytes} (short : content.length < 2 ^ 20) :
      entrySize content ≤ 2 ^ 20 + 11 := by
    have size : varintSize content.length ≤ 10 := varintSize_le (by omega) (by omega)
    unfold entrySize
    omega
  have isId := bytesField_length 1 tui.id (by decide)
  have isPasskey := bytesField_length 2 tui.passkey (by decide)
  have isUid := int64Field_length 3 (idNumber tui.uid) (by decide)
  have isGid := int64Field_length 4 (idNumber tui.gid) (by decide)
  have idSize := sizes idShort
  have passkeySize := sizes passkeyShort
  have whole : tui.serialize = (bytesField 1 tui.id).encode ++ (bytesField 2 tui.passkey).encode ++
      (int64Field 3 (idNumber tui.uid)).encode ++ (int64Field 4 (idNumber tui.gid)).encode := by
    simp [serialize, fields, encodeFields, FieldType.write, bytesType, int64Type]
  rw [Packet.serialize_length, Packet.length, packet, Packet.plain, whole]
  simp only [List.length_append, Packet.HEADER_SIZE, SocketHandler.MAX_PROTO_BYTES]
  omega

/-- The packet is user info for the router, whatever follows it. -/
theorem packet_sends {tui : UserInfoMessage} (idShort : tui.id.length < 2 ^ 20)
    (passkeyShort : tui.passkey.length < 2 ^ 20) :
    Sends TerminalUserInfo.parse (packetFrame tui.packet) tui.info :=
  ⟨tui.packet.serialize, ⟨packet_fits idShort passkeyShort, List.prefix_rfl⟩, 0, tui.serialize,
    rfl, tui.parse_serialize⟩

end UserInfoMessage

/-! ### The server -/

namespace ServerRegistry

/-- The part of `TerminalServer::run` that serves the router's socket. -/
def acceptTerminal (server : ServerRegistry) (terminalFd : Fd) (stream : Bytes) :
    Outcome Exn ServerRegistry :=
  match (server.router.acceptRun TerminalUserInfo.parse (.connected terminalFd) stream).1 with
  | .returned (idKeyPair, router) =>
      let accepted := { server with router := router }
      .returned
        (if idKeyPair.id = [] then accepted
        else accepted.addClientKey idKeyPair.id idKeyPair.key)
  | .raised exn => .raised exn
  | .aborted message => .aborted message

def enrolled (server : ServerRegistry) (tui : UserInfoMessage) (terminalFd : Fd) :
    ServerRegistry :=
  { server with
    clientKeys := Function.update server.clientKeys tui.id (some tui.passkey)
    router :=
      { idInfoMap := Function.update server.router.idInfoMap tui.id
          (some { tui.info with fd := terminalFd }) } }

/-- A client that gives this id is answered NEW_CLIENT, its connection has this passkey, and its
session this terminal. -/
structure Admits (server : ServerRegistry) (id passkey : Bytes) (terminalFd : Fd) : Prop where
  connects : ∃ connection after, server.lookup id = .ok (.created connection, after) ∧
    after.objects[connection]? = some { id := id, key := passkey }
  terminal : ∃ info, server.router.tryGetInfoForConnection { id := id, key := passkey } =
    .ok (some info) ∧ info.fd = terminalFd

variable {server : ServerRegistry} {tui : UserInfoMessage} {terminalFd : Fd} {id : Bytes}

theorem acceptTerminal_new (idShort : tui.id.length < 2 ^ 20)
    (passkeyShort : tui.passkey.length < 2 ^ 20) (named : tui.id ≠ [])
    (new : server.router.idInfoMap tui.id = none) :
    server.acceptTerminal terminalFd (packetFrame tui.packet) =
      .returned (server.enrolled tui terminalFd) := by
  obtain ⟨rest, accepted⟩ := UserTerminalRouter.acceptRun_of_new terminalFd
    (UserInfoMessage.packet_sends idShort passkeyShort) new
  rw [acceptTerminal, accepted]
  exact congrArg Outcome.returned (if_neg named)

theorem enrolled_admits (long : tui.passkey.length = crypto_secretbox_KEYBYTES)
    (unconnected : server.clientConnections tui.id = none) :
    (server.enrolled tui terminalFd).Admits tui.id tui.passkey terminalFd := by
  have unknown : (server.enrolled tui terminalFd).clientConnectionExists tui.id = false := by
    rw [clientConnectionExists, enrolled, unconnected]
    rfl
  have registered : (server.enrolled tui terminalFd).clientKeys tui.id = some tui.passkey :=
    Function.update_self _ _ _
  have connects : (server.enrolled tui terminalFd).lookup tui.id =
      (server.enrolled tui terminalFd).create tui.id tui.passkey := by
    rw [lookup, if_neg (by simp [unknown]), registered]
  constructor
  · exact ⟨server.objects.length, _, connects.trans (if_pos long), List.getElem?_concat_length⟩
  · have known : (server.enrolled tui terminalFd).router.idInfoMap tui.id =
        some { tui.info with fd := terminalFd } := Function.update_self _ _ _
    refine ⟨{ tui.info with fd := terminalFd }, ?_, rfl⟩
    rw [UserTerminalRouter.tryGetInfoForConnection, known]
    exact if_pos ((ServerClientIdentity.verifyPasskey_iff _ _).mpr rfl)

/-- An id without a key has no session, also when a connection is left over. -/
theorem lookup_unknown (unknown : server.clientKeys id = none) :
    server.lookup id = .ok (.notRegistered, server) := by
  unfold lookup
  cases exists_ : server.clientConnectionExists id with
  | false =>
      rw [if_neg Bool.false_ne_true, unknown]
  | true =>
      have noKey : server.clientKeyExists id = false := by
        rw [clientKeyExists, unknown]
        rfl
      obtain ⟨connection, found⟩ := getClientConnection_found exists_
      simp [noKey, found]

end ServerRegistry

end EternalTerminal
