/-
The socket operations the connection code performs, and the length-prefixed
protobuf framing of `SocketHandler.hpp`.

An action is a finite program over these operations.  Retry loops belong to the
operations: `writeAll` hands a buffer to the descriptor in order until all of it
is out or a call fails, `readAll` waits for exactly the bytes it was asked for.
-/

import EternalTerminal.Base.Headers
import EternalTerminal.Library.WireFormat

namespace EternalTerminal

open Library

inductive SocketCall where
  | writeAll (fd : Fd) (buffer : Bytes)
  | readAll (fd : Fd) (count : Nat)
  | read (fd : Fd) (count : Nat)
  | close (fd : Fd)

/-- What one `SocketHandler::read` returns: bytes, 0 at the end of the stream,
or -1 with an errno. -/
inductive ReadAnswer where
  | data (bytes : Bytes)
  | closed
  | failed (errno : Errno)

/-- The error of `writeAll` and `readAll` is the text of the exception. -/
def SocketCall.Answer : SocketCall → Type
  | .writeAll _ _ => Except String Unit
  | .readAll _ _ => Except String Bytes
  | .read _ _ => ReadAnswer
  | .close _ => Unit

abbrev sockets : Signature :=
  { Operation := SocketCall
    Answer := SocketCall.Answer }

abbrev Action := Program sockets Exn

namespace SocketHandler

def writeAllOrThrow (fd : Fd) (buffer : Bytes) : Action Unit :=
  .perform (.writeAll fd buffer) fun
    | .ok () => pure ()
    | .error what => .raise (.runtimeError what)

def readAll (fd : Fd) (count : Nat) : Action Bytes :=
  .perform (.readAll fd count) fun
    | .ok bytes => pure bytes
    | .error what => .raise (.runtimeError what)

def read (fd : Fd) (count : Nat) : Action ReadAnswer :=
  .perform (.read fd count) pure

def close (fd : Fd) : Action Unit :=
  .perform (.close fd) pure

/-- The size limit of `readProto`, `writeProto` and the packet framing. -/
def MAX_PROTO_BYTES : Nat := 128 * 1024 * 1024

end SocketHandler

/-- The generated class of a protobuf message: `SerializeToString`,
`ParseFromString` (`none` is its false) and the default-constructed message,
which is what an empty string parses to. -/
structure ProtoMessage (α : Type) where
  serialize : α → Bytes
  parse : Bytes → Option α
  default : α
  parse_serialize : ∀ message, parse (serialize message) = some message
  parse_nil : parse [] = some default

namespace SocketHandler

variable {α : Type}

/-- The bytes `writeProto` puts on the wire for a serialized message. -/
def protoFrame (serialized : Bytes) : Bytes :=
  littleEndian 8 serialized.length ++ serialized

/-- A message above the limit aborts.  (`SerializeToString` itself fails from
2 GB on, and that aborts as well.) -/
def writeProto (proto : ProtoMessage α) (fd : Fd) (message : α) : Action Unit :=
  let serialized := proto.serialize message
  if serialized.length > MAX_PROTO_BYTES then
    .abort ("Invalid proto length: " ++ toString serialized.length)
  else do
    writeAllOrThrow fd (littleEndian 8 serialized.length)
    if serialized.length > 0 then
      writeAllOrThrow fd serialized

/-- What `readProto` does with the eight bytes of the length. -/
def readProtoBody (proto : ProtoMessage α) (fd : Fd) (length : Int) : Action α :=
  if length < 0 ∨ length > MAX_PROTO_BYTES then
    .raise (.runtimeError ("Invalid size (<0 or >128 MB): " ++ toString length))
  else if length = 0 then pure proto.default
  else do
    let serialized ← readAll fd length.toNat
    match proto.parse serialized with
    | none => .raise (.runtimeError "Invalid proto")
    | some message => pure message

def readProto (proto : ProtoMessage α) (fd : Fd) : Action α := do
  let prefixBytes ← readAll fd 8
  readProtoBody proto fd (toInt64 (littleEndianValue prefixBytes))

@[simp] theorem protoFrame_length (serialized : Bytes) :
    (protoFrame serialized).length = 8 + serialized.length := by
  simp only [protoFrame, List.length_append, littleEndian_length]

theorem toInt64_littleEndian {length : Nat} (fits : length ≤ MAX_PROTO_BYTES) :
    toInt64 (littleEndianValue (littleEndian 8 length)) = length := by
  have small : length < 256 ^ 8 := by
    unfold MAX_PROTO_BYTES at fits
    omega
  rw [littleEndianValue_littleEndian, Nat.mod_eq_of_lt small]
  apply toInt64_eq_self
  unfold MAX_PROTO_BYTES at fits
  omega

end SocketHandler

/-! ### The messages of `ET.proto`

A `string` field holds bytes, as `std::string` does. -/

/-- `sequenceNumber` is an `int32` field. -/
structure SequenceHeader where
  sequenceNumber : Int32
  deriving DecidableEq

structure CatchupBuffer where
  buffer : List Bytes
  deriving DecidableEq

structure ConnectRequest where
  clientId : Bytes
  version : Int32
  deriving DecidableEq

inductive ConnectStatus where
  | NEW_CLIENT
  | RETURNING_CLIENT
  | INVALID_KEY
  | MISMATCHED_PROTOCOL
  deriving DecidableEq

structure ConnectResponse where
  status : ConnectStatus
  error : Bytes
  deriving DecidableEq

/-- The bytes one entry of a `repeated bytes` field of number below 16 takes:
tag, length and content. -/
def entrySize (entry : Bytes) : Nat :=
  1 + varintSize entry.length + entry.length

/-- The generated code of `ET.proto`, with the sizes the protobuf encoding
gives its messages. -/
structure Protobuf where
  sequenceHeader : ProtoMessage SequenceHeader
  catchupBuffer : ProtoMessage CatchupBuffer
  connectRequest : ProtoMessage ConnectRequest
  connectResponse : ProtoMessage ConnectResponse
  sequenceHeader_size : ∀ header,
    0 < (sequenceHeader.serialize header).length ∧
      (sequenceHeader.serialize header).length ≤ 11
  catchupBuffer_size : ∀ catchup,
    (catchupBuffer.serialize catchup).length = (catchup.buffer.map entrySize).sum
  connectRequest_size : ∀ request,
    (connectRequest.serialize request).length ≤ entrySize request.clientId + 11
  connectResponse_size : ∀ response,
    (connectResponse.serialize response).length ≤ 2 + entrySize response.error

theorem Protobuf.sequenceHeader_fits (proto : Protobuf) (header : SequenceHeader) :
    (proto.sequenceHeader.serialize header).length ≤ SocketHandler.MAX_PROTO_BYTES := by
  have bound := (proto.sequenceHeader_size header).2
  unfold SocketHandler.MAX_PROTO_BYTES
  omega

theorem Protobuf.connectRequest_fits (proto : Protobuf) (request : ConnectRequest)
    (short : request.clientId.length ≤ 1000) :
    (proto.connectRequest.serialize request).length ≤ SocketHandler.MAX_PROTO_BYTES := by
  have bound := proto.connectRequest_size request
  have lengthBytes : varintSize request.clientId.length ≤ 2 :=
    varintSize_le (by omega) (by omega)
  unfold entrySize at bound
  unfold SocketHandler.MAX_PROTO_BYTES
  omega

theorem Protobuf.connectResponse_fits (proto : Protobuf) (response : ConnectResponse)
    (short : response.error.length ≤ 1000) :
    (proto.connectResponse.serialize response).length ≤ SocketHandler.MAX_PROTO_BYTES := by
  have bound := proto.connectResponse_size response
  have lengthBytes : varintSize response.error.length ≤ 2 :=
    varintSize_le (by omega) (by omega)
  unfold entrySize at bound
  unfold SocketHandler.MAX_PROTO_BYTES
  omega

end EternalTerminal
