/-
`BackedReader`: frame reassembly, the local buffer of recovered packets, and
decryption.
-/

import EternalTerminal.Base.Packet
import EternalTerminal.Base.SocketHandler

namespace EternalTerminal

open Library

/-- The -1, 0 and 1 of `BackedReader::read`, with the errno and the packet that
go with them. -/
inductive ReadResult where
  | error (errno : Errno)
  | incomplete
  | packet (packet : Packet)
  deriving DecidableEq

structure BackedReader where
  cryptoHandler : CryptoHandler
  socketFd : Option Fd
  sequenceNumber : Nat
  localBuffer : List Bytes
  partialMessage : Bytes

namespace BackedReader

def create (cryptoHandler : CryptoHandler) (socketFd : Option Fd) : BackedReader :=
  { cryptoHandler := cryptoHandler
    socketFd := socketFd
    sequenceNumber := 0
    localBuffer := []
    partialMessage := [] }

/-- `socketHasData` is what `socketHandler->hasData` reports. -/
def hasData (reader : BackedReader) (socketHasData : Bool) : Bool :=
  match reader.socketFd with
  | none => false
  | some _ => !reader.localBuffer.isEmpty || socketHasData

/-- The 4-byte prefix read back by `ntohl` into an `int`. -/
def getPartialMessageLength (partialMessage : Bytes) : Int :=
  toInt32 (bigEndianValue (partialMessage.take 4))

def constructPartialMessage (box : SecretBox) (reader : BackedReader) :
    Action (ReadResult × BackedReader) :=
  let messageSize := getPartialMessageLength reader.partialMessage
  if toInt32 reader.partialMessage.length - 4 ≠ messageSize then
    .abort "Tried to construct a message that wasn't complete or over-filled"
  else do
    let serializedPacket := (reader.partialMessage.drop 4).take messageSize.toNat
    let packet ← Packet.deserialize serializedPacket
    let (packet, cryptoHandler) ← packet.decrypt box reader.cryptoHandler
    pure (.packet packet,
      { reader with
        cryptoHandler := cryptoHandler
        partialMessage := []
        sequenceNumber := reader.sequenceNumber + 1 })

/-- The part of `read` that follows a complete header.  A negative remainder
makes the string constructor throw. -/
def readBody (box : SecretBox) (reader : BackedReader) (fd : Fd) :
    Action (ReadResult × BackedReader) :=
  let messageLength := getPartialMessageLength reader.partialMessage
  let messageRemainder :=
    toInt32 (messageLength - ((reader.partialMessage.length : Int) - 4))
  if messageRemainder ≠ 0 then
    if messageRemainder < 0 then .raise .lengthError
    else do
      match ← SocketHandler.read fd messageRemainder.toNat with
      | .closed => pure (.error .epipe, reader)
      | .failed errno => pure (.error errno, reader)
      | .data bytes =>
          let reader :=
            { reader with partialMessage := reader.partialMessage ++ bytes }
          let messageRemainder := messageRemainder - bytes.length
          if messageRemainder = 0 then constructPartialMessage box reader
          else pure (.incomplete, reader)
  else constructPartialMessage box reader

/-- The part of `read` that follows the local buffer. -/
def readSocket (box : SecretBox) (reader : BackedReader) (fd : Fd) :
    Action (ReadResult × BackedReader) :=
  if reader.partialMessage.length < 4 then do
    match ← SocketHandler.read fd (4 - reader.partialMessage.length) with
    | .closed => pure (.error .epipe, reader)
    | .failed errno => pure (.error errno, reader)
    | .data bytes =>
        let reader :=
          { reader with partialMessage := reader.partialMessage ++ bytes }
        if reader.partialMessage.length < 4 then pure (.incomplete, reader)
        else readBody box reader fd
  else readBody box reader fd

def read (box : SecretBox) (reader : BackedReader) :
    Action (ReadResult × BackedReader) :=
  match reader.socketFd with
  | none => pure (.incomplete, reader)
  | some fd =>
      match reader.localBuffer with
      | front :: rest => do
          let packet ← Packet.deserialize front
          let (packet, cryptoHandler) ← packet.decrypt box reader.cryptoHandler
          pure (.packet packet,
            { reader with
              cryptoHandler := cryptoHandler
              localBuffer := rest })
      | [] => readSocket box reader fd

def revive (reader : BackedReader) (newSocketFd : Fd)
    (newLocalEntries : List Bytes) : BackedReader :=
  { reader with
    partialMessage := []
    localBuffer := reader.localBuffer ++ newLocalEntries
    sequenceNumber := reader.sequenceNumber + newLocalEntries.length
    socketFd := some newSocketFd }

def invalidateSocket (reader : BackedReader) : BackedReader :=
  { reader with socketFd := none }

end BackedReader

end EternalTerminal
