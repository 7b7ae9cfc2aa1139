/-
`Connection`: one endpoint of a session, and the recovery exchange.

The operations run under the connection mutex from beginning to end.  Starting
the client's reconnect thread is left to the model of that thread, so
`closeSocketAndMaybeReconnect` is here the base class's `closeSocket`.
-/

import EternalTerminal.Base.BackedReader
import EternalTerminal.Base.BackedWriter

namespace EternalTerminal

open Library

structure Connection where
  reader : BackedReader
  writer : BackedWriter
  socketFd : Option Fd
  shuttingDown : Bool

namespace Connection

def create (key : Key) (readerMSB writerMSB : UInt8) (socketFd : Option Fd) :
    Connection :=
  { reader := BackedReader.create (CryptoHandler.ofKey key readerMSB) socketFd
    writer := BackedWriter.create (CryptoHandler.ofKey key writerMSB) socketFd
    socketFd := socketFd
    shuttingDown := false }

def invalidated (connection : Connection) : Connection :=
  { connection with
    reader := connection.reader.invalidateSocket
    writer := connection.writer.invalidateSocket
    socketFd := none }

/-- The state that `closeSocket` leaves. -/
def closed (connection : Connection) : Connection :=
  if connection.socketFd = none then connection else connection.invalidated

theorem closed_of_dead {connection : Connection} (dead : connection.socketFd = none) :
    connection.closed = connection := if_pos dead

theorem closed_of_live {connection : Connection} (live : connection.socketFd ≠ none) :
    connection.closed = connection.invalidated := if_neg live

def closeSocket (connection : Connection) : Action Connection :=
  match connection.socketFd with
  | none => pure connection
  | some fd => do
      SocketHandler.close fd
      pure connection.invalidated

/-- The state that a successful `recover` leaves. -/
def revived (connection : Connection) (newSocketFd : Fd)
    (newLocalEntries : List Bytes) : Connection :=
  { connection with
    reader := connection.reader.revive newSocketFd newLocalEntries
    writer := connection.writer.revive newSocketFd
    socketFd := some newSocketFd }

/-- The header that `recover` announces; `set_sequencenumber` narrows the
`int64` count. -/
def sequenceHeader (connection : Connection) : SequenceHeader :=
  { sequenceNumber := Int32.ofInt connection.reader.sequenceNumber }

/-- The exchange inside the `try` block of `recover`. -/
def exchange (proto : Protobuf) (connection : Connection) (newSocketFd : Fd) :
    Action (Bool × Connection) := do
  SocketHandler.writeProto proto.sequenceHeader newSocketFd connection.sequenceHeader
  let remoteHeader ← SocketHandler.readProto proto.sequenceHeader newSocketFd
  let recoveredMessages ←
    connection.writer.recover remoteHeader.sequenceNumber.toInt
  SocketHandler.writeProto proto.catchupBuffer newSocketFd
    { buffer := recoveredMessages }
  let catchupBuffer ← SocketHandler.readProto proto.catchupBuffer newSocketFd
  pure (true, connection.revived newSocketFd catchupBuffer.buffer)

/-! The rest of the exchange after each of its messages. -/

section Exchange

variable (proto : Protobuf) (connection : Connection) (newSocketFd : Fd)

def afterCatchupRead (catchupBuffer : CatchupBuffer) : Action (Bool × Connection) :=
  pure (true, connection.revived newSocketFd catchupBuffer.buffer)

def afterCatchupWritten : Action (Bool × Connection) :=
  SocketHandler.readProto proto.catchupBuffer newSocketFd >>=
    connection.afterCatchupRead newSocketFd

def afterRecovered (recovered : List Bytes) : Action (Bool × Connection) :=
  SocketHandler.writeProto proto.catchupBuffer newSocketFd { buffer := recovered } >>= fun _ =>
    connection.afterCatchupWritten proto newSocketFd

def afterHeaderRead (remoteHeader : SequenceHeader) : Action (Bool × Connection) :=
  connection.writer.recover remoteHeader.sequenceNumber.toInt >>=
    connection.afterRecovered proto newSocketFd

def afterHeaderWritten : Action (Bool × Connection) :=
  SocketHandler.readProto proto.sequenceHeader newSocketFd >>=
    connection.afterHeaderRead proto newSocketFd

theorem exchange_eq :
    connection.exchange proto newSocketFd =
      SocketHandler.writeProto proto.sequenceHeader newSocketFd
          connection.sequenceHeader >>= fun _ =>
        connection.afterHeaderWritten proto newSocketFd := rfl

end Exchange

/-- The `catch` block of `recover`. -/
def recoverFailed (connection : Connection) (newSocketFd : Fd) :
    Exn → Action (Bool × Connection)
  | .runtimeError _ => do
      SocketHandler.close newSocketFd
      pure (false, connection)
  | exn => .raise exn

def recover (proto : Protobuf) (connection : Connection) (newSocketFd : Fd) :
    Action (Bool × Connection) :=
  tryCatch (connection.exchange proto newSocketFd)
    (connection.recoverFailed newSocketFd)

def shutdown (connection : Connection) : Action Connection :=
  { connection with shuttingDown := true }.closeSocket

def read (box : SecretBox) (connection : Connection) :
    Action (Option Packet × Connection) := do
  let (result, reader) ← connection.reader.read box
  let connection := { connection with reader := reader }
  match result with
  | .error _ =>
      -- skippable and serious errors alike sever the connection
      let connection ← connection.closeSocket
      pure (none, connection)
  | .incomplete => pure (none, connection)
  | .packet packet => pure (some packet, connection)

/-- What `write` makes of the writer's answer. -/
def writeFinished (connection : Connection) :
    BackedWriterWriteState → Action (Bool × Connection)
  | .SKIPPED => pure (false, connection)
  | .BUFFERED_ONLY => pure (true, connection)
  | .SUCCESS => pure (true, connection)
  | .WROTE_WITH_FAILURE => do
      let connection ← connection.closeSocket
      pure (true, connection)

def write (box : SecretBox) (connection : Connection) (packet : Packet) :
    Action (Bool × Connection) := do
  let (state, writer) ← connection.writer.write box packet
  { connection with writer := writer }.writeFinished state

def accepting (box : SecretBox) (connection : Connection) (packet : Packet) :
    Connection :=
  { connection with writer := connection.writer.accept box packet }

end Connection

end EternalTerminal
