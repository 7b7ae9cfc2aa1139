/-
`ClientConnection::connect`.

`socketHandler->connect` is outside the socket operations; its result is a
parameter.  A connection that is not established is `none`.
-/

import EternalTerminal.Base.Connection
import EternalTerminal.Base.PeerSocket
import EternalTerminal.Base.Protobuf

namespace EternalTerminal

open Library
open SocketHandler

namespace ClientConnection

def fromBytes (bytes : Bytes) : String :=
  String.ofList (bytes.map fun byte => Char.ofNat byte.toNat)

def connectError (response : ConnectResponse) : String :=
  "Error connecting to server: " ++ toString response.status.number ++ ": " ++
    fromBytes response.error

def establish (key : Bytes) (socketFd : Fd) : Action Connection := do
  let readerHandler ← CryptoHandler.create key SERVER_CLIENT_NONCE_MSB
  let writerHandler ← CryptoHandler.create key CLIENT_SERVER_NONCE_MSB
  pure
    { reader := BackedReader.create readerHandler (some socketFd)
      writer := BackedWriter.create writerHandler (some socketFd)
      socketFd := some socketFd
      shuttingDown := false }

/-- The `try` block of `connect` on an open socket.  The response may be
RETURNING_CLIENT when an earlier attempt got as far as the server. -/
def requestConnection (proto : Protobuf) (id key : Bytes) (socketFd : Fd) :
    Action (Option Connection) := do
  writeProto proto.connectRequest socketFd
    { clientId := id, version := Int32.ofInt PROTOCOL_VERSION }
  let response ← readProto proto.connectResponse socketFd
  if response.status ≠ .NEW_CLIENT ∧ response.status ≠ .RETURNING_CLIENT then
    .raise (.runtimeError (connectError response))
  else do
    let connection ← establish key socketFd
    pure (some connection)

/-- The `catch` block of `connect`. -/
def connectFailed (socketFd : Fd) : Exn → Action (Option Connection)
  | .runtimeError _ => do
      SocketHandler.close socketFd
      pure none
  | exn => .raise exn

def connect (proto : Protobuf) (id key : Bytes) (socketFd : Option Fd) :
    Action (Option Connection) :=
  match socketFd with
  | none => pure none
  | some fd => tryCatch (requestConnection proto id key fd) (connectFailed fd)

theorem establish_valid (key : Key) (socketFd : Fd) :
    establish key.bytes socketFd =
      .done (Connection.create key SERVER_CLIENT_NONCE_MSB CLIENT_SERVER_NONCE_MSB
        (some socketFd)) := by
  simp only [establish, CryptoHandler.create, dif_pos key.length_eq, Program.pure_eq_done,
    Program.done_bind]
  rfl

theorem establish_invalid {key : Bytes} (invalid : key.length ≠ crypto_secretbox_KEYBYTES)
    (socketFd : Fd) : establish key socketFd = .abort "Invalid key length" := by
  simp only [establish, CryptoHandler.create, dif_neg invalid, Program.abort_bind]

/-- A connection that `connect` returns is fresh in both directions. -/
theorem connect_established {proto : Protobuf} {id key : Bytes} {fd : Fd}
    {socket after : PeerSocket} {connection : Connection}
    (run : Program.Run PeerSocket.answers socket (connect proto id key (some fd))
      (.returned (some connection)) after) :
    ∃ valid : Key, key = valid.bytes ∧
      connection =
        Connection.create valid SERVER_CLIENT_NONCE_MSB CLIENT_SERVER_NONCE_MSB (some fd) := by
  rcases Program.run_handle_iff.mp run with
    ⟨value, same, bodyRun⟩ | ⟨exn, between, _, handlerRun⟩ | ⟨_, impossible, _⟩
  · cases same
    rcases Program.run_bind_iff.mp bodyRun with
      ⟨_, written, _, readRun⟩ | ⟨_, impossible, _⟩ | ⟨_, impossible, _⟩
    case inr.inl => cases impossible
    case inr.inr => cases impossible
    rcases Program.run_bind_iff.mp readRun with
      ⟨response, received, _, acceptRun⟩ | ⟨_, impossible, _⟩ | ⟨_, impossible, _⟩
    case inr.inl => cases impossible
    case inr.inr => cases impossible
    split at acceptRun
    · cases acceptRun
    · by_cases valid : key.length = crypto_secretbox_KEYBYTES
      · have established := establish_valid { bytes := key, length_eq := valid } fd
        rw [established] at acceptRun
        obtain ⟨same, _⟩ := Program.run_done_iff.mp acceptRun
        cases same
        exact ⟨{ bytes := key, length_eq := valid }, rfl, rfl⟩
      · rw [establish_invalid valid] at acceptRun
        cases acceptRun
  · cases exn with
    | runtimeError what =>
        obtain ⟨answer, closed, _, ended⟩ := Program.run_perform_iff.mp handlerRun
        cases ended
    | lengthError => cases handlerRun
    | outOfRange => cases handlerRun
  · cases impossible

end ClientConnection

end EternalTerminal
