/-
`ServerConnection::clientHandler` against an arbitrary peer.

`Aborts` names the byte strings that end the process.  On any other the handler
returns, and no client but the one that the peer named has changed.
-/

import EternalTerminal.Base.Protobuf
import EternalTerminal.Base.ReconnectingPeer
import EternalTerminal.Base.ServerConnection
import EternalTerminal.Library.TransitionSystem

namespace EternalTerminal

open Library
open SocketHandler

namespace ServerConnection

variable {proto : Protobuf} {newClient : Bytes → Connection → Bool}
  {server after : ServerConnection} {fd : Fd} {id : Bytes}
  {socket last : PeerSocket}

/-- Nothing but the entries of `id` differs. -/
def ChangesOnly (server : ServerConnection) (id : Bytes) (after : ServerConnection) : Prop :=
  ∀ other, other ≠ id →
    after.clientConnections other = server.clientConnections other ∧
      after.clientKeys other = server.clientKeys other

theorem ChangesOnly.refl (server : ServerConnection) (id : Bytes) :
    server.ChangesOnly id server := by
  intro other different
  exact ⟨rfl, rfl⟩

theorem ChangesOnly.insertConnection (changes : server.ChangesOnly id after)
    (connection : Connection) :
    server.ChangesOnly id (after.insertConnection id connection) := by
  intro other different
  constructor
  · show Function.update after.clientConnections id (some connection) other = _
    rw [Function.update_of_ne different, (changes other different).1]
  · exact (changes other different).2

theorem ChangesOnly.eraseConnection (changes : server.ChangesOnly id after) :
    server.ChangesOnly id (after.eraseConnection id) := by
  intro other different
  constructor
  · show Function.update after.clientConnections id none other = _
    rw [Function.update_of_ne different, (changes other different).1]
  · exact (changes other different).2

theorem ChangesOnly.eraseKey (changes : server.ChangesOnly id after) :
    server.ChangesOnly id
      { after with clientKeys := Function.update after.clientKeys id none } := by
  intro other different
  constructor
  · exact (changes other different).1
  · show Function.update after.clientKeys id none other = _
    rw [Function.update_of_ne different, (changes other different).2]

/-! ### Steps of the handler -/

theorem shutdown_run {connection : Connection} {outcome : Outcome Exn Connection}
    (run : Program.Run PeerSocket.answers socket connection.shutdown outcome last) :
    ∃ result, outcome = .returned result :=
  ⟨_, (Connection.closeSocket_peer_run run).1⟩

theorem destroyPartialConnection_run {outcome : Outcome Exn ServerConnection}
    (changes : server.ChangesOnly id after)
    (run : Program.Run PeerSocket.answers socket (after.destroyPartialConnection id) outcome
      last) :
    ∃ result, outcome = .returned result ∧ server.ChangesOnly id result := by
  unfold destroyPartialConnection at run
  split at run
  · exact ⟨after, (Program.run_done_iff.mp run).1, changes⟩
  · rcases Program.run_bind_iff.mp run with
      ⟨_, between, _, ended⟩ | ⟨exn, _, shutdownRun⟩ | ⟨message, _, shutdownRun⟩
    · exact ⟨_, (Program.run_done_iff.mp ended).1, changes.eraseConnection⟩
    · obtain ⟨_, impossible⟩ := shutdown_run shutdownRun
      cases impossible
    · obtain ⟨_, impossible⟩ := shutdown_run shutdownRun
      cases impossible

theorem removeClient_run {outcome : Outcome Exn (Bool × ServerConnection)}
    (changes : server.ChangesOnly id after)
    (run : Program.Run PeerSocket.answers socket (after.removeClient id) outcome last) :
    ∃ removed result, outcome = .returned (removed, result) ∧
      server.ChangesOnly id result := by
  unfold removeClient at run
  split at run
  · exact ⟨false, after, (Program.run_done_iff.mp run).1, changes⟩
  · simp only at run
    split at run
    · exact ⟨true, _, (Program.run_done_iff.mp run).1, changes.eraseKey⟩
    · rcases Program.run_bind_iff.mp run with
        ⟨_, between, _, ended⟩ | ⟨exn, _, shutdownRun⟩ | ⟨message, _, shutdownRun⟩
      · exact ⟨true, _, (Program.run_done_iff.mp ended).1, changes.eraseKey.eraseConnection⟩
      · obtain ⟨_, impossible⟩ := shutdown_run shutdownRun
        cases impossible
      · obtain ⟨_, impossible⟩ := shutdown_run shutdownRun
        cases impossible

theorem closeClientSocket_run {exn : Exn} {outcome : Outcome Exn ServerConnection}
    (run : Program.Run PeerSocket.answers socket (server.closeClientSocket fd exn) outcome
      last) :
    outcome = .returned server := by
  obtain ⟨answer, between, _, ended⟩ := Program.run_perform_iff.mp run
  exact (Program.run_done_iff.mp ended).1

theorem toString_length {value : Int} (small : value.natAbs < 10 ^ 10) :
    (toString value).length ≤ 11 := by
  cases value with
  | ofNat number =>
      have digits := (Nat.length_repr_le_iff (by omega)).mpr small
      have same : (Int.ofNat number).natAbs = number := rfl
      rw [same] at digits
      show (Nat.repr number).length ≤ 11
      omega
  | negSucc number =>
      have digits := (Nat.length_repr_le_iff (by omega)).mpr small
      show ("-" ++ Nat.repr (number + 1)).length ≤ 11
      rw [String.length_append, show "-".length = 1 from rfl]
      show 1 + (Nat.repr (number + 1)).length ≤ 11
      have same : (Int.negSucc number).natAbs = number + 1 := rfl
      rw [same] at digits
      omega

theorem mismatchedProtocol_short (version : Int32) :
    (mismatchedProtocol version).error.length ≤ 1000 := by
  have low := version.le_toInt
  have high := version.toInt_lt
  have digits : (toString version.toInt).length ≤ 11 := toString_length (by omega)
  have ours : (toString PROTOCOL_VERSION).length ≤ 11 := toString_length (by decide)
  simp only [mismatchedProtocol, toBytes, List.length_map, String.length_toList,
    String.length_append]
  have parts : "Mismatched protocol versions.  ".length = 31 ∧
      "Your client & server must be on the same version of ET.  ".length = 57 ∧
      "Client: ".length = 8 ∧ " != Server: ".length = 12 := by
    decide
  omega

theorem refuseClient_run {response : ConnectResponse}
    {outcome : Outcome Exn ServerConnection}
    (short : response.error.length ≤ 1000)
    (run : Program.Run PeerSocket.answers socket (server.refuseClient proto fd response)
      outcome last) :
    outcome = .returned server ∨ ∃ what, outcome = .raised (.runtimeError what) := by
  have fits : (proto.connectResponse.serialize response).length ≤ MAX_PROTO_BYTES :=
    proto.connectResponse_fits _ short
  rcases Program.run_bind_iff.mp run with
    ⟨_, between, _, closeRun⟩ | ⟨exn, rfl, writeRun⟩ | ⟨message, rfl, writeRun⟩
  · obtain ⟨answer, closed, _, ended⟩ := Program.run_perform_iff.mp closeRun
    exact Or.inl (Program.run_done_iff.mp ended).1
  · obtain ⟨what, rfl⟩ := writeProto_raised fits writeRun
    exact Or.inr ⟨what, rfl⟩
  · exact (writeProto_not_aborted fits writeRun).elim

theorem create_run {key : Bytes} {outcome : Outcome Exn Connection}
    (run : Program.Run PeerSocket.answers socket (ServerClientConnection.create key fd)
      outcome last) :
    (∃ connection, outcome = .returned connection ∧
      key.length = crypto_secretbox_KEYBYTES) ∨
    ((∃ message, outcome = .aborted message) ∧ key.length ≠ crypto_secretbox_KEYBYTES) := by
  by_cases valid : key.length = crypto_secretbox_KEYBYTES
  · left
    have created := ServerClientConnection.create_valid
      { bytes := key, length_eq := valid } fd
    rw [created] at run
    exact ⟨_, (Program.run_done_iff.mp run).1, valid⟩
  · right
    rw [ServerClientConnection.create_invalid valid] at run
    exact ⟨⟨_, (Program.run_abort_iff.mp run).1⟩, valid⟩

theorem createClient_run {key : Bytes} {outcome : Outcome Exn ServerConnection}
    (run : Program.Run PeerSocket.answers socket
      (server.createClient proto newClient fd id key) outcome last) :
    (∃ result, outcome = .returned result ∧ server.ChangesOnly id result) ∨
    ((∃ message, outcome = .aborted message) ∧ key.length ≠ crypto_secretbox_KEYBYTES) := by
  have fits : (proto.connectResponse.serialize { status := .NEW_CLIENT, error := [] }).length ≤
      MAX_PROTO_BYTES := proto.connectResponse_fits _ (by simp)
  rcases Program.run_bind_iff.mp run with
    ⟨connection, between, _, rest⟩ | ⟨exn, rfl, createRun⟩ | ⟨message, rfl, createRun⟩
  · left
    have inserted := (ChangesOnly.refl server id).insertConnection connection
    rcases Program.run_handle_iff.mp rest with
      ⟨value, rfl, bodyRun⟩ | ⟨exn, caught, _, handlerRun⟩ | ⟨message, rfl, bodyRun⟩
    · rcases Program.run_bind_iff.mp bodyRun with
        ⟨_, written, _, newRun⟩ | ⟨_, impossible, _⟩ | ⟨_, impossible, _⟩
      · split at newRun
        · obtain ⟨same, _⟩ := Program.run_done_iff.mp newRun
          cases same
          exact ⟨_, rfl, inserted⟩
        · rcases Program.run_bind_iff.mp newRun with
            ⟨removed, erased, removeRun, closeRun⟩ | ⟨_, impossible, _⟩ | ⟨_, impossible, _⟩
          · obtain ⟨found, result, returned, changes⟩ := removeClient_run inserted removeRun
            cases returned
            obtain ⟨answer, closed, _, ended⟩ := Program.run_perform_iff.mp closeRun
            obtain ⟨same, _⟩ := Program.run_done_iff.mp ended
            cases same
            exact ⟨_, rfl, changes⟩
          · cases impossible
          · cases impossible
      · cases impossible
      · cases impossible
    · exact destroyPartialConnection_run inserted handlerRun
    · -- nothing in the guarded part aborts
      exfalso
      rcases Program.run_bind_iff.mp bodyRun with
        ⟨_, written, _, newRun⟩ | ⟨_, impossible, _⟩ | ⟨_, _, writeRun⟩
      · split at newRun
        · cases newRun
        · rcases Program.run_bind_iff.mp newRun with
            ⟨removed, erased, _, closeRun⟩ | ⟨_, impossible, _⟩ | ⟨_, _, removeRun⟩
          · obtain ⟨answer, closed, _, ended⟩ := Program.run_perform_iff.mp closeRun
            cases ended
          · cases impossible
          · obtain ⟨_, _, impossible, _⟩ := removeClient_run inserted removeRun
            cases impossible
      · cases impossible
      · exact writeProto_not_aborted fits writeRun
  · rcases create_run createRun with ⟨_, impossible, _⟩ | ⟨⟨_, impossible⟩, _⟩
    · cases impossible
    · cases impossible
  · rcases create_run createRun with ⟨_, impossible, _⟩ | ⟨_, invalid⟩
    · cases impossible
    · exact Or.inr ⟨⟨message, rfl⟩, invalid⟩

theorem recoverClient_run {connection : Connection} {outcome : Outcome Exn ServerConnection}
    (run : Program.Run PeerSocket.answers socket
      (server.recoverClient proto fd id connection) outcome last) :
    (∃ result, outcome = .returned result ∧ server.ChangesOnly id result) ∨
    ((∃ message, outcome = .aborted message) ∧
      connection.closed.RecoverAborts proto socket.incoming) := by
  rcases Program.run_bind_iff.mp run with
    ⟨closed, between, closeRun, rest⟩ | ⟨exn, _, closeRun⟩ | ⟨message, _, closeRun⟩
  · obtain ⟨returned, same⟩ := Connection.closeSocket_peer_run closeRun
    cases returned
    subst same
    have inserted := (ChangesOnly.refl server id).insertConnection connection.closed
    rcases Program.run_handle_iff.mp rest with
      ⟨value, rfl, bodyRun⟩ | ⟨exn, caught, _, handlerRun⟩ | ⟨message, rfl, bodyRun⟩
    · left
      rcases Program.run_bind_iff.mp bodyRun with
        ⟨recovered, later, _, ended⟩ | ⟨_, impossible, _⟩ | ⟨_, impossible, _⟩
      · obtain ⟨returned, _⟩ := Program.run_done_iff.mp ended
        exact ⟨_, returned, inserted.insertConnection recovered.2⟩
      · cases impossible
      · cases impossible
    · left
      exact ⟨_, closeClientSocket_run handlerRun, inserted⟩
    · right
      rcases Program.run_bind_iff.mp bodyRun with
        ⟨recovered, later, _, ended⟩ | ⟨_, impossible, _⟩ | ⟨_, _, recoverRun⟩
      · cases ended
      · cases impossible
      · rcases Connection.recover_run recoverRun with
          ⟨_, _, _, _, impossible⟩ | impossible | ⟨_, aborts⟩
        · cases impossible
        · cases impossible
        · exact ⟨⟨message, rfl⟩, aborts⟩
  · obtain ⟨impossible, _⟩ := Connection.closeSocket_peer_run closeRun
    cases impossible
  · obtain ⟨impossible, _⟩ := Connection.closeSocket_peer_run closeRun
    cases impossible

theorem returningClient_run {connection : Connection}
    {outcome : Outcome Exn ServerConnection}
    (run : Program.Run PeerSocket.answers socket
      (server.returningClient proto fd id connection) outcome last) :
    (∃ result, outcome = .returned result ∧ server.ChangesOnly id result) ∨
    (∃ what, outcome = .raised (.runtimeError what)) ∨
    ((∃ message, outcome = .aborted message) ∧
      connection.closed.RecoverAborts proto socket.incoming) := by
  have fits : (proto.connectResponse.serialize
      { status := .RETURNING_CLIENT, error := [] }).length ≤ MAX_PROTO_BYTES :=
    proto.connectResponse_fits _ (by simp)
  rcases Program.run_bind_iff.mp run with
    ⟨_, between, writeRun, rest⟩ | ⟨exn, rfl, writeRun⟩ | ⟨message, rfl, writeRun⟩
  · have incoming := (writeProto_run fits writeRun).1
    rcases recoverClient_run rest with returned | ⟨aborted, aborts⟩
    · exact Or.inl returned
    · rw [incoming] at aborts
      exact Or.inr (Or.inr ⟨aborted, aborts⟩)
  · obtain ⟨what, rfl⟩ := writeProto_raised fits writeRun
    exact Or.inr (Or.inl ⟨what, rfl⟩)
  · exact (writeProto_not_aborted fits writeRun).elim

/-! ### The whole handler -/

def RequestAborts (proto : Protobuf) (server : ServerConnection) (request : ConnectRequest)
    (rest : Bytes) : Prop :=
  request.version.toInt = PROTOCOL_VERSION ∧
    ∃ key, server.clientKeys request.clientId = some key ∧
      match server.clientConnections request.clientId with
      | none => key.length ≠ crypto_secretbox_KEYBYTES
      | some connection => connection.closed.RecoverAborts proto rest

def Aborts (proto : Protobuf) (server : ServerConnection) (bytes : Bytes) : Prop :=
  ∃ request rest, takeProto proto.connectRequest bytes = some (request, rest) ∧
    server.RequestAborts proto request rest

/-- What a server may have become: nothing changed, or only the entries of the
client that the peer named. -/
def ChangesNamed (proto : Protobuf) (server : ServerConnection) (bytes : Bytes)
    (after : ServerConnection) : Prop :=
  after = server ∨
    ∃ request rest, takeProto proto.connectRequest bytes = some (request, rest) ∧
      server.ChangesOnly request.clientId after

theorem handleRequest_run {request : ConnectRequest} {outcome : Outcome Exn ServerConnection}
    (run : Program.Run PeerSocket.answers socket
      (server.handleRequest proto newClient fd request) outcome last) :
    (∃ result, outcome = .returned result ∧
      server.ChangesOnly request.clientId result) ∨
    (∃ what, outcome = .raised (.runtimeError what)) ∨
    ((∃ message, outcome = .aborted message) ∧
      server.RequestAborts proto request socket.incoming) := by
  have refused : ∀ {response : ConnectResponse}, response.error.length ≤ 1000 →
      Program.Run PeerSocket.answers socket (server.refuseClient proto fd response) outcome
        last →
      (∃ result, outcome = .returned result ∧
        server.ChangesOnly request.clientId result) ∨
      (∃ what, outcome = .raised (.runtimeError what)) ∨
      ((∃ message, outcome = .aborted message) ∧
        server.RequestAborts proto request socket.incoming) := by
    intro response short refuseRun
    rcases refuseClient_run short refuseRun with returned | raised
    · exact Or.inl ⟨server, returned, ChangesOnly.refl _ _⟩
    · exact Or.inr (Or.inl raised)
  unfold handleRequest at run
  by_cases version : request.version.toInt = PROTOCOL_VERSION
  · rw [if_neg (not_not.mpr version)] at run
    cases registered : server.clientKeys request.clientId with
    | none =>
        simp only [registered] at run
        exact refused (by decide) run
    | some key =>
        simp only [registered] at run
        cases connected : server.clientConnections request.clientId with
        | none =>
            simp only [connected] at run
            rcases createClient_run run with returned | ⟨aborted, invalid⟩
            · exact Or.inl returned
            · right
              right
              refine ⟨aborted, version, key, registered, ?_⟩
              rw [connected]
              exact invalid
        | some connection =>
            simp only [connected] at run
            rcases returningClient_run run with returned | raised | ⟨aborted, aborts⟩
            · exact Or.inl returned
            · exact Or.inr (Or.inl raised)
            · right
              right
              refine ⟨aborted, version, key, registered, ?_⟩
              rw [connected]
              exact aborts
  · rw [if_pos version] at run
    exact refused (mismatchedProtocol_short _) run

/-- The handler returns, and has touched no other client, or ends the process on
a byte string that does so. -/
theorem clientHandler_run {outcome : Outcome Exn ServerConnection}
    (run : Program.Run PeerSocket.answers socket (server.clientHandler proto newClient fd)
      outcome last) :
    (∃ result, outcome = .returned result ∧
      server.ChangesNamed proto socket.incoming result) ∨
    ((∃ message, outcome = .aborted message) ∧ server.Aborts proto socket.incoming) := by
  rcases Program.run_handle_iff.mp run with
    ⟨value, rfl, bodyRun⟩ | ⟨exn, between, _, handlerRun⟩ | ⟨message, rfl, bodyRun⟩
  · rcases Program.run_bind_iff.mp bodyRun with
      ⟨request, later, readRun, rest⟩ | ⟨_, impossible, _⟩ | ⟨_, impossible, _⟩
    · rcases readProto_run readRun with ⟨found, returned, taken, _⟩ | ⟨_, impossible⟩
      · cases returned
        rcases handleRequest_run rest with ⟨result, same, changes⟩ | ⟨_, impossible⟩ |
          ⟨⟨_, impossible⟩, _⟩
        · exact Or.inl ⟨result, same, Or.inr ⟨request, _, taken, changes⟩⟩
        · cases impossible
        · cases impossible
      · cases impossible
    · cases impossible
    · cases impossible
  · exact Or.inl ⟨server, closeClientSocket_run handlerRun, Or.inl rfl⟩
  · rcases Program.run_bind_iff.mp bodyRun with
      ⟨request, later, readRun, rest⟩ | ⟨_, impossible, _⟩ | ⟨_, _, readRun⟩
    · rcases readProto_run readRun with ⟨found, returned, taken, _⟩ | ⟨_, impossible⟩
      · cases returned
        rcases handleRequest_run rest with ⟨_, impossible, _⟩ | ⟨_, impossible⟩ |
          ⟨_, aborts⟩
        · cases impossible
        · cases impossible
        · exact Or.inr ⟨⟨message, rfl⟩, request, _, taken, aborts⟩
      · cases impossible
    · cases impossible
    · exact (readProto_not_aborted readRun).elim

theorem clientHandler_aborts (newClient : Bytes → Connection → Bool) (fd : Fd)
    (socket : PeerSocket) (aborts : server.Aborts proto socket.incoming) :
    ∃ message last, Program.Run PeerSocket.answers socket
      (server.clientHandler proto newClient fd) (.aborted message) last := by
  obtain ⟨request, rest, taken, version, key, registered, fatal⟩ := aborts
  have requestRead := readProto_succeeds fd taken
  have handled : ∃ message last, Program.Run PeerSocket.answers (socket.advanced rest)
      (server.handleRequest proto newClient fd request) (.aborted message) last := by
    unfold handleRequest
    rw [if_neg (not_not.mpr version)]
    simp only [registered]
    cases connected : server.clientConnections request.clientId with
    | none =>
        rw [connected] at fatal
        simp only at fatal ⊢
        have created : Program.Run PeerSocket.answers (socket.advanced rest)
            (ServerClientConnection.create key fd) (.aborted "Invalid key length")
            (socket.advanced rest) := by
          rw [ServerClientConnection.create_invalid fatal]
          exact .abort _ _
        exact ⟨_, _, Program.run_bind_iff.mpr (Or.inr (Or.inr ⟨_, rfl, created⟩))⟩
    | some connection =>
        rw [connected] at fatal
        simp only at fatal ⊢
        have responded := writeProto_succeeds fd (socket.advanced rest)
          (proto.connectResponse_fits { status := .RETURNING_CLIENT, error := [] } (by simp))
        have severed := Connection.closeSocket_peer_succeeds
          ((socket.advanced rest).written (protoFrame (proto.connectResponse.serialize
            { status := .RETURNING_CLIENT, error := [] }))) connection
        obtain ⟨message, last, recovered⟩ := Connection.recover_aborts fd
          ((socket.advanced rest).written (protoFrame (proto.connectResponse.serialize
            { status := .RETURNING_CLIENT, error := [] }))) fatal
        exact ⟨message, last, responded.bind (severed.bind (Program.Run.handle_aborted
          (Program.run_bind_iff.mpr (Or.inr (Or.inr ⟨message, rfl, recovered⟩)))))⟩
  obtain ⟨message, last, ended⟩ := handled
  exact ⟨message, last, Program.Run.handle_aborted (requestRead.bind ended)⟩

theorem clientHandler_creates {request : ConnectRequest} {rest : Bytes} {key : Key}
    (newClient : Bytes → Connection → Bool) (fd : Fd) (socket : PeerSocket)
    (taken : takeProto proto.connectRequest socket.incoming = some (request, rest))
    (version : request.version.toInt = PROTOCOL_VERSION)
    (registered : server.clientKeys request.clientId = some key.bytes)
    (fresh : server.clientConnections request.clientId = none)
    (accepted : newClient request.clientId
      (Connection.create key CLIENT_SERVER_NONCE_MSB SERVER_CLIENT_NONCE_MSB (some fd)) =
        true) :
    ∃ last, Program.Run PeerSocket.answers socket
      (server.clientHandler proto newClient fd)
      (.returned (server.insertConnection request.clientId
        (Connection.create key CLIENT_SERVER_NONCE_MSB SERVER_CLIENT_NONCE_MSB (some fd))))
      last := by
  have requestRead := readProto_succeeds fd taken
  have responded := writeProto_succeeds fd (socket.advanced rest)
    (proto.connectResponse_fits { status := .NEW_CLIENT, error := [] } (by simp))
  have handled : ∃ last, Program.Run PeerSocket.answers (socket.advanced rest)
      (server.handleRequest proto newClient fd request)
      (.returned (server.insertConnection request.clientId
        (Connection.create key CLIENT_SERVER_NONCE_MSB SERVER_CLIENT_NONCE_MSB (some fd))))
      last := by
    unfold handleRequest
    rw [if_neg (not_not.mpr version)]
    simp only [registered, fresh, createClient, ServerClientConnection.create_valid,
      Program.done_bind, accepted, if_true]
    exact ⟨_, Program.Run.handle_returned (responded.bind (.done _ _))⟩
  obtain ⟨last, ended⟩ := handled
  exact ⟨last, Program.Run.handle_returned (requestRead.bind ended)⟩

/-- Whatever the state of the server and whatever the peer sends, `clientHandler`
ends, and always by returning with the other clients' connections unchanged, if
and only if the bytes are none of those that end the process. -/
theorem clientHandler_returns_iff (proto : Protobuf)
    (newClient : Bytes → Connection → Bool) (server : ServerConnection) (fd : Fd)
    (bytes : Bytes) :
    ((∃ outcome last,
      Program.Run PeerSocket.answers { incoming := bytes, outgoing := [] }
        (server.clientHandler proto newClient fd) outcome last) ∧
      ∀ outcome last,
        Program.Run PeerSocket.answers { incoming := bytes, outgoing := [] }
          (server.clientHandler proto newClient fd) outcome last →
        ∃ after, outcome = .returned after ∧ server.ChangesNamed proto bytes after) ↔
    ¬ server.Aborts proto bytes := by
  constructor
  · rintro ⟨_, returns⟩ aborts
    obtain ⟨message, last, run⟩ := clientHandler_aborts newClient fd
      { incoming := bytes, outgoing := [] } aborts
    obtain ⟨_, impossible, _⟩ := returns _ last run
    cases impossible
  · intro harmless
    constructor
    · exact Program.exists_run PeerSocket.answered _ _
    · intro outcome last run
      rcases clientHandler_run run with returned | ⟨_, aborts⟩
      · exact returned
      · exact absurd aborts harmless

end ServerConnection

/-! ### Runs of a server -/

inductive ServerEvent where
  | addClientKey (id passkey : Bytes)
  | removeClient (id : Bytes)
  | clientHandler (clientSocketFd : Fd)
  | read (id : Bytes)
  | write (id : Bytes) (packet : Packet)
  | closeSocket (id : Bytes)

inductive ServerConnection.Step (box : SecretBox) (proto : Protobuf)
    (newClient : Bytes → Connection → Bool) :
    ServerConnection → ServerEvent → ServerConnection → Prop
  | addClientKey (server : ServerConnection) (id passkey : Bytes) :
      Step box proto newClient server (.addClientKey id passkey)
        (server.addClientKey id passkey)
  | removeClient {server after : ServerConnection} {id : Bytes} {removed : Bool}
      {socket last : PeerSocket} :
      Program.Run PeerSocket.answers socket (server.removeClient id)
        (.returned (removed, after)) last →
      Step box proto newClient server (.removeClient id) after
  | clientHandler {server after : ServerConnection} {clientSocketFd : Fd}
      {socket last : PeerSocket} :
      Program.Run PeerSocket.answers socket
        (server.clientHandler proto newClient clientSocketFd) (.returned after) last →
      Step box proto newClient server (.clientHandler clientSocketFd) after
  | read {server : ServerConnection} {id : Bytes} {connection result : Connection}
      {packet : Option Packet} {socket last : PeerSocket} :
      server.clientConnections id = some connection →
      Program.Run PeerSocket.answers socket (connection.read box)
        (.returned (packet, result)) last →
      Step box proto newClient server (.read id) (server.insertConnection id result)
  | write {server : ServerConnection} {id : Bytes} {connection result : Connection}
      {packet : Packet} {accepted : Bool} {socket last : PeerSocket} :
      server.clientConnections id = some connection →
      Program.Run PeerSocket.answers socket (connection.write box packet)
        (.returned (accepted, result)) last →
      Step box proto newClient server (.write id packet) (server.insertConnection id result)
  | closeSocket {server : ServerConnection} {id : Bytes} {connection result : Connection}
      {socket last : PeerSocket} :
      server.clientConnections id = some connection →
      Program.Run PeerSocket.answers socket connection.closeSocket (.returned result) last →
      Step box proto newClient server (.closeSocket id) (server.insertConnection id result)

def serverSystem (box : SecretBox) (proto : Protobuf)
    (newClient : Bytes → Connection → Bool) :
    TransitionSystem ServerConnection ServerEvent where
  initial server := server = ServerConnection.empty
  step := ServerConnection.Step box proto newClient

/-- `TerminalServer::newClient` starts a thread for every connection. -/
def TerminalServer.newClient (_clientId : Bytes) (_connection : Connection) : Bool := true

def knownRequest : ConnectRequest :=
  { clientId := [1]
    version := 6 }

def connectedServer : ServerConnection :=
  (ServerConnection.empty.addClientKey [1] Key.zero.bytes).insertConnection [1]
    (Connection.create Key.zero CLIENT_SERVER_NONCE_MSB SERVER_CLIENT_NONCE_MSB (some 3))

theorem knownRequest_taken (rest : Bytes) :
    takeProto Protobuf.standard.connectRequest
      (protoFrame (Protobuf.standard.connectRequest.serialize knownRequest) ++ rest) =
      some (knownRequest, rest) := by
  apply takeProto_frame
  exact Protobuf.standard.connectRequest_fits knownRequest (by decide)

theorem connectedServer_reachable :
    (serverSystem SecretBox.nullCipher Protobuf.standard TerminalServer.newClient).Reachable
      connectedServer := by
  have registered : (serverSystem SecretBox.nullCipher Protobuf.standard
      TerminalServer.newClient).Reachable
      (ServerConnection.empty.addClientKey [1] Key.zero.bytes) :=
    TransitionSystem.Reachable.next (.start rfl) (.addClientKey _ [1] Key.zero.bytes)
  obtain ⟨last, created⟩ := ServerConnection.clientHandler_creates
    TerminalServer.newClient 3
    { incoming := protoFrame (Protobuf.standard.connectRequest.serialize knownRequest) ++ []
      outgoing := [] } (knownRequest_taken []) (by decide)
    (show (ServerConnection.empty.addClientKey [1] Key.zero.bytes).clientKeys
      knownRequest.clientId = some Key.zero.bytes from rfl) rfl rfl
  exact registered.next (.clientHandler created)

/-- A registered client's peer that announces one packet more than the server has
sent ends the server's process. -/
theorem clientHandler_ends_process :
    ∃ server message last,
      (serverSystem SecretBox.nullCipher Protobuf.standard TerminalServer.newClient).Reachable
        server ∧
      Program.Run PeerSocket.answers
        { incoming :=
            protoFrame (Protobuf.standard.connectRequest.serialize knownRequest) ++
              protoFrame (Protobuf.standard.sequenceHeader.serialize { sequenceNumber := 1 })
          outgoing := [] }
        (server.clientHandler Protobuf.standard TerminalServer.newClient 4) (.aborted message)
        last := by
  have ahead := takeProto_frame Protobuf.standard.sequenceHeader
    { sequenceNumber := 1 } [] (Protobuf.standard.sequenceHeader_fits _)
  rw [List.append_nil] at ahead
  have aborts : connectedServer.Aborts Protobuf.standard
      (protoFrame (Protobuf.standard.connectRequest.serialize knownRequest) ++
        protoFrame (Protobuf.standard.sequenceHeader.serialize { sequenceNumber := 1 })) := by
    refine ⟨knownRequest, _, knownRequest_taken _, by decide, Key.zero.bytes, rfl, ?_⟩
    exact ⟨_, _, ahead, rfl, Or.inl (by decide)⟩
  obtain ⟨message, last, run⟩ := ServerConnection.clientHandler_aborts TerminalServer.newClient 4
    { incoming := _, outgoing := [] } aborts
  exact ⟨connectedServer, message, last, connectedServer_reachable, run⟩

end EternalTerminal
