/-
Whether a connection that was shut down stays so.

The server looks a connection up under `classMutex`, answers its client, and takes the mutex
again for the recovery; the connection may be shut down in between.  The client holds
`connectionMutex` from its check of `shuttingDown` to the end of the recovery.
-/

import EternalTerminal.Base.ClientConnection
import EternalTerminal.Library.TransitionSystem
import EternalTerminal.Session.Settled

namespace EternalTerminal

open Library
open SocketHandler

namespace Connection

variable {proto : Protobuf} {box : SecretBox} {connection state : Connection} {fd : Fd}
  {socket later : PeerSocket}

/-- The peer has been sent header and catch-up, with which its own recovery succeeds. -/
def CaughtUp (proto : Protobuf) (connection : Connection) (socket later : PeerSocket) : Prop :=
  ∃ handshake recovered,
    socket.outgoing ++ handshake ++
      protoFrame (proto.sequenceHeader.serialize connection.sequenceHeader) ++
      protoFrame (proto.catchupBuffer.serialize { buffer := recovered }) <+: later.outgoing

theorem not_caughtUp {announced : Bytes}
    (isPrefix : announced <+:
      protoFrame (proto.sequenceHeader.serialize connection.sequenceHeader))
    (outgoing : later.outgoing = socket.outgoing ++ announced) :
    ¬ CaughtUp proto connection socket later := by
  intro caughtUp
  obtain ⟨handshake, recovered, contained⟩ := caughtUp
  have short := isPrefix.length_le
  have long := contained.length_le
  have catchupLength :=
    protoFrame_length (proto.catchupBuffer.serialize { buffer := recovered })
  rw [outgoing] at long
  simp only [List.length_append] at long
  omega

/-- Without a catch-up for its peer, a recovery changes nothing and reports nothing. -/
theorem recover_unserved {recovered : Bool}
    (unserved : ¬ Serves proto connection socket.incoming)
    (run : Program.Run PeerSocket.answers socket (connection.recover proto fd)
      (.returned (recovered, state)) later) :
    state = connection ∧ ¬ CaughtUp proto connection socket later := by
  constructor
  · rcases (recover_returns proto connection fd).of_run run with same | ⟨entries, same⟩
    · cases same
      rfl
    · cases same
      obtain ⟨header, rest, replayed, _, _, taken, served, _⟩ := completes_of_recovered run
      exact (unserved ⟨header, rest, replayed, taken, served⟩).elim
  · rcases Program.run_handle_iff.mp run with
      ⟨value, _, bodyRun⟩ | ⟨exn, between, bodyRun, handlerRun⟩ | ⟨_, impossible, _⟩
    · obtain ⟨announced, isPrefix, outgoing⟩ := exchange_unserved unserved bodyRun
      exact not_caughtUp isPrefix outgoing
    · obtain ⟨announced, isPrefix, outgoing⟩ := exchange_unserved unserved bodyRun
      cases exn with
      | runtimeError what =>
          obtain ⟨answer, closed, closedEq, ended⟩ := Program.run_perform_iff.mp handlerRun
          obtain ⟨_, rfl⟩ := Program.run_done_iff.mp ended
          cases closedEq
          exact not_caughtUp isPrefix outgoing
      | lengthError => cases handlerRun
      | outOfRange => cases handlerRun
    · cases impossible

end Connection

/-- A connection object, with what has been asked of it. -/
structure Held where
  connection : Connection
  /-- `Connection::shutdown` has been called -/
  shutdownCalled : Bool
  /-- a recovery since then has sent its peer a catch-up -/
  reported : Prop

namespace Held

variable {proto : Protobuf} {box : SecretBox} {held after : Held} {fd : Fd}
  {socket later : PeerSocket}

def create (connection : Connection) : Held :=
  { connection := connection
    shutdownCalled := false
    reported := False }

/-- `Connection::shutdown`; `Connection.shutdown_returns` is about the call. -/
def shutdown (held : Held) : Held :=
  { held with
    connection := held.connection.afterShutdown
    shutdownCalled := true }

/-- The object after a recovery that left `state` and the socket `later`. -/
def recovered (proto : Protobuf) (held : Held) (socket later : PeerSocket)
    (state : Connection) : Held :=
  { held with
    connection := state
    reported := held.reported ∨
      (held.shutdownCalled = true ∧ Connection.CaughtUp proto held.connection socket later) }

/-- Once shut down, no descriptor is valid, and no peer has been told of a recovery. -/
def Permanent (held : Held) : Prop :=
  held.shutdownCalled = true → held.connection.Dead ∧ ¬ held.reported

structure Kept (held : Held) : Prop where
  settled : held.connection.Settled
  flagged : held.shutdownCalled = true → held.connection.shuttingDown = true
  permanent : held.Permanent
  unreported : held.shutdownCalled = false → ¬ held.reported

theorem Kept.not_reported (kept : held.Kept) : ¬ held.reported := by
  cases called : held.shutdownCalled with
  | false => exact kept.unreported called
  | true => exact (kept.permanent called).2

theorem create_kept {connection : Connection} (live : connection.Live fd) :
    (create connection).Kept where
  settled := Or.inl ⟨fd, live⟩
  flagged := by
    intro impossible
    cases impossible
  permanent := by
    intro impossible
    cases impossible
  unreported := by
    intro _ reported
    exact reported

theorem Kept.shutdown (kept : held.Kept) : held.shutdown.Kept where
  settled := Or.inr kept.settled.afterShutdown
  flagged := by
    intro _
    exact Connection.afterShutdown_shuttingDown held.connection
  permanent := by
    intro _
    exact ⟨kept.settled.afterShutdown, kept.not_reported⟩
  unreported := by
    intro impossible
    cases impossible

theorem Kept.followed {state : Connection} (kept : held.Kept)
    (follows : held.connection.Follows state) : Kept { held with connection := state } where
  settled := follows.settled kept.settled
  flagged := by
    intro called
    exact follows.shuttingDown.trans (kept.flagged called)
  permanent := by
    intro called
    exact ⟨follows.dead (kept.permanent called).1, (kept.permanent called).2⟩
  unreported := kept.unreported

/-- An object that was not shut down may come out of a recovery on a new socket. -/
theorem Kept.recovered_uncalled {state : Connection} (called : held.shutdownCalled = false)
    (unreported : ¬ held.reported) (settled : state.Settled) :
    (held.recovered proto socket later state).Kept := by
  have uncalled : held.shutdownCalled ≠ true := by
    rw [called]
    decide
  refine ⟨settled, fun impossible => absurd impossible uncalled,
    fun impossible => absurd impossible uncalled, fun _ => ?_⟩
  intro reported
  rcases reported with before | ⟨impossible, _⟩
  · exact unreported before
  · exact uncalled impossible

theorem Kept.recovered_silent (kept : held.Kept)
    (silent : ¬ Connection.CaughtUp proto held.connection socket later) :
    (held.recovered proto socket later held.connection).Kept := by
  have unreported : ¬ (held.recovered proto socket later held.connection).reported := by
    intro reported
    rcases reported with before | ⟨_, caughtUp⟩
    · exact kept.not_reported before
    · exact silent caughtUp
  exact ⟨kept.settled, kept.flagged, fun called => ⟨(kept.permanent called).1, unreported⟩,
    fun _ => unreported⟩

/-- A recovery keeps the object, if one of a shut down connection has no catch-up to send. -/
theorem Kept.recovered {success : Bool} {state : Connection} (kept : held.Kept)
    (unserved : held.shutdownCalled = true →
      ¬ Connection.Serves proto held.connection socket.incoming)
    (run : Program.Run PeerSocket.answers socket (held.connection.recover proto fd)
      (.returned (success, state)) later) :
    (held.recovered proto socket later state).Kept := by
  cases called : held.shutdownCalled with
  | false =>
      refine .recovered_uncalled called kept.not_reported ?_
      rcases (Connection.recover_returns proto held.connection fd).of_run run with
        same | ⟨entries, same⟩
      · cases same
        exact kept.settled
      · cases same
        exact Or.inl ⟨fd, Connection.revived_live held.connection fd entries⟩
  | true =>
      obtain ⟨rfl, silent⟩ := Connection.recover_unserved (unserved called) run
      exact kept.recovered_silent silent

end Held

/-! ### The server -/

/-- Where a thread is in `clientHandler` once it has looked its client up. -/
inductive HandlerSection where
  /-- it has stored a new object and is to answer NEW_CLIENT -/
  | newClient (clientId : Bytes) (serverClientState : Nat)
  /-- it is to answer RETURNING_CLIENT -/
  | returningClient (serverClientState : Nat)
  /-- in `recoverClient`, with `classMutex`, the old socket closed -/
  | recoverClient (serverClientState : Nat)

/-- The server's maps with their objects shared, as the threads hold pointers to them. -/
structure SharedServer where
  clientKeys : Bytes → Option Bytes
  clientConnections : Bytes → Option Nat
  objects : Nat → Option Held
  handlers : Nat → Option HandlerSection
  /-- the thread that holds it -/
  classMutex : Option Nat
  /-- `ServerConnection::shutdown` has been called -/
  stopped : Bool

namespace SharedServer

def empty : SharedServer :=
  { clientKeys := fun _ => none
    clientConnections := fun _ => none
    objects := fun _ => none
    handlers := fun _ => none
    classMutex := none
    stopped := false }

def setObject (server : SharedServer) (pointer : Nat) (held : Held) : SharedServer :=
  { server with objects := Function.update server.objects pointer (some held) }

def setHandler (server : SharedServer) (thread : Nat) (state : Option HandlerSection) :
    SharedServer :=
  { server with handlers := Function.update server.handlers thread state }

def destroyPartialConnection (server : SharedServer) (clientId : Bytes) : SharedServer :=
  match server.clientConnections clientId with
  | none => server
  | some pointer =>
      { server with
        objects := Function.update server.objects pointer
          ((server.objects pointer).map Held.shutdown)
        clientConnections := Function.update server.clientConnections clientId none }

/-- What follows the erased key is what `destroyPartialConnection` does. -/
def removeClient (server : SharedServer) (id : Bytes) : SharedServer :=
  match server.clientKeys id with
  | none => server
  | some _ =>
      { server with
        clientKeys := Function.update server.clientKeys id none }.destroyPartialConnection id

/-- `ServerConnection::shutdown`. -/
structure Stops (server after : SharedServer) : Prop where
  keys : after.clientKeys = server.clientKeys
  connections : after.clientConnections = fun _ => none
  registered : ∀ id pointer, server.clientConnections id = some pointer →
    after.objects pointer = (server.objects pointer).map Held.shutdown
  others : ∀ pointer, (∀ id, server.clientConnections id ≠ some pointer) →
    after.objects pointer = server.objects pointer
  handlers : after.handlers = server.handlers
  mutex : after.classMutex = server.classMutex
  stopped : after.stopped = true

inductive Event where
  | addClientKey (id passkey : Bytes)
  | createClient (thread : Nat) (clientId : Bytes)
  | findClient (thread : Nat) (clientId : Bytes)
  | newClientTaken (thread : Nat)
  | newClientDeclined (thread : Nat)
  | newClientFailed (thread : Nat)
  | responseFailed (thread : Nat)
  | closeOldSocket (thread : Nat)
  | recover (thread : Nat) (clientSocketFd : Fd) (socket : PeerSocket)
  | removeClient (id : Bytes)
  | shutdown
  | use (pointer : Nat)

/-- One critical section, or one step outside of any.  A handler that refuses its client, or
whose request does not arrive, changes none of this. -/
inductive Step (proto : Protobuf) (box : SecretBox) :
    SharedServer → Event → SharedServer → Prop
  | addClientKey {server : SharedServer} {id passkey : Bytes} :
      server.classMutex = none →
      Step proto box server (.addClientKey id passkey)
        { server with clientKeys := Function.update server.clientKeys id (some passkey) }
  | createClient {server : SharedServer} {thread : Nat} {clientId : Bytes} {key : Key}
      {clientSocketFd : Fd} {pointer : Nat} :
      server.classMutex = none → server.stopped = false → server.handlers thread = none →
      server.clientKeys clientId = some key.bytes →
      server.clientConnections clientId = none →
      server.objects pointer = none →
      Step proto box server (.createClient thread clientId)
        ({ server.setObject pointer (.create
            (Connection.create key CLIENT_SERVER_NONCE_MSB SERVER_CLIENT_NONCE_MSB
              (some clientSocketFd))) with
          clientConnections :=
            Function.update server.clientConnections clientId (some pointer) }.setHandler thread
          (some (.newClient clientId pointer)))
  | findClient {server : SharedServer} {thread : Nat} {clientId key : Bytes} {pointer : Nat} :
      server.classMutex = none → server.stopped = false → server.handlers thread = none →
      server.clientKeys clientId = some key →
      server.clientConnections clientId = some pointer →
      Step proto box server (.findClient thread clientId)
        (server.setHandler thread (some (.returningClient pointer)))
  | newClientTaken {server : SharedServer} {thread : Nat} {clientId : Bytes} {pointer : Nat} :
      server.classMutex = none →
      server.handlers thread = some (.newClient clientId pointer) →
      Step proto box server (.newClientTaken thread) (server.setHandler thread none)
  | newClientDeclined {server : SharedServer} {thread : Nat} {clientId : Bytes}
      {pointer : Nat} :
      server.classMutex = none →
      server.handlers thread = some (.newClient clientId pointer) →
      Step proto box server (.newClientDeclined thread)
        ((server.removeClient clientId).setHandler thread none)
  | newClientFailed {server : SharedServer} {thread : Nat} {clientId : Bytes} {pointer : Nat} :
      server.classMutex = none →
      server.handlers thread = some (.newClient clientId pointer) →
      Step proto box server (.newClientFailed thread)
        ((server.destroyPartialConnection clientId).setHandler thread none)
  | responseFailed {server : SharedServer} {thread pointer : Nat} :
      server.handlers thread = some (.returningClient pointer) →
      Step proto box server (.responseFailed thread) (server.setHandler thread none)
  | closeOldSocket {server : SharedServer} {thread pointer : Nat} {held : Held} :
      server.classMutex = none →
      server.handlers thread = some (.returningClient pointer) →
      server.objects pointer = some held →
      Step proto box server (.closeOldSocket thread)
        { (server.setObject pointer { held with connection := held.connection.closed }).setHandler
            thread (some (.recoverClient pointer)) with
          classMutex := some thread }
  | recover {server : SharedServer} {thread pointer : Nat} {held : Held} {clientSocketFd : Fd}
      {socket later : PeerSocket} {success : Bool} {state : Connection} :
      server.classMutex = some thread →
      server.handlers thread = some (.recoverClient pointer) →
      server.objects pointer = some held →
      Program.Run PeerSocket.answers socket (held.connection.recover proto clientSocketFd)
        (.returned (success, state)) later →
      Step proto box server (.recover thread clientSocketFd socket)
        { (server.setObject pointer (held.recovered proto socket later state)).setHandler
            thread none with
          classMutex := none }
  | removeClient {server : SharedServer} {id : Bytes} :
      server.classMutex = none →
      Step proto box server (.removeClient id) (server.removeClient id)
  /-- the pool is joined under `classMutex`, so no handler can have anything left to do -/
  | shutdown {server after : SharedServer} :
      server.classMutex = none → (∀ thread, server.handlers thread = none) →
      server.Stops after →
      Step proto box server .shutdown after
  | use {server : SharedServer} {pointer : Nat} {held : Held} {state : Connection} :
      server.objects pointer = some held → Connection.Uses box held.connection state →
      Step proto box server (.use pointer)
        (server.setObject pointer { held with connection := state })

def system (proto : Protobuf) (box : SecretBox) : TransitionSystem SharedServer Event where
  initial server := server = empty
  step := Step proto box

/-- No recovery of a connection that is shut down gets a sequence number that its writer can
serve. -/
def NoneServed (proto : Protobuf) (server : SharedServer) : Event → Prop
  | .recover thread _ socket => ∀ pointer held,
      server.handlers thread = some (.recoverClient pointer) →
      server.objects pointer = some held → held.shutdownCalled = true →
      ¬ Connection.Serves proto held.connection socket.incoming
  | _ => True

variable {proto : Protobuf} {box : SecretBox} {server after : SharedServer} {event : Event}

def Keeps (server : SharedServer) : Prop :=
  ∀ pointer held, server.objects pointer = some held → held.Kept

theorem Keeps.update {pointer : Nat} {object : Option Held} (keeps : server.Keeps)
    (kept : ∀ held, object = some held → held.Kept)
    (objects : after.objects = Function.update server.objects pointer object) :
    after.Keeps := by
  intro other held found
  rw [objects] at found
  by_cases same : other = pointer
  · rw [same, Function.update_self] at found
    exact kept held found
  · rw [Function.update_of_ne same] at found
    exact keeps other held found

theorem Keeps.setObject {pointer : Nat} {held : Held} (keeps : server.Keeps)
    (kept : held.Kept) (objects : after.objects = (server.setObject pointer held).objects) :
    after.Keeps := by
  have updated : after.objects = Function.update server.objects pointer (some held) := objects
  refine keeps.update ?_ updated
  intro held same
  cases same
  exact kept

theorem Keeps.shut {pointer : Nat} (keeps : server.Keeps) :
    ∀ held, (server.objects pointer).map Held.shutdown = some held → held.Kept := by
  intro held shut
  obtain ⟨earlier, found, rfl⟩ := Option.map_eq_some_iff.mp shut
  exact (keeps pointer earlier found).shutdown

theorem Keeps.destroyPartialConnection (keeps : server.Keeps) (clientId : Bytes) :
    (server.destroyPartialConnection clientId).Keeps := by
  unfold SharedServer.destroyPartialConnection
  split
  · exact keeps
  · exact keeps.update keeps.shut rfl

theorem Keeps.removeClient (keeps : server.Keeps) (id : Bytes) :
    (server.removeClient id).Keeps := by
  unfold SharedServer.removeClient
  split
  · exact keeps
  · have erased :
        Keeps { server with clientKeys := Function.update server.clientKeys id none } := keeps
    exact erased.destroyPartialConnection id

theorem Keeps.stops (keeps : server.Keeps) (stops : server.Stops after) : after.Keeps := by
  intro pointer held found
  by_cases registered : ∃ id, server.clientConnections id = some pointer
  · obtain ⟨id, registered⟩ := registered
    rw [stops.registered id pointer registered] at found
    exact keeps.shut held found
  · rw [stops.others pointer (not_exists.mp registered)] at found
    exact keeps pointer held found

theorem Keeps.step (keeps : server.Keeps) (unserved : NoneServed proto server event)
    (step : Step proto box server event after) : after.Keeps := by
  cases step with
  | addClientKey free => exact keeps
  | createClient free open_ idle key unknown fresh =>
      exact keeps.setObject (Held.create_kept ⟨rfl, rfl, rfl⟩) rfl
  | findClient free open_ idle key known => exact keeps
  | newClientTaken free waiting => exact keeps
  | newClientDeclined free waiting => exact keeps.removeClient _
  | newClientFailed free waiting => exact keeps.destroyPartialConnection _
  | responseFailed waiting => exact keeps
  | closeOldSocket free waiting found =>
      have kept := keeps _ _ found
      exact keeps.setObject (kept.followed (Connection.closed_follows kept.settled)) rfl
  | recover locked waiting found run =>
      have kept := keeps _ _ found
      exact keeps.setObject (kept.recovered (unserved _ _ waiting found) run) rfl
  | removeClient free => exact keeps.removeClient _
  | shutdown free idle stops => exact keeps.stops stops
  | use found uses =>
      have kept := keeps _ _ found
      exact keeps.setObject (kept.followed (uses.follows kept.settled)) rfl

theorem keeps_of_reachable
    (reached : (system proto box).ReachableBy (NoneServed proto) server) : server.Keeps := by
  apply reached.invariant
  · intro start initial pointer held found
    rw [show start = empty from initial] at found
    cases found
  · intro before event after keeps unserved step
    exact keeps.step unserved step

end SharedServer

/-! ### The client -/

namespace ClientConnection

/-- The `try` block of a pass of `pollReconnect`, with the new socket open. -/
def rejoin (proto : Protobuf) (id : Bytes) (connection : Connection) (newSocketFd : Fd) :
    Action Connection := do
  writeProto proto.connectRequest newSocketFd
    { clientId := id, version := Int32.ofInt PROTOCOL_VERSION }
  let response ← readProto proto.connectResponse newSocketFd
  if response.status = .INVALID_KEY then do
    SocketHandler.close newSocketFd
    pure { connection with shuttingDown := true }
  else if response.status ≠ .RETURNING_CLIENT then do
    SocketHandler.close newSocketFd
    pure connection
  else do
    let (_, connection) ← connection.recover proto newSocketFd
    pure connection

/-- Its two `catch` blocks. -/
def rejoinFailed (connection : Connection) (newSocketFd : Fd) : Exn → Action Connection
  | .runtimeError _ => do
      SocketHandler.close newSocketFd
      pure connection
  | _ => pure connection

/-- One pass of the loop of `pollReconnect`, under `connectionMutex`; `newSocketFd` is what
`connect` has returned. -/
def pollReconnect (proto : Protobuf) (id : Bytes) (connection : Connection)
    (newSocketFd : Option Fd) : Action Connection :=
  if connection.socketFd.isSome then pure connection
  else if connection.shuttingDown then pure connection
  else
    match newSocketFd with
    | none => pure connection
    | some newSocketFd =>
        tryCatch (rejoin proto id connection newSocketFd) (rejoinFailed connection newSocketFd)

inductive ReconnectEvent where
  | pollReconnect
  | shutdown
  | use

/-- `connectionMutex` is held for all of a step. -/
inductive ReconnectStep (proto : Protobuf) (box : SecretBox) (id : Bytes) :
    Held → ReconnectEvent → Held → Prop
  | pollReconnect {held : Held} {newSocketFd : Option Fd} {socket later : PeerSocket}
      {state : Connection} :
      Program.Run PeerSocket.answers socket
        (pollReconnect proto id held.connection newSocketFd) (.returned state) later →
      ReconnectStep proto box id held .pollReconnect (held.recovered proto socket later state)
  | shutdown {held : Held} : ReconnectStep proto box id held .shutdown held.shutdown
  | use {held : Held} {state : Connection} :
      Connection.Uses box held.connection state →
      ReconnectStep proto box id held .use { held with connection := state }

/-- A connection that `connect` has established. -/
def reconnectSystem (proto : Protobuf) (box : SecretBox) (id : Bytes) :
    TransitionSystem Held ReconnectEvent where
  initial held := ∃ (key : Key) (fd : Fd), held = .create
    (Connection.create key SERVER_CLIENT_NONCE_MSB CLIENT_SERVER_NONCE_MSB (some fd))
  step := ReconnectStep proto box id

variable {proto : Protobuf} {box : SecretBox} {id : Bytes} {connection : Connection}
  {held after : Held} {newSocketFd : Option Fd}

theorem rejoin_returns (proto : Protobuf) (id : Bytes) (connection : Connection) (fd : Fd) :
    (rejoin proto id connection fd).Returns fun state =>
      state = connection ∨ state = { connection with shuttingDown := true } ∨
        ∃ entries, state = connection.revived fd entries := by
  refine (Program.Returns.always _).bind fun _ _ => ?_
  refine (Program.Returns.always _).bind fun response _ => ?_
  by_cases invalid : response.status = .INVALID_KEY
  · rw [if_pos invalid]
    exact .perform fun _ => .done (Or.inr (Or.inl rfl))
  rw [if_neg invalid]
  by_cases refused : response.status ≠ .RETURNING_CLIENT
  · rw [if_pos refused]
    exact .perform fun _ => .done (Or.inl rfl)
  rw [if_neg refused]
  refine (Connection.recover_returns proto connection fd).bind fun result outcome => ?_
  rcases outcome with same | ⟨entries, same⟩
  · cases same
    exact .done (Or.inl rfl)
  · cases same
    exact .done (Or.inr (Or.inr ⟨entries, rfl⟩))

/-- A pass leaves a connection that is not on any socket so, or puts it on one. -/
theorem pollReconnect_returns (proto : Protobuf) (id : Bytes) (settled : connection.Settled)
    (newSocketFd : Option Fd) :
    (pollReconnect proto id connection newSocketFd).Returns Connection.Settled := by
  unfold pollReconnect
  by_cases connected : connection.socketFd.isSome
  · rw [if_pos connected]
    exact .done settled
  rw [if_neg connected]
  by_cases stopping : connection.shuttingDown = true
  · rw [if_pos stopping]
    exact .done settled
  rw [if_neg stopping]
  cases newSocketFd with
  | none => exact .done settled
  | some fd =>
      refine Program.Returns.handle ?_ fun exn => ?_
      · refine (rejoin_returns proto id connection fd).mono fun state outcome => ?_
        rcases outcome with rfl | rfl | ⟨entries, rfl⟩
        · exact settled
        · exact settled.imp (fun ⟨socket, live⟩ => ⟨socket, live.own, live.reader, live.writer⟩)
            fun dead => ⟨dead.own, dead.reader, dead.writer⟩
        · exact Or.inl ⟨fd, Connection.revived_live connection fd entries⟩
      · cases exn with
        | runtimeError what => exact .perform fun _ => .done settled
        | lengthError => exact .done settled
        | outOfRange => exact .done settled

theorem pollReconnect_stopped {state : Connection} {socket later : PeerSocket}
    (stopping : connection.shuttingDown = true)
    (run : Program.Run PeerSocket.answers socket
      (pollReconnect proto id connection newSocketFd) (.returned state) later) :
    state = connection ∧ later = socket := by
  unfold pollReconnect at run
  rw [stopping] at run
  by_cases connected : connection.socketFd.isSome
  · rw [if_pos connected] at run
    obtain ⟨same, rfl⟩ := Program.run_done_iff.mp run
    cases same
    exact ⟨rfl, rfl⟩
  · rw [if_neg connected, if_pos rfl] at run
    obtain ⟨same, rfl⟩ := Program.run_done_iff.mp run
    cases same
    exact ⟨rfl, rfl⟩

theorem kept_of_step {event : ReconnectEvent} (kept : held.Kept)
    (step : ReconnectStep proto box id held event after) : after.Kept := by
  cases step with
  | shutdown => exact kept.shutdown
  | use uses => exact kept.followed (uses.follows kept.settled)
  | pollReconnect run =>
      have unreported := kept.not_reported
      have settled := (pollReconnect_returns proto id kept.settled _).of_run run
      cases called : held.shutdownCalled with
      | false => exact .recovered_uncalled called unreported settled
      | true =>
          obtain ⟨rfl, rfl⟩ := pollReconnect_stopped (kept.flagged called) run
          exact kept.recovered_silent (Connection.not_caughtUp List.nil_prefix
            (List.append_nil _).symm)

theorem kept_of_reachable (reached : (reconnectSystem proto box id).Reachable held) :
    held.Kept := by
  apply reached.invariant
  · intro start initial
    obtain ⟨key, fd, rfl⟩ := initial
    exact Held.create_kept ⟨rfl, rfl, rfl⟩
  · intro before event after kept step
    exact kept_of_step kept step

end ClientConnection

/-- A shut down connection stays so, on the client in every run, and on the server in every run
in which no recovery of one that was shut down meanwhile gets as far as its catch-up. -/
theorem shutdown_permanent (proto : Protobuf) (box : SecretBox) :
    (∀ server, (SharedServer.system proto box).ReachableBy (SharedServer.NoneServed proto)
      server →
      ∀ pointer held, server.objects pointer = some held → held.Permanent) ∧
    (∀ id held, (ClientConnection.reconnectSystem proto box id).Reachable held →
      held.Permanent) := by
  constructor
  · intro server reached pointer held found
    exact (SharedServer.keeps_of_reachable reached pointer held found).permanent
  · intro id held reached
    exact (ClientConnection.kept_of_reachable reached).permanent

section Example

open SharedServer

def sharedSession : Connection :=
  Connection.create Key.zero CLIENT_SERVER_NONCE_MSB SERVER_CLIENT_NONCE_MSB (some 5)

def endedSession : Held := (Held.create sharedSession).shutdown

/-- The client that comes back has missed nothing and sends nothing. -/
def returningBytes : Bytes :=
  protoFrame (Protobuf.standard.sequenceHeader.serialize { sequenceNumber := 0 }) ++
    protoFrame (Protobuf.standard.catchupBuffer.serialize { buffer := [] })

theorem endedSession_completes :
    Connection.Completes Protobuf.standard endedSession.connection.closed returningBytes := by
  have headerTaken := takeProto_frame Protobuf.standard.sequenceHeader { sequenceNumber := 0 }
    (protoFrame (Protobuf.standard.catchupBuffer.serialize { buffer := [] })) (by decide)
  have catchupTaken := takeProto_frame Protobuf.standard.catchupBuffer { buffer := [] } []
    (by decide)
  rw [List.append_nil] at catchupTaken
  exact ⟨_, _, [], _, _, headerTaken, rfl, by decide, catchupTaken⟩

/-- The session ends between the two sections of the handler of its returning client. -/
theorem removed_then_recovered :
    ∃ server, (system Protobuf.standard .nullCipher).Reachable server ∧
      ∃ held, server.objects 0 = some held ∧ ¬ held.Permanent := by
  obtain ⟨entries, later, run⟩ := @Connection.recover_completes _ _
    { incoming := returningBytes, outgoing := [] } 6 endedSession_completes
  have start : (system Protobuf.standard .nullCipher).Reachable empty := .start rfl
  have registered := start.next (@Step.addClientKey _ _ _ [] Key.zero.bytes rfl)
  have created := registered.next
    (@Step.createClient _ _ _ 0 [] Key.zero 5 0 rfl rfl rfl rfl rfl rfl)
  have taken := created.next (@Step.newClientTaken _ _ _ 0 _ _ rfl rfl)
  have found := taken.next (@Step.findClient _ _ _ 1 [] _ _ rfl rfl rfl rfl rfl)
  have removed := found.next (@Step.removeClient _ _ _ [] rfl)
  have closed := removed.next (@Step.closeOldSocket _ _ _ 1 _ _ rfl rfl rfl)
  have recovered := closed.next (.recover rfl rfl rfl run)
  refine ⟨_, recovered, _, rfl, ?_⟩
  intro permanent
  cases (permanent rfl).1.own

theorem noneServed_of_open {proto : Protobuf} {server : SharedServer} {thread pointer : Nat}
    {held : Held} {fd : Fd} {socket : PeerSocket}
    (handler : server.handlers thread = some (.recoverClient pointer))
    (found : server.objects pointer = some held) (isOpen : held.shutdownCalled = false) :
    NoneServed proto server (.recover thread fd socket) := by
  intro other otherHeld isHandler isFound called
  cases handler.symm.trans isHandler
  cases found.symm.trans isFound
  rw [isOpen] at called
  cases called

theorem noneServed_of_silent {proto : Protobuf} {server : SharedServer} {thread : Nat} {fd : Fd}
    {socket : PeerSocket} (silent : takeProto proto.sequenceHeader socket.incoming = none) :
    NoneServed proto server (.recover thread fd socket) :=
  fun _ _ _ _ _ => Connection.not_serves_of_silent silent

theorem sharedSession_completes :
    Connection.Completes Protobuf.standard (Held.create sharedSession).connection.closed
      returningBytes := by
  have headerTaken := takeProto_frame Protobuf.standard.sequenceHeader { sequenceNumber := 0 }
    (protoFrame (Protobuf.standard.catchupBuffer.serialize { buffer := [] })) (by decide)
  have catchupTaken := takeProto_frame Protobuf.standard.catchupBuffer { buffer := [] } []
    (by decide)
  rw [List.append_nil] at catchupTaken
  exact ⟨_, _, [], _, _, headerTaken, rfl, by decide, catchupTaken⟩

/-- A client comes back and is recovered; when it comes back once more, the session ends before
the recovery, and the client is gone before the first byte. -/
theorem recovered_then_removed :
    ∃ server, (system Protobuf.standard .nullCipher).ReachableBy (NoneServed Protobuf.standard)
        server ∧
      ∃ held, server.objects 0 = some held ∧ held.shutdownCalled = true := by
  obtain ⟨entries, later, recovers⟩ := @Connection.recover_completes _ _
    { incoming := returningBytes, outgoing := [] } 6 sharedSession_completes
  have start : (system Protobuf.standard .nullCipher).ReachableBy
      (NoneServed Protobuf.standard) empty := .start rfl
  have registered := start.next (by trivial) (@Step.addClientKey _ _ _ [] Key.zero.bytes rfl)
  have created := registered.next (by trivial)
    (@Step.createClient _ _ _ 0 [] Key.zero 5 0 rfl rfl rfl rfl rfl rfl)
  have taken := created.next (by trivial) (@Step.newClientTaken _ _ _ 0 _ _ rfl rfl)
  have found := taken.next (by trivial) (@Step.findClient _ _ _ 1 [] _ _ rfl rfl rfl rfl rfl)
  have closed := found.next (by trivial) (@Step.closeOldSocket _ _ _ 1 _ _ rfl rfl rfl)
  have recovered := closed.next (noneServed_of_open rfl rfl rfl) (.recover rfl rfl rfl recovers)
  have again := recovered.next (by trivial) (@Step.findClient _ _ _ 2 [] _ _ rfl rfl rfl rfl rfl)
  have removed := again.next (by trivial) (@Step.removeClient _ _ _ [] rfl)
  have closedAgain := removed.next (by trivial) (@Step.closeOldSocket _ _ _ 2 _ _ rfl rfl rfl)
  have ended := closedAgain.next (noneServed_of_silent (by decide))
    (.recover rfl rfl rfl
      (Connection.recover_unreachable _ _ 7 { incoming := [], outgoing := [] }))
  exact ⟨_, ended, _, rfl, rfl⟩

theorem shutdown_permanent_removed :
    ∃ (server : SharedServer) (held : Held), server.objects 0 = some held ∧
      held.shutdownCalled = true ∧ held.connection.Dead ∧ ¬ held.reported := by
  obtain ⟨server, reached, held, found, called⟩ := recovered_then_removed
  exact ⟨server, held, found, called,
    (shutdown_permanent Protobuf.standard .nullCipher).1 server reached 0 held found called⟩

end Example

end EternalTerminal
