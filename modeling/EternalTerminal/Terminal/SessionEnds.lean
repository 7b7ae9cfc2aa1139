/-
The thread of a session from its first packet to its end: `TerminalServer::handleConnection`,
`runJumpHost` and `runTerminal`, as far as the maps of the server are concerned.

What the calls on the sockets, the terminal and the port forward handler come to is given with
each iteration.  The other threads work on the maps while the session runs.
-/

import Mathlib.Logic.Relation
import EternalTerminal.Base.ServerConnection
import EternalTerminal.Terminal.Handshake
import EternalTerminal.Terminal.RefusedTunnels
import EternalTerminal.Terminal.Registry
import EternalTerminal.Terminal.RunLoops

namespace EternalTerminal

open Library

structure InitialPayload where
  jumphost : Bool
  reversetunnels : List PortForwardSourceRequest
  environmentvariables : List (Bytes × Bytes)

/-! ### The iterations -/

/-- One packet of the loop that reads while there is data.  `handled` is what its handling comes
to where the packet is of a known type and parses. -/
structure PacketTurn where
  read : Except Failure (Option Packet)
  handled : Except Failure Unit

/-- What an iteration of `runTerminal` meets.  `terminalSent` is the write of what the terminal
gives, `forwarded` the `update` of the port forward handler and the writes of its results. -/
structure TerminalTurn where
  halt : Bool
  canBufferWrite : Bool
  terminal : ByteReport
  terminalSent : Except Failure Unit
  forwarded : Except Failure Unit
  clientReady : Bool
  packets : List PacketTurn

/-- What an iteration of `runJumpHost` meets.  `terminal` is a `readPacket`, `read` the one from
the client. -/
structure JumpHostTurn where
  halt : Bool
  shuttingDown : Bool
  canBufferWrite : Bool
  terminal : Option (Except Failure (Option Packet))
  terminalSent : Except Failure Unit
  clientReady : Bool
  read : Except Failure (Option Packet)
  routerSent : Except Failure Unit

namespace TerminalServer

/-- The `catch` of both loops: the socket is closed, and the loop goes on. -/
def closingSocket : Except Failure Bool → Except Failure Bool
  | .error (.runtimeError _) => .ok true
  | result => result

/-- The `catch` around the calls on the terminal of a jump host, which leaves the loop. -/
def leavingLoop : Except Failure Unit → Except Failure Bool → Except Failure Bool
  | .error (.runtimeError _), _ => .ok false
  | .error (.abort message), _ => .error (.abort message)
  | .ok (), next => next

def parsed {α : Type} (message : ProtoMessage α) (payload : Bytes) : Except Failure α :=
  match message.parse payload with
  | none => .error (.abort "Error parsing string to proto")
  | some value => .ok value

/-- What `runTerminal` does with a packet. -/
def handlePacket (packet : Packet) (handled : Except Failure Unit) : Except Failure Unit :=
  let packetType := packet.header
  if packetType = PORT_FORWARD_DATA ∨ packetType = PORT_FORWARD_DESTINATION_REQUEST ∨
      packetType = PORT_FORWARD_DESTINATION_RESPONSE then handled
  else if packetType = TERMINAL_BUFFER then do
    let _ ← parsed terminalBuffer packet.payload
    handled
  else if packetType = KEEP_ALIVE then handled
  else if packetType = TERMINAL_INFO then do
    let _ ← parsed terminalInfo packet.payload
    handled
  else .error (.abort ("Unknown packet type: " ++ toString packetType.toNat))

/-- `while (serverClientState->hasData())` -/
def readPackets : List PacketTurn → Except Failure Unit
  | [] => .ok ()
  | turn :: later => do
      match ← turn.read with
      | none => .ok ()
      | some packet =>
          handlePacket packet turn.handled
          readPackets later

/-- From the `update` of the port forward handler to the end of the `try` block. -/
def serveClient (turn : TerminalTurn) : Except Failure Bool := do
  turn.forwarded
  if turn.clientReady then readPackets turn.packets
  .ok true

/-- Whether the loop goes on after an iteration of `runTerminal`. -/
def terminalIteration (turn : TerminalTurn) : Except Failure Bool :=
  if turn.halt then .ok false
  else
    closingSocket
      (match if turn.canBufferWrite then turn.terminal else none with
      | some (.data _) => do
          turn.terminalSent
          serveClient turn
      | some .closed => .ok false
      | some (.failed errno) => .ok (errno = .eagain || errno = .ewouldblock)
      | none => serveClient turn)

def passTerminal (turn : JumpHostTurn) : Except Failure Unit :=
  match if turn.canBufferWrite then turn.terminal else none with
  | none => .ok ()
  | some read => do
      match ← read with
      | none => .ok ()
      | some _ => turn.terminalSent

/-- Whether the loop goes on after an iteration of `runJumpHost`. -/
def jumpHostIteration (turn : JumpHostTurn) : Except Failure Bool :=
  if turn.halt || turn.shuttingDown then .ok false
  else
    closingSocket
      (leavingLoop (passTerminal turn)
        (if turn.clientReady then do
          match ← turn.read with
          | none => .ok true
          | some _ => leavingLoop turn.routerSent (.ok true)
        else .ok true))

/-- Whether a loop has been left by the end of these iterations. -/
def leftLoop {Turn : Type} (iteration : Turn → Except Failure Bool) :
    List Turn → Except Failure Bool
  | [] => .ok false
  | turn :: later => do
      if ← iteration turn then leftLoop iteration later
      else .ok true

end TerminalServer

/-! ### The session -/

/-- What a session meets, with the parser of `InitialPayload` and the writes that come before the
loops. -/
structure SessionCalls where
  initialReads : List (Except Failure (Option Packet))
  parsePayload : Bytes → Option InitialPayload
  initialResponse : InitialResponse → Except Failure Unit
  surroundings : Nat → RequestSurroundings
  terminalInit : (Bytes → Option Bytes) → Except Failure Unit
  jumphostInit : InitialPayload → Except Failure Unit
  terminalTurns : List TerminalTurn
  jumpHostTurns : List JumpHostTurn

namespace TerminalServer

/-- The first packet; `none` while there is none. -/
def awaitPacket : List (Except Failure (Option Packet)) → Except Failure (Option Packet)
  | [] => .ok none
  | read :: later => do
      match ← read with
      | none => awaitPacket later
      | some packet => .ok (some packet)

def awaitPayload (calls : SessionCalls) : Except Failure (Option InitialPayload) := do
  match ← awaitPacket calls.initialReads with
  | none => .ok none
  | some packet =>
      if packet.header ≠ INITIAL_PAYLOAD then
        .error (.abort ("Invalid header: expecting INITIAL_PAYLOAD but got " ++
          toString packet.header.toNat))
      else
        match calls.parsePayload packet.payload with
        | none => .error (.abort "Error parsing string to proto")
        | some payload => .ok (some payload)

def userInfo (server : ServerRegistry) (connection : ServerClientIdentity) :
    Except Failure (Option TerminalUserInfo) :=
  match server.router.tryGetInfoForConnection connection with
  | .error message => .error (.abort message)
  | .ok info => .ok info

/-- The block after both loops.  `later` are the maps when the loop has been left. -/
def afterLoop (connection : ServerClientIdentity) (later : ServerRegistry) (left : Bool) :
    Option ServerRegistry :=
  if left then some (later.removeClient connection.id) else none

variable (calls : SessionCalls) (connection : ServerClientIdentity)
  (before later : ServerRegistry)

def runJumpHost (payload : InitialPayload) : Except Failure (Option ServerRegistry) := do
  calls.initialResponse { error := none }
  match ← userInfo before connection with
  | none => .ok (some later)
  | some _ =>
      calls.jumphostInit payload
      let left ← leftLoop jumpHostIteration calls.jumpHostTurns
      .ok (afterLoop connection later left)

def payloadVariables (payload : InitialPayload) : Bytes → Option Bytes :=
  payload.environmentvariables.foldl
    (fun environment envVar => Function.update environment envVar.1 (some envVar.2))
    (fun _ => none)

def runTerminal (payload : InitialPayload) : Except Failure (Option ServerRegistry) := do
  match ← userInfo before connection with
  | none => .ok (some later)
  | some info =>
      match ← openTunnels calls.surroundings info.uid info.gid payload.reversetunnels 0
          { pipeServerSockets := fun _ => none } [] (payloadVariables payload) with
      | .refused what =>
          calls.initialResponse { error := some (ServerConnection.toBytes what) }
          .ok (some later)
      | .opened environmentVariables =>
          calls.initialResponse { error := none }
          calls.terminalInit environmentVariables
          let left ← leftLoop terminalIteration calls.terminalTurns
          .ok (afterLoop connection later left)

/-- The maps when the thread returns, `none` if it has not returned yet.  The thread finds the
router of `before` and, at its end, the maps `later`.  A failure ends the process: nothing
catches an exception of the thread. -/
def handleConnection : Except Failure (Option ServerRegistry) := do
  match ← awaitPayload calls with
  | none => .ok none
  | some payload =>
      if payload.jumphost then runJumpHost calls connection before later payload
      else runTerminal calls connection before later payload

end TerminalServer

/-! ### The other threads -/

namespace ServerRegistry

/-- A critical section of another thread.  It does not add or remove the id. -/
inductive OtherStep (id : Bytes) : ServerRegistry → ServerRegistry → Prop
  | router (server : ServerRegistry) (router : UserTerminalRouter) :
      OtherStep id server { server with router := router }
  | addClientKey (server : ServerRegistry) {other : Bytes} (passkey : Bytes) :
      other ≠ id → OtherStep id server (server.addClientKey other passkey)
  | lookup {server after : ServerRegistry} {clientId : Bytes} {found : Lookup} :
      server.lookup clientId = .ok (found, after) → OtherStep id server after
  | removeClient (server : ServerRegistry) {other : Bytes} :
      other ≠ id → OtherStep id server (server.removeClient other)
  | destroyPartialConnection (server : ServerRegistry) {other : Bytes} :
      other ≠ id → OtherStep id server (server.destroyPartialConnection other)

abbrev Elsewhere (id : Bytes) : ServerRegistry → ServerRegistry → Prop :=
  Relation.ReflTransGen (OtherStep id)

def Registers (server : ServerRegistry) (id : Bytes) : Prop :=
  (server.clientKeys id).isSome ∧ (server.clientConnections id).isSome

/-- The id has neither, and whatever the other threads do, a client that asks for it is told
that it is not registered. -/
structure Forgets (server : ServerRegistry) (id : Bytes) : Prop where
  key : server.clientKeys id = none
  connection : server.clientConnections id = none
  answer {later : ServerRegistry} :
    Elsewhere id server later → later.lookup id = .ok (.notRegistered, later)

variable {server after later : ServerRegistry} {id clientId : Bytes} {found : Lookup}

theorem lookup_forgotten (noKey : server.clientKeys id = none)
    (noConnection : server.clientConnections id = none) :
    server.lookup id = .ok (.notRegistered, server) := by
  unfold lookup clientConnectionExists
  rw [noConnection, noKey]
  rfl

theorem lookup_other (different : clientId ≠ id)
    (ok : server.lookup clientId = .ok (found, after)) :
    after.clientKeys id = server.clientKeys id ∧
      after.clientConnections id = server.clientConnections id := by
  unfold lookup at ok
  split at ok
  · obtain ⟨connection, _, ok⟩ := except_bind_ok ok
    split at ok
    · cases ok
      exact ⟨rfl, rfl⟩
    · cases ok
      exact ⟨rfl, rfl⟩
  · split at ok
    · cases ok
      exact ⟨rfl, rfl⟩
    · unfold create at ok
      split at ok
      · cases ok
        exact ⟨rfl, Function.update_of_ne different.symm _ _⟩
      · cases ok

theorem removeClient_other (server : ServerRegistry) {other : Bytes} (different : other ≠ id) :
    (server.removeClient other).clientKeys id = server.clientKeys id ∧
      (server.removeClient other).clientConnections id = server.clientConnections id := by
  unfold removeClient
  split
  · exact ⟨Function.update_of_ne different.symm _ _, Function.update_of_ne different.symm _ _⟩
  · exact ⟨rfl, rfl⟩

/-- A step of another thread leaves the id alone, unless it has a key and no connection. -/
theorem OtherStep.keeps (step : OtherStep id server after)
    (settled : server.clientKeys id = none ∨ (server.clientConnections id).isSome) :
    after.clientKeys id = server.clientKeys id ∧
      after.clientConnections id = server.clientConnections id := by
  cases step with
  | router => exact ⟨rfl, rfl⟩
  | addClientKey passkey different => exact ⟨Function.update_of_ne different.symm _ _, rfl⟩
  | removeClient different => exact removeClient_other server different
  | destroyPartialConnection different =>
      exact ⟨rfl, Function.update_of_ne different.symm _ _⟩
  | @lookup _ clientId found ok =>
      by_cases same : clientId = id
      · subst same
        unfold ServerRegistry.lookup at ok
        split at ok
        · obtain ⟨connection, _, ok⟩ := except_bind_ok ok
          split at ok
          · cases ok
            exact ⟨rfl, rfl⟩
          · cases ok
            exact ⟨rfl, rfl⟩
        · rename_i missing
          rcases settled with noKey | hasConnection
          · rw [noKey] at ok
            cases ok
            exact ⟨rfl, rfl⟩
          · exact absurd hasConnection missing
      · exact lookup_other same ok

theorem Elsewhere.keeps (elsewhere : Elsewhere id server later)
    (settled : server.clientKeys id = none ∨ (server.clientConnections id).isSome) :
    later.clientKeys id = server.clientKeys id ∧
      later.clientConnections id = server.clientConnections id := by
  induction elsewhere with
  | refl => exact ⟨rfl, rfl⟩
  | tail _ step ih =>
      obtain ⟨sameKey, sameConnection⟩ := ih
      rw [← sameKey, ← sameConnection] at settled ⊢
      exact step.keeps settled

theorem Elsewhere.registers (elsewhere : Elsewhere id server later)
    (registered : server.Registers id) : later.Registers id := by
  obtain ⟨sameKey, sameConnection⟩ := elsewhere.keeps (Or.inr registered.2)
  rw [Registers, sameKey, sameConnection]
  exact registered

theorem forgets_of_missing (noKey : server.clientKeys id = none)
    (noConnection : server.clientConnections id = none) : server.Forgets id := by
  constructor
  · exact noKey
  · exact noConnection
  · intro later elsewhere
    obtain ⟨sameKey, sameConnection⟩ := elsewhere.keeps (Or.inl noKey)
    exact lookup_forgotten (sameKey.trans noKey) (sameConnection.trans noConnection)

theorem Registers.removed (registered : server.Registers id) :
    (server.removeClient id).Forgets id := by
  have isKey : server.clientKeyExists id = true := registered.1
  unfold removeClient
  rw [if_pos isKey]
  exact forgets_of_missing (Function.update_self ..) (Function.update_self ..)

theorem Registers.not_forgets (registered : server.Registers id) : ¬ server.Forgets id := by
  intro forgets
  obtain ⟨connection, isConnection⟩ := Option.isSome_iff_exists.mp registered.2
  cases forgets.connection.symm.trans isConnection

end ServerRegistry

namespace RegistryState

def Touches (state : RegistryState) (id : Bytes) : Event → Prop
  | .addClientKey => ∃ pair, state.pending = some pair ∧ pair.id = id
  | .newClient handler .declined =>
      ∃ connection, state.handlers handler = .entering id connection
  | .abandon handler => state.handlers handler = .abandoning id
  | .removeClient other => other = id
  | _ => False

variable {state after : RegistryState} {event : Event} {id : Bytes}

/-- Every other step of the server is one of another thread, or leaves its maps as they are. -/
theorem Step.elsewhere (step : Step state event after) (apart : ¬ state.Touches id event) :
    ServerRegistry.Elsewhere id state.server after.server := by
  cases step with
  | acceptTerminal _ _ => exact .single (.router _ _)
  | addClientKey waits =>
      exact .single (.addClientKey _ _ fun same => apart ⟨_, waits, same⟩)
  | lookup _ ok => exact .single (.lookup ok)
  | respond _ => exact .refl
  | accepted _ => exact .refl
  | declined was =>
      refine .single (.removeClient _ ?_)
      intro same
      exact apart ⟨_, same ▸ was⟩
  | threw _ => exact .refl
  | abandon was =>
      refine .single (.destroyPartialConnection _ ?_)
      intro same
      exact apart (same ▸ was)
  | recover _ => exact .refl
  | removeClient other => exact .single (.removeClient _ apart)

structure Admitted (state : RegistryState) (id : Bytes) : Prop where
  routed : (state.server.router.idInfoMap id).isSome
  added {pair : IdKeyPair} : state.pending = some pair → pair.id ≠ id

theorem Step.router_kept (step : Step state event after) {info : TerminalUserInfo}
    (known : state.server.router.idInfoMap id = some info) :
    after.server.router.idInfoMap id = some info := by
  cases step with
  | acceptTerminal _ ok =>
      exact (UserTerminalRouter.acceptNewConnection_spec ok).1 id info known
  | addClientKey _ => exact known
  | lookup _ ok => exact (ServerRegistry.lookup_router ok) ▸ known
  | respond _ => exact known
  | accepted _ => exact known
  | declined _ =>
      exact (ServerRegistry.removeClient_router state.server _) ▸ known
  | threw _ => exact known
  | abandon _ => exact known
  | recover _ => exact known
  | removeClient other =>
      exact (ServerRegistry.removeClient_router state.server other) ▸ known

/-- An id is handed on once, so one that has been admitted is not added again. -/
theorem Step.admitted (step : Step state event after) (admitted : state.Admitted id) :
    after.Admitted id := by
  obtain ⟨info, known⟩ := Option.isSome_iff_exists.mp admitted.routed
  constructor
  · exact Option.isSome_iff_exists.mpr ⟨info, step.router_kept known⟩
  · intro pair waits
    cases step with
    | acceptTerminal _ ok =>
        dsimp only at waits
        split at waits
        · cases waits
        · rename_i named
          cases waits
          intro same
          exact named (UserTerminalRouter.acceptNewConnection_known ok (same ▸ known))
    | addClientKey _ => cases waits
    | lookup _ _ => exact admitted.added waits
    | respond _ => exact admitted.added waits
    | accepted _ => exact admitted.added waits
    | declined _ => exact admitted.added waits
    | threw _ => exact admitted.added waits
    | abandon _ => exact admitted.added waits
    | recover _ => exact admitted.added waits
    | removeClient _ => exact admitted.added waits

/-- An id without a key and a connection stays without them, also when it is removed again. -/
theorem Step.missing (step : Step state event after) (admitted : state.Admitted id)
    (noKey : state.server.clientKeys id = none)
    (noConnection : state.server.clientConnections id = none) :
    after.server.clientKeys id = none ∧ after.server.clientConnections id = none := by
  by_cases touches : state.Touches id event
  · have removed : ∀ other, (state.server.removeClient other).clientKeys id = none ∧
        (state.server.removeClient other).clientConnections id = none := by
      intro other
      by_cases same : other = id
      · subst same
        unfold ServerRegistry.removeClient ServerRegistry.clientKeyExists
        rw [noKey]
        exact ⟨noKey, noConnection⟩
      · obtain ⟨sameKey, sameConnection⟩ := ServerRegistry.removeClient_other state.server same
        exact ⟨sameKey.trans noKey, sameConnection.trans noConnection⟩
    cases step with
    | addClientKey waits =>
        obtain ⟨pair, waiting, same⟩ := touches
        exact absurd same (admitted.added waiting)
    | declined _ => exact removed _
    | removeClient other => exact removed other
    | @abandon _ clientId was =>
        have same : clientId = id := HandlerState.abandoning.inj (was.symm.trans touches)
        exact ⟨noKey, same ▸ Function.update_self ..⟩
    | acceptTerminal _ _ => exact touches.elim
    | lookup _ _ => exact touches.elim
    | respond _ => exact touches.elim
    | accepted _ => exact touches.elim
    | threw _ => exact touches.elim
    | recover _ => exact touches.elim
  · obtain ⟨sameKey, sameConnection⟩ := (step.elsewhere touches).keeps (Or.inl noKey)
    exact ⟨sameKey.trans noKey, sameConnection.trans noConnection⟩

/-- In a run of the server a client that has been forgotten is never known again. -/
theorem forgotten_for_good {events : List Event} {later : RegistryState}
    (path : registrySystem.Path state events later) (admitted : state.Admitted id)
    (forgets : state.server.Forgets id) : later.server.Forgets id := by
  induction path with
  | refl state => exact forgets
  | cons step _ ih =>
      obtain ⟨noKey, noConnection⟩ := Step.missing step admitted forgets.key forgets.connection
      exact ih (Step.admitted step admitted)
        (ServerRegistry.forgets_of_missing noKey noConnection)

end RegistryState

/-! ### What a session leaves behind -/

/-- The router has the client with its passkey, and the session is one of a jump host or none of
its reverse tunnels is refused. -/
def SessionCalls.ReachesLoop (calls : SessionCalls) (connection : ServerClientIdentity)
    (before : ServerRegistry) : Prop :=
  before.Routes connection.id connection.key ∧
    ∀ payload, TerminalServer.awaitPayload calls = .ok (some payload) →
      payload.jumphost = true ∨
        ¬ PortForwardHandler.RefusesTunnel calls.surroundings payload.reversetunnels 0 []

namespace TerminalServer

variable {calls : SessionCalls} {connection : ServerClientIdentity}
  {before later after : ServerRegistry} {payload : InitialPayload}

theorem userInfo_ok {info : Option TerminalUserInfo}
    (ok : userInfo before connection = .ok info) :
    info.isSome ↔ before.Routes connection.id connection.key := by
  unfold userInfo UserTerminalRouter.tryGetInfoForConnection at ok
  cases found : before.router.idInfoMap connection.id with
  | none =>
      rw [found] at ok
      cases ok
  | some entry =>
      have routes : before.Routes connection.id connection.key ↔
          entry.passkey = connection.key := by
        unfold ServerRegistry.Routes
        rw [found]
        constructor
        · intro known
          obtain ⟨other, same, sameKey⟩ := known
          cases same
          exact sameKey
        · exact fun sameKey => ⟨entry, rfl, sameKey⟩
      rw [found] at ok
      dsimp only at ok
      have verifies : connection.verifyPasskey entry.passkey = true ↔
          before.Routes connection.id connection.key := by
        rw [connection.verifyPasskey_iff, routes]
        exact eq_comm
      rw [← verifies]
      cases verified : connection.verifyPasskey entry.passkey with
      | true =>
          rw [verified] at ok
          cases ok
          exact iff_of_true rfl rfl
      | false =>
          rw [verified] at ok
          cases ok
          exact iff_of_false Bool.false_ne_true Bool.false_ne_true

theorem afterLoop_some {left : Bool}
    (ended : afterLoop connection later left = some after) :
    after = later.removeClient connection.id := by
  cases left with
  | true =>
      cases ended
      rfl
  | false => cases ended

/-- A jump host returns with its client removed, or before its loop. -/
theorem runJumpHost_returns
    (ok : runJumpHost calls connection before later payload = .ok (some after)) :
    (before.Routes connection.id connection.key ∧ after = later.removeClient connection.id) ∨
      (¬ before.Routes connection.id connection.key ∧ after = later) := by
  obtain ⟨_, _, ok⟩ := except_bind_ok ok
  obtain ⟨info, found, ok⟩ := except_bind_ok ok
  have routes := userInfo_ok found
  cases info with
  | none =>
      cases ok
      exact Or.inr ⟨fun known => Bool.false_ne_true (routes.mpr known), rfl⟩
  | some info =>
      obtain ⟨_, _, ok⟩ := except_bind_ok ok
      obtain ⟨left, _, ok⟩ := except_bind_ok ok
      exact Or.inl ⟨routes.mp rfl, afterLoop_some (Except.ok.inj ok)⟩

/-- A terminal returns with its client removed, or before its loop: for a wrong passkey or a
tunnel that is refused. -/
theorem runTerminal_returns
    (ok : runTerminal calls connection before later payload = .ok (some after)) :
    ((before.Routes connection.id connection.key ∧
        ¬ PortForwardHandler.RefusesTunnel calls.surroundings payload.reversetunnels 0 []) ∧
      after = later.removeClient connection.id) ∨
    (¬ (before.Routes connection.id connection.key ∧
        ¬ PortForwardHandler.RefusesTunnel calls.surroundings payload.reversetunnels 0 []) ∧
      after = later) := by
  obtain ⟨info, found, ok⟩ := except_bind_ok ok
  have routes := userInfo_ok found
  cases info with
  | none =>
      cases ok
      exact Or.inr ⟨fun known => Bool.false_ne_true (routes.mpr known.1), rfl⟩
  | some info =>
      obtain ⟨outcome, opening, ok⟩ := except_bind_ok ok
      have untaken : PortForwardHandler.Takes { pipeServerSockets := fun _ => none } [] := by
        intro path
        simp
      have refused := openTunnels_refused untaken opening
      cases outcome with
      | refused what =>
          obtain ⟨_, _, ok⟩ := except_bind_ok ok
          cases ok
          exact Or.inr ⟨fun accepted => accepted.2 (refused.mp ⟨what, rfl⟩), rfl⟩
      | opened environmentVariables =>
          obtain ⟨_, _, ok⟩ := except_bind_ok ok
          obtain ⟨_, _, ok⟩ := except_bind_ok ok
          obtain ⟨left, _, ok⟩ := except_bind_ok ok
          refine Or.inl ⟨⟨routes.mp rfl, ?_⟩, afterLoop_some (Except.ok.inj ok)⟩
          intro refuses
          obtain ⟨what, impossible⟩ := refused.mpr refuses
          cases impossible

/-- A thread that returns has removed its client if and only if it has reached its loop. -/
theorem handleConnection_returns
    (ok : handleConnection calls connection before later = .ok (some after)) :
    (calls.ReachesLoop connection before ∧ after = later.removeClient connection.id) ∨
      (¬ calls.ReachesLoop connection before ∧ after = later) := by
  obtain ⟨received, awaiting, ok⟩ := except_bind_ok ok
  cases received with
  | none => cases ok
  | some payload =>
      have reaches : calls.ReachesLoop connection before ↔
          before.Routes connection.id connection.key ∧ (payload.jumphost = true ∨
            ¬ PortForwardHandler.RefusesTunnel calls.surroundings payload.reversetunnels 0 []) := by
        unfold SessionCalls.ReachesLoop
        rw [awaiting]
        simp
      rw [reaches]
      dsimp only at ok
      cases forJumpHost : payload.jumphost with
      | true =>
          rw [forJumpHost] at ok
          have returns := runJumpHost_returns ok
          simpa using returns
      | false =>
          rw [forJumpHost] at ok
          have returns := runTerminal_returns ok
          simpa using returns

/-- What a session leaves when its thread returns: the client is gone, and stays unknown, if and
only if the session has come to its loop. -/
theorem session_forgets_client (registered : before.Registers connection.id)
    (elsewhere : ServerRegistry.Elsewhere connection.id before later)
    (returns : handleConnection calls connection before later = .ok (some after)) :
    after.Forgets connection.id ↔ calls.ReachesLoop connection before := by
  have stillRegistered := elsewhere.registers registered
  rcases handleConnection_returns returns with ⟨reaches, rfl⟩ | ⟨misses, rfl⟩
  · exact iff_of_true stillRegistered.removed reaches
  · exact iff_of_false stillRegistered.not_forgets misses

/-! ### A tunnel for a port that is in use -/

/-- The payload that the other end of `withTunnels` reads. -/
def tunnelPayload (reversetunnels : List PortForwardSourceRequest) : InitialPayload :=
  { jumphost := false, reversetunnels := reversetunnels, environmentvariables := [] }

/-- A session whose writes all succeed and whose terminal ends. -/
def withTunnels (kernel : Kernel) (reversetunnels : List PortForwardSourceRequest) :
    SessionCalls :=
  { initialReads := [.ok none, .ok (some (.plain INITIAL_PAYLOAD []))]
    parsePayload := fun _ => some (tunnelPayload reversetunnels)
    initialResponse := fun _ => .ok ()
    surroundings := fun _ =>
      { network := { portServerSockets := fun _ => none }, kernel := kernel }
    terminalInit := fun _ => .ok ()
    jumphostInit := fun _ => .ok ()
    terminalTurns :=
      [{ halt := false
         canBufferWrite := true
         terminal := some .closed
         terminalSent := .ok ()
         forwarded := .ok ()
         clientReady := false
         packets := [] }]
    jumpHostTurns := [] }

def busyKernel : Kernel :=
  { TunnelServer.grantingKernel with bind := fun _ _ => some 98 }

def oneTerminal : TerminalUserInfo :=
  { id := [1], passkey := List.replicate 32 7, uid := 0, gid := 0, fd := 5 }

def oneClient : ServerClientIdentity :=
  { id := [1], key := List.replicate 32 7 }

def oneSession : ServerRegistry :=
  { clientKeys := Function.update (fun _ => none) [1] (some oneClient.key)
    clientConnections := Function.update (fun _ => none) [1] (some 0)
    objects := [oneClient]
    router := { idInfoMap := Function.update (fun _ => none) [1] (some oneTerminal) } }

theorem oneSession_reachable :
    ∃ state, registrySystem.Reachable state ∧ state.entered = [(0, 0)] ∧
      state.server = oneSession := by
  have started : registrySystem.Reachable _ := .start rfl
  have accepted := started.next (.acceptTerminal rfl
    (rfl : UserTerminalRouter.acceptNewConnection _ (.packet 5 TERMINAL_USER_INFO oneTerminal) = _))
  have added := accepted.next (.addClientKey rfl)
  have found := added.next
    (.lookup rfl (rfl : ServerRegistry.lookup _ [1] = .ok (.created 0, _)) :
      RegistryState.Step _ (.lookup 0 _) _)
  have answered := found.next (.respond rfl : RegistryState.Step _ (.respond 0 true) _)
  have entered := answered.next (.accepted rfl : RegistryState.Step _ (.newClient 0 _) _)
  exact ⟨_, entered, rfl, rfl⟩

/-- The thread returns, and a client that asks is still recovered onto its connection. -/
theorem refused_tunnel_leaves_client :
    ∃ state, registrySystem.Reachable state ∧ state.entered = [(0, 0)] ∧
      handleConnection (withTunnels busyKernel [TunnelServer.wantsPort8080]) oneClient
        state.server state.server = .ok (some state.server) ∧
      state.server.lookup [1] = .ok (.returning 0, state.server) ∧
      ¬ state.server.Forgets [1] := by
  obtain ⟨state, reached, entered, same⟩ := oneSession_reachable
  have registered : oneSession.Registers [1] := ⟨rfl, rfl⟩
  refine ⟨state, reached, entered, ?_⟩
  rw [same]
  exact ⟨rfl, rfl, registered.not_forgets⟩

/-- Without tunnels the client is gone when its terminal has ended. -/
theorem session_forgets_client_ended :
    (oneSession.removeClient [1]).Forgets [1] := by
  have routes : oneSession.Routes [1] oneClient.key := ⟨oneTerminal, rfl, rfl⟩
  apply (@session_forgets_client (withTunnels busyKernel []) oneClient oneSession oneSession
    (oneSession.removeClient [1]) ⟨rfl, rfl⟩ .refl rfl).mpr
  refine ⟨routes, ?_⟩
  intro payload received
  cases received
  exact Or.inr id

end TerminalServer

end EternalTerminal
