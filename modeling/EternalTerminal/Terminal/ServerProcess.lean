/-
The descriptors of a `TerminalServer` process over its whole run: those of the terminals, of the
clients and of the port forward handlers.

The main thread, any number of calls of `clientHandler` and any number of sessions take turns.
Each socket handler closes only what is in its own tables; the kernel gives out any number that
is not in use.
-/

import EternalTerminal.Library.HandleTable
import EternalTerminal.Terminal.DescriptorCalls
import EternalTerminal.Terminal.SessionEnds

namespace EternalTerminal

open Library

/-- The handlers of the server and of the router, and the one that a session makes for its
pipes. -/
inductive SocketHandlerName where
  | server
  | router
  | pipe (connection : Nat)
  deriving DecidableEq

/-- The table of a handler that has the descriptor: `activeSocketMutexes`, or the one of the
sockets that listen. -/
inductive SocketOwner where
  | active (handler : SocketHandlerName)
  | listening (handler : SocketHandlerName)
  deriving DecidableEq

abbrev SocketTable := HandleTable Fd SocketOwner

abbrev OwnedCall := HandleCall (Fd × SocketOwner)

inductive Behalf where
  | terminal (id : Bytes)
  | session (connection : Nat)
  deriving DecidableEq

/-- The thread of `handleConnection` for a connection, with the maps that it has found and its
port forward handler.  A jump host makes no use of one. -/
inductive SessionThread where
  | notStarted
  | running (before : ServerRegistry) (forwarding : ForwardingState)
  | returned

/-- `clientSocketFds` are the descriptors that the calls of `clientHandler` have been given,
`socketFds` the `socketFd` of each connection. -/
structure ServerProcess where
  registry : RegistryState
  network : TcpSocketHandler
  sockets : SocketTable
  clientSocketFds : Nat → Option Fd
  socketFds : Nat → Option Fd
  sessions : Nat → SessionThread
  behalf : List (Behalf × Nat)

/-! ### The router -/

/-- What `accept` gives for this peer. -/
inductive RouterPeer.Accepts : RouterPeer → Option Fd → Prop
  | nothing : Accepts .nothing none
  | unreadable (terminalFd : Fd) : Accepts .unreadable (some terminalFd)
  | packet (terminalFd : Fd) (header : UInt8) (tui : Option TerminalUserInfo) :
      Accepts (.packet terminalFd header tui) (some terminalFd)

namespace UserTerminalRouter

/-- The id that `acceptNewConnection` enters into the map. -/
def registered (router : UserTerminalRouter) : RouterPeer → Option Bytes
  | .packet _ header (some tui) =>
      if header = TERMINAL_USER_INFO ∧ router.idInfoMap tui.id = none then some tui.id else none
  | _ => none

/-- A terminal that is not entered is closed. -/
def acceptCalls (router : UserTerminalRouter) (peer : RouterPeer) : Option Fd → List OwnedCall
  | none => []
  | some terminalFd =>
      .opened (terminalFd, .active .router) ::
        match router.registered peer with
        | some _ => []
        | none => [.closed (terminalFd, .active .router)]

end UserTerminalRouter

/-! ### The sockets of a port forward handler -/

/-- Each descriptor is with the handler of the server or with the session's own. -/
def tunnelOwner (connection : Nat) (isNetwork : Fd → Bool) (fd : Fd) : Fd × SocketOwner :=
  (fd, .active (if isNetwork fd then .server else .pipe connection))

def listeningAt (connection : Nat) (network : TcpSocketHandler) (pipe : PipeSocketHandler)
    (source : SocketEndpoint) : List (Fd × SocketOwner) :=
  if source.port.isSome then
    ((network.portServerSockets source.portOrZero).getD []).map fun fd =>
      (fd, .listening .server)
  else
    (pipe.pipeServerSockets source.nameOrEmpty).toList.map fun fd =>
      (fd, .listening (.pipe connection))

/-- The destructors of the source handlers, which are all that the destructor of a port forward
handler comes to. -/
def stopSources (connection : Nat) (pipe : PipeSocketHandler) :
    List TunnelEnds → TcpSocketHandler → List OwnedCall × TcpSocketHandler
  | [], network => ([], network)
  | ends :: rest, network =>
      let (calls, after) := stopSources connection pipe rest
        (if ends.source.port.isSome then network.stopListening ends.source else network)
      ((listeningAt connection network pipe ends.source).map .closed ++ calls, after)

def ForwardingEvent.CreatesSource : ForwardingEvent → Prop
  | .createSource _ _ _ _ _ _ => True
  | _ => False

namespace ServerProcess

/-! ### The sockets of the clients -/

/-- `closeSocket` of these connections. -/
def closeSocketCalls (process : ServerProcess) (connections : List Nat) : List OwnedCall :=
  connections.flatMap fun connection =>
    (process.socketFds connection).toList.map fun fd => .closed (fd, .active .server)

def disconnect (process : ServerProcess) (connections : List Nat) : Nat → Option Fd :=
  fun connection => if connection ∈ connections then none else process.socketFds connection

def attach (process : ServerProcess) (connection : Nat) (fd : Fd) : ServerProcess :=
  { process with
    socketFds := Function.update process.socketFds connection (some fd)
    behalf := process.behalf ++
      (process.sockets.current fd).toList.map fun number => (.session connection, number) }

/-- The connections that have left the map of the server, which shuts them down. -/
def removed (before after : ServerRegistry) (id : Bytes) : List Nat :=
  match after.clientConnections id with
  | none => (before.clientConnections id).toList
  | some _ => []

/-- The end of `clientHandler` for a client without a key, or when a response cannot be
written. -/
def responseCalls (fd : Fd) (written : Bool) : ServerRegistry.Lookup → List OwnedCall
  | .notRegistered => [.closed (fd, .active .server)]
  | .created _ => []
  | .returning _ => if written then [] else [.closed (fd, .active .server)]

def opensFor (process : ServerProcess) (sockets : SocketTable) (owner : Behalf) :
    List (Behalf × Nat) :=
  process.behalf ++ (process.sockets.openedSince sockets).map fun number => (owner, number)

/-! ### The steps -/

inductive Event where
  | acceptTerminal (terminalFd : Option Fd) (peer : RouterPeer)
  | addClientKey
  | acceptClient (handler : Nat) (clientSocketFd : Fd)
  | turnAway (handler : Nat)
  | lookup (handler : Nat) (clientId : Bytes)
  | respond (handler : Nat) (written : Bool)
  | newClient (handler : Nat) (outcome : NewClientOutcome)
  | abandon (handler : Nat)
  | recover (handler : Nat) (recovered : Bool)
  | closeSocket (connection : Nat)
  | createSource (connection : Nat) (kernel : Kernel) (pfsr : PortForwardSourceRequest)
      (wantsName : Bool) (userid groupid : Int)
  | forward (connection : Nat) (event : ForwardingEvent)
  | handleConnection (connection : Nat) (calls : SessionCalls)
  | destruct (connection : Nat)
  | shutdown

inductive Step : ServerProcess → Event → ServerProcess → Prop
  | acceptTerminal {process : ServerProcess} {peer : RouterPeer} {terminalFd : Option Fd}
      {registry : RegistryState} {sockets : SocketTable} :
      peer.Accepts terminalFd →
      RegistryState.Step process.registry (.acceptTerminal peer) registry →
      process.sockets.Performs
        (process.registry.server.router.acceptCalls peer terminalFd) sockets →
      Step process (.acceptTerminal terminalFd peer)
        { process with
          registry := registry
          sockets := sockets
          behalf :=
            match process.registry.server.router.registered peer with
            | some id => process.opensFor sockets (.terminal id)
            | none => process.behalf }
  | addClientKey {process : ServerProcess} {registry : RegistryState} :
      RegistryState.Step process.registry .addClientKey registry →
      Step process .addClientKey { process with registry := registry }
  | acceptClient {process : ServerProcess} {handler : Nat} {clientSocketFd : Fd}
      {sockets : SocketTable} :
      process.registry.handlers handler = .reading → process.clientSocketFds handler = none →
      process.sockets.Performs [.opened (clientSocketFd, .active .server)] sockets →
      Step process (.acceptClient handler clientSocketFd)
        { process with
          sockets := sockets
          clientSocketFds :=
            Function.update process.clientSocketFds handler (some clientSocketFd) }
  /- The request cannot be read, or its version is another one. -/
  | turnAway {process : ServerProcess} {handler : Nat} {clientSocketFd : Fd}
      {sockets : SocketTable} :
      process.registry.handlers handler = .reading →
      process.clientSocketFds handler = some clientSocketFd →
      process.sockets.Performs [.closed (clientSocketFd, .active .server)] sockets →
      Step process (.turnAway handler)
        { process with
          sockets := sockets
          clientSocketFds := Function.update process.clientSocketFds handler none }
  | lookup {process : ServerProcess} {handler : Nat} {clientId : Bytes} {clientSocketFd : Fd}
      {found : ServerRegistry.Lookup} {registry : RegistryState} :
      process.clientSocketFds handler = some clientSocketFd →
      RegistryState.Step process.registry (.lookup handler clientId) registry →
      registry.handlers handler = .responding clientId found →
      Step process (.lookup handler clientId)
        (match found with
        | .created connection =>
            { process with registry := registry }.attach connection clientSocketFd
        | _ => { process with registry := registry })
  | respond {process : ServerProcess} {handler : Nat} {clientId : Bytes} {clientSocketFd : Fd}
      {found : ServerRegistry.Lookup} {written : Bool} {registry : RegistryState}
      {sockets : SocketTable} :
      process.clientSocketFds handler = some clientSocketFd →
      process.registry.handlers handler = .responding clientId found →
      RegistryState.Step process.registry (.respond handler written) registry →
      process.sockets.Performs (responseCalls clientSocketFd written found) sockets →
      Step process (.respond handler written)
        { process with registry := registry, sockets := sockets }
  /- `TerminalServer::newClient` does not decline; it may fail to start the thread. -/
  | accepted {process : ServerProcess} {handler connection : Nat} {clientId : Bytes}
      {registry : RegistryState} :
      process.registry.handlers handler = .entering clientId connection →
      RegistryState.Step process.registry (.newClient handler .accepted) registry →
      Step process (.newClient handler .accepted)
        { process with
          registry := registry
          sessions := Function.update process.sessions connection
            (.running registry.server .initial) }
  | threw {process : ServerProcess} {handler : Nat} {registry : RegistryState} :
      RegistryState.Step process.registry (.newClient handler .threw) registry →
      Step process (.newClient handler .threw) { process with registry := registry }
  | abandon {process : ServerProcess} {handler : Nat} {clientId : Bytes}
      {registry : RegistryState} {sockets : SocketTable} :
      process.registry.handlers handler = .abandoning clientId →
      RegistryState.Step process.registry (.abandon handler) registry →
      process.sockets.Performs
        (process.closeSocketCalls (removed process.registry.server registry.server clientId))
        sockets →
      Step process (.abandon handler)
        { process with
          registry := registry
          sockets := sockets
          socketFds := process.disconnect
            (removed process.registry.server registry.server clientId) }
  | recovered {process : ServerProcess} {handler connection : Nat} {clientSocketFd : Fd}
      {registry : RegistryState} {sockets : SocketTable} :
      process.clientSocketFds handler = some clientSocketFd →
      process.registry.handlers handler = .recovering connection →
      RegistryState.Step process.registry (.recover handler) registry →
      process.sockets.Performs (process.closeSocketCalls [connection]) sockets →
      Step process (.recover handler true)
        ({ process with registry := registry, sockets := sockets }.attach connection
          clientSocketFd)
  | notRecovered {process : ServerProcess} {handler connection : Nat} {clientSocketFd : Fd}
      {registry : RegistryState} {sockets : SocketTable} :
      process.clientSocketFds handler = some clientSocketFd →
      process.registry.handlers handler = .recovering connection →
      RegistryState.Step process.registry (.recover handler) registry →
      process.sockets.Performs
        (process.closeSocketCalls [connection] ++ [.closed (clientSocketFd, .active .server)])
        sockets →
      Step process (.recover handler false)
        { process with
          registry := registry
          sockets := sockets
          socketFds := process.disconnect [connection] }
  /- A read or a write of the session has failed, or its loop catches an exception. -/
  | closeSocket {process : ServerProcess} {connection : Nat} {before : ServerRegistry}
      {forwarding : ForwardingState} {sockets : SocketTable} :
      process.sessions connection = .running before forwarding →
      process.sockets.Performs (process.closeSocketCalls [connection]) sockets →
      Step process (.closeSocket connection)
        { process with
          sockets := sockets
          socketFds := process.disconnect [connection] }
  /- A `listen` that throws may leave sockets behind. -/
  | createSource {process : ServerProcess} {connection : Nat} {before : ServerRegistry}
      {forwarding : ForwardingState} {kernel : Kernel} {pfsr : PortForwardSourceRequest}
      {wantsName : Bool} {userid groupid : Int} {created : CreatedSource} {left : List Fd}
      {sockets : SocketTable} :
      process.sessions connection = .running before forwarding →
      PortForwardHandler.createSource kernel
        { network := process.network
          pipe := forwarding.pipe
          sourceHandlers := forwarding.handler.ends } pfsr wantsName userid groupid =
        .ok created →
      (left ≠ [] → created.response.error.isSome) →
      process.sockets.Performs
        (left.map (fun fd => .opened (fd, .listening .server)) ++
          (created.tables.sourceHandlers.drop forwarding.handler.sourceHandlers.length).flatMap
            fun ends =>
              (listeningAt connection created.tables.network created.tables.pipe
                ends.source).map .opened)
        sockets →
      Step process (.createSource connection kernel pfsr wantsName userid groupid)
        { process with
          network := created.tables.network
          sockets := sockets
          sessions := Function.update process.sessions connection
            (.running before
              { forwarding with
                handler := forwarding.handler.addSources
                  (created.tables.sourceHandlers.drop forwarding.handler.sourceHandlers.length)
                pipe := created.tables.pipe })
          behalf := process.opensFor sockets (.session connection) }
  | forward {process : ServerProcess} {connection : Nat} {before : ServerRegistry}
      {forwarding after : ForwardingState} {event : ForwardingEvent}
      {calls : List DescriptorCall} {isNetwork : Fd → Bool} {sockets : SocketTable} :
      process.sessions connection = .running before forwarding →
      ¬ event.CreatesSource →
      ForwardingState.Step forwarding event after →
      after.calls = forwarding.calls ++ calls →
      process.sockets.Performs (calls.map (HandleCall.map (tunnelOwner connection isNetwork)))
        sockets →
      Step process (.forward connection event)
        { process with
          sockets := sockets
          sessions := Function.update process.sessions connection (.running before after)
          behalf := process.opensFor sockets (.session connection) }
  | handleConnection {process : ServerProcess} {connection : Nat} {before after : ServerRegistry}
      {forwarding : ForwardingState} {object : ServerClientIdentity} {calls : SessionCalls}
      {sockets : SocketTable} :
      process.sessions connection = .running before forwarding →
      process.registry.server.objects[connection]? = some object →
      TerminalServer.handleConnection calls object before process.registry.server =
        .ok (some after) →
      process.sockets.Performs
        (process.closeSocketCalls (removed process.registry.server after object.id) ++
          (stopSources connection forwarding.pipe forwarding.handler.ends process.network).1)
        sockets →
      Step process (.handleConnection connection calls)
        { process with
          registry := { process.registry with server := after }
          network :=
            (stopSources connection forwarding.pipe forwarding.handler.ends process.network).2
          sockets := sockets
          socketFds := process.disconnect
            (removed process.registry.server after object.id)
          sessions := Function.update process.sessions connection .returned }
  /- The destructor of a connection that nobody has any more. -/
  | destruct {process : ServerProcess} {connection : Nat} {sockets : SocketTable} :
      (∀ id, process.registry.server.clientConnections id ≠ some connection) →
      (∀ handler, process.registry.handlers handler ≠ .recovering connection) →
      (∀ before forwarding, process.sessions connection ≠ .running before forwarding) →
      process.sockets.Performs (process.closeSocketCalls [connection]) sockets →
      Step process (.destruct connection)
        { process with
          sockets := sockets
          socketFds := process.disconnect [connection] }
  /- The server halts and shuts down every connection in its map. -/
  | shutdown {process : ServerProcess} {connections : List Nat} {sockets : SocketTable} :
      (∀ connection, connection ∈ connections ↔
        ∃ id, process.registry.server.clientConnections id = some connection) →
      process.sockets.Performs (process.closeSocketCalls connections) sockets →
      Step process .shutdown
        { process with
          registry := { process.registry with
            server := { process.registry.server with clientConnections := fun _ => none } }
          sockets := sockets
          socketFds := process.disconnect connections }

/-! ### What a session is to leave behind -/

/-- The socket has been opened for the session: for its terminal, its client or its tunnels. -/
def OnBehalf (process : ServerProcess) (connection number : Nat) : Prop :=
  (.session connection, number) ∈ process.behalf ∨
    ∃ object, process.registry.server.objects[connection]? = some object ∧
      (.terminal object.id, number) ∈ process.behalf

/-- Everything that has been opened for the session has been closed, once. -/
def AllClosed (process : ServerProcess) (connection : Nat) : Prop :=
  ∀ number, process.OnBehalf connection number → process.sockets.closed.count number = 1

/-- The router does not have the id of the session. -/
def Forgotten (process : ServerProcess) (connection : Nat) : Prop :=
  ∀ object, process.registry.server.objects[connection]? = some object →
    process.registry.server.router.idInfoMap object.id = none

end ServerProcess

def serverProcessSystem : TransitionSystem ServerProcess ServerProcess.Event where
  initial process := ∃ network, process =
    { registry :=
        { server := ServerRegistry.empty
          pending := none
          handlers := fun _ => .reading
          answered := []
          entered := [] }
      network := network
      sockets := .empty
      clientSocketFds := fun _ => none
      socketFds := fun _ => none
      sessions := fun _ => .notStarted
      behalf := [] }
  step := ServerProcess.Step

end EternalTerminal
