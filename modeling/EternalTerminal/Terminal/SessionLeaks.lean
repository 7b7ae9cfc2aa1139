/-
What a session leaves behind: its terminal is open and the router has its id, for good.
-/

import EternalTerminal.Terminal.ServerProcess

namespace EternalTerminal

open Library

/-! ### The maps of the server -/

namespace RegistryState

variable {state after : RegistryState} {event : Event}

theorem Step.objects_le (step : Step state event after) :
    state.server.objects.length ≤ after.server.objects.length := by
  cases step with
  | acceptTerminal _ _ => exact Nat.le_refl _
  | addClientKey _ => exact Nat.le_refl _
  | lookup _ ok => exact (ServerRegistry.lookup_objects ok).1
  | respond _ => exact Nat.le_refl _
  | accepted _ => exact Nat.le_refl _
  | declined _ => exact (ServerRegistry.removeClient_objects state.server _).symm ▸ Nat.le_refl _
  | threw _ => exact Nat.le_refl _
  | abandon _ => exact Nat.le_refl _
  | recover _ => exact Nat.le_refl _
  | removeClient id =>
      exact (ServerRegistry.removeClient_objects state.server id).symm ▸ Nat.le_refl _

/-- Only `acceptNewConnection` writes to the map of the router. -/
theorem Step.router_eq (step : Step state event after)
    (elsewhere : ∀ peer, event ≠ .acceptTerminal peer) :
    after.server.router = state.server.router := by
  cases step with
  | acceptTerminal _ _ => exact absurd rfl (elsewhere _)
  | addClientKey _ => rfl
  | lookup _ ok => exact ServerRegistry.lookup_router ok
  | respond _ => rfl
  | accepted _ => rfl
  | declined _ => exact ServerRegistry.removeClient_router state.server _
  | threw _ => rfl
  | abandon _ => rfl
  | recover _ => rfl
  | removeClient id => exact ServerRegistry.removeClient_router state.server id

theorem Sound.withoutConnections (sound : state.Sound) :
    ({ state with
      server := { state.server with clientConnections := fun _ => none } } :
      RegistryState).Sound := by
  constructor
  · constructor
    · intro id connection impossible
      cases impossible
    · exact sound.agrees.key
    · exact sound.agrees.object
  · exact sound.tracked.server (Nat.le_refl _)
  · exact sound.pending

end RegistryState

namespace UserTerminalRouter

variable {router after : UserTerminalRouter} {pair : IdKeyPair} {peer : RouterPeer}

/-- The map gets the id that is registered, and no other. -/
theorem acceptNewConnection_registered
    (ok : router.acceptNewConnection peer = .ok (pair, after)) (id : Bytes) :
    after.idInfoMap id ≠ none ↔ router.idInfoMap id ≠ none ∨ router.registered peer = some id := by
  cases peer with
  | nothing =>
      cases ok
      simp [registered]
  | acceptFailed => cases ok
  | unreadable =>
      cases ok
      simp [registered]
  | empty => cases ok
  | packet terminalFd header tui =>
      unfold acceptNewConnection at ok
      dsimp only at ok
      split at ok
      · rename_i isInfo
        cases tui with
        | none => cases ok
        | some tui =>
            cases known : router.idInfoMap tui.id with
            | some info =>
                simp only [register, known] at ok
                cases ok
                simp [registered, known]
            | none =>
                simp only [register, known] at ok
                cases ok
                by_cases same : id = tui.id
                · simp [registered, isInfo, known, same]
                · simp [registered, isInfo, known, same, Ne.symm same]
      · cases ok

end UserTerminalRouter

namespace ServerProcess

variable {process after : ServerProcess} {event : Event} {first second : List OwnedCall}

def TerminalOf (process : ServerProcess) (id : Bytes) (terminalFd : Fd) : Prop :=
  ∃ number, (.terminal id, number) ∈ process.behalf ∧
    process.sockets.Holds number terminalFd (.active .router)

/-- What holds in any run: every terminal that the router knows is open, and every session has a
connection. -/
structure Sound (process : ServerProcess) : Prop where
  registry : process.registry.Sound
  bounded : process.sockets.Bounded
  numbered {owner : Behalf} {number : Nat} :
    (owner, number) ∈ process.behalf → number < process.sockets.opened.length
  once {first second : Bytes} {number : Nat} :
    (.terminal first, number) ∈ process.behalf → (.terminal second, number) ∈ process.behalf →
      first = second
  terminals (id : Bytes) : process.registry.server.router.idInfoMap id ≠ none →
    ∃ terminalFd, process.TerminalOf id terminalFd
  sessions (connection : Nat) : process.sessions connection ≠ .notStarted →
    connection < process.registry.server.objects.length

def SparesTerminals (calls : List OwnedCall) : Prop :=
  ∀ fd owner, .closed (fd, owner) ∈ calls → owner ≠ .active .router

/-- A step that is none of the router's: it spares the terminals, and what it opens is for a
session. -/
structure Moves (process after : ServerProcess) : Prop where
  registry : after.registry.Sound
  router : after.registry.server.router = process.registry.server.router
  objects : process.registry.server.objects.length ≤ after.registry.server.objects.length
  performs : ∃ calls, process.sockets.Performs calls after.sockets ∧ SparesTerminals calls
  kept {entry : Behalf × Nat} : entry ∈ process.behalf → entry ∈ after.behalf
  added {owner : Behalf} {number : Nat} : (owner, number) ∈ after.behalf →
    (owner, number) ∈ process.behalf ∨
      ((∃ connection, owner = .session connection) ∧ number < after.sockets.opened.length)
  sessions (connection : Nat) : after.sessions connection ≠ .notStarted →
    process.sessions connection ≠ .notStarted ∨
      connection < after.registry.server.objects.length

theorem Sound.moves (sound : process.Sound) (moves : Moves process after) : after.Sound := by
  obtain ⟨calls, performs, spares⟩ := moves.performs
  have wasTerminal : ∀ {id : Bytes} {number : Nat}, (.terminal id, number) ∈ after.behalf →
      (.terminal id, number) ∈ process.behalf := by
    intro id number member
    rcases moves.added member with old | ⟨⟨connection, impossible⟩, _⟩
    · exact old
    · cases impossible
  constructor
  · exact moves.registry
  · exact sound.bounded.performs performs
  · intro owner number member
    rcases moves.added member with old | ⟨_, inside⟩
    · exact Nat.lt_of_lt_of_le (sound.numbered old) performs.opened_le
    · exact inside
  · intro first second number isFirst isSecond
    exact sound.once (wasTerminal isFirst) (wasTerminal isSecond)
  · intro id known
    rw [moves.router] at known
    obtain ⟨terminalFd, number, isTerminal, holds⟩ := sound.terminals id known
    exact ⟨terminalFd, number, moves.kept isTerminal, holds.performs performs spares⟩
  · intro connection started
    rcases moves.sessions connection started with was | inside
    · exact Nat.lt_of_lt_of_le (sound.sessions connection was) moves.objects
    · exact inside

/-! ### The calls -/

theorem SparesTerminals.append (spares : SparesTerminals first)
    (others : SparesTerminals second) : SparesTerminals (first ++ second) := by
  intro fd owner member
  rcases List.mem_append.mp member with isFirst | isSecond
  · exact spares fd owner isFirst
  · exact others fd owner isSecond

theorem spares_nothing : SparesTerminals [] := by
  intro fd owner impossible
  cases impossible

theorem spares_client (clientSocketFd : Fd) :
    SparesTerminals [.closed (clientSocketFd, .active .server)] := by
  intro fd owner member
  cases List.mem_singleton.mp member
  decide

theorem closeSocketCalls_spares (process : ServerProcess) (connections : List Nat) :
    SparesTerminals (process.closeSocketCalls connections) := by
  intro fd owner member
  obtain ⟨connection, _, isCall⟩ := List.mem_flatMap.mp member
  obtain ⟨socketFd, _, same⟩ := List.mem_map.mp isCall
  cases same
  decide

theorem responseCalls_spares (clientSocketFd : Fd) (written : Bool)
    (found : ServerRegistry.Lookup) :
    SparesTerminals (responseCalls clientSocketFd written found) := by
  cases found with
  | notRegistered => exact spares_client clientSocketFd
  | created connection => exact spares_nothing
  | returning connection =>
      cases written with
      | true => exact spares_nothing
      | false => exact spares_client clientSocketFd

theorem opens_spares (sockets : List (Fd × SocketOwner)) :
    SparesTerminals (sockets.map .opened) := by
  intro fd owner member
  obtain ⟨socket, _, impossible⟩ := List.mem_map.mp member
  cases impossible

theorem tunnelCalls_spare (connection : Nat) (isNetwork : Fd → Bool)
    (calls : List DescriptorCall) :
    SparesTerminals (calls.map (HandleCall.map (tunnelOwner connection isNetwork))) := by
  intro fd owner member
  obtain ⟨call, _, same⟩ := List.mem_map.mp member
  cases call with
  | opened other => cases same
  | used other => cases same
  | closed other =>
      cases same
      split
      · decide
      · intro impossible
        cases impossible

theorem listeningAt_spares (connection : Nat) (network : TcpSocketHandler)
    (pipe : PipeSocketHandler) (source : SocketEndpoint) :
    SparesTerminals ((listeningAt connection network pipe source).map .closed) := by
  intro fd owner member
  obtain ⟨socket, isSocket, same⟩ := List.mem_map.mp member
  cases same
  unfold listeningAt at isSocket
  split at isSocket
  · obtain ⟨other, _, isOther⟩ := List.mem_map.mp isSocket
    cases isOther
    decide
  · obtain ⟨other, _, isOther⟩ := List.mem_map.mp isSocket
    cases isOther
    intro impossible
    cases impossible

theorem stopSources_spares (connection : Nat) (pipe : PipeSocketHandler)
    (sources : List TunnelEnds) (network : TcpSocketHandler) :
    SparesTerminals (stopSources connection pipe sources network).1 := by
  induction sources generalizing network with
  | nil => exact spares_nothing
  | cons ends rest ih =>
      exact (listeningAt_spares connection network pipe ends.source).append (ih _)

/-! ### One step -/

theorem Sound.turn (sound : process.Sound) {registry : RegistryState} {sockets : SocketTable}
    {calls : List OwnedCall} (registrySound : registry.Sound)
    (sameRouter : registry.server.router = process.registry.server.router)
    (more : process.registry.server.objects.length ≤ registry.server.objects.length)
    (performs : process.sockets.Performs calls sockets) (spares : SparesTerminals calls)
    (network : TcpSocketHandler) (clientSocketFds socketFds : Nat → Option Fd) :
    Sound
      { process with
        registry := registry
        network := network
        sockets := sockets
        clientSocketFds := clientSocketFds
        socketFds := socketFds } := by
  apply sound.moves
  constructor
  · exact registrySound
  · exact sameRouter
  · exact more
  · exact ⟨calls, performs, spares⟩
  · exact fun member => member
  · exact fun member => Or.inl member
  · exact fun connection started => Or.inl started

theorem Sound.calls (sound : process.Sound) {sockets : SocketTable} {calls : List OwnedCall}
    (performs : process.sockets.Performs calls sockets) (spares : SparesTerminals calls)
    (clientSocketFds socketFds : Nat → Option Fd) :
    Sound
      { process with
        sockets := sockets
        clientSocketFds := clientSocketFds
        socketFds := socketFds } :=
  sound.turn sound.registry rfl (Nat.le_refl _) performs spares process.network clientSocketFds
    socketFds

theorem Sound.registered (sound : process.Sound) {event : RegistryState.Event}
    {registry : RegistryState} {sockets : SocketTable} {calls : List OwnedCall}
    (step : RegistryState.Step process.registry event registry)
    (elsewhere : ∀ peer, event ≠ .acceptTerminal peer)
    (performs : process.sockets.Performs calls sockets) (spares : SparesTerminals calls)
    (socketFds : Nat → Option Fd) :
    Sound
      { process with
        registry := registry
        sockets := sockets
        socketFds := socketFds } :=
  sound.turn (step.sound sound.registry) (step.router_eq elsewhere) step.objects_le performs spares
    process.network process.clientSocketFds socketFds

theorem Sound.attach (sound : process.Sound) (connection : Nat) (fd : Fd) :
    (process.attach connection fd).Sound := by
  apply sound.moves
  constructor
  · exact sound.registry
  · rfl
  · exact Nat.le_refl _
  · exact ⟨[], .nil _, spares_nothing⟩
  · exact fun member => List.mem_append_left _ member
  · intro owner number member
    rcases List.mem_append.mp member with old | new
    · exact Or.inl old
    · obtain ⟨current, isCurrent, same⟩ := List.mem_map.mp new
      cases same
      exact Or.inr ⟨⟨connection, rfl⟩, sound.bounded.current (Option.mem_toList.mp isCurrent)⟩
  · exact fun other started => Or.inl started

theorem Sound.tunnels (sound : process.Sound) {connection : Nat} {sockets : SocketTable}
    {calls : List OwnedCall} (started : process.sessions connection ≠ .notStarted)
    (performs : process.sockets.Performs calls sockets) (spares : SparesTerminals calls)
    (network : TcpSocketHandler) (thread : SessionThread) :
    Sound
      { process with
        network := network
        sockets := sockets
        sessions := Function.update process.sessions connection thread
        behalf := process.opensFor sockets (.session connection) } := by
  apply sound.moves
  constructor
  · exact sound.registry
  · rfl
  · exact Nat.le_refl _
  · exact ⟨calls, performs, spares⟩
  · exact fun member => List.mem_append_left _ member
  · intro owner number member
    rcases List.mem_append.mp member with old | new
    · exact Or.inl old
    · obtain ⟨opened, isOpened, same⟩ := List.mem_map.mp new
      cases same
      have inside := (HandleTable.mem_openedSince performs.opened_le).mp isOpened
      exact Or.inr ⟨⟨connection, rfl⟩, inside.2⟩
  · intro other otherStarted
    left
    by_cases same : other = connection
    · exact same ▸ started
    · rw [← Function.update_of_ne same thread process.sessions]
      exact otherStarted

theorem Sound.thread (sound : process.Sound) {connection : Nat}
    (isConnection : connection < process.registry.server.objects.length)
    (thread : SessionThread) :
    Sound
      { process with
        sessions := Function.update process.sessions connection thread } := by
  apply sound.moves
  constructor
  · exact sound.registry
  · rfl
  · exact Nat.le_refl _
  · exact ⟨[], .nil _, spares_nothing⟩
  · exact fun member => member
  · exact fun member => Or.inl member
  · intro other started
    by_cases same : other = connection
    · exact Or.inr (same ▸ isConnection)
    · left
      rw [← Function.update_of_ne same thread process.sessions]
      exact started

/-- A terminal that is not entered is closed again, and the others stay open. -/
theorem acceptCalls_spares {router : UserTerminalRouter} {peer : RouterPeer}
    {terminalFd : Option Fd} {sockets after : SocketTable}
    (unregistered : router.registered peer = none)
    (performs : sockets.Performs (router.acceptCalls peer terminalFd) after) {number : Nat}
    {fd : Fd} (holds : sockets.Holds number fd (.active .router)) :
    after.Holds number fd (.active .router) := by
  cases terminalFd with
  | none =>
      cases performs
      exact holds
  | some terminalFd =>
      rw [UserTerminalRouter.acceptCalls, unregistered] at performs
      cases performs with
      | opened free later =>
          have away : fd ≠ terminalFd := by
            intro same
            rw [← same, holds.isCurrent] at free
            cases free
          cases later with
          | closed rest =>
              cases rest
              exact (holds.openAs free _).closeAs_away away _

/-- The router's map and the sockets may change if no entry is new and the terminals stay open. -/
theorem Sound.without_entry (sound : process.Sound) {registry : RegistryState}
    {sockets : SocketTable} {calls : List OwnedCall} (registrySound : registry.Sound)
    (performs : process.sockets.Performs calls sockets)
    (objects : registry.server.objects = process.registry.server.objects)
    (entries : ∀ id, registry.server.router.idInfoMap id ≠ none →
      process.registry.server.router.idInfoMap id ≠ none)
    (spares : ∀ {number : Nat} {fd : Fd}, process.sockets.Holds number fd (.active .router) →
      sockets.Holds number fd (.active .router)) :
    Sound { process with registry := registry, sockets := sockets } := by
  constructor
  · exact registrySound
  · exact sound.bounded.performs performs
  · exact fun member => Nat.lt_of_lt_of_le (sound.numbered member) performs.opened_le
  · exact sound.once
  · intro id known
    obtain ⟨fd, number, isTerminal, holds⟩ := sound.terminals id (entries id known)
    exact ⟨fd, number, isTerminal, spares holds⟩
  · intro connection started
    rw [objects]
    exact sound.sessions connection started

/-- An entry for a new id comes with its terminal, which is the last socket opened. -/
theorem Sound.with_entry (sound : process.Sound) {registry : RegistryState} {terminalFd : Fd}
    {newId : Bytes} (registrySound : registry.Sound)
    (free : process.sockets.current terminalFd = none)
    (objects : registry.server.objects = process.registry.server.objects)
    (entries : ∀ id, registry.server.router.idInfoMap id ≠ none →
      process.registry.server.router.idInfoMap id ≠ none ∨ id = newId) :
    Sound
      { process with
        registry := registry
        sockets := process.sockets.openAs terminalFd (.active .router)
        behalf := process.behalf ++ [(.terminal newId, process.sockets.opened.length)] } := by
  have newest : ∀ {id : Bytes},
      (.terminal id, process.sockets.opened.length) ∉ process.behalf := by
    intro id member
    exact Nat.lt_irrefl _ (sound.numbered member)
  constructor
  · exact registrySound
  · exact sound.bounded.openAs _ _
  · intro owner number member
    rw [HandleTable.openAs, List.length_append]
    rcases List.mem_append.mp member with old | new
    · exact Nat.lt_succ_of_lt (sound.numbered old)
    · cases List.mem_singleton.mp new
      exact Nat.lt_succ_self _
  · intro first second number isFirst isSecond
    rcases List.mem_append.mp isFirst with oldFirst | newFirst
    · rcases List.mem_append.mp isSecond with oldSecond | newSecond
      · exact sound.once oldFirst oldSecond
      · cases List.mem_singleton.mp newSecond
        exact absurd oldFirst newest
    · cases List.mem_singleton.mp newFirst
      rcases List.mem_append.mp isSecond with oldSecond | newSecond
      · exact absurd oldSecond newest
      · cases List.mem_singleton.mp newSecond
        rfl
  · intro id known
    rcases entries id known with was | rfl
    · obtain ⟨fd, number, isTerminal, holds⟩ := sound.terminals id was
      exact ⟨fd, number, List.mem_append_left _ isTerminal, holds.openAs free _⟩
    · exact ⟨terminalFd, process.sockets.opened.length,
        List.mem_append_right _ (List.mem_singleton.mpr rfl),
        sound.bounded.holds_openAs terminalFd _⟩
  · intro connection started
    rw [objects]
    exact sound.sessions connection started

/-- A terminal whose id is new is open and stays so; any other is closed again. -/
theorem Sound.acceptTerminal (sound : process.Sound) {peer : RouterPeer}
    {terminalFd : Option Fd} {registry : RegistryState} {sockets : SocketTable}
    (accepts : peer.Accepts terminalFd)
    (step : RegistryState.Step process.registry (.acceptTerminal peer) registry)
    (performs : process.sockets.Performs
      (process.registry.server.router.acceptCalls peer terminalFd) sockets) :
    Sound
      { process with
        registry := registry
        sockets := sockets
        behalf :=
          match process.registry.server.router.registered peer with
          | some id => process.opensFor sockets (.terminal id)
          | none => process.behalf } := by
  cases step with
  | @acceptTerminal _ pair router waits ok =>
  have registrySound := RegistryState.Step.sound
    (.acceptTerminal waits ok : RegistryState.Step process.registry (.acceptTerminal peer) _)
    sound.registry
  have entries := UserTerminalRouter.acceptNewConnection_registered ok
  cases isRegistered : process.registry.server.router.registered peer with
  | none =>
      refine sound.without_entry registrySound performs rfl ?_ (acceptCalls_spares isRegistered
        performs)
      intro id known
      rcases (entries id).mp known with was | impossible
      · exact was
      · cases isRegistered.symm.trans impossible
  | some newId =>
      cases accepts with
      | nothing => cases isRegistered
      | unreadable terminalFd => cases isRegistered
      | packet terminalFd header tui =>
          rw [UserTerminalRouter.acceptCalls, isRegistered] at performs
          cases performs with
          | opened free later =>
              cases later
              have openings : process.opensFor
                  (process.sockets.openAs terminalFd (.active .router)) (.terminal newId) =
                  process.behalf ++ [(.terminal newId, process.sockets.opened.length)] := by
                unfold opensFor HandleTable.openedSince HandleTable.openAs
                simp
              dsimp only
              rw [openings]
              refine sound.with_entry registrySound free rfl ?_
              intro id known
              rcases (entries id).mp known with was | isNew
              · exact Or.inl was
              · exact Or.inr (Option.some.inj (isRegistered.symm.trans isNew)).symm

theorem createSource_spares (left : List Fd) (sources : List TunnelEnds)
    (listening : TunnelEnds → List (Fd × SocketOwner)) :
    SparesTerminals
      (left.map (fun fd => .opened (fd, .listening .server)) ++
        sources.flatMap fun ends => (listening ends).map .opened) := by
  intro fd owner member
  rcases List.mem_append.mp member with isLeft | isSource
  · obtain ⟨other, _, impossible⟩ := List.mem_map.mp isLeft
    cases impossible
  · obtain ⟨sockets, _, isSocket⟩ := List.mem_flatMap.mp isSource
    exact opens_spares (listening sockets) fd owner isSocket

theorem started_of_running {connection : Nat} {before : ServerRegistry}
    {forwarding : ForwardingState}
    (runs : process.sessions connection = .running before forwarding) :
    process.sessions connection ≠ .notStarted := by
  rw [runs]
  exact SessionThread.noConfusion

theorem Step.sound (step : Step process event after) (sound : process.Sound) : after.Sound := by
  cases step with
  | acceptTerminal accepts step performs => exact sound.acceptTerminal accepts step performs
  | addClientKey step =>
      exact sound.registered step (fun peer impossible => by cases impossible) (.nil _)
        spares_nothing process.socketFds
  | acceptClient _ _ performs =>
      exact sound.calls performs (opens_spares [_]) _ process.socketFds
  | turnAway _ _ performs =>
      exact sound.calls performs (spares_client _) _ process.socketFds
  | @lookup handler clientId clientSocketFd found registry _ step _ =>
      have looked := sound.registered step (fun peer impossible => by cases impossible) (.nil _)
        spares_nothing process.socketFds
      cases found with
      | notRegistered => exact looked
      | returning connection => exact looked
      | created connection => exact looked.attach connection clientSocketFd
  | respond _ _ step performs =>
      exact sound.registered step (fun peer impossible => by cases impossible) performs
        (responseCalls_spares _ _ _) process.socketFds
  | @accepted handler connection clientId registry was step =>
      have entered := sound.registered step (fun peer impossible => by cases impossible) (.nil _)
        spares_nothing process.socketFds
      have holds : (process.registry.handlers handler).holds = some connection := by
        rw [was]
        rfl
      have isConnection := sound.registry.tracked.held_created holds
      exact entered.thread (Nat.lt_of_lt_of_le isConnection step.objects_le) _
  | threw step =>
      exact sound.registered step (fun peer impossible => by cases impossible) (.nil _)
        spares_nothing process.socketFds
  | abandon _ step performs =>
      exact sound.registered step (fun peer impossible => by cases impossible) performs
        (closeSocketCalls_spares process _) _
  | @recovered handler connection clientSocketFd registry sockets _ _ step performs =>
      have closes := sound.registered step (fun peer impossible => by cases impossible) performs
        (closeSocketCalls_spares process _) process.socketFds
      exact closes.attach connection clientSocketFd
  | notRecovered _ _ step performs =>
      exact sound.registered step (fun peer impossible => by cases impossible) performs
        ((closeSocketCalls_spares process _).append (spares_client _)) _
  | closeSocket _ performs =>
      exact sound.calls performs (closeSocketCalls_spares process _) process.clientSocketFds _
  | createSource runs _ _ performs =>
      exact sound.tunnels (started_of_running runs) performs
        (createSource_spares _ _ fun ends => listeningAt _ _ _ ends.source) _ _
  | forward runs _ _ _ performs =>
      exact sound.tunnels (started_of_running runs) performs (tunnelCalls_spare _ _ _)
        process.network _
  | @handleConnection connection before after forwarding object calls sockets runs isObject returns
      performs =>
      have same : RegistryState.Sound { process.registry with server := after } ∧
          after.router = process.registry.server.router ∧
          after.objects = process.registry.server.objects := by
        rcases TerminalServer.handleConnection_returns returns with ⟨_, rfl⟩ | ⟨_, rfl⟩
        · exact ⟨sound.registry.removeClient object.id,
            ServerRegistry.removeClient_router process.registry.server object.id,
            ServerRegistry.removeClient_objects process.registry.server object.id⟩
        · exact ⟨sound.registry, rfl, rfl⟩
      obtain ⟨registrySound, sameRouter, sameObjects⟩ := same
      have isConnection : connection < after.objects.length := by
        rw [sameObjects]
        exact (List.getElem?_eq_some_iff.mp isObject).1
      have ended := sound.turn registrySound sameRouter
        (Nat.le_of_eq (congrArg List.length sameObjects.symm)) performs
        ((closeSocketCalls_spares process _).append (stopSources_spares _ _ _ _))
      exact (ended _ process.clientSocketFds _).thread isConnection .returned
  | destruct _ _ _ performs =>
      exact sound.calls performs (closeSocketCalls_spares process _) process.clientSocketFds _
  | shutdown _ performs =>
      exact sound.turn sound.registry.withoutConnections rfl (Nat.le_refl _) performs
        (closeSocketCalls_spares process _) process.network process.clientSocketFds _

/-! ### Any run -/

theorem initial_sound (initial : serverProcessSystem.initial process) : process.Sound := by
  obtain ⟨network, rfl⟩ := initial
  constructor
  · exact RegistryState.initial_sound rfl
  · exact HandleTable.empty_bounded
  · intro owner number impossible
    cases impossible
  · intro first second number impossible
    cases impossible
  · intro id known
    exact absurd rfl known
  · intro connection started
    exact absurd rfl started

theorem reachable_sound (reached : serverProcessSystem.Reachable process) : process.Sound := by
  induction reached with
  | start initial => exact initial_sound initial
  | next _ _ step sound => exact step.sound sound

def Ended (process : ServerProcess) (id : Bytes) : Prop :=
  ∃ connection object, process.sessions connection = .returned ∧
    process.registry.server.objects[connection]? = some object ∧ object.id = id

variable {id : Bytes}

/-- A session has its id with the router, and its terminal is open. -/
theorem Sound.ended (sound : process.Sound) (ended : process.Ended id) :
    process.registry.server.router.idInfoMap id ≠ none ∧
      ∃ terminalFd, process.TerminalOf id terminalFd := by
  obtain ⟨connection, object, _, isObject, rfl⟩ := ended
  obtain ⟨info, isInfo, _⟩ := sound.registry.agrees.object isObject
  have known : process.registry.server.router.idInfoMap object.id ≠ none :=
    Option.ne_none_iff_exists'.mpr ⟨info, isInfo⟩
  exact ⟨known, sound.terminals object.id known⟩

theorem Sound.terminals_differ (sound : process.Sound) {other : Bytes} {terminalFd : Fd}
    (first : process.TerminalOf id terminalFd) (second : process.TerminalOf other terminalFd) :
    id = other := by
  obtain ⟨number, isFirst, holds⟩ := first
  obtain ⟨another, isSecond, holdsAnother⟩ := second
  have same : number = another := holds.number_eq holdsAnother
  subst same
  exact sound.once isFirst isSecond

theorem Sound.leaked (sound : process.Sound) {ids : List Bytes} (once : ids.Nodup)
    (ended : ∀ id ∈ ids, process.Ended id) :
    ∃ terminalFds : List Fd, terminalFds.Nodup ∧ terminalFds.length = ids.length ∧
      ∀ terminalFd ∈ terminalFds, ∃ id ∈ ids, process.TerminalOf id terminalFd := by
  induction ids with
  | nil =>
      refine ⟨[], List.nodup_nil, rfl, ?_⟩
      intro terminalFd impossible
      cases impossible
  | cons id rest ih =>
      obtain ⟨new, restOnce⟩ := List.nodup_cons.mp once
      obtain ⟨terminalFds, fdsOnce, sameLength, terminals⟩ := ih restOnce
        (fun other member => ended other (List.mem_cons_of_mem id member))
      obtain ⟨_, terminalFd, isTerminal⟩ := sound.ended (ended id List.mem_cons_self)
      refine ⟨terminalFd :: terminalFds, List.nodup_cons.mpr ⟨?_, fdsOnce⟩,
        congrArg Nat.succ sameLength, ?_⟩
      · intro again
        obtain ⟨other, isOther, isTerminalOfOther⟩ := terminals terminalFd again
        exact new (sound.terminals_differ isTerminal isTerminalOfOther ▸ isOther)
      · intro fd member
        rcases List.mem_cons.mp member with here | later
        · rw [here]
          exact ⟨id, List.mem_cons_self, isTerminal⟩
        · obtain ⟨other, isOther, isTerminalOfOther⟩ := terminals fd later
          exact ⟨other, List.mem_cons_of_mem id isOther, isTerminalOfOther⟩

/-- No session that has ended has had its descriptors closed, and none is forgotten by the
router; the terminals that are still open are as many as the ids of such sessions. -/
theorem ended_sessions_leak (reached : serverProcessSystem.Reachable process) :
    (∀ connection, process.sessions connection = .returned →
      ¬ process.AllClosed connection ∧ ¬ process.Forgotten connection) ∧
    ∀ ids : List Bytes, ids.Nodup → (∀ id ∈ ids, process.Ended id) →
      ∃ terminalFds : List Fd, terminalFds.Nodup ∧ terminalFds.length = ids.length ∧
        ∀ terminalFd ∈ terminalFds, ∃ id ∈ ids, process.TerminalOf id terminalFd := by
  have sound := reachable_sound reached
  refine ⟨?_, fun ids once ended => sound.leaked once ended⟩
  intro connection returned
  have started : process.sessions connection ≠ .notStarted := by
    rw [returned]
    exact SessionThread.noConfusion
  have isObject := List.getElem?_eq_getElem (sound.sessions connection started)
  obtain ⟨known, terminalFd, number, isTerminal, holds⟩ :=
    sound.ended ⟨connection, _, returned, isObject, rfl⟩
  constructor
  · intro closed
    have once := closed number (Or.inr ⟨_, isObject, isTerminal⟩)
    have isClosed : number ∈ process.sockets.closed :=
      List.count_pos_iff.mp (once ▸ Nat.one_pos)
    exact holds.notClosed isClosed
  · intro forgotten
    exact known (forgotten _ isObject)

/-! ### One session -/

/-- A terminal registers, its client comes, and the terminal ends.  Of the two sockets that of
the client has been closed. -/
theorem one_session_ends :
    ∃ process, serverProcessSystem.Reachable process ∧ process.sessions 0 = .returned ∧
      process.registry.server.objects[0]? = some TerminalServer.oneClient ∧
      process.behalf = [(.terminal [1], 0), (.session 0, 1)] ∧ process.sockets.closed = [1] := by
  have started : serverProcessSystem.Reachable _ :=
    .start ⟨{ portServerSockets := fun _ => none }, rfl⟩
  have registered := started.next (Step.acceptTerminal
    (.packet 5 TERMINAL_USER_INFO (some TerminalServer.oneTerminal))
    (RegistryState.Step.acceptTerminal rfl rfl) (.opened rfl (.nil _)))
  have added := registered.next (Step.addClientKey (.addClientKey rfl))
  have came := added.next
    (Step.acceptClient rfl rfl (.opened rfl (.nil _)) : Step _ (.acceptClient 0 6) _)
  have found := came.next
    (Step.lookup rfl (.lookup rfl (rfl : ServerRegistry.lookup _ [1] = .ok (.created 0, _))) rfl :
      Step _ (.lookup 0 [1]) _)
  have answered := found.next
    (Step.respond rfl rfl (.respond rfl) (.nil _) : Step _ (.respond 0 true) _)
  have entered := answered.next
    (Step.accepted rfl (.accepted rfl) : Step _ (.newClient 0 .accepted) _)
  have returned := entered.next
    (Step.handleConnection rfl rfl rfl (.closed (.nil _)) :
      Step _ (.handleConnection 0 (TerminalServer.withTunnels TerminalServer.busyKernel [])) _)
  exact ⟨_, returned, rfl, rfl, rfl, rfl⟩

theorem ended_sessions_leak_one :
    ∃ process : ServerProcess, process.sessions 0 = .returned ∧ ¬ process.AllClosed 0 ∧
      ¬ process.Forgotten 0 := by
  obtain ⟨process, reached, returned, _⟩ := one_session_ends
  obtain ⟨leaks, _⟩ := ended_sessions_leak reached
  exact ⟨process, returned, leaks 0 returned⟩

/-- The terminal's socket is not among those that have been closed. -/
theorem terminal_not_closed : ¬ ∀ process, serverProcessSystem.Reachable process →
    ∀ connection, process.sessions connection = .returned →
      process.AllClosed connection ∧ process.Forgotten connection := by
  intro all
  obtain ⟨process, reached, returned, isClient, behalf, isClosed⟩ := one_session_ends
  obtain ⟨closed, _⟩ := all process reached 0 returned
  have isTerminal : (.terminal [1], 0) ∈ process.behalf := by
    rw [behalf]
    exact List.mem_cons_self
  have once := closed 0 (Or.inr ⟨_, isClient, isTerminal⟩)
  rw [isClosed] at once
  cases once

end ServerProcess

end EternalTerminal
