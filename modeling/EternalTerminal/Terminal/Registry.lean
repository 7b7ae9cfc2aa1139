/-
The maps of `ServerConnection` and of the router while `clientHandler` runs on many
threads.

A step is one critical section or one write of a response.  A connection is known by
its place in `objects`, which stands for the pointer to it.
-/

import EternalTerminal.Library.PartialMap
import EternalTerminal.Library.TransitionSystem
import EternalTerminal.Base.CryptoHandler
import EternalTerminal.Terminal.UserTerminalRouter

namespace EternalTerminal

open Library

structure ServerRegistry where
  clientKeys : Bytes → Option Bytes
  clientConnections : Bytes → Option Nat
  objects : List ServerClientIdentity
  router : UserTerminalRouter

namespace ServerRegistry

def empty : ServerRegistry :=
  { clientKeys := fun _ => none
    clientConnections := fun _ => none
    objects := []
    router := { idInfoMap := fun _ => none } }

def clientKeyExists (server : ServerRegistry) (clientId : Bytes) : Bool :=
  (server.clientKeys clientId).isSome

def clientConnectionExists (server : ServerRegistry) (clientId : Bytes) : Bool :=
  (server.clientConnections clientId).isSome

def getClientConnection (server : ServerRegistry) (clientId : Bytes) : Except String Nat :=
  match server.clientConnections clientId with
  | none => .error "Error: Tried to get a client connection that doesn't exist"
  | some connection => .ok connection

def addClientKey (server : ServerRegistry) (id passkey : Bytes) : ServerRegistry :=
  { server with clientKeys := Function.update server.clientKeys id (some passkey) }

/-- What `clientHandler` finds out under its first lock. -/
inductive Lookup where
  | notRegistered
  | created (connection : Nat)
  | returning (connection : Nat)

/-- A `ServerClientConnection` for the key that is registered. -/
def create (server : ServerRegistry) (clientId key : Bytes) :
    Except String (Lookup × ServerRegistry) :=
  if key.length = crypto_secretbox_KEYBYTES then
    .ok (.created server.objects.length,
      { server with
        clientConnections :=
          Function.update server.clientConnections clientId (some server.objects.length)
        objects := server.objects ++ [{ id := clientId, key := key }] })
  else .error "Invalid key length"

/-- The first critical section of `clientHandler`. -/
def lookup (server : ServerRegistry) (clientId : Bytes) :
    Except String (Lookup × ServerRegistry) :=
  if server.clientConnectionExists clientId then do
    let connection ← server.getClientConnection clientId
    if server.clientKeyExists clientId then pure (.returning connection, server)
    else pure (.notRegistered, server)
  else
    match server.clientKeys clientId with
    | none => .ok (.notRegistered, server)
    | some key => server.create clientId key

def removeClient (server : ServerRegistry) (id : Bytes) : ServerRegistry :=
  if server.clientKeyExists id then
    { server with
      clientKeys := Function.update server.clientKeys id none
      clientConnections := Function.update server.clientConnections id none }
  else server

def destroyPartialConnection (server : ServerRegistry) (clientId : Bytes) : ServerRegistry :=
  { server with
    clientConnections := Function.update server.clientConnections clientId none }

end ServerRegistry

/-! ### Threads -/

/-- How `newClient` ends: the thread it starts may fail to start. -/
inductive NewClientOutcome where
  | accepted
  | declined
  | threw

/-- Where one call of `clientHandler` stands. -/
inductive HandlerState where
  | reading
  | responding (clientId : Bytes) (found : ServerRegistry.Lookup)
  | entering (clientId : Bytes) (connection : Nat)
  | abandoning (clientId : Bytes)
  | recovering (connection : Nat)
  | finished

/-- `pending` is the pair that the main thread has from the router and has not added
yet.  `answered` and `entered` record which handler wrote NEW_CLIENT for a connection
and which passed it to `newClient`. -/
structure RegistryState where
  server : ServerRegistry
  pending : Option IdKeyPair
  handlers : Nat → HandlerState
  answered : List (Nat × Nat)
  entered : List (Nat × Nat)

namespace RegistryState

inductive Event where
  | acceptTerminal (peer : RouterPeer)
  | addClientKey
  | lookup (handler : Nat) (clientId : Bytes)
  | respond (handler : Nat) (written : Bool)
  | newClient (handler : Nat) (outcome : NewClientOutcome)
  | abandon (handler : Nat)
  | recover (handler : Nat)
  | removeClient (id : Bytes)

def setHandler (state : RegistryState) (handler : Nat) (next : HandlerState) :
    RegistryState :=
  { state with handlers := Function.update state.handlers handler next }

/-- The handler's state after it has written its response, or failed to. -/
def afterResponse (clientId : Bytes) (written : Bool) : ServerRegistry.Lookup → HandlerState
  | .notRegistered => .finished
  | .created connection =>
      if written then .entering clientId connection else .abandoning clientId
  | .returning connection => if written then .recovering connection else .finished

def announces (handler : Nat) : ServerRegistry.Lookup → List (Nat × Nat)
  | .created connection => [(handler, connection)]
  | _ => []

inductive Step : RegistryState → Event → RegistryState → Prop
  | acceptTerminal {state : RegistryState} {peer : RouterPeer} {pair : IdKeyPair}
      {router : UserTerminalRouter} :
      state.pending = none →
      state.server.router.acceptNewConnection peer = .ok (pair, router) →
      Step state (.acceptTerminal peer)
        { state with
          server := { state.server with router := router }
          pending := if pair.id = [] then none else some pair }
  | addClientKey {state : RegistryState} {pair : IdKeyPair} :
      state.pending = some pair →
      Step state .addClientKey
        { state with
          server := state.server.addClientKey pair.id pair.key
          pending := none }
  | lookup {state : RegistryState} {handler : Nat} {clientId : Bytes}
      {found : ServerRegistry.Lookup} {server : ServerRegistry} :
      state.handlers handler = .reading → state.server.lookup clientId = .ok (found, server) →
      Step state (.lookup handler clientId)
        ({ state with server := server }.setHandler handler (.responding clientId found))
  | respond {state : RegistryState} {handler : Nat} {clientId : Bytes}
      {found : ServerRegistry.Lookup} {written : Bool} :
      state.handlers handler = .responding clientId found →
      Step state (.respond handler written)
        ({ state with answered := announces handler found ++ state.answered }.setHandler
          handler (afterResponse clientId written found))
  | accepted {state : RegistryState} {handler connection : Nat} {clientId : Bytes} :
      state.handlers handler = .entering clientId connection →
      Step state (.newClient handler .accepted)
        ({ state with entered := (handler, connection) :: state.entered }.setHandler
          handler .finished)
  | declined {state : RegistryState} {handler connection : Nat} {clientId : Bytes} :
      state.handlers handler = .entering clientId connection →
      Step state (.newClient handler .declined)
        ({ state with
          server := state.server.removeClient clientId
          entered := (handler, connection) :: state.entered }.setHandler handler .finished)
  | threw {state : RegistryState} {handler connection : Nat} {clientId : Bytes} :
      state.handlers handler = .entering clientId connection →
      Step state (.newClient handler .threw)
        ({ state with entered := (handler, connection) :: state.entered }.setHandler
          handler (.abandoning clientId))
  | abandon {state : RegistryState} {handler : Nat} {clientId : Bytes} :
      state.handlers handler = .abandoning clientId →
      Step state (.abandon handler)
        ({ state with server := state.server.destroyPartialConnection clientId }.setHandler
          handler .finished)
  | recover {state : RegistryState} {handler connection : Nat} :
      state.handlers handler = .recovering connection →
      Step state (.recover handler) (state.setHandler handler .finished)
  | removeClient (state : RegistryState) (id : Bytes) :
      Step state (.removeClient id) { state with server := state.server.removeClient id }

end RegistryState

/-- No terminal and no client has come yet, and any number of calls of `clientHandler`
may start. -/
def registrySystem : TransitionSystem RegistryState RegistryState.Event where
  initial state := state =
    { server := ServerRegistry.empty
      pending := none
      handlers := fun _ => .reading
      answered := []
      entered := [] }
  step := RegistryState.Step

/-! ### The maps agree -/

namespace ServerRegistry

def Routes (server : ServerRegistry) (id key : Bytes) : Prop :=
  ∃ info, server.router.idInfoMap id = some info ∧ info.passkey = key

structure Agrees (server : ServerRegistry) : Prop where
  connection {id : Bytes} {connection : Nat} :
    server.clientConnections id = some connection →
      ∃ key, server.clientKeys id = some key ∧
        server.objects[connection]? = some { id := id, key := key }
  key {id key : Bytes} : server.clientKeys id = some key → server.Routes id key
  object {connection : Nat} {object : ServerClientIdentity} :
    server.objects[connection]? = some object → server.Routes object.id object.key

variable {server after : ServerRegistry} {id key : Bytes}

/-- A key that is registered already is the router's, so registering it again changes
nothing. -/
theorem Agrees.addClientKey (agrees : server.Agrees) (routes : server.Routes id key) :
    (server.addClientKey id key).Agrees := by
  constructor
  · intro other connection registered
    obtain ⟨former, isKey, isObject⟩ := agrees.connection registered
    by_cases same : other = id
    · subst same
      obtain ⟨info, found, sameKey⟩ := routes
      obtain ⟨formerInfo, formerFound, formerKey⟩ := agrees.key isKey
      have infoEq : formerInfo = info := Option.some.inj (formerFound.symm.trans found)
      have keyEq : former = key := formerKey.symm.trans (infoEq ▸ sameKey)
      exact ⟨key, Function.update_self .., keyEq ▸ isObject⟩
    · exact ⟨former, update_some_iff.mpr (Or.inr ⟨same, isKey⟩), isObject⟩
  · intro other otherKey isKey
    rcases update_some_iff.mp isKey with ⟨rfl, rfl⟩ | ⟨_, former⟩
    · exact routes
    · exact agrees.key former
  · exact agrees.object

theorem Agrees.create (agrees : server.Agrees) {found : Lookup}
    (isKey : server.clientKeys id = some key)
    (ok : server.create id key = .ok (found, after)) : after.Agrees := by
  unfold ServerRegistry.create at ok
  split at ok
  · cases ok
    constructor
    · intro other connection registered
      rcases update_some_iff.mp registered with ⟨rfl, rfl⟩ | ⟨_, former⟩
      · exact ⟨key, isKey, List.getElem?_concat_length⟩
      · obtain ⟨formerKey, isFormer, isObject⟩ := agrees.connection former
        obtain ⟨inside, _⟩ := List.getElem?_eq_some_iff.mp isObject
        exact ⟨formerKey, isFormer, (List.getElem?_append_left inside).trans isObject⟩
    · exact agrees.key
    · intro connection object isObject
      rcases List.mem_append.mp (List.mem_of_getElem? isObject) with old | new
      · obtain ⟨place, isOld⟩ := List.getElem?_of_mem old
        exact agrees.object isOld
      · obtain rfl := List.mem_singleton.mp new
        exact agrees.key isKey
  · cases ok

theorem Agrees.lookup (agrees : server.Agrees) {found : Lookup}
    (ok : server.lookup id = .ok (found, after)) : after.Agrees := by
  unfold ServerRegistry.lookup at ok
  split at ok
  · obtain ⟨connection, _, ok⟩ := except_bind_ok ok
    split at ok
    · cases ok
      exact agrees
    · cases ok
      exact agrees
  · split at ok
    · cases ok
      exact agrees
    · rename_i isKey
      exact agrees.create isKey ok

theorem Agrees.removeClient (agrees : server.Agrees) (id : Bytes) :
    (server.removeClient id).Agrees := by
  unfold ServerRegistry.removeClient
  split
  · constructor
    · intro other connection registered
      obtain ⟨different, former⟩ := update_none_iff.mp registered
      obtain ⟨key, isKey, isObject⟩ := agrees.connection former
      exact ⟨key, update_none_iff.mpr ⟨different, isKey⟩, isObject⟩
    · intro other otherKey isKey
      exact agrees.key (update_none_iff.mp isKey).2
    · exact agrees.object
  · exact agrees

theorem Agrees.destroyPartialConnection (agrees : server.Agrees) (id : Bytes) :
    (server.destroyPartialConnection id).Agrees := by
  constructor
  · intro other connection registered
    exact agrees.connection (update_none_iff.mp registered).2
  · exact agrees.key
  · exact agrees.object

theorem Routes.keep (routes : server.Routes id key)
    (kept : ∀ id info, server.router.idInfoMap id = some info →
      after.router.idInfoMap id = some info) : after.Routes id key := by
  obtain ⟨info, found, sameKey⟩ := routes
  exact ⟨info, kept id info found, sameKey⟩

theorem Agrees.router (agrees : server.Agrees) {router : UserTerminalRouter}
    (kept : ∀ id info, server.router.idInfoMap id = some info →
      router.idInfoMap id = some info) :
    ({ server with router := router } : ServerRegistry).Agrees := by
  constructor
  · exact agrees.connection
  · exact fun isKey => (agrees.key isKey).keep kept
  · exact fun isObject => (agrees.object isObject).keep kept

theorem removeClient_objects (server : ServerRegistry) (id : Bytes) :
    (server.removeClient id).objects = server.objects := by
  unfold removeClient
  split
  · rfl
  · rfl

theorem removeClient_router (server : ServerRegistry) (id : Bytes) :
    (server.removeClient id).router = server.router := by
  unfold removeClient
  split
  · rfl
  · rfl

theorem lookup_router {found : Lookup} (ok : server.lookup id = .ok (found, after)) :
    after.router = server.router := by
  unfold lookup at ok
  split at ok
  · obtain ⟨connection, _, ok⟩ := except_bind_ok ok
    split at ok
    · cases ok
      rfl
    · cases ok
      rfl
  · split at ok
    · cases ok
      rfl
    · unfold create at ok
      split at ok
      · cases ok
        rfl
      · cases ok

theorem getClientConnection_found (exists_ : server.clientConnectionExists id = true) :
    ∃ connection, server.getClientConnection id = .ok connection := by
  obtain ⟨connection, registered⟩ := Option.isSome_iff_exists.mp exists_
  exact ⟨connection, by rw [getClientConnection, registered]⟩

theorem lookup_error {message : String} (fails : server.lookup id = .error message) :
    message = "Invalid key length" := by
  unfold lookup at fails
  split at fails
  · rename_i exists_
    obtain ⟨connection, found⟩ := getClientConnection_found exists_
    rw [found] at fails
    dsimp only [bind, Except.bind] at fails
    split at fails
    · cases fails
    · cases fails
  · split at fails
    · cases fails
    · unfold create at fails
      split at fails
      · cases fails
      · cases fails
        rfl

theorem lookup_objects {found : Lookup} (ok : server.lookup id = .ok (found, after)) :
    server.objects.length ≤ after.objects.length ∧
      ∀ connection, found = .created connection →
        connection = server.objects.length ∧ connection < after.objects.length := by
  unfold lookup at ok
  split at ok
  · obtain ⟨connection, _, ok⟩ := except_bind_ok ok
    split at ok
    · cases ok
      exact ⟨le_refl _, by intro _ impossible; cases impossible⟩
    · cases ok
      exact ⟨le_refl _, by intro _ impossible; cases impossible⟩
  · split at ok
    · cases ok
      exact ⟨le_refl _, by intro _ impossible; cases impossible⟩
    · unfold create at ok
      split at ok
      · cases ok
        constructor
        · simp
        · intro connection same
          cases same
          simp
      · cases ok

end ServerRegistry

/-! ### Handlers and their connections -/

/-- The connection that a handler has created and not passed to `newClient` yet. -/
def HandlerState.holds : HandlerState → Option Nat
  | .responding _ (.created connection) => some connection
  | .entering _ connection => some connection
  | _ => none

namespace RegistryState

structure Tracked (state : RegistryState) : Prop where
  held_created {handler connection : Nat} :
    (state.handlers handler).holds = some connection →
      connection < state.server.objects.length
  held_once {first second connection : Nat} :
    (state.handlers first).holds = some connection →
      (state.handlers second).holds = some connection → first = second
  held_not_entered {handler other connection : Nat} :
    (state.handlers handler).holds = some connection → (other, connection) ∉ state.entered
  responding_not_answered {handler other connection : Nat} {clientId : Bytes} :
    state.handlers handler = .responding clientId (.created connection) →
      (other, connection) ∉ state.answered
  entering_answered {handler connection : Nat} {clientId : Bytes} :
    state.handlers handler = .entering clientId connection →
      (handler, connection) ∈ state.answered
  answered_created {handler connection : Nat} :
    (handler, connection) ∈ state.answered → connection < state.server.objects.length
  entered_answered {handler connection : Nat} :
    (handler, connection) ∈ state.entered → (handler, connection) ∈ state.answered
  answered_once : (state.answered.map Prod.snd).Nodup
  entered_once : (state.entered.map Prod.snd).Nodup

variable {state after : RegistryState}

theorem Tracked.drop (tracked : state.Tracked) {handler : Nat} {next : HandlerState}
    (holdsNothing : next.holds = none) : (state.setHandler handler next).Tracked := by
  have others : ∀ {other connection : Nat},
      ((state.setHandler handler next).handlers other).holds = some connection →
        (state.handlers other).holds = some connection := by
    intro other connection held
    by_cases same : other = handler
    · subst same
      simp [setHandler, holdsNothing] at held
    · simpa [setHandler, same] using held
  have unchanged : ∀ {other : Nat} {now : HandlerState} {connection : Nat},
      (state.setHandler handler next).handlers other = now → now.holds = some connection →
        state.handlers other = now := by
    intro other now connection found held
    by_cases same : other = handler
    · subst same
      obtain rfl : next = now := by simpa [setHandler] using found
      cases holdsNothing.symm.trans held
    · simpa [setHandler, same] using found
  constructor
  · exact fun held => tracked.held_created (others held)
  · exact fun first second => tracked.held_once (others first) (others second)
  · exact fun held => tracked.held_not_entered (others held)
  · exact fun found => tracked.responding_not_answered (unchanged found rfl)
  · exact fun found => tracked.entering_answered (unchanged found rfl)
  · exact tracked.answered_created
  · exact tracked.entered_answered
  · exact tracked.answered_once
  · exact tracked.entered_once

theorem Tracked.server (tracked : state.Tracked) {server : ServerRegistry}
    {pending : Option IdKeyPair}
    (more : state.server.objects.length ≤ server.objects.length) :
    ({ state with server := server, pending := pending } : RegistryState).Tracked := by
  constructor
  · exact fun held => lt_of_lt_of_le (tracked.held_created held) more
  · exact tracked.held_once
  · exact tracked.held_not_entered
  · exact tracked.responding_not_answered
  · exact tracked.entering_answered
  · exact fun member => lt_of_lt_of_le (tracked.answered_created member) more
  · exact tracked.entered_answered
  · exact tracked.answered_once
  · exact tracked.entered_once

theorem Tracked.created (tracked : state.Tracked) {handler : Nat} {clientId : Bytes}
    {server : ServerRegistry} (was : state.handlers handler = .reading)
    (fresh : state.server.objects.length < server.objects.length) :
    (({ state with server := server } : RegistryState).setHandler handler
      (.responding clientId (.created state.server.objects.length))).Tracked := by
  have othersBelow : ∀ {other connection : Nat},
      (state.handlers other).holds = some connection →
        connection ≠ state.server.objects.length := by
    intro other connection held
    exact Nat.ne_of_lt (tracked.held_created held)
  have splits : ∀ {other connection : Nat},
      ((({ state with server := server } : RegistryState).setHandler handler
        (.responding clientId (.created state.server.objects.length))).handlers
          other).holds = some connection →
        (other = handler ∧ connection = state.server.objects.length) ∨
          (other ≠ handler ∧ (state.handlers other).holds = some connection) := by
    intro other connection held
    by_cases same : other = handler
    · subst same
      have place : some state.server.objects.length = some connection := by
        simpa [setHandler, HandlerState.holds] using held
      exact Or.inl ⟨rfl, (Option.some.inj place).symm⟩
    · exact Or.inr ⟨same, by simpa [setHandler, same] using held⟩
  have freshAnswer : ∀ other, (other, state.server.objects.length) ∉ state.answered := by
    intro other member
    exact absurd (tracked.answered_created member) (lt_irrefl _)
  constructor
  · intro other connection held
    rcases splits held with ⟨_, rfl⟩ | ⟨_, former⟩
    · exact fresh
    · exact lt_trans (tracked.held_created former) fresh
  · intro first second connection heldFirst heldSecond
    rcases splits heldFirst with ⟨rfl, rfl⟩ | ⟨_, formerFirst⟩
    · rcases splits heldSecond with ⟨rfl, _⟩ | ⟨_, formerSecond⟩
      · rfl
      · exact absurd rfl (othersBelow formerSecond)
    · rcases splits heldSecond with ⟨rfl, rfl⟩ | ⟨_, formerSecond⟩
      · exact absurd rfl (othersBelow formerFirst)
      · exact tracked.held_once formerFirst formerSecond
  · intro other another connection held
    rcases splits held with ⟨_, rfl⟩ | ⟨_, former⟩
    · exact fun member => freshAnswer another (tracked.entered_answered member)
    · exact tracked.held_not_entered former
  · intro other another connection id found
    rcases splits (congrArg HandlerState.holds found) with ⟨_, rfl⟩ | ⟨different, _⟩
    · exact freshAnswer another
    · have former : state.handlers other = .responding id (.created connection) := by
        simpa [setHandler, different] using found
      exact tracked.responding_not_answered former
  · intro other connection id found
    by_cases same : other = handler
    · subst same
      simp [setHandler] at found
    · have former : state.handlers other = .entering id connection := by
        simpa [setHandler, same] using found
      exact tracked.entering_answered former
  · exact fun member => lt_trans (tracked.answered_created member) fresh
  · exact tracked.entered_answered
  · exact tracked.answered_once
  · exact tracked.entered_once

theorem Tracked.answered (tracked : state.Tracked) {handler connection : Nat}
    {clientId : Bytes}
    (was : state.handlers handler = .responding clientId (.created connection)) :
    (({ state with answered := (handler, connection) :: state.answered } :
      RegistryState).setHandler handler (.entering clientId connection)).Tracked := by
  have heldHere : (state.handlers handler).holds = some connection := by
    rw [was, HandlerState.holds]
  have sameHeld : ∀ {other place : Nat},
      ((({ state with answered := (handler, connection) :: state.answered } :
        RegistryState).setHandler handler (.entering clientId connection)).handlers
          other).holds = some place →
        (state.handlers other).holds = some place := by
    intro other place held
    by_cases same : other = handler
    · subst same
      simpa [setHandler, HandlerState.holds, was] using held
    · simpa [setHandler, same] using held
  constructor
  · exact fun held => tracked.held_created (sameHeld held)
  · exact fun first second => tracked.held_once (sameHeld first) (sameHeld second)
  · exact fun held => tracked.held_not_entered (sameHeld held)
  · intro other another place id found
    by_cases same : other = handler
    · subst same
      simp [setHandler] at found
    · have former : state.handlers other = .responding id (.created place) := by
        simpa [setHandler, same] using found
      have heldThere : (state.handlers other).holds = some place := by
        rw [former, HandlerState.holds]
      intro member
      rcases List.mem_cons.mp member with here | earlier
      · obtain ⟨_, samePlace⟩ := Prod.mk.injEq .. ▸ here
        exact same (tracked.held_once heldThere (samePlace ▸ heldHere))
      · exact tracked.responding_not_answered former earlier
  · intro other place id found
    by_cases same : other = handler
    · subst same
      have here : clientId = id ∧ connection = place := by simpa [setHandler] using found
      exact here.2 ▸ List.mem_cons_self
    · have former : state.handlers other = .entering id place := by
        simpa [setHandler, same] using found
      exact List.mem_cons_of_mem _ (tracked.entering_answered former)
  · intro other place member
    rcases List.mem_cons.mp member with here | earlier
    · cases here
      exact tracked.held_created heldHere
    · exact tracked.answered_created earlier
  · exact fun member => List.mem_cons_of_mem _ (tracked.entered_answered member)
  · have unanswered : connection ∉ state.answered.map Prod.snd := by
      intro member
      obtain ⟨⟨other, place⟩, answeredThere, rfl⟩ := List.mem_map.mp member
      exact tracked.responding_not_answered was answeredThere
    exact List.nodup_cons.mpr ⟨unanswered, tracked.answered_once⟩
  · exact tracked.entered_once

/-- `newClient` has been called with the connection, which its handler lets go of. -/
theorem Tracked.entered (tracked : state.Tracked) {handler connection : Nat}
    {clientId : Bytes} {next : HandlerState}
    (was : state.handlers handler = .entering clientId connection)
    (holdsNothing : next.holds = none) :
    (({ state with entered := (handler, connection) :: state.entered } :
      RegistryState).setHandler handler next).Tracked := by
  have heldHere : (state.handlers handler).holds = some connection := by
    rw [was, HandlerState.holds]
  have dropped := @Tracked.drop state tracked handler next holdsNothing
  have othersHold : ∀ {other place : Nat},
      ((state.setHandler handler next).handlers other).holds = some place →
        place ≠ connection := by
    rintro other place held rfl
    by_cases same : other = handler
    · subst same
      simp [setHandler, holdsNothing] at held
    · have heldThere : (state.handlers other).holds = some place := by
        simpa [setHandler, same] using held
      exact same (tracked.held_once heldThere heldHere)
  constructor
  · exact dropped.held_created
  · exact dropped.held_once
  · intro other another place held member
    rcases List.mem_cons.mp member with here | earlier
    · cases here
      exact othersHold held rfl
    · exact dropped.held_not_entered held earlier
  · exact dropped.responding_not_answered
  · exact dropped.entering_answered
  · exact dropped.answered_created
  · intro other place member
    rcases List.mem_cons.mp member with here | earlier
    · cases here
      exact tracked.entering_answered was
    · exact tracked.entered_answered earlier
  · exact dropped.answered_once
  · have notEntered : connection ∉ state.entered.map Prod.snd := by
      intro member
      obtain ⟨⟨other, place⟩, enteredThere, rfl⟩ := List.mem_map.mp member
      exact tracked.held_not_entered heldHere enteredThere
    exact List.nodup_cons.mpr ⟨notEntered, tracked.entered_once⟩

/-- The three maps agree, the handlers are apart, and a pair that waits to be added is the
router's. -/
structure Sound (state : RegistryState) : Prop where
  agrees : state.server.Agrees
  tracked : state.Tracked
  pending {pair : IdKeyPair} :
    state.pending = some pair → state.server.Routes pair.id pair.key

theorem Sound.lookup (sound : state.Sound) {handler : Nat} {clientId : Bytes}
    {found : ServerRegistry.Lookup} {server : ServerRegistry}
    (was : state.handlers handler = .reading)
    (ok : state.server.lookup clientId = .ok (found, server)) :
    (({ state with server := server } : RegistryState).setHandler handler
      (.responding clientId found)).Sound := by
  have router := ServerRegistry.lookup_router ok
  obtain ⟨more, fresh⟩ := ServerRegistry.lookup_objects ok
  constructor
  · exact sound.agrees.lookup ok
  · cases found with
    | notRegistered => exact (sound.tracked.server more).drop rfl
    | returning connection => exact (sound.tracked.server more).drop rfl
    | created connection =>
        obtain ⟨rfl, grown⟩ := fresh connection rfl
        exact sound.tracked.created was grown
  · intro pair waits
    exact (sound.pending waits).keep (fun id info known => router ▸ known)

theorem Sound.respond (sound : state.Sound) {handler : Nat} {clientId : Bytes}
    {found : ServerRegistry.Lookup} (written : Bool)
    (was : state.handlers handler = .responding clientId found) :
    (({ state with answered := announces handler found ++ state.answered } :
      RegistryState).setHandler handler (afterResponse clientId written found)).Sound := by
  constructor
  · exact sound.agrees
  · cases found with
    | notRegistered => exact sound.tracked.drop rfl
    | returning connection =>
        cases written with
        | true => exact sound.tracked.drop rfl
        | false => exact sound.tracked.drop rfl
    | created connection =>
        have entering := sound.tracked.answered was
        cases written with
        | true => exact entering
        | false =>
            have abandoning := @Tracked.drop _ entering handler (.abandoning clientId) rfl
            rwa [setHandler, setHandler, Function.update_idem] at abandoning
  · exact sound.pending

theorem Sound.entered (sound : state.Sound) {handler connection : Nat} {clientId : Bytes}
    {next : HandlerState} (was : state.handlers handler = .entering clientId connection)
    (holdsNothing : next.holds = none) :
    (({ state with entered := (handler, connection) :: state.entered } :
      RegistryState).setHandler handler next).Sound :=
  ⟨sound.agrees, sound.tracked.entered was holdsNothing, sound.pending⟩

theorem Sound.removeClient (sound : state.Sound) (id : Bytes) :
    ({ state with server := state.server.removeClient id } : RegistryState).Sound := by
  have objects := ServerRegistry.removeClient_objects state.server id
  have router := ServerRegistry.removeClient_router state.server id
  constructor
  · exact sound.agrees.removeClient id
  · exact sound.tracked.server (by rw [objects])
  · intro pair waits
    exact (sound.pending waits).keep (fun id info known => router ▸ known)

theorem Step.sound {event : Event} (step : Step state event after) (sound : state.Sound) :
    after.Sound := by
  cases step with
  | acceptTerminal empty ok =>
      obtain ⟨kept, handed⟩ := UserTerminalRouter.acceptNewConnection_spec ok
      constructor
      · exact sound.agrees.router kept
      · exact sound.tracked.server (by exact le_refl _)
      · intro waiting waits
        dsimp only at waits
        split at waits
        · cases waits
        · rename_i named
          cases waits
          exact handed.resolve_left named
  | addClientKey waits =>
      constructor
      · exact sound.agrees.addClientKey (sound.pending waits)
      · exact sound.tracked.server (by exact le_refl _)
      · intro pair impossible
        cases impossible
  | lookup was ok => exact sound.lookup was ok
  | respond was => exact sound.respond _ was
  | accepted was => exact sound.entered was rfl
  | declined was =>
      have entered := sound.entered was (rfl : HandlerState.finished.holds = none)
      exact entered.removeClient _
  | threw was => exact sound.entered was rfl
  | abandon was =>
      rename_i handler clientId
      constructor
      · exact sound.agrees.destroyPartialConnection _
      · have dropped := @Tracked.drop _ sound.tracked handler .finished rfl
        exact dropped.server (by exact le_refl _)
      · exact sound.pending
  | recover was =>
      exact ⟨sound.agrees, sound.tracked.drop rfl, sound.pending⟩
  | removeClient id => exact sound.removeClient id

theorem initial_sound (initially : registrySystem.initial state) : state.Sound := by
  obtain rfl : state = _ := initially
  constructor
  · constructor
    · intro id connection impossible
      cases impossible
    · intro id key impossible
      cases impossible
    · intro connection object impossible
      cases impossible
  · constructor
    · intro handler connection impossible
      cases impossible
    · intro first second connection impossible
      cases impossible
    · intro handler other connection impossible
      cases impossible
    · intro handler other connection clientId impossible
      cases impossible
    · intro handler connection clientId impossible
      cases impossible
    · intro handler connection impossible
      cases impossible
    · intro handler connection impossible
      cases impossible
    · exact List.nodup_nil
    · exact List.nodup_nil
  · intro pair impossible
    cases impossible

theorem reachable_sound (reached : registrySystem.Reachable state) : state.Sound := by
  induction reached with
  | start initially => exact initial_sound initially
  | next _ _ step sound => exact step.sound sound

/-! ### What the maps promise -/

/-- The handlers that a connection has been answered by, or passed to `newClient` by. -/
def handlersOf (record : List (Nat × Nat)) (connection : Nat) : List Nat :=
  (record.filter (fun entry => entry.2 = connection)).map Prod.fst

/-- The invariant of the two classes' maps.  `connection` speaks of the registered
connections, `object` of every connection that was ever built. -/
structure RegistryInvariant (state : RegistryState) : Prop where
  connection_has_key {id : Bytes} :
    (state.server.clientConnections id).isSome → (state.server.clientKeys id).isSome
  key_is_routed {id : Bytes} :
    (state.server.clientKeys id).isSome → (state.server.router.idInfoMap id).isSome
  built_with_key {id : Bytes} {connection : Nat} :
    state.server.clientConnections id = some connection →
      ∃ key info, state.server.clientKeys id = some key ∧
        state.server.objects[connection]? = some { id := id, key := key } ∧
        state.server.router.idInfoMap id = some info ∧ info.passkey = key
  answered_by_one (connection : Nat) : (handlersOf state.answered connection).length ≤ 1
  entered_by_one (connection : Nat) : (handlersOf state.entered connection).length ≤ 1
  entered_by_answerer {handler connection : Nat} :
    (handler, connection) ∈ state.entered → (handler, connection) ∈ state.answered
  lookup_finds {id : Bytes} :
    state.server.clientConnectionExists id = true →
      ∃ connection, state.server.getClientConnection id = .ok connection
  lookup_fails {id : Bytes} {message : String} :
    state.server.lookup id = .error message → message = "Invalid key length"
  passkey_verifies {id : Bytes} {connection : Nat} {object : ServerClientIdentity} :
    state.server.clientConnections id = some connection →
      state.server.objects[connection]? = some object →
      ∃ info, state.server.router.tryGetInfoForConnection object = .ok (some info)
  running_verifies {handler connection : Nat} :
    (handler, connection) ∈ state.entered →
      ∃ object info, state.server.objects[connection]? = some object ∧
        state.server.router.tryGetInfoForConnection object = .ok (some info)

theorem handlersOf_length {record : List (Nat × Nat)}
    (once : (record.map Prod.snd).Nodup) (connection : Nat) :
    (handlersOf record connection).length ≤ 1 := by
  induction record with
  | nil => exact Nat.zero_le 1
  | cons entry rest ih =>
      rw [List.map_cons, List.nodup_cons] at once
      obtain ⟨new, restOnce⟩ := once
      by_cases here : entry.2 = connection
      · have none_left : rest.filter (fun other => other.2 = connection) = [] := by
          apply List.filter_eq_nil_iff.mpr
          intro other member same
          have sameConnection : other.2 = connection := of_decide_eq_true same
          exact new (here.trans sameConnection.symm ▸ List.mem_map_of_mem member)
        simp [handlersOf, here, none_left]
      · simpa [handlersOf, here] using ih restOnce

theorem Sound.verifies (sound : state.Sound) {connection : Nat}
    {object : ServerClientIdentity}
    (isObject : state.server.objects[connection]? = some object) :
    ∃ info, state.server.router.tryGetInfoForConnection object = .ok (some info) := by
  obtain ⟨info, found, sameKey⟩ := sound.agrees.object isObject
  exact ⟨info, UserTerminalRouter.tryGetInfoForConnection_found found sameKey⟩

theorem registry_invariant (reached : registrySystem.Reachable state) :
    RegistryInvariant state := by
  have sound := reachable_sound reached
  constructor
  · intro id registered
    obtain ⟨connection, isConnection⟩ := Option.isSome_iff_exists.mp registered
    obtain ⟨key, isKey, _⟩ := sound.agrees.connection isConnection
    exact Option.isSome_iff_exists.mpr ⟨key, isKey⟩
  · intro id registered
    obtain ⟨key, isKey⟩ := Option.isSome_iff_exists.mp registered
    obtain ⟨info, found, _⟩ := sound.agrees.key isKey
    exact Option.isSome_iff_exists.mpr ⟨info, found⟩
  · intro id connection registered
    obtain ⟨key, isKey, isObject⟩ := sound.agrees.connection registered
    obtain ⟨info, found, sameKey⟩ := sound.agrees.key isKey
    exact ⟨key, info, isKey, isObject, found, sameKey⟩
  · exact handlersOf_length sound.tracked.answered_once
  · exact handlersOf_length sound.tracked.entered_once
  · exact sound.tracked.entered_answered
  · exact ServerRegistry.getClientConnection_found
  · exact ServerRegistry.lookup_error
  · intro id connection object _ isObject
    exact sound.verifies isObject
  · intro handler connection ran
    have created := sound.tracked.answered_created (sound.tracked.entered_answered ran)
    obtain ⟨info, verified⟩ := sound.verifies (List.getElem?_eq_getElem created)
    exact ⟨_, info, List.getElem?_eq_getElem created, verified⟩

/-- One terminal registers, its client is answered and passed to `newClient`. -/
theorem registry_invariant_one_client :
    ∃ state, registrySystem.Reachable state ∧ state.entered = [(0, 0)] ∧
      state.server.clientConnectionExists [1] = true ∧ RegistryInvariant state := by
  let tui : TerminalUserInfo :=
    { id := [1], passkey := List.replicate 32 7, uid := 0, gid := 0, fd := 5 }
  have started : registrySystem.Reachable _ := .start rfl
  have accepted := started.next
    (.acceptTerminal rfl
      (rfl : UserTerminalRouter.acceptNewConnection _ (.packet 5 TERMINAL_USER_INFO tui) = _))
  have added := accepted.next (.addClientKey rfl)
  have found := added.next
    (.lookup rfl (rfl : ServerRegistry.lookup _ [1] = .ok (.created 0, _)) :
      RegistryState.Step _ (.lookup 0 _) _)
  have answered := found.next (.respond rfl : RegistryState.Step _ (.respond 0 true) _)
  have entered := answered.next (.accepted rfl : RegistryState.Step _ (.newClient 0 _) _)
  exact ⟨_, entered, rfl, rfl, registry_invariant entered⟩

end RegistryState

end EternalTerminal
