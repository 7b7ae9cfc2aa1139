/-
`HtmServer::run`: clients that attach and leave, the messages they send, and the output of the
panes.

A client sends what it likes and may hang up at any point.  A read or a write that waits is one
step with what it waits for.  A write to an endpoint that has hung up fails.
-/

import EternalTerminal.Htm.HtmCommands

namespace EternalTerminal

open Library

/-! ### The writes of an update -/

namespace MultiplexerState

/-- The panes that `updatePanes` polls, and whether it throws. `taken` says of a message
whether the writes of it return, not what they put on the socket. -/
def updateTrace (poll : Bytes → TerminalHandler.Poll) (taken : Message → Bool) :
    List Bytes → MultiplexerState → List Bytes × Bool
  | [], _ => ([], false)
  | paneId :: rest, state =>
      match state.getPane paneId >>= fun pane => pane.terminal.pollUserTerminal (poll paneId) with
      | .error _ => ([], false)
      | .ok (terminalData, terminal) =>
          if terminalData ≠ [] ∧ taken (.appendToPane paneId terminalData) = false then
            ([paneId], true)
          else if terminal.run then
            let (later, threw) := updateTrace poll taken rest (state.setTerminal paneId terminal)
            (paneId :: later, threw)
          else ([paneId], !taken (.serverClosePane paneId))

def polled (state : MultiplexerState) (poll : Bytes → TerminalHandler.Poll)
    (taken : Message → Bool) : List Bytes :=
  (updateTrace poll taken state.panes.keys state).1

def updateThrows (state : MultiplexerState) (poll : Bytes → TerminalHandler.Poll)
    (taken : Message → Bool) : Bool :=
  (updateTrace poll taken state.panes.keys state).2

theorem create_fresh {tabId paneId id : Bytes} (notTab : tabId ≠ id) (notPane : paneId ≠ id) :
    (create tabId paneId).Fresh id := by
  constructor
  · intro live
    rcases mem_insertIfNew.mp live with same | former
    · exact notPane same
    · exact Std.TreeMap.not_mem_emptyc former
  · exact Std.TreeMap.not_mem_emptyc
  · intro isTab
    rcases mem_insertIfNew.mp isTab with same | former
    · exact notTab same
    · exact Std.TreeMap.not_mem_emptyc former

end MultiplexerState

/-! ### The server -/

/-- The client that is attached.  `arrived`, `executed`, `sent` and `before` are for the record:
its bytes, the messages that have been read of them, what it has been sent, and how the panes
had been polled when it attached. -/
structure HtmEndpoint where
  incoming : Bytes
  hungUp : Bool
  arrived : Bytes
  executed : List HtmCommand
  sent : List HtmMessage
  before : Bytes → List TerminalHandler.Poll

namespace HtmEndpoint

def receive (endpoint : HtmEndpoint) (bytes : Bytes) : HtmEndpoint :=
  { endpoint with
    incoming := endpoint.incoming ++ bytes
    arrived := endpoint.arrived ++ bytes }

def hangUp (endpoint : HtmEndpoint) : HtmEndpoint := { endpoint with hungUp := true }

def consume (endpoint : HtmEndpoint) (command : HtmCommand) (rest : Bytes) : HtmEndpoint :=
  { endpoint with
    incoming := rest
    executed := endpoint.executed ++ [command] }

def tell (endpoint : HtmEndpoint) (messages : List MultiplexerState.Message) : HtmEndpoint :=
  { endpoint with sent := endpoint.sent ++ messages.map .pane }

end HtmEndpoint

/-- Where `run` is: before `select`, before `update`, before the `closeEndpoint` of the escape
key, before the one of the exception handler, or at its end. -/
inductive HtmPhase where
  | selecting
  | updating
  | detaching
  | catching
  | finished
  | terminated
  deriving DecidableEq

def HtmPhase.Serves (phase : HtmPhase) : Prop :=
  phase = .selecting ∨ phase = .updating ∨ phase = .detaching

instance (phase : HtmPhase) : Decidable phase.Serves :=
  inferInstanceAs (Decidable (_ ∨ _ ∨ _))

/-- `polls` is for the record. -/
structure HtmServer where
  state : MultiplexerState
  running : Bool
  endpoint : Option HtmEndpoint
  phase : HtmPhase
  polls : Bytes → List TerminalHandler.Poll

namespace HtmServer

def create (tabId paneId : Uuid) : HtmServer :=
  { state := MultiplexerState.create tabId.bytes paneId.bytes
    running := true
    endpoint := none
    phase := .selecting
    polls := fun _ => [] }

/-- "Initializing HTM, please wait...\n\r" and the text after the buffers. -/
structure Greetings where
  initializing : Bytes
  initialized : Bytes

/-- What `recover` sends after the escape code. -/
def recover (jsonString : MultiplexerState → Bytes) (greetings : Greetings)
    (state : MultiplexerState) : List HtmMessage :=
  .debugLog greetings.initializing :: .initState (jsonString state) ::
    (state.sendTerminalBuffers.map .pane ++ [.debugLog greetings.initialized])

inductive Handled where
  | updates (state : MultiplexerState) (running : Bool)
  | detaches
  | throws

/-- What `run` does with a message.  `written` is whether the terminal takes the keys, and
`uuid` the id that a new split draws. -/
def handle (state : MultiplexerState) (written : Bool) (uuid : Bytes) :
    HtmCommand → Except String Handled
  | .insertKeys uid data =>
      if uid ∈ state.panes then
        pure (if data = [] ∨ written = true then .updates state true else .throws)
      else .error "Tried to write to non-existent terminal"
  | .insertDebugKeys data =>
      -- the empty string has a 0 at its end
      if data.headD 0 = 120 then pure (.updates state false)
      else if data.headD 0 = 27 then pure .detaches
      else pure (.updates state true)
  | .newTab tabId paneId => do
      let state ← state.newTab tabId paneId
      pure (.updates state true)
  | .newSplit sourceId paneId vertical => do
      let state ← state.newSplit sourceId paneId (vertical = 49) uuid
      pure (.updates state true)
  | .resizePane _ _ paneId => do
      let _ ← state.getPane paneId
      pure (.updates state true)
  | .closePane paneId => do
      let state ← state.closePane paneId
      pure (.updates state (!state.panes.isEmpty))

def accept (messages : List HtmMessage) (server : HtmServer) : HtmServer :=
  { server with
    endpoint := some
      { incoming := []
        hungUp := false
        arrived := []
        executed := []
        sent := messages
        before := server.polls } }

def resume (server : HtmServer) : Except String Handled → HtmServer
  | .error _ => { server with phase := .terminated }
  | .ok (.updates state running) =>
      { server with
        state := state
        running := running
        phase := .updating }
  | .ok .detaches => { server with phase := .detaching }
  | .ok .throws => { server with phase := .catching }

def withEndpoint (server : HtmServer) (endpoint : HtmEndpoint) : HtmServer :=
  { server with endpoint := some endpoint }

def withPhase (server : HtmServer) (phase : HtmPhase) : HtmServer :=
  { server with phase := phase }

/-- `closeEndpoint` when the client takes the end of the session. -/
def detach (server : HtmServer) (phase : HtmPhase) : HtmServer :=
  { server with
    endpoint := none
    phase := phase }

def update (server : HtmServer) (endpoint : HtmEndpoint)
    (poll : Bytes → TerminalHandler.Poll) (taken : MultiplexerState.Message → Bool) :
    HtmServer :=
  match server.state.update poll taken with
  | .error _ => server.withPhase .terminated
  | .ok (sent, state) =>
      let polled := server.state.polled poll taken
      { server with
        state := state
        endpoint := some (endpoint.tell sent)
        phase := if server.state.updateThrows poll taken then .catching else .selecting
        polls := fun paneId =>
          if paneId ∈ polled then server.polls paneId ++ [poll paneId] else server.polls paneId }

end HtmServer

/-! ### Its runs -/

inductive HtmEvent where
  | arrives (bytes : Bytes)
  | hangsUp
  | accepts
  | acceptFails
  | idles
  | commands (command : HtmCommand) (written : Bool) (drawn : Uuid)
  | readThrows
  | malformed
  | updates (poll : Bytes → TerminalHandler.Poll) (taken : MultiplexerState.Message → Bool)
  | closes
  | closeFails
  | returns
  | returnFails

namespace HtmServer

section

variable (base64 : Base64) (fd : Fd) (jsonString : MultiplexerState → Bytes)
  (greetings : Greetings)

inductive Step : HtmServer → HtmEvent → HtmServer → Prop
  | arrives {server : HtmServer} {endpoint : HtmEndpoint} {bytes : Bytes} :
      server.endpoint = some endpoint → endpoint.hungUp = false →
      Step server (.arrives bytes) (server.withEndpoint (endpoint.receive bytes))
  | hangsUp {server : HtmServer} {endpoint : HtmEndpoint} :
      server.endpoint = some endpoint → endpoint.hungUp = false →
      Step server .hangsUp (server.withEndpoint endpoint.hangUp)
  | accepts {server : HtmServer} :
      server.phase = .selecting → server.running = true → server.endpoint = none →
      Step server .accepts (server.accept (recover jsonString greetings server.state))
  -- `recover` is not in the `try` block
  | acceptFails {server : HtmServer} :
      server.phase = .selecting → server.running = true → server.endpoint = none →
      Step server .acceptFails (server.withPhase .terminated)
  | idles {server : HtmServer} {endpoint : HtmEndpoint} :
      server.phase = .selecting → server.running = true → server.endpoint = some endpoint →
      endpoint.incoming = [] → endpoint.hungUp = false →
      Step server .idles (server.withPhase .updating)
  | commands {server : HtmServer} {endpoint : HtmEndpoint} {command : HtmCommand} {rest : Bytes}
      {written : Bool} {drawn : Uuid} :
      server.phase = .selecting → server.running = true → server.endpoint = some endpoint →
      readFrom (readCommand base64 fd) endpoint.incoming = .returned command rest →
      Step server (.commands command written drawn)
        ((server.withEndpoint (endpoint.consume command rest)).resume
          (handle server.state written drawn.bytes command))
  -- a `std::runtime_error`
  | readThrows {server : HtmServer} {endpoint : HtmEndpoint} {what : String} :
      server.phase = .selecting → server.running = true → server.endpoint = some endpoint →
      readFrom (readCommand base64 fd) endpoint.incoming = .raised (.runtimeError what) →
      Step server .readThrows (server.withPhase .catching)
  -- the rest of the message will not come
  | readFails {server : HtmServer} {endpoint : HtmEndpoint} :
      server.phase = .selecting → server.running = true → server.endpoint = some endpoint →
      readFrom (readCommand base64 fd) endpoint.incoming = .waits → endpoint.hungUp = true →
      Step server .readThrows (server.withPhase .catching)
  -- a `std::length_error`
  | lengthError {server : HtmServer} {endpoint : HtmEndpoint} {exn : Exn} :
      server.phase = .selecting → server.running = true → server.endpoint = some endpoint →
      readFrom (readCommand base64 fd) endpoint.incoming = .raised exn →
      (∀ what, exn ≠ .runtimeError what) →
      Step server .malformed (server.withPhase .terminated)
  | unknownHeader {server : HtmServer} {endpoint : HtmEndpoint} {message : String} :
      server.phase = .selecting → server.running = true → server.endpoint = some endpoint →
      readFrom (readCommand base64 fd) endpoint.incoming = .aborted message →
      Step server .malformed (server.withPhase .terminated)
  | updates {server : HtmServer} {endpoint : HtmEndpoint}
      {poll : Bytes → TerminalHandler.Poll} {taken : MultiplexerState.Message → Bool} :
      server.phase = .updating → server.endpoint = some endpoint →
      (endpoint.hungUp = true → ∀ message, taken message = false) →
      Step server (.updates poll taken) (server.update endpoint poll taken)
  | closes {server : HtmServer} {endpoint : HtmEndpoint} :
      server.phase = .detaching ∨ server.phase = .catching →
      server.endpoint = some endpoint → endpoint.hungUp = false →
      Step server .closes (server.detach .selecting)
  | closeThrows {server : HtmServer} :
      server.phase = .detaching → Step server .closeFails (server.withPhase .catching)
  | closeFails {server : HtmServer} :
      server.phase = .catching → Step server .closeFails (server.withPhase .terminated)
  | returns {server : HtmServer} {endpoint : HtmEndpoint} :
      server.phase = .selecting → server.running = false →
      server.endpoint = some endpoint → endpoint.hungUp = false →
      Step server .returns (server.detach .finished)
  -- a last `closeEndpoint` that throws, or that has no endpoint
  | returnFails {server : HtmServer} :
      server.phase = .selecting → server.running = false →
      Step server .returnFails (server.withPhase .terminated)

def system : TransitionSystem HtmServer HtmEvent where
  initial server := ∃ tabId paneId : Uuid, server = create tabId paneId
  step := Step base64 fd jsonString greetings

end

def sampleSystem : TransitionSystem HtmServer HtmEvent :=
  system Base64.standard 3 (fun _ => []) ⟨[], []⟩

def sampleServer : HtmServer :=
  create (MultiplexerState.sampleId 0) (MultiplexerState.sampleId 1)

def firstClient : HtmServer :=
  sampleServer.accept (recover (fun _ => []) ⟨[], []⟩ sampleServer.state)

def firstEndpoint : HtmEndpoint :=
  { incoming := []
    hungUp := false
    arrived := []
    executed := []
    sent := recover (fun _ => []) ⟨[], []⟩ sampleServer.state
    before := fun _ => [] }

theorem firstClient_reached {allowed : HtmServer → HtmEvent → Prop}
    (mayAccept : allowed sampleServer .accepts) : sampleSystem.ReachableBy allowed firstClient :=
  .next (.start ⟨_, _, rfl⟩) mayAccept (.accepts rfl rfl rfl)

end HtmServer

end EternalTerminal
