/-
`HtmClient::run`: between a user's terminal and `htmd`.

A client is followed from before `htmd` accepts it, and for as long as `htmd` serves it.  What
either of the two has put on the socket waits there for the other.
-/

import EternalTerminal.Library.Conveyor
import EternalTerminal.Htm.HtmWire

namespace EternalTerminal

open Library

/-! ### The client -/

inductive HtmClientPhase where
  | running
  | returned
  | threw
  deriving DecidableEq

/-- `typed` is what has been read from the standard input, `written` what of it has been put on the
socket, `received` what has been read from the socket, and `printing` and `shown` what of the last
read is still to be written to the standard output and what has been written to it. -/
structure HtmClient where
  phase : HtmClientPhase
  typed : Bytes
  written : Bytes
  received : Bytes
  printing : Bytes
  shown : Bytes

namespace HtmClient

def BUF_SIZE : Nat := 1024

def start : HtmClient :=
  { phase := .running
    typed := []
    written := []
    received := []
    printing := []
    shown := [] }

def Selects (client : HtmClient) : Prop := client.phase = .running ∧ client.printing = []

def type (client : HtmClient) (write : SocketWrite) : HtmClient :=
  { client with
    typed := client.typed ++ write.buffer
    written := client.written ++ write.handed }

/-- A read of a lone `SESSION_END` ends `run`. -/
def receive (client : HtmClient) (buf : Bytes) : HtmClient :=
  if buf = [SESSION_END] then
    { client with
      phase := .returned
      received := client.received ++ buf }
  else
    { client with
      received := client.received ++ buf
      printing := buf }

def print (client : HtmClient) (bytes rest : Bytes) : HtmClient :=
  { client with
    printing := rest
    shown := client.shown ++ bytes }

def fail (client : HtmClient) : HtmClient := { client with phase := .threw }

end HtmClient

/-! ### The client and the server -/

/-- `outbound` is on the socket for `htmd`, `inbound` for the client. -/
structure HtmPair where
  wire : HtmWire
  client : HtmClient
  outbound : Bytes
  inbound : Bytes

inductive HtmPairEvent where
  | serves (event : HtmWireEvent)
  | arrives (bytes : Bytes)
  | types (write : SocketWrite)
  | typeThrows (write : SocketWrite)
  | reads (buf : Bytes)
  | prints (bytes : Bytes)
  | throws
  | exits

def HtmEvent.Own : HtmEvent → Prop
  | .arrives _ | .hangsUp => False
  | _ => True

namespace HtmPair

def withEndpoint (pair : HtmPair) (endpoint : HtmEndpoint) : HtmPair :=
  { pair with wire := { pair.wire with server := pair.wire.server.withEndpoint endpoint } }

section

variable (base64 : Base64) (fd : Fd) (jsonString : MultiplexerState → Bytes)
  (greetings : HtmServer.Greetings)

inductive Step : HtmPair → HtmPairEvent → HtmPair → Prop
  | serves {pair : HtmPair} {event : HtmWireEvent} {after : HtmWire} :
      event.event.Own → HtmWire.Step base64 fd jsonString greetings pair.wire event after →
      after.server.Served →
      Step pair (.serves event)
        { pair with
          wire := after
          inbound := pair.inbound ++ event.out }
  | arrives {pair : HtmPair} {endpoint : HtmEndpoint} {bytes rest : Bytes} :
      pair.wire.server.endpoint = some endpoint → endpoint.hungUp = false →
      pair.outbound = bytes ++ rest →
      Step pair (.arrives bytes)
        { pair.withEndpoint (endpoint.receive bytes) with outbound := rest }
  | types {pair : HtmPair} {write : SocketWrite} :
      pair.client.Selects → write.buffer ≠ [] → write.buffer.length ≤ HtmClient.BUF_SIZE →
      write.Returns →
      Step pair (.types write)
        { pair with
          client := pair.client.type write
          outbound := pair.outbound ++ write.handed }
  | typeThrows {pair : HtmPair} {write : SocketWrite} :
      pair.client.Selects → write.buffer ≠ [] → write.buffer.length ≤ HtmClient.BUF_SIZE →
      write.Throws →
      Step pair (.typeThrows write)
        { pair with
          client := (pair.client.type write).fail
          outbound := pair.outbound ++ write.handed }
  | reads {pair : HtmPair} {buf rest : Bytes} :
      pair.client.Selects → pair.inbound = buf ++ rest → buf ≠ [] →
      buf.length ≤ HtmClient.BUF_SIZE →
      Step pair (.reads buf)
        { pair with
          client := pair.client.receive buf
          inbound := rest }
  -- one `write` to the standard output, which takes what it takes
  | prints {pair : HtmPair} {bytes rest : Bytes} :
      pair.client.phase = .running → pair.client.printing = bytes ++ rest → bytes ≠ [] →
      Step pair (.prints bytes) { pair with client := pair.client.print bytes rest }
  -- the standard input is closed, or a call fails
  | throws {pair : HtmPair} :
      pair.client.phase = .running →
      Step pair .throws { pair with client := pair.client.fail }
  -- the descriptor goes with the process
  | exits {pair : HtmPair} {endpoint : HtmEndpoint} :
      pair.client.phase ≠ .running → pair.wire.server.endpoint = some endpoint →
      endpoint.hungUp = false →
      Step pair .exits (pair.withEndpoint endpoint.hangUp)

/-- A client that has connected to an `htmd` that serves nobody. -/
structure Connected (pair : HtmPair) : Prop where
  reached : (HtmWire.system base64 fd jsonString greetings).Reachable pair.wire
  detached : pair.wire.server.endpoint = none
  client : pair.client = HtmClient.start
  outbound : pair.outbound = []
  inbound : pair.inbound = []

def system : TransitionSystem HtmPair HtmPairEvent where
  initial := Connected base64 fd jsonString greetings
  step := Step base64 fd jsonString greetings

end

/-- Nothing is put out after a `write` that gave up with a part of its buffer out. -/
def WritesOnce (_ : HtmPair) : HtmPairEvent → Prop
  | .serves event => event.Once
  | .types write | .typeThrows write => write.Once
  | _ => True

variable {base64 : Base64} {fd : Fd} {jsonString : MultiplexerState → Bytes}
  {greetings : HtmServer.Greetings} {pair : HtmPair} {endpoint : HtmEndpoint}
  {allowed : HtmPair → HtmPairEvent → Prop}

theorem reachable_server
    (reached : (system base64 fd jsonString greetings).ReachableBy allowed pair) :
    (HtmServer.system base64 fd jsonString greetings).Reachable pair.wire.server := by
  induction reached with
  | start initial => exact HtmWire.reachable_server (fun _ _ _ => trivial) initial.reached
  | next _ _ step ih =>
      cases step with
      | serves _ step _ => exact ih.next step.server
      | arrives attached isHere _ => exact ih.next (.arrives attached isHere)
      | types | typeThrows | reads | prints | throws => exact ih
      | exits _ attached isHere => exact ih.next (.hangsUp attached isHere)

/-! ### What the two have of each other -/

/-- What has arrived at `htmd`. -/
def arrived (pair : HtmPair) : Bytes :=
  match pair.wire.server.endpoint with
  | none => []
  | some endpoint => endpoint.arrived

/-- What `htmd` has written for the client. -/
def told (base64 : Base64) (pair : HtmPair) : Bytes :=
  match pair.wire.server.endpoint with
  | none => []
  | some endpoint => endpoint.wire base64

theorem arrived_eq (attached : pair.wire.server.endpoint = some endpoint) :
    pair.arrived = endpoint.arrived := by
  rw [arrived, attached]

theorem told_eq (attached : pair.wire.server.endpoint = some endpoint) :
    pair.told base64 = endpoint.wire base64 := by
  rw [told, attached]

/-- The stages between the standard input and `htmd`, and between `htmd` and the standard
output. -/
structure Paired (base64 : Base64) (pair : HtmPair) : Prop where
  typed : Conveys (pair.client.phase = .threw) pair.client.typed [] pair.client.written
  written : Conveys False pair.client.written pair.outbound pair.arrived
  told : Conveys False (pair.told base64) pair.inbound pair.client.received
  received : Conveys (pair.client.phase ≠ .running) pair.client.received pair.client.printing
    pair.client.shown

/-- The server's own steps take nothing from the socket into what has arrived. -/
theorem own_arrived {before after : HtmServer} {event : HtmEvent} {endpointAfter : HtmEndpoint}
    (own : event.Own) (step : HtmServer.Step base64 fd jsonString greetings before event after)
    (attached : before.endpoint = some endpoint)
    (attachedAfter : after.endpoint = some endpointAfter) :
    endpointAfter.arrived = endpoint.arrived := by
  have same {server : HtmServer} (isBefore : server.endpoint = before.endpoint)
      (isAfter : server.endpoint = some endpointAfter) :
      endpointAfter.arrived = endpoint.arrived := by
    cases isAfter.symm.trans (isBefore.trans attached)
    rfl
  cases step with
  | arrives | hangsUp => exact own.elim
  | accepts _ _ detached => cases attached.symm.trans detached
  | commands _ _ isAttached _ =>
      rw [HtmServer.resume_endpoint] at attachedAfter
      cases attached.symm.trans isAttached
      cases attachedAfter
      rfl
  | updates _ isAttached _ =>
      cases attached.symm.trans isAttached
      unfold HtmServer.update at attachedAfter
      split at attachedAfter
      · exact same rfl attachedAfter
      · cases attachedAfter
        rfl
  | closes | returns => cases attachedAfter
  | acceptFails | idles | readThrows | readFails | lengthError | unknownHeader | closeThrows
  | closeFails | returnFails => exact same rfl attachedAfter

namespace Paired

variable {event : HtmPairEvent} {after : HtmPair} {client : HtmClient}

theorem start (connected : Connected base64 fd jsonString greetings pair) : Paired base64 pair := by
  obtain ⟨wire, _, _, _⟩ := pair
  obtain ⟨_, detached, rfl, rfl, rfl⟩ := connected
  have nothing : HtmPair.arrived ⟨wire, HtmClient.start, [], []⟩ = [] := by
    rw [arrived, detached]
  have untold : HtmPair.told base64 ⟨wire, HtmClient.start, [], []⟩ = [] := by
    rw [HtmPair.told, detached]
  refine ⟨.start _, ?_, ?_, .start _⟩
  · rw [nothing]
    exact .start _
  · rw [untold]
    exact .start _

theorem serves {event : HtmWireEvent} {wire : HtmWire} (paired : Paired base64 pair)
    (own : event.event.Own) (once : event.Once)
    (step : HtmWire.Step base64 fd jsonString greetings pair.wire event wire)
    (served : wire.server.Served) :
    Paired base64 { pair with
      wire := wire
      inbound := pair.inbound ++ event.out } := by
  obtain ⟨endpoint, attached⟩ := Option.isSome_iff_exists.mp served.1
  let pairAfter := { pair with
    wire := wire
    inbound := pair.inbound ++ event.out }
  have isArrived : pairAfter.arrived = endpoint.arrived := arrived_eq attached
  have isTold : pairAfter.told base64 = endpoint.wire base64 := told_eq attached
  have same : pairAfter.arrived = pair.arrived ∧
      pairAfter.told base64 = pair.told base64 ++ event.out := by
    cases step.tells once attached served.2 with
    | attaches detached noneArrived isWire _ =>
        rw [isArrived, isTold, noneArrived, isWire, arrived, HtmPair.told, detached]
        exact ⟨rfl, rfl⟩
    | goesOn wasAttached _ isWire _ =>
        rw [isArrived, isTold, isWire, arrived_eq wasAttached, told_eq wasAttached]
        exact ⟨own_arrived own step.server wasAttached attached, rfl⟩
  refine ⟨paired.typed, ?_, ?_, paired.received⟩
  · rw [same.1]
    exact paired.written
  · rw [same.2]
    exact paired.told.takes event.out

theorem arrives {bytes rest : Bytes} (paired : Paired base64 pair)
    (attached : pair.wire.server.endpoint = some endpoint)
    (outbound : pair.outbound = bytes ++ rest) :
    Paired base64 { pair.withEndpoint (endpoint.receive bytes) with outbound := rest } := by
  have written := paired.written
  rw [outbound, arrived_eq attached] at written
  have told := paired.told
  rw [told_eq attached] at told
  exact ⟨paired.typed, written.gives not_false, told, paired.received⟩

theorem types {write : SocketWrite} (paired : Paired base64 pair) (selects : pair.client.Selects)
    (once : write.Once) (returns : write.Returns) :
    Paired base64 { pair with
      client := pair.client.type write
      outbound := pair.outbound ++ write.handed } := by
  have kept : ¬ pair.client.phase = .threw := fun threw => nomatch selects.1.symm.trans threw
  have held : Conveys (pair.client.phase = .threw) (pair.client.typed ++ write.buffer)
      (write.buffer ++ []) pair.client.written := by
    rw [List.append_nil]
    exact paired.typed.takes write.buffer
  refine ⟨?_, paired.written.takes write.handed, paired.told, paired.received⟩
  show Conveys _ _ _ (pair.client.written ++ write.handed)
  rw [once.handed_eq returns]
  exact held.gives kept

theorem typeThrows {write : SocketWrite} (paired : Paired base64 pair)
    (selects : pair.client.Selects) (once : write.Once) :
    Paired base64 { pair with
      client := (pair.client.type write).fail
      outbound := pair.outbound ++ write.handed } := by
  have whole := paired.typed.whole fun threw => nomatch selects.1.symm.trans threw
  rw [List.append_nil] at whole
  have ordered : pair.client.written ++ write.handed <+: pair.client.typed ++ write.buffer := by
    rw [whole]
    exact (List.prefix_append_right_inj _).mpr once.handed_prefix
  exact ⟨⟨ordered, fun kept => absurd rfl kept⟩, paired.written.takes write.handed, paired.told,
    paired.received.weaken fun stopped => absurd selects.1 stopped⟩

theorem reads {buf rest : Bytes} (paired : Paired base64 pair) (selects : pair.client.Selects)
    (inbound : pair.inbound = buf ++ rest) :
    Paired base64 { pair with
      client := pair.client.receive buf
      inbound := rest } := by
  have told := paired.told
  rw [inbound] at told
  have received := paired.received.takes buf
  rw [selects.2, List.nil_append] at received
  have running {other : HtmClientPhase} (isOther : pair.client.phase = other)
      (differs : other ≠ .running) : False := differs (isOther.symm.trans selects.1)
  unfold HtmClient.receive
  by_cases isEnd : buf = [SESSION_END]
  · rw [if_pos isEnd]
    exact ⟨paired.typed.weaken fun threw => (running threw nofun).elim, paired.written,
      told.gives not_false, received.loses nofun _⟩
  · rw [if_neg isEnd]
    exact ⟨paired.typed, paired.written, told.gives not_false, received⟩

theorem prints {bytes rest : Bytes} (paired : Paired base64 pair)
    (running : pair.client.phase = .running) (printing : pair.client.printing = bytes ++ rest) :
    Paired base64 { pair with client := pair.client.print bytes rest } := by
  have received := paired.received
  rw [printing] at received
  exact ⟨paired.typed, paired.written, paired.told, received.gives (not_not.mpr running)⟩

theorem throws (paired : Paired base64 pair) (running : pair.client.phase = .running) :
    Paired base64 { pair with client := pair.client.fail } :=
  ⟨paired.typed.weaken fun _ => rfl, paired.written, paired.told,
    paired.received.weaken fun stopped => absurd running stopped⟩

theorem exits (paired : Paired base64 pair) (attached : pair.wire.server.endpoint = some endpoint) :
    Paired base64 (pair.withEndpoint endpoint.hangUp) := by
  have written := paired.written
  rw [arrived_eq attached] at written
  have told := paired.told
  rw [told_eq attached] at told
  exact ⟨paired.typed, written, told, paired.received⟩

theorem step (paired : Paired base64 pair) (once : pair.WritesOnce event)
    (step : Step base64 fd jsonString greetings pair event after) : Paired base64 after := by
  cases step with
  | serves own step served => exact paired.serves own once step served
  | arrives attached _ outbound => exact paired.arrives attached outbound
  | types selects _ _ returns => exact paired.types selects once returns
  | typeThrows selects _ _ _ => exact paired.typeThrows selects once
  | reads selects inbound _ _ => exact paired.reads selects inbound
  | prints running printing _ => exact paired.prints running printing
  | throws running => exact paired.throws running
  | exits _ attached _ => exact paired.exits attached

end Paired

theorem reachable_paired
    (reached : (system base64 fd jsonString greetings).ReachableBy WritesOnce pair) :
    Paired base64 pair :=
  reached.invariant (fun _ connected => .start connected)
    fun _ _ _ paired once step => paired.step once step

/-- While `htmd` serves a client, what the user types reaches it as typed and whole messages of it
are carried out in order; what the user's terminal is shown is the beginning of what `htmd` has
sent, and whole messages of it are the first that `htmd` has sent. -/
theorem client_relays
    (reached : (system base64 fd jsonString greetings).ReachableBy WritesOnce pair)
    (attached : pair.wire.server.endpoint = some endpoint) :
    (endpoint.arrived <+: pair.client.typed ∧
      (pair.client.phase ≠ .threw → endpoint.arrived ++ pair.outbound = pair.client.typed)) ∧
    (∀ commands : List HtmCommand, (∀ command ∈ commands, command.Fits base64) →
      pair.client.typed <+: commands.flatMap (HtmCommand.frame base64) →
      endpoint.executed <+: commands ∧ endpoint.arrived =
        endpoint.executed.flatMap (HtmCommand.frame base64) ++ endpoint.incoming) ∧
    (pair.client.shown <+: HTM_ESCAPE ++ endpoint.sent.flatMap (HtmMessage.frame base64) ∧
      (pair.client.phase = .running →
        pair.client.shown ++ (pair.client.printing ++ pair.inbound) =
          HTM_ESCAPE ++ endpoint.sent.flatMap (HtmMessage.frame base64))) ∧
    ∀ messages : List HtmMessage, (∀ message ∈ messages, message.Fits base64) →
      (∀ message ∈ endpoint.sent, message.Fits base64) →
      HTM_ESCAPE ++ messages.flatMap (HtmMessage.frame base64) <+: pair.client.shown →
      messages <+: endpoint.sent := by
  have paired := reachable_paired reached
  have input := paired.typed.through paired.written
  rw [List.append_nil, arrived_eq attached] at input
  have output := paired.told.through paired.received
  rw [told_eq attached] at output
  refine ⟨⟨input.ordered, fun whole => input.whole ?_⟩, ?_, ⟨output.ordered, fun running => ?_⟩, ?_⟩
  · exact not_or.mpr ⟨whole, not_false⟩
  · intro commands fits typed
    have consumed := HtmServer.reachable_consumed (reachable_server reached) attached
    exact consumed.frames fits (input.ordered.trans typed)
  · exact output.whole (not_or.mpr ⟨not_false, not_not.mpr running⟩)
  · intro messages fits sentFits shown
    have both := shown.trans output.ordered
    exact HtmMessage.frames_prefix fits sentFits ((List.prefix_append_right_inj _).mp both)

/-! ### A client that types while it is told -/

def sampleSystem : TransitionSystem HtmPair HtmPairEvent :=
  system Base64.standard 3 (fun _ => []) ⟨[], []⟩

/-- A key in the debug pane and the first byte of another.  The first `write` gives up before
anything is out. -/
def keys : SocketWrite :=
  { buffer := (HtmCommand.insertDebugKeys [100]).frame Base64.standard ++ [INSERT_DEBUG_KEYS]
    startTime := 0
    calls := [
      { currentTime := 0
        active := true
        startTime := 0
        rounds := [⟨.failed .eagain, 6⟩] },
      SocketWrite.directCall 11] }

/-- The writes of `recover`. -/
def greeting : List SocketWrite :=
  (HTM_ESCAPE :: (HtmServer.recover (fun _ => []) ⟨[], []⟩ HtmServer.sampleServer.state).flatMap
    (HtmMessage.buffers Base64.standard)).map SocketWrite.direct

theorem client_relays_key : ∃ pair endpoint,
    sampleSystem.ReachableBy WritesOnce pair ∧ pair.wire.server.endpoint = some endpoint ∧
    endpoint.executed = [.insertDebugKeys [100]] ∧ pair.outbound = [INSERT_DEBUG_KEYS] ∧
    pair.client.shown = HTM_ESCAPE ++ (HtmMessage.debugLog []).frame Base64.standard ∧
    pair.client.printing = [INIT_STATE] ∧
    endpoint.arrived ++ pair.outbound = pair.client.typed ∧
    (endpoint.executed <+: [.insertDebugKeys [100], .insertDebugKeys [120]] ∧
      endpoint.arrived = endpoint.executed.flatMap (HtmCommand.frame Base64.standard) ++
        endpoint.incoming) ∧
    pair.client.shown ++ (pair.client.printing ++ pair.inbound) =
      HTM_ESCAPE ++ endpoint.sent.flatMap (HtmMessage.frame Base64.standard) ∧
    [.debugLog []] <+: endpoint.sent := by
  have fits (byte : UInt8) : (HtmCommand.insertDebugKeys [byte]).Fits Base64.standard :=
    ⟨nofun, show IsInt 1 by decide, nofun⟩
  have debugFits : (HtmMessage.debugLog []).Fits Base64.standard :=
    ⟨show IsInt 0 by decide, fun _ _ isPane => HtmMessage.noConfusion isPane⟩
  have stateFits : (HtmMessage.initState []).Fits Base64.standard :=
    ⟨show IsInt 0 by decide, fun _ _ isPane => HtmMessage.noConfusion isPane⟩
  have start : sampleSystem.ReachableBy WritesOnce
      ⟨⟨HtmServer.sampleServer, []⟩, HtmClient.start, [], []⟩ :=
    .start ⟨.start ⟨⟨_, _, rfl⟩, rfl⟩, rfl, rfl, rfl, rfl⟩
  have attached := start.take (.serves ⟨.accepts, greeting⟩) (once_direct _ (by decide +kernel))
    (.serves trivial (.accepts (.accepts rfl rfl rfl) (written_direct _)) ⟨rfl, .inl rfl⟩)
  have keysOnce : keys.Once := .inr ⟨by decide +kernel, .inl (by decide +kernel)⟩
  have typed := attached.take (.types keys) keysOnce (.types ⟨rfl, rfl⟩ (by decide) (by decide) rfl)
  have part := typed.take (.arrives (keys.buffer.take 4)) trivial (.arrives rfl rfl
    (show [] ++ keys.handed = keys.buffer.take 4 ++ keys.buffer.drop 4 by decide +kernel))
  have whole := part.take (.arrives ((keys.buffer.drop 4).take 6)) trivial (.arrives rfl rfl
    (show keys.buffer.drop 4 = (keys.buffer.drop 4).take 6 ++ [INSERT_DEBUG_KEYS] by
      decide +kernel))
  have read : readFrom (HtmServer.readCommand Base64.standard 3)
      ([] ++ keys.buffer.take 4 ++ (keys.buffer.drop 4).take 6) =
        .returned (.insertDebugKeys [100]) [] := by
    have isFrame : [] ++ keys.buffer.take 4 ++ (keys.buffer.drop 4).take 6 =
        (HtmCommand.insertDebugKeys [100]).frame Base64.standard ++ [] := by decide +kernel
    rw [isFrame]
    exact HtmServer.readCommand_frame (fits 100) []
  have executed := whole.take
    (.serves ⟨.commands (.insertDebugKeys [100]) true (MultiplexerState.sampleId 9), []⟩)
    (once_direct _ (List.forall_mem_nil _))
    (.serves trivial (.silent trivial (.commands rfl rfl rfl read)) ⟨rfl, .inr (.inl rfl)⟩)
  have told := executed.take
    (.reads (HTM_ESCAPE ++ ((HtmMessage.debugLog []).frame Base64.standard ++ [INIT_STATE])))
    trivial (.reads ⟨rfl, rfl⟩
      (show ([] ++ greeting.flatMap SocketWrite.handed) ++ [] = _ ++
        (Base64.standard.int 0 ++ (HtmMessage.debugLog []).frame Base64.standard) by
        decide +kernel) (by decide) (by decide +kernel))
  have shown := told.take
    (.prints (HTM_ESCAPE ++ (HtmMessage.debugLog []).frame Base64.standard)) trivial
    (.prints rfl (show _ = _ ++ [INIT_STATE] by decide +kernel) (by decide))
  obtain ⟨⟨_, whole⟩, input, ⟨_, output⟩, first⟩ := client_relays shown rfl
  refine ⟨_, _, shown, rfl, rfl, rfl, rfl, rfl, whole (by decide), input _ ?_ ?_, output rfl,
    first _ ?_ ?_ ?_⟩
  · intro command member
    simp only [List.mem_cons, List.not_mem_nil, or_false] at member
    rcases member with rfl | rfl
    · exact fits 100
    · exact fits 120
  · decide +kernel
  · intro message member
    obtain rfl := List.mem_singleton.mp member
    exact debugFits
  · intro message member
    change message ∈ [.debugLog [], .initState [], .debugLog []] at member
    simp only [List.mem_cons, List.not_mem_nil, or_false] at member
    rcases member with rfl | rfl | rfl
    · exact debugFits
    · exact stateFits
    · exact debugFits
  · decide +kernel

end HtmPair

end EternalTerminal
