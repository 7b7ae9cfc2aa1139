/-
The port forward handlers of a terminal session.

The packets of the two handlers go through the session, among the others and over every
reconnection; to the handlers it is as if two queues lay between them.
-/

import EternalTerminal.Terminal.TerminalIntegrity
import EternalTerminal.Terminal.TunnelMessages
import EternalTerminal.Terminal.TunnelStreams

namespace EternalTerminal

open Library

/-! ### A handler as a forwarder -/

/-- The connection for which a packet asks the other end to connect. -/
def TunnelPacket.requester : TunnelPacket → Option Nat
  | .destinationRequest pfdr => some pfdr.connection
  | .destinationResponse _ | .data _ => none

/-- The number and the id of the connection that was opened for a request, if there is one. -/
def TunnelPacket.served (opened : List (Multiplexer.Opening Int)) :
    TunnelPacket → List (Option (Nat × Int))
  | .destinationRequest _ =>
      [opened.head?.map fun opening => (opening.destination, opening.id)]
  | .destinationResponse _ | .data _ => []

/-- `requested` and `served` are for the record: the connections for which this end has asked
the other end to connect, and what came of each request that this end has handled. -/
structure PortForwards where
  peer : TunnelPeer
  requested : List Nat
  served : List (Option (Nat × Int))

namespace PortForwards

def issued (forwards : PortForwards) : List Int :=
  forwards.served.filterMap fun served => served.map Prod.snd

/-- The requests in the order of their sending with what came of them in the order of their
handling. -/
def pairings (sources : List Nat) (served : List (Option (Nat × Int))) :
    List (Multiplexer.Opening Int) :=
  (sources.zip served).filterMap fun request => request.2.map fun opened =>
    { source := request.1
      destination := opened.1
      id := opened.2 }

/-- The connections that `here` has opened: that of the n-th request it has handled is for the
n-th that `there` has sent. -/
def openings (here there : PortForwards) : List (Multiplexer.Opening Int) :=
  pairings there.requested here.served

theorem pairings_append {sources : List Nat} {served : List (Option (Nat × Int))}
    (same : sources.length = served.length) (more : List Nat)
    (moreServed : List (Option (Nat × Int))) :
    pairings (sources ++ more) (served ++ moreServed) =
      pairings sources served ++ pairings more moreServed := by
  rw [pairings, List.zip_append same, List.filterMap_append]
  rfl

theorem pairings_pending {sources : List Nat} {served : List (Option (Nat × Int))}
    (same : sources.length = served.length) (pending : List Nat) :
    pairings (sources ++ pending) served = pairings sources served := by
  have split := pairings_append same pending []
  rw [List.append_nil] at split
  rw [split]
  simp [pairings]

/-- The ids that have been given are those of the connections, if each request was sent. -/
theorem pairings_ids {sources : List Nat} {served : List (Option (Nat × Int))}
    (same : sources.length = served.length) :
    (pairings sources served).map Multiplexer.Opening.id =
      served.filterMap fun served => served.map Prod.snd := by
  have second : (sources.zip served).map Prod.snd = served :=
    List.map_snd_zip (le_of_eq same.symm)
  calc (pairings sources served).map Multiplexer.Opening.id
      = (sources.zip served).filterMap fun request => request.2.map Prod.snd := by
        rw [pairings, List.map_filterMap]
        simp only [Option.map_map]
        rfl
    _ = ((sources.zip served).map Prod.snd).filterMap fun served => served.map Prod.snd := by
        rw [List.filterMap_map]
        rfl
    _ = served.filterMap fun served => served.map Prod.snd := by rw [second]

variable (strerror : Errno → Bytes)

/-- `update`, and the packets that the loop writes afterwards. -/
def Updates (before : PortForwards) (packets : List Packet) (after : PortForwards) : Prop :=
  ∃ answers : UpdateAnswers,
    (∀ (index : Nat) (source : ForwardSourceHandler),
      before.peer.handler.sourceHandlers[index]? = some source →
        Tunnels.Walks (answers.socketOrder index) source.socketFdMap) ∧
    Tunnels.Walks answers.destinationOrder before.peer.handler.destinationHandlers ∧
    ∃ handler table tunnels,
      before.peer.handler.update answers before.peer.table = (handler, table, tunnels) ∧
        (∀ tunnel ∈ tunnels, TunnelPacket.Fits tunnel) ∧
          packets = tunnels.map (TunnelPacket.packet strerror) ∧
            after =
              { before with
                peer := { handler := handler, table := table }
                requested := before.requested ++ tunnels.filterMap TunnelPacket.requester }

/-- `handlePacket`, and the packet that it writes.  `rand` does not give an id again. -/
def HandlesPacket (before : PortForwards) (packet : Packet) (answerPackets : List Packet)
    (after : PortForwards) : Prop :=
  ∃ (answers : PacketAnswers) (tunnel : TunnelPacket),
    packet.tunnelPacket? = some tunnel ∧ (∀ id ∈ before.issued, id ≠ answers.rand 0) ∧
      ∃ handler table tunnels opened,
        before.peer.handler.handlePacket answers before.peer.table tunnel =
            (handler, table, tunnels, opened) ∧
          (∀ tunnel ∈ tunnels, TunnelPacket.Fits tunnel) ∧
            answerPackets = tunnels.map (TunnelPacket.packet strerror) ∧
              after =
                { before with
                  peer := { handler := handler, table := table }
                  served := before.served ++ tunnel.served opened }

end PortForwards

/-- A request of which the connection is not seen opens for it all the same. -/
theorem PortForwardHandler.handlePacket_opened (handler : PortForwardHandler)
    (answers : PacketAnswers) (table : DescriptorTable) (tunnel : TunnelPacket) :
    let seen := handler.handlePacket answers table tunnel.seen
    let served := tunnel.seen.served seen.2.2.2
    (handler.handlePacket answers table tunnel).2.2.2 =
        PortForwards.pairings tunnel.requester.toList served ∧
      tunnel.requester.toList.length = served.length := by
  cases tunnel with
  | destinationRequest pfdr =>
      refine ⟨?_, rfl⟩
      simp only [TunnelPacket.seen, handlePacket, createDestination]
      cases connectDestination answers table pfdr.destination with
      | none => rfl
      | some fd =>
          cases emptySocketId handler.destinationHandlers answers.rand 100000 0 with
          | none | some socketId => rfl
  | destinationResponse pfdr =>
      obtain ⟨clientfd, result⟩ := pfdr
      cases result with
      | ok socketid | error what => exact ⟨rfl, rfl⟩
  | data pwd => exact ⟨rfl, rfl⟩

theorem PortForwardHandler.handlePacket_requester (handler : PortForwardHandler)
    (answers : PacketAnswers) (table : DescriptorTable) (tunnel : TunnelPacket) :
    (handler.handlePacket answers table tunnel).2.2.1.filterMap TunnelPacket.requester = [] := by
  cases tunnel with
  | destinationRequest pfdr => rfl
  | destinationResponse pfdr =>
      obtain ⟨clientfd, result⟩ := pfdr
      cases result with
      | ok socketid | error what => rfl
  | data pwd => rfl

def Forwarder.portForward (strerror : Errno → Bytes) : Forwarder where
  State := PortForwards
  initial state := ∃ sources, state =
    { peer := { handler := .listening sources, table := .unused }
      requested := []
      served := [] }
  update := PortForwards.Updates strerror
  handlePacket := PortForwards.HandlesPacket strerror
  update_forwards := by
    intro before packets after updates packet member
    obtain ⟨_, _, _, _, _, tunnels, _, _, rfl, _⟩ := updates
    obtain ⟨tunnel, _, rfl⟩ := List.mem_map.mp member
    exact tunnel.packet_isForward
  handlePacket_forwards := by
    intro before received packets after handles packet member
    obtain ⟨_, _, _, _, _, _, tunnels, _, _, _, rfl, _⟩ := handles
    obtain ⟨tunnel, _, rfl⟩ := List.mem_map.mp member
    exact tunnel.packet_isForward

/-! ### What a thread does with its forwarder -/

def forwards (packets : List Packet) : List Packet := packets.filter Packet.isForward

section

variable (packets more : List Packet)

@[simp] theorem forwards_append :
    forwards (packets ++ more) = forwards packets ++ forwards more :=
  List.filter_append ..

theorem forwards_all {packets : List Packet}
    (all : ∀ packet ∈ packets, packet.isForward = true) : forwards packets = packets :=
  List.filter_eq_self.mpr all

theorem forwards_none {packet : Packet} (other : packet.isForward = false) :
    forwards [packet] = [] :=
  List.filter_cons_of_neg (by simp [other])

theorem isForward_payload {packet : Packet} (isPayload : packet.header = INITIAL_PAYLOAD) :
    packet.isForward = false := by
  rw [Packet.isForward, isPayload]
  rfl

theorem isForward_response {packet : Packet} (isResponse : packet.header = INITIAL_RESPONSE) :
    packet.isForward = false := by
  rw [Packet.isForward, isResponse]
  rfl

theorem forwards_ordinary : forwards (packets.filter Packet.isOrdinary) = forwards packets := by
  rw [forwards, List.filter_filter]
  apply List.filter_congr
  intro packet _
  cases ordinary : packet.isOrdinary with
  | true => exact Bool.and_true _
  | false =>
      have header : packet.header = INITIAL_PAYLOAD ∨ packet.header = INITIAL_RESPONSE := by
        by_contra neither
        simp [Packet.isOrdinary, not_or.mp neither] at ordinary
      rcases header with isPayload | isResponse
      · rw [isForward_payload isPayload]
        rfl
      · rw [isForward_response isResponse]
        rfl

end

/-- What a step of a thread is to its forwarder, when it reads and comes to write these packets.
A thread that aborts may have read something that it does not pass on. -/
inductive ForwarderMoves (forwarder : Forwarder) (before after : forwarder.State)
    (aborted : Prop) (read written : List Packet) : Prop
  | rests : after = before → forwards written = [] → (¬ aborted → forwards read = []) →
      ForwarderMoves forwarder before after aborted read written
  | updates : read = [] → forwarder.update before written after →
      ForwarderMoves forwarder before after aborted read written
  | handles {packet : Packet} : ¬ aborted → read = [packet] → packet.isForward = true →
      forwarder.handlePacket before packet written after →
      ForwarderMoves forwarder before after aborted read written

def Conversation.Adds (before after : Conversation) (written : List Packet) : Prop :=
  ∀ produced, before.Produces produced → after.Produces (produced ++ written)

theorem Conversation.Adds.nothing {before after : Conversation}
    (keeps : ∀ produced, before.Produces produced → after.Produces produced) :
    before.Adds after [] := by
  intro produced produces
  rw [List.append_nil]
  exact keeps produced produces

theorem forwards_terminalPacket (bytes : Bytes) : forwards [terminalPacket bytes] = [] :=
  forwards_none rfl

namespace TerminalClientRun

variable {options : ClientOptions} {forwarder : Forwarder}
  {before after : TerminalClientRun forwarder.State} {call : PacketCall}

theorem forwards_command (options : ClientOptions) : forwards options.commandPackets = [] := by
  unfold ClientOptions.commandPackets
  split
  · rfl
  · exact forwards_terminalPacket _

abbrev Forwards (before : TerminalClientRun forwarder.State) (call : PacketCall)
    (after : TerminalClientRun forwarder.State) : Prop :=
  ∃ written, before.packets.Adds after.packets written ∧
    ForwarderMoves forwarder before.forwarder after.forwarder (after.turn = .aborted) call.read
      written

theorem takeResponse_forwards (idle : before.packets.writing = []) (packet : Packet) :
    before.Forwards (.reads packet) (before.takeResponse options packet) := by
  have read : ∀ turn : ClientTurn, packet.header = INITIAL_RESPONSE →
      before.Forwards (.reads packet)
        { before with
          packets := before.packets.reads packet
          turn := turn } := by
    intro turn isResponse
    exact ⟨[], .nothing fun _ same => same,
      .rests rfl rfl fun _ => forwards_none (isForward_response isResponse)⟩
  by_cases isResponse : packet.header = INITIAL_RESPONSE
  · unfold takeResponse
    dsimp only
    split
    · exact ⟨options.commandPackets, fun produced produces => produces.writes idle _,
        .rests rfl (forwards_command options)
          fun _ => forwards_none (isForward_response isResponse)⟩
    · exact read _ isResponse
    · exact read _ isResponse
    · exact read _ isResponse
  · have aborts : before.takeResponse options packet =
        { before with
          packets := before.packets.reads packet
          turn := .aborted } := by
      rw [takeResponse, HandshakeCaller.takeResponse, if_pos isResponse]
      rfl
    rw [aborts]
    exact ⟨[], .nothing fun _ same => same, .rests rfl rfl fun going => absurd rfl going⟩

theorem takePacket_forwards (packet : Packet) (other : packet.isForward = false) :
    before.Forwards (.reads packet) (before.takePacket options packet) := by
  have silent : forwards [packet] = [] := forwards_none other
  unfold takePacket
  dsimp only
  split
  · split
    · split
      · exact ⟨[], .nothing fun _ same => same, .rests rfl rfl fun _ => silent⟩
      · exact ⟨[], .nothing fun _ same => same, .rests rfl rfl fun _ => silent⟩
    · exact ⟨[], .nothing fun _ same => same, .rests rfl rfl fun _ => silent⟩
  · split
    · exact ⟨[], .nothing fun _ same => same, .rests rfl rfl fun _ => silent⟩
    · exact ⟨[], .nothing fun _ same => same, .rests rfl rfl fun _ => silent⟩

theorem Step.forwards (step : Step options forwarder before call after) :
    before.Forwards call after := by
  cases step with
  | writePacket step =>
      have silent : call.read = [] := by
        cases step with
        | writes _ _ | skips _ _ | drops _ => rfl
      rw [TerminalClientRun.Forwards, silent]
      exact ⟨[], .nothing fun _ produces => step.produces produces, .rests rfl rfl fun _ => rfl⟩
  | response idle _ => exact takeResponse_forwards idle _
  | packet _ _ other => exact takePacket_forwards _ other
  | unanswered idle _ =>
      exact ⟨_, fun _ produces => produces.writes idle _,
        .rests rfl (forwards_command options) fun _ => rfl⟩
  | consoleData idle _ _ _ _ =>
      exact ⟨_, fun _ produces => produces.writes idle _,
        .rests rfl (forwards_terminalPacket _) fun _ => rfl⟩
  | late idle _ _ _ =>
      exact ⟨_, fun _ produces => produces.writes idle _,
        .rests rfl (forwards_none rfl) fun _ => rfl⟩
  | newWindow idle _ _ =>
      exact ⟨_, fun _ produces => produces.writes idle _,
        .rests rfl (forwards_none rfl) fun _ => rfl⟩
  | @forwardPacket packet answers state idle turn isForward handles =>
      have going : before.turn ≠ .aborted := by simp [turn]
      exact ⟨answers, fun _ produces => Conversation.Produces.writes produces idle answers,
        .handles going rfl isForward handles⟩
  | nothingToForward idle _ updates =>
      exact ⟨[], .nothing fun _ same => same, .updates rfl updates⟩
  | update idle _ _ updates =>
      exact ⟨_, fun _ produces => produces.writes idle _, .updates rfl updates⟩
  | ticks _ | resizes | shutdown | waits _ _ | noResponse _ _ | leaves _ _ | enters _ _ _ _
  | consoleIdle _ _ | consoleEnds _ _ _ | typed _ _ | noPacket _ _ | noData _ _ | prints _ _
  | printFails _ _ _ | notLate _ _ _ | disconnected _ _ | missed _ _ _ _ | sameWindow _ _ _
  | forwarded _ _ =>
      exact ⟨[], .nothing fun _ same => same, .rests rfl rfl fun _ => rfl⟩

theorem Step.aborted (step : Step options forwarder before call after)
    (aborted : before.turn = .aborted) : after.turn = .aborted := by
  cases step with
  | ticks _ | resizes | shutdown | writePacket _ => exact aborted
  | waits _ turn | noResponse _ turn | response _ turn | unanswered _ turn | leaves _ turn
  | enters _ turn _ _ | consoleIdle _ turn | consoleData _ turn _ _ _ | consoleEnds _ turn _
  | typed _ turn | forwardPacket _ turn _ _ | packet _ turn _ | noPacket _ turn | noData _ turn
  | prints _ turn | printFails _ turn _ | notLate _ turn _ | disconnected _ turn
  | late _ turn _ _ | missed _ turn _ _ | sameWindow _ turn _ | newWindow _ turn _
  | nothingToForward _ turn _ | update _ turn _ _ | forwarded _ turn =>
      cases turn.symm.trans aborted

end TerminalClientRun

namespace TerminalServerRun

variable {formats : PayloadFormat} {forwarder : Forwarder}
  {before after : TerminalServerRun forwarder.State} {call : ServerCall}

abbrev Forwards (before : TerminalServerRun forwarder.State) (call : ServerCall)
    (after : TerminalServerRun forwarder.State) : Prop :=
  ∃ written, before.packets.Adds after.packets written ∧
    ForwarderMoves forwarder before.forwarder after.forwarder (after.turn = .aborted)
      call.packetCall.read written

theorem takePayload_forwards (packet : Packet) :
    before.Forwards (.connection (.reads packet)) (before.takePayload formats packet) := by
  refine ⟨[], .nothing fun _ same => same, .rests rfl rfl fun going => ?_⟩
  by_cases isPayload : packet.header = INITIAL_PAYLOAD
  · exact forwards_none (isForward_payload isPayload)
  · exact absurd (if_neg isPayload) going

theorem opened_forwards (idle : before.packets.writing = [])
    (directories : Nat → Option Bytes) (outcome : Except Failure TunnelsOutcome) :
    before.Forwards (.connection .silent) (before.opened directories outcome) := by
  have response : ∀ error, forwards [responsePacket error] = [] := fun _ => forwards_none rfl
  unfold opened
  split
  · exact ⟨_, fun _ produces => produces.writes idle _, .rests rfl (response none) fun _ => rfl⟩
  · exact ⟨_, fun _ produces => produces.writes idle _, .rests rfl (response _) fun _ => rfl⟩
  · exact ⟨[], .nothing fun _ same => same, .rests rfl rfl fun _ => rfl⟩

theorem takePacket_forwards (idle : before.packets.writing = []) (packet : Packet)
    (other : packet.isForward = false) :
    before.Forwards (.connection (.reads packet)) (before.takePacket packet) := by
  have silent : forwards [packet] = [] := forwards_none other
  unfold takePacket
  dsimp only
  split
  · exact ⟨[keepalivePacket], fun _ produces => Conversation.Produces.writes produces idle _,
      .rests rfl (forwards_none rfl) fun _ => silent⟩
  · split
    · exact ⟨[], .nothing fun _ same => same, .rests rfl rfl fun _ => silent⟩
    · exact ⟨[], .nothing fun _ same => same, .rests rfl rfl fun _ => silent⟩

theorem Step.forwards (step : Step formats forwarder before call after) :
    before.Forwards call after := by
  cases step with
  | @writePacket call packets step =>
      have silent : call.read = [] := by
        cases step with
        | writes _ _ | skips _ _ | drops _ => rfl
      rw [TerminalServerRun.Forwards, ServerCall.packetCall, silent]
      exact ⟨[], .nothing fun _ produces => step.produces produces, .rests rfl rfl fun _ => rfl⟩
  | payload _ _ => exact takePayload_forwards _
  | tunnels idle _ => exact opened_forwards idle _ _
  | packet idle _ other => exact takePacket_forwards idle _ other
  | terminalData idle _ _ _ =>
      exact ⟨_, fun _ produces => produces.writes idle _,
        .rests rfl (forwards_terminalPacket _) fun _ => rfl⟩
  | @forwardPacket packet answers state idle turn isForward handles =>
      have going : before.turn ≠ .aborted := by simp [turn]
      exact ⟨answers, fun _ produces => Conversation.Produces.writes produces idle answers,
        .handles going rfl isForward handles⟩
  | update idle _ updates =>
      exact ⟨_, fun _ produces => produces.writes idle _, .updates rfl updates⟩
  | waits _ _ | unbound _ _ | announces _ _ _ | announced _ | announceFails _ | halts _ _
  | select _ _ | terminalAgain _ _ | terminalEnds _ _ | noPacket _ _ | noData _ _ | pass _
  | oversized _ | passed _ | passFails _ =>
      exact ⟨[], .nothing fun _ same => same, .rests rfl rfl fun _ => rfl⟩

theorem Step.aborted (step : Step formats forwarder before call after)
    (aborted : before.turn = .aborted) : after.turn = .aborted := by
  cases step with
  | writePacket _ => exact aborted
  | waits _ turn | payload _ turn | unbound _ turn | tunnels _ turn | announces _ turn _
  | announced turn | announceFails turn | halts _ turn | select _ turn | terminalAgain _ turn
  | terminalEnds _ turn | terminalData _ turn _ _ | update _ turn _ | forwardPacket _ turn _ _
  | packet _ turn _ | noPacket _ turn | noData _ turn | pass turn | oversized turn | passed turn
  | passFails turn => cases turn.symm.trans aborted

end TerminalServerRun

end EternalTerminal
