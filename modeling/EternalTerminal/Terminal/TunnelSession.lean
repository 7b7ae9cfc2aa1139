/-
The tunnels of a terminal session.

Whatever the threads and the connections do, the two port forward handlers are in a state that
two handlers with a queue each way between them come to.
-/

import EternalTerminal.Terminal.TerminalStalls
import EternalTerminal.Terminal.TunnelForwarder

namespace EternalTerminal

open Library Library.Multiplexer

/-! ### The queues -/

namespace Tunnels

/-- What one end has produced for the handler of the other end is what that one has handled and
then the queue.  A thread that aborts may have read a packet that it does not pass on. -/
structure Queued (strerror : Errno → Bytes) (packets : Conversation) (taken : List Packet)
    (aborted : Prop) (queue : List TunnelPacket) : Prop where
  fits : ∀ tunnel ∈ queue, tunnel.Fits
  split : ∃ produced handled, packets.Produces produced ∧
    forwards produced = handled ++ queue.map (TunnelPacket.packet strerror) ∧
      handled <+: forwards taken ∧ (¬ aborted → handled = forwards taken)

namespace Queued

variable {strerror : Errno → Bytes} {packets after : Conversation} {taken : List Packet}
  {aborted : Prop} {queue : List TunnelPacket}

theorem adds (queued : Queued strerror packets taken aborted queue) {written : List Packet}
    {more : List TunnelPacket} (adds : packets.Adds after written)
    (same : forwards written = more.map (TunnelPacket.packet strerror))
    (fits : ∀ tunnel ∈ more, tunnel.Fits) :
    Queued strerror after taken aborted (queue ++ more) := by
  obtain ⟨produced, handled, produces, split, isPrefix, whole⟩ := queued.split
  constructor
  · intro tunnel member
    rcases List.mem_append.mp member with earlier | later
    · exact queued.fits tunnel earlier
    · exact fits tunnel later
  · refine ⟨produced ++ written, handled, adds produced produces, ?_, isPrefix, whole⟩
    rw [forwards_append, split, same, List.map_append, List.append_assoc]

/-- What is read is not for the handler, or the thread aborts. -/
theorem passes (queued : Queued strerror packets taken aborted queue) {read : List Packet}
    {abortedAfter : Prop} (going : ¬ abortedAfter → ¬ aborted)
    (other : ¬ abortedAfter → forwards read = []) :
    Queued strerror packets (taken ++ read) abortedAfter queue := by
  obtain ⟨produced, handled, produces, split, isPrefix, whole⟩ := queued.split
  refine ⟨queued.fits, produced, handled, produces, split, ?_, ?_⟩
  · rw [forwards_append]
    exact isPrefix.trans (List.prefix_append _ _)
  · intro isGoing
    rw [forwards_append, other isGoing, List.append_nil]
    exact whole (going isGoing)

theorem handles {tunnel : TunnelPacket} {rest : List TunnelPacket}
    (queued : Queued strerror packets taken aborted (tunnel :: rest)) {read : List Packet}
    {abortedAfter : Prop} (going : ¬ aborted)
    (isRead : forwards read = [tunnel.packet strerror]) :
    Queued strerror packets (taken ++ read) abortedAfter rest := by
  obtain ⟨produced, handled, produces, split, isPrefix, whole⟩ := queued.split
  have handledAll : handled ++ [tunnel.packet strerror] = forwards (taken ++ read) := by
    rw [forwards_append, isRead, whole going]
  refine ⟨fun other member => queued.fits other (List.mem_cons_of_mem _ member),
    produced, handled ++ [tunnel.packet strerror], produces, ?_, ?_, fun _ => handledAll⟩
  · rw [split, List.map_cons, List.append_assoc]
    rfl
  · rw [handledAll]

theorem first (queued : Queued strerror packets taken aborted queue) (going : ¬ aborted)
    {packet : Packet} (isForward : packet.isForward = true)
    (carried : forwards (taken ++ [packet]) <+: forwards packets.given) :
    ∃ tunnel rest, queue = tunnel :: rest ∧ packet = tunnel.packet strerror := by
  obtain ⟨produced, handled, produces, split, _, whole⟩ := queued.split
  have isPrefix : forwards packets.given <+: forwards produced :=
    produces.ordered.filter Packet.isForward
  have read : forwards [packet] = [packet] :=
    forwards_all fun other member => List.mem_singleton.mp member ▸ isForward
  rw [split, whole going] at isPrefix
  have head := carried.trans isPrefix
  rw [forwards_append, List.prefix_append_right_inj, read] at head
  cases queue with
  | nil =>
      have impossible := List.prefix_nil.mp head
      cases impossible
  | cons tunnel rest =>
      rw [List.map_cons, List.cons_prefix_cons] at head
      exact ⟨tunnel, rest, rfl, head.1⟩

end Queued

end Tunnels

/-! ### One end -/

structure ForwardEnd where
  forwarder : PortForwards
  packets : Conversation
  aborted : Prop

namespace Tunnels

/-- The requests that `there` has sent and `here` has not handled are in the queue, and the
connections that `here` has opened are those on record. -/
structure Serves (tunnels : Tunnels) (here there : PortForwards) : Prop where
  pending : ∃ handled,
    there.requested = handled ++ tunnels.toHere.filterMap TunnelPacket.requester ∧
      handled.length = here.served.length
  opened : tunnels.openedHere = here.openings there

namespace Serves

variable {tunnels : Tunnels} {here there : PortForwards}

theorem start (toHere : tunnels.toHere = []) (openedHere : tunnels.openedHere = [])
    (requested : there.requested = []) (served : here.served = []) :
    tunnels.Serves here there := by
  constructor
  · exact ⟨[], by rw [requested, toHere]; rfl, by rw [served]; rfl⟩
  · rw [openedHere, PortForwards.openings, requested, served]
    rfl

theorem issued (serves : tunnels.Serves here there) :
    tunnels.openedHere.map Opening.id = here.issued := by
  obtain ⟨handled, requested, same⟩ := serves.pending
  rw [serves.opened, PortForwards.openings, requested, PortForwards.pairings_pending same,
    PortForwards.pairings_ids same]
  rfl

theorem asks (serves : tunnels.Serves here there) {after : Tunnels} {thereAfter : PortForwards}
    {more : List TunnelPacket} (toHere : after.toHere = tunnels.toHere ++ more)
    (openedHere : after.openedHere = tunnels.openedHere)
    (requested :
      thereAfter.requested = there.requested ++ more.filterMap TunnelPacket.requester) :
    after.Serves here thereAfter := by
  obtain ⟨handled, wasRequested, same⟩ := serves.pending
  constructor
  · refine ⟨handled, ?_, same⟩
    rw [requested, wasRequested, toHere, List.filterMap_append, List.append_assoc]
  · rw [openedHere, serves.opened, PortForwards.openings, PortForwards.openings, requested,
      wasRequested, List.append_assoc, PortForwards.pairings_pending same,
      PortForwards.pairings_pending same]

theorem handles (serves : tunnels.Serves here there) {after : Tunnels}
    {hereAfter : PortForwards} {tunnel : TunnelPacket} {rest : List TunnelPacket}
    {opened : List (Opening Int)} {served : List (Option (Nat × Int))}
    (isNext : tunnels.toHere = tunnel :: rest) (toHere : after.toHere = rest)
    (openedHere : after.openedHere = tunnels.openedHere ++ opened)
    (isServed : hereAfter.served = here.served ++ served)
    (paired : opened = PortForwards.pairings tunnel.requester.toList served ∧
      tunnel.requester.toList.length = served.length) :
    after.Serves hereAfter there := by
  obtain ⟨handled, requested, same⟩ := serves.pending
  have requestedAfter : there.requested =
      (handled ++ tunnel.requester.toList) ++ rest.filterMap TunnelPacket.requester := by
    rw [requested, isNext, List.append_assoc]
    cases asks : tunnel.requester with
    | none => rw [List.filterMap_cons_none asks]; rfl
    | some connection => rw [List.filterMap_cons_some asks]; rfl
  have sameAfter : (handled ++ tunnel.requester.toList).length = hereAfter.served.length := by
    rw [isServed, List.length_append, List.length_append, same, paired.2]
  constructor
  · exact ⟨_, toHere ▸ requestedAfter, sameAfter⟩
  · rw [openedHere, serves.opened, PortForwards.openings, PortForwards.openings, requestedAfter,
      PortForwards.pairings_pending sameAfter, isServed, PortForwards.pairings_append same,
      List.append_assoc, PortForwards.pairings_pending same, paired.1]

end Serves

end Tunnels

structure Tunnels.Stand (strerror : Errno → Bytes) (tunnels : Tunnels)
    (here there : ForwardEnd) : Prop where
  peerHere : here.forwarder.peer = tunnels.here
  peerThere : there.forwarder.peer = tunnels.there
  servesHere : tunnels.Serves here.forwarder there.forwarder
  servesThere : tunnels.swap.Serves there.forwarder here.forwarder
  toThere : Queued strerror here.packets there.packets.taken there.aborted tunnels.toThere
  toHere : Queued strerror there.packets here.packets.taken here.aborted tunnels.toHere

namespace Tunnels.Stand

variable {strerror : Errno → Bytes} {tunnels : Tunnels} {here there after : ForwardEnd}

theorem swap (stand : tunnels.Stand strerror here there) :
    tunnels.swap.Stand strerror there here :=
  ⟨stand.peerThere, stand.peerHere, stand.servesThere, stand.servesHere, stand.toHere,
    stand.toThere⟩

/-- `update` of a handler is that of the end `here`. -/
theorem updates (stand : tunnels.Stand strerror here there) {written : List Packet}
    (adds : here.packets.Adds after.packets written)
    (taken : after.packets.taken = here.packets.taken) (going : ¬ after.aborted → ¬ here.aborted)
    (updates : here.forwarder.Updates strerror written after.forwarder) :
    ∃ action next, Act tunnels action next ∧ next.Stand strerror after there := by
  obtain ⟨answers, socketsWalk, destinationsWalk, handler, table, queued, updated, fits, rfl,
    isAfter⟩ := updates
  rw [stand.peerHere] at socketsWalk destinationsWalk updated
  refine ⟨_, _, .update socketsWalk destinationsWalk, ?_⟩
  have next : tunnels.updateHere answers =
      { tunnels with
        here := { handler := handler, table := table }
        toThere := tunnels.toThere ++ queued } := by
    rw [updateHere]
    change tunnels.here.handler.update answers tunnels.here.table = _ at updated
    rw [updated]
  rw [next]
  constructor
  · rw [isAfter]
  · exact stand.peerThere
  · rw [isAfter]
    exact ⟨stand.servesHere.pending, stand.servesHere.opened⟩
  · rw [isAfter]
    exact stand.servesThere.asks rfl rfl rfl
  · refine stand.toThere.adds adds ?_ fits
    exact forwards_all fun packet member => by
      obtain ⟨tunnel, _, rfl⟩ := List.mem_map.mp member
      exact tunnel.packet_isForward
  · have nothing : ¬ after.aborted → forwards [] = [] := fun _ => rfl
    have toHere := stand.toHere.passes going nothing
    rw [List.append_nil, ← taken] at toHere
    exact toHere

/-- `handlePacket` is that of the first of the queue. -/
theorem handles (stand : tunnels.Stand strerror here there) {packet : Packet}
    {written : List Packet} (adds : here.packets.Adds after.packets written)
    (taken : after.packets.taken = here.packets.taken ++ [packet])
    (going : ¬ here.aborted) (isForward : packet.isForward = true)
    (carried : forwards after.packets.taken <+: forwards there.packets.given)
    (handles : here.forwarder.HandlesPacket strerror packet written after.forwarder) :
    ∃ action next, Act tunnels action next ∧ next.Stand strerror after there := by
  rw [taken] at carried
  obtain ⟨tunnel, rest, isNext, rfl⟩ := stand.toHere.first going isForward carried
  obtain ⟨answers, seen, isSeen, fresh, handler, table, queued, opened, handled, fits, rfl,
    isAfter⟩ := handles
  have toHere := stand.toHere
  rw [isNext] at toHere
  rw [TunnelPacket.tunnelPacket?_packet (toHere.fits tunnel List.mem_cons_self)] at isSeen
  cases isSeen
  have unused : ∀ opening ∈ tunnels.openedHere, opening.id ≠ answers.rand 0 := by
    intro opening member
    exact fresh opening.id (stand.servesHere.issued ▸ List.mem_map_of_mem member)
  refine ⟨_, _, .deliver isNext unused, ?_⟩
  obtain ⟨sameHandler, sameTable, sameQueued⟩ :=
    tunnels.here.handler.handlePacket_seen answers tunnels.here.table tunnel
  have paired := tunnels.here.handler.handlePacket_opened answers tunnels.here.table tunnel
  have noRequest : here.forwarder.requested ++
      (tunnels.here.handler.handlePacket answers tunnels.here.table tunnel).2.2.1.filterMap
        TunnelPacket.requester = here.forwarder.requested := by
    rw [PortForwardHandler.handlePacket_requester, List.append_nil]
  rw [stand.peerHere] at handled
  rw [handled] at sameHandler sameTable sameQueued
  dsimp only at sameHandler sameTable sameQueued paired
  rw [handled] at paired
  constructor
  · rw [isAfter]
    simp only [deliverHere, ← sameHandler, ← sameTable]
  · exact stand.peerThere
  · rw [isAfter]
    exact stand.servesHere.handles isNext rfl rfl rfl paired
  · rw [isAfter]
    exact stand.servesThere.asks rfl rfl noRequest.symm
  · rw [deliverHere]
    dsimp only
    rw [← sameQueued]
    refine stand.toThere.adds adds ?_ fits
    exact forwards_all fun packet member => by
      obtain ⟨tunnel, _, rfl⟩ := List.mem_map.mp member
      exact tunnel.packet_isForward
  · rw [taken]
    exact toHere.handles going (forwards_all fun other member =>
      List.mem_singleton.mp member ▸ isForward)

theorem moves (stand : tunnels.Stand strerror here there) {read written : List Packet}
    (adds : here.packets.Adds after.packets written)
    (taken : after.packets.taken = here.packets.taken ++ read)
    (going : ¬ after.aborted → ¬ here.aborted)
    (carried : forwards after.packets.taken <+: forwards there.packets.given)
    (moves : ForwarderMoves (.portForward strerror) here.forwarder after.forwarder after.aborted
      read written) :
    ∃ next, (next = tunnels ∨ ∃ action, Act tunnels action next) ∧
      next.Stand strerror after there := by
  cases moves with
  | rests same silent other =>
      refine ⟨tunnels, Or.inl rfl, ?_, stand.peerThere, ?_, ?_, ?_, ?_⟩
      · rw [same]
        exact stand.peerHere
      · rw [same]
        exact stand.servesHere
      · rw [same]
        exact stand.servesThere
      · have toThere := stand.toThere.adds adds (silent.trans List.map_nil.symm) nofun
        rw [List.append_nil] at toThere
        exact toThere
      · rw [taken]
        exact stand.toHere.passes going other
  | updates nothing updates =>
      rw [nothing, List.append_nil] at taken
      obtain ⟨action, next, act, nextStand⟩ := stand.updates adds taken going updates
      exact ⟨next, Or.inr ⟨action, act⟩, nextStand⟩
  | handles isGoing isRead isForward handles =>
      rw [isRead] at taken
      obtain ⟨action, next, act, nextStand⟩ :=
        stand.handles adds taken (going isGoing) isForward carried handles
      exact ⟨next, Or.inr ⟨action, act⟩, nextStand⟩

end Tunnels.Stand

/-! ### In a session -/

def TerminalClientRun.forwardEnd (client : TerminalClientRun PortForwards) : ForwardEnd :=
  { forwarder := client.forwarder
    packets := client.packets
    aborted := client.turn = .aborted }

def TerminalServerRun.forwardEnd (server : TerminalServerRun PortForwards) : ForwardEnd :=
  { forwarder := server.forwarder
    packets := server.packets
    aborted := server.turn = .aborted }

namespace TerminalSession

variable {strerror : Errno → Bytes} {carrier : Carrier} {options : ClientOptions}
  {formats : PayloadFormat}
  {session before after : TerminalSession carrier (.portForward strerror)}

/-- Tunnels that two handlers come to with a queue each way, and their ends in the session. -/
def Forwarding (strerror : Errno → Bytes)
    (session : TerminalSession carrier (.portForward strerror)) (tunnels : Tunnels) : Prop :=
  forwardingSystem.Reachable tunnels ∧
    tunnels.Stand strerror (TerminalClientRun.forwardEnd session.client)
      (TerminalServerRun.forwardEnd session.server)

/-- A step of the client's thread is one of the end `here`. -/
theorem Forwarding.client {tunnels : Tunnels} (forwarding : before.Forwarding strerror tunnels)
    (sound : after.Sound options) {call : PacketCall}
    (step : TerminalClientRun.Step options (.portForward strerror) before.client call after.client)
    (same : after.server = before.server) : ∃ next, after.Forwarding strerror next := by
  obtain ⟨reached, stand⟩ := forwarding
  obtain ⟨written, adds, moves⟩ := step.forwards
  have carried : forwards after.client.packets.taken <+: forwards before.server.packets.given := by
    rw [← same, ← forwards_ordinary, ← forwards_ordinary after.server.packets.given]
    exact sound.carried.2.filter Packet.isForward
  obtain ⟨next, steps, nextStand⟩ :=
    @Tunnels.Stand.moves _ _ _ _ after.client.forwardEnd stand _ _ adds step.lists.2
      (mt step.aborted) carried moves
  rw [← same] at nextStand
  refine ⟨next, ?_, nextStand⟩
  rcases steps with rfl | ⟨action, act⟩
  · exact reached
  · exact reached.next (.here act)

/-- A step of the server's thread is one of the end `there`. -/
theorem Forwarding.server {tunnels : Tunnels} (forwarding : before.Forwarding strerror tunnels)
    (sound : after.Sound options) {call : ServerCall}
    (step : TerminalServerRun.Step formats (.portForward strerror) before.server call after.server)
    (same : after.client = before.client) : ∃ next, after.Forwarding strerror next := by
  obtain ⟨reached, stand⟩ := forwarding
  obtain ⟨written, adds, moves⟩ := step.forwards
  have carried : forwards after.server.packets.taken <+: forwards before.client.packets.given := by
    rw [← same, ← forwards_ordinary, ← forwards_ordinary after.client.packets.given]
    exact sound.carried.1.filter Packet.isForward
  obtain ⟨next, steps, nextStand⟩ :=
    @Tunnels.Stand.moves _ _ _ _ after.server.forwardEnd stand.swap _ _ adds step.lists.2
      (mt step.aborted) carried moves
  rw [← same] at nextStand
  refine ⟨next.swap, ?_, nextStand.swap⟩
  rcases steps with rfl | ⟨action, act⟩
  · exact reached
  · exact reached.next (.there act)

theorem Step.forwarding {event : Event} (step : Step options formats before event after)
    (sound : after.Sound options) {tunnels : Tunnels}
    (forwarding : before.Forwarding strerror tunnels) :
    ∃ next, after.Forwarding strerror next := by
  cases step with
  | client step _ => exact forwarding.client sound step rfl
  | server step _ | announce step _ | announced step _ | select step _ | pass step _ _
  | oversized step _ _ | passed step _ | passFails step _ _ _ | output _ step =>
      exact forwarding.server sound step rfl
  | carrier _ | announces _ | readsInit _ _ _ _ | passes _ _ | iterates _ _ _ _ | handler _ _ _ _
  | flush => exact ⟨tunnels, forwarding⟩

theorem forwarding_of_reachable
    (reached :
      (terminalSessionSystem carrier (.portForward strerror) options formats).Reachable session) :
    ∃ tunnels, session.Forwarding strerror tunnels := by
  induction reached with
  | start initial =>
      obtain ⟨between, here, there, clock, consoleInfo, _, link, _, ⟨sourcesHere, rfl⟩,
        ⟨sourcesThere, rfl⟩, _, rfl⟩ := initial
      refine ⟨_, .start ⟨sourcesHere, sourcesThere, rfl⟩, rfl, rfl, .start rfl rfl rfl rfl,
        .start rfl rfl rfl rfl, ?_, ?_⟩
      · have opening : forwards [Packet.plain INITIAL_PAYLOAD options.payload] = [] :=
          forwards_none (isForward_payload rfl)
        exact ⟨nofun, _, [], ⟨List.nil_prefix, fun _ => rfl⟩, opening, List.nil_prefix,
          fun _ => rfl⟩
      · exact ⟨nofun, [], [], ⟨List.nil_prefix, fun _ => rfl⟩, rfl, List.nil_prefix, fun _ => rfl⟩
  | next reached _ step ih =>
      obtain ⟨tunnels, forwarding⟩ := ih
      have reachedAfter := TransitionSystem.Reachable.next reached step
      exact Step.forwarding step (sound_of_reachable reachedAfter) forwarding

end TerminalSession

/-! ### The connections -/

/-- What the connections of one end are to those of the other: those that it has opened for
requests of the other end, and those for which the other end has opened at its own request. -/
structure PortForwards.Joined (here there : PortForwards) : Prop where
  asked : here.served.length ≤ there.requested.length
  sources_once : ((there.openings here).map Opening.source).Nodup
  destinations_once : ((here.openings there).map Opening.destination).Nodup
  apart {served accepted : Opening Int} : served ∈ here.openings there →
    accepted ∈ there.openings here → served.destination ≠ accepted.source
  attributed {connection : Nat} : here.peer.table.offered connection ≠ [] →
    (∃ opening ∈ here.openings there, opening.destination = connection) ∨
      ∃ opening ∈ there.openings here, opening.source = connection
  forward {opening : Opening Int} : opening ∈ here.openings there →
    (here.peer.table.offered opening.destination).map Prod.fst <+:
      there.peer.table.received opening.source
  backward {opening : Opening Int} : opening ∈ there.openings here →
    (here.peer.table.offered opening.source).map Prod.fst <+:
      there.peer.table.received opening.destination

theorem Tunnels.Stand.joined {strerror : Errno → Bytes} {tunnels : Tunnels}
    {here there : ForwardEnd} (stand : tunnels.Stand strerror here there)
    (orderly : tunnels.Orderly) : here.forwarder.Joined there.forwarder := by
  obtain ⟨net, ⟨ownerHere, ownerThere, refines⟩, isOrderly⟩ := id orderly
  have netHere := refines.openedHere
  have netThere := refines.openedThere
  have openedHere := stand.servesHere.opened
  have openedThere : tunnels.openedThere = there.forwarder.openings here.forwarder :=
    stand.servesThere.opened
  obtain ⟨handled, requested, same⟩ := stand.servesHere.pending
  constructor
  · rw [requested, List.length_append, same]
    exact Nat.le_add_right _ _
  · rw [← openedThere, netThere]
    exact isOrderly.sound.accepts.sources_once
  · rw [← openedHere, netHere]
    exact isOrderly.sound.serves.destinations_once
  · intro served accepted isServed isAccepted sameConnection
    rw [← openedHere, netHere] at isServed
    rw [← openedThere, netThere] at isAccepted
    have absent := (isOrderly.sound.serves.destination isServed).2
    rw [sameConnection] at absent
    exact isOrderly.sound.accepts.not_absent isAccepted absent
  · rw [← openedHere, ← openedThere, stand.peerHere]
    exact orderly.attributed
  · rw [← openedHere, stand.peerHere, stand.peerThere]
    exact orderly.forward
  · rw [← openedThere, stand.peerHere, stand.peerThere]
    exact orderly.backward

/-! ### One byte through a tunnel -/

namespace PortForwards

def onePipe : PortForwards :=
  { peer :=
      { handler := .listening [{ source := Tunnels.onePipe, destination := Tunnels.onePipe }]
        table := .unused }
    requested := []
    served := [] }

def oneAccepted : PortForwards :=
  { onePipe with
    peer := Tunnels.oneAccepted.here
    requested := [0] }

def oneConnected : PortForwards :=
  { peer :=
      { handler :=
          { onePipe.peer.handler with
            destinationHandlers := Function.update (fun _ => none) 7
              (some { fd := some 9, socketId := 7 }) }
        table := DescriptorTable.unused.openFd 9 }
    requested := []
    served := [some (0, 7)] }

def oneAssigned : PortForwards :=
  { oneAccepted with peer := Tunnels.oneAssigned.here }

def oneRead : PortForwards :=
  { oneAccepted with peer := (Tunnels.oneAssigned.updateHere
      (Tunnels.oneUpdate [7] [.data [97]] [])).here }

def oneWritten : PortForwards :=
  { oneConnected with
    peer :=
      { oneConnected.peer with
        table := oneConnected.peer.table.writeAllOrReturn 9 [97] (Tunnels.takes 1) } }

def oneRequest : TunnelPacket :=
  .destinationRequest { destination := Tunnels.onePipe, fd := 5, connection := 0 }

def oneResponse : TunnelPacket := .destinationResponse { clientfd := 5, result := .ok 7 }

variable (strerror : Errno → Bytes)

theorem onePipe_initial : (Forwarder.portForward strerror).initial onePipe := ⟨_, rfl⟩

theorem onePipe_walks {index : Nat} {source : ForwardSourceHandler}
    (isSource : onePipe.peer.handler.sourceHandlers[index]? = some source) :
    Tunnels.Walks [] source.socketFdMap := by
  obtain ⟨ends, _, rfl⟩ := List.mem_map.mp (List.mem_of_getElem? isSource)
  exact ⟨.nil, fun _ => iff_of_false List.not_mem_nil Bool.false_ne_true⟩

theorem no_destinations : Tunnels.Walks [] onePipe.peer.handler.destinationHandlers :=
  ⟨.nil, fun _ => iff_of_false List.not_mem_nil Bool.false_ne_true⟩

theorem onePipe_rests : onePipe.Updates strerror [] onePipe :=
  ⟨Tunnels.oneUpdate [] [] [], fun _ _ isSource => onePipe_walks isSource, no_destinations,
    _, _, _, rfl, nofun, rfl, rfl⟩

theorem oneRequest_fits : oneRequest.Fits := ⟨show IsInt 5 by decide, nofun⟩

theorem oneResponse_fits : oneResponse.Fits := by
  refine ⟨show IsInt 5 by decide, ?_⟩
  rintro socketid ⟨⟩
  decide

theorem oneData_fits : (Tunnels.oneData 97).Fits := show IsInt 7 by decide

theorem onePipe_accepts :
    onePipe.Updates strerror [oneRequest.packet strerror] oneAccepted :=
  ⟨Tunnels.oneUpdate [] [] [some 5], fun _ _ isSource => onePipe_walks isSource,
    no_destinations, _, _, [oneRequest], rfl,
    fun _ member => List.mem_singleton.mp member ▸ oneRequest_fits, rfl, rfl⟩

theorem onePipe_connects :
    onePipe.HandlesPacket strerror (oneRequest.packet strerror) [oneResponse.packet strerror]
      oneConnected :=
  ⟨Tunnels.onePacket 7 (Tunnels.takes 0), _, TunnelPacket.tunnelPacket?_packet oneRequest_fits,
    nofun, _, _, [oneResponse], _, rfl,
    fun _ member => List.mem_singleton.mp member ▸ oneResponse_fits, rfl, rfl⟩

theorem oneAccepted_assigns :
    oneAccepted.HandlesPacket strerror (oneResponse.packet strerror) [] oneAssigned :=
  ⟨Tunnels.onePacket 8 (Tunnels.takes 0), _, TunnelPacket.tunnelPacket?_packet oneResponse_fits,
    nofun, _, _, [], _, rfl, nofun, rfl, rfl⟩

theorem oneAssigned_reads :
    oneAssigned.Updates strerror [(Tunnels.oneData 97).packet strerror] oneRead := by
  refine ⟨Tunnels.oneUpdate [7] [.data [97]] [], ?_, no_destinations, _, _,
    [Tunnels.oneData 97], rfl, fun _ member => List.mem_singleton.mp member ▸ oneData_fits, rfl,
    rfl⟩
  intro index source isSource
  have isOnly : source.socketFdMap = Function.update (fun _ => none) 7 (some 5) := by
    cases index with
    | zero =>
        cases isSource
        rfl
    | succ index => cases isSource
  rw [isOnly]
  refine ⟨List.nodup_singleton 7, fun key => ?_⟩
  by_cases isKey : key = 7
  · simp [Tunnels.oneUpdate, isKey]
  · simp [Tunnels.oneUpdate, isKey]

theorem oneConnected_writes :
    oneConnected.HandlesPacket strerror ((Tunnels.oneData 97).packet strerror) [] oneWritten :=
  ⟨Tunnels.onePacket 8 (Tunnels.takes 1), _, TunnelPacket.tunnelPacket?_packet oneData_fits,
    by decide, _, _, [], _, rfl, nofun, rfl, rfl⟩

end PortForwards

namespace TerminalSession

theorem oneByte_reachable :
    ∃ session : TerminalSession oneKeyCarrier (.portForward fun _ => []),
      (oneKeySystem (.portForward fun _ => [])).Reachable session ∧
        session.client.forwarder.peer.table.received 0 = [[97]] ∧
          session.server.forwarder.peer.table.offered 0 = [([97], [0], .wrote)] ∧
            PortForwards.openings session.server.forwarder session.client.forwarder =
              [{ source := 0, destination := 0, id := 7 }] := by
  obtain ⟨between, calm, accepted, reached⟩ :=
    @beforeKey_reachable (.portForward fun _ => []) _ (PortForwards.onePipe_initial _)
  have started := shellStarted_reachable reached
  have early : (0 : Int) ≤ 5 := by decide
  -- the request
  obtain ⟨wrote, asked, writes, reads, calm, accepted⟩ :=
    calm.exchange SecretBox.nullCipher Protobuf.standard .client
      (PortForwards.oneRequest.packet fun _ => []) rfl (by decide +kernel) accepted (by decide)
  have entered := started.next (.clientAlone (.enters rfl rfl rfl rfl))
  have idle := entered.next (.clientAlone (.consoleIdle rfl rfl))
  have none := idle.next (.clientAlone (.noData rfl rfl))
  have printed := none.next (.clientAlone (.prints rfl rfl))
  have punctual := printed.next (.clientAlone (.notLate rfl rfl early))
  have unresized := punctual.next (.clientAlone (.sameWindow rfl rfl fun changed => changed.2 rfl))
  have accepts := unresized.next
    (.clientAlone (.update rfl rfl (List.cons_ne_nil _ _) (PortForwards.onePipe_accepts _)))
  have sent := accepts.next (.client (.writePacket (.writes rfl rfl)) writes)
  have selected := sent.next (.select (@TerminalServerRun.Step.select _ _ _ false rfl rfl) nofun)
  have forwarded := selected.next
    (.serverAlone (.update rfl rfl (PortForwards.onePipe_rests _)))
  have connects := forwarded.next
    (.server (.forwardPacket rfl rfl rfl (PortForwards.onePipe_connects _)) reads)
  -- the response
  obtain ⟨wrote, answered, writes, reads, calm, accepted⟩ :=
    calm.exchange SecretBox.nullCipher Protobuf.standard .server
      (PortForwards.oneResponse.packet fun _ => []) rfl (by decide +kernel) accepted (by decide)
  have responded := connects.next (.server (.writePacket (.writes rfl rfl)) writes)
  have again := responded.next (.clientAlone (.forwarded rfl rfl))
  have entered := again.next (.clientAlone (.enters rfl rfl rfl rfl))
  have idle := entered.next (.clientAlone (.consoleIdle rfl rfl))
  have assigns := idle.next
    (.client (.forwardPacket rfl rfl rfl (PortForwards.oneAccepted_assigns _)) reads)
  -- the byte
  obtain ⟨wrote, given, writes, reads, calm, accepted⟩ :=
    calm.exchange SecretBox.nullCipher Protobuf.standard .client
      ((Tunnels.oneData 97).packet fun _ => []) rfl (by decide +kernel) accepted (by decide)
  have none := assigns.next (.clientAlone (.noData rfl rfl))
  have printed := none.next (.clientAlone (.prints rfl rfl))
  have punctual := printed.next (.clientAlone (.notLate rfl rfl early))
  have unresized := punctual.next (.clientAlone (.sameWindow rfl rfl fun changed => changed.2 rfl))
  have accepts := unresized.next
    (.clientAlone (.update rfl rfl (List.cons_ne_nil _ _)
      (PortForwards.oneAssigned_reads _)))
  have sent := accepts.next (.client (.writePacket (.writes rfl rfl)) writes)
  have written := sent.next
    (.server (.forwardPacket rfl rfl rfl (PortForwards.oneConnected_writes _)) reads)
  exact ⟨_, written, rfl, rfl, rfl⟩

end TerminalSession

/-! ### Every run -/

/-- The tunnels of a session are two handlers with a queue each way between them, whatever the
carrier is and whatever happens to its connections. -/
theorem session_tunnels_refine (carrier : Carrier) (strerror : Errno → Bytes)
    (options : ClientOptions) (formats : PayloadFormat)
    {session : TerminalSession carrier (.portForward strerror)}
    (reached :
      (terminalSessionSystem carrier (.portForward strerror) options formats).Reachable session) :
    ∃ tunnels, session.Forwarding strerror tunnels :=
  TerminalSession.forwarding_of_reachable reached

open TerminalSession in
theorem session_tunnels_refine_one_byte :
    ∃ session : TerminalSession oneKeyCarrier (.portForward fun _ => []),
      session.client.forwarder.peer.table.received 0 = [[97]] ∧
        ∃ tunnels, session.Forwarding (fun _ => []) tunnels := by
  obtain ⟨session, reached, received, _, _⟩ := oneByte_reachable
  exact ⟨session, received,
    session_tunnels_refine oneKeyCarrier _ oneKeyOptions JumpSession.flagFormat reached⟩

/-- What a handler has had to write to a connection is a beginning of what the other end has
read from the connection it was opened for, through whatever the session has gone. -/
theorem session_tunnels_joined (carrier : Carrier) (strerror : Errno → Bytes)
    (options : ClientOptions) (formats : PayloadFormat)
    {session : TerminalSession carrier (.portForward strerror)}
    (reached : (stallingTerminalSystem carrier (.portForward strerror) options
      formats).ReachableBy TerminalSession.sendsOnce session) :
    PortForwards.Joined session.client.forwarder session.server.forwarder ∧
      PortForwards.Joined session.server.forwarder session.client.forwarder := by
  obtain ⟨tunnels, reachable, stand⟩ :=
    TerminalSession.forwarding_of_reachable (TerminalSession.reachable_of_sendsOnce reached)
  have orderly := Tunnels.orderly_of_reachable reachable
  exact ⟨stand.joined orderly, stand.swap.joined orderly.swap⟩

open TerminalSession in
theorem session_tunnels_joined_one_byte :
    ∃ session : TerminalSession oneKeyCarrier (.portForward fun _ => []),
      session.client.forwarder.peer.table.received 0 = [[97]] ∧
        session.server.forwarder.peer.table.offered 0 = [([97], [0], .wrote)] ∧
          PortForwards.openings session.server.forwarder session.client.forwarder =
              [{ source := 0, destination := 0, id := 7 }] ∧
            PortForwards.Joined session.client.forwarder session.server.forwarder ∧
              PortForwards.Joined session.server.forwarder session.client.forwarder := by
  obtain ⟨session, reached, received, offered, opened⟩ := oneByte_reachable
  exact ⟨session, received, offered, opened,
    session_tunnels_joined oneKeyCarrier _ oneKeyOptions JumpSession.flagFormat
      (sendsOnce_of_reachable reached)⟩

end EternalTerminal
