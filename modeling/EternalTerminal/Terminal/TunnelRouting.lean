/-
The table that leads ids to source handlers, at both ends of a session.

The ends are honest, and `rand` may give any number that its caller takes.
-/

import EternalTerminal.Terminal.RoutingTable
import EternalTerminal.Terminal.TunnelStreams

namespace EternalTerminal

open Library HandleCall

/-! ### Two honest ends -/

namespace Tunnels

/-- What the end that is `here` does, whatever `rand` gives. -/
inductive Move : Tunnels → Action → Tunnels → Prop
  | update {tunnels : Tunnels} {answers : UpdateAnswers} :
      (∀ (index : Nat) (source : ForwardSourceHandler),
        tunnels.here.handler.sourceHandlers[index]? = some source →
          Walks (answers.socketOrder index) source.socketFdMap) →
      Walks answers.destinationOrder tunnels.here.handler.destinationHandlers →
      Move tunnels (.update answers) (tunnels.updateHere answers)
  | deliver {tunnels : Tunnels} {answers : PacketAnswers} {packet : TunnelPacket}
      {rest : List TunnelPacket} :
      tunnels.toHere = packet :: rest →
      Move tunnels (.deliver answers) (tunnels.deliverHere answers packet rest)

inductive PeerStep : Tunnels → Bool × Action → Tunnels → Prop
  | here {tunnels after : Tunnels} {action : Action} :
      Move tunnels action after → PeerStep tunnels (true, action) after
  | there {tunnels after : Tunnels} {action : Action} :
      Move tunnels.swap action after.swap → PeerStep tunnels (false, action) after

/-- In this action, no socket with an id comes to its end at the end that is `here`. -/
def QuietHere (tunnels : Tunnels) : Action → Prop
  | .update answers => tunnels.here.handler.Quiet answers
  | .deliver _ => True

/-- The condition on a step: the end that takes it reads neither the end of the stream nor an
error from a socket with an id. -/
def KeepsSockets (tunnels : Tunnels) : Bool × Action → Prop
  | (true, action) => tunnels.QuietHere action
  | (false, action) => tunnels.swap.QuietHere action

def RoutesMatch (tunnels : Tunnels) : Prop :=
  tunnels.here.handler.RoutesMatch ∧ tunnels.there.handler.RoutesMatch

/-- The descriptors that the end `here` has asked for and waits for. -/
def pendingFds (tunnels : Tunnels) : List Fd :=
  tunnels.toThere.filterMap TunnelPacket.requestFd ++
    tunnels.toHere.filterMap TunnelPacket.responseFd

/-- What holds of the tunnels from `here` to `there`.  The packets to `here` lead from the ids
that it has to those that are served: every response is about a descriptor that waits for it, and
gives an id that is not in use. -/
structure Routed (tunnels : Tunnels) : Prop where
  isMatch : tunnels.here.handler.RoutesMatch
  sole : Sole tunnels.here.handler tunnels.here.table.openFds
  connected : PortForwardHandler.Connected tunnels.there.handler.destinationHandlers
  pending_once : tunnels.pendingFds.Nodup
  pending_held : ∀ fd ∈ tunnels.pendingFds,
    ∃ index, tunnels.here.handler.Held fd (.unassigned index)
  ids : Leads tunnels.here.handler.routes (tunnels.toHere.filterMap TunnelPacket.idCall)
    tunnels.there.handler.serves
  goesOn : ∀ pwd, .data pwd ∈ tunnels.toThere → pwd.sourcetodestination = true →
    pwd.content.isLast = false

variable {tunnels after : Tunnels}

/-! ### `update` -/

section Updates

variable {answers : UpdateAnswers}

theorem requestFds_update (requests : List PortForwardDestinationRequest)
    (data : List PortForwardData) :
    (requests.map TunnelPacket.destinationRequest ++ data.map TunnelPacket.data).filterMap
      TunnelPacket.requestFd = requests.map (·.fd) := by
  have noRequest : (data.map TunnelPacket.data).filterMap TunnelPacket.requestFd = [] := by
    apply List.filterMap_eq_nil_iff.mpr
    intro packet member
    obtain ⟨pwd, _, rfl⟩ := List.mem_map.mp member
    rfl
  rw [List.filterMap_append, noRequest, List.append_nil, List.filterMap_map]
  exact congrFun List.filterMap_eq_map requests

theorem responseFds_update (requests : List PortForwardDestinationRequest)
    (data : List PortForwardData) :
    (requests.map TunnelPacket.destinationRequest ++ data.map TunnelPacket.data).filterMap
      TunnelPacket.responseFd = [] := by
  apply List.filterMap_eq_nil_iff.mpr
  intro packet member
  rcases List.mem_append.mp member with isRequest | isData
  · obtain ⟨pfdr, _, rfl⟩ := List.mem_map.mp isRequest
    rfl
  · obtain ⟨pwd, _, rfl⟩ := List.mem_map.mp isData
    rfl

/-- Data of a source say nothing of the ids that the other end serves. -/
theorem idCalls_update (requests : List PortForwardDestinationRequest)
    {outward : List PortForwardData} (inward : List PortForwardData)
    (isOutward : ∀ pwd ∈ outward, pwd.sourcetodestination = true) :
    (requests.map TunnelPacket.destinationRequest ++
        (outward ++ inward).map TunnelPacket.data).filterMap TunnelPacket.idCall =
      (inward.map TunnelPacket.data).filterMap TunnelPacket.idCall := by
  have noRequest : (requests.map TunnelPacket.destinationRequest).filterMap
      TunnelPacket.idCall = [] := by
    apply List.filterMap_eq_nil_iff.mpr
    intro packet member
    obtain ⟨pfdr, _, rfl⟩ := List.mem_map.mp member
    rfl
  have noOutward : (outward.map TunnelPacket.data).filterMap TunnelPacket.idCall = [] := by
    apply List.filterMap_eq_nil_iff.mpr
    intro packet member
    obtain ⟨pwd, isPwd, rfl⟩ := List.mem_map.mp member
    rw [TunnelPacket.idCall, isOutward pwd isPwd]
    rfl
  rw [List.filterMap_append, noRequest, List.nil_append, List.map_append,
    List.filterMap_append, noOutward, List.nil_append]

theorem Routed.update_source (routed : tunnels.Routed)
    (walks : ∀ (index : Nat) (source : ForwardSourceHandler),
      tunnels.here.handler.sourceHandlers[index]? = some source →
        Walks (answers.socketOrder index) source.socketFdMap)
    (quiet : tunnels.here.handler.Quiet answers) : (tunnels.updateHere answers).Routed := by
  have packets := PortForwardHandler.update_packets tunnels.here.handler answers
    tunnels.here.table
  obtain ⟨sole, _⟩ := Accounts.update walks tunnels.here.table routed.sole
  have sockets := PortForwardHandler.update_sockets quiet tunnels.here.table
  have waiting : ∀ (fd : Fd) (place : Nat), tunnels.here.handler.Held fd (.unassigned place) →
      (tunnels.here.handler.update answers tunnels.here.table).1.Held fd (.unassigned place) :=
    fun _ _ => PortForwardHandler.update_unassigned
  obtain ⟨once, accepted⟩ := PortForwardHandler.update_accepts quiet tunnels.here.table
  have sameMap := PortForwardHandler.update_routes tunnels.here.handler answers
    tunnels.here.table
  have outward : ∀ pwd ∈ tunnels.here.handler.outwardData answers tunnels.here.table,
      pwd.sourcetodestination = true ∧
        (tunnels.here.handler.Quiet answers → pwd.content.isLast = false) :=
    fun _ => PortForwardHandler.update_outward
  have inward : ∀ pwd ∈ tunnels.here.handler.inwardData answers tunnels.here.table,
      pwd.sourcetodestination = false :=
    fun _ => PortForwardHandler.update_inward
  rw [updateHere]
  generalize tunnels.here.handler.update answers tunnels.here.table = result
    at packets sole sockets waiting accepted sameMap ⊢
  obtain ⟨handler, table, written⟩ := result
  dsimp only at packets sole sockets waiting accepted sameMap ⊢
  subst packets
  generalize tunnels.here.handler.updateRequests answers tunnels.here.table = requests
    at once accepted ⊢
  generalize tunnels.here.handler.outwardData answers tunnels.here.table = outwardData
    at outward ⊢
  generalize tunnels.here.handler.inwardData answers tunnels.here.table = inwardData
    at inward ⊢
  have isOutward : ∀ pwd ∈ outwardData, pwd.sourcetodestination = true :=
    fun pwd member => (outward pwd member).1
  have pending : List.Perm
      (pendingFds
        { tunnels with
          here := { handler := handler, table := table }
          toThere := tunnels.toThere ++
            (requests.map .destinationRequest ++ (outwardData ++ inwardData).map .data) })
      (tunnels.pendingFds ++ requests.map (·.fd)) := by
    rw [pendingFds, List.filterMap_append, requestFds_update, pendingFds, List.append_assoc,
      List.append_assoc]
    exact List.Perm.append_left _ List.perm_append_comm
  constructor
  · exact routed.isMatch.keeps sameMap sockets
  · exact sole
  · exact routed.connected
  · rw [pending.nodup_iff, List.nodup_append]
    refine ⟨routed.pending_once, once, ?_⟩
    intro fd isPending other isNew same
    subst same
    obtain ⟨index, held⟩ := routed.pending_held fd isPending
    exact (accepted fd isNew).1 (routed.sole.isOpen held)
  · intro fd member
    rcases List.mem_append.mp (pending.mem_iff.mp member) with isPending | isNew
    · obtain ⟨index, held⟩ := routed.pending_held fd isPending
      exact ⟨index, waiting fd index held⟩
    · exact (accepted fd isNew).2
  · have sameRoutes : handler.routes = tunnels.here.handler.routes := by
      unfold PortForwardHandler.routes
      rw [sameMap]
    dsimp only
    rw [sameRoutes]
    exact routed.ids
  · intro pwd member forward
    rcases List.mem_append.mp member with before | new
    · exact routed.goesOn pwd before forward
    · rcases List.mem_append.mp new with isRequest | isData
      · obtain ⟨pfdr, _, impossible⟩ := List.mem_map.mp isRequest
        cases impossible
      · obtain ⟨other, isOther, same⟩ := List.mem_map.mp isData
        cases same
        rcases List.mem_append.mp isOther with isOut | isIn
        · exact (outward pwd isOut).2 quiet
        · rw [inward pwd isIn] at forward
          cases forward

theorem Routed.update_destination (routed : tunnels.swap.Routed) :
    (tunnels.updateHere answers).swap.Routed := by
  have packets := PortForwardHandler.update_packets tunnels.here.handler answers
    tunnels.here.table
  have destinations := PortForwardHandler.update_destinations tunnels.here.handler answers
    tunnels.here.table routed.connected
  have outward : ∀ pwd ∈ tunnels.here.handler.outwardData answers tunnels.here.table,
      pwd.sourcetodestination = true ∧
        (tunnels.here.handler.Quiet answers → pwd.content.isLast = false) :=
    fun _ => PortForwardHandler.update_outward
  rw [updateHere]
  generalize tunnels.here.handler.update answers tunnels.here.table = result
    at packets destinations ⊢
  obtain ⟨handler, table, written⟩ := result
  dsimp only at packets destinations ⊢
  subst packets
  generalize tunnels.here.handler.updateRequests answers tunnels.here.table = requests
  generalize tunnels.here.handler.outwardData answers tunnels.here.table = outwardData
    at outward ⊢
  generalize tunnels.here.handler.inwardData answers tunnels.here.table = inwardData
    at destinations ⊢
  obtain ⟨connected, leads⟩ := destinations
  have isOutward : ∀ pwd ∈ outwardData, pwd.sourcetodestination = true :=
    fun pwd member => (outward pwd member).1
  have pending : pendingFds (swap
      { tunnels with
        here := { handler := handler, table := table }
        toThere := tunnels.toThere ++
          (requests.map .destinationRequest ++ (outwardData ++ inwardData).map .data) }) =
      tunnels.swap.pendingFds := by
    unfold pendingFds swap
    dsimp only
    rw [List.filterMap_append, responseFds_update, List.append_nil]
  constructor
  · exact routed.isMatch
  · exact routed.sole
  · exact connected
  · rw [pending]
    exact routed.pending_once
  · rw [pending]
    exact routed.pending_held
  · have written : ((tunnels.toThere ++ (requests.map TunnelPacket.destinationRequest ++
        (outwardData ++ inwardData).map TunnelPacket.data)).filterMap TunnelPacket.idCall) =
        tunnels.toThere.filterMap TunnelPacket.idCall ++
          (inwardData.map TunnelPacket.data).filterMap TunnelPacket.idCall := by
      rw [List.filterMap_append, idCalls_update requests inwardData isOutward]
    unfold swap
    dsimp only
    rw [written]
    exact routed.ids.append leads
  · exact routed.goesOn

end Updates

/-! ### `handlePacket` -/

section Packets

variable {answers : PacketAnswers} {packet : TunnelPacket}
  {rest packets : List TunnelPacket} {peer : TunnelPeer}

theorem Routed.read_source (routed : tunnels.Routed) (isNext : tunnels.toHere = packet :: rest)
    (isMatch : peer.handler.RoutesMatch) (sole : Sole peer.handler peer.table.openFds)
    (responses : ∀ answer ∈ packets, ∃ pfdr, answer = .destinationResponse pfdr)
    (held : ∀ fd ∈ tunnels.toThere.filterMap TunnelPacket.requestFd ++
        rest.filterMap TunnelPacket.responseFd,
      ∃ index, peer.handler.Held fd (.unassigned index))
    (ids : Leads peer.handler.routes (rest.filterMap TunnelPacket.idCall)
      tunnels.there.handler.serves) (opened : List (Multiplexer.Opening Int)) :
    Routed
      { tunnels with
        here := peer
        toHere := rest
        toThere := tunnels.toThere ++ packets
        openedHere := opened } := by
  have noRequest : packets.filterMap TunnelPacket.requestFd = [] := by
    apply List.filterMap_eq_nil_iff.mpr
    intro answer member
    obtain ⟨pfdr, rfl⟩ := responses answer member
    rfl
  have pending : pendingFds
      { tunnels with
        here := peer
        toHere := rest
        toThere := tunnels.toThere ++ packets
        openedHere := opened } =
      tunnels.toThere.filterMap TunnelPacket.requestFd ++
        rest.filterMap TunnelPacket.responseFd := by
    rw [pendingFds, List.filterMap_append, noRequest, List.append_nil]
  have fewer : List.Sublist
      (tunnels.toThere.filterMap TunnelPacket.requestFd ++
        rest.filterMap TunnelPacket.responseFd) tunnels.pendingFds := by
    rw [pendingFds, isNext]
    exact List.Sublist.append_left
      (List.Sublist.filterMap _ (List.sublist_cons_self packet rest)) _
  constructor
  · exact isMatch
  · exact sole
  · exact routed.connected
  · rw [pending]
    exact routed.pending_once.sublist fewer
  · rw [pending]
    exact held
  · exact ids
  · intro pwd member
    rcases List.mem_append.mp member with before | new
    · exact routed.goesOn pwd before
    · obtain ⟨pfdr, impossible⟩ := responses _ new
      cases impossible

theorem Routed.passes_source (routed : tunnels.Routed)
    (isNext : tunnels.toHere = packet :: rest)
    (same : PortForwardHandler.SameSources tunnels.here.handler peer.handler)
    (sole : Sole peer.handler peer.table.openFds)
    (responses : ∀ answer ∈ packets, ∃ pfdr, answer = .destinationResponse pfdr)
    (noFd : packet.responseFd = none) (noId : packet.idCall = none)
    (opened : List (Multiplexer.Opening Int)) :
    Routed
      { tunnels with
        here := peer
        toHere := rest
        toThere := tunnels.toThere ++ packets
        openedHere := opened } := by
  have pending : tunnels.pendingFds = tunnels.toThere.filterMap TunnelPacket.requestFd ++
      rest.filterMap TunnelPacket.responseFd := by
    rw [pendingFds, isNext, List.filterMap_cons_none noFd]
  have ids := routed.ids
  rw [isNext, List.filterMap_cons_none noId] at ids
  refine routed.read_source isNext ?_ sole responses ?_ ?_ opened
  · refine routed.isMatch.keeps same.map ?_
    intro place id
    rw [same.sources]
  · intro fd member
    obtain ⟨index, source, isSource, waits⟩ := routed.pending_held fd (pending ▸ member)
    exact ⟨index, source, same.sources ▸ isSource, waits⟩
  · unfold PortForwardHandler.routes
    rw [same.map]
    exact ids

/-- The packet is about this descriptor, which waits for it. -/
theorem Routed.awaited (routed : tunnels.Routed) (isNext : tunnels.toHere = packet :: rest)
    {fd : Fd} (isFd : packet.responseFd = some fd) :
    (∃ index, tunnels.here.handler.Held fd (.unassigned index)) ∧
      ∀ other ∈ tunnels.toThere.filterMap TunnelPacket.requestFd ++
          rest.filterMap TunnelPacket.responseFd,
        other ≠ fd ∧ ∃ index, tunnels.here.handler.Held other (.unassigned index) := by
  have pending : tunnels.pendingFds = tunnels.toThere.filterMap TunnelPacket.requestFd ++
      fd :: rest.filterMap TunnelPacket.responseFd := by
    rw [pendingFds, isNext, List.filterMap_cons_some isFd]
  have once := routed.pending_once
  have held := routed.pending_held
  rw [pending] at once held
  obtain ⟨unique, _⟩ := List.nodup_cons.mp (List.nodup_middle.mp once)
  refine ⟨held fd (List.mem_append_right _ List.mem_cons_self), ?_⟩
  intro other member
  refine ⟨?_, ?_⟩
  · intro same
    exact unique (same ▸ member)
  · apply held other
    rcases List.mem_append.mp member with request | response
    · exact List.mem_append_left _ request
    · exact List.mem_append_right _ (List.mem_cons_of_mem fd response)

theorem Routed.deliver_source (routed : tunnels.Routed)
    (isNext : tunnels.toHere = packet :: rest) :
    (tunnels.deliverHere answers packet rest).Routed := by
  obtain ⟨sole, _⟩ := Accounts.handlePacket tunnels.here.handler answers tunnels.here.table
    packet routed.sole
  have noAnswer : ∀ answer ∈ ([] : List TunnelPacket), ∃ pfdr,
      answer = .destinationResponse pfdr := by
    intro answer impossible
    cases impossible
  cases packet with
  | data pwd =>
      obtain ⟨sourcetodestination, socketid, content⟩ := pwd
      cases sourcetodestination with
      | true =>
          exact @passes_source tunnels _ rest [] _ routed isNext
            (PortForwardHandler.handleDestinationData_sources tunnels.here.handler
              tunnels.here.table answers.schedule socketid content) sole noAnswer rfl rfl _
      | false =>
          cases last : content.isLast with
          | false =>
              exact @passes_source tunnels _ rest [] _ routed isNext
                (PortForwardHandler.handleSourceData_goesOn tunnels.here.handler
                  tunnels.here.table answers.schedule socketid last) sole noAnswer rfl
                (by simp [TunnelPacket.idCall, last]) _
          | true =>
              have isClose : TunnelPacket.idCall (.data ⟨false, socketid, content⟩) =
                  some (.closed socketid) := by
                simp [TunnelPacket.idCall, last]
              have ids := routed.ids
              rw [isNext, List.filterMap_cons_some isClose] at ids
              cases ids with
              | closed isRoute later =>
                  obtain ⟨isMatch, routes, keeps⟩ := PortForwardHandler.handleSourceData_last
                    tunnels.here.table answers.schedule routed.isMatch isRoute last
                  have pending : tunnels.pendingFds =
                      tunnels.toThere.filterMap TunnelPacket.requestFd ++
                        rest.filterMap TunnelPacket.responseFd := by
                    rw [pendingFds, isNext]
                    rfl
                  rw [← routes] at later
                  refine @read_source tunnels _ rest [] _ routed isNext isMatch sole noAnswer
                    ?_ later _
                  intro fd member
                  obtain ⟨index, held⟩ := routed.pending_held fd (pending ▸ member)
                  exact ⟨index, keeps fd index held⟩
  | destinationRequest pfdr =>
      refine @passes_source tunnels _ rest _ _ routed isNext
        (PortForwardHandler.createDestination_sources tunnels.here.handler answers
          tunnels.here.table pfdr) sole ?_ rfl rfl _
      intro answer member
      exact ⟨_, List.mem_singleton.mp member⟩
  | destinationResponse pfdr =>
      obtain ⟨clientfd, result⟩ := pfdr
      obtain ⟨⟨index, held⟩, others⟩ := routed.awaited isNext rfl
      have ids := routed.ids
      cases result with
      | error what =>
          obtain ⟨isMatch, routes, keeps⟩ :=
            @PortForwardHandler.closeSourceFd_routed tunnels.here.handler tunnels.here.table
              clientfd index routed.isMatch held
          rw [isNext, List.filterMap_cons_none rfl, ← routes] at ids
          refine @read_source tunnels _ rest [] _ routed isNext isMatch sole noAnswer ?_ ids _
          intro fd member
          obtain ⟨away, place, waits⟩ := others fd member
          exact ⟨place, keeps fd place away waits⟩
      | ok socketid =>
          have gives : TunnelPacket.idCall (.destinationResponse ⟨clientfd, .ok socketid⟩) =
              some (.opened socketid) := rfl
          rw [isNext, List.filterMap_cons_some gives] at ids
          cases ids with
          | opened unused later =>
              obtain ⟨isMatch, routes, keeps⟩ :=
                @PortForwardHandler.addSourceSocketId_routed tunnels.here.handler clientfd index
                  socketid routed.isMatch held unused
              rw [← routes] at later
              refine @read_source tunnels _ rest [] _ routed isNext isMatch sole noAnswer ?_
                later _
              intro fd member
              obtain ⟨away, place, waits⟩ := others fd member
              exact ⟨place, keeps fd place away waits⟩

theorem Routed.read_destination (routed : tunnels.swap.Routed)
    (isNext : tunnels.toHere = packet :: rest)
    (connected : PortForwardHandler.Connected peer.handler.destinationHandlers)
    (answered : packets.filterMap TunnelPacket.responseFd = packet.requestFd.toList)
    (leads : Leads tunnels.here.handler.serves (packets.filterMap TunnelPacket.idCall)
      peer.handler.serves) (opened : List (Multiplexer.Opening Int)) :
    Routed (swap
      { tunnels with
        here := peer
        toHere := rest
        toThere := tunnels.toThere ++ packets
        openedHere := opened }) := by
  have pending : List.Perm
      (pendingFds (swap
        { tunnels with
          here := peer
          toHere := rest
          toThere := tunnels.toThere ++ packets
          openedHere := opened }))
      tunnels.swap.pendingFds := by
    have first : tunnels.toHere.filterMap TunnelPacket.requestFd =
        packet.requestFd.toList ++ rest.filterMap TunnelPacket.requestFd := by
      rw [isNext]
      cases isFd : packet.requestFd with
      | none => exact List.filterMap_cons_none isFd
      | some fd => exact List.filterMap_cons_some isFd
    unfold pendingFds swap
    dsimp only
    rw [first, List.filterMap_append, answered, ← List.append_assoc,
      List.append_assoc packet.requestFd.toList]
    exact List.perm_append_comm
  constructor
  · exact routed.isMatch
  · exact routed.sole
  · exact connected
  · exact pending.nodup_iff.mpr routed.pending_once
  · intro fd member
    exact routed.pending_held fd (pending.mem_iff.mp member)
  · unfold swap
    dsimp only
    rw [List.filterMap_append]
    exact routed.ids.append leads
  · intro pwd member
    have wasThere : .data pwd ∈ tunnels.toHere := by
      rw [isNext]
      exact List.mem_cons_of_mem packet member
    exact routed.goesOn pwd wasThere

theorem Routed.deliver_destination (routed : tunnels.swap.Routed)
    (isNext : tunnels.toHere = packet :: rest) :
    (tunnels.deliverHere answers packet rest).swap.Routed := by
  have connected := routed.connected
  have unchanged : ∀ {handler : PortForwardHandler} {table : DescriptorTable},
      handler.destinationHandlers = tunnels.here.handler.destinationHandlers →
      packet.requestFd = none →
      Routed (swap
        { tunnels with
          here := { handler := handler, table := table }
          toHere := rest
          toThere := tunnels.toThere ++ []
          openedHere := tunnels.openedHere ++ [] }) := by
    intro handler table same noRequest
    have sameServes : handler.serves = tunnels.here.handler.serves := by
      unfold PortForwardHandler.serves
      rw [same]
    refine routed.read_destination isNext ?_ ?_ ?_ _
    · dsimp only
      rw [same]
      exact connected
    · rw [noRequest]
      rfl
    · dsimp only
      rw [sameServes]
      exact .nil _
  cases packet with
  | data pwd =>
      obtain ⟨sourcetodestination, socketid, content⟩ := pwd
      cases sourcetodestination with
      | true =>
          have wasThere : .data ⟨true, socketid, content⟩ ∈ tunnels.toHere := by
            rw [isNext]
            exact List.mem_cons_self
          have goesOn : content.isLast = false := routed.goesOn _ wasThere rfl
          have same := PortForwardHandler.handleDestinationData_goesOn tunnels.here.handler
            tunnels.here.table answers.schedule socketid goesOn
          exact unchanged (congrArg PortForwardHandler.destinationHandlers same) rfl
      | false =>
          exact unchanged (PortForwardHandler.handleSourceData_destinations tunnels.here.handler
            tunnels.here.table answers.schedule socketid content) rfl
  | destinationRequest pfdr =>
      obtain ⟨toRequest, stillConnected, leads⟩ :=
        PortForwardHandler.createDestination_responds tunnels.here.handler answers
          tunnels.here.table pfdr connected
      refine @read_destination tunnels _ rest [_] _ routed isNext stillConnected ?_ leads _
      exact congrArg (fun fd => [fd]) toRequest
  | destinationResponse pfdr =>
      obtain ⟨clientfd, result⟩ := pfdr
      cases result with
      | error what =>
          exact unchanged (PortForwardHandler.closeSourceFd_destinations tunnels.here.handler
            tunnels.here.table clientfd) rfl
      | ok socketid =>
          exact unchanged (PortForwardHandler.addSourceSocketId_destinations
            tunnels.here.handler socketid clientfd) rfl

end Packets

/-! ### Any run -/

/-- Both ends start without connections and take turns in any order. -/
def peerSystem : TransitionSystem Tunnels (Bool × Action) where
  initial := forwardingSystem.initial
  step := PeerStep

theorem Act.move {action : Action} (act : Act tunnels action after) :
    Move tunnels action after := by
  cases act with
  | update walks walksDestinations => exact .update walks walksDestinations
  | deliver isNext _ => exact .deliver isNext

theorem Step.peer {label : Bool × Action} (step : Step tunnels label after) :
    PeerStep tunnels label after := by
  cases step with
  | here act => exact .here act.move
  | there act => exact .there act.move

def BothRouted (tunnels : Tunnels) : Prop :=
  tunnels.Routed ∧ tunnels.swap.Routed

theorem BothRouted.routesMatch (routed : tunnels.BothRouted) : tunnels.RoutesMatch :=
  ⟨routed.1.isMatch, routed.2.isMatch⟩

theorem BothRouted.move {action : Action} (routed : tunnels.BothRouted)
    (move : Move tunnels action after) (quiet : tunnels.QuietHere action) :
    after.BothRouted := by
  cases move with
  | update walks _ => exact ⟨routed.1.update_source walks quiet, routed.2.update_destination⟩
  | deliver isNext => exact ⟨routed.1.deliver_source isNext, routed.2.deliver_destination isNext⟩

theorem BothRouted.step {label : Bool × Action} (routed : tunnels.BothRouted)
    (step : PeerStep tunnels label after) (keeps : KeepsSockets tunnels label) :
    after.BothRouted := by
  cases step with
  | here move => exact routed.move move keeps
  | there move =>
      have swapped : tunnels.swap.BothRouted := routed.symm
      exact (swapped.move move keeps).symm

theorem listening_routed (sourcesHere sourcesThere : List TunnelEnds) :
    Routed
      { here := { handler := .listening sourcesHere, table := .unused }
        there := { handler := .listening sourcesThere, table := .unused }
        toHere := []
        toThere := []
        openedHere := []
        openedThere := [] } := by
  constructor
  · intro socketId index
    constructor
    · intro has
      obtain ⟨source, isSource, hasSocket⟩ := has
      obtain ⟨ends, _, rfl⟩ := List.mem_map.mp (List.mem_of_getElem? isSource)
      exact absurd rfl hasSocket
    · intro isRoute
      cases isRoute
  · exact Sole.listening sourcesHere _
  · intro socketId destination impossible
    cases impossible
  · exact List.nodup_nil
  · intro fd impossible
    cases impossible
  · have sameIds : PortForwardHandler.routes (.listening sourcesHere) =
        PortForwardHandler.serves (.listening sourcesThere) := by
      simp [PortForwardHandler.routes, PortForwardHandler.serves, PortForwardHandler.listening]
    dsimp only
    rw [sameIds]
    exact .nil _
  · intro pwd impossible
    cases impossible

theorem peer_routed (reached : peerSystem.ReachableBy KeepsSockets tunnels) :
    tunnels.BothRouted := by
  induction reached with
  | start initial =>
      obtain ⟨sourcesHere, sourcesThere, rfl⟩ := initial
      exact ⟨listening_routed sourcesHere sourcesThere,
        listening_routed sourcesThere sourcesHere⟩
  | next _ keeps step ih => exact ih.step step keeps

theorem quiet_of_routesMatch {action : Action} (move : Move tunnels action after)
    (before : tunnels.here.handler.RoutesMatch) (isMatch : after.here.handler.RoutesMatch) :
    tunnels.QuietHere action := by
  cases move with
  | deliver _ => exact trivial
  | @update answers walks _ =>
      intro index source socketId isSource hasSocket
      by_contra ends
      have isRoute := (before socketId index).mp ⟨source, isSource, hasSocket⟩
      obtain ⟨found, isFound, stillThere⟩ := (isMatch socketId index).mpr isRoute
      have updated := tunnels.here.handler.update_source answers tunnels.here.table index
      have now : (tunnels.here.handler.update answers tunnels.here.table).1.sourceHandlers[index]? =
        some found := isFound
      rw [isSource, now] at updated
      cases updated with
      | some isUpdated =>
          apply stillThere
          rw [isUpdated.sockets, if_pos]
          refine ⟨((walks index source isSource).2 socketId).mpr ?_,
            Bool.not_eq_false _ ▸ ends⟩
          exact Option.isSome_iff_ne_none.mpr hasSocket

/-- While no socket comes to its end at the end that reads it, the table is right at both, and the
first one that does leaves it wrong. -/
theorem routes_match (reached : peerSystem.ReachableBy KeepsSockets tunnels) :
    tunnels.RoutesMatch ∧ ∀ label after, peerSystem.step tunnels label after →
      (after.RoutesMatch ↔ KeepsSockets tunnels label) := by
  have isMatch := (peer_routed reached).routesMatch
  refine ⟨isMatch, ?_⟩
  intro label after step
  constructor
  · intro isMatchAfter
    cases step with
    | here move => exact quiet_of_routesMatch move isMatch.1 isMatchAfter.1
    | there move => exact quiet_of_routesMatch move isMatch.2 isMatchAfter.2
  · intro keeps
    exact (peer_routed (reached.next keeps step)).routesMatch

/-! ### One connection -/

theorem oneAssigned_reached : peerSystem.ReachableBy KeepsSockets oneAssigned := by
  have start : peerSystem.ReachableBy KeepsSockets oneSource := .start ⟨_, _, rfl⟩
  have accepted : peerSystem.ReachableBy KeepsSockets oneAccepted := by
    refine start.next ?_ oneAccepted_step.peer
    intro index source socketId isSource hasSocket
    obtain ⟨ends, _, rfl⟩ := List.mem_map.mp (List.mem_of_getElem? isSource)
    exact absurd rfl hasSocket
  have connected : peerSystem.ReachableBy KeepsSockets oneConnected := by
    refine accepted.next ?_
      (step_deliver_there rfl (fun opening member => by cases member)).peer
    exact trivial
  refine connected.next ?_ (.here (.deliver rfl))
  exact trivial

/-- The connection has the id 7. -/
theorem routes_match_one_connection :
    oneAssigned.here.handler.socketIdSourceHandlerMap 7 = some 0 ∧
      oneAssigned.RoutesMatch ∧ ∀ label after, peerSystem.step oneAssigned label after →
        (after.RoutesMatch ↔ KeepsSockets oneAssigned label) :=
  ⟨by decide, routes_match oneAssigned_reached⟩

/-- The application that connected to this end closes. -/
theorem closed_socket_keeps_route : ¬ ∀ tunnels, peerSystem.Reachable tunnels →
    tunnels.RoutesMatch := by
  intro all
  have isMatch := all _ (oneAssigned_reached.reachable.next (oneAssigned_reads [.closed]).peer)
  obtain ⟨source, isSource, hasSocket⟩ := (isMatch.1 7 0).mpr (by decide)
  cases isSource
  exact hasSocket (by decide)

end Tunnels

end EternalTerminal
