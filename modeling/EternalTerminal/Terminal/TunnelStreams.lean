/-
Two port forward handlers over a session: who a byte comes from and in what order.
-/

import EternalTerminal.Terminal.TunnelUpdate
import EternalTerminal.Terminal.TunnelWrites

namespace EternalTerminal

open Library Library.Multiplexer

namespace Tunnels

variable {tunnels : Tunnels}

def Orderly (tunnels : Tunnels) : Prop :=
  ∃ net, tunnels.Models net ∧ net.Orderly

theorem Orderly.swap (orderly : tunnels.Orderly) : tunnels.swap.Orderly := by
  obtain ⟨net, models, isOrderly⟩ := orderly
  exact ⟨net.swap, models.swap, isOrderly.swap⟩

theorem Orderly.act {after : Tunnels} {action : Action} (orderly : tunnels.Orderly)
    (act : Act tunnels action after) : after.Orderly := by
  obtain ⟨net, models, isOrderly⟩ := orderly
  obtain ⟨next, moves, nextModels⟩ := simulates_act act net models isOrderly.sound
  exact ⟨next, nextModels, isOrderly.moves moves⟩

theorem listening_owns (sources : List TunnelEnds) :
    Owns (.listening sources) (fun _ => none) := by
  have idle : ∀ {index : Nat} {source : ForwardSourceHandler},
      (PortForwardHandler.listening sources).sourceHandlers[index]? = some source →
        source.unassignedFds = ∅ ∧ ∀ socketId, source.socketFdMap socketId = none := by
    intro index source isSource
    obtain ⟨ends, _, rfl⟩ := List.mem_map.mp (List.mem_of_getElem? isSource)
    exact ⟨rfl, fun _ => rfl⟩
  constructor
  · intro index source fd isSource
    simp [(idle isSource).1]
  · intro index source socketId fd isSource
    simp [(idle isSource).2 socketId]
  · simp [PortForwardHandler.listening]
  · simp [PortForwardHandler.listening]
  · simp
  · simp
  · simp

theorem unused_tracks :
    Tracks .unused (fun _ => none) (Net.empty : Net Int Bytes).here := by
  constructor
  · rfl
  · rfl
  · rfl
  · intro fd connection impossible
    cases impossible
  · intro first second connection impossible
    cases impossible
  · intro fd holder impossible
    cases impossible
  · intro connection live
    rcases live with waits | ⟨_, impossible⟩ | ⟨_, impossible⟩
    · exact absurd waits not_waits_absent
    · cases impossible
    · cases impossible
  · exact fun _ => rfl

theorem orderly_of_reachable (reached : forwardingSystem.Reachable tunnels) :
    tunnels.Orderly := by
  induction reached with
  | start initial =>
      obtain ⟨sourcesHere, sourcesThere, rfl⟩ := initial
      refine ⟨Net.empty, ⟨fun _ => none, fun _ => none, ?_⟩, Net.empty_orderly⟩
      exact ⟨listening_owns sourcesHere, listening_owns sourcesThere, unused_tracks,
        unused_tracks, .nil, .nil, rfl, rfl⟩
  | next _ _ step ih =>
      cases step with
      | here act => exact ih.act act
      | there act => exact (ih.swap.act act).swap

/-! ### Isolation -/

theorem carried_request {sender receiver : DescriptorTable} {packets : List TunnelPacket}
    {letters : List (Letter Int Bytes)}
    (carried : List.Forall₂ (Carries sender receiver) packets letters)
    {pfdr : PortForwardDestinationRequest} (member : .destinationRequest pfdr ∈ packets) :
    sender.connectionOf pfdr.fd = some pfdr.connection := by
  induction carried with
  | nil => cases member
  | cons first _ ih =>
      rcases List.mem_cons.mp member with here | later
      · subst here
        cases first with
        | request isFd => exact isFd
      · exact ih later

/-- The connection that this packet is about is closed at the end that is `here`. -/
def Closed (tunnels : Tunnels) (pwd : PortForwardData) : Prop :=
  if pwd.sourcetodestination then
    ∀ opening ∈ tunnels.openedHere, opening.id = pwd.socketid →
      ∀ fd, tunnels.here.table.connectionOf fd ≠ some opening.destination
  else
    ∀ opening ∈ tunnels.openedThere, opening.id = pwd.socketid →
      ∀ fd, tunnels.here.table.connectionOf fd ≠ some opening.source

/-- What the end that is `here` writes.  It accepted the sources in `openedThere` and
connected the destinations in `openedHere`. -/
structure Isolated (tunnels : Tunnels) : Prop where
  requested {pfdr : PortForwardDestinationRequest} :
    .destinationRequest pfdr ∈ tunnels.toHere →
      tunnels.there.table.connectionOf pfdr.fd = some pfdr.connection
  sources_once : (tunnels.openedThere.map Opening.source).Nodup
  destinations_once : (tunnels.openedHere.map Opening.destination).Nodup
  apart {served accepted : Opening Int} : served ∈ tunnels.openedHere →
    accepted ∈ tunnels.openedThere → served.destination ≠ accepted.source
  attributed {connection : Nat} : tunnels.here.table.wire connection ≠ [] →
    (∃ opening ∈ tunnels.openedHere, opening.destination = connection) ∨
      ∃ opening ∈ tunnels.openedThere, opening.source = connection
  bytes (connection : Nat) : tunnels.here.table.wire connection =
    (tunnels.here.table.written connection).flatten
  forward {opening : Opening Int} : opening ∈ tunnels.openedHere →
    (tunnels.here.table.written opening.destination).Sublist
      (tunnels.there.table.received opening.source)
  backward {opening : Opening Int} : opening ∈ tunnels.openedThere →
    (tunnels.here.table.written opening.source).Sublist
      (tunnels.there.table.received opening.destination)
  dropped {pwd : PortForwardData} {rest : List TunnelPacket} (answers : PacketAnswers) :
    tunnels.toHere = .data pwd :: rest → tunnels.Closed pwd →
      (tunnels.deliverHere answers (.data pwd) rest).here.table = tunnels.here.table ∧
        (tunnels.deliverHere answers (.data pwd) rest).toThere = tunnels.toThere

/-- Both ends: what was to be written to a connection is a beginning of what was read at the
other end of it. -/
theorem Orderly.forward (orderly : tunnels.Orderly) {opening : Opening Int}
    (isOpening : opening ∈ tunnels.openedHere) :
    (tunnels.here.table.offered opening.destination).map Prod.fst <+:
      tunnels.there.table.received opening.source := by
  obtain ⟨net, ⟨ownerHere, ownerThere, refines⟩, isOrderly⟩ := orderly
  rw [refines.openedHere] at isOpening
  have isPrefix := (isOrderly.sound.serves.forward_flow isOpening).isPrefix
  rwa [refines.tracks_here.offered, refines.tracks_there.received] at isPrefix

theorem Orderly.backward (orderly : tunnels.Orderly) {opening : Opening Int}
    (isOpening : opening ∈ tunnels.openedThere) :
    (tunnels.here.table.offered opening.source).map Prod.fst <+:
      tunnels.there.table.received opening.destination := by
  obtain ⟨net, ⟨ownerHere, ownerThere, refines⟩, isOrderly⟩ := orderly
  rw [refines.openedThere] at isOpening
  have isPrefix := (isOrderly.sound.accepts.backward_flow isOpening).isPrefix
  rwa [refines.tracks_here.offered, refines.tracks_there.received] at isPrefix

theorem Orderly.attributed (orderly : tunnels.Orderly) {connection : Nat}
    (offered : tunnels.here.table.offered connection ≠ []) :
    (∃ opening ∈ tunnels.openedHere, opening.destination = connection) ∨
      ∃ opening ∈ tunnels.openedThere, opening.source = connection := by
  obtain ⟨net, ⟨ownerHere, ownerThere, refines⟩, isOrderly⟩ := orderly
  rw [refines.openedHere, refines.openedThere]
  apply isOrderly.here connection
  rw [refines.tracks_here.offered]
  simpa using offered

theorem Orderly.socketOf_closed (orderly : tunnels.Orderly) {pwd : PortForwardData}
    (closed : tunnels.Closed pwd) : tunnels.here.handler.socketOf pwd = none := by
  obtain ⟨net, ⟨ownerHere, ownerThere, refines⟩, isOrderly⟩ := orderly
  obtain ⟨sourcetodestination, socketid, content⟩ := pwd
  cases sourcetodestination with
  | true =>
      rw [Closed, if_pos rfl, refines.openedHere] at closed
      rw [PortForwardHandler.socketOf, if_pos rfl]
      cases isDestination : tunnels.here.handler.destinationHandlers socketid with
      | none => rfl
      | some destination =>
          obtain ⟨fd, connection, _, _, isOpen, served⟩ := refines.destination isDestination
          obtain ⟨opening, isOpening, rfl, isId⟩ :=
            isOrderly.sound.serves.served_opening served
          exact absurd isOpen (closed opening isOpening isId fd)
  | false =>
      rw [Closed, if_neg Bool.false_ne_true, refines.openedThere] at closed
      rw [PortForwardHandler.socketOf, if_neg Bool.false_ne_true]
      dsimp only
      cases tunnels.here.handler.socketIdSourceHandlerMap socketid with
      | none => rfl
      | some index =>
          dsimp only [Option.bind_some]
          cases isSource : tunnels.here.handler.sourceHandlers[index]? with
          | none => rfl
          | some source =>
              dsimp only [Option.bind_some]
              cases isSocket : source.socketFdMap socketid with
              | none => rfl
              | some fd =>
                  obtain ⟨_, connection, isOpen, carrying⟩ := refines.socket isSource isSocket
                  obtain ⟨opening, isOpening, rfl, isId⟩ :=
                    isOrderly.sound.accepts.stage_opening (Or.inr carrying)
                  exact absurd isOpen (closed opening isOpening isId fd)

end Tunnels

theorem handlePacket_no_socket {handler : PortForwardHandler} {pwd : PortForwardData}
    (noSocket : handler.socketOf pwd = none) (answers : PacketAnswers)
    (table : DescriptorTable) :
    (handler.handlePacket answers table (.data pwd)).2.1 = table := by
  obtain ⟨sourcetodestination, socketid, content⟩ := pwd
  cases sourcetodestination with
  | true =>
      rw [PortForwardHandler.socketOf, if_pos rfl] at noSocket
      rw [PortForwardHandler.handlePacket, if_pos rfl]
      dsimp only at noSocket ⊢
      rw [PortForwardHandler.handleDestinationData]
      cases isDestination : handler.destinationHandlers socketid with
      | none => rfl
      | some destination =>
          rw [isDestination, Option.bind_some] at noSocket
          cases content with
          | buffer bytes =>
              dsimp only [ForwardDestinationHandler.write]
              rw [noSocket]
          | error _ | closed =>
              dsimp only [ForwardDestinationHandler.close]
              rw [noSocket]
  | false =>
      rw [PortForwardHandler.handlePacket, if_neg Bool.false_ne_true]
      dsimp only
      cases content with
      | buffer bytes =>
          have written := handler.sendDataToSourceOnSocket_eq table socketid bytes answers.schedule
          rw [noSocket] at written
          exact written
      | error _ | closed =>
          rw [PortForwardHandler.socketOf, if_neg Bool.false_ne_true] at noSocket
          dsimp only [PortForwardHandler.handleSourceData] at noSocket ⊢
          rw [PortForwardHandler.closeSourceSocketId]
          cases route : handler.socketIdSourceHandlerMap socketid with
          | none => rfl
          | some index =>
              rw [route, Option.bind_some] at noSocket
              dsimp only
              cases isSource : handler.sourceHandlers[index]? with
              | none => rfl
              | some source =>
                  rw [isSource, Option.bind_some] at noSocket
                  dsimp only [ForwardSourceHandler.closeSocket]
                  rw [noSocket]

namespace Tunnels

variable {tunnels : Tunnels}

theorem Orderly.isolated (orderly : tunnels.Orderly)
    (whole : ∀ connection, WholeOrNothing (tunnels.here.table.offered connection)) :
    tunnels.Isolated := by
  have written : ∀ connection, (tunnels.here.table.written connection).Sublist
      ((tunnels.here.table.offered connection).map Prod.fst) :=
    fun connection => List.Sublist.map Prod.fst List.filter_sublist
  obtain ⟨net, models, isOrderly⟩ := id orderly
  obtain ⟨ownerHere, ownerThere, refines⟩ := models
  have openedHere := refines.openedHere
  have openedThere := refines.openedThere
  constructor
  · exact carried_request refines.toHere
  · rw [openedThere]
    exact isOrderly.sound.accepts.sources_once
  · rw [openedHere]
    exact isOrderly.sound.serves.destinations_once
  · intro served accepted isServed isAccepted same
    rw [openedHere] at isServed
    rw [openedThere] at isAccepted
    have absent := (isOrderly.sound.serves.destination isServed).2
    rw [same] at absent
    exact isOrderly.sound.accepts.not_absent isAccepted absent
  · intro connection sent
    apply orderly.attributed
    intro nothing
    rw [DescriptorTable.wire, nothing] at sent
    exact sent rfl
  · exact fun connection => wholeOrNothing_bytes (whole connection)
  · intro opening isOpening
    exact (written opening.destination).trans (orderly.forward isOpening).sublist
  · intro opening isOpening
    exact (written opening.source).trans (orderly.backward isOpening).sublist
  · intro pwd rest answers _ closed
    constructor
    · exact handlePacket_no_socket (orderly.socketOf_closed closed) answers _
    · exact List.append_nil _

def WritesWhole (tunnels : Tunnels) (action : Action) : Prop :=
  ∀ connection bytes schedule, tunnels.Writes action connection bytes schedule →
    (schedule.writeAllOrReturn bytes).1 = [] ∨
      (schedule.writeAllOrReturn bytes).1 = List.range bytes.length

/-- Whatever the ends do in whatever order, the bytes that go out on a connection are chunks
that were read at the other end of it, in the order they were read and none of them twice;
what arrives for a closed connection changes nothing. -/
theorem tunnels_isolated
    (reached : forwardingSystem.ReachableBy (Admits WritesWhole) tunnels) :
    tunnels.Isolated ∧ tunnels.swap.Isolated := by
  have orderly := orderly_of_reachable reached.reachable
  have whole : (∀ connection, WholeOrNothing (tunnels.here.table.offered connection)) ∧
      ∀ connection, WholeOrNothing (tunnels.there.table.offered connection) := by
    refine histories (by simp [WholeOrNothing]) ?_ reached
    intro before action connection bytes schedule admitted writes holds write member
    rcases List.mem_append.mp member with earlier | newest
    · exact holds write earlier
    · cases List.mem_singleton.mp newest
      exact (admitted connection bytes schedule writes).imp_right beq_iff_eq.mpr
  exact ⟨orderly.isolated whole.1, orderly.swap.isolated whole.2⟩

/-! ### Writes that fail -/

/-- What goes out is a beginning of what was read at the other end: no byte goes out twice, and
nothing follows a write that was cut short. -/
structure Intact (tunnels : Tunnels) : Prop where
  forward {opening : Opening Int} : opening ∈ tunnels.openedHere →
    tunnels.here.table.wire opening.destination <+:
      (tunnels.there.table.received opening.source).flatten
  backward {opening : Opening Int} : opening ∈ tunnels.openedThere →
    tunnels.here.table.wire opening.source <+:
      (tunnels.there.table.received opening.destination).flatten
  stops (connection : Nat) : StopsAtCut (tunnels.here.table.offered connection)

theorem flatten_isPrefix {first second : List Bytes} (isPrefix : first <+: second) :
    first.flatten <+: second.flatten := by
  obtain ⟨rest, rfl⟩ := isPrefix
  rw [List.flatten_append]
  exact List.prefix_append _ _

theorem Orderly.intact (orderly : tunnels.Orderly)
    (stops : ∀ connection, StopsAtCut (tunnels.here.table.offered connection)) :
    tunnels.Intact := by
  constructor
  · intro opening isOpening
    exact (stops opening.destination).isPrefix.trans
      (flatten_isPrefix (orderly.forward isOpening))
  · intro opening isOpening
    exact (stops opening.source).isPrefix.trans
      (flatten_isPrefix (orderly.backward isOpening))
  · exact stops

/-- No write is tried again after a part of its chunk has gone out, and no data packet that comes
after a write to its socket has been cut short gets a byte through. -/
def StopsWriting (tunnels : Tunnels) (action : Action) : Prop :=
  ∀ connection bytes schedule, tunnels.Writes action connection bytes schedule →
    schedule.SendsOnce bytes ∧
      ((∃ write ∈ tunnels.here.table.offered connection, write.IsCut) →
        (schedule.writeAllOrReturn bytes).1 = [])

theorem stopsAtCut_append {writes : List ChunkWrite} (stopsAtCut : StopsAtCut writes)
    (write : ChunkWrite) :
    StopsAtCut (writes ++ [write]) ↔
      write.Exact ∧ ((∃ earlier ∈ writes, earlier.IsCut) → write.2.1 = []) := by
  constructor
  · rintro ⟨exactly, stops⟩
    refine ⟨exactly write (List.mem_append_right _ (List.mem_singleton_self _)), ?_⟩
    rintro ⟨earlier, member, isCut⟩
    exact (List.pairwise_append.mp stops).2.2 earlier member write
      (List.mem_singleton_self _) isCut
  · rintro ⟨exactly, nothing⟩
    constructor
    · intro other member
      rcases List.mem_append.mp member with earlier | newest
      · exact stopsAtCut.exactly other earlier
      · cases List.mem_singleton.mp newest
        exact exactly
    · apply List.pairwise_append.mpr
      refine ⟨stopsAtCut.stops, List.pairwise_singleton _ _, ?_⟩
      intro earlier member newest isNewest isCut
      cases List.mem_singleton.mp isNewest
      exact nothing ⟨earlier, member, isCut⟩

theorem intact_of_reached
    (reached : forwardingSystem.ReachableBy (Admits StopsWriting) tunnels) :
    tunnels.Intact ∧ tunnels.swap.Intact := by
  have orderly := orderly_of_reachable reached.reachable
  have stops : (∀ connection, StopsAtCut (tunnels.here.table.offered connection)) ∧
      ∀ connection, StopsAtCut (tunnels.there.table.offered connection) := by
    refine histories .nil ?_ reached
    intro before action connection bytes schedule admitted writes holds
    obtain ⟨once, nothing⟩ := admitted connection bytes schedule writes
    exact (stopsAtCut_append holds _).mpr ⟨(schedule.exact_iff bytes).mpr once, nothing⟩
  exact ⟨orderly.intact stops.1, orderly.swap.intact stops.2⟩

theorem act_writes {after : Tunnels} {action : Action} (act : Act tunnels action after)
    {connection : Nat} {bytes : Bytes} {schedule : WriteSchedule}
    (writes : tunnels.Writes action connection bytes schedule) :
    after.here.table.offered connection =
      tunnels.here.table.offered connection ++ [(bytes, schedule.writeAllOrReturn bytes)] := by
  cases act with
  | update => cases writes
  | @deliver answers packet rest isNext _ =>
      cases writes with
      | @deliver _ other _ _ _ isOther write =>
          cases isNext.symm.trans isOther
          have offered :=
            handlePacket_offered tunnels.here.handler answers tunnels.here.table packet
          rw [write] at offered
          exact (congrFun offered connection).trans (Function.update_self ..)

theorem stopsWriting_of_stops {after : Tunnels} {action : Action}
    (act : Act tunnels action after)
    (before : ∀ connection, StopsAtCut (tunnels.here.table.offered connection))
    (stops : ∀ connection, StopsAtCut (after.here.table.offered connection)) :
    StopsWriting tunnels action := by
  intro connection bytes schedule writes
  have still := stops connection
  rw [act_writes act writes] at still
  obtain ⟨exactly, nothing⟩ := (stopsAtCut_append (before connection) _).mp still
  exact ⟨(schedule.exact_iff bytes).mp exactly, nothing⟩

def onePipe : SocketEndpoint :=
  { name := some [47], port := none }

def oneSource : Tunnels :=
  { here :=
      { handler := .listening [{ source := onePipe, destination := onePipe }]
        table := .unused }
    there := { handler := .listening [], table := .unused }
    toHere := []
    toThere := []
    openedHere := []
    openedThere := [] }

def oneUpdate (order : List Int) (reads : List ReadAnswer) (accepts : List (Option Fd)) :
    UpdateAnswers :=
  { socketOrder := fun _ => order
    socketReads := fun _ _ => reads
    accepts := fun _ => accepts
    destinationOrder := []
    destinationReads := fun _ => [] }

/-- The socket takes so many bytes and is then closed by its peer. -/
def takes (count : Nat) : WriteSchedule :=
  { startTime := 0
    calls :=
      [{ currentTime := 0
         active := true
         startTime := 0
         rounds := [⟨.sent count, 0⟩, ⟨.failed .epipe, 0⟩] }] }

def onePacket (socketId : Int) (schedule : WriteSchedule) : PacketAnswers :=
  { networkConnect := fun _ => none
    pipeConnect := fun _ => some 9
    connectError := "Connection refused"
    rand := fun _ => socketId
    schedule := schedule }

def oneData (byte : UInt8) : TunnelPacket :=
  .data { sourcetodestination := true, socketid := 7, content := .buffer [byte] }

def oneAccepted : Tunnels :=
  oneSource.updateHere (oneUpdate [] [] [some 5])

def oneConnected : Tunnels :=
  (oneAccepted.swap.deliverHere (onePacket 7 (takes 0))
    (.destinationRequest { destination := onePipe, fd := 5, connection := 0 }) []).swap

def oneAssigned : Tunnels :=
  oneConnected.deliverHere (onePacket 8 (takes 0))
    (.destinationResponse { clientfd := 5, result := .ok 7 }) []

def oneRead : Tunnels :=
  oneAssigned.updateHere (oneUpdate [7] [.data [97], .data [98]] [])

def oneDelivered (first : WriteSchedule) : Tunnels :=
  (oneRead.swap.deliverHere (onePacket 8 first) (oneData 97) [oneData 98]).swap

def bothDelivered (first second : WriteSchedule) : Tunnels :=
  ((oneDelivered first).swap.deliverHere (onePacket 8 second) (oneData 98) []).swap

theorem step_deliver_there {answers : PacketAnswers} {packet : TunnelPacket}
    {rest : List TunnelPacket} (isNext : tunnels.toThere = packet :: rest)
    (unused : ∀ opening ∈ tunnels.openedThere, opening.id ≠ answers.rand 0) :
    forwardingSystem.step tunnels (false, .deliver answers)
      (tunnels.swap.deliverHere answers packet rest).swap :=
  @Step.there tunnels (tunnels.swap.deliverHere answers packet rest).swap _
    (@Act.deliver tunnels.swap answers packet rest isNext unused)

theorem step_update_here {answers : UpdateAnswers}
    (walks : ∀ (index : Nat) (source : ForwardSourceHandler),
      tunnels.here.handler.sourceHandlers[index]? = some source →
        Walks (answers.socketOrder index) source.socketFdMap)
    (walksDestinations :
      Walks answers.destinationOrder tunnels.here.handler.destinationHandlers) :
    forwardingSystem.step tunnels (true, .update answers) (tunnels.updateHere answers) :=
  .here (.update walks walksDestinations)

theorem oneAccepted_step : forwardingSystem.step oneSource
    (true, .update (oneUpdate [] [] [some 5])) oneAccepted := by
  apply step_update_here
  · intro index source isSource
    obtain ⟨ends, _, rfl⟩ := List.mem_map.mp (List.mem_of_getElem? isSource)
    simp [Walks, oneUpdate]
  · simp [Walks, oneUpdate, oneSource, PortForwardHandler.listening]

theorem oneAssigned_reads (reads : List ReadAnswer) : forwardingSystem.step oneAssigned
    (true, .update (oneUpdate [7] reads [])) (oneAssigned.updateHere (oneUpdate [7] reads [])) := by
  apply step_update_here
  · intro index source isSource
    have isOnly : source.socketFdMap = Function.update (fun _ => none) 7 (some 5) := by
      cases index with
      | zero =>
          cases isSource
          rfl
      | succ index => cases isSource
    rw [isOnly]
    refine ⟨List.nodup_singleton 7, fun key => ?_⟩
    by_cases isKey : key = 7
    · simp [oneUpdate, isKey]
    · simp [oneUpdate, isKey]
  · refine ⟨List.nodup_nil, fun key => ?_⟩
    exact iff_of_false List.not_mem_nil Bool.false_ne_true

theorem oneRead_reached {condition : Tunnels → Action → Prop}
    (quiet : ∀ tunnels action,
      (∀ connection bytes schedule, ¬ tunnels.Writes action connection bytes schedule) →
        condition tunnels action) :
    forwardingSystem.ReachableBy (Admits condition) oneRead := by
  have start : forwardingSystem.ReachableBy (Admits condition) oneSource := .start ⟨_, _, rfl⟩
  have accepted : forwardingSystem.ReachableBy (Admits condition) oneAccepted := by
    refine start.next ?_ oneAccepted_step
    apply quiet
    rintro _ _ _ ⟨⟩
  have connected : forwardingSystem.ReachableBy (Admits condition) oneConnected := by
    refine accepted.next ?_ (step_deliver_there rfl (fun opening member => by cases member))
    apply quiet
    rintro _ _ _ ⟨isNext, write⟩
    cases isNext
    cases write
  have assigned : forwardingSystem.ReachableBy (Admits condition) oneAssigned := by
    refine connected.next ?_ (.here (.deliver rfl (fun opening member => by cases member)))
    apply quiet
    rintro _ _ _ ⟨isNext, write⟩
    cases isNext
    cases write
  refine assigned.next ?_ (oneAssigned_reads [.data [97], .data [98]])
  apply quiet
  rintro _ _ _ ⟨⟩

theorem oneOpening_id {opening : Opening Int} (member : opening ∈ oneRead.openedThere) :
    opening.id = 7 := by
  change opening ∈ [({ source := 0, destination := 0, id := 7 } : Opening Int)] at member
  cases List.mem_singleton.mp member
  rfl

theorem oneDelivered_step (first : WriteSchedule) : forwardingSystem.step oneRead
    (false, .deliver (onePacket 8 first)) (oneDelivered first) := by
  apply step_deliver_there
  · rfl
  · intro opening member
    rw [oneOpening_id member]
    exact (by decide : (7 : Int) ≠ 8)

theorem bothDelivered_step (first second : WriteSchedule) :
    forwardingSystem.step (oneDelivered first) (false, .deliver (onePacket 8 second))
      (bothDelivered first second) := by
  apply step_deliver_there
  · rfl
  · intro opening member
    rw [oneOpening_id member]
    exact (by decide : (7 : Int) ≠ 8)

theorem oneDelivered_writes {first schedule : WriteSchedule} {connection : Nat} {bytes : Bytes}
    (writes : oneRead.swap.Writes (.deliver (onePacket 8 first)) connection bytes schedule) :
    connection = 0 ∧ bytes = [97] ∧ schedule = first := by
  cases writes with
  | deliver isNext write =>
      cases isNext
      cases write
      exact ⟨rfl, rfl, rfl⟩

theorem bothDelivered_writes {first second schedule : WriteSchedule} {connection : Nat}
    {bytes : Bytes}
    (writes : (oneDelivered first).swap.Writes (.deliver (onePacket 8 second)) connection bytes
      schedule) : connection = 0 ∧ bytes = [98] ∧ schedule = second := by
  cases writes with
  | deliver isNext write =>
      cases isNext
      cases write
      exact ⟨rfl, rfl, rfl⟩

/-- Both bytes go through. -/
theorem tunnels_isolated_two_bytes :
    (bothDelivered (takes 1) (takes 1)).there.table.wire 0 = [97, 98] ∧
      (bothDelivered (takes 1) (takes 1)).Isolated ∧
      (bothDelivered (takes 1) (takes 1)).swap.Isolated := by
  refine ⟨by decide, tunnels_isolated ?_⟩
  have read : forwardingSystem.ReachableBy (Admits WritesWhole) oneRead :=
    oneRead_reached fun _ _ quiet _ _ _ writes => absurd writes (quiet _ _ _)
  have first : forwardingSystem.ReachableBy (Admits WritesWhole) (oneDelivered (takes 1)) := by
    refine read.next ?_ (oneDelivered_step (takes 1))
    intro connection bytes schedule writes
    obtain ⟨_, rfl, rfl⟩ := oneDelivered_writes writes
    exact Or.inr rfl
  refine first.next ?_ (bothDelivered_step (takes 1) (takes 1))
  intro connection bytes schedule writes
  obtain ⟨_, rfl, rfl⟩ := bothDelivered_writes writes
  exact Or.inr rfl

end Tunnels

end EternalTerminal
