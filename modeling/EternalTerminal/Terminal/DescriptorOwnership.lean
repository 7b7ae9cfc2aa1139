/-
Every descriptor of a `PortForwardHandler` stays in its place while it is open, whatever the
operations and the packets.
-/

import EternalTerminal.Terminal.DescriptorPlaces

namespace EternalTerminal

open Library HandleCall

/-! ### What one operation does -/

/-- The operation makes these calls as it should, if the descriptors are where they should be,
and leaves them there. -/
def Accounts (handler : PortForwardHandler) (table : DescriptorTable)
    (calls : List DescriptorCall) (after : PortForwardHandler) (afterTable : DescriptorTable) :
    Prop :=
  Sole handler table.openFds →
    Sole after afterTable.openFds ∧ Leads table.openFds calls afterTable.openFds

namespace Accounts

variable {handler between after : PortForwardHandler}
  {table betweenTable afterTable : DescriptorTable} {calls first second : List DescriptorCall}

theorem refl (handler : PortForwardHandler) (table : DescriptorTable) :
    Accounts handler table [] handler table :=
  fun sole => ⟨sole, .nil _⟩

theorem trans (before : Accounts handler table first between betweenTable)
    (later : Accounts between betweenTable second after afterTable) :
    Accounts handler table (first ++ second) after afterTable := by
  intro sole
  obtain ⟨soleBetween, begins⟩ := before sole
  obtain ⟨soleAfter, ends⟩ := later soleBetween
  exact ⟨soleAfter, begins.append ends⟩

end Accounts

/-! ### Reading -/

theorem readWhileData_openFds (fd : Fd) (answers : List ReadAnswer) (table : DescriptorTable) :
    (readWhileData fd answers table).1.openFds =
      if (readWhileData fd answers table).2.2 then table.openFds \ {fd} else table.openFds := by
  induction answers generalizing table with
  | nil => rfl
  | cons answer rest ih =>
      cases answer with
      | failed errno =>
          rw [readWhileData]
          split
          · rfl
          · exact table.openFds_close fd
      | closed => exact table.openFds_close fd
      | data bytes =>
          have later := ih (table.read fd bytes)
          rw [DescriptorTable.openFds_read] at later
          exact later

theorem readCalls_lead {fd : Fd} {table : DescriptorTable} (isOpen : fd ∈ table.openFds)
    (answers : List ReadAnswer) :
    Leads table.openFds (readCalls fd answers) (readWhileData fd answers table).1.openFds := by
  induction answers generalizing table with
  | nil => exact .used_one isOpen
  | cons answer rest ih =>
      cases answer with
      | failed errno =>
          rw [readWhileData, readCalls]
          split
          · exact .used_one isOpen
          · rw [DescriptorTable.openFds_close]
            exact .used isOpen (.closed_one isOpen)
      | closed =>
          rw [readWhileData, readCalls, DescriptorTable.openFds_close]
          exact .used isOpen (.closed_one isOpen)
      | data bytes =>
          have stillOpen : fd ∈ (table.read fd bytes).openFds := by
            rw [DescriptorTable.openFds_read]
            exact isOpen
          have later := ih stillOpen
          rw [DescriptorTable.openFds_read] at later
          exact .used isOpen later

namespace Accounts

variable {handler : PortForwardHandler} {table : DescriptorTable} {index : Nat}
  {source : ForwardSourceHandler} {fd : Fd} {socketId : Int}

theorem socketReads (isSource : handler.sourceHandlers[index]? = some source)
    (isSocket : source.socketFdMap socketId = some fd) (answers : List ReadAnswer)
    (table : DescriptorTable) :
    Accounts handler table (readCalls fd answers)
      (if (readWhileData fd answers table).2.2 then
        handler.setSource index
          { source with socketFdMap := Function.update source.socketFdMap socketId none }
      else handler)
      (readWhileData fd answers table).1 := by
  intro sole
  have held : handler.Held fd (.socket index socketId) := ⟨source, isSource, isSocket⟩
  refine ⟨?_, readCalls_lead (sole.isOpen held) answers⟩
  rw [readWhileData_openFds]
  split
  · exact sole.removesSocket isSource isSocket
  · exact sole

/-- As in `simulates_updateSockets`, the sockets may be taken out one by one. -/
theorem updateSockets (reads : Int → List ReadAnswer) (order gone : List Int)
    (once : order.Nodup) (apart : ∀ socketId ∈ order, socketId ∉ gone)
    {handler : PortForwardHandler}
    (isSource : handler.sourceHandlers[index]? = some (source.without gone))
    (table : DescriptorTable) :
    Accounts handler table (ForwardSourceHandler.updateCalls source.socketFdMap reads order)
      (handler.setSource index (source.without (gone ++
        (ForwardSourceHandler.updateSockets source.socketFdMap reads order table).2.2)))
      (ForwardSourceHandler.updateSockets source.socketFdMap reads order table).1 := by
  induction order generalizing gone handler table with
  | nil =>
      rw [ForwardSourceHandler.updateSockets, List.append_nil, setSource_self isSource]
      exact refl handler table
  | cons socketId rest ih =>
      obtain ⟨later, restOnce⟩ := List.nodup_cons.mp once
      have restApart : ∀ other ∈ rest, other ∉ gone :=
        fun other member => apart other (List.mem_cons_of_mem _ member)
      rw [ForwardSourceHandler.updateSockets, ForwardSourceHandler.updateCalls]
      cases isSocket : source.socketFdMap socketId with
      | none => exact ih gone restOnce restApart isSource table
      | some fd =>
          have isThere : (source.without gone).socketFdMap socketId = some fd :=
            (if_neg (apart socketId List.mem_cons_self)).trans isSocket
          have reading := socketReads isSource isThere (reads socketId) table
          dsimp only
          generalize readWhileData fd (reads socketId) table = result at reading ⊢
          obtain ⟨read, contents, ended⟩ := result
          dsimp only at reading ⊢
          cases ended with
          | false => exact reading.trans (ih gone restOnce restApart isSource read)
          | true =>
              rw [if_pos rfl, ForwardSourceHandler.without_update] at reading
              have stillApart : ∀ other ∈ rest, other ∉ gone ++ [socketId] := by
                intro other member isGone
                rcases List.mem_append.mp isGone with before | here
                · exact restApart other member before
                · exact later (List.mem_singleton.mp here ▸ member)
              have others := ih (gone ++ [socketId]) restOnce stillApart
                (setSource_getElem isSource _) read
              rw [setSource_setSource, List.append_assoc] at others
              exact reading.trans others

theorem listen (isSource : handler.sourceHandlers[index]? = some source)
    (answers : List (Option Fd)) (table : DescriptorTable) :
    Accounts handler table (ForwardSourceHandler.listenCalls answers table)
      (handler.setSource index (source.listen answers table).1)
      (source.listen answers table).2.1 := by
  unfold ForwardSourceHandler.listen ForwardSourceHandler.listenCalls
  cases granted : ForwardSourceHandler.acceptFirst table answers with
  | none =>
      rw [setSource_self isSource]
      exact refl handler table
  | some fd =>
      intro sole
      have fresh : fd ∉ table.openFds :=
        DescriptorTable.not_mem_openFds.mpr (Tunnels.acceptFirst_free granted)
      dsimp only
      rw [DescriptorTable.openFds_openFd]
      exact ⟨sole.accepts isSource fresh, .opened_one fresh⟩

/-- `done` are the source handlers that have been updated. -/
theorem updateSources (answers : UpdateAnswers) (rest done : List ForwardSourceHandler)
    {handler : PortForwardHandler} (sources : handler.sourceHandlers = done ++ rest)
    (walks : ∀ (place : Nat) (source : ForwardSourceHandler), rest[place]? = some source →
      (answers.socketOrder (done.length + place)).Nodup)
    (table : DescriptorTable) :
    Accounts handler table
      (PortForwardHandler.updateSourcesCalls answers done.length rest table)
      { handler with
        sourceHandlers := done ++
          (PortForwardHandler.updateSources answers done.length rest table).1 }
      (PortForwardHandler.updateSources answers done.length rest table).2.1 := by
  induction rest generalizing done handler table with
  | nil =>
      rw [PortForwardHandler.updateSources, ← sources]
      exact refl handler table
  | cons source others ih =>
      have isSource : handler.sourceHandlers[done.length]? = some (source.without []) := by
        rw [sources, source.without_nil]
        simp
      have sockets := updateSockets (answers.socketReads done.length)
        (answers.socketOrder done.length) [] (walks 0 source rfl)
        (fun _ _ impossible => by cases impossible) isSource table
      rw [PortForwardHandler.updateSources, PortForwardHandler.updateSourcesCalls,
        ForwardSourceHandler.update_eq]
      rw [List.nil_append] at sockets
      dsimp only
      generalize ForwardSourceHandler.updateSockets source.socketFdMap
        (answers.socketReads done.length) (answers.socketOrder done.length) table = result
        at sockets ⊢
      obtain ⟨read, contents, removed⟩ := result
      dsimp only at sockets ⊢
      have listening := listen (setSource_getElem isSource (source.without removed))
        (answers.accepts done.length) read
      rw [setSource_setSource] at listening
      generalize (source.without removed).listen (answers.accepts done.length) read = heard
        at listening ⊢
      obtain ⟨listened, afterListen, answer⟩ := heard
      dsimp only at listening ⊢
      have replaced : (handler.setSource done.length listened).sourceHandlers =
          (done ++ [listened]) ++ others := by
        rw [PortForwardHandler.setSource, sources]
        simp
      have rest := ih (done ++ [listened]) replaced
        (fun place other isOther => by
          have walked := walks (place + 1) other isOther
          rwa [List.length_append, List.length_singleton, Nat.add_assoc, Nat.add_comm 1])
        afterListen
      rw [List.length_append, List.length_singleton, List.append_assoc] at rest
      exact (sockets.trans listening).trans rest

theorem destinationReads {destination : ForwardDestinationHandler}
    (isDestination : handler.destinationHandlers socketId = some destination)
    (hasFd : destination.fd = some fd) (answers : List ReadAnswer) (table : DescriptorTable) :
    Accounts handler table (readCalls fd answers)
      (if (readWhileData fd answers table).2.2 then
        { handler with
          destinationHandlers := Function.update handler.destinationHandlers socketId none }
      else handler)
      (readWhileData fd answers table).1 := by
  intro sole
  have held : handler.Held fd (.destination socketId) := ⟨destination, isDestination, hasFd⟩
  refine ⟨?_, readCalls_lead (sole.isOpen held) answers⟩
  rw [readWhileData_openFds]
  split
  · exact sole.removesDestination isDestination hasFd
  · exact sole

theorem updateDestinations (reads : Int → List ReadAnswer) (order : List Int)
    (handler : PortForwardHandler) (table : DescriptorTable) :
    Accounts handler table
      (PortForwardHandler.updateDestinationsCalls reads order handler.destinationHandlers table)
      { handler with
        destinationHandlers := (PortForwardHandler.updateDestinations reads order
          handler.destinationHandlers table).1 }
      (PortForwardHandler.updateDestinations reads order handler.destinationHandlers
        table).2.1 := by
  induction order generalizing handler table with
  | nil => exact refl handler table
  | cons socketId rest ih =>
      rw [PortForwardHandler.updateDestinations, PortForwardHandler.updateDestinationsCalls]
      cases isDestination : handler.destinationHandlers socketId with
      | none => exact ih handler table
      | some destination =>
          obtain ⟨socket, number⟩ := destination
          cases socket with
          | none =>
              intro sole
              exact absurd rfl (sole.connected isDestination)
          | some fd =>
              have reading := destinationReads isDestination rfl (reads socketId) table
              rcases result : readWhileData fd (reads socketId) table with ⟨read, contents, ended⟩
              rw [result] at reading
              simp only [ForwardDestinationHandler.update, ForwardDestinationHandler.updateCalls,
                result]
              dsimp only at reading
              cases ended with
              | true =>
                  simp only [if_true]
                  exact reading
              | false =>
                  have unchanged : Function.update handler.destinationHandlers socketId
                      (some { fd := some fd, socketId := number }) =
                        handler.destinationHandlers := by
                    rw [← isDestination]
                    exact Function.update_eq_self socketId _
                  simp only [Bool.false_eq_true, if_false, reduceCtorEq, unchanged]
                  exact reading.trans (ih handler read)

theorem update {answers : UpdateAnswers}
    (walks : ∀ (index : Nat) (source : ForwardSourceHandler),
      handler.sourceHandlers[index]? = some source →
        Tunnels.Walks (answers.socketOrder index) source.socketFdMap)
    (table : DescriptorTable) :
    Accounts handler table (handler.updateCalls answers table)
      (handler.update answers table).1 (handler.update answers table).2.1 := by
  have once : ∀ (place : Nat) (source : ForwardSourceHandler),
      handler.sourceHandlers[place]? = some source →
        (answers.socketOrder (([] : List ForwardSourceHandler).length + place)).Nodup := by
    intro place source isSource
    rw [List.length_nil, Nat.zero_add]
    exact (walks place source isSource).1
  have sources := @updateSources answers handler.sourceHandlers [] handler rfl once table
  exact sources.trans (updateDestinations answers.destinationReads answers.destinationOrder
    { handler with
      sourceHandlers :=
        (PortForwardHandler.updateSources answers 0 handler.sourceHandlers table).1 }
    (PortForwardHandler.updateSources answers 0 handler.sourceHandlers table).2.1)

/-! ### Packets -/

theorem createDestination (handler : PortForwardHandler) (answers : PacketAnswers)
    (table : DescriptorTable) (pfdr : PortForwardDestinationRequest) :
    Accounts handler table (PortForwardHandler.createDestinationCalls answers table pfdr)
      (handler.createDestination answers table pfdr).1
      (handler.createDestination answers table pfdr).2.1 := by
  unfold PortForwardHandler.createDestination PortForwardHandler.createDestinationCalls
  cases connected : PortForwardHandler.connectDestination answers table pfdr.destination with
  | none => exact refl handler table
  | some fd =>
      intro sole
      have fresh : fd ∉ table.openFds :=
        DescriptorTable.not_mem_openFds.mpr (Tunnels.connectDestination_free connected)
      dsimp only
      split
      · dsimp only
        rw [DescriptorTable.openFds_openFd]
        refine ⟨?_, .opened_one fresh⟩
        exact ⟨sole.once, fun held => Set.mem_insert_of_mem _ (sole.isOpen held), sole.connected⟩
      · dsimp only
        rw [DescriptorTable.openFds_openFd]
        exact ⟨sole.connects fresh _, .opened_one fresh⟩

theorem closeSourceFd (handler : PortForwardHandler) (table : DescriptorTable) (fd : Fd) :
    Accounts handler table (handler.closeSourceFdCalls fd)
      (handler.closeSourceFd table fd).1 (handler.closeSourceFd table fd).2 := by
  unfold PortForwardHandler.closeSourceFd PortForwardHandler.closeSourceFdCalls
  cases handler.findUnassigned fd with
  | none => exact refl handler table
  | some index =>
      cases isSource : handler.sourceHandlers[index]? with
      | none =>
          simp only [isSource]
          exact refl handler table
      | some source =>
          simp only [isSource]
          unfold ForwardSourceHandler.closeUnassignedFd
            ForwardSourceHandler.closeUnassignedFdCalls
          by_cases has : source.hasUnassignedFd fd = true
          · rw [if_pos has, if_pos has]
            intro sole
            have member : fd ∈ source.unassignedFds := of_decide_eq_true has
            have held : handler.Held fd (.unassigned index) := ⟨source, isSource, member⟩
            rw [DescriptorTable.openFds_close]
            exact ⟨sole.discards isSource member, .closed_one (sole.isOpen held)⟩
          · rw [if_neg has, if_neg has, setSource_self isSource]
            exact refl handler table

theorem addSourceSocketId (handler : PortForwardHandler) (table : DescriptorTable)
    (socketId : Int) (sourceFd : Fd) :
    Accounts handler table [] (handler.addSourceSocketId socketId sourceFd) table := by
  unfold PortForwardHandler.addSourceSocketId
  cases handler.findUnassigned sourceFd with
  | none => exact refl handler table
  | some index =>
      cases isSource : handler.sourceHandlers[index]? with
      | none =>
          simp only [isSource]
          exact refl handler table
      | some source =>
          simp only [isSource]
          intro sole
          refine ⟨?_, .nil _⟩
          unfold ForwardSourceHandler.addSocket
          by_cases has : source.hasUnassignedFd sourceFd = true
          · rw [if_pos has]
            exact sole.assigns isSource (of_decide_eq_true has) socketId
          · rw [if_neg has, setSource_self isSource]
            exact ⟨sole.once, sole.isOpen, sole.connected⟩

theorem closeSourceSocketId (handler : PortForwardHandler) (table : DescriptorTable)
    (socketId : Int) :
    Accounts handler table (handler.closeSourceSocketIdCalls socketId)
      (handler.closeSourceSocketId table socketId).1
      (handler.closeSourceSocketId table socketId).2 := by
  unfold PortForwardHandler.closeSourceSocketId PortForwardHandler.closeSourceSocketIdCalls
  cases handler.socketIdSourceHandlerMap socketId with
  | none => exact refl handler table
  | some index =>
      cases isSource : handler.sourceHandlers[index]? with
      | none =>
          simp only [isSource]
          exact refl handler table
      | some source =>
          simp only [isSource]
          intro sole
          unfold ForwardSourceHandler.closeSocket ForwardSourceHandler.closeSocketCalls
          cases isSocket : source.socketFdMap socketId with
          | none =>
              dsimp only
              rw [setSource_self isSource]
              exact ⟨⟨sole.once, sole.isOpen, sole.connected⟩, .nil _⟩
          | some fd =>
              have held : handler.Held fd (.socket index socketId) :=
                ⟨source, isSource, isSocket⟩
              dsimp only
              rw [DescriptorTable.openFds_close]
              exact ⟨sole.removesSocket isSource isSocket, .closed_one (sole.isOpen held)⟩

theorem sendDataToSourceOnSocket (handler : PortForwardHandler) (table : DescriptorTable)
    (socketId : Int) (data : Bytes) (schedule : WriteSchedule) :
    Accounts handler table (handler.sendDataToSourceOnSocketCalls socketId) handler
      (handler.sendDataToSourceOnSocket socketId data schedule table) := by
  unfold PortForwardHandler.sendDataToSourceOnSocket
    PortForwardHandler.sendDataToSourceOnSocketCalls
  cases handler.socketIdSourceHandlerMap socketId with
  | none => exact refl handler table
  | some index =>
      cases isSource : handler.sourceHandlers[index]? with
      | none =>
          simp only [isSource]
          exact refl handler table
      | some source =>
          simp only [isSource]
          intro sole
          unfold ForwardSourceHandler.sendDataOnSocket ForwardSourceHandler.sendDataOnSocketCalls
          cases isSocket : source.socketFdMap socketId with
          | none => exact ⟨sole, .nil _⟩
          | some fd =>
              have held : handler.Held fd (.socket index socketId) :=
                ⟨source, isSource, isSocket⟩
              dsimp only
              rw [DescriptorTable.openFds_write]
              exact ⟨sole, .used_one (sole.isOpen held)⟩

theorem destinationData (handler : PortForwardHandler) (table : DescriptorTable)
    (schedule : WriteSchedule) (socketid : Int) (content : PortForwardContent) :
    Accounts handler table (handler.destinationDataCalls socketid content)
      (handler.handleDestinationData table schedule socketid content).1
      (handler.handleDestinationData table schedule socketid content).2 := by
  unfold PortForwardHandler.handleDestinationData PortForwardHandler.destinationDataCalls
  cases isDestination : handler.destinationHandlers socketid with
  | none =>
      cases content with
      | buffer bytes => exact refl handler table
      | error errno => exact refl handler table
      | closed => exact refl handler table
  | some destination =>
      intro sole
      obtain ⟨fd, hasFd⟩ := Option.ne_none_iff_exists'.mp (sole.connected isDestination)
      have held : handler.Held fd (.destination socketid) := ⟨destination, isDestination, hasFd⟩
      have closes : Sole { handler with
            destinationHandlers := Function.update handler.destinationHandlers socketid none }
            (destination.close table).openFds ∧
          Leads table.openFds destination.closeCalls (destination.close table).openFds := by
        unfold ForwardDestinationHandler.close ForwardDestinationHandler.closeCalls
        rw [hasFd]
        dsimp only
        rw [DescriptorTable.openFds_close]
        exact ⟨sole.removesDestination isDestination hasFd, .closed_one (sole.isOpen held)⟩
      cases content with
      | buffer bytes =>
          unfold ForwardDestinationHandler.write ForwardDestinationHandler.writeCalls
          dsimp only
          rw [hasFd]
          dsimp only
          rw [DescriptorTable.openFds_write]
          exact ⟨sole, .used_one (sole.isOpen held)⟩
      | error errno => exact closes
      | closed => exact closes

theorem sourceData (handler : PortForwardHandler) (table : DescriptorTable)
    (schedule : WriteSchedule) (socketid : Int) (content : PortForwardContent) :
    Accounts handler table (handler.sourceDataCalls socketid content)
      (handler.handleSourceData table schedule socketid content).1
      (handler.handleSourceData table schedule socketid content).2 := by
  cases content with
  | buffer bytes => exact sendDataToSourceOnSocket handler table socketid bytes schedule
  | error errno => exact closeSourceSocketId handler table socketid
  | closed => exact closeSourceSocketId handler table socketid

theorem handlePacket (handler : PortForwardHandler) (answers : PacketAnswers)
    (table : DescriptorTable) (packet : TunnelPacket) :
    Accounts handler table (handler.handlePacketCalls answers table packet)
      (handler.handlePacket answers table packet).1
      (handler.handlePacket answers table packet).2.1 := by
  cases packet with
  | data pwd =>
      unfold PortForwardHandler.handlePacket PortForwardHandler.handlePacketCalls
      cases forDestination : pwd.sourcetodestination with
      | true =>
          simp only [forDestination, if_true]
          exact destinationData handler table answers.schedule pwd.socketid pwd.content
      | false =>
          simp only [forDestination, Bool.false_eq_true, if_false]
          exact sourceData handler table answers.schedule pwd.socketid pwd.content
  | destinationRequest pfdr => exact createDestination handler answers table pfdr
  | destinationResponse pfdr =>
      unfold PortForwardHandler.handlePacket PortForwardHandler.handlePacketCalls
      cases answered : pfdr.result with
      | error what =>
          simp only [answered]
          exact closeSourceFd handler table pfdr.clientfd
      | ok socketid =>
          simp only [answered]
          exact addSourceSocketId handler table socketid pfdr.clientfd

end Accounts

/-! ### Any run -/

namespace ForwardingState

variable {state after : ForwardingState}

/-- What holds between two operations: the tables of the handler are disjoint and without
duplicates, everything in them is open, and no call has gone to a descriptor that was not open at
the time.  `reopened` says it once more for a descriptor that has been closed. -/
structure OwnsDescriptors (state : ForwardingState) : Prop where
  once {fd : Fd} {first second : Owner} :
    state.handler.Held fd first → state.handler.Held fd second → first = second
  isOpen {fd : Fd} {holder : Owner} : state.handler.Held fd holder → fd ∈ state.table.openFds
  connected {socketId : Int} {destination : ForwardDestinationHandler} :
    state.handler.destinationHandlers socketId = some destination → destination.fd ≠ none
  calls : Leads ∅ state.calls state.table.openFds
  reopened {fd : Fd} {call : DescriptorCall} {before between later : List DescriptorCall} :
    call.Needs fd → state.calls = before ++ .closed fd :: (between ++ call :: later) →
      .opened fd ∈ between

def Sound (state : ForwardingState) : Prop :=
  Sole state.handler state.table.openFds ∧ Leads ∅ state.calls state.table.openFds

theorem Sound.step (sound : state.Sound) {handler : PortForwardHandler}
    {table : DescriptorTable} {calls : List DescriptorCall}
    (accounts : Accounts state.handler state.table calls handler table) :
    (state.step handler table calls).Sound := by
  obtain ⟨sole, leads⟩ := accounts sound.1
  exact ⟨sole, sound.2.append leads⟩

theorem Step.sound {event : ForwardingEvent} (step : Step state event after)
    (sound : state.Sound) : after.Sound := by
  cases step with
  | update walks _ ran =>
      have accounts := Accounts.update walks state.table
      rw [ran] at accounts
      exact sound.step accounts
  | createSource _ => exact ⟨sound.1.addSources _, sound.2⟩
  | createDestination ran =>
      rename_i answers pfdr _ _ _ _
      have accounts := Accounts.createDestination state.handler answers state.table pfdr
      rw [ran] at accounts
      exact sound.step accounts
  | handlePacket ran =>
      rename_i answers packet _ _ _ _
      have accounts := Accounts.handlePacket state.handler answers state.table packet
      rw [ran] at accounts
      exact sound.step accounts
  | closeSourceFd ran =>
      rename_i fd _ _
      have accounts := Accounts.closeSourceFd state.handler state.table fd
      rw [ran] at accounts
      exact sound.step accounts
  | closeNegativeFd _ => exact sound
  | addSourceSocketId =>
      exact sound.step (Accounts.addSourceSocketId state.handler state.table _ _)
  | addNegativeFd _ => exact sound
  | closeSourceSocketId ran =>
      rename_i socketId _ _
      have accounts := Accounts.closeSourceSocketId state.handler state.table socketId
      rw [ran] at accounts
      exact sound.step accounts

theorem initial_sound : initial.Sound := by
  have noneOpen : initial.table.openFds = ∅ := by
    ext fd
    simp [DescriptorTable.openFds, initial, DescriptorTable.unused]
  refine ⟨Sole.listening [] _, ?_⟩
  rw [noneOpen]
  exact .nil ∅

theorem reachable_sound (reached : oneHandlerSystem.Reachable state) : state.Sound := by
  induction reached with
  | start initially =>
      cases initially
      exact initial_sound
  | next _ _ step sound => exact step.sound sound

theorem descriptors_owned (reached : oneHandlerSystem.Reachable state) :
    state.OwnsDescriptors := by
  obtain ⟨sole, leads⟩ := reachable_sound reached
  constructor
  · exact sole.once
  · exact sole.isOpen
  · exact sole.connected
  · exact leads
  · intro fd call before between later needs same
    rw [same] at leads
    exact leads.reopened needs

def oneListener : ForwardingState :=
  { initial with
    handler := .listening
      [{ source := { name := none, port := some 8080 }
         destination := TunnelServer.wantsPort8080.destination }] }

theorem oneListener_reachable : oneHandlerSystem.Reachable oneListener := by
  have started : oneHandlerSystem.Reachable initial := .start rfl
  exact started.next (.createSource rfl : Step initial
    (.createSource { portServerSockets := fun _ => none } TunnelServer.grantingKernel
      TunnelServer.wantsPort8080 false 0 0) _)

/-- A connection is accepted and then refused by the peer. -/
theorem descriptors_owned_refused :
    ∃ state, oneHandlerSystem.Reachable state ∧ state.calls = [.opened 7, .closed 7] ∧
      state.OwnsDescriptors := by
  let answers : UpdateAnswers :=
    { socketOrder := fun _ => []
      socketReads := fun _ _ => []
      accepts := fun _ => [some 7]
      destinationOrder := []
      destinationReads := fun _ => [] }
  have walks : ∀ (index : Nat) (source : ForwardSourceHandler),
      oneListener.handler.sourceHandlers[index]? = some source →
        Tunnels.Walks (answers.socketOrder index) source.socketFdMap := by
    intro index source isSource
    obtain ⟨ends, _, rfl⟩ := List.mem_map.mp (List.mem_of_getElem? isSource)
    exact ⟨List.nodup_nil, fun key => by simp [answers]⟩
  have walksDestinations :
      Tunnels.Walks answers.destinationOrder oneListener.handler.destinationHandlers :=
    ⟨List.nodup_nil, fun key => by simp [answers, oneListener, PortForwardHandler.listening]⟩
  have accepted := oneListener_reachable.next (.update walks walksDestinations rfl)
  have refused := accepted.next (.closeSourceFd rfl : Step _ (.closeSourceFd (7 : Nat)) _)
  exact ⟨_, refused, rfl, descriptors_owned refused⟩

end ForwardingState

end EternalTerminal
