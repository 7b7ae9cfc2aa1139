/-
`update` and `handlePacket` as moves of the multiplexer, and the streams of the tunnels.
-/

import EternalTerminal.Terminal.TunnelRefinement

namespace EternalTerminal

open Library Library.Multiplexer

namespace Tunnels

variable {tunnels : Tunnels}

/-- The state in which this end has got so far and sent these packets. -/
def put (tunnels : Tunnels) (handler : PortForwardHandler) (table : DescriptorTable)
    (packets : List TunnelPacket) : Tunnels :=
  { tunnels with
    here := { handler := handler, table := table }
    toThere := packets }

/-! ### The reading loops -/

/-- The induction is on the answers of `read`; an answer that ends the loop closes the
descriptor and takes the socket out at once. -/
theorem simulates_socketReads {handler : PortForwardHandler} {index : Nat}
    {source : ForwardSourceHandler} {socketId : Int} {fd : Fd}
    (isSource : handler.sourceHandlers[index]? = some source)
    (isSocket : source.socketFdMap socketId = some fd) (answers : List ReadAnswer)
    (table : DescriptorTable) (packets : List TunnelPacket) :
    Simulates (tunnels.put handler table packets)
      (tunnels.put
        (if (readWhileData fd answers table).2.2 then
          handler.setSource index
            { source with socketFdMap := Function.update source.socketFdMap socketId none }
        else handler)
        (readWhileData fd answers table).1
        (packets ++ ((readWhileData fd answers table).2.1.map
          (PortForwardData.mk true socketId)).map .data)) := by
  induction answers generalizing table packets with
  | nil =>
      rw [readWhileData]
      simpa using Simulates.refl _
  | cons answer rest ih =>
      cases answer with
      | data bytes =>
          have read := @simulates_readSocket (tunnels.put handler table packets) _ _ _ _
            isSource isSocket bytes
          have others := ih (table.read fd bytes)
            (packets ++ [.data (PortForwardData.mk true socketId (.buffer bytes))])
          rw [readWhileData]
          simpa [put] using read.trans others
      | closed =>
          rw [readWhileData]
          exact @simulates_endSocket (tunnels.put handler table packets) _ _ _ _
            isSource isSocket .closed rfl
      | failed errno =>
          rw [readWhileData]
          by_cases again : errno = .eagain ∨ errno = .ewouldblock
          · rw [if_pos again]
            simpa using Simulates.refl _
          · rw [if_neg again]
            exact @simulates_endSocket (tunnels.put handler table packets) _ _ _ _
              isSource isSocket (.error errno) rfl

theorem simulates_destinationReads {handler : PortForwardHandler} {socketId : Int} {fd : Fd}
    (isDestination : handler.destinationHandlers socketId =
      some { fd := some fd, socketId := socketId }) (answers : List ReadAnswer)
    (table : DescriptorTable) (packets : List TunnelPacket) :
    Simulates (tunnels.put handler table packets)
      (tunnels.put
        (if (readWhileData fd answers table).2.2 then
          { handler with
            destinationHandlers := Function.update handler.destinationHandlers socketId none }
        else handler)
        (readWhileData fd answers table).1
        (packets ++ ((readWhileData fd answers table).2.1.map
          (PortForwardData.mk false socketId)).map .data)) := by
  induction answers generalizing table packets with
  | nil =>
      rw [readWhileData]
      simpa using Simulates.refl _
  | cons answer rest ih =>
      cases answer with
      | data bytes =>
          have read := @simulates_readDestination (tunnels.put handler table packets) _ _ _
            isDestination rfl bytes
          have others := ih (table.read fd bytes)
            (packets ++ [.data (PortForwardData.mk false socketId (.buffer bytes))])
          rw [readWhileData]
          simpa [put] using read.trans others
      | closed =>
          rw [readWhileData]
          exact @simulates_endDestination (tunnels.put handler table packets) _ _ _
            isDestination rfl .closed rfl
      | failed errno =>
          rw [readWhileData]
          by_cases again : errno = .eagain ∨ errno = .ewouldblock
          · rw [if_pos again]
            simpa using Simulates.refl _
          · rw [if_neg again]
            exact @simulates_endDestination (tunnels.put handler table packets) _ _ _
              isDestination rfl (.error errno) rfl

end Tunnels

/-! ### The sockets of one source handler -/

def ForwardSourceHandler.without (source : ForwardSourceHandler) (removed : List Int) :
    ForwardSourceHandler :=
  { source with
    socketFdMap := fun socketId =>
      if socketId ∈ removed then none else source.socketFdMap socketId }

@[simp] theorem ForwardSourceHandler.without_nil (source : ForwardSourceHandler) :
    source.without [] = source := rfl

theorem ForwardSourceHandler.without_update (source : ForwardSourceHandler)
    (removed : List Int) (socketId : Int) :
    { source.without removed with
      socketFdMap := Function.update (source.without removed).socketFdMap socketId none } =
      source.without (removed ++ [socketId]) := by
  have maps : Function.update (source.without removed).socketFdMap socketId none =
      (source.without (removed ++ [socketId])).socketFdMap := by
    funext other
    by_cases same : other = socketId
    · subst same
      simp [ForwardSourceHandler.without]
    · simp [ForwardSourceHandler.without, same]
  rw [maps]
  rfl

theorem ForwardSourceHandler.update_eq (source : ForwardSourceHandler) (order : List Int)
    (reads : Int → List ReadAnswer) (table : DescriptorTable) :
    source.update order reads table =
      (source.without (updateSockets source.socketFdMap reads order table).2.2,
        (updateSockets source.socketFdMap reads order table).1,
        (updateSockets source.socketFdMap reads order table).2.1) := rfl

theorem setSource_setSource (handler : PortForwardHandler) (index : Nat)
    (first second : ForwardSourceHandler) :
    (handler.setSource index first).setSource index second = handler.setSource index second := by
  simp [PortForwardHandler.setSource]

theorem setSource_getElem {handler : PortForwardHandler} {index : Nat}
    {former : ForwardSourceHandler}
    (isFormer : handler.sourceHandlers[index]? = some former) (new : ForwardSourceHandler) :
    (handler.setSource index new).sourceHandlers[index]? = some new :=
  (setSource_iff isFormer).mpr (Or.inl ⟨rfl, rfl⟩)

namespace Tunnels

variable {tunnels : Tunnels}

/-- The loop takes the sockets that have ended out after it, which makes no difference: it
comes to each socket once.  `gone` are those that have ended so far. -/
theorem simulates_updateSockets {source : ForwardSourceHandler} {index : Nat}
    (reads : Int → List ReadAnswer) (order gone : List Int) (once : order.Nodup)
    (apart : ∀ socketId ∈ order, socketId ∉ gone) {handler : PortForwardHandler}
    (isSource : handler.sourceHandlers[index]? = some (source.without gone))
    (table : DescriptorTable) (packets : List TunnelPacket) :
    Simulates (tunnels.put handler table packets)
      (tunnels.put
        (handler.setSource index (source.without (gone ++
          (ForwardSourceHandler.updateSockets source.socketFdMap reads order table).2.2)))
        (ForwardSourceHandler.updateSockets source.socketFdMap reads order table).1
        (packets ++
          (ForwardSourceHandler.updateSockets source.socketFdMap reads order table).2.1.map
            .data)) := by
  induction order generalizing gone handler table packets with
  | nil =>
      rw [ForwardSourceHandler.updateSockets, List.append_nil, setSource_self isSource]
      simpa using Simulates.refl _
  | cons socketId rest ih =>
      obtain ⟨later, restOnce⟩ := List.nodup_cons.mp once
      have restApart : ∀ other ∈ rest, other ∉ gone :=
        fun other member => apart other (List.mem_cons_of_mem _ member)
      rw [ForwardSourceHandler.updateSockets]
      cases isSocket : source.socketFdMap socketId with
      | none => exact ih gone restOnce restApart isSource table packets
      | some fd =>
          have isOpen : (source.without gone).socketFdMap socketId = some fd :=
            (if_neg (apart socketId List.mem_cons_self)).trans isSocket
          have reading := @simulates_socketReads tunnels _ _ _ _ _ isSource isOpen
            (reads socketId) table packets
          dsimp only
          generalize readWhileData fd (reads socketId) table = result at reading ⊢
          obtain ⟨read, contents, ended⟩ := result
          dsimp only at reading ⊢
          cases ended with
          | false =>
              have others := ih gone restOnce restApart isSource read
                (packets ++ (contents.map (PortForwardData.mk true socketId)).map .data)
              simpa using reading.trans others
          | true =>
              rw [if_pos rfl, ForwardSourceHandler.without_update] at reading
              have stillApart : ∀ other ∈ rest, other ∉ gone ++ [socketId] := by
                intro other member isGone
                rcases List.mem_append.mp isGone with before | here
                · exact restApart other member before
                · exact later (List.mem_singleton.mp here ▸ member)
              have others := ih (gone ++ [socketId]) restOnce stillApart
                (setSource_getElem isSource _) read
                (packets ++ (contents.map (PortForwardData.mk true socketId)).map .data)
              rw [setSource_setSource] at others
              simpa using reading.trans others

theorem granted_free {table : DescriptorTable} {answer : Option Fd} {fd : Fd}
    (granted : table.granted answer = some fd) : table.connectionOf fd = none := by
  have isFree := (Option.filter_eq_some_iff.mp granted).2
  simpa [DescriptorTable.isFree] using isFree

theorem acceptFirst_free {table : DescriptorTable} {accepts : List (Option Fd)} {fd : Fd}
    (granted : ForwardSourceHandler.acceptFirst table accepts = some fd) :
    table.connectionOf fd = none := by
  induction accepts with
  | nil => cases granted
  | cons answer rest ih =>
      rw [ForwardSourceHandler.acceptFirst] at granted
      split at granted
      · rename_i isGranted
        cases granted
        exact granted_free isGranted
      · exact ih granted

/-- A source handler accepts at most one connection; the request goes before the data. -/
theorem simulates_listen {handler : PortForwardHandler} {index : Nat}
    {source : ForwardSourceHandler}
    (isSource : handler.sourceHandlers[index]? = some source) (accepts : List (Option Fd))
    (table : DescriptorTable) (before rest : List TunnelPacket) :
    Simulates (tunnels.put handler table (before ++ rest))
      (tunnels.put (handler.setSource index (source.listen accepts table).1)
        (source.listen accepts table).2.1
        (before ++ ((source.listen accepts table).2.2.toList.map fun fd =>
          .destinationRequest
            { destination := source.destination, fd := fd, connection := table.count }) ++
          rest)) := by
  unfold ForwardSourceHandler.listen
  cases granted : ForwardSourceHandler.acceptFirst table accepts with
  | none =>
      rw [setSource_self isSource]
      simpa using Simulates.refl _
  | some fd =>
      have isFree : table.connectionOf fd = none := acceptFirst_free granted
      have accepted := @simulates_accept (tunnels.put handler table (before ++ rest)) _ _ _
        before rest isSource isFree rfl
      simpa [put] using accepted

/-- `done` are the source handlers that have been updated. -/
theorem simulates_updateSources (answers : UpdateAnswers) (rest : List ForwardSourceHandler)
    (done : List ForwardSourceHandler) {handler : PortForwardHandler}
    (sources : handler.sourceHandlers = done ++ rest)
    (walks : ∀ (place : Nat) (source : ForwardSourceHandler), rest[place]? = some source →
      (answers.socketOrder (done.length + place)).Nodup)
    (table : DescriptorTable) (before data : List TunnelPacket) :
    Simulates (tunnels.put handler table (before ++ data))
      (tunnels.put
        { handler with
          sourceHandlers := done ++
            (PortForwardHandler.updateSources answers done.length rest table).1 }
        (PortForwardHandler.updateSources answers done.length rest table).2.1
        (before ++
          (PortForwardHandler.updateSources answers done.length rest table).2.2.1.map
            .destinationRequest ++
          (data ++ (PortForwardHandler.updateSources answers done.length rest table).2.2.2.map
            .data))) := by
  induction rest generalizing done handler table before data with
  | nil =>
      rw [PortForwardHandler.updateSources, ← sources]
      simpa using Simulates.refl _
  | cons source others ih =>
      have isSource : handler.sourceHandlers[done.length]? = some (source.without []) := by
        rw [sources, source.without_nil]
        simp
      have sockets := @simulates_updateSockets tunnels source done.length
        (answers.socketReads done.length) (answers.socketOrder done.length) []
        (walks 0 source rfl) (fun _ _ impossible => by cases impossible) handler isSource table
        (before ++ data)
      rw [PortForwardHandler.updateSources, ForwardSourceHandler.update_eq]
      rw [List.nil_append] at sockets
      dsimp only
      generalize ForwardSourceHandler.updateSockets source.socketFdMap
        (answers.socketReads done.length) (answers.socketOrder done.length) table = result
        at sockets ⊢
      obtain ⟨read, contents, removed⟩ := result
      dsimp only at sockets ⊢
      rw [List.append_assoc] at sockets
      have listening := @simulates_listen tunnels _ _ _
        (setSource_getElem isSource (source.without removed))
        (answers.accepts done.length) read before (data ++ contents.map .data)
      rw [setSource_setSource] at listening
      generalize (source.without removed).listen (answers.accepts done.length) read = heard
        at listening ⊢
      obtain ⟨listened, afterListen, answer⟩ := heard
      dsimp only at listening ⊢
      have replaced : (handler.setSource done.length listened).sourceHandlers =
          (done ++ [listened]) ++ others := by
        rw [PortForwardHandler.setSource, sources]
        simp
      have rest := ih (done ++ [listened]) replaced
        (fun place other isOther => by
          have walked := walks (place + 1) other isOther
          rwa [List.length_append, List.length_singleton, Nat.add_assoc, Nat.add_comm 1])
        afterListen
        (before ++ answer.toList.map fun fd => .destinationRequest
          { destination := source.destination, fd := fd, connection := read.count })
        (data ++ contents.map .data)
      rw [List.length_append, List.length_singleton] at rest
      have all := (sockets.trans listening).trans rest
      simpa [PortForwardHandler.setSource, Function.comp_def] using all

/-! ### The destination handlers -/

/-- The loop goes on while the connections are open, and ends with the first that is not. -/
theorem simulates_updateDestinations (reads : Int → List ReadAnswer) (order : List Int)
    {handler : PortForwardHandler} (table : DescriptorTable) (packets : List TunnelPacket) :
    Simulates (tunnels.put handler table packets)
      (tunnels.put
        { handler with
          destinationHandlers :=
            (PortForwardHandler.updateDestinations reads order handler.destinationHandlers
              table).1 }
        (PortForwardHandler.updateDestinations reads order handler.destinationHandlers
          table).2.1
        (packets ++ (PortForwardHandler.updateDestinations reads order
          handler.destinationHandlers table).2.2.map .data)) := by
  induction order generalizing table packets with
  | nil =>
      rw [PortForwardHandler.updateDestinations]
      simpa using Simulates.refl _
  | cons socketId rest ih =>
      rw [PortForwardHandler.updateDestinations]
      cases isDestination : handler.destinationHandlers socketId with
      | none => exact ih table packets
      | some destination =>
          apply Simulates.of_models
          rintro net ⟨ownerHere, ownerThere, refines⟩ _
          obtain ⟨fd, _, rfl, _⟩ := refines.destination isDestination
          have reading := @simulates_destinationReads tunnels _ _ _ isDestination
            (reads socketId) table packets
          rcases result : readWhileData fd (reads socketId) table with ⟨read, contents, ended⟩
          rw [result] at reading
          simp only [ForwardDestinationHandler.update, result]
          dsimp only at reading
          cases ended with
          | false =>
              have others := ih read
                (packets ++ (contents.map (PortForwardData.mk false socketId)).map .data)
              have unchanged : Function.update handler.destinationHandlers socketId
                  (some { fd := some fd, socketId := socketId }) =
                  handler.destinationHandlers := by
                rw [← isDestination]
                exact Function.update_eq_self socketId _
              simp only [Bool.false_eq_true, if_false, reduceCtorEq, unchanged]
              simpa using reading.trans others
          | true =>
              simp only [if_true]
              simpa using reading

/-! ### `update` -/

theorem simulates_update {answers : UpdateAnswers}
    (walks : ∀ (index : Nat) (source : ForwardSourceHandler),
      tunnels.here.handler.sourceHandlers[index]? = some source →
        Walks (answers.socketOrder index) source.socketFdMap) :
    Simulates tunnels (tunnels.updateHere answers) := by
  have sources := @simulates_updateSources tunnels answers
    tunnels.here.handler.sourceHandlers [] tunnels.here.handler rfl
    (fun place source isSource => by
      rw [List.length_nil, Nat.zero_add]
      exact (walks place source isSource).1)
    tunnels.here.table tunnels.toThere []
  have destinations := @simulates_updateDestinations tunnels answers.destinationReads
    answers.destinationOrder
    { tunnels.here.handler with
      sourceHandlers := (PortForwardHandler.updateSources answers 0
        tunnels.here.handler.sourceHandlers tunnels.here.table).1 }
    (PortForwardHandler.updateSources answers 0 tunnels.here.handler.sourceHandlers
      tunnels.here.table).2.1
    (tunnels.toThere ++ (PortForwardHandler.updateSources answers 0
      tunnels.here.handler.sourceHandlers tunnels.here.table).2.2.1.map .destinationRequest ++
      (PortForwardHandler.updateSources answers 0 tunnels.here.handler.sourceHandlers
        tunnels.here.table).2.2.2.map .data)
  have start : tunnels.put tunnels.here.handler tunnels.here.table (tunnels.toThere ++ []) =
      tunnels := by
    rw [put, List.append_nil]
  rw [start] at sources
  have both := sources.trans destinations
  rw [updateHere, PortForwardHandler.update]
  simpa [put] using both

/-! ### `handlePacket` -/

theorem connectDestination_free {answers : PacketAnswers} {table : DescriptorTable}
    {destination : SocketEndpoint} {fd : Fd}
    (connected : PortForwardHandler.connectDestination answers table destination = some fd) :
    table.connectionOf fd = none := by
  unfold PortForwardHandler.connectDestination at connected
  split at connected
  · split at connected
    · rename_i isGranted
      cases connected
      exact granted_free isGranted
    · exact granted_free connected
  · exact granted_free connected

/-- The first draw is taken when it is not the key of a connection. -/
theorem emptySocketId_first {handlers : Int → Option ForwardDestinationHandler}
    {rand : Nat → Int} (unused : handlers (rand 0) = none) :
    PortForwardHandler.emptySocketId handlers rand 100000 0 = some (rand 0) := by
  rw [PortForwardHandler.emptySocketId, unused]
  rfl

theorem simulates_request {answers : PacketAnswers} {pfdr : PortForwardDestinationRequest}
    {rest : List TunnelPacket} (isNext : tunnels.toHere = .destinationRequest pfdr :: rest)
    (unused : ∀ opening ∈ tunnels.openedHere, opening.id ≠ answers.rand 0) :
    Simulates tunnels (tunnels.deliverHere answers (.destinationRequest pfdr) rest) := by
  rcases connected : PortForwardHandler.connectDestination answers tunnels.here.table
    pfdr.destination with _ | fd
  · have refused := simulates_refuse isNext answers.connectError
    simpa [deliverHere, PortForwardHandler.handlePacket, PortForwardHandler.createDestination,
      connected] using refused
  · apply Simulates.of_models
    rintro net ⟨ownerHere, ownerThere, refines⟩ sound
    have first := emptySocketId_first (refines.unused sound unused)
    have connects := simulates_connect isNext (connectDestination_free connected) unused
    simpa [deliverHere, PortForwardHandler.handlePacket, PortForwardHandler.createDestination,
      connected, first] using connects

theorem simulates_deliver {answers : PacketAnswers} {packet : TunnelPacket}
    {rest : List TunnelPacket} (isNext : tunnels.toHere = packet :: rest)
    (unused : ∀ opening ∈ tunnels.openedHere, opening.id ≠ answers.rand 0) :
    Simulates tunnels (tunnels.deliverHere answers packet rest) := by
  cases packet with
  | destinationRequest pfdr => exact simulates_request isNext unused
  | destinationResponse pfdr =>
      obtain ⟨clientfd, result⟩ := pfdr
      cases result with
      | error what =>
          simpa [deliverHere, PortForwardHandler.handlePacket] using simulates_discard isNext
      | ok socketId =>
          simpa [deliverHere, PortForwardHandler.handlePacket] using simulates_assign isNext
  | data pwd =>
      obtain ⟨sourcetodestination, socketid, content⟩ := pwd
      cases sourcetodestination with
      | true =>
          simpa [deliverHere, PortForwardHandler.handlePacket] using
            simulates_destinationData answers.schedule isNext
      | false =>
          simpa [deliverHere, PortForwardHandler.handlePacket] using
            simulates_sourceData answers.schedule isNext

/-! ### Runs -/

theorem simulates_act {after : Tunnels} {action : Action} (act : Act tunnels action after) :
    Simulates tunnels after := by
  cases act with
  | update walks _ => exact simulates_update walks
  | deliver isNext unused => exact simulates_deliver isNext unused

end Tunnels

end EternalTerminal
