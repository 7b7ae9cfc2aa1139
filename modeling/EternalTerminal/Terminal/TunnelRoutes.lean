/-
What the operations of a `PortForwardHandler` do to the ids of its sockets, and what the packets
say of the ids of the other end.
-/

import EternalTerminal.Terminal.DescriptorOwnership

namespace EternalTerminal

open Library HandleCall

/-- The loop of `readWhileData` comes to the end of the stream or to an error. -/
def endsConnection : List ReadAnswer → Bool
  | [] => false
  | .failed errno :: _ => !(errno = .eagain || errno = .ewouldblock)
  | .closed :: _ => true
  | .data _ :: rest => endsConnection rest

def PortForwardContent.isLast : PortForwardContent → Bool
  | .buffer _ => false
  | .error _ => true
  | .closed => true

/-- What a packet from the other end says of the ids there: a response gives one out, and the
last data of a destination take one back. -/
def TunnelPacket.idCall : TunnelPacket → Option (HandleCall Int)
  | .destinationRequest _ => none
  | .destinationResponse pfdr =>
      match pfdr.result with
      | .ok socketid => some (.opened socketid)
      | .error _ => none
  | .data pwd =>
      if !pwd.sourcetodestination && pwd.content.isLast then some (.closed pwd.socketid) else none

def TunnelPacket.requestFd : TunnelPacket → Option Fd
  | .destinationRequest pfdr => some pfdr.fd
  | _ => none

def TunnelPacket.responseFd : TunnelPacket → Option Fd
  | .destinationResponse pfdr => some pfdr.clientfd
  | _ => none

namespace PortForwardHandler

/-- The ids of `socketIdSourceHandlerMap`. -/
def routes (handler : PortForwardHandler) : Set Int :=
  { socketId | handler.socketIdSourceHandlerMap socketId ≠ none }

def serves (handler : PortForwardHandler) : Set Int :=
  { socketId | handler.destinationHandlers socketId ≠ none }

/-- Each id is mapped to the source handler that has a socket for it, and to no other. -/
def RoutesMatch (handler : PortForwardHandler) : Prop :=
  ∀ (socketId : Int) (index : Nat),
    (∃ source, handler.sourceHandlers[index]? = some source ∧
      source.socketFdMap socketId ≠ none) ↔
      handler.socketIdSourceHandlerMap socketId = some index

def Connected (handlers : Int → Option ForwardDestinationHandler) : Prop :=
  ∀ (socketId : Int) (destination : ForwardDestinationHandler),
    handlers socketId = some destination →
      ∃ fd, destination = { fd := some fd, socketId := socketId }

/-- No socket with an id comes to its end in this `update`. -/
def Quiet (handler : PortForwardHandler) (answers : UpdateAnswers) : Prop :=
  ∀ (index : Nat) (source : ForwardSourceHandler) (socketId : Int),
    handler.sourceHandlers[index]? = some source → source.socketFdMap socketId ≠ none →
      endsConnection (answers.socketReads index socketId) = false

end PortForwardHandler

/-! ### Reading -/

section Reading

variable {fd : Fd} {answers : List ReadAnswer} {table : DescriptorTable}

theorem endsConnection_failed (errno : Errno) (rest : List ReadAnswer) :
    endsConnection (.failed errno :: rest) = true ↔
      ¬ (errno = .eagain ∨ errno = .ewouldblock) := by
  simp [endsConnection]

theorem readWhileData_ended (fd : Fd) (answers : List ReadAnswer) (table : DescriptorTable) :
    (readWhileData fd answers table).2.2 = endsConnection answers := by
  induction answers generalizing table with
  | nil => rfl
  | cons answer rest ih =>
      cases answer with
      | failed errno =>
          rw [readWhileData]
          by_cases again : errno = .eagain ∨ errno = .ewouldblock
          · rw [if_pos again]
            exact (Bool.eq_false_iff.mpr fun ends =>
              (endsConnection_failed errno rest).mp ends again).symm
          · rw [if_neg again]
            exact ((endsConnection_failed errno rest).mpr again).symm
      | closed => rfl
      | data bytes => exact ih (table.read fd bytes)

theorem readWhileData_goesOn (goesOn : endsConnection answers = false)
    {content : PortForwardContent} (member : content ∈ (readWhileData fd answers table).2.1) :
    content.isLast = false := by
  induction answers generalizing table with
  | nil => cases member
  | cons answer rest ih =>
      cases answer with
      | failed errno =>
          rw [readWhileData] at member
          by_cases again : errno = .eagain ∨ errno = .ewouldblock
          · rw [if_pos again] at member
            cases member
          · rw [(endsConnection_failed errno rest).mpr again] at goesOn
            cases goesOn
      | closed => cases goesOn
      | data bytes =>
          rcases List.mem_cons.mp member with here | later
          · rw [here]
            rfl
          · exact ih goesOn later

/-- What is read from a destination takes its id back if the connection ends. -/
theorem readWhileData_idCalls (fd : Fd) (answers : List ReadAnswer) (table : DescriptorTable)
    (socketId : Int) :
    (((readWhileData fd answers table).2.1.map (PortForwardData.mk false socketId)).map
        TunnelPacket.data).filterMap TunnelPacket.idCall =
      if endsConnection answers then [.closed socketId] else [] := by
  induction answers generalizing table with
  | nil => rfl
  | cons answer rest ih =>
      cases answer with
      | failed errno =>
          rw [readWhileData]
          by_cases again : errno = .eagain ∨ errno = .ewouldblock
          · have goesOn : ¬ endsConnection (.failed errno :: rest) = true :=
              fun ends => (endsConnection_failed errno rest).mp ends again
            rw [if_pos again, if_neg goesOn]
            rfl
          · rw [if_neg again, if_pos ((endsConnection_failed errno rest).mpr again)]
            rfl
      | closed => rfl
      | data bytes => exact ih (table.read fd bytes)

end Reading

/-! ### The sockets of the sources -/

namespace ForwardSourceHandler

variable {socketFdMap : Int → Option Fd} {reads : Int → List ReadAnswer} {order : List Int}

theorem updateSockets_removed (table : DescriptorTable) :
    (updateSockets socketFdMap reads order table).2.2 = order.filter (fun socketId =>
      (socketFdMap socketId).isSome && endsConnection (reads socketId)) := by
  induction order generalizing table with
  | nil => rfl
  | cons socketId rest ih =>
      rw [updateSockets]
      cases isSocket : socketFdMap socketId with
      | none =>
          rw [List.filter_cons_of_neg (by simp [isSocket])]
          exact ih table
      | some fd =>
          have ended := readWhileData_ended fd (reads socketId) table
          cases ends : endsConnection (reads socketId) with
          | true =>
              rw [List.filter_cons_of_pos (by simp [isSocket, ends]), ← ih]
              dsimp only
              rw [ended, ends, if_pos rfl]
          | false =>
              rw [List.filter_cons_of_neg (by simp [ends]), ← ih]
              dsimp only
              rw [ended, ends, if_neg Bool.false_ne_true]

/-- The data are from the source; the last of a connection are from one that ends. -/
theorem updateSockets_data {table : DescriptorTable} {pwd : PortForwardData}
    (member : pwd ∈ (updateSockets socketFdMap reads order table).2.1) :
    pwd.sourcetodestination = true ∧ (pwd.content.isLast = true →
      socketFdMap pwd.socketid ≠ none ∧ endsConnection (reads pwd.socketid) = true) := by
  induction order generalizing table with
  | nil => cases member
  | cons socketId rest ih =>
      rw [updateSockets] at member
      cases isSocket : socketFdMap socketId with
      | none =>
          rw [isSocket] at member
          exact ih member
      | some fd =>
          rw [isSocket] at member
          rcases List.mem_append.mp member with here | later
          · obtain ⟨content, isContent, rfl⟩ := List.mem_map.mp here
            refine ⟨rfl, ?_⟩
            intro isLast
            refine ⟨by simp [isSocket], ?_⟩
            by_contra goesOn
            cases (readWhileData_goesOn (Bool.eq_false_iff.mpr goesOn) isContent).symm.trans isLast
          · exact ih later

theorem updateSockets_openFds {table : DescriptorTable}
    (quiet : ∀ socketId, socketFdMap socketId ≠ none →
      endsConnection (reads socketId) = false) :
    (updateSockets socketFdMap reads order table).1.openFds = table.openFds := by
  induction order generalizing table with
  | nil => rfl
  | cons socketId rest ih =>
      rw [updateSockets]
      cases isSocket : socketFdMap socketId with
      | none => exact ih
      | some fd =>
          have goesOn := quiet socketId (by simp [isSocket])
          have reading := readWhileData_openFds fd (reads socketId) table
          rw [readWhileData_ended, goesOn, if_neg Bool.false_ne_true] at reading
          exact (@ih (readWhileData fd (reads socketId) table).1).trans reading

end ForwardSourceHandler

/-- What `update` and `listen` leave of a source handler: the sockets that have not come to
their end, and the descriptors that wait for their id. -/
structure Updated (answers : UpdateAnswers) (index : Nat)
    (before after : ForwardSourceHandler) : Prop where
  sockets (socketId : Int) : after.socketFdMap socketId =
    if socketId ∈ answers.socketOrder index ∧
        endsConnection (answers.socketReads index socketId) = true then none
    else before.socketFdMap socketId
  unassigned {fd : Fd} : fd ∈ before.unassignedFds → fd ∈ after.unassignedFds

theorem ForwardSourceHandler.update_listen_updated (source : ForwardSourceHandler)
    (answers : UpdateAnswers) (index : Nat) (table afterRead : DescriptorTable) :
    Updated answers index source
      ((source.update (answers.socketOrder index) (answers.socketReads index) table).1.listen
        (answers.accepts index) afterRead).1 := by
  have sockets : ∀ socketId,
      (source.update (answers.socketOrder index) (answers.socketReads index)
          table).1.socketFdMap socketId =
        if socketId ∈ answers.socketOrder index ∧
            endsConnection (answers.socketReads index socketId) = true then none
        else source.socketFdMap socketId := by
    intro socketId
    rw [ForwardSourceHandler.update_eq]
    unfold ForwardSourceHandler.without
    simp only [updateSockets_removed, List.mem_filter, Bool.and_eq_true]
    cases isSocket : source.socketFdMap socketId with
    | none => simp
    | some fd => simp
  unfold ForwardSourceHandler.listen
  split
  · exact ⟨sockets, fun member => member⟩
  · exact ⟨sockets, fun member => Finset.mem_insert_of_mem member⟩

namespace PortForwardHandler

section Sources

variable {answers : UpdateAnswers} {sources : List ForwardSourceHandler}
  {table : DescriptorTable} {first : Nat}

theorem updateSources_updated (sources : List ForwardSourceHandler) (first : Nat)
    (table : DescriptorTable) (place : Nat) :
    Option.Rel (Updated answers (first + place)) sources[place]?
      (updateSources answers first sources table).1[place]? := by
  induction sources generalizing first table place with
  | nil => exact .none
  | cons source rest ih =>
      cases place with
      | zero => exact .some (source.update_listen_updated answers first table _)
      | succ place =>
          have later := fun next => ih (first + 1) next place
          rw [Nat.add_right_comm] at later
          exact later _

/-- While no socket ends nothing is closed, so what is accepted is new among all that is open. -/
theorem updateSources_accepts
    (quiet : ∀ (place : Nat) (source : ForwardSourceHandler) (socketId : Int),
      sources[place]? = some source → source.socketFdMap socketId ≠ none →
        endsConnection (answers.socketReads (first + place) socketId) = false) :
    ((updateSources answers first sources table).2.2.1.map (·.fd)).Nodup ∧
      ∀ fd ∈ (updateSources answers first sources table).2.2.1.map (·.fd),
        fd ∉ table.openFds ∧ ∃ (place : Nat) (after : ForwardSourceHandler),
          (updateSources answers first sources table).1[place]? = some after ∧
            fd ∈ after.unassignedFds := by
  induction sources generalizing first table with
  | nil =>
      refine ⟨List.nodup_nil, ?_⟩
      intro fd impossible
      cases impossible
  | cons source rest ih =>
      have restQuiet : ∀ (place : Nat) (other : ForwardSourceHandler) (socketId : Int),
          rest[place]? = some other → other.socketFdMap socketId ≠ none →
            endsConnection (answers.socketReads (first + 1 + place) socketId) = false := by
        intro place other socketId isOther hasSocket
        rw [Nat.add_right_comm]
        exact quiet (place + 1) other socketId isOther hasSocket
      have stillOpen := @ForwardSourceHandler.updateSockets_openFds source.socketFdMap
        (answers.socketReads first) (answers.socketOrder first) table
        (fun socketId hasSocket => quiet 0 source socketId rfl hasSocket)
      rw [updateSources, ForwardSourceHandler.update_eq]
      dsimp only
      generalize ForwardSourceHandler.updateSockets source.socketFdMap
        (answers.socketReads first) (answers.socketOrder first) table = result at stillOpen ⊢
      obtain ⟨read, contents, removed⟩ := result
      dsimp only at stillOpen ⊢
      unfold ForwardSourceHandler.listen
      cases granted : ForwardSourceHandler.acceptFirst read (answers.accepts first) with
      | none =>
          obtain ⟨once, later⟩ := @ih read (first + 1) restQuiet
          refine ⟨once, ?_⟩
          intro fd member
          obtain ⟨fresh, place, after, isAfter, waits⟩ := later fd member
          exact ⟨stillOpen ▸ fresh, place + 1, after, isAfter, waits⟩
      | some fd =>
          have fresh : fd ∉ read.openFds :=
            DescriptorTable.not_mem_openFds.mpr (Tunnels.acceptFirst_free granted)
          obtain ⟨once, later⟩ := @ih (read.openFd fd) (first + 1) restQuiet
          rw [DescriptorTable.openFds_openFd] at later
          refine ⟨List.nodup_cons.mpr ⟨?_, once⟩, ?_⟩
          · intro again
            exact (later fd again).1 (Set.mem_insert _ _)
          · intro other member
            rcases List.mem_cons.mp member with same | isLater
            · rw [same]
              exact ⟨stillOpen ▸ fresh, 0, _, rfl, Finset.mem_insert_self _ _⟩
            · obtain ⟨new, place, after, isAfter, waits⟩ := later other isLater
              refine ⟨?_, place + 1, after, isAfter, waits⟩
              rw [← stillOpen]
              exact fun isOpen => new (Set.mem_insert_of_mem _ isOpen)

theorem updateSources_data {pwd : PortForwardData}
    (member : pwd ∈ (updateSources answers first sources table).2.2.2) :
    pwd.sourcetodestination = true ∧ (pwd.content.isLast = true →
      ∃ place source, sources[place]? = some source ∧
        source.socketFdMap pwd.socketid ≠ none ∧
        endsConnection (answers.socketReads (first + place) pwd.socketid) = true) := by
  induction sources generalizing first table with
  | nil => cases member
  | cons source rest ih =>
      rcases List.mem_append.mp member with here | later
      · obtain ⟨outward, isLast⟩ := ForwardSourceHandler.updateSockets_data here
        refine ⟨outward, ?_⟩
        intro last
        obtain ⟨hasSocket, ends⟩ := isLast last
        exact ⟨0, source, rfl, hasSocket, ends⟩
      · obtain ⟨outward, isLast⟩ := ih later
        refine ⟨outward, ?_⟩
        intro last
        obtain ⟨place, other, isOther, hasSocket, ends⟩ := isLast last
        rw [Nat.add_right_comm] at ends
        exact ⟨place + 1, other, isOther, hasSocket, ends⟩

end Sources

/-! ### The destinations -/

section Destinations

variable {reads : Int → List ReadAnswer} {handlers : Int → Option ForwardDestinationHandler}
  {order : List Int} {table : DescriptorTable}

theorem serves_update_none (handlers : Int → Option ForwardDestinationHandler) (socketId : Int) :
    { id | Function.update handlers socketId none id ≠ none } =
      { id | handlers id ≠ none } \ {socketId} := by
  ext id
  by_cases same : id = socketId
  · simp [same]
  · simp [same]

theorem serves_update_some (handlers : Int → Option ForwardDestinationHandler) (socketId : Int)
    (destination : ForwardDestinationHandler) :
    { id | Function.update handlers socketId (some destination) id ≠ none } =
      insert socketId { id | handlers id ≠ none } := by
  ext id
  by_cases same : id = socketId
  · simp [same]
  · simp [same]

/-- A connection that ends says so in its last packet, and takes its id back. -/
theorem updateDestinations_lead (connected : Connected handlers) :
    Connected (updateDestinations reads order handlers table).1 ∧
      Leads { id | handlers id ≠ none }
        (((updateDestinations reads order handlers table).2.2.map TunnelPacket.data).filterMap
          TunnelPacket.idCall)
        { id | (updateDestinations reads order handlers table).1 id ≠ none } := by
  induction order generalizing handlers table with
  | nil => exact ⟨connected, .nil _⟩
  | cons socketId rest ih =>
      rw [updateDestinations]
      cases isDestination : handlers socketId with
      | none => exact ih connected
      | some destination =>
          obtain ⟨fd, rfl⟩ := connected socketId destination isDestination
          have said := readWhileData_idCalls fd (reads socketId) table socketId
          have ended := readWhileData_ended fd (reads socketId) table
          rcases result : readWhileData fd (reads socketId) table with ⟨read, contents, ends⟩
          rw [result] at said ended
          dsimp only at said ended
          rw [← ended] at said
          simp only [ForwardDestinationHandler.update, result]
          cases ends with
          | true =>
              have isThere : socketId ∈ { id | handlers id ≠ none } := by
                simp [isDestination]
              simp only [if_true]
              rw [said, serves_update_none]
              refine ⟨?_, .closed_one isThere⟩
              intro id other isOther
              exact connected id other (update_none_iff.mp isOther).2
          | false =>
              have unchanged : Function.update handlers socketId
                  (some { fd := some fd, socketId := socketId }) = handlers := by
                rw [← isDestination]
                exact Function.update_eq_self socketId _
              simp only [Bool.false_eq_true, if_false, reduceCtorEq, unchanged]
              rw [List.map_append, List.filterMap_append, said]
              exact ih connected

theorem updateDestinations_data {pwd : PortForwardData}
    (member : pwd ∈ (updateDestinations reads order handlers table).2.2) :
    pwd.sourcetodestination = false := by
  induction order generalizing handlers table with
  | nil => cases member
  | cons socketId rest ih =>
      rw [updateDestinations] at member
      cases isDestination : handlers socketId with
      | none =>
          rw [isDestination] at member
          exact ih member
      | some destination =>
          have inward : ∀ data ∈ (destination.update (reads socketId) table).2.2,
              data.sourcetodestination = false := by
            intro data isData
            unfold ForwardDestinationHandler.update at isData
            split at isData
            · cases isData
            · obtain ⟨content, _, rfl⟩ := List.mem_map.mp isData
              rfl
          rw [isDestination] at member
          dsimp only at member
          split at member
          · exact inward pwd member
          · rcases List.mem_append.mp member with here | later
            · exact inward pwd here
            · exact ih later

end Destinations

/-! ### `update` of one handler -/

section Updates

variable {handler : PortForwardHandler} {answers : UpdateAnswers} {table : DescriptorTable}
  {fd : Fd}

def updateRequests (handler : PortForwardHandler) (answers : UpdateAnswers)
    (table : DescriptorTable) : List PortForwardDestinationRequest :=
  (updateSources answers 0 handler.sourceHandlers table).2.2.1

/-- What is read from the sources, for the destinations of the other end. -/
def outwardData (handler : PortForwardHandler) (answers : UpdateAnswers)
    (table : DescriptorTable) : List PortForwardData :=
  (updateSources answers 0 handler.sourceHandlers table).2.2.2

def inwardData (handler : PortForwardHandler) (answers : UpdateAnswers)
    (table : DescriptorTable) : List PortForwardData :=
  (updateDestinations answers.destinationReads answers.destinationOrder
    handler.destinationHandlers
    (updateSources answers 0 handler.sourceHandlers table).2.1).2.2

theorem update_packets (handler : PortForwardHandler) (answers : UpdateAnswers)
    (table : DescriptorTable) :
    (handler.update answers table).2.2 =
      (handler.updateRequests answers table).map TunnelPacket.destinationRequest ++
        (handler.outwardData answers table ++ handler.inwardData answers table).map
          TunnelPacket.data :=
  rfl

theorem update_routes (handler : PortForwardHandler) (answers : UpdateAnswers)
    (table : DescriptorTable) :
    (handler.update answers table).1.socketIdSourceHandlerMap =
      handler.socketIdSourceHandlerMap :=
  rfl

theorem update_source (handler : PortForwardHandler) (answers : UpdateAnswers)
    (table : DescriptorTable) (place : Nat) :
    Option.Rel (Updated answers place) handler.sourceHandlers[place]?
      (handler.update answers table).1.sourceHandlers[place]? := by
  have updated := @updateSources_updated answers handler.sourceHandlers 0 table place
  rw [Nat.zero_add] at updated
  exact updated

/-- In a quiet `update` the sources keep their sockets. -/
theorem update_sockets (quiet : handler.Quiet answers) (table : DescriptorTable) (place : Nat)
    (id : Int) :
    (∃ source, (handler.update answers table).1.sourceHandlers[place]? = some source ∧
        source.socketFdMap id ≠ none) ↔
      ∃ source, handler.sourceHandlers[place]? = some source ∧
        source.socketFdMap id ≠ none := by
  have updated := handler.update_source answers table place
  generalize (handler.update answers table).1.sourceHandlers[place]? = now at updated ⊢
  cases was : handler.sourceHandlers[place]? with
  | none =>
      rw [was] at updated
      cases updated
      rfl
  | some source =>
      rw [was] at updated
      cases updated with
      | @some _ new isUpdated =>
          have sockets := isUpdated.sockets id
          constructor
          · intro has
            obtain ⟨found, isFound, hasSocket⟩ := has
            cases isFound
            refine ⟨source, rfl, ?_⟩
            intro nothing
            rw [nothing, ite_self] at sockets
            exact hasSocket sockets
          · intro has
            obtain ⟨found, isFound, hasSocket⟩ := has
            cases isFound
            refine ⟨new, rfl, ?_⟩
            rw [sockets, quiet place source id was hasSocket]
            simpa using hasSocket

theorem update_unassigned {place : Nat} (held : handler.Held fd (.unassigned place)) :
    (handler.update answers table).1.Held fd (.unassigned place) := by
  obtain ⟨source, isSource, member⟩ := held
  have updated := handler.update_source answers table place
  rw [isSource] at updated
  generalize now : (handler.update answers table).1.sourceHandlers[place]? = found at updated
  cases updated with
  | some isUpdated => exact ⟨_, now, isUpdated.unassigned member⟩

theorem update_accepts (quiet : handler.Quiet answers) (table : DescriptorTable) :
    ((handler.updateRequests answers table).map (·.fd)).Nodup ∧
      ∀ fd ∈ (handler.updateRequests answers table).map (·.fd), fd ∉ table.openFds ∧
        ∃ place, (handler.update answers table).1.Held fd (.unassigned place) := by
  have fromFirst : ∀ (place : Nat) (source : ForwardSourceHandler) (socketId : Int),
      handler.sourceHandlers[place]? = some source → source.socketFdMap socketId ≠ none →
        endsConnection (answers.socketReads (0 + place) socketId) = false := by
    intro place source socketId isSource hasSocket
    rw [Nat.zero_add]
    exact quiet place source socketId isSource hasSocket
  obtain ⟨once, accepted⟩ := @updateSources_accepts answers handler.sourceHandlers table 0
    fromFirst
  refine ⟨once, ?_⟩
  intro fd member
  obtain ⟨fresh, place, after, isAfter, waits⟩ := accepted fd member
  exact ⟨fresh, place, after, isAfter, waits⟩

theorem update_outward {pwd : PortForwardData}
    (member : pwd ∈ handler.outwardData answers table) :
    pwd.sourcetodestination = true ∧ (handler.Quiet answers → pwd.content.isLast = false) := by
  obtain ⟨outward, isLast⟩ := updateSources_data member
  refine ⟨outward, ?_⟩
  intro quiet
  by_contra last
  obtain ⟨place, source, isSource, hasSocket, ends⟩ := isLast (Bool.not_eq_false _ ▸ last)
  rw [Nat.zero_add, quiet place source _ isSource hasSocket] at ends
  cases ends

theorem update_inward {pwd : PortForwardData}
    (member : pwd ∈ handler.inwardData answers table) : pwd.sourcetodestination = false :=
  updateDestinations_data member

theorem update_destinations (handler : PortForwardHandler) (answers : UpdateAnswers)
    (table : DescriptorTable) (connected : Connected handler.destinationHandlers) :
    Connected (handler.update answers table).1.destinationHandlers ∧
      Leads handler.serves
        (((handler.inwardData answers table).map TunnelPacket.data).filterMap
          TunnelPacket.idCall)
        (handler.update answers table).1.serves :=
  updateDestinations_lead connected

end Updates

end PortForwardHandler

end EternalTerminal
