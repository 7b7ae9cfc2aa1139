/-
The table that leads ids to source handlers, and what one packet does to it.
-/

import EternalTerminal.Terminal.TunnelRoutes

namespace EternalTerminal

open Library HandleCall

namespace PortForwardHandler

variable {handler : PortForwardHandler} {table : DescriptorTable} {fd : Fd} {index : Nat}
  {socketId : Int} {source new : ForwardSourceHandler}

theorem findUnassigned_found (held : handler.Held fd (.unassigned index)) :
    ∃ found source, handler.findUnassigned fd = some found ∧
      handler.sourceHandlers[found]? = some source ∧ fd ∈ source.unassignedFds := by
  obtain ⟨source, isSource, member⟩ := held
  have isFound : (handler.findUnassigned fd).isSome = true := by
    rw [findUnassigned, List.findIdx?_isSome, List.any_eq_true]
    exact ⟨source, List.mem_of_getElem? isSource, decide_eq_true member⟩
  obtain ⟨found, atFound⟩ := Option.isSome_iff_exists.mp isFound
  obtain ⟨inside, hasIt, _⟩ := List.findIdx?_eq_some_iff_getElem.mp atFound
  exact ⟨found, _, atFound, List.getElem?_eq_getElem inside, of_decide_eq_true hasIt⟩

/-- The descriptors that wait in another handler, or in this one, still do. -/
theorem held_unassigned_setSource (isSource : handler.sourceHandlers[index]? = some source)
    {other : Fd} {place : Nat} (kept : other ∈ source.unassignedFds → other ∈ new.unassignedFds)
    (held : handler.Held other (.unassigned place)) :
    (handler.setSource index new).Held other (.unassigned place) := by
  obtain ⟨found, isFound, member⟩ := held
  by_cases here : place = index
  · subst here
    cases isSource.symm.trans isFound
    exact ⟨new, setSource_getElem isSource new, kept member⟩
  · exact ⟨found, (setSource_iff isSource).mpr (Or.inr ⟨here, isFound⟩), member⟩

theorem closeSourceFd_held (held : handler.Held fd (.unassigned index)) :
    ∃ found source, handler.sourceHandlers[found]? = some source ∧
      handler.closeSourceFd table fd =
        (handler.setSource found
          { source with unassignedFds := source.unassignedFds.erase fd }, table.close fd) := by
  obtain ⟨found, source, atFound, isSource, member⟩ := findUnassigned_found held
  refine ⟨found, source, isSource, ?_⟩
  have hasIt : source.hasUnassignedFd fd = true := decide_eq_true member
  unfold closeSourceFd
  rw [atFound]
  simp only [isSource]
  unfold ForwardSourceHandler.closeUnassignedFd
  rw [if_pos hasIt]

theorem addSourceSocketId_held (held : handler.Held fd (.unassigned index)) (socketId : Int) :
    ∃ found source, handler.sourceHandlers[found]? = some source ∧
      fd ∈ source.unassignedFds ∧
      handler.addSourceSocketId socketId fd =
        { handler.setSource found
            { source with
              unassignedFds := source.unassignedFds.erase fd
              socketFdMap := Function.update source.socketFdMap socketId (some fd) } with
          socketIdSourceHandlerMap :=
            Function.update handler.socketIdSourceHandlerMap socketId (some found) } := by
  obtain ⟨found, source, atFound, isSource, member⟩ := findUnassigned_found held
  refine ⟨found, source, isSource, member, ?_⟩
  have hasIt : source.hasUnassignedFd fd = true := decide_eq_true member
  unfold addSourceSocketId
  rw [atFound]
  simp only [isSource]
  unfold ForwardSourceHandler.addSocket
  rw [if_pos hasIt]

namespace RoutesMatch

theorem keeps {after : PortForwardHandler} (isMatch : handler.RoutesMatch)
    (sameMap : after.socketIdSourceHandlerMap = handler.socketIdSourceHandlerMap)
    (sameSockets : ∀ (place : Nat) (id : Int),
      (∃ source, after.sourceHandlers[place]? = some source ∧ source.socketFdMap id ≠ none) ↔
        ∃ source, handler.sourceHandlers[place]? = some source ∧
          source.socketFdMap id ≠ none) : after.RoutesMatch := by
  intro id place
  rw [sameSockets, sameMap]
  exact isMatch id place

theorem changes (isMatch : handler.RoutesMatch)
    (isSource : handler.sourceHandlers[index]? = some source)
    (elsewhere : ∀ place, place ≠ index →
      handler.socketIdSourceHandlerMap socketId ≠ some place) (fds : Finset Fd)
    (fd : Option Fd) :
    PortForwardHandler.RoutesMatch
      { handler.setSource index
          { source with
            unassignedFds := fds
            socketFdMap := Function.update source.socketFdMap socketId fd } with
        socketIdSourceHandlerMap := Function.update handler.socketIdSourceHandlerMap socketId
          (fd.map fun _ => index) } := by
  intro id place
  have holder : (∃ found, (handler.setSource index
        { source with
          unassignedFds := fds
          socketFdMap := Function.update source.socketFdMap socketId fd }).sourceHandlers[place]? =
            some found ∧ found.socketFdMap id ≠ none) ↔
      (place = index ∧ Function.update source.socketFdMap socketId fd id ≠ none) ∨
        (place ≠ index ∧ handler.socketIdSourceHandlerMap id = some place) := by
    rw [← isMatch id place]
    constructor
    · intro has
      obtain ⟨found, isFound, hasSocket⟩ := has
      rcases (setSource_iff isSource).mp isFound with ⟨here, rfl⟩ | ⟨away, isOther⟩
      · exact Or.inl ⟨here, hasSocket⟩
      · exact Or.inr ⟨away, found, isOther, hasSocket⟩
    · intro has
      rcases has with ⟨here, hasSocket⟩ | ⟨away, found, isOther, hasSocket⟩
      · exact ⟨_, (setSource_iff isSource).mpr (Or.inl ⟨here, rfl⟩), hasSocket⟩
      · exact ⟨found, (setSource_iff isSource).mpr (Or.inr ⟨away, isOther⟩), hasSocket⟩
  change (∃ found, (handler.setSource index _).sourceHandlers[place]? = some found ∧ _) ↔ _
  rw [holder]
  dsimp only
  by_cases same : id = socketId
  · subst same
    rw [Function.update_self, Function.update_self]
    cases fd with
    | none => simpa using elsewhere place
    | some fd =>
        constructor
        · intro either
          rcases either with ⟨here, _⟩ | ⟨away, isRoute⟩
          · rw [here]
            rfl
          · exact absurd isRoute (elsewhere place away)
        · intro isRoute
          exact Or.inl ⟨(Option.some.inj isRoute).symm, Option.some_ne_none fd⟩
  · rw [Function.update_of_ne same, Function.update_of_ne same]
    constructor
    · intro either
      rcases either with ⟨here, hasSocket⟩ | ⟨_, isRoute⟩
      · rw [here]
        exact (isMatch id index).mp ⟨source, isSource, hasSocket⟩
      · exact isRoute
    · intro isRoute
      by_cases here : place = index
      · obtain ⟨found, isFound, hasSocket⟩ := (isMatch id place).mpr isRoute
        rw [here] at isFound
        cases isSource.symm.trans isFound
        exact Or.inl ⟨here, hasSocket⟩
      · exact Or.inr ⟨here, isRoute⟩

end RoutesMatch

theorem routes_update_none (handler : PortForwardHandler) (socketId : Int) :
    { id | Function.update handler.socketIdSourceHandlerMap socketId none id ≠ none } =
      handler.routes \ {socketId} := by
  ext id
  by_cases same : id = socketId
  · simp [same]
  · simp [same, routes]

theorem routes_update_some (handler : PortForwardHandler) (socketId : Int) (index : Nat) :
    { id | Function.update handler.socketIdSourceHandlerMap socketId (some index) id ≠ none } =
      insert socketId handler.routes := by
  ext id
  by_cases same : id = socketId
  · simp [same]
  · simp [same, routes]

/-! ### `handlePacket` of one handler -/

/-- The source handlers and the table that leads to them are as they were. -/
structure SameSources (handler after : PortForwardHandler) : Prop where
  sources : after.sourceHandlers = handler.sourceHandlers
  map : after.socketIdSourceHandlerMap = handler.socketIdSourceHandlerMap

theorem SameSources.refl (handler : PortForwardHandler) : SameSources handler handler :=
  ⟨rfl, rfl⟩

theorem handleDestinationData_sources (handler : PortForwardHandler) (table : DescriptorTable)
    (schedule : WriteSchedule) (socketid : Int) (content : PortForwardContent) :
    SameSources handler (handler.handleDestinationData table schedule socketid content).1 := by
  unfold handleDestinationData
  cases handler.destinationHandlers socketid with
  | none => exact .refl handler
  | some destination =>
      cases content with
      | buffer bytes => exact .refl handler
      | error errno => exact ⟨rfl, rfl⟩
      | closed => exact ⟨rfl, rfl⟩

theorem handleDestinationData_goesOn (handler : PortForwardHandler) (table : DescriptorTable)
    (schedule : WriteSchedule) (socketid : Int) {content : PortForwardContent}
    (goesOn : content.isLast = false) :
    (handler.handleDestinationData table schedule socketid content).1 = handler := by
  unfold handleDestinationData
  cases handler.destinationHandlers socketid with
  | none => rfl
  | some destination =>
      cases content with
      | buffer bytes => rfl
      | error errno => cases goesOn
      | closed => cases goesOn

theorem emptySocketId_unused {handlers : Int → Option ForwardDestinationHandler}
    {rand : Nat → Int} {left attempts : Nat}
    (found : emptySocketId handlers rand left attempts = some socketId) :
    handlers socketId = none := by
  induction left generalizing attempts with
  | zero => cases found
  | succ left ih =>
      rw [emptySocketId] at found
      split at found
      · exact ih found
      · next unused =>
          cases found
          simpa using unused

theorem createDestination_sources (handler : PortForwardHandler) (answers : PacketAnswers)
    (table : DescriptorTable) (pfdr : PortForwardDestinationRequest) :
    SameSources handler (handler.createDestination answers table pfdr).1 := by
  unfold createDestination
  split
  · exact .refl handler
  · split
    · exact .refl handler
    · exact ⟨rfl, rfl⟩

/-- The response is to the descriptor of the request, and gives out the id that it takes. -/
theorem createDestination_responds (handler : PortForwardHandler) (answers : PacketAnswers)
    (table : DescriptorTable) (pfdr : PortForwardDestinationRequest)
    (connected : Connected handler.destinationHandlers) :
    (handler.createDestination answers table pfdr).2.2.1.clientfd = pfdr.fd ∧
      Connected (handler.createDestination answers table pfdr).1.destinationHandlers ∧
      Leads handler.serves
        ([TunnelPacket.destinationResponse
          (handler.createDestination answers table pfdr).2.2.1].filterMap TunnelPacket.idCall)
        (handler.createDestination answers table pfdr).1.serves := by
  unfold createDestination
  split
  · exact ⟨rfl, connected, .nil _⟩
  · next fd connects =>
      split
      · exact ⟨rfl, connected, .nil _⟩
      · next socketId found =>
          have unused : socketId ∉ handler.serves :=
            not_not.mpr (emptySocketId_unused found)
          refine ⟨rfl, ?_, ?_⟩
          · intro id destination isDestination
            dsimp only at isDestination
            by_cases same : id = socketId
            · subst same
              rw [Function.update_self] at isDestination
              exact ⟨fd, (Option.some.inj isDestination).symm⟩
            · rw [Function.update_of_ne same] at isDestination
              exact connected id destination isDestination
          · have opens := Leads.opened_one unused
            unfold serves at opens ⊢
            dsimp only
            rw [serves_update_some]
            exact opens

theorem closeSourceFd_destinations (handler : PortForwardHandler) (table : DescriptorTable)
    (fd : Fd) :
    (handler.closeSourceFd table fd).1.destinationHandlers = handler.destinationHandlers := by
  unfold closeSourceFd
  split
  · rfl
  · split
    · rfl
    · rfl

theorem addSourceSocketId_destinations (handler : PortForwardHandler) (socketId : Int)
    (fd : Fd) :
    (handler.addSourceSocketId socketId fd).destinationHandlers = handler.destinationHandlers := by
  unfold addSourceSocketId
  split
  · rfl
  · split
    · rfl
    · rfl

theorem closeSourceSocketId_destinations (handler : PortForwardHandler)
    (table : DescriptorTable) (socketId : Int) :
    (handler.closeSourceSocketId table socketId).1.destinationHandlers =
      handler.destinationHandlers := by
  unfold closeSourceSocketId
  split
  · rfl
  · split
    · rfl
    · rfl

theorem handleSourceData_destinations (handler : PortForwardHandler) (table : DescriptorTable)
    (schedule : WriteSchedule) (socketid : Int) (content : PortForwardContent) :
    (handler.handleSourceData table schedule socketid content).1.destinationHandlers =
      handler.destinationHandlers := by
  cases content with
  | buffer bytes => rfl
  | error errno => exact closeSourceSocketId_destinations handler table socketid
  | closed => exact closeSourceSocketId_destinations handler table socketid

/-- The id of a source's socket, closed by the other end, leaves both tables. -/
theorem closeSourceSocketId_routed (isMatch : handler.RoutesMatch)
    (isRoute : socketId ∈ handler.routes) :
    (handler.closeSourceSocketId table socketId).1.RoutesMatch ∧
      (handler.closeSourceSocketId table socketId).1.routes = handler.routes \ {socketId} ∧
      ∀ (fd : Fd) (place : Nat), handler.Held fd (.unassigned place) →
        (handler.closeSourceSocketId table socketId).1.Held fd (.unassigned place) := by
  obtain ⟨index, isIndex⟩ := Option.ne_none_iff_exists'.mp isRoute
  obtain ⟨source, isSource, hasSocket⟩ := (isMatch socketId index).mpr isIndex
  obtain ⟨fd, isSocket⟩ := Option.ne_none_iff_exists'.mp hasSocket
  have elsewhere : ∀ place, place ≠ index →
      handler.socketIdSourceHandlerMap socketId ≠ some place := by
    intro place away isPlace
    exact away (Option.some.inj (isPlace.symm.trans isIndex))
  have closes : (handler.closeSourceSocketId table socketId).1 =
      { handler.setSource index
          { source with socketFdMap := Function.update source.socketFdMap socketId none } with
        socketIdSourceHandlerMap :=
          Function.update handler.socketIdSourceHandlerMap socketId none } := by
    unfold closeSourceSocketId ForwardSourceHandler.closeSocket
    rw [isIndex]
    simp only [isSource, isSocket]
  rw [closes]
  refine ⟨isMatch.changes isSource elsewhere source.unassignedFds none,
    routes_update_none handler socketId, ?_⟩
  intro other place held
  exact held_unassigned_setSource isSource (fun member => member) held

theorem addSourceSocketId_routed (isMatch : handler.RoutesMatch)
    (held : handler.Held fd (.unassigned index))
    (unused : socketId ∉ handler.routes) :
    (handler.addSourceSocketId socketId fd).RoutesMatch ∧
      (handler.addSourceSocketId socketId fd).routes = insert socketId handler.routes ∧
      ∀ (other : Fd) (place : Nat), other ≠ fd → handler.Held other (.unassigned place) →
        (handler.addSourceSocketId socketId fd).Held other (.unassigned place) := by
  obtain ⟨found, source, isSource, member, adds⟩ := addSourceSocketId_held held socketId
  have elsewhere : ∀ place, place ≠ found →
      handler.socketIdSourceHandlerMap socketId ≠ some place := by
    intro place _ isPlace
    exact unused (Option.ne_none_iff_exists'.mpr ⟨place, isPlace⟩)
  rw [adds]
  refine ⟨isMatch.changes isSource elsewhere (source.unassignedFds.erase fd) (some fd),
    routes_update_some handler socketId found, ?_⟩
  intro other place away isHeld
  exact held_unassigned_setSource isSource
    (fun isOther => Finset.mem_erase.mpr ⟨away, isOther⟩) isHeld

theorem closeSourceFd_routed (isMatch : handler.RoutesMatch)
    (held : handler.Held fd (.unassigned index)) :
    (handler.closeSourceFd table fd).1.RoutesMatch ∧
      (handler.closeSourceFd table fd).1.routes = handler.routes ∧
      ∀ (other : Fd) (place : Nat), other ≠ fd → handler.Held other (.unassigned place) →
        (handler.closeSourceFd table fd).1.Held other (.unassigned place) := by
  obtain ⟨found, source, isSource, closes⟩ := @closeSourceFd_held handler table fd index held
  rw [closes]
  refine ⟨isMatch.keeps rfl ?_, rfl, ?_⟩
  · intro place id
    constructor
    · intro has
      obtain ⟨now, isNow, hasSocket⟩ := has
      rcases (setSource_iff isSource).mp isNow with ⟨rfl, rfl⟩ | ⟨_, isOther⟩
      · exact ⟨source, isSource, hasSocket⟩
      · exact ⟨now, isOther, hasSocket⟩
    · intro has
      obtain ⟨was, isWas, hasSocket⟩ := has
      by_cases here : place = found
      · subst here
        cases isSource.symm.trans isWas
        exact ⟨_, setSource_getElem isSource _, hasSocket⟩
      · exact ⟨was, (setSource_iff isSource).mpr (Or.inr ⟨here, isWas⟩), hasSocket⟩
  · intro other place away isHeld
    exact held_unassigned_setSource isSource
      (fun isOther => Finset.mem_erase.mpr ⟨away, isOther⟩) isHeld

theorem handleSourceData_goesOn (handler : PortForwardHandler) (table : DescriptorTable)
    (schedule : WriteSchedule) (socketid : Int) {content : PortForwardContent}
    (goesOn : content.isLast = false) :
    SameSources handler (handler.handleSourceData table schedule socketid content).1 := by
  cases content with
  | buffer bytes => exact .refl handler
  | error errno => cases goesOn
  | closed => cases goesOn

theorem handleSourceData_last (table : DescriptorTable) (schedule : WriteSchedule)
    (isMatch : handler.RoutesMatch) (isRoute : socketId ∈ handler.routes)
    {content : PortForwardContent} (last : content.isLast = true) :
    (handler.handleSourceData table schedule socketId content).1.RoutesMatch ∧
      (handler.handleSourceData table schedule socketId content).1.routes =
        handler.routes \ {socketId} ∧
      ∀ (fd : Fd) (place : Nat), handler.Held fd (.unassigned place) →
        (handler.handleSourceData table schedule socketId content).1.Held fd
          (.unassigned place) := by
  cases content with
  | buffer bytes => cases last
  | error errno => exact closeSourceSocketId_routed isMatch isRoute
  | closed => exact closeSourceSocketId_routed isMatch isRoute

end PortForwardHandler

end EternalTerminal
