/-
The tables of a `PortForwardHandler` give each descriptor one owner.
-/

import EternalTerminal.Terminal.DescriptorOwners

namespace EternalTerminal

open Library Library.Multiplexer

structure Owns (handler : PortForwardHandler) (owner : Fd → Option Owner) : Prop where
  unassigned {index : Nat} {source : ForwardSourceHandler} {fd : Fd} :
    handler.sourceHandlers[index]? = some source →
      (fd ∈ source.unassignedFds ↔ owner fd = some (.unassigned index))
  socket {index : Nat} {source : ForwardSourceHandler} {socketId : Int} {fd : Fd} :
    handler.sourceHandlers[index]? = some source →
      (source.socketFdMap socketId = some fd ↔ owner fd = some (.socket index socketId))
  destination {socketId : Int} {fd : Fd} :
    (∃ destination, handler.destinationHandlers socketId = some destination ∧
      destination.fd = some fd) ↔ owner fd = some (.destination socketId)
  connected {socketId : Int} {destination : ForwardDestinationHandler} :
    handler.destinationHandlers socketId = some destination →
      ∃ fd, destination = { fd := some fd, socketId := socketId }
  unassigned_source {index : Nat} {fd : Fd} : owner fd = some (.unassigned index) →
    ∃ source, handler.sourceHandlers[index]? = some source
  socket_source {index : Nat} {socketId : Int} {fd : Fd} :
    owner fd = some (.socket index socketId) →
      ∃ source, handler.sourceHandlers[index]? = some source
  routed {index : Nat} {socketId : Int} {fd : Fd} :
    owner fd = some (.socket index socketId) →
      handler.socketIdSourceHandlerMap socketId = some index

theorem setSource_iff {handler : PortForwardHandler} {index other : Nat}
    {former new source : ForwardSourceHandler}
    (isFormer : handler.sourceHandlers[index]? = some former) :
    (handler.setSource index new).sourceHandlers[other]? = some source ↔
      (other = index ∧ new = source) ∨
        (other ≠ index ∧ handler.sourceHandlers[other]? = some source) := by
  obtain ⟨inside, _⟩ := List.getElem?_eq_some_iff.mp isFormer
  change (handler.sourceHandlers.set index new)[other]? = some source ↔ _
  by_cases same : other = index
  · subst same
    rw [List.getElem?_set_self inside]
    simp
  · rw [List.getElem?_set_ne (Ne.symm same)]
    simp [same]

theorem setSource_self {handler : PortForwardHandler} {index : Nat}
    {source : ForwardSourceHandler}
    (isSource : handler.sourceHandlers[index]? = some source) :
    handler.setSource index source = handler := by
  obtain ⟨inside, rfl⟩ := List.getElem?_eq_some_iff.mp isSource
  rw [PortForwardHandler.setSource, List.set_getElem_self]

namespace Owns

variable {handler : PortForwardHandler} {owner : Fd → Option Owner} {index : Nat}
  {source : ForwardSourceHandler} {fd : Fd} {socketId : Int}

def OfSource (index : Nat) (holder : Option Owner) : Prop :=
  holder = none ∨ holder = some (.unassigned index) ∨
    ∃ socketId, holder = some (.socket index socketId)

theorem OfSource.not_destination {holder : Option Owner} (ofSource : OfSource index holder) :
    holder ≠ some (.destination socketId) := by
  rintro rfl
  rcases ofSource with impossible | impossible | ⟨_, impossible⟩
  · cases impossible
  · cases impossible
  · cases impossible

theorem OfSource.unassigned_index {other : Nat}
    (ofSource : OfSource index (some (.unassigned other))) : other = index := by
  rcases ofSource with impossible | same | ⟨_, impossible⟩
  · cases impossible
  · cases same
    rfl
  · cases impossible

theorem OfSource.socket_index {other : Nat}
    (ofSource : OfSource index (some (.socket other socketId))) : other = index := by
  rcases ofSource with impossible | impossible | ⟨_, same⟩
  · cases impossible
  · cases impossible
  · cases same
    rfl

theorem replaces (owns : Owns handler owner)
    (isSource : handler.sourceHandlers[index]? = some source) {new : ForwardSourceHandler}
    {change : Option Owner} {map : Int → Option Nat}
    (before : OfSource index (owner fd)) (after : OfSource index change)
    (unassigned : ∀ member, member ≠ fd →
      (member ∈ new.unassignedFds ↔ member ∈ source.unassignedFds))
    (unassignedHere : fd ∈ new.unassignedFds ↔ change = some (.unassigned index))
    (sockets : ∀ id member, member ≠ fd →
      (new.socketFdMap id = some member ↔ source.socketFdMap id = some member))
    (socketsHere : ∀ id, new.socketFdMap id = some fd ↔ change = some (.socket index id))
    (routed : ∀ member place id,
      Function.update owner fd change member = some (.socket place id) → map id = some place) :
    Owns { handler.setSource index new with socketIdSourceHandlerMap := map }
      (Function.update owner fd change) := by
  have exists_source : ∀ {place : Nat} {found : ForwardSourceHandler},
      handler.sourceHandlers[place]? = some found →
        ∃ now, (handler.setSource index new).sourceHandlers[place]? = some now := by
    intro place found isFound
    by_cases here : place = index
    · exact ⟨new, (setSource_iff isSource).mpr (Or.inl ⟨here, rfl⟩)⟩
    · exact ⟨found, (setSource_iff isSource).mpr (Or.inr ⟨here, isFound⟩)⟩
  constructor
  · intro place found member isFound
    by_cases same : member = fd
    · subst same
      rw [Function.update_self]
      rcases (setSource_iff isSource).mp isFound with ⟨rfl, rfl⟩ | ⟨elsewhere, isOther⟩
      · exact unassignedHere
      · rw [owns.unassigned isOther]
        constructor
        · intro old
          exact absurd (OfSource.unassigned_index (old ▸ before)) elsewhere
        · intro now
          exact absurd (OfSource.unassigned_index (now ▸ after)) elsewhere
    · rw [Function.update_of_ne same]
      rcases (setSource_iff isSource).mp isFound with ⟨rfl, rfl⟩ | ⟨_, isOther⟩
      · exact (unassigned member same).trans (owns.unassigned isSource)
      · exact owns.unassigned isOther
  · intro place found id member isFound
    by_cases same : member = fd
    · subst same
      rw [Function.update_self]
      rcases (setSource_iff isSource).mp isFound with ⟨rfl, rfl⟩ | ⟨elsewhere, isOther⟩
      · exact socketsHere id
      · rw [owns.socket isOther]
        constructor
        · intro old
          exact absurd (OfSource.socket_index (old ▸ before)) elsewhere
        · intro now
          exact absurd (OfSource.socket_index (now ▸ after)) elsewhere
    · rw [Function.update_of_ne same]
      rcases (setSource_iff isSource).mp isFound with ⟨rfl, rfl⟩ | ⟨_, isOther⟩
      · exact (sockets id member same).trans (owns.socket isSource)
      · exact owns.socket isOther
  · intro id member
    by_cases same : member = fd
    · subst same
      rw [Function.update_self]
      apply iff_of_false
      · exact fun held => before.not_destination (owns.destination.mp held)
      · exact after.not_destination
    · rw [Function.update_of_ne same]
      exact owns.destination
  · exact owns.connected
  · intro place member isOwner
    by_cases same : member = fd
    · subst same
      rw [Function.update_self] at isOwner
      obtain rfl := OfSource.unassigned_index (isOwner ▸ after)
      exact exists_source isSource
    · rw [Function.update_of_ne same] at isOwner
      obtain ⟨found, isFound⟩ := owns.unassigned_source isOwner
      exact exists_source isFound
  · intro place id member isOwner
    by_cases same : member = fd
    · subst same
      rw [Function.update_self] at isOwner
      obtain rfl := OfSource.socket_index (isOwner ▸ after)
      exact exists_source isSource
    · rw [Function.update_of_ne same] at isOwner
      obtain ⟨found, isFound⟩ := owns.socket_source isOwner
      exact exists_source isFound
  · exact fun isOwner => routed _ _ _ isOwner

theorem routed_update (owns : Owns handler owner) {change : Option Owner}
    (notSocket : ∀ place id, change ≠ some (.socket place id)) {member : Fd} {place : Nat}
    {id : Int} (isOwner : Function.update owner fd change member = some (.socket place id)) :
    handler.socketIdSourceHandlerMap id = some place := by
  by_cases same : member = fd
  · subst same
    rw [Function.update_self] at isOwner
    exact absurd isOwner (notSocket place id)
  · rw [Function.update_of_ne same] at isOwner
    exact owns.routed isOwner

theorem accepts (owns : Owns handler owner)
    (isSource : handler.sourceHandlers[index]? = some source) (unowned : owner fd = none) :
    Owns (handler.setSource index
        { source with unassignedFds := insert fd source.unassignedFds })
      (Function.update owner fd (some (.unassigned index))) := by
  refine owns.replaces isSource (Or.inl unowned) (Or.inr (Or.inl rfl)) ?_ ?_ ?_ ?_ ?_
  · intro member different
    simp [different]
  · simp
  · exact fun _ _ _ => Iff.rfl
  · intro id
    apply iff_of_false
    · intro held
      cases unowned.symm.trans ((owns.socket isSource).mp held)
    · simp
  · intro member place id
    exact owns.routed_update (by simp)

theorem removesSocket (owns : Owns handler owner)
    (isSource : handler.sourceHandlers[index]? = some source)
    (isSocket : source.socketFdMap socketId = some fd) {map : Int → Option Nat}
    (routes : ∀ id, id ≠ socketId → map id = handler.socketIdSourceHandlerMap id) :
    Owns { handler.setSource index
        { source with socketFdMap := Function.update source.socketFdMap socketId none } with
        socketIdSourceHandlerMap := map }
      (Function.update owner fd none) := by
  have isOwner := (owns.socket isSource).mp isSocket
  refine owns.replaces isSource (Or.inr (Or.inr ⟨socketId, isOwner⟩)) (Or.inl rfl)
    ?_ ?_ ?_ ?_ ?_
  · exact fun _ _ => Iff.rfl
  · rw [owns.unassigned isSource, isOwner]
    simp
  · intro id member different
    constructor
    · exact fun held => (update_none_iff.mp held).2
    · intro held
      refine update_none_iff.mpr ⟨?_, held⟩
      rintro rfl
      cases isSocket.symm.trans held
      exact different rfl
  · intro id
    apply iff_of_false _ (by simp)
    intro held
    obtain ⟨different, old⟩ := update_none_iff.mp held
    cases isOwner.symm.trans ((owns.socket isSource).mp old)
    exact different rfl
  · intro member place id isSocketOf
    by_cases here : id = socketId
    · subst here
      have elsewhere : member ≠ fd := by
        rintro rfl
        rw [Function.update_self] at isSocketOf
        cases isSocketOf
      rw [Function.update_of_ne elsewhere] at isSocketOf
      cases (owns.routed isOwner).symm.trans (owns.routed isSocketOf)
      cases isSocket.symm.trans ((owns.socket isSource).mpr isSocketOf)
      exact absurd rfl elsewhere
    · rw [routes id here]
      exact owns.routed_update (by simp) isSocketOf

theorem discards (owns : Owns handler owner)
    (isSource : handler.sourceHandlers[index]? = some source)
    (isUnassigned : fd ∈ source.unassignedFds) :
    Owns (handler.setSource index
        { source with unassignedFds := source.unassignedFds.erase fd })
      (Function.update owner fd none) := by
  have isOwner := (owns.unassigned isSource).mp isUnassigned
  refine owns.replaces isSource (Or.inr (Or.inl isOwner)) (Or.inl rfl) ?_ ?_ ?_ ?_ ?_
  · intro member different
    simp [different]
  · simp
  · exact fun _ _ _ => Iff.rfl
  · intro id
    apply iff_of_false _ (by simp)
    intro held
    cases isOwner.symm.trans ((owns.socket isSource).mp held)
  · intro member place id
    exact owns.routed_update (by simp)

theorem assigns (owns : Owns handler owner)
    (isSource : handler.sourceHandlers[index]? = some source)
    (isUnassigned : fd ∈ source.unassignedFds)
    (unused : ∀ member place, owner member ≠ some (.socket place socketId)) :
    Owns { handler.setSource index
        { source with
          unassignedFds := source.unassignedFds.erase fd
          socketFdMap := Function.update source.socketFdMap socketId (some fd) } with
        socketIdSourceHandlerMap :=
          Function.update handler.socketIdSourceHandlerMap socketId (some index) }
      (Function.update owner fd (some (.socket index socketId))) := by
  have isOwner := (owns.unassigned isSource).mp isUnassigned
  refine owns.replaces isSource (Or.inr (Or.inl isOwner)) (Or.inr (Or.inr ⟨socketId, rfl⟩))
    ?_ ?_ ?_ ?_ ?_
  · intro member different
    simp [different]
  · simp
  · intro id member different
    constructor
    · intro held
      rcases update_some_iff.mp held with ⟨_, same⟩ | ⟨_, old⟩
      · exact absurd same.symm different
      · exact old
    · intro held
      refine update_some_iff.mpr (Or.inr ⟨?_, held⟩)
      rintro rfl
      exact unused member index ((owns.socket isSource).mp held)
  · intro id
    constructor
    · intro held
      rcases update_some_iff.mp held with ⟨rfl, _⟩ | ⟨_, old⟩
      · rfl
      · cases isOwner.symm.trans ((owns.socket isSource).mp old)
    · intro same
      cases same
      exact Function.update_self ..
  · intro member place id isSocketOf
    by_cases same : member = fd
    · subst same
      rw [Function.update_self] at isSocketOf
      cases isSocketOf
      exact Function.update_self ..
    · rw [Function.update_of_ne same] at isSocketOf
      refine update_some_iff.mpr (Or.inr ⟨?_, owns.routed isSocketOf⟩)
      rintro rfl
      exact unused member place isSocketOf

theorem unroutes (owns : Owns handler owner)
    (unused : ∀ member place, owner member ≠ some (.socket place socketId)) :
    Owns { handler with
        socketIdSourceHandlerMap :=
          Function.update handler.socketIdSourceHandlerMap socketId none } owner := by
  refine { owns with routed := ?_ }
  intro place id member isOwner
  refine update_none_iff.mpr ⟨?_, owns.routed isOwner⟩
  rintro rfl
  exact unused member place isOwner

theorem connects (owns : Owns handler owner) (unowned : owner fd = none)
    (unused : handler.destinationHandlers socketId = none) :
    Owns { handler with
        destinationHandlers := Function.update handler.destinationHandlers socketId
          (some { fd := some fd, socketId := socketId }) }
      (Function.update owner fd (some (.destination socketId))) := by
  have others : ∀ {member : Fd} {holder : Owner}, holder ≠ .destination socketId →
      (Function.update owner fd (some (.destination socketId)) member = some holder ↔
        owner member = some holder) := by
    intro member holder different
    by_cases same : member = fd
    · subst same
      rw [Function.update_self, unowned]
      simp [Ne.symm different]
    · rw [Function.update_of_ne same]
  constructor
  · intro place found member isFound
    rw [others (by simp)]
    exact owns.unassigned isFound
  · intro place found id member isFound
    rw [others (by simp)]
    exact owns.socket isFound
  · intro id member
    dsimp only
    by_cases same : id = socketId
    · subst same
      rw [Function.update_self]
      constructor
      · rintro ⟨_, ⟨⟩, ⟨⟩⟩
        exact Function.update_self ..
      · intro isOwner
        by_cases here : member = fd
        · exact ⟨_, rfl, congrArg some here.symm⟩
        · rw [Function.update_of_ne here] at isOwner
          obtain ⟨destination, held, _⟩ := owns.destination.mpr isOwner
          cases unused.symm.trans held
    · rw [Function.update_of_ne same, others (by simpa using same)]
      exact owns.destination
  · intro id destination held
    rcases update_some_iff.mp held with ⟨rfl, rfl⟩ | ⟨_, old⟩
    · exact ⟨fd, rfl⟩
    · exact owns.connected old
  · intro place member isOwner
    exact owns.unassigned_source ((others (by simp)).mp isOwner)
  · intro place id member isOwner
    exact owns.socket_source ((others (by simp)).mp isOwner)
  · intro place id member isOwner
    exact owns.routed ((others (by simp)).mp isOwner)

theorem removesDestination (owns : Owns handler owner)
    (isOwner : owner fd = some (.destination socketId)) :
    Owns { handler with
        destinationHandlers := Function.update handler.destinationHandlers socketId none }
      (Function.update owner fd none) := by
  have others : ∀ {member : Fd} {holder : Owner}, holder ≠ .destination socketId →
      (Function.update owner fd none member = some holder ↔ owner member = some holder) := by
    intro member holder different
    by_cases same : member = fd
    · subst same
      rw [Function.update_self, isOwner]
      simp [Ne.symm different]
    · rw [Function.update_of_ne same]
  constructor
  · intro place found member isFound
    rw [others (by simp)]
    exact owns.unassigned isFound
  · intro place found id member isFound
    rw [others (by simp)]
    exact owns.socket isFound
  · intro id member
    dsimp only
    by_cases same : id = socketId
    · subst same
      rw [Function.update_self]
      apply iff_of_false
      · rintro ⟨destination, impossible, _⟩
        cases impossible
      · intro stillOwner
        by_cases here : member = fd
        · subst here
          rw [Function.update_self] at stillOwner
          cases stillOwner
        · rw [Function.update_of_ne here] at stillOwner
          obtain ⟨first, heldFirst, isFirst⟩ := owns.destination.mpr isOwner
          obtain ⟨second, heldSecond, isSecond⟩ := owns.destination.mpr stillOwner
          cases heldFirst.symm.trans heldSecond
          cases isFirst.symm.trans isSecond
          exact here rfl
    · rw [Function.update_of_ne same, others (by simpa using same)]
      exact owns.destination
  · exact fun held => owns.connected (update_none_iff.mp held).2
  · intro place member isOwner
    exact owns.unassigned_source ((others (by simp)).mp isOwner)
  · intro place id member isOwner
    exact owns.socket_source ((others (by simp)).mp isOwner)
  · intro place id member isOwner
    exact owns.routed ((others (by simp)).mp isOwner)

end Owns

end EternalTerminal
