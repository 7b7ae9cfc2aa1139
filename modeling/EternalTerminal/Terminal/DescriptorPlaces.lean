/-
The places of a `PortForwardHandler`'s descriptors.  Each descriptor has one and is open.
-/

import EternalTerminal.Terminal.DescriptorCalls
import EternalTerminal.Terminal.TunnelUpdate

namespace EternalTerminal

open Library HandleCall

def PortForwardHandler.Held (handler : PortForwardHandler) (fd : Fd) : Owner → Prop
  | .unassigned index =>
      ∃ source, handler.sourceHandlers[index]? = some source ∧ fd ∈ source.unassignedFds
  | .socket index socketId =>
      ∃ source, handler.sourceHandlers[index]? = some source ∧
        source.socketFdMap socketId = some fd
  | .destination socketId =>
      ∃ destination, handler.destinationHandlers socketId = some destination ∧
        destination.fd = some fd

/-- The tables are disjoint and without duplicates, what they have is open, and no destination
is without a descriptor. -/
structure Sole (handler : PortForwardHandler) (handles : Set Fd) : Prop where
  once {fd : Fd} {first second : Owner} :
    handler.Held fd first → handler.Held fd second → first = second
  isOpen {fd : Fd} {holder : Owner} : handler.Held fd holder → fd ∈ handles
  connected {socketId : Int} {destination : ForwardDestinationHandler} :
    handler.destinationHandlers socketId = some destination → destination.fd ≠ none

namespace DescriptorTable

variable {table : DescriptorTable} {fd : Fd}

def openFds (table : DescriptorTable) : Set Fd :=
  { fd | table.connectionOf fd ≠ none }

theorem not_mem_openFds : fd ∉ table.openFds ↔ table.connectionOf fd = none :=
  not_not

@[simp] theorem openFds_openFd (table : DescriptorTable) (fd : Fd) :
    (table.openFd fd).openFds = insert fd table.openFds := by
  ext other
  by_cases same : other = fd
  · simp [openFds, openFd, same]
  · simp [openFds, openFd, same]

@[simp] theorem openFds_close (table : DescriptorTable) (fd : Fd) :
    (table.close fd).openFds = table.openFds \ {fd} := by
  ext other
  by_cases same : other = fd
  · simp [openFds, close, same]
  · simp [openFds, close, same]

@[simp] theorem openFds_read (table : DescriptorTable) (fd : Fd) (chunk : Bytes) :
    (table.read fd chunk).openFds = table.openFds := by
  unfold read
  split
  · rfl
  · rfl

@[simp] theorem openFds_write (table : DescriptorTable) (fd : Fd) (chunk : Bytes)
    (schedule : WriteSchedule) :
    (table.writeAllOrReturn fd chunk schedule).openFds = table.openFds := by
  unfold writeAllOrReturn
  split
  · rfl
  · rfl

end DescriptorTable

namespace Sole

variable {handler after : PortForwardHandler} {handles later : Set Fd} {fd : Fd}
  {place : Option Owner}

/-- One descriptor leaves its place for another, or for none. -/
theorem moves (sole : Sole handler handles)
    (held : ∀ other holder, after.Held other holder →
      (other ≠ fd ∧ handler.Held other holder) ∨ (other = fd ∧ some holder = place))
    (others : ∀ other ∈ handles, other ≠ fd → other ∈ later)
    (here : place ≠ none → fd ∈ later)
    (connected : ∀ socketId destination,
      after.destinationHandlers socketId = some destination → destination.fd ≠ none) :
    Sole after later := by
  constructor
  · intro other first second isFirst isSecond
    rcases held _ _ isFirst with ⟨different, wasFirst⟩ | ⟨same, atFirst⟩
    · rcases held _ _ isSecond with ⟨_, wasSecond⟩ | ⟨same, _⟩
      · exact sole.once wasFirst wasSecond
      · exact absurd same different
    · rcases held _ _ isSecond with ⟨different, _⟩ | ⟨_, atSecond⟩
      · exact absurd same different
      · exact Option.some.inj (atFirst.trans atSecond.symm)
  · intro other holder isHeld
    rcases held _ _ isHeld with ⟨different, was⟩ | ⟨same, atPlace⟩
    · exact others other (sole.isOpen was) different
    · rw [same]
      exact here (atPlace ▸ Option.some_ne_none holder)
  · exact fun isDestination => connected _ _ isDestination

variable {index : Nat} {source new : ForwardSourceHandler}

def OfSource (index : Nat) : Owner → Prop
  | .unassigned other => other = index
  | .socket other _ => other = index
  | .destination _ => False

theorem replaces (sole : Sole handler handles) (fd : Fd) (place : Option Owner)
    (isSource : handler.sourceHandlers[index]? = some source) {map : Int → Option Nat}
    (before : ∀ holder, handler.Held fd holder → OfSource index holder)
    (unassigned : ∀ other ∈ new.unassignedFds, (other ≠ fd ∧ other ∈ source.unassignedFds) ∨
      (other = fd ∧ place = some (.unassigned index)))
    (sockets : ∀ socketId other, new.socketFdMap socketId = some other →
      (other ≠ fd ∧ source.socketFdMap socketId = some other) ∨
        (other = fd ∧ place = some (.socket index socketId)))
    (others : ∀ other ∈ handles, other ≠ fd → other ∈ later)
    (here : place ≠ none → fd ∈ later) :
    Sole { handler.setSource index new with socketIdSourceHandlerMap := map } later := by
  refine sole.moves ?_ others here fun _ _ isDestination => sole.connected isDestination
  intro other holder held
  cases holder with
  | unassigned place =>
      obtain ⟨found, isFound, member⟩ := held
      rcases (setSource_iff isSource).mp isFound with ⟨rfl, rfl⟩ | ⟨elsewhere, isOther⟩
      · rcases unassigned other member with ⟨different, was⟩ | ⟨same, isPlace⟩
        · exact Or.inl ⟨different, source, isSource, was⟩
        · exact Or.inr ⟨same, isPlace.symm⟩
      · have was : handler.Held other (.unassigned place) := ⟨found, isOther, member⟩
        refine Or.inl ⟨?_, was⟩
        intro same
        subst same
        exact elsewhere (before _ was)
  | socket place socketId =>
      obtain ⟨found, isFound, member⟩ := held
      rcases (setSource_iff isSource).mp isFound with ⟨rfl, rfl⟩ | ⟨elsewhere, isOther⟩
      · rcases sockets socketId other member with ⟨different, was⟩ | ⟨same, isPlace⟩
        · exact Or.inl ⟨different, source, isSource, was⟩
        · exact Or.inr ⟨same, isPlace.symm⟩
      · have was : handler.Held other (.socket place socketId) := ⟨found, isOther, member⟩
        refine Or.inl ⟨?_, was⟩
        intro same
        subst same
        exact elsewhere (before _ was)
  | destination socketId =>
      have was : handler.Held other (.destination socketId) := held
      refine Or.inl ⟨?_, was⟩
      intro same
      subst same
      exact before _ was

theorem ofSource (sole : Sole handler handles) {holder : Owner} (isHeld : handler.Held fd holder)
    (atSource : OfSource index holder) (other : Owner) (held : handler.Held fd other) :
    OfSource index other :=
  sole.once isHeld held ▸ atSource

theorem accepts (sole : Sole handler handles)
    (isSource : handler.sourceHandlers[index]? = some source) (fresh : fd ∉ handles) :
    Sole (handler.setSource index
      { source with unassignedFds := insert fd source.unassignedFds }) (insert fd handles) := by
  refine sole.replaces fd (some (.unassigned index)) isSource ?_ ?_ ?_ ?_ ?_
  · exact fun holder held => absurd (sole.isOpen held) fresh
  · intro other member
    rcases Finset.mem_insert.mp member with same | old
    · exact Or.inr ⟨same, rfl⟩
    · refine Or.inl ⟨?_, old⟩
      intro same
      have held : handler.Held fd (.unassigned index) := ⟨source, isSource, same ▸ old⟩
      exact fresh (sole.isOpen held)
  · intro socketId other isSocket
    refine Or.inl ⟨?_, isSocket⟩
    intro same
    have held : handler.Held fd (.socket index socketId) := ⟨source, isSource, same ▸ isSocket⟩
    exact fresh (sole.isOpen held)
  · exact fun other isOpen _ => Set.mem_insert_of_mem _ isOpen
  · exact fun _ => Set.mem_insert _ _

theorem discards (sole : Sole handler handles)
    (isSource : handler.sourceHandlers[index]? = some source)
    (isUnassigned : fd ∈ source.unassignedFds) :
    Sole (handler.setSource index
      { source with unassignedFds := source.unassignedFds.erase fd }) (handles \ {fd}) := by
  have held : handler.Held fd (.unassigned index) := ⟨source, isSource, isUnassigned⟩
  refine sole.replaces fd none isSource (sole.ofSource held rfl) ?_ ?_ ?_ ?_
  · intro other member
    exact Or.inl (Finset.mem_erase.mp member)
  · intro socketId other isSocket
    refine Or.inl ⟨?_, isSocket⟩
    intro same
    subst same
    have again : handler.Held other (.socket index socketId) := ⟨source, isSource, isSocket⟩
    cases sole.once held again
  · exact fun other isOpen different => ⟨isOpen, different⟩
  · exact fun impossible => absurd rfl impossible

theorem removesSocket (sole : Sole handler handles)
    (isSource : handler.sourceHandlers[index]? = some source) {socketId : Int}
    (isSocket : source.socketFdMap socketId = some fd) {map : Int → Option Nat} :
    Sole { handler.setSource index
        { source with socketFdMap := Function.update source.socketFdMap socketId none } with
        socketIdSourceHandlerMap := map } (handles \ {fd}) := by
  have held : handler.Held fd (.socket index socketId) := ⟨source, isSource, isSocket⟩
  refine sole.replaces fd none isSource (sole.ofSource held rfl) ?_ ?_ ?_ ?_
  · intro other member
    refine Or.inl ⟨?_, member⟩
    intro same
    subst same
    have again : handler.Held other (.unassigned index) := ⟨source, isSource, member⟩
    cases sole.once held again
  · intro otherId other stillSocket
    obtain ⟨different, was⟩ := update_none_iff.mp stillSocket
    refine Or.inl ⟨?_, was⟩
    intro same
    subst same
    have again : handler.Held other (.socket index otherId) := ⟨source, isSource, was⟩
    cases sole.once held again
    exact different rfl
  · exact fun other isOpen different => ⟨isOpen, different⟩
  · exact fun impossible => absurd rfl impossible

/-- A descriptor gets an id.  Another that had the id is not in a table any more. -/
theorem assigns (sole : Sole handler handles)
    (isSource : handler.sourceHandlers[index]? = some source)
    (isUnassigned : fd ∈ source.unassignedFds) (socketId : Int) {map : Int → Option Nat} :
    Sole { handler.setSource index
        { source with
          unassignedFds := source.unassignedFds.erase fd
          socketFdMap := Function.update source.socketFdMap socketId (some fd) } with
        socketIdSourceHandlerMap := map } handles := by
  have held : handler.Held fd (.unassigned index) := ⟨source, isSource, isUnassigned⟩
  refine sole.replaces fd (some (.socket index socketId)) isSource (sole.ofSource held rfl)
    ?_ ?_ ?_ ?_
  · intro other member
    exact Or.inl (Finset.mem_erase.mp member)
  · intro otherId other isSocket
    rcases update_some_iff.mp isSocket with ⟨sameId, same⟩ | ⟨_, was⟩
    · exact Or.inr ⟨same.symm, sameId ▸ rfl⟩
    · refine Or.inl ⟨?_, was⟩
      intro same
      subst same
      have again : handler.Held other (.socket index otherId) := ⟨source, isSource, was⟩
      cases sole.once held again
  · exact fun other isOpen _ => isOpen
  · exact fun _ => sole.isOpen held

variable {socketId : Int} {destination : ForwardDestinationHandler}

theorem connects (sole : Sole handler handles) (fresh : fd ∉ handles) (number : Int) :
    Sole { handler with
        destinationHandlers := Function.update handler.destinationHandlers socketId
          (some { fd := some fd, socketId := number }) } (insert fd handles) := by
  have unheld : ∀ {other : Fd} {holder : Owner}, handler.Held other holder → other ≠ fd := by
    intro other holder held same
    exact fresh (same ▸ sole.isOpen held)
  refine @moves handler _ handles _ fd (some (.destination socketId)) sole ?_ ?_ ?_ ?_
  · intro other holder held
    cases holder with
    | unassigned index =>
        have was : handler.Held other (.unassigned index) := held
        exact Or.inl ⟨unheld was, was⟩
    | socket index id =>
        have was : handler.Held other (.socket index id) := held
        exact Or.inl ⟨unheld was, was⟩
    | destination id =>
        obtain ⟨found, isFound, hasFd⟩ := held
        rcases update_some_iff.mp isFound with ⟨rfl, rfl⟩ | ⟨_, old⟩
        · exact Or.inr ⟨(Option.some.inj hasFd).symm, rfl⟩
        · have was : handler.Held other (.destination id) := ⟨found, old, hasFd⟩
          exact Or.inl ⟨unheld was, was⟩
  · exact fun other isOpen _ => Set.mem_insert_of_mem _ isOpen
  · exact fun _ => Set.mem_insert _ _
  · intro id found isFound
    rcases update_some_iff.mp isFound with ⟨_, rfl⟩ | ⟨_, old⟩
    · exact Option.some_ne_none fd
    · exact sole.connected old

theorem removesDestination (sole : Sole handler handles)
    (isDestination : handler.destinationHandlers socketId = some destination)
    (hasFd : destination.fd = some fd) :
    Sole { handler with
        destinationHandlers := Function.update handler.destinationHandlers socketId none }
      (handles \ {fd}) := by
  have isHeld : handler.Held fd (.destination socketId) := ⟨destination, isDestination, hasFd⟩
  refine @moves handler _ handles _ fd none sole ?_ ?_ ?_ ?_
  · intro other holder held
    cases holder with
    | unassigned index =>
        have was : handler.Held other (.unassigned index) := held
        refine Or.inl ⟨?_, was⟩
        intro same
        subst same
        cases sole.once isHeld was
    | socket index id =>
        have was : handler.Held other (.socket index id) := held
        refine Or.inl ⟨?_, was⟩
        intro same
        subst same
        cases sole.once isHeld was
    | destination id =>
        obtain ⟨found, isFound, otherFd⟩ := held
        obtain ⟨different, old⟩ := update_none_iff.mp isFound
        have was : handler.Held other (.destination id) := ⟨found, old, otherFd⟩
        refine Or.inl ⟨?_, was⟩
        intro same
        subst same
        cases sole.once isHeld was
        exact different rfl
  · exact fun other isOpen different => ⟨isOpen, different⟩
  · exact fun impossible => absurd rfl impossible
  · exact fun id found isFound => sole.connected (update_none_iff.mp isFound).2

theorem addSources (sole : Sole handler handles) (sources : List TunnelEnds) :
    Sole (handler.addSources sources) handles := by
  have old : ∀ {index : Nat} {found : ForwardSourceHandler},
      (handler.addSources sources).sourceHandlers[index]? = some found →
      handler.sourceHandlers[index]? = some found ∨
        (found.unassignedFds = ∅ ∧ ∀ id, found.socketFdMap id = none) := by
    intro index found isFound
    change (handler.sourceHandlers ++ _)[index]? = some found at isFound
    by_cases inside : index < handler.sourceHandlers.length
    · rw [List.getElem?_append_left inside] at isFound
      exact Or.inl isFound
    · rw [List.getElem?_append_right (Nat.le_of_not_lt inside)] at isFound
      obtain ⟨ends, _, same⟩ := List.mem_map.mp (List.mem_of_getElem? isFound)
      subst same
      exact Or.inr ⟨rfl, fun _ => rfl⟩
  have was : ∀ {other : Fd} {holder : Owner}, (handler.addSources sources).Held other holder →
      handler.Held other holder := by
    intro other holder held
    cases holder with
    | unassigned index =>
        obtain ⟨found, isFound, member⟩ := held
        rcases old isFound with before | ⟨nothing, _⟩
        · exact ⟨found, before, member⟩
        · rw [nothing] at member
          exact absurd member (Finset.notMem_empty other)
    | socket index id =>
        obtain ⟨found, isFound, isSocket⟩ := held
        rcases old isFound with before | ⟨_, nothing⟩
        · exact ⟨found, before, isSocket⟩
        · cases (nothing id).symm.trans isSocket
    | destination id => exact held
  constructor
  · exact fun first second => sole.once (was first) (was second)
  · exact fun held => sole.isOpen (was held)
  · exact sole.connected

theorem listening (sources : List TunnelEnds) (handles : Set Fd) :
    Sole (.listening sources) handles := by
  have nothing : ∀ {fd : Fd} {holder : Owner},
      ¬ PortForwardHandler.Held (.listening []) fd holder := by
    intro fd holder held
    cases holder with
    | unassigned index =>
        obtain ⟨source, impossible, _⟩ := held
        cases impossible
    | socket index socketId =>
        obtain ⟨source, impossible, _⟩ := held
        cases impossible
    | destination socketId =>
        obtain ⟨destination, impossible, _⟩ := held
        cases impossible
  have idle : Sole (.listening []) handles := by
    constructor
    · exact fun held => absurd held nothing
    · exact fun held => absurd held nothing
    · intro socketId destination impossible
      cases impossible
  exact idle.addSources sources

end Sole

end EternalTerminal
