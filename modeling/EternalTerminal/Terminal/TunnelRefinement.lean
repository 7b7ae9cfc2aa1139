/-
Two `PortForwardHandler`s move as the stations of the multiplexer do.
-/

import EternalTerminal.Terminal.HandlerOwners

namespace EternalTerminal

open Library Library.Multiplexer

def PortForwardContent.chunk? : PortForwardContent → Option Bytes
  | .buffer bytes => some bytes
  | .error _ => none
  | .closed => none

def PortForwardData.letter (pwd : PortForwardData) : Letter Int Bytes :=
  if pwd.sourcetodestination then .forward pwd.socketid pwd.content.chunk?
  else .backward pwd.socketid pwd.content.chunk?

/-- A packet names a descriptor where the letter names the connection. -/
inductive Carries (sender receiver : DescriptorTable) :
    TunnelPacket → Letter Int Bytes → Prop
  | request {pfdr : PortForwardDestinationRequest} :
      sender.connectionOf pfdr.fd = some pfdr.connection →
      Carries sender receiver (.destinationRequest pfdr) (.request pfdr.connection)
  | refusal {clientfd : Fd} {source : Nat} (what : String) :
      receiver.connectionOf clientfd = some source →
      Carries sender receiver
        (.destinationResponse { clientfd := clientfd, result := .error what }) (.refusal source)
  | answer {clientfd : Fd} {socketId : Int} {source : Nat} :
      receiver.connectionOf clientfd = some source →
      Carries sender receiver
        (.destinationResponse { clientfd := clientfd, result := .ok socketId })
        (.answer source socketId)
  | data (pwd : PortForwardData) : Carries sender receiver (.data pwd) pwd.letter

theorem carries_forward (sender receiver : DescriptorTable) (socketId : Int)
    {content : PortForwardContent} {chunk : Option Bytes} (isChunk : content.chunk? = chunk) :
    Carries sender receiver (.data { sourcetodestination := true, socketid := socketId, content })
      (.forward socketId chunk) := by
  subst isChunk
  exact .data { sourcetodestination := true, socketid := socketId, content }

theorem carries_backward (sender receiver : DescriptorTable) (socketId : Int)
    {content : PortForwardContent} {chunk : Option Bytes} (isChunk : content.chunk? = chunk) :
    Carries sender receiver (.data { sourcetodestination := false, socketid := socketId, content })
      (.backward socketId chunk) := by
  subst isChunk
  exact .data { sourcetodestination := false, socketid := socketId, content }

def Keeps (before after : DescriptorTable) (station : Station Int Bytes) : Prop :=
  ∀ fd connection, before.connectionOf fd = some connection →
    Waits (station.stage connection) → after.connectionOf fd = some connection

theorem carried_keep {sender receiver newSender newReceiver : DescriptorTable}
    {a b : Station Int Bytes} {packets : List TunnelPacket}
    {letters : List (Letter Int Bytes)}
    (carried : List.Forall₂ (Carries sender receiver) packets letters)
    (requested : ∀ source, .request source ∈ letters → Waits (a.stage source))
    (replied : ∀ source, source ∈ replies letters → Waits (b.stage source))
    (senders : Keeps sender newSender a) (receivers : Keeps receiver newReceiver b) :
    List.Forall₂ (Carries newSender newReceiver) packets letters := by
  induction carried with
  | nil => exact .nil
  | cons first _ ih =>
      have rest := ih
        (fun source member => requested source (List.mem_cons_of_mem _ member))
        (fun source member => replied source (by
          rw [replies, List.filterMap_cons]
          split
          · exact member
          · exact List.mem_cons_of_mem _ member))
      refine .cons ?_ rest
      cases first with
      | request isFd =>
          exact .request (senders _ _ isFd (requested _ List.mem_cons_self))
      | refusal what isFd => exact .refusal what (receivers _ _ isFd (replied _ List.mem_cons_self))
      | answer isFd => exact .answer (receivers _ _ isFd (replied _ List.mem_cons_self))
      | data pwd => exact .data pwd

structure Tunnels.Refines (tunnels : Tunnels) (net : Net Int Bytes)
    (ownerHere ownerThere : Fd → Option Owner) : Prop where
  owns_here : Owns tunnels.here.handler ownerHere
  owns_there : Owns tunnels.there.handler ownerThere
  tracks_here : Tracks tunnels.here.table ownerHere net.here
  tracks_there : Tracks tunnels.there.table ownerThere net.there
  toHere : List.Forall₂ (Carries tunnels.there.table tunnels.here.table)
    tunnels.toHere net.toHere
  toThere : List.Forall₂ (Carries tunnels.here.table tunnels.there.table)
    tunnels.toThere net.toThere
  openedHere : tunnels.openedHere = net.openedHere
  openedThere : tunnels.openedThere = net.openedThere

def Tunnels.Models (tunnels : Tunnels) (net : Net Int Bytes) : Prop :=
  ∃ ownerHere ownerThere, tunnels.Refines net ownerHere ownerThere

theorem Tunnels.Models.swap {tunnels : Tunnels} {net : Net Int Bytes}
    (models : tunnels.Models net) : tunnels.swap.Models net.swap := by
  obtain ⟨ownerHere, ownerThere, refines⟩ := models
  exact ⟨ownerThere, ownerHere, refines.owns_there, refines.owns_here, refines.tracks_there,
    refines.tracks_here, refines.toThere, refines.toHere, refines.openedThere,
    refines.openedHere⟩

/-- Whatever the first state models can move to what the second models. -/
def Simulates (before after : Tunnels) : Prop :=
  ∀ net, before.Models net → net.Sound → ∃ next, net.Moves next ∧ after.Models next

namespace Simulates

variable {before middle after : Tunnels}

theorem refl (tunnels : Tunnels) : Simulates tunnels tunnels :=
  fun net models _ => ⟨net, .refl, models⟩

theorem trans (first : Simulates before middle) (second : Simulates middle after) :
    Simulates before after := by
  intro net models sound
  obtain ⟨next, moves, nextModels⟩ := first net models sound
  obtain ⟨last, moreMoves, lastModels⟩ := second next nextModels (sound.moves moves)
  exact ⟨last, moves.trans moreMoves, lastModels⟩

theorem of_models
    (simulates : ∀ net, before.Models net → net.Sound → Simulates before after) :
    Simulates before after :=
  fun net models sound => simulates net models sound net models sound

end Simulates

/-! ### What the letters under way say -/

namespace Library.Multiplexer.Net.Sound

variable {net : Net Int Bytes}

theorem waits_request (sound : net.Sound) (source : Nat)
    (member : .request source ∈ net.toThere) : Waits (net.here.stage source) := by
  apply Or.inl
  apply sound.accepts.requested
  exact List.mem_filter.mpr ⟨member, rfl⟩

theorem waits_reply (sound : net.Sound) (source : Nat)
    (member : source ∈ replies net.toHere) : Waits (net.here.stage source) := by
  rcases Link.mem_replies member with refused | ⟨id, answered⟩
  · exact Or.inr (Or.inl (sound.accepts.refused (List.mem_filter.mpr ⟨refused, rfl⟩)))
  · have stage := sound.accepts.answered.mp (List.mem_filter.mpr ⟨answered, rfl⟩)
    exact Or.inr (Or.inr ⟨id, stage⟩)

end Library.Multiplexer.Net.Sound

namespace Tunnels

variable {tunnels : Tunnels} {net next : Net Int Bytes}
  {ownerHere ownerThere : Fd → Option Owner}

/-- The packets under way still stand for the letters when the tables have changed. -/
theorem carried_toHere {here there : DescriptorTable} {packets : List TunnelPacket}
    (sound : next.Sound)
    (carried : List.Forall₂ (Carries tunnels.there.table tunnels.here.table) packets next.toHere)
    (keepsHere : Keeps tunnels.here.table here next.here)
    (keepsThere : Keeps tunnels.there.table there next.there) :
    List.Forall₂ (Carries there here) packets next.toHere :=
  carried_keep carried sound.swap.waits_request sound.waits_reply keepsThere keepsHere

theorem carried_toThere {here there : DescriptorTable} {packets : List TunnelPacket}
    (sound : next.Sound)
    (carried : List.Forall₂ (Carries tunnels.here.table tunnels.there.table) packets next.toThere)
    (keepsHere : Keeps tunnels.here.table here next.here)
    (keepsThere : Keeps tunnels.there.table there next.there) :
    List.Forall₂ (Carries here there) packets next.toThere :=
  carried_keep carried sound.waits_request sound.swap.waits_reply keepsHere keepsThere

end Tunnels

theorem Keeps.refl (table : DescriptorTable) (station : Station Int Bytes) :
    Keeps table table station :=
  fun _ _ isOpen _ => isOpen

theorem Keeps.read (table : DescriptorTable) (station : Station Int Bytes) (fd : Fd)
    (chunk : Bytes) : Keeps table (table.read fd chunk) station := by
  intro other connection isOpen _
  unfold DescriptorTable.read
  split
  · exact isOpen
  · exact isOpen

theorem Keeps.write (table : DescriptorTable) (station : Station Int Bytes) (fd : Fd)
    (chunk : Bytes) (schedule : WriteSchedule) :
    Keeps table (table.writeAllOrReturn fd chunk schedule) station := by
  intro other connection isOpen _
  unfold DescriptorTable.writeAllOrReturn
  split
  · exact isOpen
  · exact isOpen

theorem Keeps.openFd {table : DescriptorTable} {fd : Fd}
    (isFree : table.connectionOf fd = none) (station : Station Int Bytes) :
    Keeps table (table.openFd fd) station := by
  intro other connection isOpen _
  have different : other ≠ fd := by
    rintro rfl
    cases isFree.symm.trans isOpen
  exact (Function.update_of_ne different _ _).trans isOpen

theorem Keeps.close {table : DescriptorTable} {fd : Fd} {connection : Nat}
    {station : Station Int Bytes} (isOpen : table.connectionOf fd = some connection)
    (ended : ¬ Waits (station.stage connection)) : Keeps table (table.close fd) station := by
  intro other known isKnown waits
  have different : other ≠ fd := by
    rintro rfl
    cases isOpen.symm.trans isKnown
    exact ended waits
  exact (Function.update_of_ne different _ _).trans isKnown

/-! ### What the end that is `here` does at a time -/

namespace Tunnels

variable {tunnels : Tunnels} {net next : Net Int Bytes}
  {ownerHere ownerThere owner : Fd → Option Owner}

theorem Refines.step (refines : tunnels.Refines net ownerHere ownerThere) (sound : next.Sound)
    {handler : PortForwardHandler} {table : DescriptorTable}
    {toHere toThere : List TunnelPacket}
    (owns : Owns handler owner) (tracks : Tracks table owner next.here)
    (tracksThere : Tracks tunnels.there.table ownerThere next.there)
    (keeps : Keeps tunnels.here.table table next.here)
    (isToHere : List.Forall₂ (Carries tunnels.there.table tunnels.here.table)
      toHere next.toHere)
    (isToThere : List.Forall₂ (Carries tunnels.here.table tunnels.there.table)
      toThere next.toThere)
    (isOpenedThere : tunnels.openedThere = next.openedThere) :
    Models
      { tunnels with
        here := { handler := handler, table := table }
        toHere := toHere
        toThere := toThere
        openedHere := next.openedHere } next := by
  refine ⟨owner, ownerThere, owns, refines.owns_there, tracks, tracksThere, ?_, ?_, rfl,
    isOpenedThere⟩
  · exact carried_toHere sound isToHere keeps (Keeps.refl _ _)
  · exact carried_toThere sound isToThere keeps (Keeps.refl _ _)

theorem simulates_accept {index : Nat} {source : ForwardSourceHandler} {fd : Fd}
    {before rest : List TunnelPacket}
    (isSource : tunnels.here.handler.sourceHandlers[index]? = some source)
    (isFree : tunnels.here.table.connectionOf fd = none)
    (split : tunnels.toThere = before ++ rest) :
    Simulates tunnels
      { tunnels with
        here :=
          { handler := tunnels.here.handler.setSource index
              { source with unassignedFds := insert fd source.unassignedFds }
            table := tunnels.here.table.openFd fd }
        toThere := before ++ .destinationRequest
          { destination := source.destination
            fd := fd
            connection := tunnels.here.table.count } :: rest } := by
  rintro net ⟨ownerHere, ownerThere, refines⟩ sound
  have carried := carried_toThere sound refines.toThere (Keeps.openFd isFree net.here)
    (Keeps.refl _ _)
  rw [split] at carried
  have isOne := (List.forall₂_take_append _ _ _ carried.flip).flip
  have isTwo := (List.forall₂_drop_append _ _ _ carried.flip).flip
  have lettersEq := (List.take_append_drop before.length net.toThere).symm
  have move := Net.Move.accept lettersEq
  have unowned := refines.tracks_here.unowned isFree
  refine ⟨_, .single move, _, ownerThere, refines.owns_here.accepts isSource unowned,
    refines.owns_there, refines.tracks_here.accept sound.fresh_here isFree index,
    refines.tracks_there, ?_, ?_, refines.openedHere, refines.openedThere⟩
  · exact carried_toHere (sound.move move) refines.toHere
      (Keeps.openFd isFree net.here.accept) (Keeps.refl _ _)
  · have newest : (tunnels.here.table.openFd fd).connectionOf fd =
        some tunnels.here.table.count := Function.update_self ..
    rw [refines.tracks_here.count]
    exact List.rel_append isOne (.cons (.request newest) isTwo)

theorem Refines.socket (refines : tunnels.Refines net ownerHere ownerThere) {index : Nat}
    {source : ForwardSourceHandler} {socketId : Int} {fd : Fd}
    (isSource : tunnels.here.handler.sourceHandlers[index]? = some source)
    (isSocket : source.socketFdMap socketId = some fd) :
    ownerHere fd = some (.socket index socketId) ∧
      ∃ connection, tunnels.here.table.connectionOf fd = some connection ∧
        net.here.stage connection = .carrying socketId := by
  have isOwner := (refines.owns_here.socket isSource).mp isSocket
  obtain ⟨connection, isOpen, fits⟩ := refines.tracks_here.owned isOwner
  exact ⟨isOwner, connection, isOpen, fits⟩

theorem Refines.destination (refines : tunnels.Refines net ownerHere ownerThere)
    {socketId : Int} {destination : ForwardDestinationHandler}
    (isDestination : tunnels.here.handler.destinationHandlers socketId = some destination) :
    ∃ fd connection, destination = { fd := some fd, socketId := socketId } ∧
      ownerHere fd = some (.destination socketId) ∧
      tunnels.here.table.connectionOf fd = some connection ∧
      net.here.served connection = some socketId := by
  obtain ⟨fd, same⟩ := refines.owns_here.connected isDestination
  have isOwner := refines.owns_here.destination.mp
    ⟨destination, isDestination, congrArg ForwardDestinationHandler.fd same⟩
  obtain ⟨connection, isOpen, fits⟩ := refines.tracks_here.owned isOwner
  exact ⟨fd, connection, same, isOwner, isOpen, fits⟩

theorem simulates_readSocket {index : Nat} {source : ForwardSourceHandler} {socketId : Int}
    {fd : Fd} (isSource : tunnels.here.handler.sourceHandlers[index]? = some source)
    (isSocket : source.socketFdMap socketId = some fd) (chunk : Bytes) :
    Simulates tunnels
      { tunnels with
        here :=
          { handler := tunnels.here.handler
            table := tunnels.here.table.read fd chunk }
        toThere := tunnels.toThere ++
          [.data (PortForwardData.mk true socketId (.buffer chunk))] } := by
  rintro net ⟨ownerHere, ownerThere, refines⟩ sound
  obtain ⟨_, connection, isOpen, carrying⟩ := refines.socket isSource isSocket
  have isChunk : (PortForwardContent.buffer chunk).chunk? = some chunk := rfl
  have move := Net.Move.readSource chunk carrying
  have models := refines.step (sound.move move) refines.owns_here
    (refines.tracks_here.reads isOpen chunk) refines.tracks_there (Keeps.read _ _ fd chunk)
    refines.toHere
    (List.rel_append refines.toThere (.cons (carries_forward _ _ socketId isChunk) .nil))
    refines.openedThere
  exact ⟨_, .single move, refines.openedHere ▸ models⟩

theorem simulates_endSocket {index : Nat} {source : ForwardSourceHandler} {socketId : Int}
    {fd : Fd} (isSource : tunnels.here.handler.sourceHandlers[index]? = some source)
    (isSocket : source.socketFdMap socketId = some fd) {content : PortForwardContent}
    (ends : content.chunk? = none) :
    Simulates tunnels
      { tunnels with
        here :=
          { handler := tunnels.here.handler.setSource index
              { source with socketFdMap := Function.update source.socketFdMap socketId none }
            table := tunnels.here.table.close fd }
        toThere := tunnels.toThere ++ [.data (PortForwardData.mk true socketId content)] } := by
  rintro net ⟨ownerHere, ownerThere, refines⟩ sound
  obtain ⟨_, connection, isOpen, carrying⟩ := refines.socket isSource isSocket
  have present : net.here.stage connection ≠ .absent := by simp [carrying]
  have move := Net.Move.endSource carrying
  have dead : ¬ Waits ((net.here.setStage connection .gone).stage connection) := by
    rw [Station.setStage_self]
    exact not_waits_gone
  have models := refines.step (sound.move move)
    (refines.owns_here.removesSocket isSource isSocket (fun _ _ => rfl))
    (refines.tracks_here.leave isOpen present) refines.tracks_there
    (Keeps.close isOpen dead) refines.toHere
    (List.rel_append refines.toThere (.cons (carries_forward _ _ socketId ends) .nil))
    refines.openedThere
  exact ⟨_, .single move, refines.openedHere ▸ models⟩

theorem simulates_readDestination {socketId : Int} {destination : ForwardDestinationHandler}
    {fd : Fd} (isDestination : tunnels.here.handler.destinationHandlers socketId = some destination)
    (isFd : destination.fd = some fd) (chunk : Bytes) :
    Simulates tunnels
      { tunnels with
        here :=
          { handler := tunnels.here.handler
            table := tunnels.here.table.read fd chunk }
        toThere := tunnels.toThere ++
          [.data (PortForwardData.mk false socketId (.buffer chunk))] } := by
  rintro net ⟨ownerHere, ownerThere, refines⟩ sound
  obtain ⟨_, connection, rfl, _, isOpen, served⟩ := refines.destination isDestination
  cases isFd
  have isChunk : (PortForwardContent.buffer chunk).chunk? = some chunk := rfl
  have move := Net.Move.readDestination chunk served
  have models := refines.step (sound.move move) refines.owns_here
    (refines.tracks_here.reads isOpen chunk) refines.tracks_there (Keeps.read _ _ fd chunk)
    refines.toHere
    (List.rel_append refines.toThere (.cons (carries_backward _ _ socketId isChunk) .nil))
    refines.openedThere
  exact ⟨_, .single move, refines.openedHere ▸ models⟩

theorem simulates_endDestination {socketId : Int} {destination : ForwardDestinationHandler}
    {fd : Fd} (isDestination : tunnels.here.handler.destinationHandlers socketId = some destination)
    (isFd : destination.fd = some fd) {content : PortForwardContent}
    (ends : content.chunk? = none) :
    Simulates tunnels
      { tunnels with
        here :=
          { handler :=
              { tunnels.here.handler with
                destinationHandlers :=
                  Function.update tunnels.here.handler.destinationHandlers socketId none }
            table := tunnels.here.table.close fd }
        toThere := tunnels.toThere ++ [.data (PortForwardData.mk false socketId content)] } := by
  rintro net ⟨ownerHere, ownerThere, refines⟩ sound
  obtain ⟨_, connection, rfl, isOwner, isOpen, served⟩ := refines.destination isDestination
  cases isFd
  have absent := refines.tracks_here.apart served
  have move := Net.Move.endDestination served
  have dead : ¬ Waits ((net.here.drop connection).stage connection) := by
    have sameStage : (net.here.drop connection).stage connection = .absent := absent
    rw [sameStage]
    exact not_waits_absent
  have models := refines.step (sound.move move) (refines.owns_here.removesDestination isOwner)
    (refines.tracks_here.drop isOpen served) refines.tracks_there (Keeps.close isOpen dead)
    refines.toHere
    (List.rel_append refines.toThere (.cons (carries_backward _ _ socketId ends) .nil))
    refines.openedThere
  exact ⟨_, .single move, refines.openedHere ▸ models⟩

/-! ### Requests and responses -/

/-- The packet at the head of the channel stands for the letter at the head of the other
one. -/
theorem Refines.head (refines : tunnels.Refines net ownerHere ownerThere)
    {packet : TunnelPacket} {rest : List TunnelPacket}
    (isNext : tunnels.toHere = packet :: rest) :
    ∃ letter letters, net.toHere = letter :: letters ∧
      Carries tunnels.there.table tunnels.here.table packet letter ∧
      List.Forall₂ (Carries tunnels.there.table tunnels.here.table) rest letters := by
  have carried := refines.toHere
  rw [isNext] at carried
  obtain ⟨letter, letters, first, others, same⟩ := List.forall₂_cons_left_iff.mp carried
  exact ⟨letter, letters, same, first, others⟩

theorem Refines.request (refines : tunnels.Refines net ownerHere ownerThere)
    {pfdr : PortForwardDestinationRequest} {rest : List TunnelPacket}
    (isNext : tunnels.toHere = .destinationRequest pfdr :: rest) :
    ∃ letters, net.toHere = .request pfdr.connection :: letters ∧
      tunnels.there.table.connectionOf pfdr.fd = some pfdr.connection ∧
      List.Forall₂ (Carries tunnels.there.table tunnels.here.table) rest letters := by
  obtain ⟨letter, letters, lettersEq, first, others⟩ := refines.head isNext
  cases first with
  | request isFd => exact ⟨letters, lettersEq, isFd, others⟩

theorem Refines.unused (refines : tunnels.Refines net ownerHere ownerThere) (sound : net.Sound)
    {socketId : Int} (unused : ∀ opening ∈ tunnels.openedHere, opening.id ≠ socketId) :
    tunnels.here.handler.destinationHandlers socketId = none := by
  cases isDestination : tunnels.here.handler.destinationHandlers socketId with
  | none => rfl
  | some destination =>
      obtain ⟨_, connection, _, _, _, served⟩ := refines.destination isDestination
      obtain ⟨opening, isOpening, _, isId⟩ := sound.serves.served_opening served
      rw [← refines.openedHere] at isOpening
      exact absurd isId (unused opening isOpening)

theorem simulates_connect {pfdr : PortForwardDestinationRequest} {rest : List TunnelPacket}
    {fd : Fd} {socketId : Int} (isNext : tunnels.toHere = .destinationRequest pfdr :: rest)
    (isFree : tunnels.here.table.connectionOf fd = none)
    (unused : ∀ opening ∈ tunnels.openedHere, opening.id ≠ socketId) :
    Simulates tunnels
      { tunnels with
        here :=
          { handler :=
              { tunnels.here.handler with
                destinationHandlers :=
                  Function.update tunnels.here.handler.destinationHandlers socketId
                    (some { fd := some fd, socketId := socketId }) }
            table := tunnels.here.table.openFd fd }
        toHere := rest
        toThere := tunnels.toThere ++
          [.destinationResponse { clientfd := pfdr.fd, result := .ok socketId }]
        openedHere := tunnels.openedHere ++
          [{ source := pfdr.connection
             destination := tunnels.here.table.count
             id := socketId }] } := by
  rintro net ⟨ownerHere, ownerThere, refines⟩ sound
  obtain ⟨letters, lettersEq, isFd, others⟩ := refines.request isNext
  have move := Net.Move.connect lettersEq (refines.openedHere ▸ unused)
  have waits := sound.swap.waits_request pfdr.connection
    (show .request pfdr.connection ∈ net.toHere from lettersEq ▸ List.mem_cons_self)
  have unowned := refines.tracks_here.unowned isFree
  have answered : Waits (Stage.answered socketId) := Or.inr (Or.inr ⟨socketId, rfl⟩)
  have models := refines.step (sound.move move)
    (refines.owns_here.connects unowned (refines.unused sound unused))
    (refines.tracks_here.connect sound.fresh_here isFree socketId)
    (refines.tracks_there.respond waits answered) (Keeps.openFd isFree _) others
    (List.rel_append refines.toThere (.cons (.answer isFd) .nil)) refines.openedThere
  rw [refines.openedHere, ← refines.tracks_here.count]
  exact ⟨_, .single move, models⟩

theorem simulates_refuse {pfdr : PortForwardDestinationRequest} {rest : List TunnelPacket}
    (isNext : tunnels.toHere = .destinationRequest pfdr :: rest) (what : String) :
    Simulates tunnels
      { tunnels with
        toHere := rest
        toThere := tunnels.toThere ++
          [.destinationResponse { clientfd := pfdr.fd, result := .error what }] } := by
  rintro net ⟨ownerHere, ownerThere, refines⟩ sound
  obtain ⟨letters, lettersEq, isFd, others⟩ := refines.request isNext
  have move := Net.Move.refuse lettersEq
  have waits := sound.swap.waits_request pfdr.connection
    (show .request pfdr.connection ∈ net.toHere from lettersEq ▸ List.mem_cons_self)
  have models := refines.step (sound.move move) refines.owns_here refines.tracks_here
    (refines.tracks_there.respond waits (Or.inr (Or.inl rfl))) (Keeps.refl _ _) others
    (List.rel_append refines.toThere (.cons (.refusal what isFd) .nil)) refines.openedThere
  exact ⟨_, .single move, refines.openedHere ▸ models⟩

theorem Refines.findUnassigned (refines : tunnels.Refines net ownerHere ownerThere) {fd : Fd}
    {connection : Nat} (isOpen : tunnels.here.table.connectionOf fd = some connection)
    (waits : Waits (net.here.stage connection)) :
    ∃ index source, tunnels.here.handler.findUnassigned fd = some index ∧
      tunnels.here.handler.sourceHandlers[index]? = some source ∧
      fd ∈ source.unassignedFds := by
  obtain ⟨index, isOwner⟩ := refines.tracks_here.unassigned_of_open waits isOpen
  obtain ⟨source, isSource⟩ := refines.owns_here.unassigned_source isOwner
  have isUnassigned := (refines.owns_here.unassigned isSource).mpr isOwner
  refine ⟨index, source, ?_, isSource, isUnassigned⟩
  obtain ⟨inside, sourceEq⟩ := List.getElem?_eq_some_iff.mp isSource
  apply List.findIdx?_eq_some_iff_getElem.mpr
  refine ⟨inside, ?_, ?_⟩
  · rw [sourceEq]
    exact decide_eq_true isUnassigned
  · intro earlier before hasIt
    have known := List.getElem?_eq_getElem (Nat.lt_trans before inside)
    have member := of_decide_eq_true hasIt
    have other := (refines.owns_here.unassigned known).mp member
    cases isOwner.symm.trans other
    exact Nat.lt_irrefl _ before

theorem simulates_assign {clientfd : Fd} {socketId : Int} {rest : List TunnelPacket}
    (isNext : tunnels.toHere =
      .destinationResponse { clientfd := clientfd, result := .ok socketId } :: rest) :
    Simulates tunnels
      { tunnels with
        here :=
          { handler := tunnels.here.handler.addSourceSocketId socketId clientfd
            table := tunnels.here.table }
        toHere := rest } := by
  rintro net ⟨ownerHere, ownerThere, refines⟩ sound
  obtain ⟨letter, letters, lettersEq, first, others⟩ := refines.head isNext
  cases first with
  | @answer _ _ source isOpen =>
      have move := Net.Move.assign lettersEq
      have answered : net.here.stage source = .answered socketId := by
        apply sound.accepts.answered.mp
        exact List.mem_filter.mpr ⟨lettersEq ▸ List.mem_cons_self, rfl⟩
      have present : net.here.stage source ≠ .absent := by simp [answered]
      obtain ⟨index, handler, isFound, isSource, isUnassigned⟩ :=
        refines.findUnassigned isOpen (Or.inr (Or.inr ⟨socketId, answered⟩))
      have unused : ∀ member place,
          ownerHere member ≠ some (.socket place socketId) := by
        intro member place isSocket
        obtain ⟨other, isOther, carrying⟩ := refines.tracks_here.owned isSocket
        obtain ⟨first, isFirst, firstSource, firstId⟩ :=
          sound.accepts.stage_opening (Or.inl answered)
        obtain ⟨second, isSecond, secondSource, secondId⟩ :=
          sound.accepts.stage_opening (Or.inr carrying)
        have same := sound.accepts.same_of_id isFirst isSecond
          (firstId.trans secondId.symm)
        rw [← firstSource, same, secondSource] at answered
        cases answered.symm.trans carrying
      have hasIt : handler.hasUnassignedFd clientfd = true :=
        decide_eq_true isUnassigned
      have models := refines.step (sound.move move)
        (refines.owns_here.assigns isSource isUnassigned unused)
        (refines.tracks_here.assign isOpen present index socketId)
        refines.tracks_there (Keeps.refl _ _) others refines.toThere
        refines.openedThere
      refine ⟨_, .single move, ?_⟩
      rw [PortForwardHandler.addSourceSocketId, isFound]
      dsimp only
      rw [isSource]
      dsimp only
      rw [ForwardSourceHandler.addSocket, if_pos hasIt, refines.openedHere]
      exact models

theorem simulates_discard {clientfd : Fd} {what : String} {rest : List TunnelPacket}
    (isNext : tunnels.toHere =
      .destinationResponse { clientfd := clientfd, result := .error what } :: rest) :
    Simulates tunnels
      { tunnels with
        here :=
          { handler := (tunnels.here.handler.closeSourceFd tunnels.here.table clientfd).1
            table := (tunnels.here.handler.closeSourceFd tunnels.here.table clientfd).2 }
        toHere := rest } := by
  rintro net ⟨ownerHere, ownerThere, refines⟩ sound
  obtain ⟨letter, letters, lettersEq, first, others⟩ := refines.head isNext
  cases first with
  | @refusal _ source _ isOpen =>
      have move := Net.Move.discard lettersEq
      have refused : net.here.stage source = .refused := by
        apply sound.accepts.refused
        exact List.mem_filter.mpr ⟨lettersEq ▸ List.mem_cons_self, rfl⟩
      have present : net.here.stage source ≠ .absent := by simp [refused]
      obtain ⟨index, handler, isFound, isSource, isUnassigned⟩ :=
        refines.findUnassigned isOpen (Or.inr (Or.inl refused))
      have hasIt : handler.hasUnassignedFd clientfd = true :=
        decide_eq_true isUnassigned
      have dead : ¬ Waits ((net.here.setStage source .gone).stage source) := by
        rw [Station.setStage_self]
        exact not_waits_gone
      have models := refines.step (sound.move move)
        (refines.owns_here.discards isSource isUnassigned)
        (refines.tracks_here.leave isOpen present) refines.tracks_there
        (Keeps.close isOpen dead) others refines.toThere refines.openedThere
      refine ⟨_, .single move, ?_⟩
      rw [PortForwardHandler.closeSourceFd, isFound]
      dsimp only
      rw [isSource]
      dsimp only
      rw [ForwardSourceHandler.closeUnassignedFd, if_pos hasIt, refines.openedHere]
      exact models

/-! ### Data -/

theorem Refines.served (refines : tunnels.Refines net ownerHere ownerThere) {socketId : Int}
    (closed : tunnels.here.handler.destinationHandlers socketId = none) (destination : Nat) :
    net.here.served destination ≠ some socketId := by
  intro served
  obtain ⟨fd, isOwner, _⟩ := refines.tracks_here.destination_of_served served
  obtain ⟨handler, isHandler, _⟩ := refines.owns_here.destination.mpr isOwner
  cases closed.symm.trans isHandler

theorem Refines.carried (refines : tunnels.Refines net ownerHere ownerThere) {socketId : Int}
    {connection : Nat} (carrying : net.here.stage connection = .carrying socketId) :
    ∃ index source fd, tunnels.here.handler.socketIdSourceHandlerMap socketId = some index ∧
      tunnels.here.handler.sourceHandlers[index]? = some source ∧
      source.socketFdMap socketId = some fd := by
  obtain ⟨fd, index, isOwner, _⟩ := refines.tracks_here.socket_of_carrying carrying
  obtain ⟨source, isSource⟩ := refines.owns_here.socket_source isOwner
  exact ⟨index, source, fd, refines.owns_here.routed isOwner, isSource,
    (refines.owns_here.socket isSource).mpr isOwner⟩

theorem Refines.forwardHead (refines : tunnels.Refines net ownerHere ownerThere)
    {socketId : Int} {content : PortForwardContent} {rest : List TunnelPacket}
    (isNext : tunnels.toHere = .data (PortForwardData.mk true socketId content) :: rest) :
    ∃ letters, net.toHere = .forward socketId content.chunk? :: letters ∧
      List.Forall₂ (Carries tunnels.there.table tunnels.here.table) rest letters := by
  obtain ⟨letter, letters, lettersEq, first, others⟩ := refines.head isNext
  cases first with
  | data => exact ⟨letters, lettersEq, others⟩

theorem Refines.backwardHead (refines : tunnels.Refines net ownerHere ownerThere)
    {socketId : Int} {content : PortForwardContent} {rest : List TunnelPacket}
    (isNext : tunnels.toHere = .data (PortForwardData.mk false socketId content) :: rest) :
    ∃ letters, net.toHere = .backward socketId content.chunk? :: letters ∧
      List.Forall₂ (Carries tunnels.there.table tunnels.here.table) rest letters := by
  obtain ⟨letter, letters, lettersEq, first, others⟩ := refines.head isNext
  cases first with
  | data => exact ⟨letters, lettersEq, others⟩

theorem simulates_destinationData {socketId : Int} {content : PortForwardContent}
    {rest : List TunnelPacket} (schedule : WriteSchedule)
    (isNext : tunnels.toHere = .data (PortForwardData.mk true socketId content) :: rest) :
    Simulates tunnels
      { tunnels with
        here :=
          { handler := (tunnels.here.handler.handleDestinationData tunnels.here.table schedule
              socketId content).1
            table := (tunnels.here.handler.handleDestinationData tunnels.here.table schedule
              socketId content).2 }
        toHere := rest } := by
  rintro net ⟨ownerHere, ownerThere, refines⟩ sound
  obtain ⟨letters, lettersEq, others⟩ := refines.forwardHead isNext
  rw [PortForwardHandler.handleDestinationData, refines.openedHere]
  cases isDestination : tunnels.here.handler.destinationHandlers socketId with
  | none =>
      have move := Net.Move.loseForward lettersEq (refines.served isDestination)
      exact ⟨_, .single move, refines.step (sound.move move) refines.owns_here
        refines.tracks_here refines.tracks_there (Keeps.refl _ _) others refines.toThere
        refines.openedThere⟩
  | some destination =>
      obtain ⟨fd, connection, rfl, isOwner, isOpen, served⟩ :=
        refines.destination isDestination
      have absent := refines.tracks_here.apart served
      have closing : content.chunk? = none →
          ∃ next, net.Moves next ∧ Models
            { tunnels with
              here :=
                { handler :=
                    { tunnels.here.handler with
                      destinationHandlers := Function.update
                        tunnels.here.handler.destinationHandlers socketId none }
                  table := tunnels.here.table.close fd }
              toHere := rest
              openedHere := net.openedHere } next := by
        intro ends
        rw [ends] at lettersEq
        have move := Net.Move.closeForward lettersEq served
        have dead : ¬ Waits ((net.here.drop connection).stage connection) := by
          have sameStage : (net.here.drop connection).stage connection = .absent := absent
          rw [sameStage]
          exact not_waits_absent
        exact ⟨_, .single move, refines.step (sound.move move)
          (refines.owns_here.removesDestination isOwner)
          (refines.tracks_here.drop isOpen served) refines.tracks_there
          (Keeps.close isOpen dead) others refines.toThere refines.openedThere⟩
      cases content with
      | buffer bytes =>
          have move := Net.Move.deliverForward lettersEq served
          exact ⟨_, .single move, refines.step (sound.move move) refines.owns_here
            (refines.tracks_here.offers isOpen bytes schedule) refines.tracks_there
            (Keeps.write _ _ fd bytes schedule) others refines.toThere refines.openedThere⟩
      | error errno => exact closing rfl
      | closed => exact closing rfl

/-! What is not carried: an id without a route, with a route to no source, or to one without
its socket. -/

theorem Refines.unrouted (refines : tunnels.Refines net ownerHere ownerThere) {socketId : Int}
    (noRoute : tunnels.here.handler.socketIdSourceHandlerMap socketId = none)
    (connection : Nat) : net.here.stage connection ≠ .carrying socketId := by
  intro carrying
  obtain ⟨index, source, fd, route, _⟩ := refines.carried carrying
  cases noRoute.symm.trans route

theorem Refines.misrouted (refines : tunnels.Refines net ownerHere ownerThere) {socketId : Int}
    {index : Nat} (route : tunnels.here.handler.socketIdSourceHandlerMap socketId = some index)
    (noSource : tunnels.here.handler.sourceHandlers[index]? = none)
    (connection : Nat) : net.here.stage connection ≠ .carrying socketId := by
  intro carrying
  obtain ⟨other, source, fd, isRoute, isSource, _⟩ := refines.carried carrying
  cases route.symm.trans isRoute
  cases noSource.symm.trans isSource

theorem Refines.socketless (refines : tunnels.Refines net ownerHere ownerThere) {socketId : Int}
    {index : Nat} {source : ForwardSourceHandler}
    (route : tunnels.here.handler.socketIdSourceHandlerMap socketId = some index)
    (isSource : tunnels.here.handler.sourceHandlers[index]? = some source)
    (noSocket : source.socketFdMap socketId = none)
    (connection : Nat) : net.here.stage connection ≠ .carrying socketId := by
  intro carrying
  obtain ⟨other, found, fd, isRoute, isFound, isSocket⟩ := refines.carried carrying
  cases route.symm.trans isRoute
  cases isSource.symm.trans isFound
  cases noSocket.symm.trans isSocket

theorem Refines.loses (refines : tunnels.Refines net ownerHere ownerThere) (sound : net.Sound)
    {socketId : Int} {content : PortForwardContent} {rest : List TunnelPacket}
    (isNext : tunnels.toHere = .data (PortForwardData.mk false socketId content) :: rest)
    (notCarried : ∀ connection, net.here.stage connection ≠ .carrying socketId)
    {handler : PortForwardHandler} (owns : Owns handler ownerHere) :
    ∃ next, net.Moves next ∧ Models
      { tunnels with
        here := { handler := handler, table := tunnels.here.table }
        toHere := rest
        openedHere := net.openedHere } next := by
  obtain ⟨letters, lettersEq, others⟩ := refines.backwardHead isNext
  have move := Net.Move.loseBackward lettersEq notCarried
  exact ⟨_, .single move, refines.step (sound.move move) owns refines.tracks_here
    refines.tracks_there (Keeps.refl _ _) others refines.toThere refines.openedThere⟩

theorem Refines.closesSource (refines : tunnels.Refines net ownerHere ownerThere)
    (sound : net.Sound) {socketId : Int} {content : PortForwardContent}
    {rest : List TunnelPacket}
    (isNext : tunnels.toHere = .data (PortForwardData.mk false socketId content) :: rest)
    (ends : content.chunk? = none) :
    ∃ next, net.Moves next ∧ Models
      { tunnels with
        here :=
          { handler := (tunnels.here.handler.closeSourceSocketId tunnels.here.table socketId).1
            table := (tunnels.here.handler.closeSourceSocketId tunnels.here.table socketId).2 }
        toHere := rest
        openedHere := net.openedHere } next := by
  rw [PortForwardHandler.closeSourceSocketId]
  cases route : tunnels.here.handler.socketIdSourceHandlerMap socketId with
  | none => exact refines.loses sound isNext (refines.unrouted route) refines.owns_here
  | some index =>
      dsimp only
      cases isSource : tunnels.here.handler.sourceHandlers[index]? with
      | none =>
          exact refines.loses sound isNext (refines.misrouted route isSource) refines.owns_here
      | some source =>
          dsimp only
          rw [ForwardSourceHandler.closeSocket]
          cases isSocket : source.socketFdMap socketId with
          | none =>
              have notCarried := refines.socketless route isSource isSocket
              have unused : ∀ member place,
                  ownerHere member ≠ some (.socket place socketId) := by
                intro member place isOwner
                obtain ⟨connection, _, carrying⟩ := refines.tracks_here.owned isOwner
                exact notCarried connection carrying
              dsimp only
              rw [setSource_self isSource]
              exact refines.loses sound isNext notCarried (refines.owns_here.unroutes unused)
          | some fd =>
              obtain ⟨letters, lettersEq, others⟩ := refines.backwardHead isNext
              rw [ends] at lettersEq
              obtain ⟨_, connection, isOpen, carrying⟩ := refines.socket isSource isSocket
              have present : net.here.stage connection ≠ .absent := by simp [carrying]
              have move := Net.Move.closeBackward lettersEq carrying
              have dead : ¬ Waits ((net.here.setStage connection .gone).stage connection) := by
                rw [Station.setStage_self]
                exact not_waits_gone
              have routes : ∀ id, id ≠ socketId →
                  Function.update tunnels.here.handler.socketIdSourceHandlerMap socketId none
                    id = tunnels.here.handler.socketIdSourceHandlerMap id :=
                fun id different => Function.update_of_ne different _ _
              exact ⟨_, .single move, refines.step (sound.move move)
                (refines.owns_here.removesSocket isSource isSocket routes)
                (refines.tracks_here.leave isOpen present) refines.tracks_there
                (Keeps.close isOpen dead) others refines.toThere refines.openedThere⟩

theorem simulates_sourceData {socketId : Int} {content : PortForwardContent}
    {rest : List TunnelPacket} (schedule : WriteSchedule)
    (isNext : tunnels.toHere = .data (PortForwardData.mk false socketId content) :: rest) :
    Simulates tunnels
      { tunnels with
        here :=
          { handler := (tunnels.here.handler.handleSourceData tunnels.here.table schedule
              socketId content).1
            table := (tunnels.here.handler.handleSourceData tunnels.here.table schedule
              socketId content).2 }
        toHere := rest } := by
  rintro net ⟨ownerHere, ownerThere, refines⟩ sound
  rw [refines.openedHere]
  cases content with
  | buffer bytes =>
      rw [PortForwardHandler.handleSourceData, PortForwardHandler.sendDataToSourceOnSocket]
      dsimp only
      cases route : tunnels.here.handler.socketIdSourceHandlerMap socketId with
      | none => exact refines.loses sound isNext (refines.unrouted route) refines.owns_here
      | some index =>
          dsimp only
          cases isSource : tunnels.here.handler.sourceHandlers[index]? with
          | none =>
              exact refines.loses sound isNext (refines.misrouted route isSource)
                refines.owns_here
          | some source =>
              dsimp only
              rw [ForwardSourceHandler.sendDataOnSocket]
              cases isSocket : source.socketFdMap socketId with
              | none =>
                  exact refines.loses sound isNext (refines.socketless route isSource isSocket)
                    refines.owns_here
              | some fd =>
                  obtain ⟨letters, lettersEq, others⟩ := refines.backwardHead isNext
                  obtain ⟨_, connection, isOpen, carrying⟩ :=
                    refines.socket isSource isSocket
                  have move := Net.Move.deliverBackward lettersEq carrying
                  exact ⟨_, .single move, refines.step (sound.move move) refines.owns_here
                    (refines.tracks_here.offers isOpen bytes schedule) refines.tracks_there
                    (Keeps.write _ _ fd bytes schedule) others refines.toThere
                    refines.openedThere⟩
  | error errno => exact refines.closesSource sound isNext rfl
  | closed => exact refines.closesSource sound isNext rfl

end Tunnels

end EternalTerminal
