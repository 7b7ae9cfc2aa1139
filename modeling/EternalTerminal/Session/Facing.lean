/-
One end of a session seen next to its party of the ledger.

`Facing` collects what a step of one end may rely on; `Moved` says that what the
step makes of the end is what some moves make of its party.
-/

import Mathlib.Logic.Relation
import EternalTerminal.Session.Refinement

namespace EternalTerminal

open Library
open SocketHandler

/-- An end that stands for its party, with what it needs to know of the other. -/
structure Facing (box : SecretBox) (proto : Protobuf) (key : Key) (side : Side)
    (endpoint : Endpoint) (peerAccepted : List Packet) (own peer : Party)
    (outgoing incoming : Fd → Stream) (used : Fd → Bool) : Prop extends
    EndRefines box proto key side endpoint peerAccepted own peer outgoing incoming
      used where
  consistent : own.Consistent peer
  peerConsistent : peer.Consistent own
  peerLength : peer.accepted = peerAccepted.length
  peerShort : peerAccepted.length < 2 ^ 31
  peerPlain : ∀ packet ∈ peerAccepted, packet.encrypted = false ∧
    4 + (packet.length + crypto_secretbox_MACBYTES) < 2 ^ 31
  peerSent : ∀ socket, (incoming socket).sent <+: (peer.script socket).bytes proto
    (sealedLog box key side.other.nonceMSB peerAccepted)
  peerFits : ∀ socket counted base upto packets,
    peer.script socket = .exchange counted base upto packets →
      (proto.catchupBuffer.serialize
        { buffer := BackedWriter.missing
            ((sealedLog box key side.other.nonceMSB peerAccepted).take upto)
            base }).length ≤ MAX_PROTO_BYTES

def PartyMoves (peer : Party) : Party → Party → Prop :=
  Relation.ReflTransGen fun own after => ∃ move, own.Moves peer move after

theorem PartyMoves.single {own peer after : Party} {move : LedgerMove}
    (moves : own.Moves peer move after) : PartyMoves peer own after :=
  Relation.ReflTransGen.single ⟨move, moves⟩

/-- What a step makes of one end: the party moves along, and the other end sees
a log and streams that have only grown. -/
structure Moved (box : SecretBox) (proto : Protobuf) (key : Key) (side : Side)
    (endpoint after : Endpoint) (peerAccepted : List Packet) (own ownAfter peer : Party)
    (outgoing incoming outgoingAfter incomingAfter : Fd → Stream)
    (usedAfter : Fd → Bool) : Prop where
  moves : PartyMoves peer own ownAfter
  grows : own.Grows ownAfter
  accepted : ∃ more, after.accepted = endpoint.accepted ++ more
  streams : StreamsMove incoming outgoing incomingAfter outgoingAfter
  refines : EndRefines box proto key side after peerAccepted ownAfter peer
    outgoingAfter incomingAfter usedAfter

section Ends

variable {box : SecretBox} {proto : Protobuf} {key : Key} {side : Side}
  {endpoint : Endpoint} {peerAccepted : List Packet} {own peer : Party}
  {outgoing incoming : Fd → Stream} {used : Fd → Bool}

theorem StreamsMove.refl : StreamsMove incoming outgoing incoming outgoing :=
  ⟨fun _ => rfl, fun _ => rfl, fun _ => List.prefix_rfl⟩

theorem StreamsMove.append (socket : Fd) (bytes : Bytes) :
    StreamsMove incoming outgoing incoming
      (Function.update outgoing socket ((outgoing socket).append bytes)) := by
  refine ⟨fun _ => rfl, ?_, ?_⟩
  · intro other
    by_cases same : other = socket
    · subst same
      rw [Function.update_self]
      rfl
    · rw [Function.update_of_ne same]
  · intro other
    by_cases same : other = socket
    · subst same
      rw [Function.update_self]
      exact List.prefix_append _ _
    · rw [Function.update_of_ne same]

theorem StreamsMove.take (socket : Fd) (count : Nat) :
    StreamsMove incoming outgoing
      (Function.update incoming socket ((incoming socket).take count)) outgoing := by
  refine ⟨?_, fun _ => rfl, fun _ => List.prefix_rfl⟩
  intro other
  by_cases same : other = socket
  · subst same
    rw [Function.update_self]
    rfl
  · rw [Function.update_of_ne same]

theorem Facing.log_within
    (facing : Facing box proto key side endpoint peerAccepted own peer outgoing incoming
      used) {socket first last : Nat}
    (posted : (own.script socket).posted = some (first, last)) :
    first ≤ last ∧
      last ≤ (sealedLog box key side.nonceMSB endpoint.accepted).length := by
  have within := facing.consistent.posted_le socket first last posted
  rwa [facing.accepted, ← sealedLog_length box key side.nonceMSB] at within

theorem Facing.exchange_within
    (facing : Facing box proto key side endpoint peerAccepted own peer outgoing incoming
      used) {socket counted base upto packets : Nat}
    (shape : own.script socket = .exchange counted base upto packets) :
    upto ≤ (sealedLog box key side.nonceMSB endpoint.accepted).length := by
  have posted : (own.script socket).posted = some (upto, upto + packets) := by
    rw [shape]
    rfl
  have within := facing.log_within posted
  omega

theorem Facing.unmoved
    (facing : Facing box proto key side endpoint peerAccepted own peer outgoing incoming
      used) :
    Moved box proto key side endpoint endpoint peerAccepted own own peer outgoing
      incoming outgoing incoming used where
  moves := .refl
  grows := Party.grows_of_script_eq (le_refl _) rfl
  accepted := ⟨[], (List.append_nil _).symm⟩
  streams := .refl
  refines := facing.toEndRefines

end Ends

end EternalTerminal
