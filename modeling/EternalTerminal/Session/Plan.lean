/-
The bytes of a script.

`Script.bytes` spells a script of the ledger out as the bytes a side hands to
its socket: the framed header, the framed catch-up, and the framed packets.
-/

import EternalTerminal.Base.BackupBuffer
import EternalTerminal.Session.Session

namespace EternalTerminal

open Library
open SocketHandler

def sealedLog (box : SecretBox) (key : Key) (nonceMSB : UInt8)
    (accepted : List Packet) : List Packet :=
  accepted.mapIdx fun index packet =>
    packet.sealed box (CryptoHandler.after key nonceMSB index)

@[simp] theorem sealedLog_length (box : SecretBox) (key : Key) (nonceMSB : UInt8)
    (accepted : List Packet) :
    (sealedLog box key nonceMSB accepted).length = accepted.length := by
  simp only [sealedLog, List.length_mapIdx]

theorem sealedLog_concat (box : SecretBox) (key : Key) (nonceMSB : UInt8)
    (accepted : List Packet) (packet : Packet) :
    sealedLog box key nonceMSB (accepted ++ [packet]) =
      sealedLog box key nonceMSB accepted ++
        [packet.sealed box (CryptoHandler.after key nonceMSB accepted.length)] := by
  simp only [sealedLog, List.mapIdx_concat]

theorem sealedLog_getElem? (box : SecretBox) (key : Key) (nonceMSB : UInt8)
    (accepted : List Packet) (index : Nat) :
    (sealedLog box key nonceMSB accepted)[index]? =
      accepted[index]?.map fun packet =>
        packet.sealed box (CryptoHandler.after key nonceMSB index) := by
  simp only [sealedLog, List.getElem?_mapIdx]

def frames (packets : List Packet) : Bytes :=
  packets.flatMap BackedWriter.frame

@[simp] theorem frames_nil : frames [] = [] := rfl

@[simp] theorem frames_cons (packet : Packet) (rest : List Packet) :
    frames (packet :: rest) = BackedWriter.frame packet ++ frames rest := by
  simp only [frames, List.flatMap_cons]

theorem frames_append (left right : List Packet) :
    frames (left ++ right) = frames left ++ frames right := by
  simp only [frames, List.flatMap_append]

/-- The frame in which `counted` is announced. -/
def announcement (proto : Protobuf) (counted : Nat) : Bytes :=
  protoFrame (proto.sequenceHeader.serialize
    { sequenceNumber := Int32.ofInt counted })

/-- The frame of the catch-up with the packets from `base` up to `upto`. -/
def catchupImage (proto : Protobuf) (log : List Packet) (base upto : Nat) : Bytes :=
  Connection.catchupFrame proto (BackedWriter.missing (log.take upto) base)

namespace Script

variable (proto : Protobuf) (log : List Packet)

def preamble : Script → Bytes
  | silent => []
  | initial _ => []
  | hello counted => announcement proto counted
  | exchange counted base upto _ =>
      announcement proto counted ++ catchupImage proto log base upto

def packets : Script → List Packet
  | silent => []
  | initial packets => log.take packets
  | hello _ => []
  | exchange _ _ upto packets => (log.take (upto + packets)).drop upto

def bytes (script : Script) : Bytes :=
  script.preamble proto log ++ frames (script.packets log)

/-- The bytes up to the packet number `counted`. -/
def bytesUpTo (script : Script) (counted : Nat) : Bytes :=
  script.preamble proto log ++
    frames ((log.take counted).drop ((script.posted.map Prod.fst).getD 0))

variable {proto log} {script : Script}

theorem bytes_append (more : List Packet)
    (within : ∀ first last, script.posted = some (first, last) →
      first ≤ last ∧ last ≤ log.length) :
    script.bytes proto (log ++ more) = script.bytes proto log := by
  cases script with
  | silent => rfl
  | initial packets =>
      have bound := within 0 packets rfl
      simp only [bytes, preamble, Script.packets, List.take_append_of_le_length bound.2]
  | hello counted => rfl
  | exchange counted base upto packets =>
      have bound := within upto (upto + packets) rfl
      simp only [bytes, preamble, Script.packets, catchupImage,
        List.take_append_of_le_length bound.2,
        List.take_append_of_le_length (bound.1.trans bound.2)]

theorem preamble_append (more : List Packet)
    (within : ∀ first last, script.posted = some (first, last) →
      first ≤ last ∧ last ≤ log.length) :
    script.preamble proto (log ++ more) = script.preamble proto log := by
  cases script with
  | silent => rfl
  | initial packets => rfl
  | hello counted => rfl
  | exchange counted base upto packets =>
      have bound := within upto (upto + packets) rfl
      simp only [preamble, catchupImage,
        List.take_append_of_le_length (bound.1.trans bound.2)]

@[simp] theorem preamble_post : script.post.preamble proto log =
    script.preamble proto log := by
  cases script <;> rfl

theorem bytes_post {first : Nat} {packet : Packet}
    (posted : script.posted = some (first, log.length)) (ordered : first ≤ log.length) :
    script.post.bytes proto (log ++ [packet]) =
      script.bytes proto log ++ BackedWriter.frame packet := by
  have whole : (log ++ [packet]).take (log.length + 1) = log ++ [packet] :=
    List.take_of_length_le (by simp)
  cases script with
  | silent => cases posted
  | initial packets =>
      cases posted
      simp only [bytes, post, preamble, Script.packets, whole, List.take_length,
        frames_append, frames_cons, frames_nil, List.append_nil, List.nil_append]
  | hello counted => cases posted
  | exchange counted base upto packets =>
      injection posted with pair
      injection pair with firstEq lastEq
      subst firstEq
      have oldWhole : log.take (upto + packets) = log :=
        List.take_of_length_le (by omega)
      have newWhole : (log ++ [packet]).take (upto + (packets + 1)) = log ++ [packet] :=
        List.take_of_length_le (by simp; omega)
      simp only [bytes, post, preamble, Script.packets, newWhole, oldWhole, catchupImage,
        List.take_append_of_le_length ordered, List.drop_append_of_le_length ordered,
        frames_append, frames_cons, frames_nil, List.append_nil, List.append_assoc]

theorem bytes_split {first last counted : Nat}
    (posted : script.posted = some (first, last)) (low : first ≤ counted)
    (high : counted ≤ last) :
    script.bytes proto log =
      script.bytesUpTo proto log counted ++ frames ((log.take last).drop counted) := by
  have halves : (log.take last).drop first =
      (log.take counted).drop first ++ (log.take last).drop counted := by
    by_cases inside : counted ≤ log.length
    · have front : log.take last =
          log.take counted ++ (log.take last).drop counted := by
        have cut := List.take_append_drop counted (log.take last)
        rw [List.take_take, Nat.min_eq_left high] at cut
        exact cut.symm
      conv_lhs => rw [front]
      rw [List.drop_append_of_le_length]
      rw [List.length_take]
      omega
    · have all : log.take last = log := List.take_of_length_le (by omega)
      have allCounted : log.take counted = log := List.take_of_length_le (by omega)
      have none : log.drop counted = [] := List.drop_eq_nil_of_le (by omega)
      rw [all, allCounted, none, List.append_nil]
  cases script with
  | silent => cases posted
  | initial packets =>
      cases posted
      simp only [List.drop_zero] at halves
      simp only [bytes, bytesUpTo, preamble, Script.packets, Script.posted, Option.map_some,
        Option.getD_some, List.drop_zero, List.nil_append]
      conv_lhs => rw [halves, frames_append]
  | hello counted => cases posted
  | exchange announced base upto packets =>
      injection posted with pair
      injection pair with firstEq lastEq
      subst firstEq lastEq
      simp only [bytes, bytesUpTo, preamble, Script.packets, Script.posted, Option.map_some,
        Option.getD_some]
      rw [halves, frames_append, List.append_assoc, List.append_assoc, List.append_assoc]

theorem bytesUpTo_succ {first last counted : Nat} {packet : Packet}
    (posted : script.posted = some (first, last)) (low : first ≤ counted)
    (next : log[counted]? = some packet) :
    script.bytesUpTo proto log (counted + 1) =
      script.bytesUpTo proto log counted ++ BackedWriter.frame packet := by
  have inside : counted < log.length := by
    by_contra outside
    rw [List.getElem?_eq_none (by omega)] at next
    cases next
  have taken : log.take (counted + 1) = log.take counted ++ [packet] := by
    rw [List.take_add_one, next]
    rfl
  have dropped : (log.take counted ++ [packet]).drop first =
      (log.take counted).drop first ++ [packet] := by
    rw [List.drop_append_of_le_length]
    rw [List.length_take]
    omega
  simp only [bytesUpTo, posted, Option.map_some, Option.getD_some, taken, dropped,
    frames_append, frames_cons, frames_nil, List.append_nil, List.append_assoc]

end Script

/-! ### Streams -/

namespace Stream

def consumed (stream : Stream) : Bytes := stream.sent.take stream.taken

theorem delivered_isPrefix (stream : Stream) : stream.delivered <+: stream.sent := by
  unfold delivered
  cases stream.limit with
  | none => exact List.prefix_rfl
  | some limit => exact List.take_prefix limit stream.sent

theorem available_isPrefix (stream : Stream) :
    stream.available <+: stream.sent.drop stream.taken := by
  obtain ⟨lost, whole⟩ := stream.delivered_isPrefix
  rw [available, ← whole, List.drop_append]
  exact List.prefix_append _ _

theorem consumed_available (stream : Stream) :
    stream.consumed ++ stream.available <+: stream.sent := by
  obtain ⟨lost, whole⟩ := stream.available_isPrefix
  refine ⟨lost, ?_⟩
  rw [List.append_assoc, whole, consumed, List.take_append_drop]

theorem consumed_take {stream : Stream} {count : Nat}
    (bound : count ≤ stream.available.length) :
    (stream.take count).consumed = stream.consumed ++ stream.available.take count := by
  obtain ⟨lost, whole⟩ := stream.available_isPrefix
  have front : stream.available.take count = (stream.sent.drop stream.taken).take count := by
    rw [← whole, List.take_append_of_le_length bound]
  rw [front]
  exact List.take_add

theorem taken_take_le {stream : Stream} {count : Nat}
    (inside : stream.taken ≤ stream.sent.length)
    (bound : count ≤ stream.available.length) :
    (stream.take count).taken ≤ (stream.take count).sent.length := by
  have available := stream.available_isPrefix.length_le
  rw [List.length_drop] at available
  simp only [take]
  omega

end Stream

namespace Wires

variable (wires : Wires) (socket : Fd) (side : Side) (change : Stream → Stream)

@[simp] theorem update_same :
    wires.update socket side change socket side = change (wires socket side) := by
  simp only [update, and_self, if_true]

theorem update_socket_ne {other : Fd} (ne : other ≠ socket) (otherSide : Side) :
    wires.update socket side change other otherSide = wires other otherSide := by
  simp only [update, ne, false_and, if_false]

theorem update_side_ne {otherSide : Side} (ne : otherSide ≠ side) (other : Fd) :
    wires.update socket side change other otherSide = wires other otherSide := by
  simp only [update, ne, and_false, if_false]

theorem update_column :
    (fun other => wires.update socket side change other side) =
      Function.update (fun other => wires other side) socket
        (change (wires socket side)) := by
  funext other
  by_cases same : other = socket
  · subst same
    rw [update_same, Function.update_self]
  · rw [update_socket_ne _ _ _ _ same, Function.update_of_ne same]

theorem update_other_column {otherSide : Side} (ne : otherSide ≠ side) :
    (fun other => wires.update socket side change other otherSide) =
      fun other => wires other otherSide := by
  funext other
  exact update_side_ne _ _ _ _ ne other

theorem update_update (first second : Stream → Stream) :
    (wires.update socket side first).update socket side second =
      wires.update socket side (fun stream => second (first stream)) := by
  funext other otherSide
  simp only [update]
  split <;> rfl

theorem update_take_zero :
    wires.update socket side (·.take 0) = wires := by
  funext other otherSide
  simp only [update]
  split <;> rfl

end Wires

end EternalTerminal
