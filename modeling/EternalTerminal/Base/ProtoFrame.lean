/-
How far a length-prefixed protobuf message has been read.

`frameStatus` says what `readProto` makes of the bytes it has taken so far:
how many it still asks for, the message it returns, or that it throws.
-/

import EternalTerminal.Base.SocketHandler

namespace EternalTerminal

open Library

inductive FrameStatus (α : Type) where
  | more (count : Nat)
  | message (message : α)
  | rejected

namespace SocketHandler

variable {α : Type}

/-- The status once the length is known, with `body` taken of the message. -/
def bodyStatus (proto : ProtoMessage α) (length : Int) (body : Bytes) : FrameStatus α :=
  if length < 0 ∨ length > MAX_PROTO_BYTES then .rejected
  else if length = 0 then .message proto.default
  else if body.length < length.toNat then .more (length.toNat - body.length)
  else
    match proto.parse body with
    | none => .rejected
    | some message => .message message

def frameLength (got : Bytes) : Int := toInt64 (littleEndianValue (got.take 8))

def frameStatus (proto : ProtoMessage α) (got : Bytes) : FrameStatus α :=
  if got.length < 8 then .more (8 - got.length)
  else bodyStatus proto (frameLength got) (got.drop 8)

theorem bodyStatus_invalid {proto : ProtoMessage α} {length : Int} {body : Bytes}
    (invalid : length < 0 ∨ length > MAX_PROTO_BYTES) :
    bodyStatus proto length body = .rejected := if_pos invalid

theorem bodyStatus_zero {proto : ProtoMessage α} {body : Bytes} :
    bodyStatus proto 0 body = .message proto.default := by
  rw [bodyStatus, if_neg (by omega), if_pos rfl]

theorem bodyStatus_valid {proto : ProtoMessage α} {length : Int} {body : Bytes}
    (valid : ¬ (length < 0 ∨ length > MAX_PROTO_BYTES)) (nonzero : length ≠ 0) :
    bodyStatus proto length body =
      if body.length < length.toNat then .more (length.toNat - body.length)
      else
        match proto.parse body with
        | none => .rejected
        | some message => .message message := by
  rw [bodyStatus, if_neg valid, if_neg nonzero]

theorem bodyStatus_more {proto : ProtoMessage α} {length : Int} {body : Bytes}
    {count : Nat} (status : bodyStatus proto length body = .more count) :
    ¬ (length < 0 ∨ length > MAX_PROTO_BYTES) ∧ length ≠ 0 ∧
      body.length < length.toNat ∧ count = length.toNat - body.length := by
  by_cases invalid : length < 0 ∨ length > MAX_PROTO_BYTES
  · rw [bodyStatus_invalid invalid] at status
    cases status
  · by_cases zero : length = 0
    · rw [zero, bodyStatus_zero] at status
      cases status
    · rw [bodyStatus_valid invalid zero] at status
      by_cases more : body.length < length.toNat
      · rw [if_pos more] at status
        injection status with countEq
        exact ⟨invalid, zero, more, countEq.symm⟩
      · rw [if_neg more] at status
        split at status <;> cases status

theorem frameStatus_short {proto : ProtoMessage α} {got : Bytes}
    (short : got.length < 8) : frameStatus proto got = .more (8 - got.length) :=
  if_pos short

theorem frameStatus_long {proto : ProtoMessage α} {got : Bytes}
    (long : 8 ≤ got.length) :
    frameStatus proto got = bodyStatus proto (frameLength got) (got.drop 8) :=
  if_neg (by omega)

theorem frameLength_append {got chunk : Bytes} (long : 8 ≤ got.length) :
    frameLength (got ++ chunk) = frameLength got := by
  rw [frameLength, List.take_append_of_le_length long, frameLength]

/-- The prefix of a frame, once complete, gives the length of its message. -/
theorem frameLength_prefix {serialized got rest : Bytes}
    (fits : serialized.length ≤ MAX_PROTO_BYTES)
    (isPrefix : got <+: protoFrame serialized ++ rest) (long : 8 ≤ got.length) :
    frameLength got = serialized.length := by
  have prefixEq : got.take 8 = littleEndian 8 serialized.length := by
    obtain ⟨left, whole⟩ := isPrefix
    have taken := congrArg (List.take 8) whole
    rw [List.take_append_of_le_length long, protoFrame, List.append_assoc,
      List.take_left' (by simp)] at taken
    exact taken
  rw [frameLength, prefixEq, toInt64_littleEndian fits]

theorem protoFrame_body (serialized : Bytes) :
    (protoFrame serialized).drop 8 = serialized :=
  List.drop_left' (by simp)

theorem frameStatus_frame (proto : ProtoMessage α) (message : α)
    (fits : (proto.serialize message).length ≤ MAX_PROTO_BYTES) :
    frameStatus proto (protoFrame (proto.serialize message)) = .message message := by
  have lengthEq : frameLength (protoFrame (proto.serialize message)) =
      (proto.serialize message).length :=
    frameLength_prefix fits (List.prefix_append _ []) (by simp)
  rw [frameStatus_long (by simp), lengthEq, protoFrame_body]
  by_cases empty : (proto.serialize message).length = 0
  · -- an empty string parses to the default message, so the message is it
    have parsed := proto.parse_serialize message
    rw [List.length_eq_zero_iff.mp empty, proto.parse_nil] at parsed
    rw [empty, Nat.cast_zero, bodyStatus_zero, Option.some.inj parsed]
  · rw [bodyStatus_valid (by omega) (by exact_mod_cast empty), Int.toNat_natCast,
      if_neg (by omega), proto.parse_serialize]

/-- A proper prefix of a frame asks for more, and never for bytes beyond it. -/
theorem frameStatus_prefix (proto : ProtoMessage α) {serialized got : Bytes}
    (fits : serialized.length ≤ MAX_PROTO_BYTES)
    (isPrefix : got <+: protoFrame serialized) (unfinished : got ≠ protoFrame serialized) :
    ∃ count, frameStatus proto got = .more count ∧ 0 < count ∧
      got.length + count ≤ (protoFrame serialized).length := by
  have shorter : got.length < (protoFrame serialized).length := by
    rcases Nat.lt_or_eq_of_le isPrefix.length_le with short | same
    · exact short
    · exact absurd (isPrefix.eq_of_length same) unfinished
  have isPrefixAppend : got <+: protoFrame serialized ++ [] := by
    rw [List.append_nil]
    exact isPrefix
  rw [protoFrame_length] at shorter
  rw [protoFrame_length]
  by_cases short : got.length < 8
  · exact ⟨8 - got.length, frameStatus_short short, by omega, by omega⟩
  · have drained : (got.drop 8).length = got.length - 8 := List.length_drop
    refine ⟨serialized.length - (got.drop 8).length, ?_, by omega, by omega⟩
    rw [frameStatus_long (by omega), frameLength_prefix fits isPrefixAppend (by omega),
      bodyStatus_valid (by omega) (by omega), Int.toNat_natCast, if_pos (by omega)]

theorem frameStatus_more_le {proto : ProtoMessage α} {serialized got rest : Bytes}
    {count : Nat} (fits : serialized.length ≤ MAX_PROTO_BYTES)
    (isPrefix : got <+: protoFrame serialized ++ rest)
    (status : frameStatus proto got = .more count) :
    got.length + count ≤ (protoFrame serialized).length := by
  rw [protoFrame_length]
  by_cases short : got.length < 8
  · rw [frameStatus_short short] at status
    injection status with countEq
    omega
  · rw [frameStatus_long (by omega), frameLength_prefix fits isPrefix (by omega)] at status
    obtain ⟨_, _, more, countEq⟩ := bodyStatus_more status
    rw [List.length_drop, Int.toNat_natCast] at more countEq
    omega

/-- A chunk of the size asked for completes the message or leaves it incomplete. -/
theorem frameStatus_chunk {proto : ProtoMessage α} {message : α}
    {got chunk rest : Bytes} {count : Nat}
    (fits : (proto.serialize message).length ≤ MAX_PROTO_BYTES)
    (isPrefix : got ++ chunk <+: protoFrame (proto.serialize message) ++ rest)
    (status : frameStatus proto got = .more count) (bound : chunk.length ≤ count) :
    (got ++ chunk = protoFrame (proto.serialize message) ∧
      frameStatus proto (got ++ chunk) = .message message) ∨
    ∃ left, frameStatus proto (got ++ chunk) = .more left := by
  have within := frameStatus_more_le fits ((List.prefix_append _ _).trans isPrefix) status
  have inFrame : got ++ chunk <+: protoFrame (proto.serialize message) :=
    List.prefix_of_prefix_length_le isPrefix (List.prefix_append _ _)
      (by rw [List.length_append]; omega)
  by_cases whole : got ++ chunk = protoFrame (proto.serialize message)
  · left
    exact ⟨whole, by rw [whole, frameStatus_frame proto message fits]⟩
  · right
    obtain ⟨left, more, _⟩ := frameStatus_prefix proto fits inFrame whole
    exact ⟨left, more⟩

end SocketHandler

end EternalTerminal
