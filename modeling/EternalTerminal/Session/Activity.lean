/-
An operation in progress on one endpoint.

`writeAll` and `readAll` transfer their bytes in chunks of any size.  An
activity is the program that is left together with the bytes its current
operation has transferred.  The lemmas say how `writeProto` and `readProto`
advance, whatever the chunks.
-/

import EternalTerminal.Base.ProtoFrame
import EternalTerminal.Base.Connection

namespace EternalTerminal

open Library
open SocketHandler

structure Activity (β : Type) where
  program : Action β
  progress : Bytes

namespace Activity

variable {α β : Type}

def begin (program : Action β) : Activity β :=
  { program := program
    progress := [] }

/-- The bytes the current operation still has to hand to its socket. -/
def outgoing : Activity β → Bytes
  | ⟨.perform (.writeAll _ buffer) _, progress⟩ => buffer.drop progress.length
  | _ => []

def wanted : Activity β → Nat
  | ⟨.perform (.readAll _ count) _, progress⟩ => count - progress.length
  | _ => 0

/-- The socket takes `count` bytes; the last of them ends the operation. -/
def send (count : Nat) : Activity β → Activity β
  | ⟨.perform (.writeAll fd buffer) next, progress⟩ =>
      let sent := progress ++ (buffer.drop progress.length).take count
      if sent.length = buffer.length then begin (next (.ok ()))
      else ⟨.perform (.writeAll fd buffer) next, sent⟩
  | activity => activity

/-- The socket delivers `chunk`; the last byte asked for ends the operation. -/
def receive (chunk : Bytes) : Activity β → Activity β
  | ⟨.perform (.readAll fd count) next, progress⟩ =>
      let got := progress ++ chunk
      if got.length = count then begin (next (.ok got))
      else ⟨.perform (.readAll fd count) next, got⟩
  | activity => activity

/-- The current transfer fails, by an error of the socket or by its timeout. -/
def fail (what : String) : Activity β → Activity β
  | ⟨.perform (.writeAll _ _) next, _⟩ => begin (next (.error what))
  | ⟨.perform (.readAll _ _) next, _⟩ => begin (next (.error what))
  | activity => activity

/-- The `close` at which the activity stands is done. -/
def closed : Activity β → Activity β
  | ⟨.perform (.close _) next, _⟩ => begin (next ())
  | activity => activity

/-! ### One buffer -/

/-- A `writeAllOrThrow` with `sent` of its buffer out. -/
def writing (fd : Fd) (buffer : Bytes) (next : Action β) (handler : Exn → Action β)
    (sent : Bytes) : Activity β :=
  { program := .perform (.writeAll fd buffer) fun
      | .ok () => next
      | .error what => handler (.runtimeError what)
    progress := sent }

/-- A `readAll` that has taken `got`. -/
def receiving (fd : Fd) (count : Nat) (next : Bytes → Action β)
    (handler : Exn → Action β) (got : Bytes) : Activity β :=
  { program := .perform (.readAll fd count) fun
      | .ok bytes => next bytes
      | .error what => handler (.runtimeError what)
    progress := got }

variable {fd : Fd} {handler : Exn → Action β}

theorem writeAllOrThrow_handle (buffer : Bytes) (rest : Action β) :
    (writeAllOrThrow fd buffer >>= fun _ => rest).handle handler =
      (writing fd buffer (rest.handle handler) handler []).program := by
  simp only [writeAllOrThrow, writing, Program.perform_bind, Program.perform_handle]
  congr 1
  funext answer
  cases answer with
  | ok done => rfl
  | error what => rfl

theorem readAll_handle (count : Nat) (rest : Bytes → Action β) :
    (readAll fd count >>= rest).handle handler =
      (receiving fd count (fun bytes => (rest bytes).handle handler) handler
        []).program := by
  simp only [readAll, receiving, Program.perform_bind, Program.perform_handle]
  congr 1
  funext answer
  cases answer with
  | ok bytes => rfl
  | error what => rfl

theorem writing_outgoing {buffer sent unsent : Bytes} {next : Action β}
    (whole : sent ++ unsent = buffer) :
    (writing fd buffer next handler sent).outgoing = unsent := by
  subst whole
  exact List.drop_left

theorem writing_send {buffer sent unsent : Bytes} {next : Action β}
    (whole : sent ++ unsent = buffer) (count : Nat) :
    (writing fd buffer next handler sent).send count =
      if unsent.drop count = [] then begin next
      else writing fd buffer next handler (sent ++ unsent.take count) := by
  subst whole
  simp only [writing, send, List.drop_left, List.length_append, List.length_take,
    List.drop_eq_nil_iff]
  by_cases last : unsent.length ≤ count
  · rw [if_pos last, if_pos (by omega)]
  · rw [if_neg last, if_neg (by omega)]

theorem receiving_wanted {count : Nat} {got : Bytes} {next : Bytes → Action β} :
    (receiving fd count next handler got).wanted = count - got.length := rfl

theorem receiving_receive {count : Nat} {next : Bytes → Action β} (got chunk : Bytes) :
    (receiving fd count next handler got).receive chunk =
      if (got ++ chunk).length = count then begin (next (got ++ chunk))
      else receiving fd count next handler (got ++ chunk) := rfl

/-! ### Sending a message -/

/-- `writeProto` once `sent` bytes of the frame are out, where `next` follows. -/
def sending (fd : Fd) (serialized : Bytes) (next : Action β)
    (handler : Exn → Action β) (sent : Bytes) : Activity β :=
  if sent.length < 8 then
    writing fd (littleEndian 8 serialized.length)
      (if serialized.length > 0 then (writing fd serialized next handler []).program
        else next)
      handler sent
  else writing fd serialized next handler (sent.drop 8)

theorem writeProto_begin (proto : ProtoMessage α) (message : α) (rest : Action β)
    (fits : (proto.serialize message).length ≤ MAX_PROTO_BYTES) :
    begin ((writeProto proto fd message >>= fun _ => rest).handle handler) =
      sending fd (proto.serialize message) (rest.handle handler) handler [] := by
  have tail : ((if (proto.serialize message).length > 0 then
        writeAllOrThrow fd (proto.serialize message) else pure ()) >>=
          fun _ => rest).handle handler =
      if (proto.serialize message).length > 0 then
        (writing fd (proto.serialize message) (rest.handle handler) handler []).program
      else rest.handle handler := by
    split
    · exact writeAllOrThrow_handle _ _
    · rfl
  rw [sending, if_pos (by simp), writeProto, if_neg (by omega), begin,
    Program.bind_bind, writeAllOrThrow_handle, tail]
  rfl

section Sending

variable {serialized sent unsent : Bytes} {next : Action β}

/-- The prefix of the length that is out, and the part of it that is not. -/
theorem length_prefix_split (whole : sent ++ unsent = protoFrame serialized)
    (short : sent.length < 8) :
    sent ++ unsent.take (8 - sent.length) = littleEndian 8 serialized.length := by
  have sentWhole : sent.take 8 = sent := List.take_of_length_le (by omega)
  have taken := congrArg (List.take 8) whole
  rw [List.take_append, sentWhole, protoFrame, List.take_left' (by simp)] at taken
  exact taken

theorem serialized_split (whole : sent ++ unsent = protoFrame serialized)
    (long : 8 ≤ sent.length) : sent.drop 8 ++ unsent = serialized := by
  have dropped := congrArg (List.drop 8) whole
  rw [List.drop_append_of_le_length long, protoFrame, List.drop_left' (by simp)]
    at dropped
  exact dropped

theorem frame_split_length (whole : sent ++ unsent = protoFrame serialized) :
    sent.length + unsent.length = 8 + serialized.length := by
  rw [← List.length_append, whole, protoFrame_length]

theorem sending_outgoing (whole : sent ++ unsent = protoFrame serialized) :
    (sending fd serialized next handler sent).outgoing <+: unsent := by
  by_cases short : sent.length < 8
  · rw [sending, if_pos short, writing_outgoing (length_prefix_split whole short)]
    exact List.take_prefix _ _
  · rw [sending, if_neg short, writing_outgoing (serialized_split whole (by omega))]

/-- What the next chunk of a frame does: the frame goes on, or what follows it
begins. -/
theorem sending_send (whole : sent ++ unsent = protoFrame serialized) {count : Nat}
    (bound : count ≤ (sending fd serialized next handler sent).outgoing.length) :
    (sending fd serialized next handler sent).send count =
      if unsent.drop count = [] then begin next
      else sending fd serialized next handler (sent ++ unsent.take count) := by
  have lengths := frame_split_length whole
  by_cases short : sent.length < 8
  · have split := length_prefix_split whole short
    rw [sending, if_pos short, writing_outgoing split, List.length_take] at bound
    have within : (unsent.take (8 - sent.length)).take count = unsent.take count := by
      rw [List.take_take, Nat.min_eq_left (by omega)]
    rw [sending, if_pos short, writing_send split, within, List.drop_take]
    by_cases last : 8 - sent.length ≤ count
    · -- the length is out; an empty message ends with it
      have prefixDone : (unsent.drop count).take (8 - sent.length - count) = [] := by
        rw [List.take_eq_nil_iff]
        omega
      rw [if_pos prefixDone]
      by_cases empty : serialized.length = 0
      · rw [if_neg (by omega), if_pos (List.drop_eq_nil_of_le (by omega))]
      · have notLast : unsent.drop count ≠ [] := by
          rw [Ne, List.drop_eq_nil_iff]
          omega
        have reached : ¬ (sent ++ unsent.take count).length < 8 := by
          rw [List.length_append, List.length_take]
          omega
        have nothing : (sent ++ unsent.take count).drop 8 = [] := by
          apply List.drop_eq_nil_of_le
          rw [List.length_append, List.length_take]
          omega
        rw [if_pos (by omega), if_neg notLast, sending, if_neg reached, nothing]
        rfl
    · have prefixLeft : (unsent.drop count).take (8 - sent.length - count) ≠ [] := by
        rw [Ne, List.take_eq_nil_iff, List.drop_eq_nil_iff]
        omega
      have notLast : unsent.drop count ≠ [] := by
        rw [Ne, List.drop_eq_nil_iff]
        omega
      have stillShort : (sent ++ unsent.take count).length < 8 := by
        rw [List.length_append, List.length_take]
        omega
      rw [if_neg prefixLeft, if_neg notLast, sending, if_pos stillShort]
  · have split := serialized_split whole (by omega)
    rw [sending, if_neg short, writing_send split]
    by_cases last : unsent.drop count = []
    · rw [if_pos last, if_pos last]
    · have stillLong : ¬ (sent ++ unsent.take count).length < 8 := by
        rw [List.length_append]
        omega
      rw [if_neg last, if_neg last, sending, if_neg stillLong,
        List.drop_append_of_le_length (by omega)]

/-! A message being sent stands at a `writeAll`. -/

theorem sending_wanted : (sending fd serialized next handler sent).wanted = 0 := by
  unfold sending
  split <;> rfl

theorem sending_closed : (sending fd serialized next handler sent).closed =
    sending fd serialized next handler sent := by
  unfold sending
  split <;> rfl

theorem sending_running (value : β) :
    (sending fd serialized next handler sent).program ≠ .done value := by
  unfold sending
  split <;> intro impossible <;> cases impossible

theorem sending_not_aborted (message : String) :
    (sending fd serialized next handler sent).program ≠ .abort message := by
  unfold sending
  split <;> intro impossible <;> cases impossible

theorem sending_fail (what : String) :
    (sending fd serialized next handler sent).fail what =
      begin (handler (.runtimeError what)) := by
  unfold sending
  split <;> rfl

end Sending

/-! ### Receiving a message -/

def afterLength (proto : ProtoMessage α) (fd : Fd) (rest : α → Action β)
    (handler : Exn → Action β) (length : Int) : Action β :=
  (readProtoBody proto fd length >>= rest).handle handler

def afterBody (proto : ProtoMessage α) (rest : α → Action β)
    (handler : Exn → Action β) (serialized : Bytes) : Action β :=
  match proto.parse serialized with
  | none => handler (.runtimeError "Invalid proto")
  | some message => (rest message).handle handler

/-- `readProto` once `got` has been taken of the frame. -/
def reading (proto : ProtoMessage α) (fd : Fd) (rest : α → Action β)
    (handler : Exn → Action β) (got : Bytes) : Activity β :=
  if got.length < 8 then
    receiving fd 8
      (fun bytes => afterLength proto fd rest handler
        (toInt64 (littleEndianValue bytes)))
      handler got
  else
    receiving fd (frameLength got).toNat (afterBody proto rest handler) handler
      (got.drop 8)

def standing (proto : ProtoMessage α) (fd : Fd) (rest : α → Action β)
    (handler : Exn → Action β) (got : Bytes) (activity : Activity β) :
    FrameStatus α → Prop
  | .more _ => activity = reading proto fd rest handler got
  | .message message => activity = begin ((rest message).handle handler)
  | .rejected => ∃ what, activity = begin (handler (.runtimeError what))

section Reading

variable {proto : ProtoMessage α} {rest : α → Action β}

theorem reading_short {got : Bytes} (short : got.length < 8) :
    reading proto fd rest handler got =
      receiving fd 8
        (fun bytes => afterLength proto fd rest handler
          (toInt64 (littleEndianValue bytes)))
        handler got :=
  if_pos short

theorem reading_long {got : Bytes} (long : 8 ≤ got.length) :
    reading proto fd rest handler got =
      receiving fd (frameLength got).toNat (afterBody proto rest handler) handler
        (got.drop 8) :=
  if_neg (by omega)

theorem readProto_begin :
    begin ((readProto proto fd >>= rest).handle handler) =
      reading proto fd rest handler [] := by
  rw [reading_short (by simp), readProto, begin, Program.bind_bind, readAll_handle]
  rfl

theorem afterLength_invalid {length : Int}
    (invalid : length < 0 ∨ length > MAX_PROTO_BYTES) :
    ∃ what, afterLength proto fd rest handler length = handler (.runtimeError what) := by
  rw [afterLength, readProtoBody, if_pos invalid]
  exact ⟨_, rfl⟩

theorem afterLength_zero : afterLength proto fd rest handler 0 =
    (rest proto.default).handle handler := by
  rw [afterLength, readProtoBody, if_neg (by omega), if_pos rfl]
  rfl

theorem afterLength_valid {length : Int}
    (valid : ¬ (length < 0 ∨ length > MAX_PROTO_BYTES)) (nonzero : length ≠ 0) :
    afterLength proto fd rest handler length =
      (receiving fd length.toNat (afterBody proto rest handler) handler []).program := by
  rw [afterLength, readProtoBody, if_neg valid, if_neg nonzero, Program.bind_bind,
    readAll_handle]
  congr 2
  funext serialized
  unfold afterBody
  cases proto.parse serialized with
  | none => rfl
  | some message => rfl

/-- The operation under way asks for the bytes its part of the frame lacks. -/
theorem reading_wanted {got : Bytes} {count : Nat}
    (status : frameStatus proto got = .more count) :
    (reading proto fd rest handler got).wanted = count := by
  by_cases short : got.length < 8
  · rw [frameStatus_short short] at status
    injection status with countEq
    rw [reading_short short, receiving_wanted, countEq]
  · rw [frameStatus_long (by omega)] at status
    obtain ⟨_, _, _, countEq⟩ := bodyStatus_more status
    rw [reading_long (by omega), receiving_wanted, countEq]

theorem standing_more {got : Bytes} {count : Nat} {activity : Activity β}
    (same : activity = reading proto fd rest handler got) :
    standing proto fd rest handler got activity (.more count) := same

/-- The length that is complete with `got`. -/
theorem afterLength_standing {got : Bytes} (whole : got.length = 8) :
    standing proto fd rest handler got
      (begin (afterLength proto fd rest handler (frameLength got)))
      (bodyStatus proto (frameLength got) []) := by
  have nothing : got.drop 8 = [] := List.drop_eq_nil_of_le (by omega)
  by_cases invalid : frameLength got < 0 ∨ frameLength got > MAX_PROTO_BYTES
  · have thrown : ∃ what, afterLength proto fd rest handler (frameLength got) =
        handler (.runtimeError what) := afterLength_invalid invalid
    obtain ⟨what, thrown⟩ := thrown
    rw [bodyStatus_invalid invalid]
    exact ⟨what, congrArg begin thrown⟩
  · by_cases zero : frameLength got = 0
    · rw [zero, bodyStatus_zero, afterLength_zero]
      rfl
    · rw [bodyStatus_valid invalid zero, if_pos (by simp; omega),
        afterLength_valid invalid zero]
      apply standing_more
      rw [reading_long (by omega), nothing]
      rfl

theorem reading_receive {got chunk : Bytes} {count : Nat}
    (status : frameStatus proto got = .more count) (bound : chunk.length ≤ count) :
    standing proto fd rest handler (got ++ chunk)
      ((reading proto fd rest handler got).receive chunk)
      (frameStatus proto (got ++ chunk)) := by
  have added : (got ++ chunk).length = got.length + chunk.length := List.length_append
  by_cases short : got.length < 8
  · rw [frameStatus_short short] at status
    injection status with countEq
    rw [reading_short short, receiving_receive]
    by_cases whole : (got ++ chunk).length = 8
    · have nothing : (got ++ chunk).drop 8 = [] := List.drop_eq_nil_of_le (by omega)
      have lengthEq : toInt64 (littleEndianValue (got ++ chunk)) =
          frameLength (got ++ chunk) := by
        rw [frameLength, List.take_of_length_le (by omega)]
      rw [if_pos whole, lengthEq, frameStatus_long (by omega), nothing]
      exact afterLength_standing whole
    · rw [if_neg whole, frameStatus_short (by omega)]
      apply standing_more
      rw [reading_short (by omega)]
  · have drained : ((got ++ chunk).drop 8).length = (got ++ chunk).length - 8 :=
      List.length_drop
    have sameDrop : got.drop 8 ++ chunk = (got ++ chunk).drop 8 :=
      (List.drop_append_of_le_length (by omega)).symm
    rw [frameStatus_long (by omega)] at status
    obtain ⟨valid, nonzero, more, countEq⟩ := bodyStatus_more status
    rw [List.length_drop] at more countEq
    rw [reading_long (by omega), receiving_receive, sameDrop,
      frameStatus_long (by omega), frameLength_append (by omega),
      bodyStatus_valid valid nonzero]
    by_cases whole : ((got ++ chunk).drop 8).length = (frameLength got).toNat
    · rw [if_pos whole, if_neg (by omega)]
      unfold afterBody
      cases proto.parse ((got ++ chunk).drop 8) with
      | none => exact ⟨_, rfl⟩
      | some message => rfl
    · rw [if_neg whole, if_pos (by omega)]
      apply standing_more
      rw [reading_long (by omega), frameLength_append (by omega)]

/-! A message being read stands at a `readAll`. -/

theorem reading_outgoing {got : Bytes} :
    (reading proto fd rest handler got).outgoing = [] := by
  unfold reading
  split <;> rfl

theorem reading_closed {got : Bytes} :
    (reading proto fd rest handler got).closed = reading proto fd rest handler got := by
  unfold reading
  split <;> rfl

theorem reading_running {got : Bytes} (value : β) :
    (reading proto fd rest handler got).program ≠ .done value := by
  unfold reading
  split <;> intro impossible <;> cases impossible

theorem reading_not_aborted {got : Bytes} (message : String) :
    (reading proto fd rest handler got).program ≠ .abort message := by
  unfold reading
  split <;> intro impossible <;> cases impossible

theorem reading_fail {got : Bytes} (what : String) :
    (reading proto fd rest handler got).fail what =
      begin (handler (.runtimeError what)) := by
  unfold reading
  split <;> rfl

end Reading

end Activity

end EternalTerminal
