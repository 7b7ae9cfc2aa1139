/-
A socket whose peer sends a given byte string.

The peer need not be an endpoint of the session: it may send anything and leave
at any point, so every transfer may fail.  `takeProto` says which message the
bytes of a peer start with.
-/

import EternalTerminal.Base.ProtoFrame

namespace EternalTerminal

open Library

structure PeerSocket where
  /-- what the peer sends and nobody has read -/
  incoming : Bytes
  /-- what has been written to the peer -/
  outgoing : Bytes

namespace PeerSocket

def answers (socket : PeerSocket) : (operation : SocketCall) →
    SocketCall.Answer operation → PeerSocket → Prop
  | .writeAll _ buffer, .ok (), next =>
      next.incoming = socket.incoming ∧ next.outgoing = socket.outgoing ++ buffer
  | .writeAll _ buffer, .error _, next =>
      next.incoming = socket.incoming ∧
        ∃ count, next.outgoing = socket.outgoing ++ buffer.take count
  | .readAll _ count, .ok bytes, next =>
      socket.incoming = bytes ++ next.incoming ∧ bytes.length = count ∧
        next.outgoing = socket.outgoing
  | .readAll _ _, .error _, next =>
      next.incoming <:+ socket.incoming ∧ next.outgoing = socket.outgoing
  | .read _ count, .data bytes, next =>
      socket.incoming = bytes ++ next.incoming ∧ bytes ≠ [] ∧ bytes.length ≤ count ∧
        next.outgoing = socket.outgoing
  | .read _ _, .closed, next => next = socket
  | .read _ _, .failed _, next => next = socket
  | .close _, (), next => next = socket

/-- The socket after `buffer` is written. -/
def written (socket : PeerSocket) (buffer : Bytes) : PeerSocket :=
  { socket with outgoing := socket.outgoing ++ buffer }

/-- The socket when all but `rest` of the incoming bytes have been read. -/
def advanced (socket : PeerSocket) (rest : Bytes) : PeerSocket :=
  { socket with incoming := rest }

@[simp] theorem written_incoming (socket : PeerSocket) (buffer : Bytes) :
    (socket.written buffer).incoming = socket.incoming := rfl

theorem eq_advanced {socket next : PeerSocket} (same : next.outgoing = socket.outgoing) :
    next = socket.advanced next.incoming := by
  cases next
  cases same
  rfl

/-- Every call returns, if only to say that the peer is gone. -/
theorem answered (socket : PeerSocket) (operation : SocketCall) :
    ∃ answer next, answers socket operation answer next := by
  cases operation with
  | writeAll fd buffer => exact ⟨.ok (), socket.written buffer, rfl, rfl⟩
  | readAll fd count => exact ⟨.error "Socket Timeout", socket, List.suffix_rfl, rfl⟩
  | read fd count => exact ⟨.closed, socket, rfl⟩
  | close fd => exact ⟨(), socket, rfl⟩

def writesNothing : SocketCall → Prop
  | .writeAll _ _ => False
  | _ => True

theorem outgoing_unchanged {α : Type} {program : Action α} {outcome : Outcome Exn α}
    {socket after : PeerSocket} (performs : program.Performs writesNothing)
    (run : Program.Run answers socket program outcome after) :
    after.outgoing = socket.outgoing := by
  refine performs.preserves (fun world => world.outgoing = socket.outgoing) ?_ run rfl
  intro world operation answer next allowed answered same
  cases operation with
  | writeAll fd buffer => cases allowed
  | readAll fd count =>
      cases answer with
      | ok bytes => exact answered.2.2.trans same
      | error what => exact answered.2.trans same
  | read fd count =>
      cases answer with
      | data bytes => exact answered.2.2.2.trans same
      | closed =>
          cases answered
          exact same
      | failed errno =>
          cases answered
          exact same
  | close fd =>
      cases answered
      exact same

end PeerSocket

namespace SocketHandler

variable {α : Type} {proto : ProtoMessage α} {fd : Fd} {socket after : PeerSocket}

/-! ### Single transfers -/

theorem writeAllOrThrow_run {buffer : Bytes} {outcome : Outcome Exn Unit}
    (run : Program.Run PeerSocket.answers socket (writeAllOrThrow fd buffer) outcome after) :
    after.incoming = socket.incoming ∧
      (outcome = .returned () ∨ ∃ what, outcome = .raised (.runtimeError what)) := by
  obtain ⟨answer, between, answered, rest⟩ := Program.run_perform_iff.mp run
  cases answer with
  | ok done =>
      obtain ⟨rfl, rfl⟩ := Program.run_done_iff.mp rest
      exact ⟨answered.1, Or.inl rfl⟩
  | error what =>
      obtain ⟨rfl, rfl⟩ := Program.run_raise_iff.mp rest
      exact ⟨answered.1, Or.inr ⟨what, rfl⟩⟩

theorem writeAllOrThrow_written {buffer : Bytes}
    (run : Program.Run PeerSocket.answers socket (writeAllOrThrow fd buffer)
      (.returned ()) after) :
    after.outgoing = socket.outgoing ++ buffer := by
  obtain ⟨answer, between, answered, rest⟩ := Program.run_perform_iff.mp run
  cases answer with
  | ok done =>
      obtain ⟨_, rfl⟩ := Program.run_done_iff.mp rest
      exact answered.2
  | error what => cases rest

theorem writeAllOrThrow_succeeds (fd : Fd) (socket : PeerSocket) (buffer : Bytes) :
    Program.Run PeerSocket.answers socket (writeAllOrThrow fd buffer) (.returned ())
      (socket.written buffer) := by
  apply Program.run_perform_iff.mpr
  exact ⟨.ok (), socket.written buffer, ⟨rfl, rfl⟩, .done _ _⟩

/-- However it ends, a write hands over its buffer from the front. -/
theorem writeAllOrThrow_outgoing {buffer : Bytes} {outcome : Outcome Exn Unit}
    (run : Program.Run PeerSocket.answers socket (writeAllOrThrow fd buffer) outcome after) :
    ∃ handed, handed <+: buffer ∧ after.outgoing = socket.outgoing ++ handed := by
  obtain ⟨answer, between, answered, rest⟩ := Program.run_perform_iff.mp run
  cases answer with
  | ok done =>
      obtain ⟨_, rfl⟩ := Program.run_done_iff.mp rest
      exact ⟨buffer, List.prefix_rfl, answered.2⟩
  | error what =>
      obtain ⟨_, rfl⟩ := Program.run_raise_iff.mp rest
      obtain ⟨_, count, outgoing⟩ := answered
      exact ⟨buffer.take count, List.take_prefix _ _, outgoing⟩

theorem readAll_performs (fd : Fd) (count : Nat) :
    (readAll fd count).Performs PeerSocket.writesNothing := by
  apply Program.Performs.perform trivial
  intro answer
  cases answer with
  | ok bytes => exact .done _
  | error what => exact .raise _

theorem readAll_run {count : Nat} {outcome : Outcome Exn Bytes}
    (run : Program.Run PeerSocket.answers socket (readAll fd count) outcome after) :
    (∃ bytes, outcome = .returned bytes ∧ bytes.length = count ∧
      socket.incoming = bytes ++ after.incoming ∧
      after = socket.advanced after.incoming) ∨
    ∃ what, outcome = .raised (.runtimeError what) := by
  obtain ⟨answer, between, answered, rest⟩ := Program.run_perform_iff.mp run
  cases answer with
  | ok bytes =>
      obtain ⟨rfl, rfl⟩ := Program.run_done_iff.mp rest
      obtain ⟨incoming, length, outgoing⟩ := answered
      exact Or.inl ⟨bytes, rfl, length, incoming, PeerSocket.eq_advanced outgoing⟩
  | error what =>
      obtain ⟨rfl, rfl⟩ := Program.run_raise_iff.mp rest
      exact Or.inr ⟨what, rfl⟩

theorem readAll_succeeds (fd : Fd) {bytes rest : Bytes}
    (incoming : socket.incoming = bytes ++ rest) :
    Program.Run PeerSocket.answers socket (readAll fd bytes.length) (.returned bytes)
      (socket.advanced rest) := by
  apply Program.run_perform_iff.mpr
  exact ⟨.ok bytes, socket.advanced rest, ⟨incoming, rfl, rfl⟩, .done _ _⟩

/-! ### Messages -/

/-- The message that `length` bytes make, and what follows them. -/
def takeBody (proto : ProtoMessage α) (length : Int) (bytes : Bytes) : Option (α × Bytes) :=
  if length < 0 ∨ length > MAX_PROTO_BYTES then none
  else if length = 0 then some (proto.default, bytes)
  else if bytes.length < length.toNat then none
  else (proto.parse (bytes.take length.toNat)).map fun message =>
    (message, bytes.drop length.toNat)

/-- The message at the head of a byte string, and what follows it. -/
def takeProto (proto : ProtoMessage α) (bytes : Bytes) : Option (α × Bytes) :=
  if bytes.length < 8 then none else takeBody proto (frameLength bytes) (bytes.drop 8)

theorem takeProto_rejected {bytes : Bytes}
    (invalid : frameLength bytes < 0 ∨ frameLength bytes > MAX_PROTO_BYTES) :
    takeProto proto bytes = none := by
  unfold takeProto takeBody
  rw [if_pos invalid]
  split <;> rfl

theorem takeProto_frame (proto : ProtoMessage α) (message : α) (rest : Bytes)
    (fits : (proto.serialize message).length ≤ MAX_PROTO_BYTES) :
    takeProto proto (protoFrame (proto.serialize message) ++ rest) =
      some (message, rest) := by
  have long : 8 ≤ (protoFrame (proto.serialize message) ++ rest).length := by
    rw [List.length_append, protoFrame_length]
    omega
  have lengthEq : frameLength (protoFrame (proto.serialize message) ++ rest) =
      (proto.serialize message).length :=
    frameLength_prefix fits List.prefix_rfl long
  have bodyEq : (protoFrame (proto.serialize message) ++ rest).drop 8 =
      proto.serialize message ++ rest := by
    rw [List.drop_append_of_le_length (by simp), protoFrame_body]
  rw [takeProto, if_neg (by omega), lengthEq, bodyEq, takeBody, if_neg (by omega)]
  by_cases empty : (proto.serialize message).length = 0
  · -- an empty string parses to the default message, so the message is it
    have parsed := proto.parse_serialize message
    rw [List.length_eq_zero_iff.mp empty, proto.parse_nil] at parsed
    rw [if_pos (by exact_mod_cast empty), List.length_eq_zero_iff.mp empty,
      Option.some.inj parsed, List.nil_append]
  · rw [if_neg (by exact_mod_cast empty), Int.toNat_natCast, if_neg (by simp),
      List.take_left, List.drop_left, proto.parse_serialize, Option.map_some]

theorem readProtoBody_run {length : Int} {outcome : Outcome Exn α}
    (run : Program.Run PeerSocket.answers socket (readProtoBody proto fd length) outcome
      after) :
    (∃ message, outcome = .returned message ∧
      takeBody proto length socket.incoming = some (message, after.incoming) ∧
      after = socket.advanced after.incoming) ∨
    ∃ what, outcome = .raised (.runtimeError what) := by
  unfold readProtoBody at run
  unfold takeBody
  by_cases invalid : length < 0 ∨ length > MAX_PROTO_BYTES
  · rw [if_pos invalid] at run
    exact Or.inr ⟨_, (Program.run_raise_iff.mp run).1⟩
  rw [if_neg invalid] at run ⊢
  by_cases zero : length = 0
  · rw [if_pos zero] at run ⊢
    obtain ⟨rfl, rfl⟩ := Program.run_done_iff.mp run
    exact Or.inl ⟨_, rfl, rfl, rfl⟩
  rw [if_neg zero] at run ⊢
  rcases Program.run_bind_iff.mp run with
    ⟨serialized, between, readRun, parseRun⟩ | ⟨exn, rfl, readRun⟩ | ⟨message, rfl, readRun⟩
  · rcases readAll_run readRun with
      ⟨content, returned, contentLength, incoming, advanced⟩ | ⟨what, raised⟩
    · cases returned
      rw [incoming, if_neg (by rw [List.length_append]; omega),
        List.take_left' contentLength, List.drop_left' contentLength]
      cases parsed : proto.parse serialized with
      | none =>
          rw [parsed] at parseRun
          exact Or.inr ⟨_, (Program.run_raise_iff.mp parseRun).1⟩
      | some message =>
          rw [parsed] at parseRun
          obtain ⟨rfl, rfl⟩ := Program.run_done_iff.mp parseRun
          exact Or.inl ⟨message, rfl, rfl, advanced⟩
    · cases raised
  · rcases readAll_run readRun with ⟨_, ⟨⟩, _⟩ | ⟨what, raised⟩
    cases raised
    exact Or.inr ⟨what, rfl⟩
  · rcases readAll_run readRun with ⟨_, ⟨⟩, _⟩ | ⟨what, ⟨⟩⟩

/-- `readProto` returns the message its bytes start with, or throws what the
recovery code catches. -/
theorem readProto_run {outcome : Outcome Exn α}
    (run : Program.Run PeerSocket.answers socket (readProto proto fd) outcome after) :
    (∃ message, outcome = .returned message ∧
      takeProto proto socket.incoming = some (message, after.incoming) ∧
      after = socket.advanced after.incoming) ∨
    ∃ what, outcome = .raised (.runtimeError what) := by
  rcases Program.run_bind_iff.mp run with
    ⟨header, between, headerRun, bodyRun⟩ | ⟨exn, rfl, headerRun⟩ | ⟨message, rfl, headerRun⟩
  · rcases readAll_run headerRun with
      ⟨bytes, returned, headerLength, incoming, advanced⟩ | ⟨what, raised⟩
    · cases returned
      have lengthEq : toInt64 (littleEndianValue header) = frameLength socket.incoming := by
        rw [frameLength, incoming, List.take_left' headerLength]
      have bodyEq : socket.incoming.drop 8 = between.incoming := by
        rw [incoming, List.drop_left' headerLength]
      have long : ¬ socket.incoming.length < 8 := by
        rw [incoming, List.length_append]
        omega
      rw [lengthEq] at bodyRun
      rw [takeProto, if_neg long, bodyEq]
      rcases readProtoBody_run bodyRun with ⟨message, returned, taken, further⟩ | raised
      · left
        refine ⟨message, returned, taken, ?_⟩
        rw [further, advanced]
        rfl
      · exact Or.inr raised
    · cases raised
  · rcases readAll_run headerRun with ⟨_, ⟨⟩, _⟩ | ⟨what, raised⟩
    cases raised
    exact Or.inr ⟨what, rfl⟩
  · rcases readAll_run headerRun with ⟨_, ⟨⟩, _⟩ | ⟨what, ⟨⟩⟩

theorem readProto_performs (proto : ProtoMessage α) (fd : Fd) :
    (readProto proto fd).Performs PeerSocket.writesNothing := by
  apply (readAll_performs fd 8).bind
  intro header
  unfold readProtoBody
  split
  · exact .raise _
  · split
    · exact .done _
    · apply (readAll_performs fd _).bind
      intro serialized
      split
      · exact .raise _
      · exact .done _

theorem readProto_raised {exn : Exn}
    (run : Program.Run PeerSocket.answers socket (readProto proto fd) (.raised exn) after) :
    ∃ what, exn = .runtimeError what := by
  rcases readProto_run run with ⟨_, impossible, _⟩ | ⟨what, raised⟩
  · cases impossible
  · cases raised
    exact ⟨what, rfl⟩

theorem readProto_not_aborted {message : String}
    (run : Program.Run PeerSocket.answers socket (readProto proto fd) (.aborted message)
      after) : False := by
  rcases readProto_run run with ⟨_, impossible, _⟩ | ⟨_, impossible⟩
  · cases impossible
  · cases impossible

theorem readProtoBody_succeeds (fd : Fd) {length : Int} {message : α} {rest : Bytes}
    (starts : takeBody proto length socket.incoming = some (message, rest)) :
    Program.Run PeerSocket.answers socket (readProtoBody proto fd length)
      (.returned message) (socket.advanced rest) := by
  unfold takeBody at starts
  unfold readProtoBody
  by_cases invalid : length < 0 ∨ length > MAX_PROTO_BYTES
  · rw [if_pos invalid] at starts
    cases starts
  rw [if_neg invalid] at starts ⊢
  by_cases zero : length = 0
  · rw [if_pos zero] at starts ⊢
    cases starts
    exact .done _ _
  rw [if_neg zero] at starts ⊢
  by_cases short : socket.incoming.length < length.toNat
  · rw [if_pos short] at starts
    cases starts
  rw [if_neg short] at starts
  obtain ⟨found, parsed, foundEq⟩ := Option.map_eq_some_iff.mp starts
  cases foundEq
  have bodyRun := readAll_succeeds fd
    (List.take_append_drop length.toNat socket.incoming).symm
  rw [List.length_take, Nat.min_eq_left (by omega)] at bodyRun
  apply bodyRun.bind
  rw [parsed]
  exact .done _ _

theorem readProto_succeeds (fd : Fd) {message : α} {rest : Bytes}
    (starts : takeProto proto socket.incoming = some (message, rest)) :
    Program.Run PeerSocket.answers socket (readProto proto fd) (.returned message)
      (socket.advanced rest) := by
  unfold takeProto at starts
  by_cases short : socket.incoming.length < 8
  · rw [if_pos short] at starts
    cases starts
  rw [if_neg short] at starts
  have headerRun := readAll_succeeds fd (List.take_append_drop 8 socket.incoming).symm
  rw [List.length_take, Nat.min_eq_left (by omega)] at headerRun
  apply headerRun.bind
  have bodyRun : Program.Run PeerSocket.answers
      (socket.advanced (socket.incoming.drop 8))
      (readProtoBody proto fd (frameLength socket.incoming)) (.returned message)
      (socket.advanced rest) :=
    readProtoBody_succeeds fd starts
  exact bodyRun

/-- A length out of range is rejected as soon as it has been read. -/
theorem readProto_rejects (proto : ProtoMessage α) (fd : Fd) {socket : PeerSocket}
    (long : 8 ≤ socket.incoming.length)
    (invalid : frameLength socket.incoming < 0 ∨
      frameLength socket.incoming > MAX_PROTO_BYTES) :
    Program.Run PeerSocket.answers socket (readProto proto fd)
      (.raised (.runtimeError
        ("Invalid size (<0 or >128 MB): " ++ toString (frameLength socket.incoming))))
      (socket.advanced (socket.incoming.drop 8)) := by
  have headerRun := readAll_succeeds fd (List.take_append_drop 8 socket.incoming).symm
  rw [List.length_take, Nat.min_eq_left long] at headerRun
  have lengthEq : toInt64 (littleEndianValue (socket.incoming.take 8)) =
      frameLength socket.incoming := rfl
  apply headerRun.bind
  rw [readProtoBody, lengthEq, if_pos invalid]
  exact .raise _ _

/-- `writeProto` returns or throws what the recovery code catches, unless its
message is above the limit. -/
theorem writeProto_run {message : α} {outcome : Outcome Exn Unit}
    (fits : (proto.serialize message).length ≤ MAX_PROTO_BYTES)
    (run : Program.Run PeerSocket.answers socket (writeProto proto fd message) outcome
      after) :
    after.incoming = socket.incoming ∧
      (outcome = .returned () ∨ ∃ what, outcome = .raised (.runtimeError what)) := by
  unfold writeProto at run
  simp only at run
  rw [if_neg (by omega)] at run
  rcases Program.run_bind_iff.mp run with
    ⟨value, between, first, second⟩ | ⟨exn, rfl, first⟩ | ⟨what, rfl, first⟩
  · obtain ⟨kept, _⟩ := writeAllOrThrow_run first
    split at second
    · obtain ⟨keptAgain, ended⟩ := writeAllOrThrow_run second
      exact ⟨keptAgain.trans kept, ended⟩
    · obtain ⟨rfl, rfl⟩ := Program.run_done_iff.mp second
      exact ⟨kept, Or.inl rfl⟩
  · exact writeAllOrThrow_run first
  · exact writeAllOrThrow_run first

theorem writeProto_outgoing {message : α} {outcome : Outcome Exn Unit}
    (run : Program.Run PeerSocket.answers socket (writeProto proto fd message) outcome
      after) :
    ∃ handed, handed <+: protoFrame (proto.serialize message) ∧
      after.outgoing = socket.outgoing ++ handed := by
  unfold writeProto at run
  simp only at run
  split at run
  · obtain ⟨_, rfl⟩ := Program.run_abort_iff.mp run
    exact ⟨[], List.nil_prefix, by rw [List.append_nil]⟩
  · have lengthFirst : littleEndian 8 (proto.serialize message).length <+:
        protoFrame (proto.serialize message) := List.prefix_append _ _
    rcases Program.run_bind_iff.mp run with
      ⟨_, between, first, second⟩ | ⟨_, rfl, first⟩ | ⟨_, rfl, first⟩
    · have firstWritten := writeAllOrThrow_written first
      split at second
      · obtain ⟨handed, isPrefix, outgoing⟩ := writeAllOrThrow_outgoing second
        refine ⟨_, (List.prefix_append_right_inj _).mpr isPrefix, ?_⟩
        rw [outgoing, firstWritten, List.append_assoc]
      · obtain ⟨_, rfl⟩ := Program.run_done_iff.mp second
        exact ⟨_, lengthFirst, firstWritten⟩
    · obtain ⟨handed, isPrefix, outgoing⟩ := writeAllOrThrow_outgoing first
      exact ⟨handed, isPrefix.trans lengthFirst, outgoing⟩
    · obtain ⟨handed, isPrefix, outgoing⟩ := writeAllOrThrow_outgoing first
      exact ⟨handed, isPrefix.trans lengthFirst, outgoing⟩

theorem writeProto_raised {message : α} {exn : Exn}
    (fits : (proto.serialize message).length ≤ MAX_PROTO_BYTES)
    (run : Program.Run PeerSocket.answers socket (writeProto proto fd message) (.raised exn)
      after) :
    ∃ what, exn = .runtimeError what := by
  rcases (writeProto_run fits run).2 with impossible | ⟨what, raised⟩
  · cases impossible
  · cases raised
    exact ⟨what, rfl⟩

theorem writeProto_not_aborted {message : α} {what : String}
    (fits : (proto.serialize message).length ≤ MAX_PROTO_BYTES)
    (run : Program.Run PeerSocket.answers socket (writeProto proto fd message)
      (.aborted what) after) : False := by
  rcases (writeProto_run fits run).2 with impossible | ⟨_, impossible⟩
  · cases impossible
  · cases impossible

theorem writeProto_succeeds (fd : Fd) (socket : PeerSocket) {message : α}
    (fits : (proto.serialize message).length ≤ MAX_PROTO_BYTES) :
    Program.Run PeerSocket.answers socket (writeProto proto fd message) (.returned ())
      (socket.written (protoFrame (proto.serialize message))) := by
  unfold writeProto
  simp only
  rw [if_neg (by omega)]
  apply (writeAllOrThrow_succeeds fd socket _).bind
  by_cases nonempty : (proto.serialize message).length > 0
  · rw [if_pos nonempty]
    have second := writeAllOrThrow_succeeds fd
      (socket.written (littleEndian 8 (proto.serialize message).length))
      (proto.serialize message)
    simp only [PeerSocket.written, List.append_assoc] at second
    exact second
  · rw [if_neg nonempty]
    have empty : proto.serialize message = [] :=
      List.length_eq_zero_iff.mp (by omega)
    apply Program.run_done_iff.mpr
    rw [empty, protoFrame, List.append_nil]
    exact ⟨rfl, rfl⟩

end SocketHandler

end EternalTerminal
