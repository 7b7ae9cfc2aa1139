/-
What `BackedReader::read` makes of a stream of frames.

The reader holds part of the first frame and the socket has more bytes of the
stream.  Whatever sizes the reads return, a call takes bytes of the first frame
only, and returns its packet exactly when they complete it.
-/

import EternalTerminal.Session.Plan

namespace EternalTerminal

open Library

namespace BackedReader

/-- `partialMessage` holds less than the first of the frames that follow. -/
def Unfinished (partialMessage : Bytes) (ahead : List Packet) : Prop :=
  ∀ first rest, ahead = first :: rest →
    partialMessage.length < (BackedWriter.frame first).length

/-- The frames that follow are readable: the first one is sealed at the nonce
the reader is at, and an `int` holds its length. -/
def Readable (box : SecretBox) (reader : BackedReader) (ahead : List Packet) : Prop :=
  ∀ first rest, ahead = first :: rest →
    (BackedWriter.frame first).length < 2 ^ 31 ∧
    ∃ packet : Packet, packet.encrypted = false ∧
      first = packet.sealed box reader.cryptoHandler

variable {box : SecretBox} {reader : BackedReader}

theorem frame_take_four {first : Packet} {partialMessage rest : Bytes}
    (isPrefix : partialMessage <+: BackedWriter.frame first ++ rest)
    (header : 4 ≤ partialMessage.length) :
    partialMessage.take 4 = bigEndian 4 first.length := by
  obtain ⟨left, whole⟩ := isPrefix
  have taken := congrArg (List.take 4) whole
  rw [List.take_append_of_le_length header, BackedWriter.frame, List.append_assoc,
    List.take_left' (by simp)] at taken
  exact taken

/-- The length of the first frame, once its header is complete. -/
theorem getPartialMessageLength_eq {first : Packet} {partialMessage rest : Bytes}
    (isPrefix : partialMessage <+: BackedWriter.frame first ++ rest)
    (header : 4 ≤ partialMessage.length)
    (short : (BackedWriter.frame first).length < 2 ^ 31) :
    getPartialMessageLength partialMessage = first.length := by
  rw [BackedWriter.frame_length] at short
  rw [getPartialMessageLength, frame_take_four isPrefix header,
    bigEndianValue_bigEndian, Nat.mod_eq_of_lt (by omega)]
  exact toInt32_natCast_eq_self (by omega)

def advanced (reader : BackedReader) : BackedReader :=
  { reader with
    cryptoHandler := reader.cryptoHandler.incrementNonce
    partialMessage := []
    sequenceNumber := reader.sequenceNumber + 1 }

def extended (reader : BackedReader) (got : Bytes) : BackedReader :=
  { reader with partialMessage := reader.partialMessage ++ got }

theorem constructPartialMessage_frame {packet : Packet}
    (plain : packet.encrypted = false)
    (whole : reader.partialMessage =
      BackedWriter.frame (packet.sealed box reader.cryptoHandler))
    (short : (BackedWriter.frame
      (packet.sealed box reader.cryptoHandler)).length < 2 ^ 31) :
    reader.constructPartialMessage box = .done (.packet packet, reader.advanced) := by
  have isPrefix : reader.partialMessage <+:
      BackedWriter.frame (packet.sealed box reader.cryptoHandler) ++ [] := by
    rw [whole, List.append_nil]
  have lengthEq := getPartialMessageLength_eq isPrefix
    (by rw [whole, BackedWriter.frame_length]; omega) short
  have partialLength : toInt32 reader.partialMessage.length - 4 =
      ((packet.sealed box reader.cryptoHandler).length : Int) := by
    rw [whole, toInt32_natCast_eq_self short, BackedWriter.frame_length]
    push_cast
    ring
  have content : (reader.partialMessage.drop 4).take
      (packet.sealed box reader.cryptoHandler).length =
        (packet.sealed box reader.cryptoHandler).serialize := by
    rw [whole, BackedWriter.frame, List.drop_left' (by simp),
      List.take_of_length_le (by simp)]
  unfold constructPartialMessage
  simp only
  rw [partialLength, lengthEq, if_neg (by simp), Int.toNat_natCast, content,
    Packet.deserialize_serialize, Program.done_bind, Packet.decrypt_sealed box _ packet plain]
  rfl

/-- What a call to `read` on a live socket can have done. -/
inductive ReadOutcome (box : SecretBox) (reader : BackedReader) (ahead : List Packet)
    (got : Bytes) : Outcome Exn (ReadResult × BackedReader) → Prop
  | failed (errno : Errno) :
      Unfinished (reader.partialMessage ++ got) ahead →
      ReadOutcome box reader ahead got (.returned (.error errno, reader.extended got))
  | incomplete :
      Unfinished (reader.partialMessage ++ got) ahead →
      ReadOutcome box reader ahead got (.returned (.incomplete, reader.extended got))
  | packet {packet : Packet} {rest : List Packet} :
      packet.encrypted = false →
      ahead = packet.sealed box reader.cryptoHandler :: rest →
      reader.partialMessage ++ got =
        BackedWriter.frame (packet.sealed box reader.cryptoHandler) →
      ReadOutcome box reader ahead got (.returned (.packet packet, reader.advanced))

section Runs

variable {side : Side} {wires after : Wires} {fd : Fd} {ahead : List Packet}
  {outcome : Outcome Exn (ReadResult × BackedReader)}

theorem extended_nil : reader.extended [] = reader := by
  simp only [extended, List.append_nil]

theorem extended_extended (first second : Bytes) :
    (reader.extended first).extended second = reader.extended (first ++ second) := by
  simp only [extended, List.append_assoc]

/-- The outcome of a call that went on after taking `first`. -/
theorem ReadOutcome.of_extended {first second : Bytes}
    (result : ReadOutcome box (reader.extended first) ahead second outcome) :
    ReadOutcome box reader ahead (first ++ second) outcome := by
  cases result with
  | failed errno unfinished =>
      rw [extended_extended]
      refine .failed errno ?_
      rw [← List.append_assoc]
      exact unfinished
  | incomplete unfinished =>
      rw [extended_extended]
      refine .incomplete ?_
      rw [← List.append_assoc]
      exact unfinished
  | packet plain shape whole =>
      refine .packet plain shape ?_
      rw [← List.append_assoc]
      exact whole

theorem read_run {β : Type} {count : Nat} {next : ReadAnswer → Action β}
    {result : Outcome Exn β}
    (run : Program.Run (Wires.answers side) wires
      (SocketHandler.read fd count >>= next) result after) :
    (∃ bytes, bytes ≠ [] ∧ bytes.length ≤ count ∧
      bytes <+: (wires fd side.other).available ∧
      Program.Run (Wires.answers side)
        (wires.update fd side.other (·.take bytes.length)) (next (.data bytes))
        result after) ∨
    Program.Run (Wires.answers side) wires (next .closed) result after ∨
    ∃ errno, Program.Run (Wires.answers side) wires (next (.failed errno)) result
      after := by
  obtain ⟨answer, between, answered, rest⟩ := Program.run_perform_iff.mp run
  cases answer with
  | data bytes =>
      obtain ⟨nonempty, bound, isPrefix, rfl⟩ := answered
      exact Or.inl ⟨bytes, nonempty, bound, isPrefix, rest⟩
  | closed =>
      cases answered
      exact Or.inr (Or.inl rest)
  | failed errno =>
      cases answered
      exact Or.inr (Or.inr ⟨errno, rest⟩)

/-- After `bytes` were taken the rest is available. -/
theorem available_taken {bytes : Bytes}
    (isPrefix : bytes <+: (wires fd side.other).available) :
    bytes ++ ((wires.update fd side.other (·.take bytes.length)) fd
      side.other).available = (wires fd side.other).available := by
  obtain ⟨rest, whole⟩ := isPrefix
  rw [Wires.update_same]
  have shifted : ((wires fd side.other).take bytes.length).available =
      (wires fd side.other).available.drop bytes.length := by
    simp only [Stream.available, Stream.take, Stream.delivered, List.drop_drop]
  rw [shifted, ← whole, List.drop_left]

theorem readBody_run
    (run : Program.Run (Wires.answers side) wires (reader.readBody box fd) outcome after)
    (stream : reader.partialMessage ++ (wires fd side.other).available <+: frames ahead)
    (header : 4 ≤ reader.partialMessage.length)
    (unfinished : Unfinished reader.partialMessage ahead)
    (readable : Readable box reader ahead) :
    ∃ got, got <+: (wires fd side.other).available ∧
      after = wires.update fd side.other (·.take got.length) ∧
      ReadOutcome box reader ahead got outcome := by
  cases ahead with
  | nil =>
      have bound := stream.length_le
      simp only [frames_nil, List.length_append, List.length_nil] at bound
      omega
  | cons first rest =>
      obtain ⟨short, packet, plain, shape⟩ := readable first rest rfl
      have less := unfinished first rest rfl
      have lengthEq := getPartialMessageLength_eq
        ((List.prefix_append _ _).trans stream) header short
      rw [BackedWriter.frame_length] at less short
      have remainder : toInt32 ((first.length : Int) -
          ((reader.partialMessage.length : Int) - 4)) =
            ((4 + first.length - reader.partialMessage.length : Nat) : Int) := by
        rw [toInt32_eq_self (by omega) (by omega)]
        omega
      unfold readBody at run
      simp only [lengthEq, remainder] at run
      rw [if_pos (by omega), if_neg (by omega), Int.toNat_natCast] at run
      rcases read_run run with ⟨bytes, _, bound, isPrefix, next⟩ | next | ⟨errno, next⟩
      · refine ⟨bytes, isPrefix, ?_⟩
        have inFrame : reader.partialMessage ++ bytes <+:
            BackedWriter.frame first ++ frames rest := by
          have some : reader.partialMessage ++ bytes <+:
              reader.partialMessage ++ (wires fd side.other).available :=
            (List.prefix_append_right_inj _).mpr isPrefix
          exact some.trans stream
        simp only at next
        by_cases last : bytes.length = 4 + first.length - reader.partialMessage.length
        · rw [if_pos (by omega)] at next
          have whole : reader.partialMessage ++ bytes = BackedWriter.frame first := by
            apply List.IsPrefix.eq_of_length
            · exact List.prefix_of_prefix_length_le inFrame (List.prefix_append _ _)
                (by simp; omega)
            · simp
              omega
          rw [shape] at whole
          have constructed : (reader.extended bytes).constructPartialMessage box =
              .done (.packet packet, (reader.extended bytes).advanced) :=
            constructPartialMessage_frame plain whole
              (by rw [BackedWriter.frame_length]; rw [shape] at short; exact short)
          rw [show ({ reader with partialMessage := reader.partialMessage ++ bytes } :
            BackedReader) = reader.extended bytes from rfl, constructed] at next
          obtain ⟨rfl, rfl⟩ := Program.run_done_iff.mp next
          exact ⟨rfl, .packet plain (by rw [shape]) whole⟩
        · rw [if_neg (by omega)] at next
          obtain ⟨rfl, rfl⟩ := Program.run_done_iff.mp next
          refine ⟨rfl, .incomplete ?_⟩
          intro other others same
          cases same
          simp only [List.length_append, BackedWriter.frame_length]
          omega
      · obtain ⟨rfl, rfl⟩ := Program.run_done_iff.mp next
        refine ⟨[], List.nil_prefix, (Wires.update_take_zero _ _ _).symm, ?_⟩
        have failed : ReadOutcome box reader (first :: rest) []
            (.returned (.error .epipe, reader.extended [])) :=
          .failed .epipe (by rw [List.append_nil]; exact unfinished)
        rwa [extended_nil] at failed
      · obtain ⟨rfl, rfl⟩ := Program.run_done_iff.mp next
        refine ⟨[], List.nil_prefix, (Wires.update_take_zero _ _ _).symm, ?_⟩
        have failed : ReadOutcome box reader (first :: rest) []
            (.returned (.error errno, reader.extended [])) :=
          .failed errno (by rw [List.append_nil]; exact unfinished)
        rwa [extended_nil] at failed

theorem readSocket_run
    (run : Program.Run (Wires.answers side) wires (reader.readSocket box fd) outcome after)
    (stream : reader.partialMessage ++ (wires fd side.other).available <+: frames ahead)
    (unfinished : Unfinished reader.partialMessage ahead)
    (readable : Readable box reader ahead) :
    ∃ got, got <+: (wires fd side.other).available ∧
      after = wires.update fd side.other (·.take got.length) ∧
      ReadOutcome box reader ahead got outcome := by
  unfold readSocket at run
  by_cases header : reader.partialMessage.length < 4
  · rw [if_pos header] at run
    rcases read_run run with ⟨bytes, _, bound, isPrefix, next⟩ | next | ⟨errno, next⟩
    · -- bytes of the header arrived
      have stillUnfinished : Unfinished (reader.partialMessage ++ bytes) ahead := by
        intro first rest _
        rw [BackedWriter.frame_length, List.length_append, Packet.length,
          Packet.HEADER_SIZE]
        omega
      have rejoined := available_taken isPrefix
      simp only at next
      by_cases stillShort : (reader.partialMessage ++ bytes).length < 4
      · rw [if_pos stillShort] at next
        obtain ⟨rfl, rfl⟩ := Program.run_done_iff.mp next
        exact ⟨bytes, isPrefix, rfl, .incomplete stillUnfinished⟩
      · rw [if_neg stillShort] at next
        have goesOn : (reader.extended bytes).partialMessage ++
            ((wires.update fd side.other (·.take bytes.length)) fd
              side.other).available <+: frames ahead := by
          rw [extended, List.append_assoc, rejoined]
          exact stream
        have header : 4 ≤ (reader.extended bytes).partialMessage.length := by
          simp only [extended]
          omega
        obtain ⟨got, gotPrefix, rfl, result⟩ :=
          readBody_run next goesOn header stillUnfinished readable
        refine ⟨bytes ++ got, ?_, ?_, result.of_extended⟩
        · rw [← rejoined]
          exact (List.prefix_append_right_inj _).mpr gotPrefix
        · rw [Wires.update_update]
          simp only [Stream.take, List.length_append, Nat.add_assoc]
    · obtain ⟨rfl, rfl⟩ := Program.run_done_iff.mp next
      refine ⟨[], List.nil_prefix, (Wires.update_take_zero _ _ _).symm, ?_⟩
      have failed : ReadOutcome box reader ahead []
          (.returned (.error .epipe, reader.extended [])) :=
        .failed .epipe (by rw [List.append_nil]; exact unfinished)
      rwa [extended_nil] at failed
    · obtain ⟨rfl, rfl⟩ := Program.run_done_iff.mp next
      refine ⟨[], List.nil_prefix, (Wires.update_take_zero _ _ _).symm, ?_⟩
      have failed : ReadOutcome box reader ahead []
          (.returned (.error errno, reader.extended [])) :=
        .failed errno (by rw [List.append_nil]; exact unfinished)
      rwa [extended_nil] at failed
  · rw [if_neg header] at run
    exact readBody_run run stream (by omega) unfinished readable

/-- A socket read that delivers `bytes`. -/
theorem run_read {β : Type} {count : Nat} {next : ReadAnswer → Action β}
    {result : Outcome Exn β} {bytes : Bytes} (nonempty : bytes ≠ [])
    (bound : bytes.length ≤ count) (isPrefix : bytes <+: (wires fd side.other).available)
    (rest : Program.Run (Wires.answers side)
      (wires.update fd side.other (·.take bytes.length)) (next (.data bytes)) result
      after) :
    Program.Run (Wires.answers side) wires (SocketHandler.read fd count >>= next) result
      after :=
  Program.run_perform_iff.mpr
    ⟨.data bytes, _, ⟨nonempty, bound, isPrefix, rfl⟩, rest⟩

/-- A frame that is there in full can be read in two socket reads. -/
theorem readSocket_frame {packet : Packet} {image : Bytes}
    (plain : packet.encrypted = false)
    (imageEq : BackedWriter.frame (packet.sealed box reader.cryptoHandler) = image)
    (short : image.length < 2 ^ 31)
    (empty : reader.partialMessage = [])
    (isPrefix : image <+: (wires fd side.other).available) :
    Program.Run (Wires.answers side) wires (reader.readSocket box fd)
      (.returned (.packet packet, reader.advanced))
      (wires.update fd side.other (·.take image.length)) := by
  have lengthEq : image.length = 4 + (packet.sealed box reader.cryptoHandler).length := by
    rw [← imageEq, BackedWriter.frame_length]
  have headerLength : (image.take 4).length = 4 := by
    rw [List.length_take]
    omega
  have bodyLength : (image.drop 4).length =
      (packet.sealed box reader.cryptoHandler).length := by
    rw [List.length_drop]
    omega
  have positive : 0 < (packet.sealed box reader.cryptoHandler).length := by
    rw [Packet.length, Packet.HEADER_SIZE]
    omega
  have headerPrefix : image.take 4 <+: (wires fd side.other).available :=
    (List.take_prefix _ _).trans isPrefix
  have bodyPrefix : image.drop 4 <+:
      ((wires.update fd side.other (·.take (image.take 4).length)) fd
        side.other).available := by
    have rejoined := available_taken headerPrefix
    apply (List.prefix_append_right_inj (image.take 4)).mp
    rw [List.take_append_drop, rejoined]
    exact isPrefix
  have imagePrefix : image.take 4 <+:
      BackedWriter.frame (packet.sealed box reader.cryptoHandler) ++ [] := by
    rw [imageEq, List.append_nil]
    exact List.take_prefix _ _
  have messageLength := getPartialMessageLength_eq imagePrefix (by omega)
    (by rw [imageEq]; exact short)
  have constructed : (reader.extended image).constructPartialMessage box =
      .done (.packet packet, (reader.extended image).advanced) :=
    constructPartialMessage_frame plain
      (by rw [extended, empty, List.nil_append]; exact imageEq.symm)
      (by rw [show (reader.extended image).cryptoHandler = reader.cryptoHandler from rfl,
        imageEq]; exact short)
  have remainder : toInt32 (((packet.sealed box reader.cryptoHandler).length : Int) -
      ((4 : Int) - 4)) = (packet.sealed box reader.cryptoHandler).length := by
    rw [toInt32_eq_self (by omega) (by omega)]
    omega
  unfold readSocket
  rw [if_pos (by rw [empty]; simp)]
  refine run_read (List.ne_nil_of_length_pos (by omega)) (by rw [empty, headerLength]; simp)
    headerPrefix ?_
  simp only [empty, List.nil_append]
  rw [if_neg (by omega)]
  unfold readBody
  simp only [messageLength, headerLength, Nat.cast_ofNat, remainder]
  rw [if_pos (by omega), if_neg (by omega), Int.toNat_natCast]
  rw [headerLength] at bodyPrefix
  have bodyNonempty : image.drop 4 ≠ [] := List.ne_nil_of_length_pos (by omega)
  refine run_read bodyNonempty (Nat.le_of_eq bodyLength) bodyPrefix ?_
  simp only [List.take_append_drop]
  rw [if_pos (by omega)]
  have sameReader : ({ reader with partialMessage := image } : BackedReader) =
      reader.extended image := by
    rw [extended, empty, List.nil_append]
  have takenTwice : (fun stream : Stream => (stream.take 4).take (image.drop 4).length) =
      fun stream => stream.take image.length := by
    funext stream
    simp only [Stream.take, bodyLength, lengthEq]
    rw [Nat.add_assoc]
  rw [sameReader, constructed, Wires.update_update, takenTwice]
  exact .done _ _

end Runs

end BackedReader

end EternalTerminal
