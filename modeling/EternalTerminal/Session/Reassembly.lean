/-
Frames come back together however the socket cuts the stream.

A writer puts its packets on a conduit, and a reader at the same nonce takes them off again.
The header holds an `int`, so this works for frames below 2^31 bytes.
-/

import EternalTerminal.Session.ByteReading

namespace EternalTerminal

open Library

/-- What `crypto_secretbox_open_easy` promises of the length of its result. -/
def SecretBox.KeepsLength (box : SecretBox) : Prop :=
  ∀ key nonce sealed plain, box.openEasy key nonce sealed = some plain →
    sealed.length = plain.length + crypto_secretbox_MACBYTES

/-- The packets as a writer at this nonce seals them. -/
def sealedFrom (box : SecretBox) : CryptoHandler → List Packet → List Packet
  | _, [] => []
  | handler, packet :: rest =>
      packet.sealed box handler :: sealedFrom box handler.incrementNonce rest

namespace BackedWriter

def writePackets (box : SecretBox) : List Packet → BackedWriter → Action BackedWriter
  | [], writer => pure writer
  | packet :: rest, writer => do
      let (_, writer) ← writer.write box packet
      writePackets box rest writer

variable {box : SecretBox} {writer written : BackedWriter} {conduit after : Conduit}

theorem write_conduit {packet : Packet} {state : BackedWriterWriteState}
    (connected : writer.socketFd ≠ none)
    (run : Program.Run (Conduit.answers False) conduit (writer.write box packet)
      (.returned (state, written)) after) :
    packet.encrypted = false ∧ written = writer.accept box packet ∧
      after = conduit.append (frame (packet.sealed box writer.cryptoHandler)) := by
  obtain ⟨fd, isFd⟩ := Option.ne_none_iff_exists'.mp connected
  have admitted : writer.admits packet = true := by simp [admits, isFd]
  cases plain : packet.encrypted with
  | true =>
      rw [write_encrypted box writer packet admitted plain] at run
      cases run
  | false =>
      rw [write_admitted box writer packet admitted plain, isFd] at run
      rcases Program.run_bind_iff.mp run with
        ⟨_, between, transmitted, ended⟩ | ⟨_, impossible, _⟩ | ⟨_, impossible, _⟩
      · obtain ⟨same, rfl⟩ := Program.run_done_iff.mp ended
        cases same
        obtain ⟨answer, later, answered, ended⟩ := Program.run_perform_iff.mp transmitted
        cases answer with
        | ok done =>
            obtain ⟨_, rfl⟩ := Program.run_done_iff.mp ended
            exact ⟨rfl, rfl, answered⟩
        | error what => exact answered.1.elim
      · cases impossible
      · cases impossible

theorem accept_socketFd (packet : Packet) :
    (writer.accept box packet).socketFd = writer.socketFd :=
  backup_socketFd _ _ _

theorem accept_cryptoHandler (packet : Packet) :
    (writer.accept box packet).cryptoHandler = writer.cryptoHandler.incrementNonce :=
  backup_cryptoHandler _ _ _

theorem writePackets_run {packets : List Packet} (connected : writer.socketFd ≠ none)
    (run : Program.Run (Conduit.answers False) conduit (writePackets box packets writer)
      (.returned written) after) :
    (∀ packet ∈ packets, packet.encrypted = false) ∧
      after = conduit.append (frames (sealedFrom box writer.cryptoHandler packets)) := by
  induction packets generalizing writer conduit with
  | nil =>
      obtain ⟨_, rfl⟩ := Program.run_done_iff.mp run
      exact ⟨by simp, by simp [Conduit.append, sealedFrom]⟩
  | cons packet rest ih =>
      rcases Program.run_bind_iff.mp run with
        ⟨⟨state, next⟩, between, first, later⟩ | ⟨_, impossible, _⟩ | ⟨_, impossible, _⟩
      · obtain ⟨plain, rfl, rfl⟩ := write_conduit connected first
        obtain ⟨allPlain, rfl⟩ := ih (by rw [accept_socketFd]; exact connected) later
        refine ⟨?_, ?_⟩
        · intro other member
          rcases List.mem_cons.mp member with rfl | inRest
          · exact plain
          · exact allPlain other inRest
        · rw [accept_cryptoHandler, sealedFrom, frames_cons]
          simp [Conduit.append]
      · cases impossible
      · cases impossible

theorem run_writePackets (box : SecretBox) (writer : BackedWriter) (conduit : Conduit)
    {packets : List Packet} (connected : writer.socketFd ≠ none)
    (plain : ∀ packet ∈ packets, packet.encrypted = false) :
    ∃ written, Program.Run (Conduit.answers False) conduit (writePackets box packets writer)
      (.returned written) (conduit.append (frames (sealedFrom box writer.cryptoHandler packets)))
      := by
  induction packets generalizing writer conduit with
  | nil => exact ⟨writer, by simpa [Conduit.append, sealedFrom] using .done conduit writer⟩
  | cons packet rest ih =>
      obtain ⟨fd, isFd⟩ := Option.ne_none_iff_exists'.mp connected
      have admitted : writer.admits packet = true := by simp [admits, isFd]
      obtain ⟨written, later⟩ := ih (writer.accept box packet)
        (conduit.append (frame (packet.sealed box writer.cryptoHandler)))
        (by rw [accept_socketFd]; exact connected)
        (fun other member => plain other (List.mem_cons_of_mem _ member))
      refine ⟨written, ?_⟩
      rw [accept_cryptoHandler, Conduit.append_append, ← frames_cons] at later
      rw [writePackets, write_admitted box writer packet admitted
        (plain packet List.mem_cons_self), isFd]
      exact Program.run_perform_iff.mpr ⟨.ok (), _, rfl, later⟩

end BackedWriter

/-! ### A run of reads -/

def ReadResult.returned : ReadResult → Option Packet
  | .packet opened => some opened
  | _ => none

def packetsOf (results : List ReadResult) : List Packet :=
  results.filterMap ReadResult.returned

def frameLength (packet : Packet) : Nat :=
  4 + packet.length + crypto_secretbox_MACBYTES

/-- Where the frame ends that follows the first `count`. -/
def frameEnd (packets : List Packet) (count : Nat) : Nat :=
  ((packets.take (count + 1)).map frameLength).sum

@[simp] theorem packetsOf_packet (packet : Packet) (results : List ReadResult) :
    packetsOf (.packet packet :: results) = packet :: packetsOf results := rfl

theorem frameEnd_append_cons (before : List Packet) (packet : Packet) (rest : List Packet) :
    frameEnd (before ++ packet :: rest) before.length =
      (before.map frameLength).sum + frameLength packet := by
  rw [frameEnd, List.take_length_add_append]
  simp

namespace BackedReader

/-- Calls of `read` that return, with their results. -/
inductive Reads (box : SecretBox) :
    BackedReader → Conduit → List ReadResult → BackedReader → Conduit → Prop
  | nil (reader : BackedReader) (conduit : Conduit) : Reads box reader conduit [] reader conduit
  | cons {reader between after : BackedReader} {conduit middle last : Conduit}
      {result : ReadResult} {results : List ReadResult} :
      Program.Run (Conduit.answers False) conduit (reader.read box)
        (.returned (result, between)) middle →
      Reads box between middle results after last →
      Reads box reader conduit (result :: results) after last

/-- Every call returns 0 or 1 and asks for nothing beyond its frame, the packets come back in
order, and all of them have when the bytes have been consumed; until then a call can go on. -/
structure Reassembles (box : SecretBox) (reader : BackedReader) (conduit : Conduit)
    (packets : List Packet) : Prop where
  zero_or_one {results : List ReadResult} {middle : BackedReader} {between last : Conduit}
      {outcome : Outcome Exn (ReadResult × BackedReader)} :
      Reads box reader conduit results middle between →
      Program.Run (Conduit.answers False) between (middle.read box) outcome last →
      ∃ result after, outcome = .returned (result, after) ∧
        (result = .incomplete ∨ ∃ packet, result = .packet packet)
  within {results : List ReadResult} {middle : BackedReader} {between last : Conduit}
      {outcome : Outcome Exn (ReadResult × BackedReader)} :
      Reads box reader conduit results middle between →
      Program.Run (Conduit.answers False) between (middle.read box) outcome last →
      last.reach ≤ conduit.taken + frameEnd packets (packetsOf results).length
  in_order {results : List ReadResult} {middle : BackedReader} {between : Conduit} :
      Reads box reader conduit results middle between → packetsOf results <+: packets
  drained {results : List ReadResult} {middle : BackedReader} {between : Conduit} :
      Reads box reader conduit results middle between → between.bytes = [] →
      packetsOf results = packets ∧ middle.partialMessage = []
  goes_on {results : List ReadResult} {middle : BackedReader} {between : Conduit} :
      Reads box reader conduit results middle between → between.bytes ≠ [] →
      ∃ outcome last, Program.Run (Conduit.answers False) between (middle.read box) outcome last

/-- The frames that the reader has before it; the first of them begins at `start`. -/
structure Ahead (box : SecretBox) (start : Nat) (packets : List Packet)
    (reader : BackedReader) (conduit : Conduit) : Prop where
  attached : reader.socketFd ≠ none
  unbuffered : reader.localBuffer = []
  plain : ∀ packet ∈ packets, packet.encrypted = false
  stream : reader.partialMessage ++ conduit.bytes =
    frames (sealedFrom box reader.cryptoHandler packets)
  waiting : Waiting reader.partialMessage
  position : conduit.taken = start + reader.partialMessage.length
  reach : conduit.reach ≤ start + wanted reader.partialMessage

variable {box : SecretBox} {reader middle : BackedReader} {conduit between last : Conduit}
  {start : Nat} {packet : Packet} {rest packets : List Packet}
  {outcome : Outcome Exn (ReadResult × BackedReader)} {results : List ReadResult}

theorem frame_sealed_length (box : SecretBox) (handler : CryptoHandler) (packet : Packet) :
    (BackedWriter.frame (packet.sealed box handler)).length = frameLength packet := by
  rw [BackedWriter.frame_length, Packet.sealed_length, frameLength, Nat.add_assoc]

theorem Authentic.length {handler : CryptoHandler} {serialized : Bytes}
    (authentic : Authentic box handler serialized packet) (keeps : box.KeepsLength) :
    serialized.length = packet.length + crypto_secretbox_MACBYTES := by
  obtain ⟨encrypted, sealed, rfl, opened⟩ := authentic
  rw [List.length_cons, List.length_cons, keeps _ _ _ _ opened, Packet.length,
    Packet.HEADER_SIZE]
  omega

theorem Acceptable.of_done {after : BackedReader}
    (constructed : constructPartialMessage box reader = .done (.packet packet, after)) :
    Acceptable box reader.cryptoHandler reader.partialMessage := by
  rcases constructPartialMessage_eq box reader with
    ⟨complete, opens, _⟩ | ⟨_, ⟨exn, raised, _⟩ | ⟨message, aborted⟩⟩
  · exact ⟨complete, opens⟩
  · rw [raised] at constructed
    cases constructed
  · rw [aborted] at constructed
    cases constructed

namespace Ahead

/-- What the reader has of the first frame, and what is on the conduit, go together. -/
theorem isPrefix (ahead : Ahead box start (packet :: rest) reader conduit) {got left : Bytes}
    (split : conduit.bytes = got ++ left) :
    reader.partialMessage ++ got <+:
      BackedWriter.frame (packet.sealed box reader.cryptoHandler) ++
        frames (sealedFrom box reader.cryptoHandler.incrementNonce rest) := by
  have stream := ahead.stream
  rw [split, sealedFrom, frames_cons, ← List.append_assoc] at stream
  exact ⟨left, stream⟩

/-- Once its header is there, the first message has the length of its packet. -/
theorem messageLength (ahead : Ahead box start (packet :: rest) reader conduit)
    (short : frameLength packet < 2 ^ 31) {got left : Bytes}
    (split : conduit.bytes = got ++ left)
    (header : 4 ≤ (reader.partialMessage ++ got).length) :
    getPartialMessageLength (reader.partialMessage ++ got) =
      (packet.sealed box reader.cryptoHandler).length :=
  getPartialMessageLength_eq (ahead.isPrefix split) header
    (by rw [frame_sealed_length]; exact short)

theorem wanted_le (ahead : Ahead box start (packet :: rest) reader conduit)
    (short : frameLength packet < 2 ^ 31) {got left : Bytes}
    (split : conduit.bytes = got ++ left) :
    wanted (reader.partialMessage ++ got) ≤ frameLength packet := by
  by_cases header : (reader.partialMessage ++ got).length < 4
  · rw [wanted, if_pos header, frameLength, Nat.add_assoc]
    exact Nat.le_add_right 4 _
  · rw [wanted, if_neg header, ahead.messageLength short split (by omega), Int.toNat_natCast,
      Packet.sealed_length, frameLength, Nat.add_assoc]

theorem header (ahead : Ahead box start (packet :: rest) reader conduit) {got left : Bytes}
    (split : conduit.bytes = got ++ left) (header : 4 ≤ (reader.partialMessage ++ got).length) :
    getPartialMessageLength (reader.partialMessage ++ got) =
      toInt32 (packet.sealed box reader.cryptoHandler).length := by
  rw [getPartialMessageLength, frame_take_four (ahead.isPrefix split) header,
    bigEndianValue_bigEndian]
  exact toInt32_mod _

theorem cut (ahead : Ahead box start (packet :: rest) reader conduit)
    (fresh : reader.partialMessage = []) (count : Nat) (within : count ≤ frameLength packet) :
    ∃ got left, conduit.bytes = got ++ left ∧ got.length = count := by
  have stream := ahead.stream
  rw [fresh, List.nil_append, sealedFrom, frames_cons] at stream
  refine ⟨conduit.bytes.take count, conduit.bytes.drop count,
    (List.take_append_drop _ _).symm, ?_⟩
  rw [List.length_take, stream, List.length_append, frame_sealed_length]
  omega

theorem whole_frame (ahead : Ahead box start (packet :: rest) reader conduit)
    (short : frameLength packet < 2 ^ 31) {got left : Bytes}
    (split : conduit.bytes = got ++ left) (whole : Whole (reader.partialMessage ++ got)) :
    reader.partialMessage ++ got =
      BackedWriter.frame (packet.sealed box reader.cryptoHandler) := by
  have length := whole.2
  rw [ahead.messageLength short split whole.1] at length
  have sameLength : (reader.partialMessage ++ got).length =
      (BackedWriter.frame (packet.sealed box reader.cryptoHandler)).length := by
    rw [BackedWriter.frame_length]
    exact_mod_cast length
  have within := List.prefix_of_prefix_length_le (ahead.isPrefix split)
    (List.prefix_append _ _) (Nat.le_of_eq sameLength)
  exact within.eq_of_length sameLength

theorem missing (ahead : Ahead box start (packet :: rest) reader conduit)
    (short : frameLength packet < 2 ^ 31) :
    ∃ got, conduit.bytes =
        got ++ frames (sealedFrom box reader.cryptoHandler.incrementNonce rest) ∧
      Whole (reader.partialMessage ++ got) := by
  have stream := ahead.stream
  rw [sealedFrom, frames_cons] at stream
  have unfinished : reader.partialMessage.length < frameLength packet := by
    have bound := ahead.wanted_le short (List.nil_append _).symm
    rw [List.append_nil] at bound
    exact Nat.lt_of_lt_of_le ahead.waiting.lt_wanted bound
  have isPrefix := List.prefix_of_prefix_length_le ⟨conduit.bytes, stream⟩
    (List.prefix_append (BackedWriter.frame (packet.sealed box reader.cryptoHandler)) _)
    (by rw [frame_sealed_length]; exact Nat.le_of_lt unfinished)
  obtain ⟨got, rejoined⟩ := isPrefix
  rw [← rejoined, List.append_assoc] at stream
  have split := List.append_cancel_left stream
  refine ⟨got, split, ?_⟩
  have length : (reader.partialMessage ++ got).length = frameLength packet := by
    rw [rejoined, frame_sealed_length]
  have header : 4 ≤ (reader.partialMessage ++ got).length := by
    rw [length, frameLength, Nat.add_assoc]
    exact Nat.le_add_right 4 _
  refine ⟨header, ?_⟩
  rw [ahead.messageLength short split header, length, Packet.sealed_length, frameLength]
  push_cast
  ring

/-- A call that takes bytes of a short frame goes on with it or returns its packet. -/
theorem of_takes (ahead : Ahead box start (packet :: rest) reader conduit)
    (short : frameLength packet < 2 ^ 31) {got : Bytes}
    (takes : Takes False box reader conduit outcome last got) :
    last.reach ≤ start + frameLength packet ∧
      ((∃ after, outcome = .returned (.incomplete, after) ∧
          Waiting (reader.partialMessage ++ got) ∧
          Ahead box start (packet :: rest) after last) ∨
        ∃ after, outcome = .returned (.packet packet, after) ∧
          Ahead box (start + frameLength packet) rest after last) := by
  have bound := ahead.wanted_le short takes.bytes
  have reach : last.reach ≤ start + wanted (reader.partialMessage ++ got) := by
    have before := ahead.reach
    have later := takes.reach
    have position := ahead.position
    have grows : wanted reader.partialMessage ≤ wanted (reader.partialMessage ++ got) := by
      by_cases header : reader.partialMessage.length < 4
      · rw [wanted, if_pos header]
        exact four_le_wanted _
      · rw [wanted_append (by omega)]
    omega
  have position : last.taken = start + (reader.partialMessage ++ got).length := by
    rw [takes.taken, ahead.position, List.length_append, Nat.add_assoc]
  refine ⟨by omega, ?_⟩
  have ends := takes.ends
  cases ends with
  | failed errno broken _ => exact broken.elim
  | incomplete waiting =>
      left
      refine ⟨_, rfl, waiting, ?_⟩
      refine
        { attached := ahead.attached
          unbuffered := ahead.unbuffered
          plain := ahead.plain
          stream := ?_
          waiting := waiting
          position := position
          reach := reach }
      rw [extended, List.append_assoc, ← takes.bytes]
      exact ahead.stream
  | packet whole acceptable authentic constructed =>
      right
      have frame := ahead.whole_frame short takes.bytes whole
      have expected : (reader.extended got).constructPartialMessage box =
          .done (.packet packet, (reader.extended got).advanced) :=
        constructPartialMessage_frame (ahead.plain packet List.mem_cons_self) frame
          (by rw [frame_sealed_length]; exact short)
      rw [constructed] at expected
      cases expected
      refine ⟨_, rfl, ?_⟩
      refine
        { attached := ahead.attached
          unbuffered := ahead.unbuffered
          plain := fun other member => ahead.plain other (List.mem_cons_of_mem _ member)
          stream := ?_
          waiting := waiting_nil
          position := ?_
          reach := ?_ }
      · have stream := ahead.stream
        rw [takes.bytes, ← List.append_assoc, frame, sealedFrom, frames_cons] at stream
        exact List.append_cancel_left stream
      · rw [position, frame, frame_sealed_length]
        rfl
      · omega
  | negative negative _ =>
      have positive := ahead.messageLength short takes.bytes negative.1
      have below := negative.2
      omega
  | unopened whole closed _ =>
      have frame := ahead.whole_frame short takes.bytes whole
      have constructed : (reader.extended got).constructPartialMessage box =
          .done (.packet packet, (reader.extended got).advanced) :=
        constructPartialMessage_frame (ahead.plain packet List.mem_cons_self) frame
          (by rw [frame_sealed_length]; exact short)
      exact absurd (Acceptable.of_done constructed) closed

theorem step (ahead : Ahead box start packets reader conduit)
    (short : ∀ packet ∈ packets, frameLength packet < 2 ^ 31)
    (run : Program.Run (Conduit.answers False) conduit (reader.read box) outcome last) :
    ∃ packet rest, packets = packet :: rest ∧
      last.reach ≤ start + frameLength packet ∧
      ((∃ after, outcome = .returned (.incomplete, after) ∧
          Ahead box start packets after last) ∨
        ∃ after, outcome = .returned (.packet packet, after) ∧
          Ahead box (start + frameLength packet) rest after last) := by
  obtain ⟨fd, isSocket⟩ := read_attached box ahead.attached ahead.unbuffered
  rw [isSocket] at run
  obtain ⟨got, takes⟩ := readSocket_takes run ahead.waiting
  cases packets with
  | nil =>
      have progress := takes.progress not_false ahead.waiting
      have nothing := ahead.stream
      rw [sealedFrom, frames_nil, takes.bytes] at nothing
      simp [progress] at nothing
  | cons packet rest =>
      obtain ⟨reach, ⟨after, same, _, later⟩ | returned⟩ :=
        ahead.of_takes (short packet List.mem_cons_self) takes
      · exact ⟨packet, rest, rfl, reach, Or.inl ⟨after, same, later⟩⟩
      · exact ⟨packet, rest, rfl, reach, Or.inr returned⟩

theorem after_reads (ahead : Ahead box start packets reader conduit)
    (short : ∀ packet ∈ packets, frameLength packet < 2 ^ 31)
    (reads : Reads box reader conduit results middle between) :
    ∃ left, packets = packetsOf results ++ left ∧
      Ahead box (start + ((packetsOf results).map frameLength).sum) left middle between := by
  induction reads generalizing packets start with
  | nil reader conduit => exact ⟨packets, rfl, ahead⟩
  | cons run _ ih =>
      obtain ⟨packet, rest, rfl, _, ⟨after, same, next⟩ | ⟨after, same, next⟩⟩ :=
        ahead.step short run
      · cases same
        exact ih next short
      · cases same
        obtain ⟨left, split, later⟩ :=
          ih next (fun other member => short other (List.mem_cons_of_mem _ member))
        refine ⟨left, congrArg (packet :: ·) split, ?_⟩
        rw [packetsOf_packet, List.map_cons, List.sum_cons, ← Nat.add_assoc]
        exact later

/-- The rest of the first frame is on the conduit, and takes a call to its end. -/
theorem goes_on (ahead : Ahead box start packets reader conduit)
    (short : ∀ packet ∈ packets, frameLength packet < 2 ^ 31) (more : conduit.bytes ≠ []) :
    ∃ outcome last, Program.Run (Conduit.answers False) conduit (reader.read box) outcome
      last := by
  cases packets with
  | nil =>
      have nothing := ahead.stream
      rw [sealedFrom, frames_nil] at nothing
      exact absurd (List.append_eq_nil_iff.mp nothing).2 more
  | cons packet rest =>
      obtain ⟨missing, split, whole⟩ := ahead.missing (short packet List.mem_cons_self)
      obtain ⟨fd, isSocket⟩ := read_attached box ahead.attached ahead.unbuffered
      obtain ⟨outcome, last, run, _, _⟩ :=
        readSocket_completes box False fd ahead.waiting split (Or.inl whole)
      exact ⟨outcome, last, isSocket ▸ run⟩

theorem drained (ahead : Ahead box start packets reader conduit)
    (short : ∀ packet ∈ packets, frameLength packet < 2 ^ 31) (empty : conduit.bytes = []) :
    packets = [] ∧ reader.partialMessage = [] := by
  cases packets with
  | nil =>
      have nothing := ahead.stream
      rw [sealedFrom, frames_nil] at nothing
      exact ⟨rfl, (List.append_eq_nil_iff.mp nothing).1⟩
  | cons packet rest =>
      obtain ⟨missing, split, whole⟩ := ahead.missing (short packet List.mem_cons_self)
      rw [empty] at split
      obtain ⟨rfl, _⟩ := List.append_eq_nil_iff.mp split.symm
      rw [List.append_nil] at whole
      exact absurd ahead.waiting whole.not_waiting

theorem reassembles (ahead : Ahead box start packets reader conduit)
    (fresh : conduit.taken = start)
    (short : ∀ packet ∈ packets, frameLength packet < 2 ^ 31) :
    Reassembles box reader conduit packets := by
  refine
    { zero_or_one := ?_
      within := ?_
      in_order := ?_
      drained := ?_
      goes_on := ?_ }
  · intro results middle between last outcome reads run
    obtain ⟨left, rfl, later⟩ := ahead.after_reads short reads
    obtain ⟨packet, rest, _, _, ⟨after, same, _⟩ | ⟨after, same, _⟩⟩ :=
      later.step (fun other member => short other (List.mem_append_right _ member)) run
    · exact ⟨_, after, same, Or.inl rfl⟩
    · exact ⟨_, after, same, Or.inr ⟨packet, rfl⟩⟩
  · intro results middle between last outcome reads run
    obtain ⟨left, rfl, later⟩ := ahead.after_reads short reads
    obtain ⟨packet, rest, rfl, reach, _⟩ :=
      later.step (fun other member => short other (List.mem_append_right _ member)) run
    rw [fresh, frameEnd_append_cons, ← Nat.add_assoc]
    exact reach
  · intro results middle between reads
    obtain ⟨left, rfl, _⟩ := ahead.after_reads short reads
    exact List.prefix_append _ _
  · intro results middle between reads empty
    obtain ⟨left, rfl, later⟩ := ahead.after_reads short reads
    obtain ⟨rfl, nothing⟩ :=
      later.drained (fun other member => short other (List.mem_append_right _ member)) empty
    exact ⟨(List.append_nil _).symm, nothing⟩
  · intro results middle between reads more
    obtain ⟨left, rfl, later⟩ := ahead.after_reads short reads
    exact later.goes_on
      (fun other member => short other (List.mem_append_right _ member)) more

end Ahead

/-! ### Frames that are too long -/

namespace Reassembles

theorem not_stumbles (reassembles : Reassembles box reader conduit packets)
    (run : Program.Run (Conduit.answers False) conduit (reader.read box) outcome last) :
    ¬ Stumbles outcome := by
  obtain ⟨result, after, rfl, _⟩ := reassembles.zero_or_one (.nil _ _) run
  exact not_stumbles_returned _

theorem tail {after : BackedReader}
    (reassembles : Reassembles box reader conduit (packet :: rest))
    (run : Program.Run (Conduit.answers False) conduit (reader.read box)
      (.returned (.packet packet, after)) last)
    (position : last.taken = conduit.taken + frameLength packet) :
    Reassembles box after last rest := by
  refine
    { zero_or_one := ?_
      within := ?_
      in_order := ?_
      drained := ?_
      goes_on := ?_ }
  · intro results middle between final outcome reads later
    exact reassembles.zero_or_one (.cons run reads) later
  · intro results middle between final outcome reads later
    have bound := reassembles.within (.cons run reads) later
    rw [packetsOf_packet, List.length_cons, frameEnd, List.take_succ_cons, List.map_cons,
      List.sum_cons, ← Nat.add_assoc, ← position] at bound
    exact bound
  · intro results middle between reads
    exact (List.cons_prefix_cons.mp (reassembles.in_order (.cons run reads))).2
  · intro results middle between reads empty
    obtain ⟨all, nothing⟩ := reassembles.drained (.cons run reads) empty
    exact ⟨(List.cons.inj all).2, nothing⟩
  · intro results middle between reads more
    exact reassembles.goes_on (.cons run reads) more

/-- A header that has wrapped round ends in an exception, an abort or another packet. -/
theorem head_short (keeps : box.KeepsLength)
    (ahead : Ahead box start (packet :: rest) reader conduit)
    (fresh : reader.partialMessage = [])
    (reassembles : Reassembles box reader conduit (packet :: rest)) :
    frameLength packet < 2 ^ 31 := by
  by_contra long
  have size := frame_sealed_length box reader.cryptoHandler packet
  rw [BackedWriter.frame_length] at size
  obtain ⟨fd, isSocket⟩ := read_attached box ahead.attached ahead.unbuffered
  by_cases negative : toInt32 (packet.sealed box reader.cryptoHandler).length < 0
  · obtain ⟨got, left, split, length⟩ := ahead.cut fresh 4 (by omega)
    have header : (reader.partialMessage ++ got).length = 4 := by
      rw [fresh, List.nil_append, length]
    have isNegative : Negative (reader.partialMessage ++ got) :=
      ⟨Nat.le_of_eq header.symm, by rw [ahead.header split (by omega)]; exact negative⟩
    obtain ⟨outcome, last, run, _, takes⟩ := readSocket_completes box False fd
      ahead.waiting split (Or.inr ⟨header, isNegative⟩)
    rw [← isSocket] at run
    exact reassembles.not_stumbles run (takes.ends.of_negative isNegative)
  · have fits := toInt32_le_natCast (Int.not_lt.mp negative)
    obtain ⟨got, left, split, length⟩ := ahead.cut fresh
      (4 + (toInt32 (packet.sealed box reader.cryptoHandler).length).toNat) (by omega)
    have header : 4 ≤ (reader.partialMessage ++ got).length := by
      rw [fresh, List.nil_append, length]
      exact Nat.le_add_right _ _
    have announced := ahead.header split header
    have isWhole : Whole (reader.partialMessage ++ got) := by
      refine ⟨header, ?_⟩
      rw [announced, fresh, List.nil_append, length]
      omega
    obtain ⟨outcome, last, run, _, takes⟩ := readSocket_completes box False fd
      ahead.waiting split (Or.inl isWhole)
    rw [← isSocket] at run
    rcases takes.ends.of_whole isWhole with ⟨other, rfl, acceptable, authentic⟩ | ⟨_, stumbles⟩
    · -- The box tells the packet that came back from one that was cut at the wrapped length.
      obtain ⟨rfl, _⟩ := List.cons_prefix_cons.mp
        (reassembles.in_order (.cons run (.nil _ _)))
      have content := authentic.length keeps
      rw [serializedPacket, List.length_take, List.length_drop, announced, fresh,
        List.nil_append, length] at content
      have exactly := acceptable.1
      rw [announced, fresh, List.nil_append, length] at exactly
      have below := toInt32_lt
        ((4 + (toInt32 (other.sealed box reader.cryptoHandler).length).toNat : Nat) : Int)
      rw [Packet.sealed_length] at *
      omega
    · exact reassembles.not_stumbles run stumbles

theorem all_short (keeps : box.KeepsLength) (ahead : Ahead box start packets reader conduit)
    (fresh : reader.partialMessage = [])
    (reassembles : Reassembles box reader conduit packets) :
    ∀ packet ∈ packets, frameLength packet < 2 ^ 31 := by
  induction packets generalizing start reader conduit with
  | nil => simp
  | cons packet rest ih =>
      have short := reassembles.head_short keeps ahead fresh
      obtain ⟨missing, split, whole⟩ := ahead.missing short
      obtain ⟨fd, isSocket⟩ := read_attached box ahead.attached ahead.unbuffered
      obtain ⟨outcome, last, run, _, takes⟩ :=
        readSocket_completes box False fd ahead.waiting split (Or.inl whole)
      rw [← isSocket] at run
      obtain ⟨_, ⟨after, _, waiting, _⟩ | ⟨after, same, later⟩⟩ := ahead.of_takes short takes
      · exact absurd waiting whole.not_waiting
      · rcases takes.ends.of_whole whole with ⟨other, ended, _⟩ | ⟨_, stumbles⟩
        · rw [same] at ended run
          obtain ⟨_, rfl⟩ := Prod.mk.inj (Outcome.returned.inj ended)
          have position : last.taken = conduit.taken + frameLength packet := by
            rw [later.position, ahead.position, fresh]
            rfl
          have shortRest := ih later rfl (reassembles.tail run position)
          intro other member
          rcases List.mem_cons.mp member with rfl | inRest
          · exact short
          · exact shortRest other inRest
        · rw [same] at stumbles
          exact absurd stumbles (not_stumbles_returned _)

end Reassembles

/-! ### From a writer to a reader -/

section Stream

variable {writer written : BackedWriter}

/-- What a writer has put on an empty conduit is before a reader at its nonce. -/
theorem ahead_of_written (writing : writer.socketFd ≠ none)
    (run : Program.Run (Conduit.answers False) Conduit.empty (writer.writePackets box packets)
      (.returned written) conduit)
    (reading : reader.socketFd ≠ none) (together : reader.cryptoHandler = writer.cryptoHandler)
    (unbuffered : reader.localBuffer = []) (fresh : reader.partialMessage = []) :
    Ahead box conduit.taken packets reader conduit := by
  obtain ⟨plain, rfl⟩ := BackedWriter.writePackets_run writing run
  refine
    { attached := reading
      unbuffered := unbuffered
      plain := plain
      stream := ?_
      waiting := fresh ▸ waiting_nil
      position := ?_
      reach := Nat.zero_le _ }
  · rw [fresh, together]
    rfl
  · rw [fresh]
    rfl

/-- Frames come back together, in whatever pieces the socket gives them, exactly when an
`int` holds the length of each. -/
theorem reassembles_iff (keeps : box.KeepsLength) (writing : writer.socketFd ≠ none)
    (run : Program.Run (Conduit.answers False) Conduit.empty (writer.writePackets box packets)
      (.returned written) conduit)
    (reading : reader.socketFd ≠ none) (together : reader.cryptoHandler = writer.cryptoHandler)
    (unbuffered : reader.localBuffer = []) (fresh : reader.partialMessage = []) :
    Reassembles box reader conduit packets ↔
      ∀ packet ∈ packets, frameLength packet < 2 ^ 31 := by
  have ahead := ahead_of_written writing run reading together unbuffered fresh
  constructor
  · exact fun reassembles => reassembles.all_short keeps ahead fresh
  · exact ahead.reassembles rfl

end Stream

section Example

def exampleWriter : BackedWriter :=
  BackedWriter.create (CryptoHandler.ofKey Key.zero CLIENT_SERVER_NONCE_MSB) (some 3)

def exampleReader : BackedReader :=
  BackedReader.create (CryptoHandler.ofKey Key.zero CLIENT_SERVER_NONCE_MSB) (some 4)

theorem nullCipher_keepsLength : SecretBox.nullCipher.KeepsLength := by
  intro key nonce sealed plain opened
  simp only [SecretBox.nullCipher] at opened
  split at opened
  · cases opened
  · cases opened
    rw [List.length_drop]
    omega

theorem reassembles_iff_two :
    ∃ written conduit,
      Program.Run (Conduit.answers False) Conduit.empty
        (exampleWriter.writePackets SecretBox.nullCipher
          [Packet.plain 1 [104, 105], Packet.plain 2 []]) (.returned written) conduit ∧
      Reassembles SecretBox.nullCipher exampleReader conduit
        [Packet.plain 1 [104, 105], Packet.plain 2 []] := by
  obtain ⟨written, run⟩ := BackedWriter.run_writePackets SecretBox.nullCipher exampleWriter
    Conduit.empty (by decide)
    (by decide : ∀ packet ∈ [Packet.plain 1 [104, 105], Packet.plain 2 []],
      packet.encrypted = false)
  exact ⟨written, _, run,
    (reassembles_iff nullCipher_keepsLength (by decide) run (by decide) rfl rfl rfl).mpr
      (by decide)⟩

theorem single_not_reassembled (header : UInt8) {payload : Bytes}
    (long : 2 ^ 31 ≤ payload.length) :
    ∃ written conduit,
      Program.Run (Conduit.answers False) Conduit.empty
        (exampleWriter.writePackets SecretBox.nullCipher [Packet.plain header payload])
        (.returned written) conduit ∧
      ¬ Reassembles SecretBox.nullCipher exampleReader conduit
        [Packet.plain header payload] := by
  have plain : ∀ packet ∈ [Packet.plain header payload], packet.encrypted = false := by
    intro other member
    rw [List.mem_singleton.mp member]
    rfl
  obtain ⟨written, run⟩ := BackedWriter.run_writePackets SecretBox.nullCipher exampleWriter
    Conduit.empty (by decide) plain
  refine ⟨written, _, run, ?_⟩
  intro reassembles
  have ahead : Ahead SecretBox.nullCipher _ [Packet.plain header payload] exampleReader _ :=
    ahead_of_written (by decide) run (by decide) rfl rfl rfl
  have short := reassembles.all_short nullCipher_keepsLength ahead rfl _
    (List.mem_singleton_self _)
  simp only [frameLength, Packet.length, Packet.plain] at short
  omega

/-- A payload of 2^31 bytes makes the header negative. -/
theorem wrapped_header_ends_reader :
    ∃ written conduit,
      Program.Run (Conduit.answers False) Conduit.empty
        (exampleWriter.writePackets SecretBox.nullCipher
          [Packet.plain 0 (List.replicate (2 ^ 31) 0)]) (.returned written) conduit ∧
      ¬ Reassembles SecretBox.nullCipher exampleReader conduit
        [Packet.plain 0 (List.replicate (2 ^ 31) 0)] := by
  refine single_not_reassembled 0 ?_
  rw [List.length_replicate]

end Example

end BackedReader

end EternalTerminal
