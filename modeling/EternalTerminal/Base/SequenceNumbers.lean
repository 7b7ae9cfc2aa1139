/-
The reader's count on its way through `SequenceHeader`.

The count is 64 bits wide at both ends and the field that carries it is an
`int32`.  A history pairs a reader with the number of packets that have reached
it, over any number of sockets.
-/

import EternalTerminal.Base.Connection
import EternalTerminal.Base.PeerSocket
import EternalTerminal.Base.Protobuf
import EternalTerminal.Library.TransitionSystem

namespace EternalTerminal

open Library

/-- A reader, and how many packets it was given: frames it has completed and
entries of catch-up buffers. -/
structure ReaderHistory where
  reader : BackedReader
  received : Nat

inductive ReaderEvent where
  | read
  | invalidateSocket
  | revive (newSocketFd : Fd) (entries : List Bytes)

namespace ReaderHistory

def packets : ReadResult → Nat
  | .packet _ => 1
  | _ => 0

/-- What one call to `read` takes from the socket; the packets of the local
buffer have been counted when they came in. -/
def taken (reader : BackedReader) (result : ReadResult) : Nat :=
  if reader.localBuffer.isEmpty then packets result else 0

/-- A step of a reader.  What a socket gives to a call to `read` is arbitrary. -/
inductive Step (box : SecretBox) : ReaderHistory → ReaderEvent → ReaderHistory → Prop
  | read {before : ReaderHistory} {socket after : PeerSocket} {result : ReadResult}
      {reader : BackedReader} :
      Program.Run PeerSocket.answers socket (before.reader.read box)
        (.returned (result, reader)) after →
      Step box before .read
        { reader := reader
          received := before.received + taken before.reader result }
  | invalidateSocket (before : ReaderHistory) :
      Step box before .invalidateSocket
        { before with reader := before.reader.invalidateSocket }
  | revive {before : ReaderHistory} (newSocketFd : Fd) (entries : List Bytes) :
      before.reader.socketFd = none →
      Step box before (.revive newSocketFd entries)
        { reader := before.reader.revive newSocketFd entries
          received := before.received + entries.length }

end ReaderHistory

def readerSystem (box : SecretBox) : TransitionSystem ReaderHistory ReaderEvent where
  initial history := ∃ cryptoHandler socketFd, history =
    { reader := BackedReader.create cryptoHandler socketFd
      received := 0 }
  step := ReaderHistory.Step box

namespace BackedReader

variable {box : SecretBox} {reader : BackedReader} {fd : Fd}
  {socket after : PeerSocket} {result : ReadResult} {next : BackedReader}

def Counts (reader : BackedReader) (result : ReadResult) (next : BackedReader) : Prop :=
  next.sequenceNumber = reader.sequenceNumber + ReaderHistory.packets result

theorem constructPartialMessage_counts
    (run : Program.Run PeerSocket.answers socket (reader.constructPartialMessage box)
      (.returned (result, next)) after) :
    reader.Counts result next := by
  unfold constructPartialMessage at run
  simp only at run
  split at run
  · cases run
  · rcases Program.run_bind_iff.mp run with
      ⟨packet, between, _, decryptRun⟩ | ⟨_, ⟨⟩, _⟩ | ⟨_, ⟨⟩, _⟩
    rcases Program.run_bind_iff.mp decryptRun with
      ⟨opened, later, _, ended⟩ | ⟨_, ⟨⟩, _⟩ | ⟨_, ⟨⟩, _⟩
    cases ended
    rfl

theorem readBody_counts
    (run : Program.Run PeerSocket.answers socket (reader.readBody box fd)
      (.returned (result, next)) after) :
    reader.Counts result next := by
  unfold readBody at run
  simp only at run
  split at run
  · split at run
    · cases run
    · rcases Program.run_bind_iff.mp run with
        ⟨answer, between, _, rest⟩ | ⟨_, ⟨⟩, _⟩ | ⟨_, ⟨⟩, _⟩
      cases answer with
      | data bytes =>
          simp only at rest
          split at rest
          · have counts := constructPartialMessage_counts rest
            exact counts
          · obtain ⟨ended, _⟩ := Program.run_done_iff.mp rest
            cases ended
            rfl
      | closed =>
          obtain ⟨ended, _⟩ := Program.run_done_iff.mp rest
          cases ended
          rfl
      | failed errno =>
          obtain ⟨ended, _⟩ := Program.run_done_iff.mp rest
          cases ended
          rfl
  · exact constructPartialMessage_counts run

theorem readSocket_counts
    (run : Program.Run PeerSocket.answers socket (reader.readSocket box fd)
      (.returned (result, next)) after) :
    reader.Counts result next := by
  unfold readSocket at run
  split at run
  · rcases Program.run_bind_iff.mp run with
      ⟨answer, between, _, rest⟩ | ⟨_, ⟨⟩, _⟩ | ⟨_, ⟨⟩, _⟩
    cases answer with
    | data bytes =>
        simp only at rest
        split at rest
        · obtain ⟨ended, _⟩ := Program.run_done_iff.mp rest
          cases ended
          rfl
        · have counts := readBody_counts rest
          exact counts
    | closed =>
        obtain ⟨ended, _⟩ := Program.run_done_iff.mp rest
        cases ended
        rfl
    | failed errno =>
        obtain ⟨ended, _⟩ := Program.run_done_iff.mp rest
        cases ended
        rfl
  · exact readBody_counts run

theorem read_counts
    (run : Program.Run PeerSocket.answers socket (reader.read box)
      (.returned (result, next)) after) :
    next.sequenceNumber = reader.sequenceNumber + ReaderHistory.taken reader result := by
  unfold read at run
  split at run
  · cases run
    simp only [ReaderHistory.taken, ReaderHistory.packets, ite_self, Nat.add_zero]
  · split at run
    · rename_i front rest localBuffer
      rcases Program.run_bind_iff.mp run with
        ⟨packet, between, _, decryptRun⟩ | ⟨_, ⟨⟩, _⟩ | ⟨_, ⟨⟩, _⟩
      rcases Program.run_bind_iff.mp decryptRun with
        ⟨opened, later, _, ended⟩ | ⟨_, ⟨⟩, _⟩ | ⟨_, ⟨⟩, _⟩
      cases ended
      simp only [ReaderHistory.taken, localBuffer, List.isEmpty_cons,
        Bool.false_eq_true, if_false, Nat.add_zero]
    · rename_i localBuffer
      have counts := readSocket_counts run
      rw [counts, ReaderHistory.taken, localBuffer, List.isEmpty_nil, if_pos rfl]

end BackedReader

theorem readerSystem_counts {box : SecretBox} {history : ReaderHistory}
    (reached : (readerSystem box).Reachable history) :
    history.reader.sequenceNumber = history.received := by
  apply reached.invariant
  · rintro state ⟨cryptoHandler, socketFd, rfl⟩
    rfl
  · intro before event after counts step
    cases step with
    | read run =>
        rw [BackedReader.read_counts run, counts]
    | invalidateSocket => exact counts
    | revive newSocketFd entries dead =>
        show before.reader.sequenceNumber + entries.length = _
        rw [counts]

/-! ### The header on the wire -/

/-- The peer of a connection can read `header` where the connection announces
its count, with anything behind it. -/
def Obtains (proto : Protobuf) (connection : Connection) (header : SequenceHeader) : Prop :=
  ∃ fd peerFd sent later rest,
    Program.Run PeerSocket.answers { incoming := [], outgoing := [] }
      (SocketHandler.writeProto proto.sequenceHeader fd connection.sequenceHeader)
      (.returned ()) sent ∧
    Program.Run PeerSocket.answers { incoming := sent.outgoing ++ later, outgoing := [] }
      (SocketHandler.readProto proto.sequenceHeader peerFd) (.returned header) rest

theorem writeProto_written {α : Type} {proto : ProtoMessage α} {message : α} {fd : Fd}
    {socket after : PeerSocket}
    (run : Program.Run PeerSocket.answers socket
      (SocketHandler.writeProto proto fd message) (.returned ()) after) :
    after.outgoing = socket.outgoing ++
      SocketHandler.protoFrame (proto.serialize message) := by
  unfold SocketHandler.writeProto at run
  simp only at run
  split at run
  · cases run
  · rcases Program.run_bind_iff.mp run with
      ⟨value, between, first, second⟩ | ⟨_, ⟨⟩, _⟩ | ⟨_, ⟨⟩, _⟩
    have firstWritten := SocketHandler.writeAllOrThrow_written first
    split at second
    · rw [SocketHandler.writeAllOrThrow_written second, firstWritten, List.append_assoc,
        SocketHandler.protoFrame]
    · rename_i short
      cases second
      have empty : proto.serialize message = [] := List.length_eq_zero_iff.mp (by omega)
      rw [firstWritten, SocketHandler.protoFrame, empty, List.append_nil]

theorem obtains_iff {proto : Protobuf} {connection : Connection}
    {header : SequenceHeader} :
    Obtains proto connection header ↔ header = connection.sequenceHeader := by
  have fits := proto.sequenceHeader_fits connection.sequenceHeader
  constructor
  · rintro ⟨fd, peerFd, sent, later, rest, writeRun, readRun⟩
    have outgoing := writeProto_written writeRun
    rw [List.nil_append] at outgoing
    rcases SocketHandler.readProto_run readRun with ⟨message, returned, taken, _⟩ | ⟨_, ⟨⟩⟩
    cases returned
    rw [outgoing, SocketHandler.takeProto_frame proto.sequenceHeader _ later fits] at taken
    cases taken
    rfl
  · rintro rfl
    have written := SocketHandler.writeProto_succeeds 0
      { incoming := [], outgoing := [] } fits
    have taken := SocketHandler.takeProto_frame proto.sequenceHeader
      connection.sequenceHeader [] fits
    exact ⟨0, 0, _, [], _, written, SocketHandler.readProto_succeeds 0 taken⟩

/-- The announced value is the count below 2^31 only. -/
theorem sequenceHeader_value_iff (connection : Connection) :
    connection.sequenceHeader.sequenceNumber.toInt = connection.reader.sequenceNumber ↔
      connection.reader.sequenceNumber < 2 ^ 31 := by
  constructor
  · intro same
    have bound := connection.sequenceHeader.sequenceNumber.toInt_lt
    omega
  · intro short
    apply Int32.toInt_ofInt_of_le
    · omega
    · omega

/-- For every reader of every run, the peer obtains the reader's count, and with
it computes the number of packets not yet counted, if and only if fewer than
2^31 packets have reached the reader. -/
theorem sequenceHeader_carries_count_iff {box : SecretBox} {history : ReaderHistory}
    {proto : Protobuf} {connection : Connection} {header : SequenceHeader}
    (reached : (readerSystem box).Reachable history)
    (owner : connection.reader = history.reader)
    (obtained : Obtains proto connection header) :
    (header.sequenceNumber.toInt = history.reader.sequenceNumber ∧
      ∀ writer : BackedWriter, history.received ≤ writer.sequenceNumber →
        writer.messagesToRecover header.sequenceNumber.toInt =
          ((writer.sequenceNumber - history.received : Nat) : Int)) ↔
    history.received < 2 ^ 31 := by
  have counts := readerSystem_counts reached
  have value := sequenceHeader_value_iff connection
  rw [owner, counts] at value
  rw [obtains_iff.mp obtained, counts]
  constructor
  · intro carried
    exact value.mp carried.1
  · intro short
    have same := value.mpr short
    constructor
    · exact same
    · intro writer behind
      rw [same, BackedWriter.messagesToRecover]
      omega

/-- The connection of a client whose reader is at a given state. -/
def connectionWith (reader : BackedReader) : Connection :=
  { reader := reader
    writer := BackedWriter.create (CryptoHandler.ofKey Key.zero CLIENT_SERVER_NONCE_MSB) none
    socketFd := none
    shuttingDown := false }

/-- A reader that was given one packet in each of `count` reconnects. -/
def recoveredReader (count : Nat) : BackedReader :=
  { cryptoHandler := CryptoHandler.ofKey Key.zero SERVER_CLIENT_NONCE_MSB
    socketFd := none
    sequenceNumber := count
    localBuffer := (List.range count).map fun index =>
      (Packet.sealed SecretBox.nullCipher
        (CryptoHandler.after Key.zero SERVER_CLIENT_NONCE_MSB index)
        (Packet.plain 0 [])).serialize
    partialMessage := [] }

theorem recoveredReader_reachable (count : Nat) :
    (readerSystem SecretBox.nullCipher).Reachable
      { reader := recoveredReader count
        received := count } := by
  induction count with
  | zero =>
      apply TransitionSystem.ReachableBy.start
      exact ⟨CryptoHandler.ofKey Key.zero SERVER_CLIENT_NONCE_MSB, none, rfl⟩
  | succ count ih =>
      have revived := ih.next (.revive 3
        [(Packet.sealed SecretBox.nullCipher
          (CryptoHandler.after Key.zero SERVER_CLIENT_NONCE_MSB count)
          (Packet.plain 0 [])).serialize] rfl)
      have severed := revived.next (.invalidateSocket _)
      have same : ({ reader := recoveredReader (count + 1), received := count + 1 } :
          ReaderHistory) =
          { reader := ((recoveredReader count).revive 3
              [(Packet.sealed SecretBox.nullCipher
                (CryptoHandler.after Key.zero SERVER_CLIENT_NONCE_MSB count)
                (Packet.plain 0 [])).serialize]).invalidateSocket
            received := count + 1 } := by
        simp only [recoveredReader, List.range_succ, List.map_append, List.map_cons,
          List.map_nil, BackedReader.revive, BackedReader.invalidateSocket,
          List.length_singleton]
      rw [same]
      exact severed

/-- With 2^31 packets the peer obtains another number. -/
theorem sequenceHeader_loses_count :
    ∃ history header,
      (readerSystem SecretBox.nullCipher).Reachable history ∧
      history.reader.sequenceNumber = 2147483648 ∧
      Obtains Protobuf.standard (connectionWith history.reader) header ∧
      header.sequenceNumber.toInt = -2147483648 := by
  refine ⟨_, _, recoveredReader_reachable 2147483648, rfl, obtains_iff.mpr rfl, ?_⟩
  show (Int32.ofInt (2147483648 : Int)).toInt = _
  decide

/-- Three packets are within the bound. -/
theorem sequenceHeader_carries_count_iff_three :
    (((connectionWith (recoveredReader 3)).sequenceHeader.sequenceNumber.toInt =
        (recoveredReader 3).sequenceNumber ∧
      ∀ writer : BackedWriter, 3 ≤ writer.sequenceNumber →
        writer.messagesToRecover
            (connectionWith (recoveredReader 3)).sequenceHeader.sequenceNumber.toInt =
          ((writer.sequenceNumber - 3 : Nat) : Int)) ↔
    3 < 2 ^ 31) := by
  have obtained : Obtains Protobuf.standard (connectionWith (recoveredReader 3))
      (connectionWith (recoveredReader 3)).sequenceHeader := obtains_iff.mpr rfl
  exact sequenceHeader_carries_count_iff (recoveredReader_reachable 3) rfl obtained

end EternalTerminal
