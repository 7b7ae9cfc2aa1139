/-
A fresh client on a socket that the server recovers.

`connect` accepts RETURNING_CLIENT and starts with framed packets, while the
server has started `recover` on the same socket.  Neither side can take the
other's bytes for its own kind: the fifth byte of a packet frame is the
encrypted flag and makes the length of a protobuf frame too large, and a
protobuf frame's small length comes first and makes the length of a packet
frame larger than all the bytes there are.
-/

import EternalTerminal.Base.ClientConnection
import EternalTerminal.Base.ReconnectingPeer

namespace EternalTerminal

open Library
open SocketHandler

/-! ### Packet frames as protobuf frames -/

theorem toInt64_large {value : Nat} (large : 2 ^ 32 ≤ value) (bounded : value < 2 ^ 64) :
    toInt64 value < 0 ∨ toInt64 value > MAX_PROTO_BYTES := by
  unfold toInt64 MAX_PROTO_BYTES
  rw [Int.bmod_def]
  split <;> omega

/-- The frames that a writer puts on the wire hold encrypted packets. -/
def framesOf (log : List Packet) : Bytes := log.flatMap BackedWriter.frame

theorem frameLength_packets {log : List Packet} {bytes : Bytes}
    (encrypted : ∀ packet ∈ log, packet.encrypted = true)
    (isPrefix : bytes <+: framesOf log) (long : 8 ≤ bytes.length) :
    frameLength bytes < 0 ∨ frameLength bytes > MAX_PROTO_BYTES := by
  cases log with
  | nil =>
      have short := isPrefix.length_le
      rw [framesOf, List.flatMap_nil, List.length_nil] at short
      omega
  | cons first rest =>
      have flag := encrypted first List.mem_cons_self
      -- the flag is the byte of weight 2^32
      obtain ⟨left, whole⟩ := isPrefix
      obtain ⟨tail, headEq⟩ : ∃ tail, bytes.take 8 =
          bigEndian 4 first.length ++ 1 :: tail := by
        have taken := congrArg (List.take 8) whole
        have lengthBytes : (bigEndian 4 first.length).take 8 = bigEndian 4 first.length :=
          List.take_of_length_le (by simp)
        rw [List.take_append_of_le_length long, framesOf, List.flatMap_cons,
          BackedWriter.frame, Packet.serialize, flag, if_pos rfl, List.append_assoc,
          List.take_append, lengthBytes, bigEndian_length] at taken
        exact ⟨_, taken⟩
      have lengthEq : (bytes.take 8).length = 8 := by
        rw [List.length_take]
        omega
      have bounded := littleEndianValue_lt (bytes.take 8)
      rw [lengthEq] at bounded
      have value : littleEndianValue (bytes.take 8) =
          littleEndianValue (bigEndian 4 first.length) +
            256 ^ 4 * (1 + 256 * littleEndianValue tail) := by
        rw [headEq, littleEndianValue_append, bigEndian_length]
        rfl
      apply toInt64_large
      · omega
      · omega

/-- `readProto` accepts no message from the frames of packets. -/
theorem takeProto_packets {α : Type} (proto : ProtoMessage α) {log : List Packet}
    {bytes : Bytes} (encrypted : ∀ packet ∈ log, packet.encrypted = true)
    (isPrefix : bytes <+: framesOf log) : takeProto proto bytes = none := by
  by_cases short : bytes.length < 8
  · rw [takeProto, if_pos short]
  · exact takeProto_rejected (frameLength_packets encrypted isPrefix (by omega))

/-! ### Protobuf frames as packet frames -/

/-- The bytes of a message short enough to be a sequence header. -/
structure ShortFrame (stream : Bytes) : Prop where
  frame : ∃ serialized : Bytes, 0 < serialized.length ∧ serialized.length ≤ 11 ∧
    stream <+: protoFrame serialized

theorem littleEndian_small {value : Nat} (small : value < 256) :
    littleEndian 8 value = UInt8.ofNat value :: List.replicate 7 0 := by
  have divided : value / 256 = 0 := Nat.div_eq_of_lt small
  rw [littleEndian, divided]
  rfl

theorem ShortFrame.messageLength {stream partialMessage incoming : Bytes}
    (short : ShortFrame stream) (split : partialMessage ++ incoming = stream)
    (header : 4 ≤ partialMessage.length) :
    2 ^ 24 ≤ BackedReader.getPartialMessageLength partialMessage ∧
      BackedReader.getPartialMessageLength partialMessage < 2 ^ 28 := by
  obtain ⟨serialized, positive, small, isPrefix⟩ := short.frame
  have partialPrefix : partialMessage <+: protoFrame serialized := by
    rw [← split] at isPrefix
    exact (List.prefix_append _ _).trans isPrefix
  obtain ⟨left, whole⟩ := partialPrefix
  have headEq : partialMessage.take 4 = [UInt8.ofNat serialized.length, 0, 0, 0] := by
    have taken := congrArg (List.take 4) whole
    rw [List.take_append_of_le_length header, protoFrame,
      littleEndian_small (by omega)] at taken
    rw [taken]
    rfl
  have byteEq : (UInt8.ofNat serialized.length).toNat = serialized.length := by
    rw [UInt8.toNat_ofNat', Nat.mod_eq_of_lt (by omega)]
  have value : bigEndianValue (partialMessage.take 4) = serialized.length * 2 ^ 24 := by
    rw [headEq]
    simp only [bigEndianValue, List.reverse_cons, List.reverse_nil, List.nil_append,
      List.cons_append, littleEndianValue, byteEq, UInt8.toNat_zero]
    omega
  rw [BackedReader.getPartialMessageLength, value, toInt32_natCast_eq_self (by omega)]
  omega

theorem ShortFrame.length_le {stream : Bytes} (short : ShortFrame stream) :
    stream.length ≤ 19 := by
  obtain ⟨serialized, _, small, isPrefix⟩ := short.frame
  have bound := isPrefix.length_le
  rw [protoFrame_length] at bound
  omega

namespace BackedReader

variable {box : SecretBox} {reader : BackedReader} {fd : Fd} {socket after : PeerSocket}
  {stream : Bytes}

/-- The reader holds the first bytes of the stream, the socket the others. -/
structure Holds (reader : BackedReader) (incoming stream : Bytes) : Prop where
  localBuffer : reader.localBuffer = []
  split : reader.partialMessage ++ incoming = stream

def Fruitless (reader : BackedReader) (stream : Bytes) (socket after : PeerSocket)
    (outcome : Outcome Exn (ReadResult × BackedReader)) : Prop :=
  ∃ result next, outcome = .returned (result, next) ∧
    (∀ packet, result ≠ .packet packet) ∧
    next.Holds after.incoming stream ∧ next.socketFd = reader.socketFd ∧
    after.outgoing = socket.outgoing

theorem readBody_fruitless (short : ShortFrame stream)
    (holds : reader.Holds socket.incoming stream)
    (header : 4 ≤ reader.partialMessage.length)
    {outcome : Outcome Exn (ReadResult × BackedReader)}
    (run : Program.Run PeerSocket.answers socket (reader.readBody box fd) outcome after) :
    reader.Fruitless stream socket after outcome := by
  have wanted := short.messageLength holds.split header
  have bound := short.length_le
  have lengths := congrArg List.length holds.split
  rw [List.length_append] at lengths
  have remainder : toInt32 (getPartialMessageLength reader.partialMessage -
      ((reader.partialMessage.length : Int) - 4)) =
      getPartialMessageLength reader.partialMessage -
        ((reader.partialMessage.length : Int) - 4) :=
    toInt32_eq_self (by omega) (by omega)
  unfold readBody at run
  simp only [remainder] at run
  rw [if_pos (by omega), if_neg (by omega)] at run
  rcases Program.run_bind_iff.mp run with
    ⟨answer, between, readRun, rest⟩ | ⟨_, _, readRun⟩ | ⟨_, _, readRun⟩
  · obtain ⟨given, later, answered, returned⟩ := Program.run_perform_iff.mp readRun
    obtain ⟨same, rfl⟩ := Program.run_done_iff.mp returned
    cases same
    cases answer with
    | data bytes =>
        obtain ⟨incoming, _, _, outgoing⟩ := answered
        have taken := congrArg List.length incoming
        rw [List.length_append] at taken
        simp only at rest
        rw [if_neg (by omega)] at rest
        obtain ⟨same, rfl⟩ := Program.run_done_iff.mp rest
        refine ⟨_, _, same, by simp, ⟨holds.localBuffer, ?_⟩, rfl, outgoing⟩
        rw [List.append_assoc, ← incoming]
        exact holds.split
    | closed =>
        cases answered
        obtain ⟨same, rfl⟩ := Program.run_done_iff.mp rest
        exact ⟨_, _, same, by simp, holds, rfl, rfl⟩
    | failed errno =>
        cases answered
        obtain ⟨same, rfl⟩ := Program.run_done_iff.mp rest
        exact ⟨_, _, same, by simp, holds, rfl, rfl⟩
  · obtain ⟨given, later, _, returned⟩ := Program.run_perform_iff.mp readRun
    cases returned
  · obtain ⟨given, later, _, returned⟩ := Program.run_perform_iff.mp readRun
    cases returned

theorem readSocket_fruitless (short : ShortFrame stream)
    (holds : reader.Holds socket.incoming stream)
    {outcome : Outcome Exn (ReadResult × BackedReader)}
    (run : Program.Run PeerSocket.answers socket (reader.readSocket box fd) outcome after) :
    reader.Fruitless stream socket after outcome := by
  unfold readSocket at run
  split at run
  · rcases Program.run_bind_iff.mp run with
      ⟨answer, between, readRun, rest⟩ | ⟨_, _, readRun⟩ | ⟨_, _, readRun⟩
    · obtain ⟨given, later, answered, returned⟩ := Program.run_perform_iff.mp readRun
      obtain ⟨same, rfl⟩ := Program.run_done_iff.mp returned
      cases same
      cases answer with
      | data bytes =>
          obtain ⟨incoming, _, _, outgoing⟩ := answered
          have extendedHolds : ({ reader with
              partialMessage := reader.partialMessage ++ bytes } : BackedReader).Holds
                between.incoming stream := by
            constructor
            · exact holds.localBuffer
            · show reader.partialMessage ++ bytes ++ between.incoming = stream
              rw [List.append_assoc, ← incoming]
              exact holds.split
          simp only at rest
          split at rest
          · obtain ⟨same, rfl⟩ := Program.run_done_iff.mp rest
            exact ⟨_, _, same, by simp, extendedHolds, rfl, outgoing⟩
          · rename_i header
            obtain ⟨result, next, returned, nothing, kept, sameFd, sameOutgoing⟩ :=
              readBody_fruitless short extendedHolds (Nat.not_lt.mp header) rest
            exact ⟨result, next, returned, nothing, kept, sameFd,
              sameOutgoing.trans outgoing⟩
      | closed =>
          cases answered
          obtain ⟨same, rfl⟩ := Program.run_done_iff.mp rest
          exact ⟨_, _, same, by simp, holds, rfl, rfl⟩
      | failed errno =>
          cases answered
          obtain ⟨same, rfl⟩ := Program.run_done_iff.mp rest
          exact ⟨_, _, same, by simp, holds, rfl, rfl⟩
    · obtain ⟨given, later, _, returned⟩ := Program.run_perform_iff.mp readRun
      cases returned
    · obtain ⟨given, later, _, returned⟩ := Program.run_perform_iff.mp readRun
      cases returned
  · rename_i header
    exact readBody_fruitless short holds (Nat.not_lt.mp header) run

section Performs

variable {allowed : SocketCall → Prop} (permitted : ∀ fd count, allowed (.read fd count))

theorem decrypt_performs (box : SecretBox) (handler : CryptoHandler) (packet : Packet) :
    (packet.decrypt box handler : Action _).Performs allowed := by
  unfold Packet.decrypt
  split
  · unfold CryptoHandler.decrypt
    simp only
    split
    · exact .raise _
    · split
      · exact .abort _
      · exact .done _
  · exact .abort _

theorem deserialize_performs (bytes : Bytes) :
    (Packet.deserialize bytes : Action _).Performs allowed := by
  unfold Packet.deserialize
  split
  · exact .done _
  · exact .raise _

theorem constructPartialMessage_performs (box : SecretBox) (reader : BackedReader) :
    (reader.constructPartialMessage box).Performs allowed := by
  unfold constructPartialMessage
  simp only
  split
  · exact .abort _
  · apply (deserialize_performs _).bind
    intro packet
    apply (decrypt_performs box _ packet).bind
    intro opened
    exact .done _

include permitted

theorem readBody_performs (box : SecretBox) (reader : BackedReader) (fd : Fd) :
    (reader.readBody box fd).Performs allowed := by
  unfold readBody
  simp only
  split
  · split
    · exact .raise _
    · apply (Program.Performs.perform (permitted fd _) .done).bind
      intro answer
      cases answer with
      | data bytes =>
          simp only
          split
          · exact constructPartialMessage_performs box _
          · exact .done _
      | closed => exact .done _
      | failed errno => exact .done _
  · exact constructPartialMessage_performs box _

theorem read_performs (box : SecretBox) (reader : BackedReader) :
    (reader.read box).Performs allowed := by
  unfold read
  split
  · exact .done _
  · split
    · apply (deserialize_performs _).bind
      intro packet
      apply (decrypt_performs box _ packet).bind
      intro opened
      exact .done _
    · unfold readSocket
      split
      · apply (Program.Performs.perform (permitted _ _) .done).bind
        intro answer
        cases answer with
        | data bytes =>
            simp only
            split
            · exact .done _
            · exact readBody_performs permitted box _ _
        | closed => exact .done _
        | failed errno => exact .done _
      · exact readBody_performs permitted box _ _

end Performs

/-- No call to `read` gets a packet out of a short protobuf frame. -/
theorem read_fruitless (short : ShortFrame stream)
    (holds : reader.Holds socket.incoming stream)
    {outcome : Outcome Exn (ReadResult × BackedReader)}
    (run : Program.Run PeerSocket.answers socket (reader.read box) outcome after) :
    reader.Fruitless stream socket after outcome := by
  unfold read at run
  split at run
  · obtain ⟨same, rfl⟩ := Program.run_done_iff.mp run
    exact ⟨_, _, same, by simp, holds, rfl, rfl⟩
  · simp only [holds.localBuffer] at run
    exact readSocket_fruitless short holds run

end BackedReader

/-! ### The client's side -/

/-- What a client does with an established connection: the packets that its reads
return are collected. -/
inductive ClientRun (box : SecretBox) :
    Connection → PeerSocket → List (Option Packet) → Connection → PeerSocket → Prop
  | refl (client : Connection) (socket : PeerSocket) : ClientRun box client socket [] client socket
  | write {client between after : Connection} {socket middle last : PeerSocket}
      {packet : Packet} {accepted : Bool} {returned : List (Option Packet)} :
      Program.Run PeerSocket.answers socket (client.write box packet)
        (.returned (accepted, between)) middle →
      ClientRun box between middle returned after last →
      ClientRun box client socket returned after last
  | read {client between after : Connection} {socket middle last : PeerSocket}
      {got : Option Packet} {returned : List (Option Packet)} :
      Program.Run PeerSocket.answers socket (client.read box)
        (.returned (got, between)) middle →
      ClientRun box between middle returned after last →
      ClientRun box client socket (got :: returned) after last
  | closeSocket {client between after : Connection} {socket middle last : PeerSocket}
      {returned : List (Option Packet)} :
      Program.Run PeerSocket.answers socket client.closeSocket (.returned between) middle →
      ClientRun box between middle returned after last →
      ClientRun box client socket returned after last

/-- What `write` does to a socket that it may have to close. -/
inductive PeerWrite (box : SecretBox) (client : Connection) (socket : PeerSocket)
    (packet : Packet) : Connection → PeerSocket → Prop
  | skipped : PeerWrite box client socket packet client socket
  | buffered :
      client.writer.socketFd = none →
      PeerWrite box client socket packet (client.accepting box packet) socket
  | written {fd : Fd} {after : PeerSocket} :
      client.writer.socketFd = some fd →
      after.incoming = socket.incoming →
      after.outgoing = socket.outgoing ++
        BackedWriter.frame (packet.sealed box client.writer.cryptoHandler) →
      PeerWrite box client socket packet (client.accepting box packet) after
  | severed {fd : Fd} {after : PeerSocket} (count : Nat) :
      client.writer.socketFd = some fd →
      after.incoming = socket.incoming →
      after.outgoing = socket.outgoing ++
        (BackedWriter.frame (packet.sealed box client.writer.cryptoHandler)).take count →
      PeerWrite box client socket packet (client.accepting box packet).closed after

theorem Connection.write_peer_run {box : SecretBox} {client next : Connection}
    {socket after : PeerSocket} {packet : Packet} {accepted : Bool}
    (run : Program.Run PeerSocket.answers socket (client.write box packet)
      (.returned (accepted, next)) after) :
    PeerWrite box client socket packet next after := by
  unfold Connection.write at run
  cases admitted : client.writer.admits packet with
  | false =>
      rw [BackedWriter.write_skipped box _ packet admitted, Program.done_bind] at run
      obtain ⟨same, rfl⟩ := Program.run_done_iff.mp run
      cases same
      exact .skipped
  | true =>
      cases plain : packet.encrypted with
      | true =>
          rw [BackedWriter.write_encrypted box _ packet admitted plain,
            Program.abort_bind] at run
          cases run
      | false =>
          rw [BackedWriter.write_admitted box _ packet admitted plain] at run
          cases alive : client.writer.socketFd with
          | none =>
              rw [alive] at run
              obtain ⟨same, rfl⟩ := Program.run_done_iff.mp run
              cases same
              exact .buffered alive
          | some fd =>
              rw [alive] at run
              simp only [BackedWriter.transmit, Program.perform_bind] at run
              obtain ⟨answer, between, answered, rest⟩ := Program.run_perform_iff.mp run
              cases answer with
              | ok done =>
                  obtain ⟨same, rfl⟩ := Program.run_done_iff.mp rest
                  cases same
                  exact .written alive answered.1 answered.2
              | error what =>
                  obtain ⟨incoming, count, outgoing⟩ := answered
                  have finished : Program.Run PeerSocket.answers between
                      ((client.accepting box packet).closeSocket >>= fun closed =>
                        .done (true, closed))
                      (.returned (accepted, next)) after := rest
                  rcases Program.run_bind_iff.mp finished with
                    ⟨closed, middle, closeRun, ended⟩ | ⟨_, impossible, _⟩ |
                    ⟨_, impossible, _⟩
                  case inr.inl => cases impossible
                  case inr.inr => cases impossible
                  obtain ⟨returned, rfl⟩ := Connection.closeSocket_peer_run closeRun
                  cases returned
                  obtain ⟨same, rfl⟩ := Program.run_done_iff.mp ended
                  cases same
                  exact .severed count alive incoming outgoing

/-- What `read` does to the connection, whatever the reader returns. -/
theorem Connection.read_peer_run {box : SecretBox} {client next : Connection}
    {socket after : PeerSocket} {got : Option Packet}
    (run : Program.Run PeerSocket.answers socket (client.read box) (.returned (got, next))
      after) :
    ∃ result reader, Program.Run PeerSocket.answers socket (client.reader.read box)
        (.returned (result, reader)) after ∧
      ((∃ errno, result = .error errno ∧ got = none ∧
          next = ({ client with reader := reader } : Connection).closed) ∨
        (result = .incomplete ∧ got = none ∧ next = { client with reader := reader }) ∨
        ∃ packet, result = .packet packet ∧ got = some packet ∧
          next = { client with reader := reader }) := by
  rcases Program.run_bind_iff.mp run with
    ⟨⟨result, reader⟩, between, readRun, rest⟩ | ⟨_, impossible, _⟩ | ⟨_, impossible, _⟩
  · cases result with
    | error errno =>
        rcases Program.run_bind_iff.mp rest with
          ⟨closed, middle, closeRun, ended⟩ | ⟨_, impossible, _⟩ | ⟨_, impossible, _⟩
        · obtain ⟨returned, rfl⟩ := Connection.closeSocket_peer_run closeRun
          cases returned
          obtain ⟨same, rfl⟩ := Program.run_done_iff.mp ended
          cases same
          exact ⟨.error errno, reader, readRun, Or.inl ⟨errno, rfl, rfl, rfl⟩⟩
        · cases impossible
        · cases impossible
    | incomplete =>
        obtain ⟨same, rfl⟩ := Program.run_done_iff.mp rest
        cases same
        exact ⟨.incomplete, reader, readRun, Or.inr (Or.inl ⟨rfl, rfl, rfl⟩)⟩
    | packet packet =>
        obtain ⟨same, rfl⟩ := Program.run_done_iff.mp rest
        cases same
        exact ⟨.packet packet, reader, readRun, Or.inr (Or.inr ⟨packet, rfl, rfl, rfl⟩)⟩
  · cases impossible
  · cases impossible

/-! ### What the client sends -/

/-- Behind `base` the client has put nothing but frames of encrypted packets,
the last of them perhaps in part. -/
structure SendsFrames (base : Bytes) (client : Connection) (socket : PeerSocket) : Prop where
  synced : client.socketFd = none → client.writer.socketFd = none
  sent : ∃ log sent, (∀ packet ∈ log, packet.encrypted = true) ∧
    socket.outgoing = base ++ sent ∧ sent <+: framesOf log ∧
    (client.writer.socketFd ≠ none → sent = framesOf log)

namespace SendsFrames

variable {box : SecretBox} {base : Bytes} {client next : Connection}
  {socket after : PeerSocket}

theorem closed (sends : SendsFrames base client socket) :
    SendsFrames base client.closed socket := by
  unfold Connection.closed
  split
  · exact sends
  · obtain ⟨log, sent, encrypted, outgoing, isPrefix, _⟩ := sends.sent
    constructor
    · intro _
      rfl
    · exact ⟨log, sent, encrypted, outgoing, isPrefix, fun alive => absurd rfl alive⟩

theorem of_same (sends : SendsFrames base client socket)
    (own : next.socketFd = client.socketFd) (writer : next.writer = client.writer)
    (outgoing : after.outgoing = socket.outgoing) :
    SendsFrames base next after := by
  constructor
  · rw [own, writer]
    exact sends.synced
  · rw [writer, outgoing]
    exact sends.sent

theorem framesOf_concat (log : List Packet) (packet : Packet) :
    framesOf (log ++ [packet]) = framesOf log ++ BackedWriter.frame packet := by
  rw [framesOf, List.flatMap_append, List.flatMap_singleton, framesOf]

theorem sealed_encrypted {log : List Packet} (box : SecretBox) (handler : CryptoHandler)
    (packet : Packet) (encrypted : ∀ other ∈ log, other.encrypted = true) :
    ∀ other ∈ log ++ [packet.sealed box handler], other.encrypted = true := by
  intro other member
  rcases List.mem_append.mp member with old | new
  · exact encrypted other old
  · rw [List.mem_singleton.mp new]
    rfl

theorem write {packet : Packet} (sends : SendsFrames base client socket)
    (step : PeerWrite box client socket packet next after) :
    SendsFrames base next after := by
  obtain ⟨log, sent, encrypted, outgoingEq, isPrefix, complete⟩ := sends.sent
  cases step with
  | skipped => exact sends
  | buffered dead =>
      have stillDead : (client.accepting box packet).writer.socketFd = none := by
        rw [Connection.accepting, BackedWriter.accept, BackedWriter.backup_socketFd, dead]
      constructor
      · intro _
        exact stillDead
      · exact ⟨log, sent, encrypted, outgoingEq, isPrefix,
          fun impossible => absurd stillDead impossible⟩
  | written alive _ outgoing =>
      have live : client.writer.socketFd ≠ none := by
        rw [alive]
        exact Option.some_ne_none _
      constructor
      · intro dead
        exact absurd (sends.synced dead) live
      · refine ⟨_, _, sealed_encrypted box client.writer.cryptoHandler packet encrypted, ?_,
          List.prefix_rfl, fun _ => rfl⟩
        rw [framesOf_concat, outgoing, outgoingEq, complete live, List.append_assoc]
  | severed count alive _ outgoing =>
      have live : client.writer.socketFd ≠ none := by
        rw [alive]
        exact Option.some_ne_none _
      have open? : (client.accepting box packet).socketFd ≠ none :=
        fun dead => live (sends.synced dead)
      rw [Connection.closed_of_live open?]
      constructor
      · intro _
        rfl
      · refine ⟨_, framesOf log ++ (BackedWriter.frame
          (packet.sealed box client.writer.cryptoHandler)).take count,
          sealed_encrypted box client.writer.cryptoHandler packet encrypted, ?_, ?_,
          fun impossible => absurd rfl impossible⟩
        · rw [outgoing, outgoingEq, complete live, List.append_assoc]
        · rw [framesOf_concat]
          exact (List.prefix_append_right_inj _).mpr (List.take_prefix _ _)

theorem read {got : Option Packet} (sends : SendsFrames base client socket)
    (run : Program.Run PeerSocket.answers socket (client.read box) (.returned (got, next))
      after) :
    SendsFrames base next after := by
  obtain ⟨result, reader, readRun, ended⟩ := Connection.read_peer_run run
  have outgoing :=
    PeerSocket.outgoing_unchanged (BackedReader.read_performs (fun _ _ => trivial) box _) readRun
  have kept : SendsFrames base ({ client with reader := reader } : Connection) after :=
    sends.of_same rfl rfl outgoing
  rcases ended with ⟨errno, _, _, rfl⟩ | ⟨_, _, rfl⟩ | ⟨packet, _, _, rfl⟩
  · exact kept.closed
  · exact kept
  · exact kept

theorem clientRun {returned : List (Option Packet)} (sends : SendsFrames base client socket)
    (run : ClientRun box client socket returned next after) :
    SendsFrames base next after := by
  induction run with
  | refl client socket => exact sends
  | write step _ ih => exact ih (sends.write (Connection.write_peer_run step))
  | read step _ ih => exact ih (sends.read step)
  | closeSocket step _ ih =>
      obtain ⟨returned, rfl⟩ := Connection.closeSocket_peer_run step
      cases returned
      exact ih sends.closed

end SendsFrames

/-! ### What the client reads -/

namespace BackedReader.Holds

variable {box : SecretBox} {stream : Bytes} {client next : Connection}
  {socket after : PeerSocket}

theorem closed (holds : client.reader.Holds socket.incoming stream) :
    client.closed.reader.Holds socket.incoming stream := by
  unfold Connection.closed
  split
  · exact holds
  · exact ⟨holds.localBuffer, holds.split⟩

theorem write {packet : Packet} (holds : client.reader.Holds socket.incoming stream)
    (step : PeerWrite box client socket packet next after) :
    next.reader.Holds after.incoming stream := by
  cases step with
  | skipped => exact holds
  | buffered _ => exact holds
  | written _ incoming _ =>
      rw [incoming]
      exact holds
  | severed _ _ incoming _ =>
      rw [incoming]
      have kept : (client.accepting box packet).reader.Holds socket.incoming stream := holds
      exact kept.closed

theorem read {got : Option Packet} (short : ShortFrame stream)
    (holds : client.reader.Holds socket.incoming stream)
    (run : Program.Run PeerSocket.answers socket (client.read box) (.returned (got, next))
      after) :
    got = none ∧ next.reader.Holds after.incoming stream := by
  obtain ⟨result, reader, readRun, ended⟩ := Connection.read_peer_run run
  obtain ⟨found, readerAfter, returned, nothing, kept, _⟩ :=
    BackedReader.read_fruitless short holds readRun
  cases returned
  rcases ended with ⟨errno, _, rfl, rfl⟩ | ⟨_, rfl, rfl⟩ | ⟨packet, impossible, _⟩
  · have keptOpen : ({ client with reader := reader } : Connection).reader.Holds
        after.incoming stream := kept
    exact ⟨rfl, keptOpen.closed⟩
  · exact ⟨rfl, kept⟩
  · exact absurd impossible (nothing packet)

theorem clientRun {returned : List (Option Packet)} (short : ShortFrame stream)
    (holds : client.reader.Holds socket.incoming stream)
    (run : ClientRun box client socket returned next after) :
    ∀ got ∈ returned, got = none := by
  induction run with
  | refl client socket =>
      intro got member
      cases member
  | write step _ ih => exact ih (holds.write (Connection.write_peer_run step))
  | read step _ ih =>
      obtain ⟨nothing, kept⟩ := holds.read short step
      intro got member
      rcases List.mem_cons.mp member with rfl | later
      · exact nothing
      · exact ih kept got later
  | closeSocket step _ ih =>
      obtain ⟨returned, rfl⟩ := Connection.closeSocket_peer_run step
      cases returned
      exact ih holds.closed

end BackedReader.Holds

theorem ShortFrame.sequenceHeader {proto : Protobuf} {header : SequenceHeader}
    {stream : Bytes} (isPrefix : stream <+: protoFrame (proto.sequenceHeader.serialize header)) :
    ShortFrame stream := by
  have size := proto.sequenceHeader_size header
  exact ⟨_, size.1, size.2, isPrefix⟩

/-- A client that `connect` has given a fresh reader and writer does what it
likes, while the server recovers the same socket on what has arrived of the
client's bytes.  The server reads no header, its connection stays as it is, and
the client reads no packet. -/
theorem returningClient_harmless {box : SecretBox} {proto : Protobuf} {id key : Bytes}
    {fd serverFd : Fd} {client clientAfter server : Connection}
    {clientSocket established clientLast serverSocket serverLast : PeerSocket}
    {returned : List (Option Packet)} {sent announced : Bytes}
    {outcome : Outcome Exn (Bool × Connection)}
    (connected : Program.Run PeerSocket.answers clientSocket
      (ClientConnection.connect proto id key (some fd)) (.returned (some client)) established)
    (clientRun : ClientRun box client established returned clientAfter clientLast)
    (sentEq : clientLast.outgoing = established.outgoing ++ sent)
    (serverRun : Program.Run PeerSocket.answers serverSocket (server.recover proto serverFd)
      outcome serverLast)
    (toServer : serverSocket.incoming <+: sent)
    (announcedEq : serverLast.outgoing = serverSocket.outgoing ++ announced)
    (toClient : established.incoming <+: announced) :
    takeProto proto.sequenceHeader serverSocket.incoming = none ∧
      outcome = .returned (false, server) ∧ ∀ got ∈ returned, got = none := by
  obtain ⟨valid, _, rfl⟩ := ClientConnection.connect_established connected
  have started : SendsFrames established.outgoing
      (Connection.create valid SERVER_CLIENT_NONCE_MSB CLIENT_SERVER_NONCE_MSB (some fd))
      established := by
    constructor
    · intro impossible
      cases impossible
    · refine ⟨[], [], ?_, by rw [List.append_nil], List.nil_prefix, fun _ => rfl⟩
      intro packet member
      cases member
  obtain ⟨log, frames, encrypted, outgoing, isPrefix, _⟩ := (started.clientRun clientRun).sent
  have sameSent : frames = sent := List.append_cancel_left (outgoing.symm.trans sentEq)
  rw [sameSent] at isPrefix
  have silent : takeProto proto.sequenceHeader serverSocket.incoming = none :=
    takeProto_packets proto.sequenceHeader encrypted (toServer.trans isPrefix)
  obtain ⟨refused, header, headerPrefix, headerEq⟩ :=
    Connection.recover_unanswered silent serverRun
  have sameHeader : header = announced :=
    List.append_cancel_left (headerEq.symm.trans announcedEq)
  rw [sameHeader] at headerPrefix
  have short : ShortFrame established.incoming :=
    ShortFrame.sequenceHeader (toClient.trans headerPrefix)
  have holds : (Connection.create valid SERVER_CLIENT_NONCE_MSB CLIENT_SERVER_NONCE_MSB
      (some fd)).reader.Holds established.incoming established.incoming := ⟨rfl, rfl⟩
  exact ⟨silent, refused, holds.clientRun short clientRun⟩

/-! ### A client that writes a greeting -/

def returningResponse : ConnectResponse :=
  { status := .RETURNING_CLIENT
    error := [] }

def recoveringServer : Connection :=
  Connection.create Key.zero CLIENT_SERVER_NONCE_MSB SERVER_CLIENT_NONCE_MSB none

def freshClient : Connection :=
  Connection.create Key.zero SERVER_CLIENT_NONCE_MSB CLIENT_SERVER_NONCE_MSB (some 3)

def announcedFrame : Bytes :=
  protoFrame (Protobuf.standard.sequenceHeader.serialize recoveringServer.sequenceHeader)

def hello : Packet := Packet.plain 7 [104, 105]

def helloFrame : Bytes :=
  BackedWriter.frame (hello.sealed SecretBox.nullCipher freshClient.writer.cryptoHandler)

/-- The socket of the client after `connect`. -/
def establishedSocket : PeerSocket :=
  { incoming := announcedFrame
    outgoing := protoFrame (Protobuf.standard.connectRequest.serialize
      { clientId := [1], version := Int32.ofInt PROTOCOL_VERSION }) }

theorem freshClient_connected :
    Program.Run PeerSocket.answers
      { incoming := protoFrame (Protobuf.standard.connectResponse.serialize
          returningResponse) ++ announcedFrame
        outgoing := [] }
      (ClientConnection.connect Protobuf.standard [1] Key.zero.bytes (some 3))
      (.returned (some freshClient)) establishedSocket := by
  have requested := writeProto_succeeds 3
    { incoming := protoFrame (Protobuf.standard.connectResponse.serialize
        returningResponse) ++ announcedFrame
      outgoing := [] }
    (Protobuf.standard.connectRequest_fits
      { clientId := [1], version := Int32.ofInt PROTOCOL_VERSION } (by decide))
  have responseTaken := takeProto_frame Protobuf.standard.connectResponse returningResponse
    announcedFrame (Protobuf.standard.connectResponse_fits returningResponse (by decide))
  have responded : Program.Run PeerSocket.answers
      { incoming := protoFrame (Protobuf.standard.connectResponse.serialize
          returningResponse) ++ announcedFrame
        outgoing := establishedSocket.outgoing }
      (readProto Protobuf.standard.connectResponse 3) (.returned returningResponse)
      establishedSocket := readProto_succeeds 3 responseTaken
  have accepted : Program.Run PeerSocket.answers establishedSocket
      (ClientConnection.establish Key.zero.bytes 3 >>= fun connection =>
        (Program.done (some connection) : Action (Option Connection)))
      (.returned (some freshClient)) establishedSocket := by
    rw [ClientConnection.establish_valid]
    exact .done _ _
  exact Program.Run.handle_returned (requested.bind (responded.bind accepted))

/-- The greeting goes out, and the call to `read` after it finds no data. -/
theorem freshClient_greets :
    ∃ clientAfter last,
      ClientRun SecretBox.nullCipher freshClient establishedSocket [none] clientAfter last ∧
      last.outgoing = establishedSocket.outgoing ++ helloFrame := by
  have written : Program.Run PeerSocket.answers establishedSocket
      (freshClient.write SecretBox.nullCipher hello)
      (.returned (true, freshClient.accepting SecretBox.nullCipher hello))
      (establishedSocket.written helloFrame) := by
    unfold Connection.write
    rw [BackedWriter.write_admitted _ _ _ rfl rfl]
    apply Program.run_perform_iff.mpr
    refine ⟨.ok (), establishedSocket.written helloFrame, ⟨rfl, rfl⟩, ?_⟩
    show Program.Run PeerSocket.answers (establishedSocket.written helloFrame)
      (Program.done (true, freshClient.accepting SecretBox.nullCipher hello) :
        Action (Bool × Connection)) _ _
    exact .done _ _
  have unread : Program.Run PeerSocket.answers (establishedSocket.written helloFrame)
      ((freshClient.accepting SecretBox.nullCipher hello).read SecretBox.nullCipher)
      (.returned (none, (freshClient.accepting SecretBox.nullCipher hello).closed))
      (establishedSocket.written helloFrame) := by
    apply Program.run_perform_iff.mpr
    exact ⟨.failed .eagain, _, rfl, Program.run_perform_iff.mpr ⟨(), _, rfl, .done _ _⟩⟩
  exact ⟨_, _, .write written (.read unread (.refl _ _)), rfl⟩

theorem recoveringServer_refuses :
    ∃ last, Program.Run PeerSocket.answers { incoming := helloFrame, outgoing := [] }
        (recoveringServer.recover Protobuf.standard 4) (.returned (false, recoveringServer))
        last ∧
      last.outgoing = announcedFrame := by
  have encrypted : ∀ packet ∈ [hello.sealed SecretBox.nullCipher
      freshClient.writer.cryptoHandler], packet.encrypted = true := by
    intro packet member
    rw [List.mem_singleton.mp member]
    rfl
  have invalid := frameLength_packets encrypted (show helloFrame <+: framesOf _ by
    rw [framesOf, List.flatMap_singleton]
    exact List.prefix_rfl) (by decide)
  have announced := writeProto_succeeds 4 { incoming := helloFrame, outgoing := [] }
    (Protobuf.standard.sequenceHeader_fits recoveringServer.sequenceHeader)
  have rejected := readProto_rejects Protobuf.standard.sequenceHeader 4
    (show 8 ≤ ({ incoming := helloFrame, outgoing := announcedFrame } :
      PeerSocket).incoming.length by decide) invalid
  have exchanged : Program.Run PeerSocket.answers { incoming := helloFrame, outgoing := [] }
      (recoveringServer.exchange Protobuf.standard 4) (.raised (.runtimeError _))
      { incoming := helloFrame.drop 8, outgoing := announcedFrame } :=
    announced.bind (Program.run_bind_iff.mpr (Or.inr (Or.inl ⟨_, rfl, rejected⟩)))
  have closed : Program.Run PeerSocket.answers
      { incoming := helloFrame.drop 8, outgoing := announcedFrame }
      ((SocketHandler.close 4 : Action Unit) >>= fun _ =>
        (Program.done (false, recoveringServer) : Action (Bool × Connection)))
      (.returned (false, recoveringServer))
      { incoming := helloFrame.drop 8, outgoing := announcedFrame } :=
    Program.run_perform_iff.mpr ⟨(), _, rfl, .done _ _⟩
  exact ⟨_, Program.Run.handle_raised exchanged closed, rfl⟩

theorem returningClient_harmless_greeting :
    takeProto Protobuf.standard.sequenceHeader helloFrame = none ∧
      (Outcome.returned (false, recoveringServer) : Outcome Exn (Bool × Connection)) =
        .returned (false, recoveringServer) ∧
      ∀ got ∈ [(none : Option Packet)], got = none := by
  obtain ⟨clientAfter, clientLast, clientRun, sentEq⟩ := freshClient_greets
  obtain ⟨serverLast, serverRun, announcedEq⟩ := recoveringServer_refuses
  exact returningClient_harmless freshClient_connected clientRun sentEq serverRun
    List.prefix_rfl announcedEq List.prefix_rfl

end EternalTerminal
