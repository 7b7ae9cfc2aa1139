/-
`Connection::recover` on the object itself.

The method runs statement by statement, so an exception would keep what the statements before it
have changed.  None has changed anything: the object is replaced after the last call that can
fail.
-/

import EternalTerminal.Base.Descriptors
import EternalTerminal.Base.Protobuf
import EternalTerminal.Base.ReconnectingPeer
import EternalTerminal.Library.Method

namespace EternalTerminal

open Library
open SocketHandler

namespace Connection

/-- The `try` block. -/
def recoverBody (proto : Protobuf) (newSocketFd : Fd) : Method sockets Connection Exn Bool := do
  let connection ← Method.get
  Method.call (writeProto proto.sequenceHeader newSocketFd connection.sequenceHeader)
  let remoteHeader ← Method.call (readProto proto.sequenceHeader newSocketFd)
  let connection ← Method.get
  let recoveredMessages ←
    Method.call (connection.writer.recover remoteHeader.sequenceNumber.toInt)
  Method.call (writeProto proto.catchupBuffer newSocketFd { buffer := recoveredMessages })
  let catchupBuffer ← Method.call (readProto proto.catchupBuffer newSocketFd)
  let connection ← Method.get
  Method.set { connection with socketFd := some newSocketFd }
  let connection ← Method.get
  Method.set
    { connection with reader := connection.reader.revive newSocketFd catchupBuffer.buffer }
  let connection ← Method.get
  Method.set { connection with writer := connection.writer.revive newSocketFd }
  pure true

/-- The `catch` block. -/
def recoverCaught (newSocketFd : Fd) : Exn → Method sockets Connection Exn Bool
  | .runtimeError _ => do
      Method.call (SocketHandler.close newSocketFd)
      pure false
  | exn => .raise exn

def recoverMethod (proto : Protobuf) (newSocketFd : Fd) :
    Method sockets Connection Exn Bool :=
  tryCatch (recoverBody proto newSocketFd) (recoverCaught newSocketFd)

variable {proto : Protobuf} {connection : Connection} {fd : Fd}

theorem recoverBody_atomic (proto : Protobuf) (connection : Connection) (fd : Fd) :
    Method.Atomic connection (recoverBody proto fd) (connection.exchange proto fd) := by
  refine .get_bind (.call_bind fun _ => ?_)
  refine .call_bind fun remoteHeader => ?_
  refine .get_bind (.call_bind fun recovered => ?_)
  refine .call_bind fun _ => .call_bind fun catchup => ?_
  -- nothing after the second message can fail
  refine .of_commits ?_
  refine .get_bind (.set_bind ?_)
  refine .get_bind (.set_bind ?_)
  refine .get_bind (.set_bind ?_)
  exact .done true _

theorem recoverCaught_atomic (connection : Connection) (fd : Fd) (exn : Exn) :
    Method.Atomic connection (recoverCaught fd exn) (connection.recoverFailed fd exn) := by
  cases exn with
  | runtimeError what =>
      exact .call_bind fun _ => .done false connection
  | lengthError => exact .raise _ _
  | outOfRange => exact .raise _ _

/-- The method does to the object what `recover` computes, or nothing. -/
theorem recoverMethod_atomic (proto : Protobuf) (connection : Connection) (fd : Fd) :
    Method.Atomic connection (recoverMethod proto fd) (connection.recover proto fd) :=
  .handle (recoverBody_atomic proto connection fd)
    (recoverCaught_atomic connection fd)

/-! ### What a recovery closes -/

theorem writerRecover_performs {allowed : SocketCall → Prop} (writer : BackedWriter)
    (last : Int) : (writer.recover last).Performs allowed := by
  unfold BackedWriter.recover
  split
  · exact .raise _
  · simp only
    split
    · exact .abort _
    · split
      · exact .done _
      · split
        · exact .done _
        · exact .raise _

theorem exchange_closesNothing (proto : Protobuf) (connection : Connection) (fd : Fd) :
    (connection.exchange proto fd).Performs Descriptors.closesNothing := by
  refine (writeProto_closesNothing _ fd _).bind fun _ => ?_
  refine (readProto_closesNothing _ fd).bind fun remoteHeader => ?_
  refine (writerRecover_performs _ _).bind fun recovered => ?_
  refine (writeProto_closesNothing _ fd _).bind fun _ => ?_
  exact (readProto_closesNothing _ fd).bind fun catchup => .done _

theorem writeProto_incoming {α : Type} {proto : ProtoMessage α} {message : α}
    {socket after : PeerSocket}
    (run : Program.Run PeerSocket.answers socket (writeProto proto fd message)
      (.returned ()) after) : after.incoming = socket.incoming := by
  by_cases fits : (proto.serialize message).length ≤ MAX_PROTO_BYTES
  · exact (writeProto_run fits run).1
  · rw [writeProto, if_pos (Nat.lt_of_not_le fits)] at run
    cases run

theorem writeProto_fits {α : Type} {proto : ProtoMessage α} {message : α}
    {socket after : PeerSocket}
    (run : Program.Run PeerSocket.answers socket (writeProto proto fd message)
      (.returned ()) after) : (proto.serialize message).length ≤ MAX_PROTO_BYTES := by
  by_contra large
  rw [writeProto, if_pos (Nat.lt_of_not_le large)] at run
  cases run

theorem readProto_taken {α : Type} {proto : ProtoMessage α} {message : α}
    {socket after : PeerSocket}
    (run : Program.Run PeerSocket.answers socket (readProto proto fd) (.returned message)
      after) : takeProto proto socket.incoming = some (message, after.incoming) := by
  rcases readProto_run run with ⟨_, same, taken, _⟩ | ⟨_, impossible⟩
  · cases same
    exact taken
  · cases impossible

theorem exchange_returned {socket after : PeerSocket} {recovered : Bool} {state : Connection}
    (run : Program.Run PeerSocket.answers socket (connection.exchange proto fd)
      (.returned (recovered, state)) after) :
    recovered = true ∧ ∃ header rest replayed catchup,
      takeProto proto.sequenceHeader socket.incoming = some (header, rest) ∧
      connection.writer.recover header.sequenceNumber.toInt = .done replayed ∧
      (proto.catchupBuffer.serialize { buffer := replayed }).length ≤ MAX_PROTO_BYTES ∧
      takeProto proto.catchupBuffer rest = some (catchup, after.incoming) ∧
      state = connection.revived fd catchup.buffer := by
  rcases Program.run_bind_iff.mp run with
    ⟨_, announced, announceRun, run⟩ | ⟨_, impossible, _⟩ | ⟨_, impossible, _⟩
  case inr.inl => cases impossible
  case inr.inr => cases impossible
  rcases Program.run_bind_iff.mp run with
    ⟨header, received, headerRun, run⟩ | ⟨_, impossible, _⟩ | ⟨_, impossible, _⟩
  case inr.inl => cases impossible
  case inr.inr => cases impossible
  rcases Program.run_bind_iff.mp run with
    ⟨messages, collected, collectRun, run⟩ | ⟨_, impossible, _⟩ | ⟨_, impossible, _⟩
  case inr.inl => cases impossible
  case inr.inr => cases impossible
  rcases Program.run_bind_iff.mp run with
    ⟨_, replayed, replayRun, run⟩ | ⟨_, impossible, _⟩ | ⟨_, impossible, _⟩
  case inr.inl => cases impossible
  case inr.inr => cases impossible
  rcases Program.run_bind_iff.mp run with
    ⟨catchup, caughtUp, catchupRun, run⟩ | ⟨_, impossible, _⟩ | ⟨_, impossible, _⟩
  case inr.inl => cases impossible
  case inr.inr => cases impossible
  obtain ⟨same, rfl⟩ := Program.run_done_iff.mp run
  cases same
  have firstTaken := readProto_taken headerRun
  have secondTaken := readProto_taken catchupRun
  rw [writeProto_incoming announceRun] at firstTaken
  rw [writeProto_incoming replayRun] at secondTaken
  rcases connection.writer.recover_outcomes header.sequenceNumber.toInt with
    ⟨replay, answer, _⟩ | ⟨_, answer, _⟩ | ⟨_, answer, _⟩
  · rw [answer] at collectRun
    cases collectRun
    exact ⟨rfl, header, _, messages, catchup, firstTaken, answer, writeProto_fits replayRun,
      secondTaken, rfl⟩
  · rw [answer] at collectRun
    cases collectRun
  · rw [answer] at collectRun
    cases collectRun

theorem exchange_raised {socket after : PeerSocket} {exn : Exn}
    (run : Program.Run PeerSocket.answers socket (connection.exchange proto fd) (.raised exn)
      after) : ∃ what, exn = .runtimeError what := by
  rcases exchange_run run with ⟨_, _, _, _, impossible⟩ | ⟨what, raised⟩ | ⟨⟨_, impossible⟩, _⟩
  · cases impossible
  · cases raised
    exact ⟨what, rfl⟩
  · cases impossible

/-- The bytes of a peer that a recovery can succeed with: a header that the writer can serve,
and a catch-up. -/
def Completes (proto : Protobuf) (connection : Connection) (bytes : Bytes) : Prop :=
  ∃ header rest replayed catchup left,
    takeProto proto.sequenceHeader bytes = some (header, rest) ∧
    connection.writer.recover header.sequenceNumber.toInt = .done replayed ∧
    (proto.catchupBuffer.serialize { buffer := replayed }).length ≤ MAX_PROTO_BYTES ∧
    takeProto proto.catchupBuffer rest = some (catchup, left)

theorem completes_of_recovered {socket after : PeerSocket} {state : Connection}
    (run : Program.Run PeerSocket.answers socket (connection.recover proto fd)
      (.returned (true, state)) after) : Completes proto connection socket.incoming := by
  rcases Program.run_handle_iff.mp run with
    ⟨value, same, bodyRun⟩ | ⟨exn, between, bodyRun, handlerRun⟩ | ⟨_, impossible, _⟩
  · cases same
    obtain ⟨_, header, rest, replayed, catchup, first, served, fits, second, _⟩ :=
      exchange_returned bodyRun
    exact ⟨header, rest, replayed, catchup, _, first, served, fits, second⟩
  · cases exn with
    | runtimeError what =>
        obtain ⟨_, _, _, ended⟩ := Program.run_perform_iff.mp handlerRun
        cases ended
    | lengthError => cases handlerRun
    | outOfRange => cases handlerRun
  · cases impossible

/-- With a header that the writer can serve, an exchange comes to the read of the catch-up. -/
theorem exchange_served {socket : PeerSocket} {header : SequenceHeader} {rest : Bytes}
    {replayed : List Bytes} (fd : Fd) {outcome : Outcome Exn (Bool × Connection)}
    (first : takeProto proto.sequenceHeader socket.incoming = some (header, rest))
    (served : connection.writer.recover header.sequenceNumber.toInt = .done replayed)
    (fits : (proto.catchupBuffer.serialize { buffer := replayed }).length ≤ MAX_PROTO_BYTES)
    (ends : ∀ socket, socket.incoming = rest → ∃ after, Program.Run PeerSocket.answers socket
      (connection.afterCatchupWritten proto fd) outcome after) :
    ∃ after, Program.Run PeerSocket.answers socket (connection.exchange proto fd) outcome
      after := by
  have announced := writeProto_succeeds fd socket
    (proto.sequenceHeader_fits connection.sequenceHeader)
  rw [← PeerSocket.written_incoming socket
    (protoFrame (proto.sequenceHeader.serialize connection.sequenceHeader))] at first
  have headerRead := readProto_succeeds fd first
  have replay := writeProto_succeeds fd ((socket.written (protoFrame
    (proto.sequenceHeader.serialize connection.sequenceHeader))).advanced rest) fits
  obtain ⟨after, catchupRun⟩ := ends (PeerSocket.written ((socket.written (protoFrame
    (proto.sequenceHeader.serialize connection.sequenceHeader))).advanced rest)
      (protoFrame (proto.catchupBuffer.serialize { buffer := replayed }))) rfl
  have finished : Program.Run PeerSocket.answers _
      (writeProto proto.catchupBuffer fd { buffer := replayed } >>= fun _ =>
        connection.afterCatchupWritten proto fd) outcome after := replay.bind catchupRun
  have collected : connection.afterHeaderRead proto fd header =
      writeProto proto.catchupBuffer fd { buffer := replayed } >>= fun _ =>
        connection.afterCatchupWritten proto fd := by
    rw [afterHeaderRead, served]
    rfl
  rw [← collected] at finished
  exact ⟨after, announced.bind (headerRead.bind finished)⟩

theorem exchange_completes {socket : PeerSocket} (fd : Fd)
    (completes : Completes proto connection socket.incoming) :
    ∃ entries after, Program.Run PeerSocket.answers socket (connection.exchange proto fd)
      (.returned (true, connection.revived fd entries)) after := by
  obtain ⟨header, rest, replayed, catchup, left, first, served, fits, second⟩ := completes
  refine ⟨catchup.buffer, exchange_served fd first served fits ?_⟩
  intro socket incoming
  rw [← incoming] at second
  exact ⟨_, (readProto_succeeds fd second).bind (.done _ _)⟩

theorem recover_unreachable (proto : Protobuf) (connection : Connection) (fd : Fd)
    (socket : PeerSocket) :
    Program.Run PeerSocket.answers socket (connection.recover proto fd)
      (.returned (false, connection)) socket := by
  have announce : Program.Run PeerSocket.answers socket
      (writeProto proto.sequenceHeader fd connection.sequenceHeader)
      (.raised (.runtimeError "gone")) socket := by
    rw [writeProto, if_neg (Nat.not_lt.mpr (proto.sequenceHeader_fits connection.sequenceHeader))]
    refine Program.run_bind_iff.mpr (Or.inr (Or.inl ⟨_, rfl, ?_⟩))
    refine Program.run_perform_iff.mpr ⟨.error "gone", socket, ⟨rfl, 0, ?_⟩, .raise _ _⟩
    rw [List.take_zero, List.append_nil]
  have exchangeRun : Program.Run PeerSocket.answers socket (connection.exchange proto fd)
      (.raised (.runtimeError "gone")) socket :=
    Program.run_bind_iff.mpr (Or.inr (Or.inl ⟨_, rfl, announce⟩))
  exact exchangeRun.handle_raised
    (Program.run_perform_iff.mpr ⟨(), socket, rfl, .done _ _⟩)

theorem recover_completes {socket : PeerSocket} (fd : Fd)
    (completes : Completes proto connection socket.incoming) :
    ∃ entries after, Program.Run PeerSocket.answers socket (connection.recover proto fd)
      (.returned (true, connection.revived fd entries)) after := by
  obtain ⟨entries, after, run⟩ := exchange_completes fd completes
  exact ⟨entries, after, Program.Run.handle_returned run⟩

/-- A recovery that returns has closed the descriptor and kept the connection, or has received
both messages and revived it. -/
theorem recover_returned {world after : Descriptors} {recovered : Bool} {state : Connection}
    (run : Program.Run Descriptors.answers world (connection.recover proto fd)
      (.returned (recovered, state)) after) :
    (recovered = false ∧ state = connection ∧
      after.active = Function.update world.active fd none ∧
      after.closes = world.closes ++ [(fd, world.active fd)]) ∨
    (recovered = true ∧ after.active = world.active ∧ after.closes = world.closes ∧
      ∃ header rest catchup,
        takeProto proto.sequenceHeader world.peer.incoming = some (header, rest) ∧
        takeProto proto.catchupBuffer rest = some (catchup, after.peer.incoming) ∧
        state = connection.revived fd catchup.buffer) := by
  have quiet := exchange_closesNothing proto connection fd
  rcases Program.run_handle_iff.mp run with
    ⟨value, same, bodyRun⟩ | ⟨exn, between, bodyRun, handlerRun⟩ | ⟨_, impossible, _⟩
  · cases same
    obtain ⟨peerRun, active, unclosed⟩ := Descriptors.run_peer quiet bodyRun
    obtain ⟨rfl, header, rest, _, catchup, first, _, _, second, revived⟩ :=
      exchange_returned peerRun
    exact Or.inr ⟨rfl, active, unclosed, header, rest, catchup, first, second, revived⟩
  · obtain ⟨peerRun, active, unclosed⟩ := Descriptors.run_peer quiet bodyRun
    obtain ⟨what, rfl⟩ := exchange_raised peerRun
    obtain ⟨answer, closed, rfl, ended⟩ := Program.run_perform_iff.mp handlerRun
    obtain ⟨same, rfl⟩ := Program.run_done_iff.mp ended
    cases same
    left
    refine ⟨rfl, rfl, ?_, ?_⟩
    · rw [Descriptors.close, active]
    · rw [Descriptors.close, active, unclosed]
  · cases impossible

theorem recoverFailed_closes (connection : Connection) (fd : Fd) (what : String)
    (world : Descriptors) :
    Program.Run Descriptors.answers world (connection.recoverFailed fd (.runtimeError what))
      (.returned (false, connection)) (world.close fd) :=
  Program.run_perform_iff.mpr ⟨(), _, rfl, .done _ _⟩

structure Unrecovered (connection : Connection) (fd : Fd) (world : Descriptors)
    (state : Connection) (after : Descriptors) : Prop where
  unchanged : state = connection
  closed_once : after.closes = world.closes ++ [(fd, world.active fd)]
  inactive : after.active = Function.update world.active fd none

/-- The object after a recovery in which the peer sent these entries. -/
structure Recovered (connection : Connection) (fd : Fd) (entries : List Bytes)
    (world : Descriptors) (state : Connection) (after : Descriptors) : Prop where
  own : state.socketFd = some fd
  readerFd : state.reader.socketFd = some fd
  writerFd : state.writer.socketFd = some fd
  sequenceNumber : state.reader.sequenceNumber =
    connection.reader.sequenceNumber + entries.length
  localBuffer : state.reader.localBuffer = connection.reader.localBuffer ++ entries
  partialMessage : state.reader.partialMessage = []
  unclosed : after.closes = world.closes
  active : after.active = world.active

/-- Whatever the peer and the socket do, a recovery is a no-op but for the new descriptor, or
attaches it and takes over exactly the entries received. -/
theorem recover_all_or_nothing {world after : Descriptors} {recovered : Bool}
    {state : Connection}
    (run : Program.Run (Method.answers Descriptors.answers) (world, connection)
      (recoverMethod proto fd) (.returned recovered) (after, state)) :
    (recovered = false → Unrecovered connection fd world state after) ∧
    (recovered = true → ∃ header rest catchup,
      takeProto proto.sequenceHeader world.peer.incoming = some (header, rest) ∧
      takeProto proto.catchupBuffer rest = some (catchup, after.peer.incoming) ∧
      Recovered connection fd catchup.buffer world state after) := by
  have recoverRun := ((recoverMethod_atomic proto connection fd).run_iff Descriptors.answers world
    (.returned recovered) (after, state)).mp run
  rcases recover_returned recoverRun with
    ⟨rfl, unchanged, inactive, closed⟩ |
      ⟨rfl, active, unclosed, header, rest, catchup, first, second, rfl⟩
  · refine ⟨fun _ => ⟨unchanged, closed, inactive⟩, ?_⟩
    intro impossible
    cases impossible
  · refine ⟨?_, fun _ => ?_⟩
    · intro impossible
      cases impossible
    exact ⟨header, rest, catchup, first, second, rfl, rfl, rfl, rfl, rfl, rfl, unclosed, active⟩

section Example

/-- A connection without a socket: it has two packets for the peer, and a message of the peer
that has not been read. -/
def interrupted : Connection :=
  let created := Connection.create Key.zero SERVER_CLIENT_NONCE_MSB CLIENT_SERVER_NONCE_MSB none
  { created with
    reader :=
      { created.reader with
        localBuffer := [[1, 1, 104]]
        sequenceNumber := 4 }
    writer := (created.writer.accept SecretBox.nullCipher (Packet.plain 1 [105])).accept
      SecretBox.nullCipher (Packet.plain 1 [106]) }

def offered (incoming : Bytes) : Descriptors :=
  { peer :=
      { incoming := incoming
        outgoing := [] }
    active := Function.update (fun _ => none) 5 (some 0)
    closes := [] }

def countsOne : Bytes := protoFrame (Protobuf.standard.sequenceHeader.serialize
  { sequenceNumber := 1 })

def replays : Bytes :=
  protoFrame (Protobuf.standard.catchupBuffer.serialize { buffer := [[1, 1, 107], [1, 1, 108]] })

theorem countsOne_taken (rest : Bytes) :
    takeProto Protobuf.standard.sequenceHeader (countsOne ++ rest) =
      some ({ sequenceNumber := 1 }, rest) :=
  takeProto_frame Protobuf.standard.sequenceHeader { sequenceNumber := 1 } rest (by decide)

theorem replays_taken : takeProto Protobuf.standard.catchupBuffer replays =
    some ({ buffer := [[1, 1, 107], [1, 1, 108]] }, []) := by
  have taken := takeProto_frame Protobuf.standard.catchupBuffer
    { buffer := [[1, 1, 107], [1, 1, 108]] } [] (by decide)
  rw [List.append_nil] at taken
  exact taken

theorem interrupted_serves :
    ∃ replayed, interrupted.writer.recover 1 = .done replayed ∧
      (Protobuf.standard.catchupBuffer.serialize { buffer := replayed }).length ≤
        MAX_PROTO_BYTES :=
  ⟨_, rfl, by decide +kernel⟩

theorem interrupted_recovers :
    ∃ after state, Program.Run (Method.answers Descriptors.answers)
      (offered (countsOne ++ replays), interrupted) (recoverMethod Protobuf.standard 5)
      (.returned true) (after, state) := by
  obtain ⟨replayed, served, fits⟩ := interrupted_serves
  obtain ⟨entries, later, run⟩ := @exchange_completes Protobuf.standard interrupted
    (offered (countsOne ++ replays)).peer 5
    ⟨_, _, replayed, _, _, countsOne_taken replays, served, fits, replays_taken⟩
  have lifted := Descriptors.run_of_peer
    (exchange_closesNothing Protobuf.standard interrupted 5) run
    (rfl : (offered (countsOne ++ replays)).peer = _)
  exact ⟨_, _, ((recoverMethod_atomic Protobuf.standard interrupted 5).run_iff
    Descriptors.answers _ (.returned true) (_, _)).mpr (Program.Run.handle_returned lifted)⟩

/-- A length that cannot be comes instead of the catch-up. -/
theorem interrupted_rejects (length : List UInt8) (long : 8 ≤ length.length)
    (invalid : frameLength length < 0 ∨ frameLength length > MAX_PROTO_BYTES) :
    ∃ after state, Program.Run (Method.answers Descriptors.answers)
      (offered (countsOne ++ length), interrupted) (recoverMethod Protobuf.standard 5)
      (.returned false) (after, state) := by
  obtain ⟨replayed, served, fits⟩ := interrupted_serves
  obtain ⟨later, run⟩ := @exchange_served Protobuf.standard interrupted
    (offered (countsOne ++ length)).peer _ _ replayed 5 _ (countsOne_taken length) served fits
    (by
      intro socket incoming
      have rejected := @readProto_rejects _ Protobuf.standard.catchupBuffer 5 socket
        (incoming ▸ long) (incoming ▸ invalid)
      rw [incoming] at rejected
      exact ⟨_, Program.run_bind_iff.mpr (Or.inr (Or.inl ⟨_, rfl, rejected⟩))⟩)
  have lifted := Descriptors.run_of_peer
    (exchange_closesNothing Protobuf.standard interrupted 5) run
    (rfl : (offered (countsOne ++ length)).peer = _)
  exact ⟨_, _, ((recoverMethod_atomic Protobuf.standard interrupted 5).run_iff
    Descriptors.answers _ (.returned false) (_, _)).mpr
      (lifted.handle_raised (recoverFailed_closes _ _ _ _))⟩

theorem recover_all_or_nothing_interrupted :
    (∃ after state, Unrecovered interrupted 5 (offered (countsOne ++ List.replicate 8 255)) state
      after) ∧
    ∃ after state, Recovered interrupted 5 [[1, 1, 107], [1, 1, 108]]
      (offered (countsOne ++ replays)) state after := by
  obtain ⟨failed, kept, fails⟩ :=
    interrupted_rejects (List.replicate 8 255) (by decide) (Or.inl (by decide +kernel))
  obtain ⟨after, state, recovers⟩ := interrupted_recovers
  refine ⟨⟨failed, kept, (recover_all_or_nothing fails).1 rfl⟩, after, state, ?_⟩
  obtain ⟨header, rest, catchup, first, second, recovered⟩ :=
    (recover_all_or_nothing recovers).2 rfl
  cases (countsOne_taken replays).symm.trans first
  have same := replays_taken.symm.trans second
  rw [Option.some.injEq, Prod.mk.injEq] at same
  rw [← same.1] at recovered
  exact recovered

end Example

end Connection

end EternalTerminal
