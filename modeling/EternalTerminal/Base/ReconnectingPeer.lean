/-
`Connection::recover` against an arbitrary peer.

The peer is not authenticated while a recovery runs, so its bytes may be
anything.  A recovery completes on a sequence header, leaves the connection as
it was, or ends the process on one of the numbers of `AbortsOn`.
-/

import EternalTerminal.Base.Connection
import EternalTerminal.Base.PeerSocket

namespace EternalTerminal

open Library
open SocketHandler

/-- The sequence numbers on which a recovery ends the process: one ahead of the
writer, or one that asks for backed up packets beyond the size of a message. -/
def BackedWriter.AbortsOn (writer : BackedWriter) (last : Int) : Prop :=
  writer.socketFd = none ∧
    (writer.messagesToRecover last < 0 ∨
      ((writer.messagesToRecover last).toNat ≤ writer.backupBuffer.length ∧
        MAX_PROTO_BYTES <
          ((writer.newest (writer.messagesToRecover last).toNat).map entrySize).sum))

/-- How `recover` ends for a given sequence number. -/
theorem BackedWriter.recover_outcomes (writer : BackedWriter) (last : Int) :
    (∃ recovered, writer.recover last = .done recovered ∧
      (MAX_PROTO_BYTES < (recovered.map entrySize).sum ↔ writer.AbortsOn last)) ∨
    (∃ what, writer.recover last = .raise (.runtimeError what) ∧ ¬ writer.AbortsOn last) ∨
    (∃ message, writer.recover last = .abort message ∧ writer.AbortsOn last) := by
  cases alive : writer.socketFd with
  | some fd =>
      right
      left
      refine ⟨"Cannot recover when the fd is still alive", ?_, ?_⟩
      · simp only [recover, alive, Option.isSome_some, if_true]
      · intro aborts
        rw [aborts.1] at alive
        cases alive
  | none =>
      by_cases ahead : writer.messagesToRecover last < 0
      · right
        right
        refine ⟨_, recover_ahead writer alive ?_, alive, Or.inl ahead⟩
        rw [messagesToRecover] at ahead
        omega
      · have wantedEq : writer.messagesToRecover last =
            ((writer.messagesToRecover last).toNat : Int) := by
          omega
        rw [recover_wanted writer alive wantedEq]
        by_cases kept : (writer.messagesToRecover last).toNat ≤ writer.backupBuffer.length
        · left
          rw [if_pos kept]
          refine ⟨_, rfl, ?_⟩
          constructor
          · intro large
            exact ⟨alive, Or.inr ⟨kept, large⟩⟩
          · rintro ⟨_, impossible | ⟨_, large⟩⟩
            · exact absurd impossible ahead
            · exact large
        · right
          left
          rw [if_neg kept]
          refine ⟨_, rfl, ?_⟩
          rintro ⟨_, impossible | ⟨impossible, _⟩⟩
          · exact ahead impossible
          · exact kept impossible

namespace Connection

variable {proto : Protobuf} {connection : Connection} {fd : Fd}
  {socket after : PeerSocket}

def RecoverAborts (proto : Protobuf) (connection : Connection) (bytes : Bytes) : Prop :=
  ∃ header rest, takeProto proto.sequenceHeader bytes = some (header, rest) ∧
    connection.writer.AbortsOn header.sequenceNumber.toInt

theorem afterHeaderRead_run {remoteHeader : SequenceHeader}
    {outcome : Outcome Exn (Bool × Connection)}
    (run : Program.Run PeerSocket.answers socket
      (connection.afterHeaderRead proto fd remoteHeader) outcome after) :
    (∃ entries, outcome = .returned (true, connection.revived fd entries)) ∨
    (∃ what, outcome = .raised (.runtimeError what)) ∨
    ((∃ message, outcome = .aborted message) ∧
      connection.writer.AbortsOn remoteHeader.sequenceNumber.toInt) := by
  unfold afterHeaderRead at run
  rcases connection.writer.recover_outcomes remoteHeader.sequenceNumber.toInt with
    ⟨recovered, answer, sizes⟩ | ⟨what, answer, _⟩ | ⟨message, answer, aborts⟩
  · rw [answer, Program.done_bind, afterRecovered] at run
    by_cases large : MAX_PROTO_BYTES < (recovered.map entrySize).sum
    · right
      right
      unfold writeProto at run
      simp only at run
      rw [if_pos (by rw [proto.catchupBuffer_size]; exact large), Program.abort_bind] at run
      exact ⟨⟨_, (Program.run_abort_iff.mp run).1⟩, sizes.mp large⟩
    · have fits : (proto.catchupBuffer.serialize { buffer := recovered }).length ≤
          MAX_PROTO_BYTES := by
        rw [proto.catchupBuffer_size]
        exact Nat.not_lt.mp large
      rcases Program.run_bind_iff.mp run with
        ⟨written, between, writeRun, rest⟩ | ⟨exn, rfl, writeRun⟩ | ⟨message, rfl, writeRun⟩
      · rcases Program.run_bind_iff.mp rest with
          ⟨catchup, later, readRun, ended⟩ | ⟨exn, rfl, readRun⟩ | ⟨message, rfl, readRun⟩
        · left
          exact ⟨catchup.buffer, (Program.run_done_iff.mp ended).1⟩
        · right
          left
          obtain ⟨what, rfl⟩ := readProto_raised readRun
          exact ⟨what, rfl⟩
        · exact (readProto_not_aborted readRun).elim
      · right
        left
        obtain ⟨what, rfl⟩ := writeProto_raised fits writeRun
        exact ⟨what, rfl⟩
      · exact (writeProto_not_aborted fits writeRun).elim
  · rw [answer, Program.raise_bind] at run
    exact Or.inr (Or.inl ⟨what, (Program.run_raise_iff.mp run).1⟩)
  · rw [answer, Program.abort_bind] at run
    exact Or.inr (Or.inr ⟨⟨message, (Program.run_abort_iff.mp run).1⟩, aborts⟩)

theorem afterHeaderRead_aborts (proto : Protobuf) (fd : Fd) (socket : PeerSocket)
    {remoteHeader : SequenceHeader}
    (aborts : connection.writer.AbortsOn remoteHeader.sequenceNumber.toInt) :
    ∃ message, Program.Run PeerSocket.answers socket
      (connection.afterHeaderRead proto fd remoteHeader) (.aborted message) socket := by
  unfold afterHeaderRead
  rcases connection.writer.recover_outcomes remoteHeader.sequenceNumber.toInt with
    ⟨recovered, answer, sizes⟩ | ⟨_, _, harmless⟩ | ⟨message, answer, _⟩
  · have large := sizes.mpr aborts
    rw [← proto.catchupBuffer_size { buffer := recovered }] at large
    rw [answer, Program.done_bind, afterRecovered, writeProto, if_pos large]
    exact ⟨_, .abort _ _⟩
  · exact absurd aborts harmless
  · rw [answer]
    exact ⟨message, .abort _ _⟩

theorem exchange_run {outcome : Outcome Exn (Bool × Connection)}
    (run : Program.Run PeerSocket.answers socket (connection.exchange proto fd) outcome
      after) :
    (∃ entries header rest,
      takeProto proto.sequenceHeader socket.incoming = some (header, rest) ∧
      outcome = .returned (true, connection.revived fd entries)) ∨
    (∃ what, outcome = .raised (.runtimeError what)) ∨
    ((∃ message, outcome = .aborted message) ∧
      connection.RecoverAborts proto socket.incoming) := by
  have fits := proto.sequenceHeader_fits connection.sequenceHeader
  rcases Program.run_bind_iff.mp run with
    ⟨written, between, writeRun, rest⟩ | ⟨exn, rfl, writeRun⟩ | ⟨message, rfl, writeRun⟩
  · have incoming := (writeProto_run fits writeRun).1
    rcases Program.run_bind_iff.mp rest with
      ⟨header, later, readRun, ended⟩ | ⟨exn, rfl, readRun⟩ | ⟨message, rfl, readRun⟩
    · rcases readProto_run readRun with ⟨message, returned, taken, _⟩ | ⟨_, impossible⟩
      case inr => cases impossible
      cases returned
      rw [incoming] at taken
      rcases afterHeaderRead_run ended with ⟨entries, returned⟩ | raised | ⟨aborted, aborts⟩
      · exact Or.inl ⟨entries, header, _, taken, returned⟩
      · exact Or.inr (Or.inl raised)
      · exact Or.inr (Or.inr ⟨aborted, header, _, taken, aborts⟩)
    · right
      left
      obtain ⟨what, rfl⟩ := readProto_raised readRun
      exact ⟨what, rfl⟩
    · exact (readProto_not_aborted readRun).elim
  · right
    left
    obtain ⟨what, rfl⟩ := writeProto_raised fits writeRun
    exact ⟨what, rfl⟩
  · exact (writeProto_not_aborted fits writeRun).elim

/-- `recover` completes on a header, leaves the connection as it is, or ends
the process. -/
theorem recover_run {outcome : Outcome Exn (Bool × Connection)}
    (run : Program.Run PeerSocket.answers socket (connection.recover proto fd) outcome
      after) :
    (∃ entries header rest,
      takeProto proto.sequenceHeader socket.incoming = some (header, rest) ∧
      outcome = .returned (true, connection.revived fd entries)) ∨
    outcome = .returned (false, connection) ∨
    ((∃ message, outcome = .aborted message) ∧
      connection.RecoverAborts proto socket.incoming) := by
  rcases Program.run_handle_iff.mp run with
    ⟨value, rfl, bodyRun⟩ | ⟨exn, between, bodyRun, handlerRun⟩ | ⟨message, rfl, bodyRun⟩
  · rcases exchange_run bodyRun with completed | ⟨_, ⟨⟩⟩ | ⟨⟨_, ⟨⟩⟩, _⟩
    exact Or.inl completed
  · rcases exchange_run bodyRun with ⟨_, _, _, _, ⟨⟩⟩ | ⟨what, raised⟩ | ⟨⟨_, ⟨⟩⟩, _⟩
    cases raised
    obtain ⟨answer, closed, _, ended⟩ := Program.run_perform_iff.mp handlerRun
    exact Or.inr (Or.inl (Program.run_done_iff.mp ended).1)
  · rcases exchange_run bodyRun with ⟨_, _, _, _, ⟨⟩⟩ | ⟨_, ⟨⟩⟩ | aborted
    exact Or.inr (Or.inr aborted)

/-- The peer's bytes carry a sequence number for which the writer has a catch-up. -/
def Serves (proto : Protobuf) (connection : Connection) (bytes : Bytes) : Prop :=
  ∃ header rest recovered, takeProto proto.sequenceHeader bytes = some (header, rest) ∧
    connection.writer.recover header.sequenceNumber.toInt = .done recovered

theorem not_serves_of_silent {bytes : Bytes}
    (silent : takeProto proto.sequenceHeader bytes = none) :
    ¬ Serves proto connection bytes := by
  intro serves
  obtain ⟨header, rest, recovered, taken, _⟩ := serves
  rw [silent] at taken
  cases taken

/-- What the exchange writes to a peer for whom there is no catch-up. -/
theorem exchange_unserved {outcome : Outcome Exn (Bool × Connection)}
    (unserved : ¬ Serves proto connection socket.incoming)
    (run : Program.Run PeerSocket.answers socket (connection.exchange proto fd) outcome
      after) :
    ∃ announced,
      announced <+: protoFrame (proto.sequenceHeader.serialize connection.sequenceHeader) ∧
      after.outgoing = socket.outgoing ++ announced := by
  have fits := proto.sequenceHeader_fits connection.sequenceHeader
  rcases Program.run_bind_iff.mp run with
    ⟨_, between, writeRun, rest⟩ | ⟨_, _, writeRun⟩ | ⟨_, _, writeRun⟩
  · obtain ⟨announced, isPrefix, outgoing⟩ := writeProto_outgoing writeRun
    have incoming := (writeProto_run fits writeRun).1
    rw [← incoming] at unserved
    have unread : after.outgoing = between.outgoing := by
      rcases Program.run_bind_iff.mp rest with
        ⟨header, later, readRun, collectRun⟩ | ⟨_, _, readRun⟩ | ⟨_, _, readRun⟩
      · rcases readProto_run readRun with ⟨_, same, taken, _⟩ | ⟨_, impossible⟩
        · cases same
          have read := PeerSocket.outgoing_unchanged (readProto_performs _ _) readRun
          rcases connection.writer.recover_outcomes header.sequenceNumber.toInt with
            ⟨recovered, answer, _⟩ | ⟨_, answer, _⟩ | ⟨_, answer, _⟩
          · exact (unserved ⟨header, later.incoming, recovered, taken, answer⟩).elim
          · rw [answer] at collectRun
            obtain ⟨_, rfl⟩ := Program.run_raise_iff.mp collectRun
            exact read
          · rw [answer] at collectRun
            obtain ⟨_, rfl⟩ := Program.run_abort_iff.mp collectRun
            exact read
        · cases impossible
      · exact PeerSocket.outgoing_unchanged (readProto_performs _ _) readRun
      · exact PeerSocket.outgoing_unchanged (readProto_performs _ _) readRun
    exact ⟨announced, isPrefix, unread.trans outgoing⟩
  · exact writeProto_outgoing writeRun
  · exact writeProto_outgoing writeRun

/-- A peer whose bytes carry no header changes nothing and sees at most the
announced header. -/
theorem recover_unanswered {outcome : Outcome Exn (Bool × Connection)}
    (silent : takeProto proto.sequenceHeader socket.incoming = none)
    (run : Program.Run PeerSocket.answers socket (connection.recover proto fd) outcome
      after) :
    outcome = .returned (false, connection) ∧
    ∃ announced,
      announced <+: protoFrame (proto.sequenceHeader.serialize connection.sequenceHeader) ∧
      after.outgoing = socket.outgoing ++ announced := by
  rcases Program.run_handle_iff.mp run with
    ⟨value, _, bodyRun⟩ | ⟨exn, between, bodyRun, handlerRun⟩ | ⟨message, _, bodyRun⟩
  · rcases exchange_run bodyRun with ⟨_, _, _, taken, _⟩ | ⟨_, impossible⟩ |
      ⟨⟨_, impossible⟩, _⟩
    · rw [silent] at taken
      cases taken
    · cases impossible
    · cases impossible
  · have announced := exchange_unserved (not_serves_of_silent silent) bodyRun
    rcases exchange_run bodyRun with ⟨_, _, _, _, impossible⟩ | ⟨what, raised⟩ |
      ⟨⟨_, impossible⟩, _⟩
    · cases impossible
    · cases raised
      obtain ⟨answer, closed, closedEq, ended⟩ := Program.run_perform_iff.mp handlerRun
      obtain ⟨returned, rfl⟩ := Program.run_done_iff.mp ended
      cases closedEq
      exact ⟨returned, announced⟩
    · cases impossible
  · rcases exchange_run bodyRun with ⟨_, _, _, taken, _⟩ | ⟨_, impossible⟩ |
      ⟨_, _, _, taken, _⟩
    · rw [silent] at taken
      cases taken
    · cases impossible
    · rw [silent] at taken
      cases taken

theorem recover_aborts (fd : Fd) (socket : PeerSocket)
    (aborts : connection.RecoverAborts proto socket.incoming) :
    ∃ message after, Program.Run PeerSocket.answers socket (connection.recover proto fd)
      (.aborted message) after := by
  obtain ⟨header, rest, taken, fatal⟩ := aborts
  have fits := proto.sequenceHeader_fits connection.sequenceHeader
  have announced := writeProto_succeeds fd socket fits
  have headerRead : Program.Run PeerSocket.answers
      (socket.written (protoFrame (proto.sequenceHeader.serialize connection.sequenceHeader)))
      (readProto proto.sequenceHeader fd) (.returned header) _ :=
    readProto_succeeds fd taken
  obtain ⟨message, ended⟩ := afterHeaderRead_aborts proto fd
    ((socket.written (protoFrame
      (proto.sequenceHeader.serialize connection.sequenceHeader))).advanced rest) fatal
  have received : Program.Run PeerSocket.answers
      (socket.written (protoFrame (proto.sequenceHeader.serialize connection.sequenceHeader)))
      (connection.afterHeaderWritten proto fd) (.aborted message) _ :=
    headerRead.bind ended
  exact ⟨message, _, Program.Run.handle_aborted (announced.bind received)⟩

theorem closeSocket_peer_run {outcome : Outcome Exn Connection}
    (run : Program.Run PeerSocket.answers socket connection.closeSocket outcome after) :
    outcome = .returned connection.closed ∧ after = socket := by
  unfold closeSocket at run
  unfold closed
  cases alive : connection.socketFd with
  | none =>
      rw [alive] at run
      rw [if_pos rfl]
      exact Program.run_done_iff.mp run
  | some fd =>
      rw [alive] at run
      obtain ⟨answer, between, answered, ended⟩ := Program.run_perform_iff.mp run
      obtain ⟨returned, same⟩ := Program.run_done_iff.mp ended
      rw [if_neg (Option.some_ne_none fd)]
      exact ⟨returned, same.trans answered⟩

theorem closeSocket_peer_succeeds (socket : PeerSocket) (connection : Connection) :
    Program.Run PeerSocket.answers socket connection.closeSocket
      (.returned connection.closed) socket := by
  unfold closeSocket closed
  cases connection.socketFd with
  | none =>
      rw [if_pos rfl]
      exact .done _ _
  | some fd =>
      rw [if_neg (Option.some_ne_none fd)]
      exact Program.run_perform_iff.mpr ⟨(), socket, rfl, .done _ _⟩

end Connection

end EternalTerminal
