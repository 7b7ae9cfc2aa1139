/-
When two endpoints that recover a connection wait for each other.

Either writes its catch-up before it reads the other's, so a catch-up has to fit into the socket
buffers unless the peer is done with its own.
-/

import EternalTerminal.Base.PipedPrograms
import EternalTerminal.Base.Protobuf
import EternalTerminal.Base.ReconnectingPeer
import EternalTerminal.Session.RecoverStage

namespace EternalTerminal

open Library
open Library.Dialogue
open SocketHandler
open Piped

namespace Connection

/-- The `CatchupBuffer` that the connection sends to the peer, if it comes to that. -/
def catchupFor (proto : Protobuf) (connection peer : Connection) : Option Bytes :=
  match connection.writer.recover peer.sequenceHeader.sequenceNumber.toInt with
  | .done recovered =>
      let serialized := proto.catchupBuffer.serialize { buffer := recovered }
      if serialized.length ≤ MAX_PROTO_BYTES then some serialized else none
  | _ => none

def catchupSent (proto : Protobuf) (connection peer : Connection) : Bytes :=
  match connection.catchupFor proto peer with
  | none => []
  | some serialized => protoFrame serialized

/-- The frame that the connection expects after it has sent its own.  If the peer sends none,
any frame serves. -/
def catchupExpected (proto : Protobuf) (connection peer : Connection) : Bytes :=
  match connection.catchupFor proto peer with
  | none => []
  | some _ => protoFrame ((peer.catchupFor proto connection).getD [])

/-- What `recover` sends and receives when the peer is the other connection. -/
def recoverMoves (proto : Protobuf) (connection peer : Connection) : List (Move UInt8) :=
  twoRounds (connection.headerFrame proto) (peer.headerFrame proto)
    (connection.catchupSent proto peer) (connection.catchupExpected proto peer)

def recoveries (proto : Protobuf) (capacity : Nat) (first second : Connection)
    (firstFd secondFd : Fd) : TransitionSystem (PipedPair (Bool × Connection)) Unit :=
  PipedPair.system capacity (first.recover proto firstFd) (second.recover proto secondFd)

section

variable {proto : Protobuf} {connection peer first second : Connection} {capacity : Nat}
  {serialized : Bytes}

theorem headerFrame_length (proto : Protobuf) (connection : Connection) :
    (connection.headerFrame proto).length ≤ 19 := by
  have sizes := proto.sequenceHeader_size connection.sequenceHeader
  rw [headerFrame, protoFrame_length]
  omega

theorem catchupFor_eq_some (sends : connection.catchupFor proto peer = some serialized) :
    ∃ recovered, connection.writer.recover peer.sequenceHeader.sequenceNumber.toInt =
        .done recovered ∧
      serialized = proto.catchupBuffer.serialize { buffer := recovered } ∧
      serialized.length ≤ MAX_PROTO_BYTES := by
  unfold catchupFor at sends
  split at sends
  · rename_i recovered answer
    dsimp only at sends
    split at sends
    · rename_i fits
      cases sends
      exact ⟨recovered, answer, rfl, fits⟩
    · cases sends
  · cases sends

theorem exists_parsed (proto : Protobuf) (connection peer : Connection) :
    ∃ catchup, proto.catchupBuffer.parse ((peer.catchupFor proto connection).getD []) =
        some catchup ∧
      ((peer.catchupFor proto connection).getD []).length ≤ MAX_PROTO_BYTES := by
  cases sends : peer.catchupFor proto connection with
  | none => exact ⟨_, proto.catchupBuffer.parse_nil, Nat.zero_le _⟩
  | some serialized =>
      obtain ⟨recovered, _, same, fits⟩ := catchupFor_eq_some sends
      refine ⟨{ buffer := recovered }, ?_, fits⟩
      rw [Option.getD_some, same]
      exact proto.catchupBuffer.parse_serialize _

theorem quiet_recoverFailed (connection : Connection) (fd : Fd) (exn : Exn) :
    Quiet (connection.recoverFailed fd exn) := by
  cases exn with
  | runtimeError what => exact .perform ⟨fd, rfl⟩ fun _ => .done _
  | lengthError => exact .raise _
  | outOfRange => exact .raise _

theorem speaks_headers (proto : Protobuf) (connection peer : Connection) (fd : Fd) :
    ∀ {moves : List (Move UInt8)} {later : Action (Bool × Connection)},
      Speaks (connection.afterHeaderRead proto fd peer.sequenceHeader) moves later →
      Speaks (connection.exchange proto fd)
        (sends (connection.headerFrame proto) ++ (receives (peer.headerFrame proto) ++ moves))
        later := by
  intro moves later goesOn
  rw [exchange_eq]
  refine (speaks_writeProto fd (proto.sequenceHeader_fits _)).bind ?_
  refine (speaks_readProto fd ?_ (proto.sequenceHeader_fits _)).bind goesOn
  exact proto.sequenceHeader.parse_serialize _

theorem recover_follows (proto : Protobuf) (connection peer : Connection) (fd : Fd) :
    Follows (connection.recover proto fd) (recoverMoves proto connection peer) := by
  have caught : ∀ what, Quiet (connection.recoverFailed fd (.runtimeError what)) :=
    fun what => quiet_recoverFailed connection fd _
  unfold recoverMoves catchupSent catchupExpected
  cases sends : connection.catchupFor proto peer with
  | some serialized =>
      obtain ⟨recovered, answer, same, fits⟩ := catchupFor_eq_some sends
      obtain ⟨catchup, parsed, expectedFits⟩ := exists_parsed proto connection peer
      have goesOn : Speaks (connection.afterHeaderRead proto fd peer.sequenceHeader)
          (Dialogue.sends (protoFrame serialized) ++
            receives (protoFrame ((peer.catchupFor proto connection).getD [])))
          (.done (true, connection.revived fd catchup.buffer)) := by
        rw [afterHeaderRead, answer, Program.done_bind, afterRecovered]
        subst same
        refine (speaks_writeProto fd fits).bind ?_
        rw [← List.append_nil (receives _)]
        exact (speaks_readProto fd parsed expectedFits).bind (.refl _)
      exact (speaks_headers proto connection peer fd goesOn).follows caught (.done _)
  | none =>
      have ends : Quiet ((connection.afterHeaderRead proto fd peer.sequenceHeader).handle
          (connection.recoverFailed fd)) := by
        rw [afterHeaderRead]
        rcases connection.writer.recover_outcomes peer.sequenceHeader.sequenceNumber.toInt with
          ⟨recovered, answer, _⟩ | ⟨what, answer, _⟩ | ⟨message, answer, _⟩
        · have large : MAX_PROTO_BYTES <
              (proto.catchupBuffer.serialize { buffer := recovered }).length := by
            by_contra fits
            simp [catchupFor, answer, Nat.not_lt.mp fits] at sends
          rw [answer, Program.done_bind, afterRecovered, writeProto, if_pos large,
            Program.abort_bind]
          exact .abort _
        · rw [answer]
          exact caught what
        · rw [answer]
          exact .abort message
      exact (speaks_headers proto connection peer fd (.refl _)).follows caught ends

/-- What one endpoint expects is what the other sends, if both go on. -/
theorem catchup_cases (proto : Protobuf) (connection peer : Connection) :
    connection.catchupExpected proto peer = [] ∨ peer.catchupSent proto connection = [] ∨
      connection.catchupExpected proto peer = peer.catchupSent proto connection := by
  unfold catchupExpected catchupSent
  cases connection.catchupFor proto peer with
  | none => exact Or.inl rfl
  | some serialized =>
      cases peer.catchupFor proto connection with
      | none => exact Or.inr (Or.inl rfl)
      | some expected => exact Or.inr (Or.inr rfl)

theorem catchupExpected_of_catchupSent (nothing : connection.catchupSent proto peer = []) :
    connection.catchupExpected proto peer = [] := by
  unfold catchupSent at nothing
  unfold catchupExpected
  cases sends : connection.catchupFor proto peer with
  | none => rfl
  | some serialized =>
      rw [sends] at nothing
      have length := congrArg List.length nothing
      rw [protoFrame_length, List.length_nil] at length
      omega

theorem moves_agree (proto : Protobuf) (connection peer : Connection) :
    received (recoverMoves proto connection peer) <+: sent (recoverMoves proto peer connection) ∨
      sent (recoverMoves proto peer connection) <+:
        received (recoverMoves proto connection peer) := by
  rcases catchup_cases proto connection peer with expected | sent | same
  · left
    simp [recoverMoves, twoRounds, expected]
  · right
    simp [recoverMoves, twoRounds, sent]
  · left
    simp [recoverMoves, twoRounds, same]

/-- Two recoveries can come to wait for each other exactly when both catch-ups are longer than
a pipe. -/
theorem recovery_deadlock_free_iff (large : 64 ≤ capacity) (firstFd secondFd : Fd) :
    (∀ pair, (recoveries proto capacity first second firstFd secondFd).Reachable pair →
      ¬ PipedPair.Deadlocked capacity pair) ↔
      ¬ (capacity < (first.catchupSent proto second).length ∧
        capacity < (second.catchupSent proto first).length) := by
  have firstFollows := recover_follows proto first second firstFd
  have secondFollows := recover_follows proto second first secondFd
  have firstFits : (first.headerFrame proto).length ≤ capacity :=
    (headerFrame_length proto first).trans (by omega)
  have secondFits : (second.headerFrame proto).length ≤ capacity :=
    (headerFrame_length proto second).trans (by omega)
  constructor
  · intro free ⟨long, otherLong⟩
    obtain ⟨pair, reached, deadlocked⟩ := PipedPair.exists_deadlock firstFollows secondFollows
      firstFits secondFits long otherLong
    exact free pair reached deadlocked
  · intro short pair reached deadlocked
    obtain ⟨firstDone, secondDone, between, firstStuck, secondStuck⟩ :=
      PipedPair.stuck_of_deadlocked (moves_agree proto first second)
        (moves_agree proto second first) firstFollows secondFollows reached deadlocked
    apply short
    apply long_of_stuck (by omega) firstFits _ between firstStuck secondStuck
    rcases catchup_cases proto first second with expected | sent | same
    · left
      rw [expected]
      exact Nat.zero_le _
    · right
      rw [catchupExpected_of_catchupSent sent]
      exact Nat.zero_le _
    · left
      rw [same]

/-! ### Two endpoints with one packet each -/

def waitingWith (packet : Packet) : Connection :=
  { Connection.create Key.zero SERVER_CLIENT_NONCE_MSB CLIENT_SERVER_NONCE_MSB none with
    writer :=
      { BackedWriter.create (CryptoHandler.ofKey Key.zero CLIENT_SERVER_NONCE_MSB) none with
        backupBuffer := [packet]
        backupSize := packet.length
        disconnectedBytes := packet.length
        sequenceNumber := 1 } }

theorem waitingWith_sends (proto : Protobuf) (packet other : Packet)
    (fits : entrySize packet.serialize ≤ MAX_PROTO_BYTES) :
    ((waitingWith packet).catchupSent proto (waitingWith other)).length =
      8 + entrySize packet.serialize := by
  have answer : (waitingWith packet).writer.recover
      (waitingWith other).sequenceHeader.sequenceNumber.toInt = .done [packet.serialize] := rfl
  have size := proto.catchupBuffer_size { buffer := [packet.serialize] }
  rw [List.map_singleton, List.sum_singleton] at size
  rw [catchupSent, catchupFor, answer]
  dsimp only
  rw [if_pos (size ▸ fits)]
  dsimp only
  rw [protoFrame_length, size]

def shortPacket : Packet := Packet.plain 7 [104, 105]

def longPacket : Packet := Packet.plain 7 (List.replicate 100 104)

theorem recovery_deadlock_free_short :
    ((waitingWith shortPacket).catchupSent Protobuf.standard (waitingWith shortPacket)).length =
        14 ∧
      ∀ pair, (recoveries Protobuf.standard 64 (waitingWith shortPacket) (waitingWith shortPacket)
          3 4).Reachable pair → ¬ PipedPair.Deadlocked 64 pair := by
  have size : entrySize shortPacket.serialize = 6 := by decide
  have sent := waitingWith_sends Protobuf.standard shortPacket shortPacket (by rw [size]; decide)
  rw [size] at sent
  refine ⟨sent, (recovery_deadlock_free_iff (Nat.le_refl 64) 3 4).mpr ?_⟩
  rw [sent]
  decide

/-- A hundred bytes on either side, and buffers of 64. -/
theorem recovery_deadlocks :
    ¬ ∀ pair, (recoveries Protobuf.standard 64 (waitingWith longPacket) (waitingWith longPacket)
        3 4).Reachable pair → ¬ PipedPair.Deadlocked 64 pair := by
  have size : entrySize longPacket.serialize = 104 := by decide
  have sent := waitingWith_sends Protobuf.standard longPacket longPacket (by rw [size]; decide)
  rw [size] at sent
  have long : 64 < ((waitingWith longPacket).catchupSent Protobuf.standard
      (waitingWith longPacket)).length := by
    rw [sent]
    decide
  have fits : ((waitingWith longPacket).headerFrame Protobuf.standard).length ≤ 64 :=
    (headerFrame_length _ _).trans (by decide)
  obtain ⟨pair, reached, deadlocked⟩ := PipedPair.exists_deadlock
    (recover_follows Protobuf.standard (waitingWith longPacket) (waitingWith longPacket) 3)
    (recover_follows Protobuf.standard (waitingWith longPacket) (waitingWith longPacket) 4)
    fits fits long long
  exact fun free => free pair reached deadlocked

end

end Connection

end EternalTerminal
