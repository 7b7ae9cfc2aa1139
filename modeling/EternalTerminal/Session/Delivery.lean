/-
Exactly-once delivery.

The ledger counts every packet once, and a session stands for a ledger in every
state it can reach.  What one side has returned is therefore a prefix of what
the other has accepted, and all of it once a common socket is drained.
-/

import EternalTerminal.Base.Protobuf
import EternalTerminal.Session.SessionRuns
import EternalTerminal.Session.Simulation

namespace EternalTerminal

open Library

namespace Session

/-- Both sides are attached to the socket and everything on it, and everything
that was recovered, has been read. -/
def Drained (session : Session) (socket : Fd) : Prop :=
  ∀ side, (session.endpoint side).recovering = none ∧
    (session.endpoint side).connection.socketFd = some socket ∧
    (session.endpoint side).connection.reader.localBuffer = [] ∧
    (session.wires socket side).taken = (session.wires socket side).sent.length

variable {box : SecretBox} {proto : Protobuf} {key : Key} {session : Session}
  {ledger : Ledger}

theorem Refines.returned_prefix (refines : session.Refines box proto key ledger)
    (side : Side) :
    (session.endpoint side).returned <+: (session.endpoint side.other).accepted := by
  rw [(refines side).returned]
  exact List.take_prefix _ _

theorem Refines.drained (refines : session.Refines box proto key ledger)
    (consistent : Ledger.Consistent ledger) {socket : Fd}
    (drained : session.Drained socket) (side : Side) :
    (session.endpoint side).returned = (session.endpoint side.other).accepted := by
  have own := refines.facing consistent side
  have peer := refines.facing consistent side.other
  rw [Side.other_other] at peer
  obtain ⟨idle, attached, buffer, _⟩ := drained side
  obtain ⟨peerIdle, peerAttached, _, allTaken⟩ := drained side.other
  rcases own.doing.idle idle with
    ⟨_, dead⟩ | ⟨actual, doingEq, live, _, consumed, unfinished⟩
  · rw [dead.own] at attached
    cases attached
  rcases peer.doing.idle peerIdle with
    ⟨_, dead⟩ | ⟨peerActual, peerDoing, peerLive, peerSent, _, _⟩
  · rw [dead.own] at peerAttached
    cases peerAttached
  rw [live.own] at attached
  rw [peerLive.own] at peerAttached
  cases attached
  cases peerAttached
  obtain ⟨first, last, posted, low, high⟩ := own.consistent.attached_reads socket doingEq
  obtain ⟨start, posting⟩ := peer.consistent.attached_posts socket peerDoing
  rw [posted] at posting
  cases posting
  -- all that was sent has been consumed, so no whole frame is left
  have everything : (session.outgoing side.other socket).consumed =
      (session.outgoing side.other socket).sent :=
    List.take_of_length_le (Nat.le_of_eq allTaken.symm)
  have split : ((ledger side.other).script socket).bytes proto
      (sealedLog box key side.other.nonceMSB (session.endpoint side.other).accepted) =
        _ := Script.bytes_split posted low high
  rw [← peerSent, ← everything, consumed] at split
  have rest := List.append_cancel_left split
  have counted : (ledger side).counted = (ledger side.other).accepted := by
    cases shape : ahead box key side (session.endpoint side.other).accepted
        (ledger side.other).accepted (ledger side).counted with
    | nil =>
        rw [ahead, List.drop_eq_nil_iff, List.length_take, sealedLog_length,
          ← own.peerLength] at shape
        omega
    | cons first others =>
        have found := (ahead_cons shape).1
        have short := unfinished first
          ((sealedLog box key side.other.nonceMSB
            (session.endpoint side.other).accepted).drop ((ledger side).counted + 1)) (by
              rw [List.drop_eq_getElem?_toList_append, found]
              rfl)
        change _ = frames (ahead box key side _ _ _) at rest
        rw [rest, shape, frames_cons, List.length_append] at short
        omega
  rw [own.returned, own.drained buffer, counted, own.peerLength]
  exact List.take_length

/-- A recovery under way never stands at the fatal branch of
`BackedWriter::recover`. -/
theorem Refines.not_ahead (refines : session.Refines box proto key ledger)
    (consistent : Ledger.Consistent ledger) {side : Side}
    {socket : Fd} {activity : Activity (Bool × Connection)}
    (recovering : (session.endpoint side).recovering = some (socket, activity)) :
    activity.program ≠ .abort "Something went really wrong, client is ahead of server" := by
  obtain ⟨stage, rfl, notAhead⟩ := (refines.facing consistent side).stage recovering
  intro aborted
  exact notAhead (Connection.recoverAt_aborted aborted)

end Session

namespace Session

/-- What this side has returned is a beginning of what its peer accepted, all of it once a common
socket is drained, and its recovery does not find the peer ahead. -/
structure DeliversOnce (session : Session) (side : Side) : Prop where
  ordered : (session.endpoint side).returned <+: (session.endpoint side.other).accepted
  whole (socket : Fd) : session.Drained socket →
    (session.endpoint side).returned = (session.endpoint side.other).accepted
  notAhead (socket : Fd) (activity : Activity (Bool × Connection)) :
    (session.endpoint side).recovering = some (socket, activity) →
      activity.program ≠ .abort "Something went really wrong, client is ahead of server"

theorem deliversOnce_of_reachable
    (reached : (sessionSystem box proto key).ReachableBy withinLimits session) (side : Side) :
    session.DeliversOnce side := by
  obtain ⟨ledger, reachable, refines⟩ := Session.reachable_refines reached
  have consistent := Ledger.reachable_consistent reachable
  exact ⟨refines.returned_prefix side,
    fun _ drained => refines.drained consistent drained side,
    fun _ _ recovering => refines.not_ahead consistent recovering⟩

/-- Whatever a socket has brought, `read` returns. -/
theorem read_returns (reached : (sessionSystem box proto key).ReachableBy withinLimits session)
    (side : Side) {outcome : Outcome Exn (Option Packet × Connection)} {wires : Wires}
    (idle : (session.endpoint side).recovering = none)
    (run : Program.Run (Wires.answers side) session.wires
      ((session.endpoint side).connection.read box) outcome wires) :
    ∃ result, outcome = .returned result := by
  obtain ⟨ledger, reachable, refines⟩ := Session.reachable_refines reached
  have consistent := Ledger.reachable_consistent reachable
  obtain ⟨packet, connection, returned, _⟩ :=
    (refines.facing consistent side).read idle run
  exact ⟨(packet, connection), returned⟩

end Session

/-- In every interleaving of writes, reads, losses and recoveries, as long as no message of a
recovery is sent again after a part of it. -/
theorem session_delivers_exactly_once (box : SecretBox) (proto : Protobuf) (key : Key)
    {session : Session}
    (reached : (stallingSystem box proto key).ReachableBy Session.sendsOnce session)
    (side : Side) : session.DeliversOnce side :=
  Session.deliversOnce_of_reachable (Session.reachable_of_sendsOnce reached) side

namespace Session

/-! The first packet arrives, the second is cut off and the third is written without a socket.
The client completes a recovery that fails at the server, and then both complete one. -/

def greeting : Packet := Packet.plain 7 [1, 2, 3]

def recoveredPackets : List Packet :=
  [greeting, Packet.plain 7 [4], Packet.plain 7 [5, 6]]

def headerEvents (socket : Fd) : List (Side × SessionEvent) :=
  [(.client, .recover socket), (.server, .recover socket),
    (.client, .send 8), (.client, .send 2), (.server, .send 8), (.server, .send 2),
    (.client, .receive 8), (.client, .receive 2), (.server, .receive 8), (.server, .receive 2)]

def closeEvents : List (Side × SessionEvent) :=
  [(.client, .closeSocket), (.server, .closeSocket)]

/-- The client's packets go to the server, which has none.  The catch-up takes 43 bytes. -/
def catchUpEvents : List (Side × SessionEvent) :=
  [(.server, .send 8), (.client, .send 8), (.client, .send 43), (.client, .receive 8),
    (.client, .finish)]

def interruptedEvents : List (Side × SessionEvent) :=
  [(.client, .write greeting), (.server, .read), (.client, .write (Packet.plain 7 [4])),
    (.client, .lose 0 30), (.server, .read)] ++
  closeEvents ++ [(.client, .write (Packet.plain 7 [5, 6]))] ++
  headerEvents 1 ++ catchUpEvents ++
  [(.server, .receive 8), (.server, .receive 20), (.server, .fail "Socket Timeout"),
    (.server, .close), (.server, .finish), (.client, .closeSocket)]

def recoveredEvents : List (Side × SessionEvent) :=
  interruptedEvents ++ headerEvents 2 ++ catchUpEvents ++
  [(.server, .receive 8), (.server, .receive 43), (.server, .finish),
    (.server, .read), (.server, .read)]

/-- Both ends are on the socket with nothing left on it, and the server has returned the
packets. -/
def hasRecovered (session : Session) (socket : Fd) (packets : List Packet) : Bool :=
  ([Side.client, .server].all fun side =>
    (session.endpoint side).recovering.isNone &&
      (session.endpoint side).connection.socketFd == some socket &&
      (session.endpoint side).connection.reader.localBuffer.isEmpty &&
      (session.wires socket side).taken == (session.wires socket side).sent.length) &&
    (session.endpoint .server).returned == packets

theorem hasRecovered_drained {session : Session} {socket : Fd} {packets : List Packet}
    (recovered : session.hasRecovered socket packets = true) :
    session.Drained socket ∧ (session.endpoint .server).returned = packets := by
  simp only [hasRecovered, List.all_cons, List.all_nil, Bool.and_true, Bool.and_eq_true,
    Option.isNone_iff_eq_none, beq_iff_eq, List.isEmpty_iff] at recovered
  obtain ⟨⟨client, server⟩, returned⟩ := recovered
  refine ⟨?_, returned⟩
  intro side
  cases side with
  | client => exact ⟨client.1.1.1, client.1.1.2, client.1.2, client.2⟩
  | server => exact ⟨server.1.1.1, server.1.1.2, server.1.2, server.2⟩

theorem exists_recovered : ∃ session,
    (stallingSystem SecretBox.nullCipher Protobuf.standard Key.zero).ReachableBy sendsOnce
      session ∧ session.hasRecovered 2 recoveredPackets = true :=
  (execution _ _ _).exists_reached sendsOnce (recoveredEvents.map .inl) _ (.start rfl)
    (by decide +kernel)

end Session

theorem session_delivers_exactly_once_recovered :
    ∃ session : Session, session.Drained 2 ∧
      (session.endpoint .server).returned = Session.recoveredPackets ∧
      (session.endpoint .client).accepted = Session.recoveredPackets := by
  obtain ⟨session, reached, recovered⟩ := Session.exists_recovered
  obtain ⟨drained, returned⟩ := Session.hasRecovered_drained recovered
  have delivers := session_delivers_exactly_once _ _ _ reached .server
  exact ⟨session, drained, returned, (delivers.whole 2 drained).symm.trans returned⟩

/-! ### A catch-up that is sent again -/

namespace Session

/-- Three packets are written without a socket.  Of their catch-up, 80 bytes, the first two go
out ... -/
def stalledEvents : List (Side × SessionEvent) :=
  closeEvents ++
  [(.client, .write (Packet.plain 7 [])), (.client, .write (Packet.plain 7 [])),
    (.client, .write (Packet.plain 7 (List.replicate 20 0)))] ++
  headerEvents 1 ++
  [(.server, .send 8), (.client, .send 8), (.client, .send 40)]

/-- ... and then all of them.  The server takes the first 80 bytes, which are four packets, and
says so on the next socket. -/
def resentEvents : List (Side × SessionEvent) :=
  [(.client, .send 80), (.server, .receive 8), (.server, .receive 80), (.server, .finish),
    (.client, .receive 8), (.client, .finish)] ++
  closeEvents ++ headerEvents 2

def resentLabels : List ((Side × SessionEvent) ⊕ Side) :=
  stalledEvents.map .inl ++ [.inr .client] ++ resentEvents.map .inl

/-- What has ended the process in the `recover` of this side. -/
def abortedWith (session : Session) (side : Side) : Option String :=
  match (session.endpoint side).recovering with
  | some (_, ⟨.abort message, _⟩) => some message
  | _ => none

theorem exists_aborted_of {session : Session} {side : Side} {message : String}
    (aborted : session.abortedWith side = some message) :
    ∃ socket activity, (session.endpoint side).recovering = some (socket, activity) ∧
      activity.program = .abort message := by
  unfold abortedWith at aborted
  split at aborted
  · rename_i recovering
    cases aborted
    exact ⟨_, _, recovering, rfl⟩
  · cases aborted

end Session

/-- The server counts four packets of three, and its next header ends the client. -/
theorem resent_catchup_runs_ahead :
    ¬ ∀ session, (stallingSystem SecretBox.nullCipher Protobuf.standard Key.zero).ReachableBy
      Session.limited session → ∀ side, session.DeliversOnce side := by
  intro delivers
  obtain ⟨session, reached, ahead⟩ :=
    (Session.execution SecretBox.nullCipher Protobuf.standard Key.zero).exists_reached
      Session.limited Session.resentLabels
      (fun session => session.abortedWith .client ==
        some "Something went really wrong, client is ahead of server")
      (.start rfl) (by decide +kernel)
  obtain ⟨socket, activity, recovering, aborted⟩ :=
    Session.exists_aborted_of (beq_iff_eq.mp ahead)
  exact (delivers session reached .client).notAhead socket activity recovering aborted

end EternalTerminal
