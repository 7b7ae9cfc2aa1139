/-
The size of the catch-ups that the two ends of a session build for each other.

Connected, an end trims its backup, and nothing that it can be asked for is beyond the size of a
message.  Without a socket it goes on buffering: what the peer lacked before comes on top, and a
recovery that only the writing end completes starts the count of the buffered bytes again.
-/

import EternalTerminal.Session.Announcing
import EternalTerminal.Session.Delivery

namespace EternalTerminal

open Library
open SocketHandler

section Ends

variable {box : SecretBox} {proto : Protobuf} {key : Key} {side : Side}
  {endpoint : Endpoint} {peerAccepted : List Packet} {own peer : Party}
  {outgoing incoming : Fd → Stream} {used : Fd → Bool} {socket : Fd} {count : Nat}
  {activity : Activity (Bool × Connection)} {message : String}

theorem Connection.stage_not_aborted {connection : Connection} {stage : Connection.RecoverStage}
    (runs : stage ≠ .aborted message) :
    (connection.recoverAt proto socket stage).program ≠ .abort message := by
  intro aborted
  exact runs (Connection.recoverAt_aborted aborted)

theorem Facing.send_runs
    (facing : Facing box proto key side endpoint peerAccepted own peer outgoing incoming
      used)
    (recovering : endpoint.recovering = some (socket, activity))
    (positive : 0 < count) (bound : count ≤ activity.outgoing.length) :
    (activity.send count).program ≠ .abort message := by
  cases facing.sends recovering (outgoing_ne_nil positive bound) with
  | announcing _ _ whole _ _ =>
      rw [Connection.announcing_send (whole.trans facing.headerFrame_eq.symm) bound]
      apply Connection.stage_not_aborted
      split
      · exact nofun
      · exact nofun
  | catchingUp _ _ _ whole _ _ =>
      rw [Connection.catchingUp_send whole bound]
      apply Connection.stage_not_aborted
      split
      · exact nofun
      · exact nofun

theorem Facing.stage_not_aborted {counted : Nat}
    (facing : Facing box proto key side endpoint peerAccepted own peer outgoing incoming
      used)
    (dead : endpoint.connection.Dead) (behind : counted ≤ own.accepted)
    (small : endpoint.connection.writer.entriesAfter counted ≤ MAX_PROTO_BYTES) :
    endpoint.connection.stageAfterHeader proto { sequenceNumber := Int32.ofInt counted } ≠
      .aborted message := by
  have short := facing.short
  have acceptedEq := facing.accepted
  obtain ⟨sinceLoss, backs⟩ := facing.backs
  have answer := backs.recover_eq dead.writer
    (show counted ≤ (sealedLog box key side.nonceMSB endpoint.accepted).length by
      rw [sealedLog_length, ← acceptedEq]
      exact behind)
  unfold Connection.stageAfterHeader
  simp only [toInt_ofInt (show counted < 2 ^ 31 by omega)]
  split at answer
  · have size := BackedWriter.recovered_size answer
    rw [answer]
    simp only
    rw [if_neg (by rw [proto.catchupBuffer_size, size]; omega)]
    exact nofun
  · rw [answer]
    exact nofun

theorem Facing.receive_runs
    (facing : Facing box proto key side endpoint peerAccepted own peer outgoing incoming
      used)
    (recovering : endpoint.recovering = some (socket, activity))
    (positive : 0 < count) (bound : count ≤ activity.wanted)
    (arrived : count ≤ (incoming socket).available.length)
    (fits : ∀ last, own.doing = .awaitingHeader socket →
      announcement proto last <+: (incoming socket).sent →
        endpoint.connection.writer.entriesAfter last ≤ MAX_PROTO_BYTES) :
    (activity.receive ((incoming socket).available.take count)).program ≠ .abort message := by
  have receives := facing.receives recovering (by omega)
  generalize activity.wanted = wanted at receives bound
  cases receives with
  | header doingEq dead sentEq consumed status =>
      rcases facing.header_arrives doingEq consumed status positive bound arrived with
        ⟨counted, announced, behind, whole, activityEq⟩ | ⟨left, more, activityEq⟩
      · have stream : announcement proto counted <+: (incoming socket).sent := by
          rw [← whole, ← consumed]
          exact ((List.prefix_append_right_inj _).mpr (List.take_prefix _ _)).trans
            (incoming socket).consumed_available
        have small := fits counted doingEq stream
        rw [activityEq]
        exact Connection.stage_not_aborted (facing.stage_not_aborted dead behind small)
      · rw [activityEq]
        exact Connection.stage_not_aborted nofun
  | catchup doingEq shape dead sentEq consumed status =>
      rcases facing.catchup_arrives shape consumed status positive bound arrived with
        ⟨_, _, _, _, _, activityEq⟩ | ⟨_, _, activityEq⟩
      · rw [activityEq]
        exact Connection.stage_not_aborted nofun
      · rw [activityEq]
        exact Connection.stage_not_aborted nofun

end Ends

namespace Session

variable {box : SecretBox} {proto : Protobuf} {key : Key} {before after session : Session}
  {side mover : Side} {ledger : Ledger} {event : SessionEvent} {last : Nat}

/-! ### What may be asked for fits -/

def CatchupsBounded (proto : Protobuf) (session : Session) : Prop :=
  ∀ side last, session.MayAsk proto side last →
    (session.endpoint side).connection.writer.entriesAfter last ≤ MAX_PROTO_BYTES

/-- A packet that is buffered without a socket fits a catch-up, with the backed up packets that
the other side may ask for. -/
def buffersWithin (proto : Protobuf) (session : Session) : Side × SessionEvent → Prop
  | (side, .write packet) =>
      (session.endpoint side).connection.writer.socketFd = none →
      (session.endpoint side).connection.writer.admits packet = true →
        ∀ last, session.MayAsk proto side last →
          entryBytes (packet.length + crypto_secretbox_MACBYTES) +
            (session.endpoint side).connection.writer.entriesAfter last ≤ MAX_PROTO_BYTES
  | _ => True

/-- The writer of a step changes its backup only when it accepts a packet. -/
theorem Step.backup (step : Session.Step box proto before mover event after)
    (refines : before.Refines box proto key ledger) (consistent : Ledger.Consistent ledger) :
    (before.endpoint mover).connection.writer.SameBackup
        (after.endpoint mover).connection.writer ∨
      ∃ packet, event = .write packet ∧
        (before.endpoint mover).connection.writer.admits packet = true ∧
        ((before.endpoint mover).connection.writer.accept box packet).SameBackup
          (after.endpoint mover).connection.writer := by
  have facing := refines.facing consistent mover
  have kept {connection : Connection} {endpoint : Endpoint}
      (same : (before.endpoint mover).connection.writer.SameBackup connection.writer)
      (isNow : endpoint.connection = connection) :
      (before.endpoint mover).connection.writer.SameBackup
        (Function.update before.endpoint mover endpoint mover).connection.writer := by
    rw [Function.update_self, isNow]
    exact same
  cases step with
  | @write packet accepted connection wires idle run =>
      have added (same : ((before.endpoint mover).connection.writer.accept box packet).SameBackup
          connection.writer) (isAccepted : accepted = true) :
          ∃ packet', SessionEvent.write packet = .write packet' ∧
            (before.endpoint mover).connection.writer.admits packet' = true ∧
            ((before.endpoint mover).connection.writer.accept box packet').SameBackup
              (Function.update before.endpoint mover
                { before.endpoint mover with
                  connection := connection
                  accepted := (before.endpoint mover).accepted ++
                    if accepted then [packet] else [] } mover).connection.writer := by
        refine ⟨packet, rfl, ?_, ?_⟩
        · cases admitted : (before.endpoint mover).connection.writer.admits packet with
          | true => rfl
          | false =>
              unfold Connection.write at run
              rw [BackedWriter.write_skipped box _ packet admitted, Program.done_bind] at run
              obtain ⟨skipped, _⟩ := Program.run_done_iff.mp run
              cases skipped
              cases isAccepted
        · rw [Function.update_self]
          exact same
      have result := Connection.write_run run
      cases result with
      | skipped => exact Or.inl (kept ⟨rfl, rfl⟩ rfl)
      | buffered _ _ => exact Or.inr (added ⟨rfl, rfl⟩ rfl)
      | written _ _ => exact Or.inr (added ⟨rfl, rfl⟩ rfl)
      | severed count _ _ => exact Or.inr (added (Connection.closed_counts _).2 rfl)
  | read idle run => exact Or.inl (kept (read_counts facing idle run).2.1 rfl)
  | closeSocket idle run =>
      obtain ⟨rfl, same⟩ := Connection.closeSocket_run run
      cases same
      exact Or.inl (kept (Connection.closed_counts _).2 rfl)
  | recover | send | receive | fail | close => exact Or.inl (kept ⟨rfl, rfl⟩ rfl)
  | finish recovering done => exact Or.inl (kept (finish_counts facing recovering done).2 rfl)
  | lose => exact Or.inl ⟨rfl, rfl⟩

theorem Step.bounded (step : Session.Step box proto before mover event after)
    (refines : before.Refines box proto key ledger) (consistent : Ledger.Consistent ledger)
    (firstSocket : ledger.FirstSocket) (allowed : before.buffersWithin proto (mover, event))
    (bounded : before.CatchupsBounded proto) : after.CatchupsBounded proto := by
  have advances := step.advances refines consistent firstSocket
  have facing := refines.facing consistent mover
  intro side last asks
  rcases side.eq_or_eq_other mover with rfl | rfl
  · have asked := advances.own asks
    rcases step.backup refines consistent with same | ⟨packet, rfl, admitted, same⟩
    · rw [same.entriesAfter]
      exact bounded _ last asked
    · rw [same.entriesAfter]
      obtain ⟨sinceLoss, backs⟩ := facing.backs
      by_cases dead : (before.endpoint side).connection.writer.socketFd = none
      · have entries := BackedWriter.backup_dead_entries dead
          (packet.sealed box (before.endpoint side).connection.writer.cryptoHandler)
          (before.endpoint side).connection.writer.cryptoHandler.incrementNonce last
        rw [Packet.sealed_length] at entries
        exact entries.trans (allowed dead admitted last asked)
      · exact backs.backup_alive_fits dead _ _ last
  · have short : (before.endpoint mover).connection.reader.sequenceNumber < 2 ^ 31 := by
      have bound := facing.consistent.counted_le
      have peerShort := facing.peerShort
      rw [facing.peerLength] at bound
      rw [facing.counted]
      omega
    obtain ⟨earlier, fewer, asked⟩ := advances.other short asks
    rw [advances.peer]
    exact (BackedWriter.entriesAfter_antitone _ fewer).trans (bounded _ earlier asked)

def Unaborted (session : Session) : Prop :=
  ∀ side socket activity message,
    (session.endpoint side).recovering = some (socket, activity) →
      activity.program ≠ .abort message

theorem Step.unaborted (step : Session.Step box proto before mover event after)
    (refines : before.Refines box proto key ledger) (consistent : Ledger.Consistent ledger)
    (firstSocket : ledger.FirstSocket) (bounded : before.CatchupsBounded proto)
    (unaborted : before.Unaborted) : after.Unaborted := by
  have advances := step.advances refines consistent firstSocket
  have facing := refines.facing consistent mover
  intro side socket activity message recovering
  rcases side.eq_or_eq_other mover with rfl | rfl
  · have own {endpoint : Endpoint}
        (runs : endpoint.recovering = some (socket, activity) → activity.program ≠ .abort message)
        (now : (Function.update before.endpoint side endpoint side).recovering =
          some (socket, activity)) : activity.program ≠ .abort message := by
      rw [Function.update_self] at now
      exact runs now
    have was := unaborted side socket activity message
    cases step with
    | write _ _ =>
        refine own ?_ recovering
        exact was
    | read _ _ =>
        refine own ?_ recovering
        exact was
    | closeSocket _ _ =>
        refine own ?_ recovering
        exact was
    | recover _ _ _ =>
        refine own (fun now => ?_) recovering
        cases now
        rw [Connection.recover_begin]
        exact Connection.stage_not_aborted nofun
    | send at_ positive bound =>
        refine own (fun now => ?_) recovering
        cases now
        exact facing.send_runs at_ positive bound
    | receive at_ positive bound arrived =>
        refine own (fun now => ?_) recovering
        cases now
        refine facing.receive_runs at_ positive bound arrived fun last doingEq announced => ?_
        refine bounded side last (Or.inr ⟨socket, ?_, Or.inr ⟨_, at_⟩, announced⟩)
        intro isFirst
        obtain ⟨packets, shape⟩ := (firstSocket side socket).mpr isFirst
        cases shape.symm.trans (facing.consistent.awaitingHeader socket doingEq)
    | @fail _ old what at_ =>
        refine own (fun now => ?_) recovering
        cases now
        have runs := unaborted side socket old message at_
        obtain ⟨stage, same, _⟩ := facing.stage at_
        rw [same] at runs ⊢
        by_cases transfers : stage.transfers
        · rw [(Connection.recoverAt_fail what stage).1 transfers]
          exact Connection.stage_not_aborted nofun
        · rw [(Connection.recoverAt_fail what stage).2 transfers]
          exact runs
    | @close _ old at_ =>
        refine own (fun now => ?_) recovering
        cases now
        have runs := unaborted side socket old message at_
        obtain ⟨stage, same, _⟩ := facing.stage at_
        rw [same] at runs ⊢
        rw [Connection.recoverAt_closed]
        split
        · exact Connection.stage_not_aborted nofun
        · exact runs
    | finish _ _ =>
        refine own ?_ recovering
        exact nofun
    | lose => exact was recovering
  · rw [advances.peer] at recovering
    exact unaborted mover.other socket activity message recovering

/-! ### Every run -/

theorem initial_bounded : (Session.initial key).CatchupsBounded proto := by
  intro side last _
  unfold BackedWriter.entriesAfter
  rw [show ((Session.initial key).endpoint side).connection.writer.backupBuffer = [] from rfl,
    List.take_nil]
  exact Nat.zero_le _

/-- Every write is within the limits of a direction, and what is buffered fits. -/
def catchupLimits (proto : Protobuf) (session : Session) (label : Side × SessionEvent) : Prop :=
  session.withinLimits label ∧ session.buffersWithin proto label

theorem reachable_bounded
    (reached : (sessionSystem box proto key).ReachableBy (catchupLimits proto) session) :
    ∃ ledger, ledgerSystem.Reachable ledger ∧ session.Refines box proto key ledger ∧
      session.CatchupsBounded proto ∧ session.Unaborted := by
  induction reached with
  | start initial =>
      rw [show _ = Session.initial key from initial]
      refine ⟨_, .start rfl, initial_refines, initial_bounded, ?_⟩
      intro side socket activity message recovering
      cases recovering
  | next _ allowed step ih =>
      obtain ⟨ledger, reachable, refines, bounded, unaborted⟩ := ih
      have consistent := Ledger.reachable_consistent reachable
      have firstSocket := Ledger.reachable_firstSocket reachable
      obtain ⟨ledgerAfter, run, refinesAfter⟩ :=
        Step.refines step allowed.1 refines consistent
      exact ⟨ledgerAfter, run.reachable reachable, refinesAfter,
        Step.bounded step refines consistent firstSocket allowed.2 bounded,
        Step.unaborted step refines consistent firstSocket bounded unaborted⟩

/-- What a side builds for the number that it may be asked from is no longer than a message, no
frame that follows a header is, and no recovery has ended the process. -/
structure CatchupsFit (proto : Protobuf) (session : Session) (side : Side) : Prop where
  built : ∀ (last : Nat) recovered, session.MayAsk proto side last →
    (session.endpoint side).connection.writer.recover last = .done recovered →
      (proto.catchupBuffer.serialize { buffer := recovered }).length ≤ MAX_PROTO_BYTES
  framed : ∀ socket counted rest, socket ≠ 0 →
    (session.wires socket side).sent = announcement proto counted ++ rest → 8 ≤ rest.length →
      0 ≤ SocketHandler.frameLength rest ∧ SocketHandler.frameLength rest ≤ MAX_PROTO_BYTES
  running : ∀ socket activity message,
    (session.endpoint side).recovering = some (socket, activity) →
      activity.program ≠ .abort message

theorem Refines.framed (refines : session.Refines box proto key ledger)
    (firstSocket : ledger.FirstSocket) {socket : Fd} {counted : Nat} {rest : Bytes}
    (notFirst : socket ≠ 0)
    (sent : (session.wires socket side).sent = announcement proto counted ++ rest)
    (long : 8 ≤ rest.length) :
    0 ≤ SocketHandler.frameLength rest ∧ SocketHandler.frameLength rest ≤ MAX_PROTO_BYTES := by
  have stream := (refines side).sent socket
  rw [show (session.outgoing side socket).sent = _ from sent] at stream
  have length := stream.length_le
  cases shape : (ledger side).script socket with
  | initial packets => exact absurd ((firstSocket side socket).mp ⟨packets, shape⟩) notFirst
  | silent =>
      rw [shape] at length
      simp only [Script.bytes, Script.preamble, Script.packets, frames_nil, List.append_nil,
        List.length_append, List.length_nil] at length
      omega
  | hello announced =>
      rw [shape] at stream length
      simp only [Script.bytes, Script.preamble, Script.packets, frames_nil, List.append_nil,
        List.length_append] at stream length
      have same := announcement_unique ((List.prefix_append _ _).trans stream) List.prefix_rfl
      rw [same] at length
      omega
  | exchange announced base upto packets =>
      have fits := (refines side).fits socket announced base upto packets shape
      rw [shape, Script.bytes, Script.preamble, List.append_assoc] at stream
      have same := announcement_unique ((List.prefix_append _ _).trans stream)
        (List.prefix_append _ _)
      rw [same] at stream
      have follows := (List.prefix_append_right_inj _).mp stream
      have frameLong := frameLength_prefix fits follows long
      rw [frameLong]
      exact ⟨Int.natCast_nonneg _, Int.ofNat_le.mpr fits⟩

end Session

namespace Session

def smallWrites (session : Session) : Side × SessionEvent → Prop
  | (side, .write packet) =>
      session.withinLimits (side, .write packet) ∧
        entryBytes (packet.length + crypto_secretbox_MACBYTES) +
          entriesBytes (session.endpoint side).connection.writer.backupBuffer ≤ MAX_PROTO_BYTES
  | _ => True

instance (session : Session) (label : Side × SessionEvent) :
    Decidable (session.smallWrites label) :=
  match label with
  | (_, .write _) => inferInstanceAs (Decidable (_ ∧ _))
  | (_, .read) | (_, .closeSocket) | (_, .recover _) | (_, .send _) | (_, .receive _)
  | (_, .fail _) | (_, .close) | (_, .finish) | (_, .lose _ _) => inferInstanceAs (Decidable True)

theorem smallWrites_limits (proto : Protobuf) (session : Session)
    (label : Side × SessionEvent) (small : session.smallWrites label) :
    catchupLimits proto session label := by
  obtain ⟨side, event⟩ := label
  cases event with
  | write packet =>
      refine ⟨small.1, fun _ _ last _ => ?_⟩
      have part : (session.endpoint side).connection.writer.entriesAfter last ≤
          entriesBytes (session.endpoint side).connection.writer.backupBuffer :=
        entriesBytes_take_le _ _
      exact le_trans (Nat.add_le_add_left part _) small.2
  | read | closeSocket | recover _ | send _ | receive _ | fail _ | close | finish | lose _ _ =>
      exact ⟨trivial, trivial⟩

def oneSidedEvents : List (Side × SessionEvent) :=
  interruptedEvents ++ [(.client, .write (Packet.plain 7 [8]))]

/-- The client's writer has this many packets, the last of them since its socket is gone. -/
def hasBuffered (session : Session) (count : Nat) : Bool :=
  let writer := (session.endpoint .client).connection.writer
  writer.socketFd.isNone && writer.backupBuffer.length == count &&
    writer.disconnectedBytes == 3 + crypto_secretbox_MACBYTES

theorem exists_buffered : ∃ session,
    (sessionSystem SecretBox.nullCipher Protobuf.standard Key.zero).ReachableBy smallWrites
      session ∧ session.hasBuffered 4 = true :=
  (steadyExecution _ _ _).exists_reached smallWrites oneSidedEvents _ (.start rfl)
    (by decide +kernel)

end Session

namespace Session

section

variable {box : SecretBox} {proto : Protobuf} {key : Key} {session : Session} {side : Side}
  {socket : Fd} {connection : Connection} {sent got chunk rest : Bytes}

/-- The ends, with the recovery of one of them at this point. -/
def recoversAt (endpoint : Side → Endpoint) (side : Side) (socket : Fd)
    (activity : Activity (Bool × Connection)) : Side → Endpoint :=
  Function.update endpoint side
    { endpoint side with recovering := some (socket, activity) }

section

variable {endpoint : Side → Endpoint} {activity later : Activity (Bool × Connection)}

@[simp] theorem recoversAt_self :
    recoversAt endpoint side socket activity side =
      { endpoint side with recovering := some (socket, activity) } := Function.update_self ..

@[simp] theorem recoversAt_other :
    recoversAt endpoint side socket activity side.other = endpoint side.other :=
  Function.update_of_ne side.other_ne ..

@[simp] theorem recoversAt_recoversAt :
    recoversAt (recoversAt endpoint side socket activity) side socket later =
      recoversAt endpoint side socket later := by
  unfold recoversAt
  simp

end

theorem announcing_next (side : Side) (socket : Fd) (chunk rest : Bytes)
    (reached : (sessionSystem box proto key).ReachableBy withinLimits session)
    (recovering : (session.endpoint side).recovering =
      some (socket, connection.recoverAt proto socket (.announcing sent)))
    (outgoing : (connection.recoverAt proto socket (.announcing sent)).outgoing = chunk)
    (nonempty : chunk ≠ []) (whole : sent ++ (chunk ++ rest) = connection.headerFrame proto) :
    ∃ after, (sessionSystem box proto key).ReachableBy withinLimits after ∧
      after.endpoint = recoversAt session.endpoint side socket (connection.recoverAt proto socket
        (if rest = [] then .awaitingHeader [] else .announcing (sent ++ chunk))) ∧
      after.wires = session.wires.update socket side (·.append chunk) ∧
      after.used = session.used := by
  have positive : 0 < chunk.length := List.length_pos_iff.mpr nonempty
  have within : chunk.length ≤
      (connection.recoverAt proto socket (.announcing sent)).outgoing.length := by
    rw [outgoing]
  have sends := Connection.announcing_send whole within
  rw [List.drop_left, List.take_left] at sends
  have allowed : session.withinLimits (side, .send chunk.length) := trivial
  refine ⟨_, reached.next allowed (.send recovering positive within), ?_, ?_, rfl⟩
  · rw [sends]
    rfl
  · rw [outgoing, List.take_length]

/-- An end that has counted nothing recovers up to the header of its peer. -/
theorem announces (side : Side) (socket : Fd)
    (reached : (sessionSystem box Protobuf.standard key).ReachableBy withinLimits session)
    (idle : (session.endpoint side).recovering = none)
    (dead : (session.endpoint side).connection.socketFd = none)
    (fresh : session.used socket side = false)
    (uncounted : (session.endpoint side).connection.reader.sequenceNumber = 0) :
    ∃ after, (sessionSystem box Protobuf.standard key).ReachableBy withinLimits after ∧
      after.endpoint = recoversAt session.endpoint side socket
        ((session.endpoint side).connection.recoverAt Protobuf.standard socket
          (.awaitingHeader [])) ∧
      after.wires = (session.wires.update socket side
        (·.append [2, 0, 0, 0, 0, 0, 0, 0])).update socket side (·.append [8, 0]) ∧
      ∀ other, after.used other side.other = session.used other side.other := by
  have serialized : Protobuf.standard.sequenceHeader.serialize
      (session.endpoint side).connection.sequenceHeader = [8, 0] := by
    unfold Connection.sequenceHeader
    rw [uncounted]
    decide
  have whole : [] ++ ([2, 0, 0, 0, 0, 0, 0, 0] ++ [8, 0]) =
      (session.endpoint side).connection.headerFrame Protobuf.standard := by
    unfold Connection.headerFrame
    rw [serialized]
    decide
  obtain ⟨begun, reachedBegun, begunEndpoint, begunWires, begunUsed⟩ :
      ∃ begun, (sessionSystem box Protobuf.standard key).ReachableBy withinLimits begun ∧
        begun.endpoint = recoversAt session.endpoint side socket
          ((session.endpoint side).connection.recoverAt Protobuf.standard socket
            (.announcing [])) ∧
        begun.wires = session.wires ∧
        ∀ other, begun.used other side.other = session.used other side.other := by
    have allowed : session.withinLimits (side, .recover socket) := trivial
    refine ⟨_, reached.next allowed (.recover idle dead fresh), ?_, rfl, ?_⟩
    · rw [Connection.recover_begin]
      rfl
    · intro other
      simp [side.other_ne]
  obtain ⟨middle, reachedMiddle, middleEndpoint, middleWires, middleUsed⟩ :=
    announcing_next side socket [2, 0, 0, 0, 0, 0, 0, 0] [8, 0] reachedBegun
      (by rw [begunEndpoint, recoversAt_self])
      (by unfold Connection.recoverAt; simp only [serialized]; rfl) nofun whole
  rw [if_neg nofun, begunEndpoint, recoversAt_recoversAt, List.nil_append] at middleEndpoint
  obtain ⟨after, reachedAfter, afterEndpoint, afterWires, afterUsed⟩ :=
    announcing_next side socket [8, 0] [] reachedMiddle
      (by rw [middleEndpoint, recoversAt_self])
      (by unfold Connection.recoverAt; simp only [serialized]; rfl) nofun whole
  rw [if_pos rfl, middleEndpoint, recoversAt_recoversAt] at afterEndpoint
  refine ⟨after, reachedAfter, afterEndpoint, ?_, ?_⟩
  · rw [afterWires, middleWires, begunWires]
  · intro other
    rw [afterUsed, middleUsed, begunUsed]

theorem header_next (side : Side) (socket : Fd) (connection : Connection) (got chunk : Bytes)
    (reached : (sessionSystem box proto key).ReachableBy withinLimits session)
    (recovering : (session.endpoint side).recovering =
      some (socket, connection.recoverAt proto socket (.awaitingHeader got)))
    (status : frameStatus proto.sequenceHeader got = .more chunk.length)
    (nonempty : chunk ≠ []) (arrived : chunk <+: (session.wires socket side.other).available) :
    ∃ after activity, (sessionSystem box proto key).ReachableBy withinLimits after ∧
      after.endpoint = recoversAt session.endpoint side socket activity ∧
      Activity.standing proto.sequenceHeader socket
        (connection.afterHeaderRead proto socket) (connection.recoverFailed socket)
        (got ++ chunk) activity (frameStatus proto.sequenceHeader (got ++ chunk)) ∧
      after.wires = session.wires.update socket side.other (·.take chunk.length) := by
  have positive : 0 < chunk.length := List.length_pos_iff.mpr nonempty
  have within : chunk.length ≤
      (connection.recoverAt proto socket (.awaitingHeader got)).wanted := by
    rw [Connection.awaitingHeader_wanted status]
  have takes : (session.wires socket side.other).available.take chunk.length = chunk :=
    List.prefix_iff_eq_take.mp arrived |>.symm
  have receives := Connection.awaitingHeader_receive connection socket status
    (le_refl chunk.length)
  have allowed : session.withinLimits (side, .receive chunk.length) := trivial
  refine ⟨_, _, reached.next allowed (.receive recovering positive within arrived.length_le),
    ?_, receives, rfl⟩
  rw [takes]
  rfl

end

/-! A packet fills the backup on a socket that is then lost, and one more fills the buffer.  The
peer has counted neither. -/

def lostPacket (packet : Packet) : Connection :=
  ((Endpoint.initial Key.zero .client).connection.accepting SecretBox.nullCipher
    packet).invalidated

def filled (packet : Packet) : Connection :=
  (lostPacket packet).accepting SecretBox.nullCipher packet

variable {packet : Packet}

theorem filled_backup (size : packet.length = 2 ^ 26 - 16) :
    (filled packet).writer.backupBuffer =
      [packet.sealed SecretBox.nullCipher (lostPacket packet).writer.cryptoHandler,
        packet.sealed SecretBox.nullCipher
          (CryptoHandler.ofKey Key.zero CLIENT_SERVER_NONCE_MSB)] := by
  have kept : (lostPacket packet).writer.backupBuffer =
      [packet.sealed SecretBox.nullCipher
        (CryptoHandler.ofKey Key.zero CLIENT_SERVER_NONCE_MSB)] := by
    show (BackedWriter.trimOldest
      [packet.sealed SecretBox.nullCipher
        (CryptoHandler.ofKey Key.zero CLIENT_SERVER_NONCE_MSB)]
      (0 + ((packet.sealed SecretBox.nullCipher
        (CryptoHandler.ofKey Key.zero CLIENT_SERVER_NONCE_MSB)).length : Int))).1.reverse = _
    rw [Packet.sealed_length, BackedWriter.trimOldest, if_neg]
    · rfl
    · unfold BackedWriter.MAX_BACKUP_BYTES crypto_secretbox_MACBYTES
      omega
  show _ :: (lostPacket packet).writer.backupBuffer = _
  rw [kept]

theorem entryBytes_large : entryBytes (2 ^ 26) = 2 ^ 26 + 5 := by
  unfold entryBytes varintSize
  rw [Nat.log2_two_pow]
  norm_num

theorem filled_aborts (size : packet.length = 2 ^ 26 - 16) :
    ∃ message, (filled packet).stageAfterHeader Protobuf.standard { sequenceNumber := 0 } =
      .aborted message := by
  have backup := filled_backup size
  obtain ⟨recovered, answer⟩ : ∃ recovered,
      (filled packet).writer.recover (0 : Nat) = .done recovered := by
    rw [BackedWriter.recover_eq _ rfl (Nat.zero_le _), backup]
    exact ⟨_, if_pos (show (filled packet).writer.sequenceNumber - 0 ≤ 2 from le_rfl)⟩
  have large : 2 ^ 27 < (Protobuf.standard.catchupBuffer.serialize
      { buffer := recovered }).length := by
    rw [Protobuf.standard.catchupBuffer_size, BackedWriter.recovered_size answer]
    unfold BackedWriter.entriesAfter
    rw [backup]
    show 2 ^ 27 < entriesBytes [_, _]
    simp only [entriesBytes_cons, entriesBytes_nil, Packet.sealed_length, size]
    rw [show 2 ^ 26 - 16 + crypto_secretbox_MACBYTES = 2 ^ 26 from rfl, entryBytes_large]
    omega
  unfold Connection.stageAfterHeader
  rw [show (0 : Int32).toInt = ((0 : Nat) : Int) from rfl, answer]
  simp only
  rw [if_pos (show _ > MAX_PROTO_BYTES from large)]
  exact ⟨_, rfl⟩

def lostSession (packet : Packet) : Session :=
  { (Session.initial Key.zero).setEndpoint .client
      { Endpoint.initial Key.zero .client with
        connection := lostPacket packet
        accepted := [packet] } with
    wires := (Session.initial Key.zero).wires.update 0 .client (·.append []) }

def filledSession (packet : Packet) : Session :=
  (lostSession packet).setEndpoint .client
    { (lostSession packet).endpoint .client with
      connection := filled packet
      accepted := [packet, packet] }

def filledDead (packet : Packet) : Session :=
  (filledSession packet).setEndpoint .server
    { Endpoint.initial Key.zero .server with
      connection := (Endpoint.initial Key.zero .server).connection.invalidated }

theorem filledDead_reachable (plain : packet.encrypted = false)
    (size : packet.length = 2 ^ 26 - 16) :
    (sessionSystem SecretBox.nullCipher Protobuf.standard Key.zero).ReachableBy withinLimits
      (filledDead packet) := by
  have lost : (sessionSystem SecretBox.nullCipher Protobuf.standard Key.zero).step
      (Session.initial Key.zero) (.client, .write packet) (lostSession packet) :=
    Session.Step.write rfl (Connection.write_severed rfl rfl plain)
  have admitted : (lostPacket packet).writer.admits packet = true := by
    show (!(true && decide (0 + packet.length > BackedWriter.DISCONNECT_BUFFER_BYTES))) = true
    rw [size]
    decide
  have buffered : (sessionSystem SecretBox.nullCipher Protobuf.standard Key.zero).step
      (lostSession packet) (.client, .write packet) (filledSession packet) :=
    Session.Step.write rfl (Connection.write_buffered rfl admitted plain)
  have closed : (sessionSystem SecretBox.nullCipher Protobuf.standard Key.zero).step
      (filledSession packet) (.server, .closeSocket) (filledDead packet) :=
    Session.Step.closeSocket rfl (Program.run_perform_iff.mpr ⟨(), _, rfl, .done _ _⟩)
  have short : 4 + (packet.length + crypto_secretbox_MACBYTES) < 2 ^ 31 := by
    rw [size]
    decide
  have first : (Session.initial Key.zero).withinLimits (.client, .write packet) :=
    ⟨by decide, short⟩
  have second : (lostSession packet).withinLimits (.client, .write packet) :=
    ⟨show 1 + 1 < 2 ^ 31 by decide, short⟩
  have third : (filledSession packet).withinLimits (.server, .closeSocket) := trivial
  exact .next (.next (.next (.start rfl) first lost) second buffered) third closed

theorem headerLength_status :
    frameStatus Protobuf.standard.sequenceHeader [2, 0, 0, 0, 0, 0, 0, 0] = .more 2 := by
  have isPrefix : [2, 0, 0, 0, 0, 0, 0, 0] <+: protoFrame [8, 0] ++ [] := by decide
  have length := frameLength_prefix (by decide) isPrefix (by decide)
  rw [frameStatus_long (by decide), length, bodyStatus_valid (by decide) (by decide)]
  rfl

theorem exists_aborted (plain : packet.encrypted = false) (size : packet.length = 2 ^ 26 - 16) :
    ∃ session socket activity message,
      (sessionSystem SecretBox.nullCipher Protobuf.standard Key.zero).ReachableBy withinLimits
        session ∧
      (session.endpoint .client).recovering = some (socket, activity) ∧
      activity.program = .abort message := by
  obtain ⟨asked, reachedAsked, askedEndpoint, askedWires, askedUsed⟩ :=
    announces .server 1 (filledDead_reachable plain size) rfl rfl rfl rfl
  have client : asked.endpoint .client = (filledDead packet).endpoint .client := by
    rw [askedEndpoint]
    exact recoversAt_other
  obtain ⟨waits, reachedWaits, waitsEndpoint, waitsWires, _⟩ :=
    announces .client 1 reachedAsked (by rw [client]; rfl)
      (by rw [client]; rfl) ((askedUsed 1).trans rfl) (by rw [client]; rfl)
  rw [client] at waitsEndpoint
  have arrived : (waits.wires 1 .server).available = [2, 0, 0, 0, 0, 0, 0, 0] ++ [8, 0] := by
    rw [waitsWires, askedWires]
    rfl
  obtain ⟨got, activity, reachedGot, gotEndpoint, stands, gotWires⟩ :=
    header_next .client 1 (filled packet) [] [2, 0, 0, 0, 0, 0, 0, 0] reachedWaits
      (by rw [waitsEndpoint, recoversAt_self]; rfl) rfl nofun
      (arrived ▸ List.prefix_append _ _)
  rw [waitsEndpoint, recoversAt_recoversAt] at gotEndpoint
  rw [List.nil_append, headerLength_status] at stands
  change activity = (filled packet).recoverAt Protobuf.standard 1
    (.awaitingHeader [2, 0, 0, 0, 0, 0, 0, 0]) at stands
  have left : ((got.wires 1 .server).available) = [8, 0] := by
    rw [gotWires, waitsWires, askedWires]
    rfl
  obtain ⟨ended, last, reachedEnded, endedEndpoint, stopped, _⟩ :=
    header_next .client 1 (filled packet) [2, 0, 0, 0, 0, 0, 0, 0] [8, 0] reachedGot
      (by rw [gotEndpoint, recoversAt_self, stands]) headerLength_status nofun
      (left ▸ List.prefix_rfl)
  rw [show [2, 0, 0, 0, 0, 0, 0, 0] ++ [8, 0] = protoFrame
    (Protobuf.standard.sequenceHeader.serialize { sequenceNumber := 0 }) by decide,
    frameStatus_frame _ _ (Protobuf.standard.sequenceHeader_fits _)] at stopped
  obtain ⟨message, aborts⟩ := filled_aborts size
  refine ⟨ended, 1, last, message, reachedEnded, ?_, ?_⟩
  · rw [endedEndpoint, recoversAt_self]
  · rw [show last = _ from stopped, Connection.afterHeaderRead_begin, aborts]
    rfl

theorem exists_plain (count : Nat) :
    ∃ packet : Packet, packet.encrypted = false ∧ packet.length = 2 + count := by
  refine ⟨Packet.plain 7 (List.replicate count 0), rfl, ?_⟩
  simp only [Packet.length, Packet.plain, List.length_replicate, Packet.HEADER_SIZE]

end Session
end EternalTerminal
