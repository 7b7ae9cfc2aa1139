/-
The stages of `Connection::recover`.

Whatever the chunks, a recovery under way stands at one of a few stages, each
with the bytes of its message that are already across.  The lemmas say what a
chunk, a failure and the end of a message do at each stage.
-/

import EternalTerminal.Session.Activity

namespace EternalTerminal

open Library
open SocketHandler

namespace Connection

inductive RecoverStage where
  | announcing (sent : Bytes)
  | awaitingHeader (got : Bytes)
  | catchingUp (recovered : List Bytes) (sent : Bytes)
  | awaitingCatchup (got : Bytes)
  /-- a caught exception: the new socket is closed -/
  | leaving
  | finished (result : Bool) (entries : List Bytes)
  | aborted (message : String)

variable (proto : Protobuf) (connection : Connection) (newSocketFd : Fd)

def headerFrame : Bytes :=
  protoFrame (proto.sequenceHeader.serialize connection.sequenceHeader)

def catchupFrame (proto : Protobuf) (recovered : List Bytes) : Bytes :=
  protoFrame (proto.catchupBuffer.serialize { buffer := recovered })

def recoverAt : RecoverStage → Activity (Bool × Connection)
  | .announcing sent =>
      Activity.sending newSocketFd
        (proto.sequenceHeader.serialize connection.sequenceHeader)
        ((connection.afterHeaderWritten proto newSocketFd).handle
          (connection.recoverFailed newSocketFd))
        (connection.recoverFailed newSocketFd) sent
  | .awaitingHeader got =>
      Activity.reading proto.sequenceHeader newSocketFd
        (connection.afterHeaderRead proto newSocketFd)
        (connection.recoverFailed newSocketFd) got
  | .catchingUp recovered sent =>
      Activity.sending newSocketFd
        (proto.catchupBuffer.serialize { buffer := recovered })
        ((connection.afterCatchupWritten proto newSocketFd).handle
          (connection.recoverFailed newSocketFd))
        (connection.recoverFailed newSocketFd) sent
  | .awaitingCatchup got =>
      Activity.reading proto.catchupBuffer newSocketFd
        (connection.afterCatchupRead newSocketFd)
        (connection.recoverFailed newSocketFd) got
  | .leaving =>
      Activity.begin (SocketHandler.close newSocketFd >>= fun _ =>
        pure (false, connection))
  | .finished true entries =>
      Activity.begin (pure (true, connection.revived newSocketFd entries))
  | .finished false _ => Activity.begin (pure (false, connection))
  | .aborted message => Activity.begin (.abort message)

variable {proto connection newSocketFd}

/-- `recover` starts at its first stage. -/
theorem recover_begin :
    Activity.begin (connection.recover proto newSocketFd) =
      connection.recoverAt proto newSocketFd (.announcing []) := by
  rw [recover, Program.tryCatch_eq_handle, exchange_eq,
    Activity.writeProto_begin _ _ _ (proto.sequenceHeader_fits _)]
  rfl

/-! ### Announcing -/

theorem announcing_outgoing (newSocketFd : Fd) {sent unsent : Bytes}
    (whole : sent ++ unsent = connection.headerFrame proto) :
    (connection.recoverAt proto newSocketFd (.announcing sent)).outgoing <+: unsent :=
  Activity.sending_outgoing whole

theorem announcing_send {sent unsent : Bytes} {count : Nat}
    (whole : sent ++ unsent = connection.headerFrame proto)
    (bound : count ≤
      (connection.recoverAt proto newSocketFd (.announcing sent)).outgoing.length) :
    (connection.recoverAt proto newSocketFd (.announcing sent)).send count =
      connection.recoverAt proto newSocketFd
        (if unsent.drop count = [] then .awaitingHeader []
        else .announcing (sent ++ unsent.take count)) := by
  have step := Activity.sending_send whole bound
  refine Eq.trans step ?_
  by_cases last : unsent.drop count = []
  · rw [if_pos last, if_pos last, afterHeaderWritten]
    exact Activity.readProto_begin
  · rw [if_neg last, if_neg last]
    rfl

/-! ### Awaiting the header -/

theorem awaitingHeader_wanted {got : Bytes} {count : Nat}
    (status : frameStatus proto.sequenceHeader got = .more count) :
    (connection.recoverAt proto newSocketFd (.awaitingHeader got)).wanted = count :=
  Activity.reading_wanted status

theorem awaitingHeader_receive (connection : Connection) (newSocketFd : Fd)
    {got chunk : Bytes} {count : Nat}
    (status : frameStatus proto.sequenceHeader got = .more count)
    (bound : chunk.length ≤ count) :
    Activity.standing proto.sequenceHeader newSocketFd
      (connection.afterHeaderRead proto newSocketFd)
      (connection.recoverFailed newSocketFd) (got ++ chunk)
      ((connection.recoverAt proto newSocketFd (.awaitingHeader got)).receive chunk)
      (frameStatus proto.sequenceHeader (got ++ chunk)) :=
  Activity.reading_receive status bound

def stageAfterHeader (proto : Protobuf) (connection : Connection)
    (remoteHeader : SequenceHeader) : RecoverStage :=
  match connection.writer.recover remoteHeader.sequenceNumber.toInt with
  | .done recovered =>
      if (proto.catchupBuffer.serialize { buffer := recovered }).length >
          MAX_PROTO_BYTES then
        .aborted ("Invalid proto length: " ++
          toString (proto.catchupBuffer.serialize { buffer := recovered }).length)
      else .catchingUp recovered []
  | .raise _ => .leaving
  | .abort message => .aborted message
  | .perform _ _ => .leaving

/-- `BackedWriter::recover` performs no operation and throws one exception. -/
theorem recover_shape (writer : BackedWriter) (last : Int) :
    (∃ recovered, writer.recover last = .done recovered) ∨
    (∃ what, writer.recover last = .raise (.runtimeError what)) ∨
    (∃ message, writer.recover last = .abort message) := by
  unfold BackedWriter.recover
  split
  · exact Or.inr (Or.inl ⟨_, rfl⟩)
  · simp only
    split
    · exact Or.inr (Or.inr ⟨_, rfl⟩)
    · split
      · exact Or.inl ⟨_, rfl⟩
      · split
        · exact Or.inl ⟨_, rfl⟩
        · exact Or.inr (Or.inl ⟨_, rfl⟩)

theorem afterHeaderRead_begin (remoteHeader : SequenceHeader) :
    Activity.begin ((connection.afterHeaderRead proto newSocketFd remoteHeader).handle
        (connection.recoverFailed newSocketFd)) =
      connection.recoverAt proto newSocketFd
        (connection.stageAfterHeader proto remoteHeader) := by
  unfold afterHeaderRead stageAfterHeader
  rcases recover_shape connection.writer remoteHeader.sequenceNumber.toInt with
    ⟨recovered, result⟩ | ⟨what, result⟩ | ⟨message, result⟩
  · rw [result, Program.done_bind]
    simp only
    by_cases large : (proto.catchupBuffer.serialize { buffer := recovered }).length >
        MAX_PROTO_BYTES
    · rw [if_pos large, afterRecovered, writeProto, if_pos large]
      rfl
    · rw [if_neg large, afterRecovered, Activity.writeProto_begin _ _ _ (by omega)]
      rfl
  · rw [result]
    rfl
  · rw [result]
    rfl

/-! ### Catching up -/

theorem catchingUp_outgoing (connection : Connection) (newSocketFd : Fd)
    {recovered : List Bytes} {sent unsent : Bytes}
    (whole : sent ++ unsent = catchupFrame proto recovered) :
    (connection.recoverAt proto newSocketFd
      (.catchingUp recovered sent)).outgoing <+: unsent :=
  Activity.sending_outgoing whole

theorem catchingUp_send {recovered : List Bytes} {sent unsent : Bytes} {count : Nat}
    (whole : sent ++ unsent = catchupFrame proto recovered)
    (bound : count ≤ (connection.recoverAt proto newSocketFd
      (.catchingUp recovered sent)).outgoing.length) :
    (connection.recoverAt proto newSocketFd (.catchingUp recovered sent)).send count =
      connection.recoverAt proto newSocketFd
        (if unsent.drop count = [] then .awaitingCatchup []
        else .catchingUp recovered (sent ++ unsent.take count)) := by
  have step := Activity.sending_send whole bound
  refine Eq.trans step ?_
  by_cases last : unsent.drop count = []
  · rw [if_pos last, if_pos last, afterCatchupWritten]
    exact Activity.readProto_begin
  · rw [if_neg last, if_neg last]
    rfl

/-! ### Awaiting the catch-up -/

theorem awaitingCatchup_wanted {got : Bytes} {count : Nat}
    (status : frameStatus proto.catchupBuffer got = .more count) :
    (connection.recoverAt proto newSocketFd (.awaitingCatchup got)).wanted = count :=
  Activity.reading_wanted status

theorem awaitingCatchup_receive (connection : Connection) (newSocketFd : Fd)
    {got chunk : Bytes} {count : Nat}
    (status : frameStatus proto.catchupBuffer got = .more count)
    (bound : chunk.length ≤ count) :
    Activity.standing proto.catchupBuffer newSocketFd
      (connection.afterCatchupRead newSocketFd)
      (connection.recoverFailed newSocketFd) (got ++ chunk)
      ((connection.recoverAt proto newSocketFd (.awaitingCatchup got)).receive chunk)
      (frameStatus proto.catchupBuffer (got ++ chunk)) :=
  Activity.reading_receive status bound

/-! ### Leaving, and what a stage does not do -/

def RecoverStage.transfers : RecoverStage → Prop
  | .announcing _ | .awaitingHeader _ | .catchingUp _ _ | .awaitingCatchup _ => True
  | _ => False

/-- A transfer that fails leaves; elsewhere there is nothing to fail. -/
theorem recoverAt_fail (what : String) (stage : RecoverStage) :
    (stage.transfers → (connection.recoverAt proto newSocketFd stage).fail what =
      connection.recoverAt proto newSocketFd .leaving) ∧
    (¬ stage.transfers → (connection.recoverAt proto newSocketFd stage).fail what =
      connection.recoverAt proto newSocketFd stage) := by
  cases stage with
  | announcing sent => exact ⟨fun _ => Activity.sending_fail what, fun not => (not trivial).elim⟩
  | awaitingHeader got =>
      exact ⟨fun _ => Activity.reading_fail what, fun not => (not trivial).elim⟩
  | catchingUp recovered sent =>
      exact ⟨fun _ => Activity.sending_fail what, fun not => (not trivial).elim⟩
  | awaitingCatchup got =>
      exact ⟨fun _ => Activity.reading_fail what, fun not => (not trivial).elim⟩
  | leaving => exact ⟨fun impossible => impossible.elim, fun _ => rfl⟩
  | finished result entries =>
      refine ⟨fun impossible => impossible.elim, fun _ => ?_⟩
      cases result <;> rfl
  | aborted message => exact ⟨fun impossible => impossible.elim, fun _ => rfl⟩

theorem recoverAt_outgoing {stage : RecoverStage}
    (sends : (connection.recoverAt proto newSocketFd stage).outgoing ≠ []) :
    (∃ sent, stage = .announcing sent) ∨
      ∃ recovered sent, stage = .catchingUp recovered sent := by
  cases stage with
  | announcing sent => exact Or.inl ⟨sent, rfl⟩
  | catchingUp recovered sent => exact Or.inr ⟨recovered, sent, rfl⟩
  | awaitingHeader got => exact (sends Activity.reading_outgoing).elim
  | awaitingCatchup got => exact (sends Activity.reading_outgoing).elim
  | leaving => exact (sends rfl).elim
  | finished result entries => cases result <;> exact (sends rfl).elim
  | aborted message => exact (sends rfl).elim

theorem recoverAt_wanted {stage : RecoverStage}
    (waits : (connection.recoverAt proto newSocketFd stage).wanted ≠ 0) :
    (∃ got, stage = .awaitingHeader got) ∨ ∃ got, stage = .awaitingCatchup got := by
  cases stage with
  | awaitingHeader got => exact Or.inl ⟨got, rfl⟩
  | awaitingCatchup got => exact Or.inr ⟨got, rfl⟩
  | announcing sent => exact (waits Activity.sending_wanted).elim
  | catchingUp recovered sent => exact (waits Activity.sending_wanted).elim
  | leaving => exact (waits rfl).elim
  | finished result entries => cases result <;> exact (waits rfl).elim
  | aborted message => exact (waits rfl).elim

/-- `close` is called when leaving only. -/
theorem recoverAt_closed (stage : RecoverStage) :
    (connection.recoverAt proto newSocketFd stage).closed =
      connection.recoverAt proto newSocketFd
        (match stage with
          | .leaving => .finished false []
          | other => other) := by
  cases stage with
  | announcing sent => exact Activity.sending_closed
  | awaitingHeader got => exact Activity.reading_closed
  | catchingUp recovered sent => exact Activity.sending_closed
  | awaitingCatchup got => exact Activity.reading_closed
  | leaving => rfl
  | finished result entries => cases result <;> rfl
  | aborted message => rfl

theorem recoverAt_aborted {stage : RecoverStage} {message : String}
    (aborted : (connection.recoverAt proto newSocketFd stage).program = .abort message) :
    stage = .aborted message := by
  cases stage with
  | announcing sent => exact (Activity.sending_not_aborted _ aborted).elim
  | awaitingHeader got => exact (Activity.reading_not_aborted _ aborted).elim
  | catchingUp recovered sent => exact (Activity.sending_not_aborted _ aborted).elim
  | awaitingCatchup got => exact (Activity.reading_not_aborted _ aborted).elim
  | leaving => cases aborted
  | finished result entries => cases result <;> cases aborted
  | aborted other =>
      cases aborted
      rfl

/-- What `recover` returns. -/
theorem recoverAt_done {stage : RecoverStage} {ok : Bool} {result : Connection}
    (done : (connection.recoverAt proto newSocketFd stage).program = .done (ok, result)) :
    (∃ entries, stage = .finished true entries ∧ ok = true ∧
      result = connection.revived newSocketFd entries) ∨
    (∃ entries, stage = .finished false entries ∧ ok = false ∧ result = connection) := by
  cases stage with
  | announcing sent => exact (Activity.sending_running _ done).elim
  | awaitingHeader got => exact (Activity.reading_running _ done).elim
  | catchingUp recovered sent => exact (Activity.sending_running _ done).elim
  | awaitingCatchup got => exact (Activity.reading_running _ done).elim
  | leaving => cases done
  | aborted message => cases done
  | finished result entries =>
      cases result with
      | true =>
          cases done
          exact Or.inl ⟨entries, rfl, rfl, rfl⟩
      | false =>
          cases done
          exact Or.inr ⟨entries, rfl, rfl, rfl⟩

end Connection

end EternalTerminal
