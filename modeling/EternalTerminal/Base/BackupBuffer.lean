/-
What the backup deque holds over whole runs of a `BackedWriter`.

`Backs` relates a writer to the packets it has accepted and to those it has
accepted since its socket was lost.  Every operation keeps it, trimming only
drops packets that no longer fit the backup, and recovery therefore returns
the missing packets exactly or throws.
-/

import EternalTerminal.Base.BackedWriter
import EternalTerminal.Library.TransitionSystem

namespace EternalTerminal

open Library

def totalLength (packets : List Packet) : Nat := (packets.map Packet.length).sum

@[simp] theorem totalLength_nil : totalLength [] = 0 := rfl

@[simp] theorem totalLength_cons (packet : Packet) (rest : List Packet) :
    totalLength (packet :: rest) = packet.length + totalLength rest := by
  simp only [totalLength, List.map_cons, List.sum_cons]

@[simp] theorem totalLength_append (left right : List Packet) :
    totalLength (left ++ right) = totalLength left + totalLength right := by
  simp only [totalLength, List.map_append, List.sum_append]

@[simp] theorem totalLength_reverse (packets : List Packet) :
    totalLength packets.reverse = totalLength packets := by
  simp only [totalLength, List.map_reverse, List.sum_reverse]

namespace BackedWriter

/-- The writer backs up `accepted`, all encrypted packets it took so far, of
which `sinceLoss` were taken since the socket was lost. -/
structure Backs (writer : BackedWriter) (accepted sinceLoss : List Packet) : Prop where
  suffix : writer.backupBuffer.reverse <:+ accepted
  size : writer.backupSize = totalLength writer.backupBuffer
  count : writer.sequenceNumber = accepted.length
  disconnected : writer.disconnectedBytes = totalLength sinceLoss
  connected : writer.socketFd.isSome → sinceLoss = []
  kept : sinceLoss <:+ writer.backupBuffer.reverse
  maximal : ∀ recent, recent <:+ accepted → totalLength recent ≤ MAX_BACKUP_BYTES →
    recent <:+ writer.backupBuffer.reverse

theorem trimOldest_spec (packets : List Packet) :
    ∃ kept, trimOldest packets (totalLength packets) = (kept, (totalLength kept : Int)) ∧
      kept <:+ packets ∧ totalLength kept ≤ MAX_BACKUP_BYTES ∧
      ∀ recent, recent <:+ packets → totalLength recent ≤ MAX_BACKUP_BYTES →
        recent <:+ kept := by
  induction packets with
  | nil =>
      exact ⟨[], rfl, List.suffix_refl [], by simp, fun _ suffix _ => suffix⟩
  | cons oldest newer ih =>
      by_cases above : totalLength (oldest :: newer) > MAX_BACKUP_BYTES
      · obtain ⟨kept, trimmed, suffix, fits, maximal⟩ := ih
        refine ⟨kept, ?_, suffix.trans (List.suffix_cons oldest newer), fits, ?_⟩
        · rw [trimOldest, if_pos (by exact_mod_cast above)]
          have rest : (totalLength (oldest :: newer) : Int) - oldest.length =
              totalLength newer := by
            rw [totalLength_cons]
            omega
          rw [rest, trimmed]
        · intro recent recentSuffix recentFits
          rcases List.suffix_cons_iff.mp recentSuffix with whole | shorter
          · rw [whole] at recentFits
            omega
          · exact maximal recent shorter recentFits
      · refine ⟨oldest :: newer, ?_, List.suffix_refl _, by omega, fun _ suffix _ => suffix⟩
        rw [trimOldest, if_neg (by exact_mod_cast above)]

/-- A suffix of a list with one packet added that fits is the packet after a
suffix that fits. -/
theorem fitting_suffix_concat {older newer recent : List Packet} {packet : Packet}
    (maximal : ∀ recent, recent <:+ older → totalLength recent ≤ MAX_BACKUP_BYTES →
      recent <:+ newer)
    (suffix : recent <:+ older ++ [packet])
    (fits : totalLength recent ≤ MAX_BACKUP_BYTES) : recent <:+ newer ++ [packet] := by
  rcases List.suffix_concat_iff.mp suffix with empty | ⟨front, rfl, frontSuffix⟩
  · rw [empty]
    exact List.nil_suffix
  · rw [totalLength_append] at fits
    have frontKept := maximal front frontSuffix (by omega)
    exact List.suffix_concat_iff.mpr (Or.inr ⟨front, rfl, frontKept⟩)

/-! ### The operations keep the relation -/

theorem create_backs (cryptoHandler : CryptoHandler) (socketFd : Option Fd) :
    (create cryptoHandler socketFd).Backs [] [] := by
  constructor
  · exact List.suffix_refl []
  · rfl
  · rfl
  · rfl
  · intro _
    rfl
  · exact List.suffix_refl []
  · intro recent suffix _
    exact suffix

variable {writer : BackedWriter} {accepted sinceLoss : List Packet}

def sinceLossAfter (writer : BackedWriter) (sinceLoss : List Packet)
    (packet : Packet) : List Packet :=
  if writer.socketFd.isSome then [] else sinceLoss ++ [packet]

theorem Backs.backup (backs : writer.Backs accepted sinceLoss) (packet : Packet)
    (cryptoHandler : CryptoHandler) :
    (writer.backup packet cryptoHandler).Backs (accepted ++ [packet])
      (writer.sinceLossAfter sinceLoss packet) := by
  have pushed : (packet :: writer.backupBuffer).reverse =
      writer.backupBuffer.reverse ++ [packet] := List.reverse_cons
  have pushedSuffix : writer.backupBuffer.reverse ++ [packet] <:+ accepted ++ [packet] :=
    List.suffix_concat_iff.mpr (Or.inr ⟨_, rfl, backs.suffix⟩)
  have pushedSize : writer.backupSize + packet.length =
      (totalLength (writer.backupBuffer.reverse ++ [packet]) : Int) := by
    rw [backs.size]
    simp only [totalLength_append, totalLength_reverse, totalLength_cons, totalLength_nil]
    omega
  unfold BackedWriter.backup sinceLossAfter
  cases live : writer.socketFd with
  | some fd =>
      -- connected: the deque is trimmed and nothing counts as since the loss
      obtain ⟨kept, trimmed, suffix, _fits, maximal⟩ :=
        trimOldest_spec (writer.backupBuffer.reverse ++ [packet])
      have noneSince : sinceLoss = [] := backs.connected (by rw [live]; rfl)
      simp only [pushed, pushedSize, trimmed, Option.isSome_some, if_true]
      constructor
      · simpa using suffix.trans pushedSuffix
      · simp
      · simp [backs.count]
      · simpa [noneSince] using backs.disconnected
      · intro _
        rfl
      · exact List.nil_suffix
      · intro recent recentSuffix recentFits
        simp only [List.reverse_reverse]
        exact maximal recent
          (fitting_suffix_concat backs.maximal recentSuffix recentFits) recentFits
  | none =>
      simp only [Option.isSome_none, Bool.false_eq_true, if_false]
      constructor
      · simpa using pushedSuffix
      · rw [pushedSize]
        simp only [totalLength_append, totalLength_reverse, totalLength_cons,
          totalLength_nil]
        push_cast
        ring
      · simp [backs.count]
      · simp [backs.disconnected]
      · intro impossible
        cases impossible
      · rw [pushed]
        exact List.suffix_concat_iff.mpr (Or.inr ⟨_, rfl, backs.kept⟩)
      · intro recent recentSuffix recentFits
        rw [pushed]
        exact fitting_suffix_concat backs.maximal recentSuffix recentFits

theorem Backs.invalidateSocket (backs : writer.Backs accepted sinceLoss) :
    writer.invalidateSocket.Backs accepted sinceLoss :=
  { backs with
    connected := by
      intro impossible
      cases impossible }

theorem Backs.revive (backs : writer.Backs accepted sinceLoss) (newSocketFd : Fd) :
    (writer.revive newSocketFd).Backs accepted [] :=
  { suffix := backs.suffix
    size := backs.size
    count := backs.count
    disconnected := rfl
    connected := fun _ => rfl
    kept := List.nil_suffix
    maximal := backs.maximal }

/-! ### Recovery -/

/-- The serialized packets that a peer which counted `last` packets lacks. -/
def missing (accepted : List Packet) (last : Nat) : List Bytes :=
  (accepted.drop last).map Packet.serialize

theorem Backs.length_le (backs : writer.Backs accepted sinceLoss) :
    writer.backupBuffer.length ≤ writer.sequenceNumber := by
  have bound := backs.suffix.length_le
  rw [List.length_reverse, ← backs.count] at bound
  exact bound

theorem Backs.newest_eq (backs : writer.Backs accepted sinceLoss) {last : Nat}
    (behind : last ≤ accepted.length)
    (kept : accepted.length - last ≤ writer.backupBuffer.length) :
    writer.newest (accepted.length - last) = missing accepted last := by
  obtain ⟨trimmed, split⟩ := backs.suffix
  have newest : writer.backupBuffer = (accepted.drop trimmed.length).reverse := by
    rw [← split, List.drop_left, List.reverse_reverse]
  have trimmedLength : trimmed.length + writer.backupBuffer.length = accepted.length := by
    rw [← split, List.length_append, List.length_reverse]
  unfold BackedWriter.newest missing
  rw [← List.map_reverse, newest, List.take_reverse, List.reverse_reverse,
    List.drop_drop, List.length_drop]
  congr 2
  omega

/-- Recovery is exact when the packets are still in the deque and throws when
one of them was trimmed. -/
theorem Backs.recover_eq (backs : writer.Backs accepted sinceLoss)
    (dead : writer.socketFd = none) {last : Nat} (behind : last ≤ accepted.length) :
    writer.recover last =
      if accepted.length - last ≤ writer.backupBuffer.length then
        .done (missing accepted last)
      else .raise (.runtimeError "Client is too far behind server.") := by
  have behindCount : last ≤ writer.sequenceNumber := by rw [backs.count]; exact behind
  rw [BackedWriter.recover_eq writer dead behindCount, backs.count]
  by_cases kept : accepted.length - last ≤ writer.backupBuffer.length
  · rw [if_pos kept, if_pos kept, backs.newest_eq behind kept]
  · rw [if_neg kept, if_neg kept]

theorem Backs.kept_of_fits (backs : writer.Backs accepted sinceLoss) {last : Nat}
    (fits : totalLength (accepted.drop last) ≤ MAX_BACKUP_BYTES) :
    accepted.length - last ≤ writer.backupBuffer.length := by
  have suffix := backs.maximal _ (List.drop_suffix last accepted) fits
  have bound := suffix.length_le
  rwa [List.length_drop, List.length_reverse] at bound

theorem Backs.kept_of_sinceLoss (backs : writer.Backs accepted sinceLoss) {last : Nat}
    (recent : accepted.drop last <:+ sinceLoss) :
    accepted.length - last ≤ writer.backupBuffer.length := by
  have bound := (recent.trans backs.kept).length_le
  rwa [List.length_drop, List.length_reverse] at bound

end BackedWriter

/-! ### Runs of a writer -/

inductive WriterCall where
  | write (packet : Packet)
  | invalidateSocket
  | recover (lastValidSequenceNumber : Int)
  | revive (newSocketFd : Fd)

structure WriterHistory where
  writer : BackedWriter
  accepted : List Packet
  sinceLoss : List Packet

def anyAnswer : Unit → (call : sockets.Operation) → sockets.Answer call → Unit → Prop :=
  fun _ _ _ _ => True

namespace WriterHistory

def Backed (history : WriterHistory) : Prop :=
  history.writer.Backs history.accepted history.sinceLoss

/-- The history after a write that ended in `state`. -/
def record (box : SecretBox) (history : WriterHistory) (packet : Packet)
    (state : BackedWriterWriteState) (writer : BackedWriter) : WriterHistory :=
  let encrypted := packet.sealed box history.writer.cryptoHandler
  if state = .SKIPPED then { history with writer := writer }
  else
    { writer := writer
      accepted := history.accepted ++ [encrypted]
      sinceLoss := history.writer.sinceLossAfter history.sinceLoss encrypted }

end WriterHistory

/-- All call sequences on one writer.  A call that aborts has no successor. -/
def writerSystem (box : SecretBox) : TransitionSystem WriterHistory WriterCall where
  initial history :=
    ∃ cryptoHandler socketFd,
      history =
        { writer := BackedWriter.create cryptoHandler socketFd
          accepted := []
          sinceLoss := [] }
  step before call after :=
    match call with
    | .write packet =>
        ∃ state writer,
          Program.Run anyAnswer () (before.writer.write box packet)
            (.returned (state, writer)) () ∧
          after = before.record box packet state writer
    | .invalidateSocket =>
        after = { before with writer := before.writer.invalidateSocket }
    | .recover lastValidSequenceNumber =>
        (∀ message, before.writer.recover lastValidSequenceNumber ≠ .abort message) ∧
          after = before
    | .revive newSocketFd =>
        after =
          { before with
            writer := before.writer.revive newSocketFd
            sinceLoss := [] }

namespace BackedWriter

theorem transmit_run {fd : Fd} {bytes : Bytes}
    {outcome : Outcome Exn BackedWriterWriteState} {after : Unit}
    (run : Program.Run anyAnswer () (transmit fd bytes) outcome after) :
    outcome = .returned .SUCCESS ∨ outcome = .returned .WROTE_WITH_FAILURE := by
  obtain ⟨answer, between, _, rest⟩ := Program.run_perform_iff.mp run
  cases answer with
  | ok _ => exact Or.inl (Program.run_done_iff.mp rest).1
  | error _ => exact Or.inr (Program.run_done_iff.mp rest).1

theorem write_cases {box : SecretBox} {writer after : BackedWriter} {packet : Packet}
    {state : BackedWriterWriteState}
    (run : Program.Run anyAnswer () (writer.write box packet)
      (.returned (state, after)) ()) :
    (state = .SKIPPED ∧ writer.admits packet = false ∧ after = writer) ∨
    (state ≠ .SKIPPED ∧ writer.admits packet = true ∧ packet.encrypted = false ∧
      after = writer.accept box packet) := by
  cases admitted : writer.admits packet with
  | false =>
      rw [write_skipped box writer packet admitted] at run
      cases (Program.run_done_iff.mp run).1
      exact Or.inl ⟨rfl, rfl, rfl⟩
  | true =>
      cases plain : packet.encrypted with
      | true =>
          rw [write_encrypted box writer packet admitted plain] at run
          cases (Program.run_abort_iff.mp run).1
      | false =>
          rw [write_admitted box writer packet admitted plain] at run
          right
          cases live : writer.socketFd with
          | none =>
              rw [live] at run
              cases (Program.run_done_iff.mp run).1
              exact ⟨by simp, rfl, rfl, rfl⟩
          | some fd =>
              rw [live] at run
              rcases Program.run_bind_iff.mp run with
                ⟨value, between, sent, rest⟩ | ⟨_, impossible, _⟩ | ⟨_, impossible, _⟩
              · cases (Program.run_done_iff.mp rest).1
                rcases transmit_run sent with ok | failed
                · cases ok
                  exact ⟨by simp, rfl, rfl, rfl⟩
                · cases failed
                  exact ⟨by simp, rfl, rfl, rfl⟩
              · cases impossible
              · cases impossible

theorem write_skipped_unchanged {box : SecretBox} {writer after : BackedWriter}
    {packet : Packet}
    (run : Program.Run anyAnswer () (writer.write box packet)
      (.returned (.SKIPPED, after)) ()) : after = writer := by
  rcases write_cases run with ⟨_, _, same⟩ | ⟨notSkipped, _⟩
  · exact same
  · exact absurd rfl notSkipped

end BackedWriter

theorem writerSystem_backs {box : SecretBox} {history : WriterHistory}
    (reached : (writerSystem box).Reachable history) : history.Backed := by
  refine TransitionSystem.Reachable.invariant ?_ ?_ reached
  · rintro history ⟨cryptoHandler, socketFd, rfl⟩
    exact BackedWriter.create_backs cryptoHandler socketFd
  · intro before call after backs step
    cases call with
    | write packet =>
        obtain ⟨state, writer, run, rfl⟩ := step
        rcases BackedWriter.write_cases run with
          ⟨skipped, _, same⟩ | ⟨notSkipped, _, _, accepted⟩
        · simp only [WriterHistory.record, skipped, if_true, same]
          exact backs
        · simp only [WriterHistory.record, if_neg notSkipped, accepted]
          exact backs.backup _ _
    | invalidateSocket =>
        obtain rfl := step
        exact BackedWriter.Backs.invalidateSocket backs
    | recover lastValidSequenceNumber =>
        obtain ⟨_, rfl⟩ := step
        exact backs
    | revive newSocketFd =>
        obtain rfl := step
        exact BackedWriter.Backs.revive backs newSocketFd

/-- The backup invariant in every reachable state, and exact recovery from it.
A negative sequence number names no packet, and recovery from one throws. -/
theorem backupBuffer_recovers_exactly {box : SecretBox} {history : WriterHistory}
    (reached : (writerSystem box).Reachable history) :
    history.writer.backupBuffer.reverse <:+ history.accepted ∧
    history.writer.backupSize = totalLength history.writer.backupBuffer ∧
    history.writer.sequenceNumber = history.accepted.length ∧
    (∀ packet writer,
      Program.Run anyAnswer () (history.writer.write box packet)
        (.returned (.SKIPPED, writer)) () → writer = history.writer) ∧
    history.writer.disconnectedBytes = totalLength history.sinceLoss ∧
    history.sinceLoss <:+ history.writer.backupBuffer.reverse ∧
    (history.writer.socketFd = none →
      ∀ last : Int, last ≤ history.writer.sequenceNumber →
        (0 ≤ last →
          totalLength (history.accepted.drop last.toNat) ≤
              BackedWriter.MAX_BACKUP_BYTES ∨
            history.accepted.drop last.toNat <:+ history.sinceLoss →
          history.writer.recover last =
            .done (BackedWriter.missing history.accepted last.toNat)) ∧
        ((0 ≤ last ∧ history.writer.recover last =
            .done (BackedWriter.missing history.accepted last.toNat)) ∨
          ∃ what, history.writer.recover last = .raise (.runtimeError what))) := by
  have backs := writerSystem_backs reached
  refine ⟨backs.suffix, backs.size, backs.count, ?_, backs.disconnected, backs.kept, ?_⟩
  · intro packet writer run
    exact BackedWriter.write_skipped_unchanged run
  · intro dead last behind
    rcases Int.lt_or_le last 0 with negative | nonnegative
    · refine ⟨fun nonnegative => absurd nonnegative (by omega),
        Or.inr ⟨"Client is too far behind server.", ?_⟩⟩
      exact BackedWriter.recover_negative _ dead negative
        (BackedWriter.Backs.length_le backs)
    · obtain ⟨count, rfl⟩ := Int.eq_ofNat_of_zero_le nonnegative
      have behindCount : count ≤ history.accepted.length := by
        rw [← backs.count]
        omega
      have recovered := BackedWriter.Backs.recover_eq backs dead behindCount
      simp only [Int.toNat_natCast]
      constructor
      · intro _ fits
        have kept : history.accepted.length - count ≤
            history.writer.backupBuffer.length := by
          rcases fits with small | recent
          · exact BackedWriter.Backs.kept_of_fits backs small
          · exact BackedWriter.Backs.kept_of_sinceLoss backs recent
        rw [recovered, if_pos kept]
      · by_cases kept : history.accepted.length - count ≤
            history.writer.backupBuffer.length
        · exact Or.inl ⟨by omega, by rw [recovered, if_pos kept]⟩
        · exact Or.inr ⟨"Client is too far behind server.",
            by rw [recovered, if_neg kept]⟩

/-! ### A writer that has lost its socket -/

theorem writerSystem_writes {box : SecretBox} {history : WriterHistory} {packet : Packet}
    (admitted : history.writer.admits packet = true) (plain : packet.encrypted = false)
    {state : BackedWriterWriteState}
    (outcome : state = if history.writer.socketFd.isSome then .WROTE_WITH_FAILURE
      else .BUFFERED_ONLY) :
    (writerSystem box).step history (.write packet)
      (history.record box packet state (history.writer.accept box packet)) := by
  refine ⟨state, _, ?_, rfl⟩
  rw [BackedWriter.write_admitted box _ packet admitted plain, outcome]
  cases history.writer.socketFd with
  | none => exact .done _ _
  | some fd => exact Program.run_bind_iff.mpr (Or.inl ⟨_, (), failed fd, .done _ _⟩)
where
  failed (fd : Fd) {bytes : Bytes} : Program.Run anyAnswer ()
      (BackedWriter.transmit fd bytes) (.returned .WROTE_WITH_FAILURE) () :=
    Program.run_perform_iff.mpr ⟨.error "", (), trivial, .done _ _⟩

namespace WriterHistory

def liveHistory : WriterHistory :=
  { writer := BackedWriter.create (CryptoHandler.ofKey Key.zero 0) (some 3)
    accepted := []
    sinceLoss := [] }

def writesByte (history : WriterHistory) (byte : UInt8) (state : BackedWriterWriteState) :
    WriterHistory :=
  history.record SecretBox.nullCipher (Packet.plain 1 [byte]) state
    (history.writer.accept SecretBox.nullCipher (Packet.plain 1 [byte]))

def losesSocket (history : WriterHistory) : WriterHistory :=
  { history with writer := history.writer.invalidateSocket }

end WriterHistory

/-- Two packets on a live socket that fails, and a third without one. -/
def bufferedHistory : WriterHistory :=
  ((WriterHistory.liveHistory.writesByte 104 .WROTE_WITH_FAILURE).writesByte 105
    .WROTE_WITH_FAILURE).losesSocket.writesByte 106 .BUFFERED_ONLY

theorem writesByte_reachable {history : WriterHistory}
    (reached : (writerSystem SecretBox.nullCipher).Reachable history) {byte : UInt8}
    (admitted : history.writer.admits (Packet.plain 1 [byte]) = true)
    {state : BackedWriterWriteState}
    (outcome : state = if history.writer.socketFd.isSome then .WROTE_WITH_FAILURE
      else .BUFFERED_ONLY) :
    (writerSystem SecretBox.nullCipher).Reachable (history.writesByte byte state) :=
  reached.next (writerSystem_writes admitted rfl outcome)

theorem losesSocket_reachable {history : WriterHistory}
    (reached : (writerSystem SecretBox.nullCipher).Reachable history) :
    (writerSystem SecretBox.nullCipher).Reachable history.losesSocket := by
  have loses : (writerSystem SecretBox.nullCipher).step history .invalidateSocket
      history.losesSocket := rfl
  exact reached.next loses

theorem bufferedHistory_reachable :
    (writerSystem SecretBox.nullCipher).Reachable bufferedHistory := by
  have live : (writerSystem SecretBox.nullCipher).Reachable WriterHistory.liveHistory :=
    .start ⟨CryptoHandler.ofKey Key.zero 0, some 3, rfl⟩
  have first := @writesByte_reachable _ live 104 (by decide) .WROTE_WITH_FAILURE rfl
  have second := @writesByte_reachable _ first 105 (by decide) .WROTE_WITH_FAILURE rfl
  exact @writesByte_reachable _ (losesSocket_reachable second) 106 (by decide)
    .BUFFERED_ONLY rfl

/-- A peer that has counted the first packet gets the other two. -/
theorem backupBuffer_recovers_exactly_buffered :
    bufferedHistory.writer.recover 1 =
        .done (BackedWriter.missing bufferedHistory.accepted 1) ∧
      (BackedWriter.missing bufferedHistory.accepted 1).length = 2 :=
  ⟨((backupBuffer_recovers_exactly bufferedHistory_reachable).2.2.2.2.2.2 rfl 1
    (by decide)).1 (by decide) (Or.inl (by decide)), rfl⟩

end EternalTerminal
