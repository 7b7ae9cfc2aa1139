/-
`BackedWriter`: encryption, the backup deque, and recovery.

The deque is kept newest first, as `push_front` builds it.  A write first backs
the packet up and only then hands its frame to the socket, so the socket's
answer never changes the state of the writer.
-/

import EternalTerminal.Base.Packet
import EternalTerminal.Base.SocketHandler

namespace EternalTerminal

open Library

inductive BackedWriterWriteState where
  | SKIPPED
  | SUCCESS
  | WROTE_WITH_FAILURE
  | BUFFERED_ONLY
  deriving DecidableEq

structure BackedWriter where
  cryptoHandler : CryptoHandler
  socketFd : Option Fd
  backupBuffer : List Packet
  backupSize : Int
  disconnectedBytes : Nat
  sequenceNumber : Nat

namespace BackedWriter

def MAX_BACKUP_BYTES : Nat := 64 * 1024 * 1024

def DISCONNECT_BUFFER_BYTES : Nat := 64 * 1024 * 1024

def create (cryptoHandler : CryptoHandler) (socketFd : Option Fd) : BackedWriter :=
  { cryptoHandler := cryptoHandler
    socketFd := socketFd
    backupBuffer := []
    backupSize := 0
    disconnectedBytes := 0
    sequenceNumber := 0 }

/-- The clean-up loop of `write`, on the deque read from its back. -/
def trimOldest : List Packet → Int → List Packet × Int
  | [], size => ([], size)
  | oldest :: newer, size =>
      if size > MAX_BACKUP_BYTES then trimOldest newer (size - oldest.length)
      else (oldest :: newer, size)

/-- The test at the head of `write`: false when the write is skipped. -/
def admits (writer : BackedWriter) (packet : Packet) : Bool :=
  !(writer.socketFd.isNone &&
    decide (writer.disconnectedBytes + packet.length > DISCONNECT_BUFFER_BYTES))

/-- Back an encrypted packet up: trim while connected, count the bytes of a
disconnected write. -/
def backup (writer : BackedWriter) (packet : Packet)
    (cryptoHandler : CryptoHandler) : BackedWriter :=
  let buffer := packet :: writer.backupBuffer
  let size := writer.backupSize + packet.length
  match writer.socketFd with
  | some _ =>
      let trimmed := trimOldest buffer.reverse size
      { writer with
        cryptoHandler := cryptoHandler
        backupBuffer := trimmed.1.reverse
        backupSize := trimmed.2
        sequenceNumber := writer.sequenceNumber + 1 }
  | none =>
      { writer with
        cryptoHandler := cryptoHandler
        backupBuffer := buffer
        backupSize := size
        disconnectedBytes := writer.disconnectedBytes + packet.length
        sequenceNumber := writer.sequenceNumber + 1 }

/-- A packet on the wire: its length as `htonl` stores an `int`, then the
serialized packet. -/
def frame (packet : Packet) : Bytes :=
  bigEndian 4 packet.length ++ packet.serialize

/-- The write loop over `socketHandler->write`. -/
def transmit (fd : Fd) (bytes : Bytes) : Action BackedWriterWriteState :=
  .perform (.writeAll fd bytes) fun
    | .ok () => pure .SUCCESS
    | .error _ => pure .WROTE_WITH_FAILURE

def write (box : SecretBox) (writer : BackedWriter) (packet : Packet) :
    Action (BackedWriterWriteState × BackedWriter) :=
  if writer.admits packet = false then pure (.SKIPPED, writer)
  else do
    let (packet, cryptoHandler) ← packet.encrypt box writer.cryptoHandler
    let writer := writer.backup packet cryptoHandler
    match writer.socketFd with
    | none => pure (.BUFFERED_ONLY, writer)
    | some fd =>
        let bytes := frame packet
        if (packet.length : Int) ≠ (bytes.length : Int) - 4 then
          .abort "Packet header size is invalid"
        else do
          let state ← transmit fd bytes
          pure (state, writer)

/-- The loop of `recover`: serialize from the newest packet on until
`messagesToRecover` have been seen, then reverse. -/
def collect (messagesToRecover : Int) : List Packet → Int → List Bytes →
    Option (List Bytes)
  | [], _, _ => none
  | packet :: older, messagesSeen, retval =>
      let retval := retval ++ [packet.serialize]
      let messagesSeen := messagesSeen + 1
      if messagesSeen = messagesToRecover then some retval.reverse
      else collect messagesToRecover older messagesSeen retval

/-- How many packets a peer at `lastValidSequenceNumber` has not counted. -/
def messagesToRecover (writer : BackedWriter) (lastValidSequenceNumber : Int) : Int :=
  writer.sequenceNumber - lastValidSequenceNumber

def recover (writer : BackedWriter) (lastValidSequenceNumber : Int) :
    Action (List Bytes) :=
  if writer.socketFd.isSome then
    .raise (.runtimeError "Cannot recover when the fd is still alive")
  else
    let messagesToRecover := writer.messagesToRecover lastValidSequenceNumber
    if messagesToRecover < 0 then
      .abort "Something went really wrong, client is ahead of server"
    else if messagesToRecover = 0 then pure []
    else
      match collect messagesToRecover writer.backupBuffer 0 [] with
      | some retval => pure retval
      | none => .raise (.runtimeError "Client is too far behind server.")

def revive (writer : BackedWriter) (newSocketFd : Fd) : BackedWriter :=
  { writer with
    socketFd := some newSocketFd
    disconnectedBytes := 0 }

def invalidateSocket (writer : BackedWriter) : BackedWriter :=
  { writer with socketFd := none }

def hasBufferCapacity (writer : BackedWriter) (bytes : Int) : Bool :=
  writer.socketFd.isSome ||
    decide ((writer.disconnectedBytes : Int) + bytes ≤ DISCONNECT_BUFFER_BYTES)

/-! ### What each operation does -/

@[simp] theorem frame_length (packet : Packet) :
    (frame packet).length = 4 + packet.length := by
  simp only [frame, List.length_append, bigEndian_length, Packet.serialize_length]

@[simp] theorem backup_socketFd (writer : BackedWriter) (packet : Packet)
    (cryptoHandler : CryptoHandler) :
    (writer.backup packet cryptoHandler).socketFd = writer.socketFd := by
  unfold backup
  cases writer.socketFd <;> rfl

@[simp] theorem backup_sequenceNumber (writer : BackedWriter) (packet : Packet)
    (cryptoHandler : CryptoHandler) :
    (writer.backup packet cryptoHandler).sequenceNumber =
      writer.sequenceNumber + 1 := by
  unfold backup
  cases writer.socketFd <;> rfl

@[simp] theorem backup_cryptoHandler (writer : BackedWriter) (packet : Packet)
    (cryptoHandler : CryptoHandler) :
    (writer.backup packet cryptoHandler).cryptoHandler = cryptoHandler := by
  unfold backup
  cases writer.socketFd <;> rfl

theorem write_skipped (box : SecretBox) (writer : BackedWriter) (packet : Packet)
    (refused : writer.admits packet = false) :
    writer.write box packet = .done (.SKIPPED, writer) := by
  simp only [write, refused, if_true, Program.pure_eq_done]

theorem write_encrypted (box : SecretBox) (writer : BackedWriter) (packet : Packet)
    (admitted : writer.admits packet = true) (already : packet.encrypted = true) :
    writer.write box packet =
      .abort "Tried to encrypt a packet that was already encrypted" := by
  simp only [write, admitted, Bool.true_eq_false, if_false,
    Packet.encrypt_encrypted box _ packet already, Program.abort_bind]

def accept (box : SecretBox) (writer : BackedWriter) (packet : Packet) :
    BackedWriter :=
  writer.backup (packet.sealed box writer.cryptoHandler)
    writer.cryptoHandler.incrementNonce

theorem write_admitted (box : SecretBox) (writer : BackedWriter) (packet : Packet)
    (admitted : writer.admits packet = true) (plain : packet.encrypted = false) :
    writer.write box packet =
      match writer.socketFd with
      | none => .done (.BUFFERED_ONLY, writer.accept box packet)
      | some fd =>
          transmit fd (frame (packet.sealed box writer.cryptoHandler)) >>= fun state =>
            .done (state, writer.accept box packet) := by
  simp only [write, admitted, Bool.true_eq_false, if_false,
    Packet.encrypt_plain box _ packet plain, Program.done_bind, backup_socketFd,
    frame_length, Program.pure_eq_done]
  cases writer.socketFd with
  | none => rfl
  | some fd =>
      have headerSize : ((packet.sealed box writer.cryptoHandler).length : Int) =
          ((4 + (packet.sealed box writer.cryptoHandler).length : Nat) : Int) - 4 := by
        omega
      simp only [ne_eq, headerSize, not_true_eq_false, if_false]
      rfl

theorem collect_eq (packets : List Packet) (seen : List Bytes)
    (wanted : Nat) (more : seen.length < wanted) :
    collect wanted packets seen.length seen =
      if wanted ≤ seen.length + packets.length then
        some (seen ++ (packets.take (wanted - seen.length)).map Packet.serialize).reverse
      else none := by
  induction packets generalizing seen with
  | nil =>
      rw [collect, if_neg]
      simp only [List.length_nil]
      omega
  | cons packet older ih =>
      obtain ⟨left, leftEq⟩ : ∃ left, wanted - seen.length = left + 1 :=
        ⟨wanted - seen.length - 1, by omega⟩
      simp only [collect, leftEq, List.take_succ_cons, List.map_cons, List.length_cons]
      by_cases last : seen.length + 1 = wanted
      · have noneLeft : left = 0 := by omega
        rw [if_pos (by exact_mod_cast last), if_pos (by omega), noneLeft]
        simp
      · have step := ih (seen ++ [packet.serialize]) (by simp; omega)
        simp only [List.length_append, List.length_singleton] at step
        rw [if_neg (by exact_mod_cast last)]
        push_cast at step
        rw [step]
        have remaining : wanted - (seen.length + 1) = left := by omega
        simp only [remaining, List.append_assoc, List.singleton_append]
        congr 1
        simp only [eq_iff_iff]
        omega

/-- The newest `count` packets in acceptance order, as `recover` returns them. -/
def newest (writer : BackedWriter) (count : Nat) : List Bytes :=
  ((writer.backupBuffer.take count).map Packet.serialize).reverse

/-- `recover` on a dead socket, for a peer that is not ahead. -/
theorem recover_wanted (writer : BackedWriter) {last : Int} {wanted : Nat}
    (dead : writer.socketFd = none) (wantedEq : writer.messagesToRecover last = wanted) :
    writer.recover last =
      if wanted ≤ writer.backupBuffer.length then .done (writer.newest wanted)
      else .raise (.runtimeError "Client is too far behind server.") := by
  simp only [recover, dead, Option.isSome_none, Bool.false_eq_true, if_false, wantedEq]
  rw [if_neg (by omega)]
  by_cases nothing : wanted = 0
  · simp [nothing, newest]
  · rw [if_neg (by exact_mod_cast nothing)]
    have collected := collect_eq writer.backupBuffer [] wanted (by simp; omega)
    simp only [List.length_nil, Nat.zero_add, Nat.sub_zero, List.nil_append,
      Nat.cast_zero] at collected
    rw [collected]
    by_cases kept : wanted ≤ writer.backupBuffer.length
    · simp only [if_pos kept, Program.pure_eq_done, newest]
    · simp only [if_neg kept]

theorem recover_eq (writer : BackedWriter) {last : Nat}
    (dead : writer.socketFd = none) (behind : last ≤ writer.sequenceNumber) :
    writer.recover last =
      if writer.sequenceNumber - last ≤ writer.backupBuffer.length then
        .done (writer.newest (writer.sequenceNumber - last))
      else .raise (.runtimeError "Client is too far behind server.") := by
  apply recover_wanted writer dead
  unfold messagesToRecover
  omega

theorem recover_negative (writer : BackedWriter) {last : Int}
    (dead : writer.socketFd = none) (negative : last < 0)
    (bounded : writer.backupBuffer.length ≤ writer.sequenceNumber) :
    writer.recover last =
      .raise (.runtimeError "Client is too far behind server.") := by
  have difference : writer.messagesToRecover last = writer.sequenceNumber - last := rfl
  obtain ⟨wanted, wantedEq⟩ : ∃ wanted : Nat,
      writer.messagesToRecover last = wanted :=
    ⟨(writer.messagesToRecover last).toNat, by omega⟩
  rw [recover_wanted writer dead wantedEq, if_neg (by omega)]

/-- The fatal branch of `recover`. -/
theorem recover_ahead (writer : BackedWriter) {last : Int}
    (dead : writer.socketFd = none) (ahead : (writer.sequenceNumber : Int) < last) :
    writer.recover last =
      .abort "Something went really wrong, client is ahead of server" := by
  have difference : writer.messagesToRecover last = writer.sequenceNumber - last := rfl
  simp only [recover, dead, Option.isSome_none, Bool.false_eq_true, if_false]
  rw [if_pos (by omega)]

end BackedWriter

end EternalTerminal
