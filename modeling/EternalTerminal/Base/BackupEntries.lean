/-
The size of the catch-up that a `BackedWriter` builds.

A packet becomes an entry, with a tag and a length in front.  While the socket is alive the backup
is trimmed, so that its entries fit one message.  What is buffered without a socket comes on top.
-/

import EternalTerminal.Base.BackupBuffer

namespace EternalTerminal

open Library
open SocketHandler

def entryBytes (length : Nat) : Nat := 1 + varintSize length + length

theorem entryBytes_le {length : Nat} (header : 2 ≤ length) : entryBytes length ≤ 2 * length := by
  have digits : length.log2 < length := (Nat.log2_lt (by omega)).mpr Nat.lt_two_pow_self
  unfold entryBytes varintSize
  omega

def entriesBytes (packets : List Packet) : Nat :=
  (packets.map fun packet => entryBytes packet.length).sum

@[simp] theorem entriesBytes_nil : entriesBytes [] = 0 := rfl

@[simp] theorem entriesBytes_cons (packet : Packet) (rest : List Packet) :
    entriesBytes (packet :: rest) = entryBytes packet.length + entriesBytes rest := by
  simp only [entriesBytes, List.map_cons, List.sum_cons]

@[simp] theorem entriesBytes_append (left right : List Packet) :
    entriesBytes (left ++ right) = entriesBytes left + entriesBytes right := by
  simp only [entriesBytes, List.map_append, List.sum_append]

/-- The entries are at most twice as long as the packets. -/
theorem entriesBytes_le (packets : List Packet) :
    entriesBytes packets ≤ 2 * totalLength packets := by
  induction packets with
  | nil => exact Nat.le_refl 0
  | cons packet rest ih =>
      have entry : entryBytes packet.length ≤ 2 * packet.length :=
        entryBytes_le (Nat.le_add_right 2 packet.payload.length)
      rw [entriesBytes_cons, totalLength_cons]
      omega

theorem entriesBytes_take_le (packets : List Packet) (count : Nat) :
    entriesBytes (packets.take count) ≤ entriesBytes packets := by
  conv_rhs => rw [← List.take_append_drop count packets, entriesBytes_append]
  exact Nat.le_add_right _ _

theorem entriesBytes_take_mono (packets : List Packet) {count more : Nat} (fewer : count ≤ more) :
    entriesBytes (packets.take count) ≤ entriesBytes (packets.take more) := by
  have part := entriesBytes_take_le (packets.take more) count
  rw [List.take_take, Nat.min_eq_left fewer] at part
  exact part

namespace BackedWriter

/-- The entries of the backed up packets that a peer which has counted `last` packets lacks. -/
def entriesAfter (writer : BackedWriter) (last : Nat) : Nat :=
  entriesBytes (writer.backupBuffer.take (writer.sequenceNumber - last))

variable {writer : BackedWriter} {accepted sinceLoss : List Packet}

theorem entriesAfter_antitone (writer : BackedWriter) {earlier last : Nat}
    (later : earlier ≤ last) : writer.entriesAfter last ≤ writer.entriesAfter earlier :=
  entriesBytes_take_mono writer.backupBuffer (by omega)

theorem newest_size (writer : BackedWriter) (count : Nat) :
    ((writer.newest count).map entrySize).sum = entriesBytes (writer.backupBuffer.take count) := by
  unfold newest entriesBytes
  rw [List.map_reverse, List.sum_reverse, List.map_map]
  congr 2
  funext packet
  rw [Function.comp_apply, entrySize, Packet.serialize_length, entryBytes]

/-- The message that `recover` builds for a peer that is not ahead. -/
theorem recovered_size {last : Nat} {recovered : List Bytes}
    (answer : writer.recover last = .done recovered) :
    (recovered.map entrySize).sum = writer.entriesAfter last := by
  by_cases dead : writer.socketFd = none
  · by_cases behind : last ≤ writer.sequenceNumber
    · rw [recover_eq writer dead behind] at answer
      split at answer
      · cases answer
        exact newest_size writer _
      · cases answer
    · rw [recover_ahead writer dead (by omega)] at answer
      cases answer
  · have alive : writer.socketFd.isSome = true := Option.isSome_iff_ne_none.mpr dead
    rw [recover, if_pos alive] at answer
    cases answer

theorem Backs.backup_total (backs : writer.Backs accepted sinceLoss)
    (alive : writer.socketFd ≠ none) (packet : Packet) (cryptoHandler : CryptoHandler) :
    totalLength (writer.backup packet cryptoHandler).backupBuffer ≤ MAX_BACKUP_BYTES := by
  have pushedSize : writer.backupSize + packet.length =
      (totalLength (packet :: writer.backupBuffer).reverse : Int) := by
    rw [backs.size, totalLength_reverse, totalLength_cons, Int.add_comm, Nat.cast_add]
  obtain ⟨kept, trimmed, _, fits, _⟩ := trimOldest_spec (packet :: writer.backupBuffer).reverse
  unfold BackedWriter.backup
  cases live : writer.socketFd with
  | none => exact absurd live alive
  | some fd =>
      simp only [pushedSize]
      rw [trimmed, totalLength_reverse]
      exact fits

/-- While the socket is alive, whatever the peer asks for fits. -/
theorem Backs.backup_alive_fits (backs : writer.Backs accepted sinceLoss)
    (alive : writer.socketFd ≠ none) (packet : Packet) (cryptoHandler : CryptoHandler)
    (last : Nat) :
    (writer.backup packet cryptoHandler).entriesAfter last ≤ MAX_PROTO_BYTES := by
  have total := backs.backup_total alive packet cryptoHandler
  have twice := entriesBytes_le (writer.backup packet cryptoHandler).backupBuffer
  have part := entriesBytes_take_le (writer.backup packet cryptoHandler).backupBuffer
    ((writer.backup packet cryptoHandler).sequenceNumber - last)
  unfold entriesAfter
  unfold MAX_BACKUP_BYTES at total
  unfold MAX_PROTO_BYTES
  omega

theorem backup_dead_entries (dead : writer.socketFd = none) (packet : Packet)
    (cryptoHandler : CryptoHandler) (last : Nat) :
    (writer.backup packet cryptoHandler).entriesAfter last ≤
      entryBytes packet.length + writer.entriesAfter last := by
  have pushed : (writer.backup packet cryptoHandler).backupBuffer =
      packet :: writer.backupBuffer := by
    unfold backup
    rw [dead]
  unfold entriesAfter
  rw [pushed, backup_sequenceNumber]
  cases wanted : writer.sequenceNumber + 1 - last with
  | zero =>
      rw [List.take_zero]
      exact Nat.zero_le _
  | succ fewer =>
      have same : writer.sequenceNumber - last = fewer := by omega
      rw [List.take_succ_cons, entriesBytes_cons, same]

end BackedWriter

end EternalTerminal
