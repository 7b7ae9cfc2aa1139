/-
The nonces that a `CryptoHandler` uses over its life.

Both calls increment the nonce first and then work with what they leave, so the nonce of
a call depends on how many calls there have been and on nothing else.
-/

import Mathlib.Data.List.Nodup
import Mathlib.Logic.Function.Iterate
import EternalTerminal.Base.ClientConnection
import EternalTerminal.Base.ServerConnection

namespace EternalTerminal

open Library

namespace Nonce

/-- The counter is in the 23 bytes below the most significant one. -/
theorem after_bytes (nonceMSB : UInt8) {count : Nat} (short : count < 2 ^ 184) :
    (after nonceMSB count).bytes = littleEndian 23 count ++ [nonceMSB] := by
  have counter : 256 ^ 23 = 2 ^ 184 := by norm_num
  apply littleEndianValue_injective
  · rw [(after nonceMSB count).length_eq, List.length_append, littleEndian_length]
    rfl
  · have value : littleEndianValue (after nonceMSB count).bytes =
        2 ^ 184 * nonceMSB.toNat + count := after_value nonceMSB short
    rw [value, littleEndianValue_append, littleEndianValue_littleEndian, littleEndian_length,
      counter, Nat.mod_eq_of_lt short]
    simp only [littleEndianValue]
    omega

def firstCalls (nonceMSB : UInt8) (count : Nat) : List Nonce :=
  (List.range count).map fun call => after nonceMSB (call + 1)

variable {nonceMSB leftMSB rightMSB : UInt8} {count left right : Nat}

theorem firstCalls_succ (nonceMSB : UInt8) (count : Nat) :
    firstCalls nonceMSB (count + 1) =
      firstCalls nonceMSB count ++ [after nonceMSB (count + 1)] := by
  rw [firstCalls, List.range_succ, List.map_append]
  rfl

theorem firstCalls_nodup (short : count < 2 ^ 184) : (firstCalls nonceMSB count).Nodup := by
  apply List.Nodup.map_on _ List.nodup_range
  intro first isFirst second isSecond same
  have firstShort := List.mem_range.mp isFirst
  have secondShort := List.mem_range.mp isSecond
  have calls := (after_injective (by omega) (by omega) same).2
  omega

theorem firstCalls_disjoint (different : leftMSB ≠ rightMSB) (leftShort : left < 2 ^ 184)
    (rightShort : right < 2 ^ 184) :
    (firstCalls leftMSB left).Disjoint (firstCalls rightMSB right) := by
  intro nonce inLeft inRight
  obtain ⟨first, isFirst, same⟩ := List.mem_map.mp inLeft
  obtain ⟨second, isSecond, sameToo⟩ := List.mem_map.mp inRight
  have firstShort := List.mem_range.mp isFirst
  have secondShort := List.mem_range.mp isSecond
  exact different (after_injective (by omega) (by omega) (same.trans sameToo.symm)).1

end Nonce

namespace CryptoHandler

variable {box : SecretBox} {start handler : CryptoHandler} {key : Key} {nonceMSB : UInt8}
  {nonces : List Nonce}

theorem encrypt_eq (box : SecretBox) (handler : CryptoHandler) (buffer : Bytes) :
    handler.encrypt box buffer =
      (box.easy handler.key handler.incrementNonce.nonce buffer, handler.incrementNonce) := rfl

theorem iterate_incrementNonce (key : Key) (nonceMSB : UInt8) (count : Nat) :
    incrementNonce^[count] (ofKey key nonceMSB) = after key nonceMSB count := by
  induction count with
  | zero => rfl
  | succ count ih => rw [Function.iterate_succ_apply', ih, after_incrementNonce]

/-- The calls on a handler, with the nonce that each one used.  A call that ends the process
is the last, and a buffer without room for a MAC throws once the nonce has moved on. -/
inductive Calls (box : SecretBox) (start : CryptoHandler) : List Nonce → CryptoHandler → Prop
  | start : Calls box start [] start
  | encrypt {nonces : List Nonce} {before after : CryptoHandler} {buffer cipher : Bytes} :
      Calls box start nonces before → before.encrypt box buffer = (cipher, after) →
      Calls box start (nonces ++ [after.nonce]) after
  | decrypt {nonces : List Nonce} {before after : CryptoHandler} {buffer plain : Bytes} :
      Calls box start nonces before →
      (before.decrypt box buffer : Action (Bytes × CryptoHandler)) = .done (plain, after) →
      Calls box start (nonces ++ [after.nonce]) after
  | throws {nonces : List Nonce} {before : CryptoHandler} {buffer : Bytes} :
      Calls box start nonces before →
      (before.decrypt box buffer : Action (Bytes × CryptoHandler)) = .raise .lengthError →
      Calls box start (nonces ++ [before.incrementNonce.nonce]) before.incrementNonce

theorem decrypt_done {before after : CryptoHandler} {buffer plain : Bytes}
    (done : (before.decrypt box buffer : Action (Bytes × CryptoHandler)) = .done (plain, after)) :
    box.openEasy before.key before.incrementNonce.nonce buffer = some plain ∧
      after = before.incrementNonce := by
  unfold decrypt at done
  dsimp only at done
  split at done
  · cases done
  · split at done
    · cases done
    · rename_i opened
      cases done
      exact ⟨opened, rfl⟩

theorem calls_after (calls : Calls box (ofKey key nonceMSB) nonces handler) :
    nonces = Nonce.firstCalls nonceMSB nonces.length ∧
      handler = after key nonceMSB nonces.length := by
  have next {nonces : List Nonce} {before : CryptoHandler}
      (holds : nonces = Nonce.firstCalls nonceMSB nonces.length ∧
        before = after key nonceMSB nonces.length) :
      nonces ++ [before.incrementNonce.nonce] =
          Nonce.firstCalls nonceMSB (nonces ++ [before.incrementNonce.nonce]).length ∧
        before.incrementNonce =
          after key nonceMSB (nonces ++ [before.incrementNonce.nonce]).length := by
    obtain ⟨sofar, isAfter⟩ := holds
    rw [List.length_append, List.length_singleton, Nonce.firstCalls_succ, ← sofar, isAfter,
      after_incrementNonce]
    exact ⟨rfl, rfl⟩
  induction calls with
  | start => exact ⟨rfl, rfl⟩
  | encrypt _ encrypted ih =>
      rw [encrypt_eq] at encrypted
      obtain ⟨_, rfl⟩ := Prod.mk.inj encrypted
      exact next ih
  | decrypt _ done ih =>
      obtain ⟨_, rfl⟩ := decrypt_done done
      exact next ih
  | throws _ _ ih => exact next ih

/-- Each call of the reader uses the nonce of the same call of the writer. -/
def Lockstep (box : SecretBox) (writer reader : CryptoHandler) : Prop :=
  ∀ (sent received : List Nonce) (writerAfter readerAfter : CryptoHandler),
    Calls box writer sent writerAfter → Calls box reader received readerAfter →
    ∀ (call : Nat) (sentWith receivedWith : Nonce), sent[call]? = some sentWith →
      received[call]? = some receivedWith → receivedWith = sentWith

theorem lockstep_ofKey (box : SecretBox) (key : Key) (nonceMSB : UInt8) :
    Lockstep box (ofKey key nonceMSB) (ofKey key nonceMSB) := by
  intro sent received writerAfter readerAfter writes reads call sentWith receivedWith isSent
    isReceived
  have nonce {nonces : List Nonce} {handler : CryptoHandler} {used : Nonce}
      (calls : Calls box (ofKey key nonceMSB) nonces handler)
      (isUsed : nonces[call]? = some used) : used = Nonce.after nonceMSB (call + 1) := by
    rw [(calls_after calls).1, Nonce.firstCalls, List.getElem?_map] at isUsed
    obtain ⟨place, isPlace, same⟩ := Option.map_eq_some_iff.mp isUsed
    obtain ⟨_, rfl⟩ := List.getElem?_eq_some_iff.mp isPlace
    rw [← same, List.getElem_range]
  rw [nonce reads isReceived, nonce writes isSent]

end CryptoHandler

example : CLIENT_SERVER_NONCE_MSB ≠ SERVER_CLIENT_NONCE_MSB := by decide

/-- The nonce of a handler counts its calls under its most significant byte, so that no two
calls share one, neither on a handler nor on two with different bytes, and the reader of a
connection goes through the nonces of its peer's writer. -/
theorem nonces_lockstep (box : SecretBox) :
    (∀ (key : Key) (nonceMSB : UInt8) (count : Nat), count < 2 ^ 184 →
      (CryptoHandler.incrementNonce^[count] (CryptoHandler.ofKey key nonceMSB)).nonce.bytes =
        littleEndian 23 count ++ [nonceMSB]) ∧
    (∀ (key : Key) (nonceMSB : UInt8) (nonces : List Nonce) (handler : CryptoHandler),
      CryptoHandler.Calls box (CryptoHandler.ofKey key nonceMSB) nonces handler →
      nonces.length < 2 ^ 184 → nonces.Nodup) ∧
    (∀ (leftKey rightKey : Key) (leftMSB rightMSB : UInt8) (left right : List Nonce)
        (leftHandler rightHandler : CryptoHandler),
      leftMSB ≠ rightMSB →
      CryptoHandler.Calls box (CryptoHandler.ofKey leftKey leftMSB) left leftHandler →
      CryptoHandler.Calls box (CryptoHandler.ofKey rightKey rightMSB) right rightHandler →
      left.length < 2 ^ 184 → right.length < 2 ^ 184 → left.Disjoint right) ∧
    ∀ (key : Bytes) (clientFd serverFd : Fd) (client server : Connection),
      ClientConnection.establish key clientFd = .done client →
      ServerClientConnection.create key serverFd = .done server →
      CryptoHandler.Lockstep box client.writer.cryptoHandler server.reader.cryptoHandler ∧
        CryptoHandler.Lockstep box server.writer.cryptoHandler client.reader.cryptoHandler := by
  refine ⟨?_, ?_, ?_, ?_⟩
  · intro key nonceMSB count short
    have iterated : (CryptoHandler.incrementNonce^[count]
        (CryptoHandler.ofKey key nonceMSB)).nonce = Nonce.after nonceMSB count := by
      rw [CryptoHandler.iterate_incrementNonce]
      rfl
    rw [iterated, Nonce.after_bytes nonceMSB short]
  · intro key nonceMSB nonces handler calls short
    rw [(CryptoHandler.calls_after calls).1]
    exact Nonce.firstCalls_nodup short
  · intro leftKey rightKey leftMSB rightMSB left right leftHandler rightHandler different
      leftCalls rightCalls leftShort rightShort
    rw [(CryptoHandler.calls_after leftCalls).1, (CryptoHandler.calls_after rightCalls).1]
    exact Nonce.firstCalls_disjoint different leftShort rightShort
  · intro key clientFd serverFd client server establishes creates
    by_cases valid : key.length = crypto_secretbox_KEYBYTES
    · have established := ClientConnection.establish_valid ⟨key, valid⟩ clientFd
      have created := ServerClientConnection.create_valid ⟨key, valid⟩ serverFd
      obtain rfl := Program.done.inj (established.symm.trans establishes)
      obtain rfl := Program.done.inj (created.symm.trans creates)
      exact ⟨CryptoHandler.lockstep_ofKey box _ _, CryptoHandler.lockstep_ofKey box _ _⟩
    · rw [ClientConnection.establish_invalid valid] at establishes
      cases establishes

end EternalTerminal
