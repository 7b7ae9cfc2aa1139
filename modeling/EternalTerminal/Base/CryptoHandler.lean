/-
The per-direction encryption state of `CryptoHandler`.

libsodium is a parameter: `SecretBox` holds the two calls the source makes and
what their documentation promises.  The nonce is the 24 bytes of the source,
incremented byte by byte before every call.
-/

import EternalTerminal.Base.Headers
import EternalTerminal.Library.Numeral

namespace EternalTerminal

open Library

def crypto_secretbox_KEYBYTES : Nat := 32

def crypto_secretbox_NONCEBYTES : Nat := 24

def crypto_secretbox_MACBYTES : Nat := 16

structure Key where
  bytes : Bytes
  length_eq : bytes.length = crypto_secretbox_KEYBYTES
  deriving DecidableEq

@[ext] structure Nonce where
  bytes : Bytes
  length_eq : bytes.length = crypto_secretbox_NONCEBYTES
  deriving DecidableEq

/-- `crypto_secretbox_easy` and `crypto_secretbox_open_easy`; `none` is the
second one's -1. -/
structure SecretBox where
  easy : Key → Nonce → Bytes → Bytes
  openEasy : Key → Nonce → Bytes → Option Bytes
  easy_length : ∀ key nonce plain,
    (easy key nonce plain).length = plain.length + crypto_secretbox_MACBYTES
  openEasy_easy : ∀ key nonce plain,
    openEasy key nonce (easy key nonce plain) = some plain

/-- A box with an empty MAC, which satisfies the two laws. -/
def SecretBox.nullCipher : SecretBox where
  easy _ _ plain := List.replicate crypto_secretbox_MACBYTES 0 ++ plain
  openEasy _ _ sealed :=
    if sealed.length < crypto_secretbox_MACBYTES then none
    else some (sealed.drop crypto_secretbox_MACBYTES)
  easy_length := by
    intro key nonce plain
    simp only [List.length_append, List.length_replicate]
    omega
  openEasy_easy := by
    intro key nonce plain
    rw [if_neg (by simp)]
    rfl

def Key.zero : Key :=
  { bytes := List.replicate crypto_secretbox_KEYBYTES 0
    length_eq := by simp }

namespace Nonce

/-- The constructor's nonce: zero bytes below `nonceMSB`. -/
def ofMSB (nonceMSB : UInt8) : Nonce :=
  { bytes := List.replicate 23 0 ++ [nonceMSB]
    length_eq := by simp [crypto_secretbox_NONCEBYTES] }

def increment (nonce : Nonce) : Nonce :=
  { bytes := Library.increment nonce.bytes
    length_eq := by rw [increment_length, nonce.length_eq] }

def value (nonce : Nonce) : Nat := littleEndianValue nonce.bytes

/-- The nonce of a handler that has made `count` calls. -/
def after (nonceMSB : UInt8) : Nat → Nonce
  | 0 => ofMSB nonceMSB
  | count + 1 => (after nonceMSB count).increment

theorem increment_value (nonce : Nonce) :
    nonce.increment.value = (nonce.value + 1) % 256 ^ 24 := by
  have result := littleEndianValue_increment nonce.bytes
  rw [nonce.length_eq] at result
  exact result

theorem ofMSB_value (nonceMSB : UInt8) :
    (ofMSB nonceMSB).value = 2 ^ 184 * nonceMSB.toNat := by
  have zeros : littleEndianValue (List.replicate 23 0) = 0 := by decide
  simp only [value, ofMSB, littleEndianValue_append, zeros, List.length_replicate,
    littleEndianValue]
  norm_num

/-- The counter goes on into the most significant byte, and no further while that has room. -/
theorem after_value_of_lt (nonceMSB : UInt8) {count : Nat}
    (short : 2 ^ 184 * nonceMSB.toNat + count < 256 ^ 24) :
    (after nonceMSB count).value = 2 ^ 184 * nonceMSB.toNat + count := by
  induction count with
  | zero => exact ofMSB_value nonceMSB
  | succ count ih =>
      rw [after, increment_value, ih (by omega), Nat.mod_eq_of_lt]
      · rfl
      · exact short

/-- Below 2^184 calls the counter stays under the most significant byte. -/
theorem after_value (nonceMSB : UInt8) {count : Nat} (short : count < 2 ^ 184) :
    (after nonceMSB count).value = 2 ^ 184 * nonceMSB.toNat + count := by
  have byteBound := nonceMSB.toNat_lt
  apply after_value_of_lt
  norm_num at short ⊢
  omega

/-- Handlers reach a nonce at one call only, and handlers of different
`nonceMSB` never share one. -/
theorem after_injective {leftMSB rightMSB : UInt8} {left right : Nat}
    (leftShort : left < 2 ^ 184) (rightShort : right < 2 ^ 184)
    (same : after leftMSB left = after rightMSB right) :
    leftMSB = rightMSB ∧ left = right := by
  have sameValue := congrArg value same
  rw [after_value leftMSB leftShort, after_value rightMSB rightShort] at sameValue
  have sameMSB : leftMSB.toNat = rightMSB.toNat := by omega
  exact ⟨UInt8.toNat_inj.mp sameMSB, by omega⟩

end Nonce

structure CryptoHandler where
  key : Key
  nonce : Nonce

namespace CryptoHandler

variable {signature : Signature}

def ofKey (key : Key) (nonceMSB : UInt8) : CryptoHandler :=
  { key := key
    nonce := Nonce.ofMSB nonceMSB }

/-- `CryptoHandler::CryptoHandler`. -/
def create (key : Bytes) (nonceMSB : UInt8) : Program signature Exn CryptoHandler :=
  if valid : key.length = crypto_secretbox_KEYBYTES then
    pure (ofKey { bytes := key, length_eq := valid } nonceMSB)
  else .abort "Invalid key length"

def incrementNonce (handler : CryptoHandler) : CryptoHandler :=
  { handler with nonce := handler.nonce.increment }

def encrypt (box : SecretBox) (handler : CryptoHandler) (buffer : Bytes) :
    Bytes × CryptoHandler :=
  let handler := handler.incrementNonce
  (box.easy handler.key handler.nonce buffer, handler)

/-- A buffer shorter than the MAC underflows the length of `retval`, and the
string constructor throws. -/
def decrypt (box : SecretBox) (handler : CryptoHandler) (buffer : Bytes) :
    Program signature Exn (Bytes × CryptoHandler) :=
  let handler := handler.incrementNonce
  if buffer.length < crypto_secretbox_MACBYTES then .raise .lengthError
  else
    match box.openEasy handler.key handler.nonce buffer with
    | none => .abort "Decrypt failed.  Possible key mismatch?"
    | some plain => pure (plain, handler)

/-- A handler that has made `count` calls since its construction. -/
def after (key : Key) (nonceMSB : UInt8) (count : Nat) : CryptoHandler :=
  { key := key
    nonce := Nonce.after nonceMSB count }

@[simp] theorem after_incrementNonce (key : Key) (nonceMSB : UInt8) (count : Nat) :
    (after key nonceMSB count).incrementNonce = after key nonceMSB (count + 1) := rfl

theorem decrypt_easy (box : SecretBox) (handler : CryptoHandler) (plain : Bytes) :
    (handler.decrypt box
        (box.easy handler.key handler.nonce.increment plain) :
      Program signature Exn _) = .done (plain, handler.incrementNonce) := by
  unfold decrypt
  have longEnough := box.easy_length handler.key handler.nonce.increment plain
  rw [if_neg (by rw [longEnough]; omega)]
  simp only [incrementNonce, box.openEasy_easy, Program.pure_eq_done]

end CryptoHandler

end EternalTerminal
