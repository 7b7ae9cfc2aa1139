/-
The class of the `base64` submodule, and the `B64` methods of `SocketHandler`.
-/

import EternalTerminal.Base.StreamReads
import EternalTerminal.Library.Numeral
import EternalTerminal.Library.SixBits

namespace EternalTerminal

open Library

/-- `decodeInt` is `Decode` into the four bytes of an `int32_t`. -/
structure Base64 where
  encodedLength : Nat → Nat
  encode : Bytes → Bytes
  decode : Bytes → Option Bytes
  decodeInt : Bytes → Option Int
  encode_length : ∀ bytes, (encode bytes).length = encodedLength bytes.length
  decode_encode : ∀ bytes, decode (encode bytes) = some bytes
  decodeInt_encode : ∀ bytes, bytes.length = 4 →
    decodeInt (encode bytes) = some (toInt32 (littleEndianValue bytes))

namespace Base64

def standard : Base64 where
  encodedLength := SixBits.encodedLength
  encode := SixBits.encode
  decode := SixBits.decode
  decodeInt text :=
    (SixBits.decode text).bind fun bytes =>
      if bytes.length = 4 then some (toInt32 (littleEndianValue bytes)) else none
  encode_length := SixBits.encode_length
  decode_encode := SixBits.decode_encode
  decodeInt_encode := by
    intro bytes four
    rw [SixBits.decode_encode, Option.bind_some, if_pos four]

variable (base64 : Base64) {first second : Bytes}

theorem encode_injective (same : base64.encode first = base64.encode second) : first = second := by
  have decoded := congrArg base64.decode same
  rw [base64.decode_encode, base64.decode_encode] at decoded
  exact Option.some.inj decoded

/-- `writeB64` of an `int32_t`. -/
def int (value : Int) : Bytes := base64.encode (littleEndian 4 (value % 2 ^ 32).toNat)

theorem int_length (value : Int) : (base64.int value).length = base64.encodedLength 4 := by
  rw [int, base64.encode_length, littleEndian_length]

theorem decodeInt_int {value : Int} (isInt : IsInt value) :
    base64.decodeInt (base64.int value) = some value := by
  obtain ⟨low, high⟩ := isInt
  have wraps : (((value % 2 ^ 32).toNat : Nat) : Int) = value % 2 ^ 32 :=
    Int.toNat_of_nonneg (Int.emod_nonneg value (by omega))
  have small : (value % 2 ^ 32).toNat < 256 ^ 4 := by omega
  have kept : toInt32 (value % 2 ^ 32) = value := by
    have same : toInt32 (value % 2 ^ 32) = toInt32 value := Int.emod_bmod value (2 ^ 32)
    exact same.trans (toInt32_eq_self low high)
  rw [int, base64.decodeInt_encode _ (littleEndian_length 4 _), littleEndianValue_littleEndian,
    Nat.mod_eq_of_lt small, wraps, kept]

theorem int_injective {value other : Int} (isInt : IsInt value) (otherIsInt : IsInt other)
    (same : base64.int value = base64.int other) : value = other := by
  have decoded := congrArg base64.decodeInt same
  rw [base64.decodeInt_int isInt, base64.decodeInt_int otherIsInt] at decoded
  exact Option.some.inj decoded

end Base64

namespace SocketHandler

variable (base64 : Base64) (fd : Fd)

/-- `readB64` into an `int32_t`. -/
def readB64 : Action Int := do
  let text ← readAll fd (base64.encodedLength 4)
  match base64.decodeInt text with
  | some value => pure value
  | none => .raise (.runtimeError "b64 decode failed")

/-- A negative length makes the string constructor throw. -/
def readB64EncodedLength (encodedLength : Int) : Action Bytes :=
  if encodedLength < 0 then .raise .lengthError
  else do
    let text ← readAll fd encodedLength.toNat
    match base64.decode text with
    | some out => pure out
    | none => .raise (.runtimeError "b64 decode failed")

variable {base64} {fd} {β : Type}

theorem readB64_bind {value : Int} (isInt : IsInt value) (next : Int → Action β)
    (rest : Bytes) :
    readFrom (readB64 base64 fd >>= next) (base64.int value ++ rest) =
      readFrom (next value) rest := by
  rw [readB64, LawfulMonad.bind_assoc, readFrom_readAll_bind _ (base64.int_length value),
    base64.decodeInt_int isInt]
  rfl

theorem readB64EncodedLength_bind {data : Bytes} {encodedLength : Int}
    (length : encodedLength = (base64.encode data).length) (next : Bytes → Action β)
    (rest : Bytes) :
    readFrom (readB64EncodedLength base64 fd encodedLength >>= next)
      (base64.encode data ++ rest) = readFrom (next data) rest := by
  have count : (base64.encode data).length = encodedLength.toNat := by omega
  rw [readB64EncodedLength, if_neg (by omega), LawfulMonad.bind_assoc,
    readFrom_readAll_bind _ count, base64.decode_encode]
  rfl

end SocketHandler

end EternalTerminal
