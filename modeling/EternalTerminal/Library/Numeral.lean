/-
Byte strings as numbers.

`littleEndian width value` is the image of an unsigned integer in memory, and
`increment` is addition of one by rippling a carry through the bytes.
-/

import Mathlib.Tactic.Ring
import Mathlib.Tactic.Linarith

namespace EternalTerminal.Library

def littleEndian : Nat → Nat → List UInt8
  | 0, _ => []
  | width + 1, value => UInt8.ofNat value :: littleEndian width (value / 256)

def littleEndianValue : List UInt8 → Nat
  | [] => 0
  | byte :: rest => byte.toNat + 256 * littleEndianValue rest

def bigEndian (width value : Nat) : List UInt8 :=
  (littleEndian width value).reverse

def bigEndianValue (bytes : List UInt8) : Nat :=
  littleEndianValue bytes.reverse

/-- Add one; a byte that wraps to zero carries into the next. -/
def increment : List UInt8 → List UInt8
  | [] => []
  | byte :: rest =>
      if byte + 1 ≠ 0 then (byte + 1) :: rest
      else (byte + 1) :: increment rest

@[simp] theorem littleEndian_length (width value : Nat) :
    (littleEndian width value).length = width := by
  induction width generalizing value with
  | zero => rfl
  | succ width ih => simp only [littleEndian, List.length_cons, ih]

@[simp] theorem bigEndian_length (width value : Nat) :
    (bigEndian width value).length = width := by
  simp only [bigEndian, List.length_reverse, littleEndian_length]

theorem littleEndianValue_littleEndian (width value : Nat) :
    littleEndianValue (littleEndian width value) = value % 256 ^ width := by
  induction width generalizing value with
  | zero => simp [littleEndian, littleEndianValue, Nat.mod_one]
  | succ width ih =>
      have lowByte : (UInt8.ofNat value).toNat = value % 256 := UInt8.toNat_ofNat'
      rw [littleEndian, littleEndianValue, ih, lowByte, Nat.pow_succ', Nat.mod_mul]

theorem bigEndianValue_bigEndian (width value : Nat) :
    bigEndianValue (bigEndian width value) = value % 256 ^ width := by
  simp only [bigEndianValue, bigEndian, List.reverse_reverse,
    littleEndianValue_littleEndian]

theorem littleEndianValue_lt (bytes : List UInt8) :
    littleEndianValue bytes < 256 ^ bytes.length := by
  induction bytes with
  | nil => simp [littleEndianValue]
  | cons byte rest ih =>
      have bounded := byte.toNat_lt
      simp only [littleEndianValue, List.length_cons, Nat.pow_succ']
      omega

theorem littleEndianValue_append (low high : List UInt8) :
    littleEndianValue (low ++ high) =
      littleEndianValue low + 256 ^ low.length * littleEndianValue high := by
  induction low with
  | nil => simp [littleEndianValue]
  | cons byte rest ih =>
      simp only [List.cons_append, littleEndianValue, ih, List.length_cons,
        Nat.pow_succ']
      ring

theorem littleEndianValue_injective {left right : List UInt8}
    (sameLength : left.length = right.length)
    (sameValue : littleEndianValue left = littleEndianValue right) :
    left = right := by
  induction left generalizing right with
  | nil =>
      cases right with
      | nil => rfl
      | cons byte rest => simp at sameLength
  | cons leftByte leftRest ih =>
      cases right with
      | nil => simp at sameLength
      | cons rightByte rightRest =>
          have leftBound := leftByte.toNat_lt
          have rightBound := rightByte.toNat_lt
          simp only [littleEndianValue] at sameValue
          have sameByte : leftByte.toNat = rightByte.toNat := by omega
          have sameRest : littleEndianValue leftRest = littleEndianValue rightRest := by
            omega
          rw [UInt8.toNat_inj.mp sameByte,
            ih (Nat.succ.inj sameLength) sameRest]

theorem littleEndian_littleEndianValue (bytes : List UInt8) :
    littleEndian bytes.length (littleEndianValue bytes) = bytes := by
  apply littleEndianValue_injective (littleEndian_length bytes.length _)
  rw [littleEndianValue_littleEndian, Nat.mod_eq_of_lt (littleEndianValue_lt bytes)]

@[simp] theorem increment_length (bytes : List UInt8) :
    (increment bytes).length = bytes.length := by
  induction bytes with
  | nil => rfl
  | cons byte rest ih =>
      unfold increment
      split <;> simp [ih]

theorem littleEndianValue_increment (bytes : List UInt8) :
    littleEndianValue (increment bytes) =
      (littleEndianValue bytes + 1) % 256 ^ bytes.length := by
  induction bytes with
  | nil => rfl
  | cons byte rest ih =>
      have byteBound := byte.toNat_lt
      have restBound := littleEndianValue_lt rest
      have successor : (byte + 1).toNat = (byte.toNat + 1) % 256 := by
        simp [UInt8.toNat_add]
      unfold increment
      by_cases wraps : byte + 1 = 0
      · -- the byte was 255 and the carry moves on
        have full : byte.toNat = 255 := by
          have zero : (byte + 1).toNat = 0 := by rw [wraps]; rfl
          omega
        rw [if_neg (by simpa using wraps)]
        simp only [littleEndianValue, ih, List.length_cons, Nat.pow_succ', wraps, full]
        have carried : 255 + 256 * littleEndianValue rest + 1 =
            256 * (littleEndianValue rest + 1) := by ring
        rw [carried, Nat.mul_mod_mul_left]
        simp
      · have below : byte.toNat + 1 < 256 := by
          by_contra full
          apply wraps
          apply UInt8.toNat_inj.mp
          rw [successor]
          have : byte.toNat = 255 := by omega
          rw [this]
          rfl
        rw [if_pos wraps]
        simp only [littleEndianValue, List.length_cons, Nat.pow_succ', successor,
          Nat.mod_eq_of_lt below]
        rw [Nat.mod_eq_of_lt (by omega)]
        omega

end EternalTerminal.Library
