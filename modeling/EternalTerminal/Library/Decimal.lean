/-
Decimal numerals as byte strings.
-/

import Mathlib.Data.List.Basic

namespace EternalTerminal.Library

def isDigit (byte : UInt8) : Bool := 48 ≤ byte && byte ≤ 57

def decimalValue (digits : List UInt8) : Nat :=
  digits.foldl (fun value byte => 10 * value + (byte.toNat - 48)) 0

/-- The shortest numeral of a number. -/
def decimal (value : Nat) : List UInt8 :=
  (Nat.toDigits 10 value).map fun char => UInt8.ofNat char.toNat

theorem isDigit_ofNat {char : Char} (digit : char.isDigit = true) :
    isDigit (UInt8.ofNat char.toNat) = true ∧
      (UInt8.ofNat char.toNat).toNat = char.toNat := by
  have bounds : 48 ≤ char.toNat ∧ char.toNat ≤ 57 := by
    simpa [Char.isDigit, UInt32.le_iff_toNat_le] using digit
  have small : (UInt8.ofNat char.toNat).toNat = char.toNat := by
    rw [UInt8.toNat_ofNat']
    omega
  constructor
  · simp only [isDigit, Bool.and_eq_true, decide_eq_true_eq, UInt8.le_iff_toNat_le, small]
    exact bounds
  · exact small

theorem isDigit_of_mem_decimal {value : Nat} {byte : UInt8} (inNumeral : byte ∈ decimal value) :
    isDigit byte = true := by
  obtain ⟨char, inDigits, isChar⟩ := List.mem_map.mp inNumeral
  have digit : char.isDigit = true :=
    Nat.isDigit_of_mem_toDigits (by decide) (by decide) inDigits
  rw [← isChar]
  exact (isDigit_ofNat digit).1

theorem decimal_ne_nil (value : Nat) : decimal value ≠ [] := by
  unfold decimal
  simp [Nat.toDigits_ne_nil]

theorem foldl_toNat {chars : List Char} (digits : ∀ char ∈ chars, char.isDigit = true)
    (start : Nat) :
    (chars.map fun char => UInt8.ofNat char.toNat).foldl
        (fun value byte => 10 * value + (byte.toNat - 48)) start =
      Nat.ofDigitChars 10 chars start := by
  induction chars generalizing start with
  | nil => simp
  | cons char rest ih =>
      have first := (isDigit_ofNat (digits char List.mem_cons_self)).2
      have later : ∀ other ∈ rest, other.isDigit = true :=
        fun other inRest => digits other (List.mem_cons_of_mem char inRest)
      rw [List.map_cons, List.foldl_cons, first, ih later, Nat.ofDigitChars_cons]
      rfl

@[simp] theorem decimalValue_decimal (value : Nat) : decimalValue (decimal value) = value := by
  have digits : ∀ char ∈ Nat.toDigits 10 value, char.isDigit = true :=
    fun char inDigits => Nat.isDigit_of_mem_toDigits (by decide) (by decide) inDigits
  unfold decimalValue decimal
  rw [foldl_toNat digits 0]
  exact Nat.ofDigitChars_ten_toDigits

end EternalTerminal.Library
