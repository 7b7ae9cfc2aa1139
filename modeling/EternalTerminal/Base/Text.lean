/-
Text: literals, `split` of `Headers.hpp`, and the conversions of text to numbers.
-/

import Mathlib.Data.List.TakeWhile
import EternalTerminal.Base.Headers
import EternalTerminal.Library.Decimal
import EternalTerminal.Library.Delimited

namespace EternalTerminal

open Library

/-- A literal of the source; they are all ASCII. -/
def ascii (literal : String) : Bytes := literal.toList.map fun char => UInt8.ofNat char.toNat

/-- `split` of `Headers.hpp`.  `getline` yields no item after a last delimiter. -/
def split (delim : UInt8) : Bytes → List Bytes
  | [] => []
  | byte :: rest =>
      if byte = delim then [] :: split delim rest
      else
        match split delim rest with
        | [] => [[byte]]
        | item :: items => (byte :: item) :: items

theorem split_eq_items (delim : UInt8) (text : Bytes) : split delim text = items delim text := by
  induction text with
  | nil => rfl
  | cons byte rest ih =>
      rw [split, items, ih]
      cases items delim rest <;> rfl

/-! ### Numbers -/

/-- `isspace` in the C locale. -/
def isspace (byte : UInt8) : Bool := byte = 32 || (9 ≤ byte && byte ≤ 13)

def LONG_MAX : Int := 2 ^ 63 - 1

def LONG_MIN : Int := -2 ^ 63

/-- The sign in front of a number, and what follows it. -/
def takeSign : Bytes → Bool × Bytes
  | 43 :: rest => (false, rest)
  | 45 :: rest => (true, rest)
  | text => (false, text)

/-- `strtol` in base 10: `none` if no digit is read, and the nearest `long` for a number
that is none.  What follows the digits is not looked at. -/
def strtol (text : Bytes) : Option Int :=
  let (negative, rest) := takeSign (text.dropWhile isspace)
  match rest.takeWhile isDigit with
  | [] => none
  | digits =>
      let value : Int := decimalValue digits
      if negative then some (max (-value) LONG_MIN) else some (min value LONG_MAX)

/-- The exceptions of `stoi`; both are `logic_error`s and say "stoi". -/
inductive StoiError where
  | invalidArgument
  | outOfRange
  deriving DecidableEq

/-- The numbers an `int` can hold. -/
def FitsInt (value : Int) : Prop := -2 ^ 31 ≤ value ∧ value < 2 ^ 31

instance (value : Int) : Decidable (FitsInt value) :=
  inferInstanceAs (Decidable (-2 ^ 31 ≤ value ∧ value < 2 ^ 31))

def stoi (text : Bytes) : Except StoiError Int :=
  match strtol text with
  | none => .error .invalidArgument
  | some value =>
      if FitsInt value then .ok value else .error .outOfRange

def AllDigits (text : Bytes) : Prop := text ≠ [] ∧ ∀ byte ∈ text, isDigit byte = true

section

variable {text : Bytes} {byte : UInt8} {value : Int}

theorem isDigit_iff : isDigit byte = true ↔ 48 ≤ byte.toNat ∧ byte.toNat ≤ 57 := by
  simp [isDigit, UInt8.le_iff_toNat_le]

theorem isspace_of_isDigit (digit : isDigit byte = true) : isspace byte = false := by
  have bounds := isDigit_iff.mp digit
  simp only [isspace, Bool.or_eq_false_iff, decide_eq_false_iff_not, Bool.and_eq_false_iff,
    UInt8.le_iff_toNat_le]
  constructor
  · intro same
    subst same
    exact absurd bounds.1 (by decide)
  · right
    have upper : (13 : UInt8).toNat = 13 := rfl
    omega

theorem takeSign_of_isDigit {rest : Bytes} (digit : isDigit byte = true) :
    takeSign (byte :: rest) = (false, byte :: rest) := by
  unfold takeSign
  split
  · rename_i plus
    cases plus
    exact absurd digit (by decide)
  · rename_i minus
    cases minus
    exact absurd digit (by decide)
  · rfl

theorem AllDigits.strtol (digits : AllDigits text) :
    strtol text = some (min (decimalValue text : Int) LONG_MAX) := by
  cases text with
  | nil => exact absurd rfl digits.1
  | cons byte rest =>
      have first := digits.2 byte List.mem_cons_self
      have noSpace : (byte :: rest).dropWhile isspace = byte :: rest := by
        rw [List.dropWhile_cons, isspace_of_isDigit first]
        rfl
      have whole : (byte :: rest).takeWhile isDigit = byte :: rest :=
        List.takeWhile_eq_self_iff.mpr digits.2
      unfold EternalTerminal.strtol
      rw [noSpace, takeSign_of_isDigit first]
      simp only [whole, Bool.false_eq_true, if_false]

/-- A numeral below 2^31 is read as its number. -/
theorem AllDigits.stoi (digits : AllDigits text) (small : decimalValue text < 2 ^ 31) :
    stoi text = .ok (decimalValue text) := by
  have notClamped : min (decimalValue text : Int) LONG_MAX = decimalValue text := by
    unfold LONG_MAX
    omega
  unfold EternalTerminal.stoi
  rw [digits.strtol, notClamped]
  have inRange : FitsInt (decimalValue text) := by
    unfold FitsInt
    omega
  exact if_pos inRange

theorem stoi_fitsInt (ok : stoi text = .ok value) : FitsInt value := by
  unfold stoi at ok
  cases read : strtol text with
  | none =>
      rw [read] at ok
      cases ok
  | some number =>
      simp only [read] at ok
      split at ok
      · rename_i inRange
        cases ok
        exact inRange
      · cases ok

theorem allDigits_decimal (value : Nat) : AllDigits (decimal value) :=
  ⟨decimal_ne_nil value, fun _ inNumeral => isDigit_of_mem_decimal inNumeral⟩

theorem stoi_decimal {value : Nat} (small : value < 2 ^ 31) :
    stoi (decimal value) = .ok value := by
  have read := (allDigits_decimal value).stoi (by rwa [decimalValue_decimal])
  rwa [decimalValue_decimal] at read

theorem stoi_nonneg (noDash : 45 ∉ text) (ok : stoi text = .ok value) : 0 ≤ value := by
  have unsigned : (takeSign (text.dropWhile isspace)).1 = false := by
    unfold takeSign
    split
    · rfl
    · rename_i rest minus
      have inText : (45 : UInt8) ∈ text :=
        (List.dropWhile_sublist isspace).subset (minus ▸ List.mem_cons_self)
      exact absurd inText noDash
    · rfl
  unfold stoi strtol at ok
  simp only [unsigned, Bool.false_eq_true, if_false] at ok
  split at ok
  · cases ok
  · rename_i number read
    split at ok
    · split at read
      · cases read
      · cases read
        cases ok
        exact le_min (Int.natCast_nonneg _) (by decide)
    · cases ok

end

end EternalTerminal
