/-
Byte strings, machine integers, errno values and constants of `Headers.hpp`.
-/

import Mathlib.Data.List.Infix
import Mathlib.Tactic.Linarith
import EternalTerminal.Library.Program

namespace EternalTerminal

abbrev Bytes := List UInt8

instance : LawfulBEq Bytes := inferInstance

/-- An open descriptor.  The source's -1 is `none` in an `Option Fd`. -/
abbrev Fd := Nat

/-- The C++ exceptions the modelled code can throw.  `runtimeError` is the only
one that the recovery and connection code catches by name. -/
inductive Exn where
  | runtimeError (what : String)
  | lengthError
  | outOfRange
  deriving DecidableEq

/-- Conversion to `int` and to `int32_t`. -/
def toInt32 (value : Int) : Int := value.bmod (2 ^ 32)

/-- Conversion of an unsigned 64-bit image to `int64_t`. -/
@[irreducible] def toInt64 (value : Nat) : Int := (value : Int).bmod (2 ^ 64)

/-- The values of an `int`. -/
def IsInt (value : Int) : Prop := -2 ^ 31 ≤ value ∧ value < 2 ^ 31

instance (value : Int) : Decidable (IsInt value) :=
  inferInstanceAs (Decidable (-2 ^ 31 ≤ value ∧ value < 2 ^ 31))

theorem toInt32_eq_self {value : Int} (low : -2 ^ 31 ≤ value) (high : value < 2 ^ 31) :
    toInt32 value = value := by
  unfold toInt32
  apply Int.bmod_eq_of_le
  · simpa using low
  · simpa using high

theorem toInt32_natCast_eq_self {value : Nat} (high : value < 2 ^ 31) :
    toInt32 value = value :=
  toInt32_eq_self (by omega) (by omega)

theorem toInt32_lt (value : Int) : toInt32 value < 2 ^ 31 := by
  have bound := Int.bmod_lt (x := value) (m := 2 ^ 32) (by norm_num)
  simpa [toInt32] using bound

theorem le_toInt32 (value : Int) : -2 ^ 31 ≤ toInt32 value := by
  have bound := Int.le_bmod (x := value) (m := 2 ^ 32) (by norm_num)
  simpa [toInt32] using bound

theorem toInt32_mod (value : Nat) : toInt32 (value % 256 ^ 4 : Nat) = toInt32 value := by
  unfold toInt32
  exact_mod_cast Int.emod_bmod (value : Int) (2 ^ 32)

theorem toInt32_le_natCast {value : Nat} (nonneg : 0 ≤ toInt32 value) :
    toInt32 value ≤ value := by
  unfold toInt32 at nonneg ⊢
  rw [Int.bmod_def] at nonneg ⊢
  split at nonneg
  · omega
  · omega

theorem toInt64_eq_self {value : Nat} (high : value < 2 ^ 63) :
    toInt64 value = value := by
  unfold toInt64
  apply Int.bmod_eq_of_le
  · norm_num
  · norm_num
    omega

theorem toInt64_eq_of_nonneg {value : Nat} (bound : value < 2 ^ 64) (nonneg : 0 ≤ toInt64 value) :
    toInt64 value = value := by
  unfold toInt64 at nonneg ⊢
  rw [Int.bmod_def] at nonneg ⊢
  split at nonneg
  · omega
  · omega

theorem except_bind_ok {ε α β : Type} {first : Except ε α} {next : α → Except ε β}
    {result : β} (ok : (first >>= next) = .ok result) :
    ∃ value, first = .ok value ∧ next value = .ok result := by
  cases first with
  | error message => cases ok
  | ok value => exact ⟨value, rfl, ok⟩

inductive Errno where
  | eagain
  | ewouldblock
  | etimedout
  | epipe
  | other (code : Nat)
  deriving DecidableEq

def PROTOCOL_VERSION : Int := 6

def CLIENT_SERVER_NONCE_MSB : UInt8 := 0

def SERVER_CLIENT_NONCE_MSB : UInt8 := 1

end EternalTerminal
