/-
Bytes as text of six bits a symbol: three bytes are four symbols, and the last group is filled
up with a padding symbol.
-/

import Mathlib.Data.List.Basic
import Mathlib.Tactic.Common

namespace EternalTerminal.Library.SixBits

/-- "ABCDEFGHIJKLMNOPQRSTUVWXYZabcdefghijklmnopqrstuvwxyz0123456789+/" -/
def alphabet : List UInt8 :=
  (List.range 26).map (fun letter => UInt8.ofNat (65 + letter)) ++
    (List.range 26).map (fun letter => UInt8.ofNat (97 + letter)) ++
      (List.range 10).map (fun digit => UInt8.ofNat (48 + digit)) ++ [43, 47]

/-- "=" -/
def padding : UInt8 := 61

def symbol (bits : Nat) : UInt8 := alphabet.getD bits padding

def value (symbol : UInt8) : Option Nat := alphabet.idxOf? symbol

theorem value_symbol {bits : Nat} (small : bits < 64) : value (symbol bits) = some bits := by
  have all : ∀ bits : Fin 64, value (symbol bits.val) = some bits.val := by decide +kernel
  exact all ⟨bits, small⟩

theorem symbol_ne_padding {bits : Nat} (small : bits < 64) : symbol bits ≠ padding := by
  have all : ∀ bits : Fin 64, symbol bits.val ≠ padding := by decide +kernel
  exact all ⟨bits, small⟩

def encode : List UInt8 → List UInt8
  | [] => []
  | [first] =>
      [symbol (first.toNat / 4), symbol (first.toNat % 4 * 16), padding, padding]
  | [first, second] =>
      [symbol (first.toNat / 4), symbol (first.toNat % 4 * 16 + second.toNat / 16),
        symbol (second.toNat % 16 * 4), padding]
  | first :: second :: third :: rest =>
      symbol (first.toNat / 4) :: symbol (first.toNat % 4 * 16 + second.toNat / 16) ::
        symbol (second.toNat % 16 * 4 + third.toNat / 64) :: symbol (third.toNat % 64) ::
          encode rest

/-- The padding ends the text. -/
def decode : List UInt8 → Option (List UInt8)
  | [] => some []
  | a :: b :: c :: d :: rest => do
      let first ← value a
      let second ← value b
      let one := UInt8.ofNat (first * 4 + second / 16)
      if c = padding then
        if d = padding ∧ rest = [] then some [one] else none
      else
        let third ← value c
        let two := UInt8.ofNat (second % 16 * 16 + third / 4)
        if d = padding then
          if rest = [] then some [one, two] else none
        else
          let fourth ← value d
          let others ← decode rest
          some (one :: two :: UInt8.ofNat (third % 4 * 64 + fourth) :: others)
  | _ => none

def encodedLength (length : Nat) : Nat := (length + 2) / 3 * 4

theorem encode_length (bytes : List UInt8) :
    (encode bytes).length = encodedLength bytes.length := by
  induction bytes using encode.induct with
  | case1 => rfl
  | case2 first => simp [encode, encodedLength]
  | case3 first second => simp [encode, encodedLength]
  | case4 first second third rest ih =>
      simp only [encode, List.length_cons, ih, encodedLength]
      omega

/-! ### One group -/

section

variable {a b c d : Nat}

theorem decode_one (first : a < 64) (second : b < 64) :
    decode [symbol a, symbol b, padding, padding] = some [UInt8.ofNat (a * 4 + b / 16)] := by
  simp only [decode, value_symbol first, value_symbol second, Option.bind_eq_bind,
    Option.bind_some, if_true, and_self]

theorem decode_two (first : a < 64) (second : b < 64) (third : c < 64) :
    decode [symbol a, symbol b, symbol c, padding] =
      some [UInt8.ofNat (a * 4 + b / 16), UInt8.ofNat (b % 16 * 16 + c / 4)] := by
  simp only [decode, value_symbol first, value_symbol second, value_symbol third,
    Option.bind_eq_bind, Option.bind_some, if_neg (symbol_ne_padding third), if_true]

theorem decode_three (first : a < 64) (second : b < 64) (third : c < 64) (fourth : d < 64)
    {rest others : List UInt8} (later : decode rest = some others) :
    decode (symbol a :: symbol b :: symbol c :: symbol d :: rest) =
      some (UInt8.ofNat (a * 4 + b / 16) :: UInt8.ofNat (b % 16 * 16 + c / 4) ::
        UInt8.ofNat (c % 4 * 64 + d) :: others) := by
  simp only [decode, value_symbol first, value_symbol second, value_symbol third,
    value_symbol fourth, later, Option.bind_eq_bind, Option.bind_some,
    if_neg (symbol_ne_padding third), if_neg (symbol_ne_padding fourth)]

end

theorem ofNat_eq {number : Nat} {byte : UInt8} (same : number = byte.toNat) :
    UInt8.ofNat number = byte := by
  rw [same, UInt8.ofNat_toNat]

theorem decode_encode (bytes : List UInt8) : decode (encode bytes) = some bytes := by
  induction bytes using encode.induct with
  | case1 => rfl
  | case2 first =>
      have one := first.toNat_lt
      rw [encode, decode_one (by omega) (by omega)]
      exact congrArg some (congrArg (· :: []) (ofNat_eq (by omega)))
  | case3 first second =>
      have one := first.toNat_lt
      have two := second.toNat_lt
      have isFirst : UInt8.ofNat (first.toNat / 4 * 4 +
          (first.toNat % 4 * 16 + second.toNat / 16) / 16) = first := ofNat_eq (by omega)
      have isSecond : UInt8.ofNat ((first.toNat % 4 * 16 + second.toNat / 16) % 16 * 16 +
          second.toNat % 16 * 4 / 4) = second := ofNat_eq (by omega)
      rw [encode, decode_two (by omega) (by omega) (by omega), isFirst, isSecond]
  | case4 first second third rest ih =>
      have one := first.toNat_lt
      have two := second.toNat_lt
      have three := third.toNat_lt
      have isFirst : UInt8.ofNat (first.toNat / 4 * 4 +
          (first.toNat % 4 * 16 + second.toNat / 16) / 16) = first := ofNat_eq (by omega)
      have isSecond : UInt8.ofNat ((first.toNat % 4 * 16 + second.toNat / 16) % 16 * 16 +
          (second.toNat % 16 * 4 + third.toNat / 64) / 4) = second := ofNat_eq (by omega)
      have isThird : UInt8.ofNat ((second.toNat % 16 * 4 + third.toNat / 64) % 4 * 64 +
          third.toNat % 64) = third := ofNat_eq (by omega)
      rw [encode, decode_three (by omega) (by omega) (by omega) (by omega) ih, isFirst, isSecond,
        isThird]

end EternalTerminal.Library.SixBits
