import Mathlib.Data.List.Basic
import Mathlib.Tactic.Common

/-! Base64: three bytes as four characters, and a decoder that passes over every character it does not know. -/

namespace Base64

def digit (n : Nat) : Char :=
  if n < 26 then Char.ofNat (65 + n)
  else if n < 52 then Char.ofNat (97 + (n - 26))
  else if n < 62 then Char.ofNat (48 + (n - 52))
  else if n = 62 then '+'
  else '/'

def value (c : Char) : Option Nat :=
  if 65 ≤ c.toNat ∧ c.toNat ≤ 90 then some (c.toNat - 65)
  else if 97 ≤ c.toNat ∧ c.toNat ≤ 122 then some (c.toNat - 97 + 26)
  else if 48 ≤ c.toNat ∧ c.toNat ≤ 57 then some (c.toNat - 48 + 52)
  else if c = '+' ∨ c = '-' then some 62
  else if c = '/' ∨ c = '_' then some 63
  else none

@[grind =] def encode : List UInt8 → List Char
  | [] => []
  | [a] => [digit (a.toNat / 4), digit (a.toNat % 4 * 16), '=', '=']
  | [a, b] => [digit (a.toNat / 4), digit (a.toNat % 4 * 16 + b.toNat / 16), digit (b.toNat % 16 * 4), '=']
  | a :: b :: c :: rest =>
    digit (a.toNat / 4) :: digit (a.toNat % 4 * 16 + b.toNat / 16) :: digit (b.toNat % 16 * 4 + c.toNat / 64) ::
      digit (c.toNat % 64) :: encode rest

@[grind =] def pack : List Nat → List UInt8
  | a :: b :: c :: d :: rest =>
    UInt8.ofNat (a * 4 + b / 16) :: UInt8.ofNat (b % 16 * 16 + c / 4) :: UInt8.ofNat (c % 4 * 64 + d) :: pack rest
  | [a, b, c] => [UInt8.ofNat (a * 4 + b / 16), UInt8.ofNat (b % 16 * 16 + c / 4)]
  | [a, b] => [UInt8.ofNat (a * 4 + b / 16)]
  | _ => []

def decode (text : List Char) : List UInt8 := pack (text.filterMap value)

theorem value_digit : ∀ n < 64, value (digit n) = some n := by decide

theorem value_padding : value '=' = none := by decide

theorem ofNat_of_eq (byte : UInt8) {n : Nat} (same : n = byte.toNat) : UInt8.ofNat n = byte := by
  rw [same, UInt8.ofNat_toNat]

theorem decode_encode (bytes : List UInt8) : decode (encode bytes) = bytes := by
  fun_induction encode bytes with
  | case1 => rfl
  | case2 a =>
    have high := value_digit (a.toNat / 4) (by have := a.toNat_lt; omega)
    have low := value_digit (a.toNat % 4 * 16) (by omega)
    simp only [decode, List.filterMap_cons, List.filterMap_nil, high, low, value_padding, pack]
    rw [ofNat_of_eq a (by omega)]
  | case3 a b =>
    have first := a.toNat_lt
    have second := b.toNat_lt
    have high := value_digit (a.toNat / 4) (by omega)
    have middle := value_digit (a.toNat % 4 * 16 + b.toNat / 16) (by omega)
    have low := value_digit (b.toNat % 16 * 4) (by omega)
    simp only [decode, List.filterMap_cons, List.filterMap_nil, high, middle, low, value_padding, pack]
    rw [ofNat_of_eq a (by omega), ofNat_of_eq b (by omega)]
  | case4 a b c rest ih =>
    have first := a.toNat_lt
    have second := b.toNat_lt
    have third := c.toNat_lt
    have high := value_digit (a.toNat / 4) (by omega)
    have middle := value_digit (a.toNat % 4 * 16 + b.toNat / 16) (by omega)
    have next := value_digit (b.toNat % 16 * 4 + c.toNat / 64) (by omega)
    have low := value_digit (c.toNat % 64) (by omega)
    rw [decode] at ih
    simp only [decode, List.filterMap_cons, high, middle, next, low, pack, ih]
    rw [ofNat_of_eq a (by omega), ofNat_of_eq b (by omega), ofNat_of_eq c (by omega)]

theorem decode_strip {text : List Char} {skips : Char → Bool} (worthless : ∀ c, skips c = true → value c = none) :
    decode ((text.dropWhile skips).reverse.dropWhile skips).reverse = decode text := by
  have dropped (text : List Char) : (text.dropWhile skips).filterMap value = text.filterMap value := by
    induction text with
    | nil => rfl
    | cons c rest ih =>
      rw [List.dropWhile_cons]
      split
      · next skip => rw [ih, List.filterMap_cons_none (worthless c skip)]
      · rfl
  simp only [decode, List.filterMap_reverse, dropped, List.reverse_reverse]

end Base64
