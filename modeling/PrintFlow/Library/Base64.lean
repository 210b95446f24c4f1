import Mathlib.Algebra.Group.Nat.Defs
import Mathlib.Data.List.Basic

/-!
# Base64

Three bytes are written as four characters of six bits each; a last group of one or two bytes is
padded with `=`. The reader collects six bits at each character of the alphabet, gives a byte as
soon as it has eight bits, and skips every other character. It reads back what was encoded.
-/

namespace Base64

/-- The characters of the alphabet, by value. -/
def alphabet : List Char :=
  "ABCDEFGHIJKLMNOPQRSTUVWXYZabcdefghijklmnopqrstuvwxyz0123456789+/".toList

/-- The character of a value below 64. -/
def digit (value : Nat) : Char := alphabet.getD value 'A'

/-- The value of a character of the alphabet. -/
def digitValue (c : Char) : Option Nat :=
  let code := c.toNat
  if 65 ≤ code ∧ code ≤ 90 then some (code - 65)
  else if 97 ≤ code ∧ code ≤ 122 then some (code - 97 + 26)
  else if 48 ≤ code ∧ code ≤ 57 then some (code - 48 + 52)
  else if c = '+' then some 62
  else if c = '/' then some 63
  else none

/-- Every value below 64 is read from its character. -/
theorem digit_value_digit {value : Nat} (h : value < 64) :
    digitValue (digit value) = some value := by
  have hall : ∀ value < 64, digitValue (digit value) = some value := by decide +kernel
  exact hall value h

/-- The characters of these bytes. -/
def encode : List UInt8 → List Char
  | [] => []
  | [a] => [digit (a.toNat / 4), digit (a.toNat % 4 * 16), '=', '=']
  | [a, b] =>
      [digit (a.toNat / 4), digit (a.toNat % 4 * 16 + b.toNat / 16), digit (b.toNat % 16 * 4), '=']
  | a :: b :: c :: rest =>
      digit (a.toNat / 4) :: digit (a.toNat % 4 * 16 + b.toNat / 16) ::
        digit (b.toNat % 16 * 4 + c.toNat / 64) :: digit (c.toNat % 64) :: encode rest

/-- The bytes of these characters, with the bits kept from the characters before. -/
def decodeFrom (kept count : Nat) : List Char → List UInt8
  | [] => []
  | c :: rest =>
      match digitValue c with
      | none => decodeFrom kept count rest
      | some value =>
          if count + 6 < 8 then decodeFrom (kept * 64 + value) (count + 6) rest
          else
            UInt8.ofNat ((kept * 64 + value) / 2 ^ (count - 2)) ::
              decodeFrom ((kept * 64 + value) % 2 ^ (count - 2)) (count - 2) rest

/-- The bytes of these characters. -/
def decode (text : List Char) : List UInt8 := decodeFrom 0 0 text

/-- The first character of a group gives no byte. -/
theorem decode_first {value : Nat} (h : value < 64) (rest : List Char) :
    decodeFrom 0 0 (digit value :: rest) = decodeFrom value 6 rest := by
  rw [decodeFrom, digit_value_digit h]
  simp

/-- A later character of a group completes a byte. -/
theorem decode_next {kept count value : Nat} (hvalue : value < 64) (hcount : 2 ≤ count)
    (rest : List Char) :
    decodeFrom kept count (digit value :: rest) =
      UInt8.ofNat ((kept * 64 + value) / 2 ^ (count - 2)) ::
        decodeFrom ((kept * 64 + value) % 2 ^ (count - 2)) (count - 2) rest := by
  rw [decodeFrom, digit_value_digit hvalue]
  exact if_neg (by omega)

/-- The padding gives no byte. -/
theorem decode_padding (kept count length : Nat) :
    decodeFrom kept count (List.replicate length '=') = [] := by
  induction length with
  | zero => rfl
  | succ length ih =>
      have hnone : digitValue '=' = none := by decide
      rw [List.replicate_succ, decodeFrom, hnone]
      exact ih

/-- A byte is put together from its parts, before the bytes that follow. -/
theorem byte_cons {value : Nat} {byte : UInt8} {bytes rest : List UInt8} (h : value = byte.toNat)
    (hrest : rest = bytes) : UInt8.ofNat value :: rest = byte :: bytes := by
  rw [h, UInt8.ofNat_toNat, hrest]

/-- What was encoded is read back. -/
theorem decode_encode (bytes : List UInt8) : decode (encode bytes) = bytes := by
  induction bytes using encode.induct with
  | case1 => rfl
  | case2 a =>
      have ha := a.toNat_lt
      show decodeFrom 0 0 (digit _ :: digit _ :: List.replicate 2 '=') = [a]
      rw [decode_first (by omega), decode_next (by omega) (by omega), decode_padding]
      exact byte_cons (by omega) rfl
  | case3 a b =>
      have ha := a.toNat_lt
      have hb := b.toNat_lt
      show decodeFrom 0 0 (digit _ :: digit _ :: digit _ :: List.replicate 1 '=') = [a, b]
      rw [decode_first (by omega), decode_next (by omega) (by omega),
        decode_next (by omega) (by omega), decode_padding]
      exact byte_cons (by omega) (byte_cons (by omega) rfl)
  | case4 a b c rest ih =>
      have ha := a.toNat_lt
      have hb := b.toNat_lt
      have hc := c.toNat_lt
      rw [encode, decode, decode_first (by omega), decode_next (by omega) (by omega),
        decode_next (by omega) (by omega), decode_next (by omega) (by omega)]
      -- After four characters no bits are kept.
      have hkept (value : Nat) : value % 2 ^ (6 - 2 - 2 - 2) = 0 := Nat.mod_one value
      rw [hkept]
      exact byte_cons (by omega) (byte_cons (by omega) (byte_cons (by omega) ih))

end Base64
