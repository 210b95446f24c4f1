import Mathlib.Data.List.Basic
import PrintFlow.Library.FloatFormat

/-!
# The Qt types the program exchanges

`QVariant` is Qt's: a value known only through the conversions the program calls on it. A
`QVariantMap` is looked up by key, and a missing key yields an invalid value whose conversions
return the zero of their type, or the fallback the call passes.
-/

namespace PrintFlow

open FloatFormat

/-- A `QByteArray` or `std::vector<uint8_t>`. -/
abbrev Bytes := List UInt8

/-- The conversions of a `QVariant` that the program uses. -/
class QVariantApi (V : Type) where
  toInt : V → Int32
  toUInt : V → UInt32
  toULongLong : V → UInt64
  toBool : V → Bool
  toDouble : V → Double
  toString : V → String
  toByteArray : V → Bytes
  toList : V → List V
  toMap : V → String → Option V

/-- The constructors of a `QVariant` that the program uses. -/
class QVariantOf (V : Type) where
  ofInt : Int32 → V
  ofULongLong : UInt64 → V
  ofDouble : Double → V
  ofByteArray : Bytes → V
  ofList : List V → V

/-- A variant converts to the value it was made of; a `qulonglong` that fits converts to `uint`. -/
class LawfulQVariant (V : Type) [QVariantApi V] [QVariantOf V] : Prop where
  to_int (value : Int32) : QVariantApi.toInt (QVariantOf.ofInt value : V) = value
  to_uint (value : UInt32) :
    QVariantApi.toUInt (QVariantOf.ofULongLong value.toUInt64 : V) = value
  to_ulonglong (value : UInt64) :
    QVariantApi.toULongLong (QVariantOf.ofULongLong value : V) = value
  to_double (value : Double) : QVariantApi.toDouble (QVariantOf.ofDouble value : V) = value
  to_byte_array (value : Bytes) : QVariantApi.toByteArray (QVariantOf.ofByteArray value : V) = value
  to_list (values : List V) : QVariantApi.toList (QVariantOf.ofList values : V) = values

attribute [simp] LawfulQVariant.to_int LawfulQVariant.to_uint LawfulQVariant.to_ulonglong
  LawfulQVariant.to_double LawfulQVariant.to_byte_array LawfulQVariant.to_list

/-- A `QVariantMap`, by key. -/
abbrev QVariantMap (V : Type) := String → Option V

/-- `QChar::isSpace`. -/
def isSpace (c : Char) : Bool :=
  let n := c.toNat
  (0x09 ≤ n && n ≤ 0x0d) || n == 0x20 || n == 0x85 || n == 0xa0 || n == 0x1680 ||
    (0x2000 ≤ n && n ≤ 0x200a) || n == 0x2028 || n == 0x2029 || n == 0x202f || n == 0x205f ||
    n == 0x3000

/-- `QString::trimmed`. -/
def trimmed (s : String) : String :=
  String.ofList (((s.toList.dropWhile isSpace).reverse.dropWhile isSpace).reverse)

/-! ## Integers -/

/-- The conversion of an `int` to `quint64`. -/
def quint64 (value : Int32) : UInt64 := UInt64.ofInt value.toInt

/-- A nonnegative `int` keeps its value as a `quint64`. -/
theorem quint64_to_nat {value : Int32} (h : 0 ≤ value.toInt) :
    (quint64 value).toNat = value.toInt.toNat := by
  have hlt := value.toInt_lt
  rw [quint64, UInt64.ofInt, UInt64.toNat_ofNat', Int.emod_eq_of_lt h (by omega)]
  exact Nat.mod_eq_of_lt (by omega)

/-- `std::clamp` on `int`. -/
def clamp (value low high : Int) : Int :=
  if value < low then low else if high < value then high else value

/-- A clamped value lies between the bounds. -/
theorem clamp_mem {value low high : Int} (h : low ≤ high) :
    low ≤ clamp value low high ∧ clamp value low high ≤ high := by
  unfold clamp
  split_ifs <;> omega

/-- Clamping twice to the same bounds is clamping once. -/
@[simp] theorem clamp_clamp {value low high : Int} (h : low ≤ high) :
    clamp (clamp value low high) low high = clamp value low high := by
  unfold clamp
  split_ifs <;> omega

namespace QVariantMap

/-- The map with these entries. -/
def ofEntries {V : Type} (entries : List (String × V)) : QVariantMap V := (entries.lookup ·)

variable {V : Type} [QVariantApi V]

/-- `map.value(key, fallback).toInt()`. -/
def int (map : QVariantMap V) (key : String) (fallback : Int32) : Int32 :=
  (map key).elim fallback QVariantApi.toInt

/-- `map.value(key).toULongLong()`. -/
def uint64 (map : QVariantMap V) (key : String) : UInt64 :=
  (map key).elim 0 QVariantApi.toULongLong

/-- `map.value(key, fallback).toBool()`. -/
def bool (map : QVariantMap V) (key : String) (fallback : Bool) : Bool :=
  (map key).elim fallback QVariantApi.toBool

/-- `map.value(key, fallback).toDouble()`. -/
def double (map : QVariantMap V) (key : String) (fallback : Double) : Double :=
  (map key).elim fallback QVariantApi.toDouble

/-- `map.value(key, fallback).toString()`. -/
def string (map : QVariantMap V) (key fallback : String) : String :=
  (map key).elim fallback QVariantApi.toString

/-- `map.value(key).toByteArray()`. -/
def byteArray (map : QVariantMap V) (key : String) : Bytes :=
  (map key).elim [] QVariantApi.toByteArray

/-- `map.value(key).toList()`. -/
def list (map : QVariantMap V) (key : String) : List V :=
  (map key).elim [] QVariantApi.toList

/-- `map.value(key).toMap()`. -/
def map (map : QVariantMap V) (key : String) : QVariantMap V :=
  (map key).elim (fun _ ↦ none) QVariantApi.toMap

end QVariantMap

/-! ## A variant type -/

/-- Variants of the types the program stores in maps. -/
inductive Variant where
  | int (value : Int32)
  | uint (value : UInt32)
  | ulonglong (value : UInt64)
  | bool (value : Bool)
  | double (value : Double)
  | string (value : String)
  | byteArray (value : Bytes)
  | list (values : List Variant)
  | map (entries : List (String × Variant))

/-- The conversions of a variant to its own type. Others give the zero of the type asked for. -/
instance : QVariantApi Variant where
  toInt | .int value => value | _ => 0
  toUInt | .uint value => value | .ulonglong value => value.toUInt32 | _ => 0
  toULongLong | .ulonglong value => value | _ => 0
  toBool | .bool value => value | _ => false
  toDouble | .double value => value | _ => .finite 0
  toString | .string value => value | _ => ""
  toByteArray | .byteArray value => value | _ => []
  toList | .list values => values | _ => []
  toMap | .map entries => (entries.lookup ·) | _ => fun _ ↦ none

instance : QVariantOf Variant where
  ofInt := .int
  ofULongLong := .ulonglong
  ofDouble := .double
  ofByteArray := .byteArray
  ofList := .list

instance : LawfulQVariant Variant where
  to_int _ := rfl
  to_uint value := UInt32.toUInt32_toUInt64 value
  to_ulonglong _ := rfl
  to_double _ := rfl
  to_byte_array _ := rfl
  to_list _ := rfl

/-- The map with these entries. -/
def variantMap (entries : List (String × Variant)) : QVariantMap Variant := (entries.lookup ·)

end PrintFlow
