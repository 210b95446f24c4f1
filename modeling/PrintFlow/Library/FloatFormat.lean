import Mathlib.Data.Int.Log
import Mathlib.Data.Rat.Floor

/-!
# Rounding to binary floating-point formats

A binary format keeps a fixed number of significant bits. `Format.round` rounds a rational to the
nearest value of the format, ties to even; composing it with exact rational operations gives the
floating-point operations below the overflow threshold. `roundHalfAway` is the rounding of
`std::lround` and `std::round`.
-/

namespace FloatFormat

/-- A binary format: its significant bits and the exponent of its smallest positive value. -/
structure Format where
  precision : Nat
  minExponent : Int
  deriving DecidableEq, Repr

/-- The IEEE 754 single format. -/
def binary32 : Format := ⟨24, -149⟩

/-- The IEEE 754 double format. -/
def binary64 : Format := ⟨53, -1074⟩

/-- The nearest integer, ties to even. -/
def roundHalfEven (q : ℚ) : ℤ :=
  let below := ⌊q⌋
  let rest := q - below
  if rest < 1 / 2 then below
  else if 1 / 2 < rest then below + 1
  else if below % 2 = 0 then below else below + 1

/-- The nearest integer, ties away from zero. -/
def roundHalfAway (q : ℚ) : ℤ :=
  if 0 ≤ q then ⌊q + 1 / 2⌋ else -⌊-q + 1 / 2⌋

/-- The exponent of the last significant bit of a nonzero rational. -/
def Format.exponent (format : Format) (q : ℚ) : ℤ :=
  max (Int.log 2 |q| - (format.precision - 1)) format.minExponent

/-- The nearest value of the format, ties to even. -/
def Format.round (format : Format) (q : ℚ) : ℚ :=
  if q = 0 then 0
  else
    let unit : ℚ := (2 : ℚ) ^ format.exponent q
    roundHalfEven (q / unit) * unit

/-- The bits of a value of the IEEE 754 single format. -/
def singleBits (value : ℚ) : UInt32 :=
  let exponent := max (Int.log 2 |value|) (-126)
  let significand := (⌊|value| / (2 : ℚ) ^ (exponent - 23)⌋).toNat
  let biased := if significand < 2 ^ 23 then 0 else (exponent + 127).toNat
  let sign : UInt32 := if value < 0 then 0x80000000 else 0
  sign ||| UInt32.ofNat (biased * 2 ^ 23 + significand % 2 ^ 23)

example : singleBits 720 = 0x44340000 := by decide +kernel

/-- A double: a rational, an infinity or not a number. -/
inductive Double where
  | finite (value : ℚ)
  | infinite (negative : Bool)
  | nan
  deriving DecidableEq, Repr

/-- The comparison `<` of doubles: nothing is below or above a NaN. -/
def Double.lt : Double → Double → Bool
  | .nan, _ => false
  | _, .nan => false
  | .finite value, .finite other => value < other
  | .finite _, .infinite negative => !negative
  | .infinite negative, .finite _ => negative
  | .infinite negative, .infinite other => negative && !other

/-- `std::clamp` on doubles. -/
def Double.clamp (value low high : Double) : Double :=
  if value.lt low then low else if high.lt value then high else value

/-- A clamped value is a NaN or lies between the bounds. -/
theorem Double.clamp_cases (value : Double) {low high : ℚ} (h : low ≤ high) :
    value.clamp (.finite low) (.finite high) = .nan ∨
      ∃ kept, value.clamp (.finite low) (.finite high) = .finite kept ∧ low ≤ kept ∧
        kept ≤ high := by
  cases value with
  | finite value =>
      by_cases hlow : value < low
      · exact .inr ⟨low, by simp [Double.clamp, Double.lt, hlow], le_refl low, h⟩
      · by_cases hhigh : high < value
        · exact .inr ⟨high, by simp [Double.clamp, Double.lt, hlow, hhigh], h, le_refl high⟩
        · exact .inr ⟨value, by simp [Double.clamp, Double.lt, hlow, hhigh], not_lt.mp hlow,
            not_lt.mp hhigh⟩
  | infinite negative =>
      cases negative with
      | false => exact .inr ⟨high, rfl, h, le_refl high⟩
      | true => exact .inr ⟨low, rfl, le_refl low, h⟩
  | nan => exact .inl rfl

/-- A value between the bounds is kept. -/
theorem Double.clamp_of_mem {value low high : ℚ} (hlow : low ≤ value) (hhigh : value ≤ high) :
    (Double.finite value).clamp (.finite low) (.finite high) = .finite value := by
  simp [Double.clamp, Double.lt, not_lt.mpr hlow, not_lt.mpr hhigh]

end FloatFormat
