import PrintFlow.Core.Qt
import PrintFlow.Library.Plane

/-!
# Screening one pixel

The arithmetic that the full-frame engine and the bounded pipeline both carry out on a pixel: the
hash, the gate and floor that give the effective tone, the dot level with its swap, and the
promotion of a dot among its neighbours. Dimensions, coordinates and intermediate `int` values are
natural numbers: `CoordinatesFit` is the bound under which none of the source's `int` values
overflows.
-/

namespace PrintFlow

open FloatFormat

/-- `MultiInkDotStrategy`. -/
structure MultiInkDotStrategy where
  minInkThreshold : Int := 8
  smallDotThreshold : Int := 104
  medDotThreshold : Int := 168
  enablePromotion : Bool := false
  floorRangeCMY : UInt8 := 24
  floorMaxCMY : UInt8 := 2
  floorRangeK : UInt8 := 12
  floorMaxK : UInt8 := 0
  enableDotSwap : Bool := false

/-- A blue-noise mask of positive dimensions, row by row. -/
structure Mask where
  width : Nat
  height : Nat
  data : Bytes
  width_pos : 0 < width
  height_pos : 0 < height
  data_length : data.length = width * height

/-- A row of the mask. -/
def Mask.row (mask : Mask) (y : Nat) : Bytes := Plane.row mask.data mask.width y

namespace Screening

/-- `pxhash`. -/
def pxhash (x y ch seed : UInt32) : UInt32 :=
  let h := x * 0x85EBCA6B ^^^ y * 0xC2B2AE35 ^^^ (ch + 1) * 0x27D4EB2D ^^^ seed
  let h := (h ^^^ (h >>> 16)) * 0x7FEB352D
  let h := (h ^^^ (h >>> 15)) * 0x846CA68B
  h ^^^ (h >>> 16)

/-- The column of the mask a channel starts at. -/
def maskOffsetX (mask : Mask) (ch : Nat) (seed : UInt32) : Nat :=
  (pxhash 0xB 0xC (.ofNat ch) seed &&& 0x7FFFFFFF).toNat % mask.width

/-- The row of the mask a channel starts at. -/
def maskOffsetY (mask : Mask) (ch : Nat) (seed : UInt32) : Nat :=
  ((pxhash 0xB 0xC (.ofNat ch) seed >>> 16) &&& 0x7FFFFFFF).toNat % mask.height

/-- The sizes of an image and a mask at which the `int` values of both implementations do not
overflow: a coordinate with the offset of its mask, the row behind a strip of at most 128 rows, and
in the full frame the index of a pixel. -/
structure CoordinatesFit (width height : Nat) (mask : Mask) : Prop where
  columns : width + mask.width ≤ 2 ^ 31
  rows : height + mask.height ≤ 2 ^ 31
  strips : height + 128 ≤ 2 ^ 31
  pixels : width * height < 2 ^ 31

theorem CoordinatesFit.no_overflow {width height : Nat} {mask : Mask}
    (h : CoordinatesFit width height mask) {x y : Nat} (hx : x < width) (hy : y < height) (ch : Nat)
    (seed : UInt32) :
    x + maskOffsetX mask ch seed < 2 ^ 31 ∧ y + maskOffsetY mask ch seed < 2 ^ 31 ∧
      y * width + x < 2 ^ 31 ∧ ∀ stripRows ≤ 128, y + stripRows < 2 ^ 31 := by
  have hcolumn : maskOffsetX mask ch seed < mask.width := Nat.mod_lt _ mask.width_pos
  have hrow : maskOffsetY mask ch seed < mask.height := Nat.mod_lt _ mask.height_pos
  have hpixel : y * width + x < height * width := Nat.lt_of_lt_of_le
    (Nat.add_lt_add_left hx (y * width)) (Nat.succ_mul y width ▸ Nat.mul_le_mul_right width hy)
  obtain ⟨hcolumns, hrows, hstrips, hpixels⟩ := h
  rw [Nat.mul_comm] at hpixels
  refine ⟨by omega, by omega, hpixel.trans hpixels, fun stripRows hstrip ↦ by omega⟩

/-- A coordinate that is wrapped only when it leaves the mask. -/
def wrap (coordinate size : Nat) : Nat := if size ≤ coordinate then coordinate % size else coordinate

theorem wrap_eq (coordinate size : Nat) : wrap coordinate size = coordinate % size := by
  unfold wrap
  split
  · rfl
  · next h => exact (Nat.mod_eq_of_lt (by omega)).symm

/-- `lerp_u8` and `lerpU8`. -/
def lerpU8 (a b weight : UInt8) : UInt8 :=
  .ofNat (((255 - weight.toNat) * a.toNat + weight.toNat * b.toNat) / 255)

/-- The tone above the gate, scaled to the full range and lifted by the floor. -/
def effectiveTone (minTone : Nat) (floorRange floorMax tone : UInt8) : Nat :=
  let effective := (tone.toNat - minTone) * 255 / (255 - minTone)
  if 0 < floorRange ∧ 0 < floorMax ∧ effective < floorRange.toNat then
    min 255 (effective + floorMax.toNat * (floorRange.toNat - effective) / floorRange.toNat)
  else effective

/-- The level of a dot, from the cut points bent by the tone. -/
def dotLevel (smallBase medBase tone threshold : UInt8) : UInt8 :=
  let relative := UInt8.ofNat (threshold.toNat * tone.toNat / 255)
  if relative ≤ lerpU8 64 smallBase tone then 1
  else if relative ≤ lerpU8 130 medBase tone then 2
  else 3

/-- The dot swap: always below a tone of 96, with falling probability up to 160. -/
def swapDot (x y : Nat) (tone dot : UInt8) : UInt8 :=
  if tone < 96 then 4 - dot
  else if tone < 160 then
    if pxhash (.ofNat x) (.ofNat y) 0 0x51F2F90D &&& 255 <
        .ofNat ((160 - tone.toNat) * 255 / (160 - 96)) then 4 - dot
    else dot
  else dot

/-- A cut point of a strategy, as a byte. -/
def cutBase (threshold : Int) : UInt8 := .ofNat (clamp threshold 0 255).toNat

/-! ## Promotion -/

/-- The promotion parameters, clamped to a byte. -/
structure Promotion where
  toneGate : Nat
  medLo : Nat
  medHi : Nat
  largeLo : Nat
  largeHi : Nat
  flatEpsilon : Nat
  minimumInked : Nat
  kickBonus : Nat

/-- The parameters read from the mode parameters. -/
def promotion {V : Type} [QVariantApi V] (parameters : QVariantMap V) : Promotion :=
  let byte (key : String) (fallback : Int32) := (clamp (parameters.int key fallback).toInt 0 255).toNat
  { toneGate := byte "promoToneGate" 112
    medLo := byte "promoMedLo" 18
    medHi := byte "promoMedHi" 26
    largeLo := byte "promoLrgLo" 28
    largeHi := byte "promoLrgHi" 36
    flatEpsilon := byte "promoFlatVarEps" 18
    minimumInked := byte "promoMinNeiInked" 8
    kickBonus := byte "promoKickBonus" 2 }

/-- `lerp01` and `interpolate`. -/
def interpolate (value low high : Nat) : ℚ :=
  if value ≤ low then 0
  else if high ≤ value then 1
  else binary32.round (((value - low : Nat) : ℚ) / ((high - low : Int) : ℚ))

/-- The dot after the draw: the heavier its neighbourhood and its tone, the likelier the next
size. -/
def drawDot (parameters : Promotion) (x y weighted : Nat) (tone dot : UInt8) : UInt8 :=
  let toneFactor := binary32.round ((tone.toNat : ℚ) / 255)
  let random := pxhash (.ofNat x) (.ofNat y) 0 0x51F2F90D &&& 0xFFFF
  let random01 := binary32.round ((random.toNat : ℚ) / 65535)
  if dot = 1 then
    if random01 < binary32.round
        (interpolate weighted parameters.medLo parameters.medHi * toneFactor) then 2
    else dot
  else if dot = 2 then
    if random01 < binary32.round
        (interpolate weighted parameters.largeLo parameters.largeHi * toneFactor) then 3
    else dot
  else dot

/-- The neighbours a dot is weighed against, by row and column counted from the one above and to
the left: a four by four block without the dot itself. -/
def neighbours : List (Nat × Nat) :=
  ((List.range 4).flatMap fun row ↦ (List.range 4).map fun column ↦ (row, column)).filter
    (· ≠ (1, 1))

/-- `std::abs` of the difference of two bytes. -/
def deviation (a b : UInt8) : Nat := ((a.toNat : Int) - b.toNat).natAbs

end Screening

end PrintFlow
