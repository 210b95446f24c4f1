import PrintFlow.Core.Qt
import PrintFlow.Library.FloatFormat

/-!
# The physical size of an image

`src/src/rip/ImagePhysicalSize.h`: the density of an image in dots per inch, which the file gives or
a fallback replaces, and the pixels that the image has at another resolution.
-/

namespace PrintFlow.ImagePhysicalSize

open FloatFormat

/-- `Magick::ResolutionType`. -/
inductive ResolutionType where
  | undefined
  | pixelsPerInch
  | pixelsPerCentimeter
  deriving DecidableEq

/-- What an image says about its size. -/
structure Source where
  columns : Nat
  rows : Nat
  xResolution : Double
  yResolution : Double
  resolutionUnits : ResolutionType

/-- `Density`. -/
structure Density where
  xDpi : Double := .finite 0
  yDpi : Double := .finite 0
  hasPhysicalUnits : Bool := false

/-- `isUsableDpi`. -/
def isUsableDpi : Double → Bool
  | .finite value => 10 ≤ value && value ≤ 9600
  | _ => false

/-- `value *= 2.54`. -/
def perInch : Double → Double
  | .finite value => .finite (binary64.round (value * binary64.round (254 / 100)))
  | value => value

/-- `embeddedDensity`, from the resolutions in dots per inch on. -/
def densityOf (xDpi yDpi : Double) : Density :=
  let validX := isUsableDpi xDpi
  let validY := isUsableDpi yDpi
  if !validX && !validY then {}
  else
    { xDpi := if validX then xDpi else yDpi
      yDpi := if validY then yDpi else xDpi
      hasPhysicalUnits := true }

/-- `embeddedDensity`. -/
def embeddedDensity (image : Source) : Density :=
  match image.resolutionUnits with
  | .pixelsPerCentimeter => densityOf (perInch image.xResolution) (perInch image.yResolution)
  | .pixelsPerInch => densityOf image.xResolution image.yResolution
  | .undefined => {}

/-- `resolvedDensity`. -/
def resolvedDensity (image : Source) (fallbackXDpi fallbackYDpi : Double) : Density :=
  let embedded := embeddedDensity image
  if embedded.hasPhysicalUnits then embedded
  else
    let safeX := if isUsableDpi fallbackXDpi then fallbackXDpi else .finite 720
    let safeY := if isUsableDpi fallbackYDpi then fallbackYDpi else safeX
    ⟨safeX, safeY, false⟩

/-- The width and the height of a raster in pixels. -/
structure PixelSize where
  width : Nat
  height : Nat
  deriving DecidableEq, Repr

/-- The `scaledDimension` of `outputPixelSize`. -/
def scaledDimension (pixels : Nat) (scale : ℚ) : Nat :=
  let scaled := roundHalfAway (binary64.round (binary64.round pixels * scale))
  (clamp scaled 1 (2 ^ 31 - 1)).toNat

/-- `outputDpi / inputDpi`, for a finite density. -/
def scaleOf (outputDpi : Int) : Double → ℚ
  | .finite inputDpi => binary64.round (outputDpi / inputDpi)
  | _ => 0

/-- `outputPixelSize`; an invalid size is `none`. -/
def outputPixelSize (inputWidth inputHeight : Nat) (inputDensity : Density)
    (outputXDpi outputYDpi : Int) : Option PixelSize :=
  if inputWidth = 0 ∨ inputHeight = 0 ∨ isUsableDpi inputDensity.xDpi = false ∨
      isUsableDpi inputDensity.yDpi = false ∨ outputXDpi ≤ 0 ∨ outputYDpi ≤ 0 then none
  else some
    { width := scaledDimension inputWidth (scaleOf outputXDpi inputDensity.xDpi)
      height := scaledDimension inputHeight (scaleOf outputYDpi inputDensity.yDpi) }

example : outputPixelSize 720 1440 ⟨.finite 720, .finite 720, true⟩ 360 720 = some ⟨360, 1440⟩ := by
  decide +kernel

/-! ## Densities -/

/-- A density that is known to be physical is usable in both directions. -/
theorem density_of_usable {xDpi yDpi : Double} (h : (densityOf xDpi yDpi).hasPhysicalUnits = true) :
    isUsableDpi (densityOf xDpi yDpi).xDpi = true ∧
    isUsableDpi (densityOf xDpi yDpi).yDpi = true := by
  cases hx : isUsableDpi xDpi with
  | false =>
      cases hy : isUsableDpi yDpi with
      | false => simp [densityOf, hx, hy] at h
      | true => simp [densityOf, hx, hy]
  | true =>
      cases hy : isUsableDpi yDpi with
      | false => simp [densityOf, hx, hy]
      | true => simp [densityOf, hx, hy]

/-- The density that an image resolves to is usable, whatever the image and the fallbacks are. -/
theorem resolved_density_usable (image : Source) (fallbackXDpi fallbackYDpi : Double) :
    isUsableDpi (resolvedDensity image fallbackXDpi fallbackYDpi).xDpi = true ∧
      isUsableDpi (resolvedDensity image fallbackXDpi fallbackYDpi).yDpi = true := by
  rw [resolvedDensity]
  by_cases hembedded : (embeddedDensity image).hasPhysicalUnits = true
  · rw [if_pos hembedded]
    rw [embeddedDensity] at hembedded ⊢
    cases hunits : image.resolutionUnits with
    | undefined => simp [hunits] at hembedded
    | pixelsPerInch =>
        rw [hunits] at hembedded
        exact density_of_usable hembedded
    | pixelsPerCentimeter =>
        rw [hunits] at hembedded
        exact density_of_usable hembedded
  · rw [if_neg hembedded]
    have hdefault : isUsableDpi (.finite 720) = true := by decide +kernel
    cases hx : isUsableDpi fallbackXDpi with
    | false =>
        cases hy : isUsableDpi fallbackYDpi with
        | false => simp [hdefault]
        | true => simp [hdefault, hy]
    | true =>
        cases hy : isUsableDpi fallbackYDpi with
        | false => simp [hx]
        | true => simp [hx, hy]

/-! ## Sizes -/

/-- A scaled dimension is a positive `int`. -/
theorem scaled_dimension_mem (pixels : Nat) (scale : ℚ) :
    1 ≤ scaledDimension pixels scale ∧ scaledDimension pixels scale ≤ 2 ^ 31 - 1 := by
  have hmem := @clamp_mem (roundHalfAway (binary64.round (binary64.round pixels * scale)))
    1 (2 ^ 31 - 1) (by decide)
  rw [scaledDimension]
  omega

/-- For an image with pixels and a usable density a size is found exactly when the resolution is
positive. -/
theorem output_pixel_size_eq {inputWidth inputHeight : Nat} {inputDensity : Density}
    (hwidth : 0 < inputWidth) (hheight : 0 < inputHeight)
    (hx : isUsableDpi inputDensity.xDpi = true) (hy : isUsableDpi inputDensity.yDpi = true)
    (outputXDpi outputYDpi : Int) :
    outputPixelSize inputWidth inputHeight inputDensity outputXDpi outputYDpi =
      if 0 < outputXDpi ∧ 0 < outputYDpi then some
        { width := scaledDimension inputWidth (scaleOf outputXDpi inputDensity.xDpi)
          height := scaledDimension inputHeight (scaleOf outputYDpi inputDensity.yDpi) }
      else none := by
  rw [outputPixelSize]
  by_cases hpositive : 0 < outputXDpi ∧ 0 < outputYDpi
  · rw [if_pos hpositive, if_neg]
    rw [hx, hy]
    simp only [Bool.true_eq_false, false_or, not_or]
    omega
  · rw [if_neg hpositive, if_pos]
    rw [hx, hy]
    simp only [Bool.true_eq_false, false_or]
    omega

end PrintFlow.ImagePhysicalSize
