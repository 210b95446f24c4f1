import PrintFlow.Library.Plane
import PrintFlow.Rip.MultiInkLinearization

/-!
# The white plane of X-33 jobs

`X33WhiteToneBuilder.build` makes the one white plane of an X-33 job from its four colour planes or
from a plate. Like the curves of the job it works pixel by pixel: from the planes of a strip it
makes a strip of the white plane.
-/

namespace PrintFlow

/-- The four planes `std::array<std::vector<uint8_t>, 4>`: cyan, magenta, yellow and black. -/
structure CmykTones where
  c : Bytes
  m : Bytes
  y : Bytes
  k : Bytes

namespace CmykTones

/-- The planes in their order. -/
def planes (tones : CmykTones) : List Bytes := [tones.c, tones.m, tones.y, tones.k]

/-- Planes of one size. -/
def Sized (tones : CmykTones) (pixels : Nat) : Prop := ∀ tone ∈ tones.planes, tone.length = pixels

instance (tones : CmykTones) (pixels : Nat) : Decidable (tones.Sized pixels) :=
  inferInstanceAs (Decidable (∀ tone ∈ tones.planes, tone.length = pixels))

/-- Some rows of the planes. -/
def strip (tones : CmykTones) (width firstRow rowCount : Nat) : CmykTones where
  c := Plane.strip tones.c width firstRow rowCount
  m := Plane.strip tones.m width firstRow rowCount
  y := Plane.strip tones.y width firstRow rowCount
  k := Plane.strip tones.k width firstRow rowCount

theorem strip_planes (tones : CmykTones) (width firstRow rowCount : Nat) :
    (tones.strip width firstRow rowCount).planes =
      tones.planes.map (Plane.strip · width firstRow rowCount) := rfl

theorem Sized.strip {tones : CmykTones} {width height firstRow rowCount : Nat}
    (h : tones.Sized (width * height)) (hrows : firstRow + rowCount ≤ height) :
    (tones.strip width firstRow rowCount).Sized (width * rowCount) := by
  intro tone htone
  rw [strip_planes] at htone
  obtain ⟨whole, hwhole, rfl⟩ := List.mem_map.mp htone
  exact Plane.strip_length (h whole hwhole) hrows

end CmykTones

namespace MultiInkLinearization

variable (linearization : MultiInkLinearization)

/-- `applyFourColorTones`. -/
def applyFourColorTones (tones : CmykTones) : Option CmykTones :=
  if ¬ linearization.hasExternalCurves ∨ ¬ tones.Sized tones.c.length then none
  else some
    { c := tones.c.map linearization.lutC_Lc.dark
      m := tones.m.map linearization.lutM_Lm.dark
      y := tones.y.map linearization.lutY.single
      k := tones.k.map linearization.lutK_Lk_LLk.dark }

/-- `applyWhiteTone`. -/
def applyWhiteTone (tone : Bytes) : Option Bytes :=
  if linearization.hasExternalCurves then some (tone.map linearization.lutW) else none

/-- The curves of a strip are a strip of the curves. -/
theorem apply_four_color_tones_strip {tones : CmykTones} {width height firstRow rowCount : Nat}
    (hsized : tones.Sized (width * height)) (hrows : firstRow + rowCount ≤ height) :
    linearization.applyFourColorTones (tones.strip width firstRow rowCount) =
      (linearization.applyFourColorTones tones).map (·.strip width firstRow rowCount) := by
  have hcount : tones.c.length = width * height := hsized _ List.mem_cons_self
  have hstrip := hsized.strip hrows
  have hstrip_count : (tones.strip width firstRow rowCount).c.length = width * rowCount :=
    hstrip _ List.mem_cons_self
  rw [applyFourColorTones, applyFourColorTones, hcount, hstrip_count]
  by_cases hcurves : linearization.hasExternalCurves = true
  · rw [if_neg (not_or.mpr ⟨not_not.mpr hcurves, not_not.mpr hstrip⟩),
      if_neg (not_or.mpr ⟨not_not.mpr hcurves, not_not.mpr hsized⟩)]
    simp only [Option.map_some, CmykTones.strip, Plane.strip_map]
  · rw [if_pos (.inl hcurves), if_pos (.inl hcurves)]
    rfl

/-- Curves keep the size of the planes. -/
theorem apply_four_color_tones_sized {tones curved : CmykTones} {pixels : Nat}
    (hsized : tones.Sized pixels) (h : linearization.applyFourColorTones tones = some curved) :
    curved.Sized pixels := by
  unfold applyFourColorTones at h
  split_ifs at h
  obtain rfl := Option.some.inj h
  simpa [CmykTones.Sized, CmykTones.planes] using hsized

/-- The curve of a strip of white is a strip of the curve. -/
theorem apply_white_tone_strip (tone : Bytes) (width firstRow rowCount : Nat) :
    linearization.applyWhiteTone (Plane.strip tone width firstRow rowCount) =
      (linearization.applyWhiteTone tone).map (Plane.strip · width firstRow rowCount) := by
  unfold applyWhiteTone
  by_cases hcurves : linearization.hasExternalCurves = true
  · rw [if_pos hcurves, if_pos hcurves, Option.map_some, Plane.strip_map]
  · rw [if_neg hcurves, if_neg hcurves]
    rfl

end MultiInkLinearization

namespace X33WhiteToneBuilder

/-- `Mode`. -/
inductive Mode where
  | Off
  | AutoUnderbase
  | Flood
  | Plate
  deriving DecidableEq, Repr

/-- `BuildRequest`. A negative dimension is refused as zero is. -/
structure BuildRequest where
  cmykTones : Option CmykTones := none
  width : Nat := 0
  height : Nat := 0
  mode : Mode := .Off
  threshold : Int := 8
  density : Int := 255
  platePath : String := ""

/-- `ExternalPlateLoader`: the plate at a path, scaled to a width and a height. -/
abbrev ExternalPlateLoader : Type := String → Nat → Nat → Option Bytes

/-- `applyThresholdAndDensity`. -/
def applyThresholdAndDensity (source : UInt8) (threshold density : Int) : UInt8 :=
  let clampedThreshold := clamp threshold 0 255
  let clampedDensity := clamp density 0 255
  if clampedDensity = 0 ∨ source.toNat ≤ clampedThreshold ∨ 255 ≤ clampedThreshold then 0
  else
    let normalized := (source.toNat - clampedThreshold) * 255 / (255 - clampedThreshold)
    .ofNat (normalized * clampedDensity / 255).toNat

/-- The automatic underbase before threshold and density: at each pixel the largest of the tones. -/
def coverage (tones : CmykTones) (pixels : Nat) : Bytes :=
  (List.range pixels).map fun index ↦
    max (max tones.c[index]! tones.m[index]!) (max tones.y[index]! tones.k[index]!)

/-- `build`. -/
def build (request : BuildRequest) (plateLoader : ExternalPlateLoader) : Option Bytes :=
  if request.width = 0 ∨ request.height = 0 then none
  else
    let pixelCount := request.width * request.height
    if request.mode = .Off then some (List.replicate pixelCount 0)
    else
      match request.cmykTones with
      | none => none
      | some tones =>
        if ¬ tones.Sized pixelCount then none
        else
          let density := clamp request.density 0 255
          if request.mode = .Flood then some (List.replicate pixelCount (.ofNat density.toNat))
          else
            let candidate :=
              if request.mode = .AutoUnderbase then some (coverage tones pixelCount)
              else
                (plateLoader request.platePath request.width request.height).filter
                  (·.length == pixelCount)
            candidate.map (·.map (applyThresholdAndDensity · request.threshold density))

/-- The builder gives a plane of the size of its request, when it has planes of this size and, in
plate mode, a plate of this size. -/
theorem exists_build {request : BuildRequest} {plateLoader : ExternalPlateLoader}
    {tones : CmykTones} (hwidth : 0 < request.width) (hheight : 0 < request.height)
    (htones : request.cmykTones = some tones)
    (hsized : tones.Sized (request.width * request.height))
    (hplate : request.mode = .Plate →
      ∃ plate, plateLoader request.platePath request.width request.height = some plate ∧
        plate.length = request.width * request.height) :
    ∃ white, build request plateLoader = some white ∧
      white.length = request.width * request.height := by
  unfold build
  dsimp only
  rw [if_neg (by omega : ¬ (request.width = 0 ∨ request.height = 0)), htones]
  dsimp only
  rw [if_neg (not_not.mpr hsized)]
  cases hmode : request.mode with
  | Off => exact ⟨_, rfl, List.length_replicate⟩
  | Flood => exact ⟨_, rfl, List.length_replicate⟩
  | AutoUnderbase =>
      refine ⟨_, rfl, ?_⟩
      rw [List.length_map, coverage, List.length_map, List.length_range]
  | Plate =>
      obtain ⟨plate, hread, hlength⟩ := hplate hmode
      rw [if_neg (by decide), if_neg (by decide), if_neg (by decide), hread, Option.filter_some,
        hlength, beq_self_eq_true, if_pos rfl, Option.map_some]
      exact ⟨_, rfl, by rw [List.length_map, hlength]⟩

/-! ## Strips -/

section Strips

variable {tones : CmykTones} {width height firstRow rowCount : Nat}

/-- The coverage of a strip is a strip of the coverage. -/
theorem coverage_strip (hrows : firstRow + rowCount ≤ height) :
    coverage (tones.strip width firstRow rowCount) (width * rowCount) =
      Plane.strip (coverage tones (width * height)) width firstRow rowCount := by
  rw [coverage, coverage, Plane.strip_map_range _ hrows]
  refine List.map_congr_left fun index hindex ↦ ?_
  rw [List.mem_range] at hindex
  simp only [CmykTones.strip, Plane.get_strip_bang _ hindex]

/-- The white of a strip is a strip of the white. -/
theorem build_strip {request : BuildRequest} {plateLoader stripLoader : ExternalPlateLoader}
    (htones : request.cmykTones = some tones)
    (hsized : tones.Sized (request.width * request.height)) (hcount : 0 < rowCount)
    (hrows : firstRow + rowCount ≤ request.height)
    (hplate : ∀ plate, plateLoader request.platePath request.width request.height = some plate →
      plate.length = request.width * request.height)
    (hloader : request.mode = .Plate → stripLoader request.platePath request.width rowCount =
      (plateLoader request.platePath request.width request.height).map
        (Plane.strip · request.width firstRow rowCount)) :
    build { request with
        cmykTones := some (tones.strip request.width firstRow rowCount), height := rowCount }
        stripLoader =
      (build request plateLoader).map (Plane.strip · request.width firstRow rowCount) := by
  have hstrip := hsized.strip hrows
  unfold build
  dsimp only
  by_cases hempty : request.width = 0
  · rw [if_pos (.inl hempty), if_pos (.inl hempty)]
    rfl
  rw [if_neg (by omega : ¬ (request.width = 0 ∨ rowCount = 0)),
    if_neg (by omega : ¬ (request.width = 0 ∨ request.height = 0)), htones]
  dsimp only
  rw [if_neg (not_not.mpr hstrip), if_neg (not_not.mpr hsized)]
  cases hmode : request.mode with
  | Off =>
      rw [if_pos rfl, if_pos rfl, Option.map_some, Plane.strip_replicate _ hrows]
  | Flood =>
      rw [if_neg (by decide), if_pos rfl, if_neg (by decide), if_pos rfl, Option.map_some,
        Plane.strip_replicate _ hrows]
  | AutoUnderbase =>
      rw [if_neg (by decide), if_neg (by decide), if_pos rfl, if_neg (by decide),
        if_neg (by decide), if_pos rfl, coverage_strip hrows]
      simp only [Option.map_some, Plane.strip_map]
  | Plate =>
      rw [if_neg (by decide), if_neg (by decide), if_neg (by decide), if_neg (by decide),
        if_neg (by decide), if_neg (by decide), hloader hmode]
      cases hread : plateLoader request.platePath request.width request.height with
      | none => rfl
      | some plate =>
          have hlength := hplate plate hread
          have hlength_strip := Plane.strip_length hlength hrows
          simp only [Option.map_some, Option.filter_some, hlength, hlength_strip, beq_self_eq_true,
            if_true, Plane.strip_map]

end Strips

end X33WhiteToneBuilder

end PrintFlow
