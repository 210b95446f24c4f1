import PrintFlow.Rip.MultiInkLinearization

/-!
# The tone builder

`buildToneChannels` turns the separated images of a job into one tone plane for each ink of the
mode: the neutral transfer to black, the curves or the split into dark and light inks, the fade of
light inks in neutrals, and the white and varnish planes. The images are lists of pixels; what is
not exact in single precision goes through `fl`, the rounding of a `float` operation.
-/

namespace PrintFlow.MultiInkToneBuilder

open FloatFormat

/-! ## Parameters -/

/-- `GcrParams`. -/
structure GcrParams where
  neutralGate : UInt8
  gcrMaxTone : UInt8
  gcrStrength : UInt8
  kGain : UInt8
  kMinInNeutral : UInt8
  lcFadePctInNeutral : UInt8
  lmFadePctInNeutral : UInt8
  enabled : Bool := false
  deriving DecidableEq, Repr

/-- `SpecialtyInkConfig`. -/
structure SpecialtyInkConfig where
  mode : Int := 0
  threshold : UInt8 := 8
  density : UInt8 := 255
  useOwnDotStrategy : Bool := false
  smallDotThreshold : Int := 104
  medDotThreshold : Int := 168
  enablePromotion : Bool := false
  maskKey : String
  deriving DecidableEq, Repr

section Parameters

variable {V : Type} [QVariantApi V] (modeParams : QVariantMap V)

/-- `static_cast<uint8_t>(std::clamp(vmInt(modeParams, key, fallback), 0, high))`. -/
def clampedByte (key : String) (fallback : Int32) (high : Int) : UInt8 :=
  .ofNat (clamp (modeParams.int key fallback).toInt 0 high).toNat

/-- `getGcrParams`. -/
def getGcrParams : GcrParams where
  neutralGate := clampedByte modeParams "neutralGate" 14 255
  gcrMaxTone := clampedByte modeParams "gcrMaxTone" 180 255
  gcrStrength := clampedByte modeParams "gcrStrength" 160 255
  kGain := clampedByte modeParams "kGain" 220 255
  kMinInNeutral := clampedByte modeParams "kMinInNeutral" 6 255
  lcFadePctInNeutral := clampedByte modeParams "lcFadePctInNeutral" 70 100
  lmFadePctInNeutral := clampedByte modeParams "lmFadePctInNeutral" 50 100
  enabled := modeParams.bool "gcrEnabled" false

/-- The configuration of a specialty ink under its key prefix. -/
def specialtyConfig (ink defaultKey : String) : SpecialtyInkConfig :=
  let maskKey := trimmed (modeParams.string (ink ++ "MaskKey") defaultKey)
  { mode := clamp (modeParams.int (ink ++ "Mode") 0).toInt 0 3
    threshold := clampedByte modeParams (ink ++ "Threshold") 8 255
    density := clampedByte modeParams (ink ++ "Density") 255 255
    useOwnDotStrategy := modeParams.bool (ink ++ "UseOwnDotStrategy") false
    smallDotThreshold := clamp (modeParams.int (ink ++ "SmallDotThreshold") 104).toInt 0 255
    medDotThreshold := clamp (modeParams.int (ink ++ "MedDotThreshold") 168).toInt 0 255
    enablePromotion := modeParams.bool (ink ++ "EnablePromotion") false
    maskKey := if maskKey = "" then defaultKey else maskKey }

/-- `getWhiteConfig`. -/
def getWhiteConfig : SpecialtyInkConfig := specialtyConfig modeParams "white" "w"

/-- `getVarnishConfig`. -/
def getVarnishConfig : SpecialtyInkConfig := specialtyConfig modeParams "varnish" "v"

end Parameters

/-- `applySpecialtyThresholdDensity`. -/
def applySpecialtyThresholdDensity (src threshold density : UInt8) : UInt8 :=
  if density = 0 then 0
  else if src ≤ threshold then 0
  else if threshold = 255 then 0
  else
    let norm := UInt16.ofNat ((src.toNat - threshold.toNat) * 255 / (255 - threshold.toNat))
    let out := UInt16.ofNat (norm.toNat * density.toNat / 255)
    .ofNat (clamp out.toNat 0 255).toNat

/-! ## Splitting inks -/

/-- `Split2Params`. -/
structure Split2Params where
  lightStart : UInt8 := 48
  lightEnd : UInt8 := 160
  deriving DecidableEq, Repr

/-- `Split3Params`. -/
structure Split3Params where
  t1Start : UInt8 := 32
  t1End : UInt8 := 128
  t2Start : UInt8 := 128
  t2End : UInt8 := 224
  deriving DecidableEq, Repr

/-- `clamp01`. -/
def clamp01 (v : ℚ) : ℚ := if v < 0 then 0 else if 1 < v then 1 else v

section Split

variable (fl : ℚ → ℚ)

/-- `smoothstep`. -/
def smoothstep (edge0 edge1 x : ℚ) : ℚ :=
  if edge0 = edge1 then if edge1 ≤ x then 1 else 0
  else
    let t := clamp01 (fl (fl (x - edge0) / fl (edge1 - edge0)))
    fl (fl (t * t) * fl (3 - fl (2 * t)))

/-- `static_cast<uint8_t>(std::clamp(value, 0, 255))`. -/
def toByte (value : ℤ) : UInt8 := .ofNat (clamp value 0 255).toNat

/-- `split2Crossfade`: the dark and the light tone. -/
def split2Crossfade (v : UInt8) (p : Split2Params) : UInt8 × UInt8 :=
  if v = 0 then (0, 0)
  else
    let wDark := smoothstep fl p.lightStart.toNat p.lightEnd.toNat v.toNat
    let dark := roundHalfAway (fl (v.toNat * wDark))
    let light := v.toNat - dark
    (toByte dark, toByte light)

/-- `split3Crossfade`: the lightest, the light and the dark tone. -/
def split3Crossfade (v : UInt8) (p : Split3Params) : UInt8 × UInt8 × UInt8 :=
  if v = 0 then (0, 0, 0)
  else
    let s1 := smoothstep fl p.t1Start.toNat p.t1End.toNat v.toNat
    let s2 := smoothstep fl p.t2Start.toNat p.t2End.toNat v.toNat
    let wLLk := fl (1 - s1)
    let wK := s2
    let llk := roundHalfAway (fl (v.toNat * wLLk))
    let k := roundHalfAway (fl (v.toNat * wK))
    -- The weight the source computes for the light tone is not used: light takes what is left.
    let lk := v.toNat - llk - k
    (toByte llk, toByte lk, toByte k)

end Split

/-! ## Neutrals -/

/-- The bytes of the four separated images at one pixel. -/
structure Cmyk where
  c : UInt8
  m : UInt8
  y : UInt8
  k : UInt8
  deriving DecidableEq, Repr, Inhabited

/-- `maxCMY`. -/
def maxCMY (c m y : UInt8) : UInt8 := max (max c m) y

/-- `minCMY`. -/
def minCMY (c m y : UInt8) : UInt8 := min (min c m) y

/-- The pixels that the neutral loops do not skip. -/
def inNeutral (p : GcrParams) (c m y : UInt8) : Bool :=
  maxCMY c m y - minCMY c m y ≤ p.neutralGate && maxCMY c m y ≤ p.gcrMaxTone

/-- One pixel of `applyGcrNeutralTransfer`. -/
def transferNeutral (p : GcrParams) (pixel : Cmyk) : Cmyk :=
  if inNeutral p pixel.c pixel.m pixel.y then
    let neutral := minCMY pixel.c pixel.m pixel.y
    let pull := UInt16.ofNat (neutral.toNat * p.gcrStrength.toNat / 255)
    let pull8 := (min pull neutral.toUInt16).toUInt8
    let kAdd := UInt16.ofNat (pull8.toNat * p.kGain.toNat / 255)
    let kNew := min 255 (UInt16.ofNat (pixel.k.toNat + kAdd.toNat))
    let kNew := if kNew < p.kMinInNeutral.toUInt16 ∧ 0 < neutral then p.kMinInNeutral.toUInt16
      else kNew
    { c := pixel.c - pull8, m := pixel.m - pull8, y := pixel.y - pull8, k := kNew.toUInt8 }
  else pixel

/-- `applyGcrNeutralTransfer`. -/
def applyGcrNeutralTransfer (pixels : List Cmyk) (p : GcrParams) : List Cmyk :=
  if p.enabled then pixels.map (transferNeutral p) else pixels

/-- `fadePct`. -/
def fadePct (v pct : UInt8) : UInt8 :=
  let vv := UInt16.ofNat (v.toNat * (100 - pct.toNat))
  (min 255 (vv / 100)).toUInt8

/-! ## Pixels of a mode -/

/-- The buffers of the builder at one pixel: the colours as they stand, and the dark and light inks
they were separated into. -/
structure InkPixel where
  adj : Cmyk
  cDark : UInt8 := 0
  cLight : UInt8 := 0
  mDark : UInt8 := 0
  mLight : UInt8 := 0
  kDark : UInt8 := 0
  lk : UInt8 := 0
  llk : UInt8 := 0
  deriving DecidableEq, Repr, Inhabited

/-- One pixel of `applyNeutralLightInkFade`. -/
def fadeNeutral (p : GcrParams) (pixel : InkPixel) : InkPixel :=
  if inNeutral p pixel.adj.c pixel.adj.m pixel.adj.y then
    { pixel with
      cLight := fadePct pixel.cLight p.lcFadePctInNeutral
      mLight := fadePct pixel.mLight p.lmFadePctInNeutral }
  else pixel

/-- `applyNeutralLightInkFade`. -/
def applyNeutralLightInkFade (pixels : List InkPixel) (p : GcrParams) : List InkPixel :=
  if p.enabled then pixels.map (fadeNeutral p) else pixels

/-- `InkMode`. -/
inductive InkMode where
  | FourColor_YMCK
  | FiveColor_YMCK_W
  | SixColor_YMCK_Lm_Lc
  | SevenColor_YMCK_Lm_Lc_W
  | EightColor_YMCK_Lm_Lc_Lk_LLk
  | TenColor_YMCK_Lm_Lc_Lk_LLk_W_V
  deriving DecidableEq, Repr

/-- The value of an enumerator: how many inks the mode has. -/
def InkMode.value : InkMode → Nat
  | .FourColor_YMCK => 4
  | .FiveColor_YMCK_W => 5
  | .SixColor_YMCK_Lm_Lc => 6
  | .SevenColor_YMCK_Lm_Lc_W => 7
  | .EightColor_YMCK_Lm_Lc_Lk_LLk => 8
  | .TenColor_YMCK_Lm_Lc_Lk_LLk_W_V => 10

section Separation

variable (linearization : MultiInkLinearization)

/-- The curve loop of the modes without light inks: all four colours are curved in place. -/
def curveColours (adj : Cmyk) : InkPixel where
  adj :=
    { c := linearization.lutC_Lc.dark adj.c
      m := linearization.lutM_Lm.dark adj.m
      y := linearization.lutY.single adj.y
      k := linearization.lutK_Lk_LLk.dark adj.k }

/-- The curve loop of the modes with light cyan and magenta: yellow and black are curved in place,
cyan and magenta into their dark and light inks. -/
def curveSix (adj : Cmyk) : InkPixel where
  adj :=
    { adj with
      y := linearization.lutY.single adj.y
      k := linearization.lutK_Lk_LLk.dark adj.k }
  cDark := linearization.lutC_Lc.dark adj.c
  cLight := linearization.lutC_Lc.light adj.c
  mDark := linearization.lutM_Lm.dark adj.m
  mLight := linearization.lutM_Lm.light adj.m

/-- The curve loop of the modes with light blacks: yellow alone is curved in place. -/
def curveEight (adj : Cmyk) : InkPixel where
  adj := { adj with y := linearization.lutY.single adj.y }
  cDark := linearization.lutC_Lc.dark adj.c
  cLight := linearization.lutC_Lc.light adj.c
  mDark := linearization.lutM_Lm.dark adj.m
  mLight := linearization.lutM_Lm.light adj.m
  kDark := linearization.lutK_Lk_LLk.dark adj.k
  lk := linearization.lutK_Lk_LLk.light adj.k
  llk := linearization.lutK_Lk_LLk.lighter adj.k

variable (fl : ℚ → ℚ) (cSplit mSplit : Split2Params) (kSplit : Split3Params)

/-- The split loop of the modes with light cyan and magenta. -/
def splitSix (adj : Cmyk) : InkPixel where
  adj := adj
  cDark := (split2Crossfade fl adj.c cSplit).1
  cLight := (split2Crossfade fl adj.c cSplit).2
  mDark := (split2Crossfade fl adj.m mSplit).1
  mLight := (split2Crossfade fl adj.m mSplit).2

/-- The split loop of the modes with light blacks. -/
def splitEight (adj : Cmyk) : InkPixel :=
  { splitSix fl cSplit mSplit adj with
    llk := (split3Crossfade fl adj.k kSplit).1
    lk := (split3Crossfade fl adj.k kSplit).2.1
    kDark := (split3Crossfade fl adj.k kSplit).2.2 }

end Separation

/-! ## The builder -/

/-- The four separated images, pixel by pixel. -/
structure CmykImages where
  width : Nat
  height : Nat
  pixels : List Cmyk
  pixels_length : pixels.length = width * height

/-- `BuildRequest`. -/
structure BuildRequest (V : Type) where
  cmykImages : Option CmykImages
  mode : InkMode := .FourColor_YMCK
  modeParams : QVariantMap V
  whitePlatePath : String := ""
  varnishPlatePath : String := ""
  linearization : Option MultiInkLinearization := none
  enableLinearization : Bool := false

/-- `ExternalPlateLoader`: the plate at a path, scaled to a width and a height. -/
abbrev ExternalPlateLoader : Type := String → Nat → Nat → Option Bytes

section Builder

variable {V : Type} [QVariantApi V] (fl : ℚ → ℚ) (req : BuildRequest V)

omit [QVariantApi V] in
/-- The curves, when `useComboLinearization` says that they are used. -/
def comboLinearization : Option MultiInkLinearization :=
  req.linearization.filter fun linearization ↦
    req.enableLinearization && linearization.hasExternalCurves

/-- A two-way split with its keys and fallbacks. -/
def split2Params (startKey endKey : String) (start last : Int32) : Split2Params where
  lightStart := clampedByte req.modeParams startKey start 255
  lightEnd := clampedByte req.modeParams endKey last 255

/-- The three-way split of black with its fallbacks. -/
def split3Params (t1Start t1End t2Start t2End : Int32) : Split3Params where
  t1Start := clampedByte req.modeParams "kT1Start" t1Start 255
  t1End := clampedByte req.modeParams "kT1End" t1End 255
  t2Start := clampedByte req.modeParams "kT2Start" t2Start 255
  t2End := clampedByte req.modeParams "kT2End" t2End 255

/-- The split of cyan: the modes with white have their own fallbacks. -/
def cSplit : Split2Params :=
  match req.mode with
  | .SevenColor_YMCK_Lm_Lc_W | .TenColor_YMCK_Lm_Lc_Lk_LLk_W_V =>
    split2Params req "cLightStart" "cLightEnd" 48 160
  | _ => split2Params req "cLightStart" "cLightEnd" 24 96

/-- The split of magenta. -/
def mSplit : Split2Params :=
  match req.mode with
  | .SevenColor_YMCK_Lm_Lc_W | .TenColor_YMCK_Lm_Lc_Lk_LLk_W_V =>
    split2Params req "mLightStart" "mLightEnd" 48 160
  | _ => split2Params req "mLightStart" "mLightEnd" 16 80

/-- The split of black. -/
def kSplit : Split3Params :=
  match req.mode with
  | .TenColor_YMCK_Lm_Lc_Lk_LLk_W_V => split3Params req 32 128 128 224
  | _ => split3Params req 24 112 120 228

/-- The buffers of the mode before the fade, from the colours after the neutral transfer. -/
def separate (adj : Cmyk) : InkPixel :=
  match req.mode, comboLinearization req with
  | .FourColor_YMCK, some linearization | .FiveColor_YMCK_W, some linearization =>
    curveColours linearization adj
  | .FourColor_YMCK, none | .FiveColor_YMCK_W, none => { adj := adj }
  | .SixColor_YMCK_Lm_Lc, some linearization | .SevenColor_YMCK_Lm_Lc_W, some linearization =>
    curveSix linearization adj
  | .SixColor_YMCK_Lm_Lc, none | .SevenColor_YMCK_Lm_Lc_W, none =>
    splitSix fl (cSplit req) (mSplit req) adj
  | .EightColor_YMCK_Lm_Lc_Lk_LLk, some linearization
  | .TenColor_YMCK_Lm_Lc_Lk_LLk_W_V, some linearization => curveEight linearization adj
  | .EightColor_YMCK_Lm_Lc_Lk_LLk, none | .TenColor_YMCK_Lm_Lc_Lk_LLk_W_V, none =>
    splitEight fl (cSplit req) (mSplit req) (kSplit req) adj

/-- The colours after the neutral transfer. -/
def postGcr (images : CmykImages) : List Cmyk :=
  applyGcrNeutralTransfer images.pixels (getGcrParams req.modeParams)

/-- The buffers of the mode. -/
def inkPixels (images : CmykImages) : List InkPixel :=
  let pixels := (postGcr req images).map (separate fl req)
  match req.mode with
  | .EightColor_YMCK_Lm_Lc_Lk_LLk | .TenColor_YMCK_Lm_Lc_Lk_LLk_W_V =>
    applyNeutralLightInkFade pixels (getGcrParams req.modeParams)
  | _ => pixels

/-- `computeCoverageFromPostColor` at one pixel. -/
def coverage (pixel : Cmyk) : UInt8 := max (max pixel.c pixel.m) (max pixel.y pixel.k)

/-- `buildWhiteChannel` and `buildVarnishChannel`: the plane of a specialty ink. -/
def buildSpecialtyChannel (cfg : SpecialtyInkConfig) (platePath : String)
    (plateLoader : ExternalPlateLoader) (width height : Nat) (post : List Cmyk) : Bytes :=
  let adjust (tone : UInt8) := applySpecialtyThresholdDensity tone cfg.threshold cfg.density
  if cfg.mode = 1 then post.map fun pixel ↦ adjust (coverage pixel)
  else if cfg.mode = 2 then List.replicate (width * height) cfg.density
  else if cfg.mode = 3 then
    match plateLoader platePath width height with
    | some plate => (List.range (width * height)).map fun i ↦ adjust plate[i]!
    | none => List.replicate (width * height) 0
  else List.replicate (width * height) 0

/-- The white plane before its curve. -/
def buildWhiteChannel (plateLoader : ExternalPlateLoader) (images : CmykImages) : Bytes :=
  buildSpecialtyChannel (getWhiteConfig req.modeParams) req.whitePlatePath plateLoader
    images.width images.height ((inkPixels fl req images).map (·.adj))

/-- The varnish plane before its curve. -/
def buildVarnishChannel (plateLoader : ExternalPlateLoader) (images : CmykImages) : Bytes :=
  buildSpecialtyChannel (getVarnishConfig req.modeParams) req.varnishPlatePath plateLoader
    images.width images.height ((inkPixels fl req images).map (·.adj))

omit [QVariantApi V] in
/-- A plane through the curve of its ink, when curves are used. -/
def curved (lut : MultiInkLinearization → Lut8) (plane : Bytes) : Bytes :=
  match comboLinearization req with
  | some linearization => plane.map (lut linearization)
  | none => plane

/-- `buildToneChannels`. -/
def buildToneChannels (plateLoader : ExternalPlateLoader) : Option (List Bytes) :=
  req.cmykImages.map fun images ↦
    let pixels := inkPixels fl req images
    let plane (ink : InkPixel → UInt8) := pixels.map ink
    let white := curved req (·.lutW) (buildWhiteChannel fl req plateLoader images)
    let varnish := curved req (·.lutV) (buildVarnishChannel fl req plateLoader images)
    let colours := [plane (·.adj.c), plane (·.adj.m), plane (·.adj.y), plane (·.adj.k)]
    let six := [plane (·.cDark), plane (·.mDark), plane (·.adj.y), plane (·.adj.k),
      plane (·.mLight), plane (·.cLight)]
    let eight := [plane (·.cDark), plane (·.mDark), plane (·.adj.y), plane (·.kDark),
      plane (·.cLight), plane (·.mLight), plane (·.lk), plane (·.llk)]
    match req.mode with
    | .FourColor_YMCK => colours
    | .FiveColor_YMCK_W => colours ++ [white]
    | .SixColor_YMCK_Lm_Lc => six
    | .SevenColor_YMCK_Lm_Lc_W => six ++ [white]
    | .EightColor_YMCK_Lm_Lc_Lk_LLk => eight
    | .TenColor_YMCK_Lm_Lc_Lk_LLk_W_V => eight ++ [white, varnish]

/-- The plates that `buildToneChannels` asks its loader for, in this order: those of the specialty
inks that the mode has and that are in plate mode. -/
def requestedPlates : List String :=
  let white := if (getWhiteConfig req.modeParams).mode = 3 then [req.whitePlatePath] else []
  let varnish := if (getVarnishConfig req.modeParams).mode = 3 then [req.varnishPlatePath] else []
  match req.mode with
  | .FiveColor_YMCK_W | .SevenColor_YMCK_Lm_Lc_W => white
  | .TenColor_YMCK_Lm_Lc_Lk_LLk_W_V => white ++ varnish
  | _ => []

end Builder

end PrintFlow.MultiInkToneBuilder
