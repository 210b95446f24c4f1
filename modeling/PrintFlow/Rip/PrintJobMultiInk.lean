import PrintFlow.Rip.CanonicalCmykFile
import PrintFlow.Rip.MultiInkScreenEngine
import PrintFlow.Vendor.Nocai.PrnWriter

/-!
# Multi-ink jobs

`PrintJobMultiInk` builds the raster of a job on one of two paths. Both give every ink a mask, a
screening configuration and a tone plane. The path in memory does it for the whole image, the
bounded path strip by strip.
-/

namespace PrintFlow

open BoundedRasterPipeline MultiInkToneBuilder

/-! ## External plates -/

/-- The image files a job reads plates from: `QUrl(path).toLocalFile()`, `QFileInfo::exists`, and
the gray pixels of the image at a path, scaled to a width and a height. The image library throws
when it finds no image there. -/
structure PlateFiles where
  toLocalFile : String → String
  present : String → Bool
  gray : String → Nat → Nat → Option Bytes
  gray_length : ∀ path width height plate, gray path width height = some plate →
    plate.length = width * height

/-- `path.startsWith("file:", Qt::CaseInsensitive)`. -/
def isFileUrl (path : String) : Bool := (path.toList.take 5).map Char.toLower == "file:".toList

/-- The local path of a plate. -/
def PlateFiles.localPath (files : PlateFiles) (sourcePath : String) : String :=
  let path := trimmed sourcePath
  if isFileUrl path then files.toLocalFile path else path

/-- What becomes of reading a plate: there is none, the image library throws, or its pixels. -/
inductive PlateReading where
  | absent
  | thrown
  | pixels (plate : Bytes)
  deriving DecidableEq

/-- The plate at a path, as `preparePlate` and the loader in memory both read it. -/
def PlateFiles.read (files : PlateFiles) (sourcePath : String) (width height : Nat) :
    PlateReading :=
  let path := files.localPath sourcePath
  if path = "" ∨ ¬ files.present path then .absent
  else
    match files.gray path width height with
    | none => .thrown
    | some plate => .pixels plate

/-- The loader in memory, as far as it returns. -/
def PlateFiles.readPlate (files : PlateFiles) : ExternalPlateLoader := fun sourcePath width height ↦
  match files.read sourcePath width height with
  | .absent | .thrown => none
  | .pixels plate => some plate

theorem PlateFiles.read_plate_eq_some {files : PlateFiles} {sourcePath : String}
    {width height : Nat} {plate : Bytes} :
    files.readPlate sourcePath width height = some plate ↔
      files.read sourcePath width height = .pixels plate := by
  unfold PlateFiles.readPlate
  cases files.read sourcePath width height with
  | absent => exact ⟨fun h ↦ absurd h.symm (Option.some_ne_none plate), fun h ↦ by cases h⟩
  | thrown => exact ⟨fun h ↦ absurd h.symm (Option.some_ne_none plate), fun h ↦ by cases h⟩
  | pixels tones => simp

theorem PlateFiles.read_plate_length {files : PlateFiles} {sourcePath : String} {width height : Nat}
    {plate : Bytes} (h : files.readPlate sourcePath width height = some plate) :
    plate.length = width * height := by
  rw [read_plate_eq_some] at h
  unfold PlateFiles.read at h
  dsimp only at h
  split_ifs at h
  cases hgray : files.gray (files.localPath sourcePath) width height with
  | none =>
      rw [hgray] at h
      cases h
  | some tones =>
      rw [hgray] at h
      cases h
      exact files.gray_length _ _ _ _ hgray

/-! ## Jobs -/

/-- What `PrintJobMultiInk` knows of a job when it builds its raster. -/
structure PrintJobMultiInk (V : Type) where
  inkMode : InkMode
  modeParams : QVariantMap V
  dotStrategy : MultiInkDotStrategy
  screenSeed : UInt32
  whitePlatePath : String
  varnishPlatePath : String
  linearization : MultiInkLinearization
  enableLinearization : Bool

namespace PrintJobMultiInk

/-- The order of the planes in a row of the printer file. -/
def channelOrder : InkMode → List Int32
  | .FourColor_YMCK => [2, 1, 0, 3]
  | .FiveColor_YMCK_W => [2, 1, 0, 3, 4]
  | .SixColor_YMCK_Lm_Lc => [2, 1, 0, 3, 4, 5]
  | .SevenColor_YMCK_Lm_Lc_W => [2, 1, 0, 3, 4, 5, 6]
  | .EightColor_YMCK_Lm_Lc_Lk_LLk => [2, 1, 0, 3, 5, 4, 6, 7]
  | .TenColor_YMCK_Lm_Lc_Lk_LLk_W_V => [2, 1, 0, 3, 5, 4, 6, 7, 8, 9]

/-- `isLightChannel`. -/
def isLightChannel (mode : InkMode) (channel : Nat) : Bool :=
  match mode with
  | .SixColor_YMCK_Lm_Lc | .SevenColor_YMCK_Lm_Lc_W => channel == 4 || channel == 5
  | .EightColor_YMCK_Lm_Lc_Lk_LLk | .TenColor_YMCK_Lm_Lc_Lk_LLk_W_V => 4 ≤ channel && channel ≤ 7
  | _ => false

/-- `isWhiteChannel`. -/
def isWhiteChannel (mode : InkMode) (channel : Nat) : Bool :=
  match mode with
  | .FiveColor_YMCK_W => channel == 4
  | .SevenColor_YMCK_Lm_Lc_W => channel == 6
  | .TenColor_YMCK_Lm_Lc_Lk_LLk_W_V => channel == 8
  | _ => false

/-- `isVarnishChannel`. -/
def isVarnishChannel (mode : InkMode) (channel : Nat) : Bool :=
  match mode with
  | .TenColor_YMCK_Lm_Lc_Lk_LLk_W_V => channel == 9
  | _ => false

/-- The mode of the PRN writer that `writePRNFile` picks. -/
def writerMode : InkMode → NocaiPrnWriter.MultiInkMode
  | .FourColor_YMCK => .fourColorYMCK
  | .FiveColor_YMCK_W => .fiveColorYMCKW
  | .SixColor_YMCK_Lm_Lc => .sixColorYMCKLmLc
  | .SevenColor_YMCK_Lm_Lc_W => .sevenColorYMCKLmLcW
  | .EightColor_YMCK_Lm_Lc_Lk_LLk => .eightColorYMCKLmLcLkLLk
  | .TenColor_YMCK_Lm_Lc_Lk_LLk_W_V => .tenColorYMCKLmLcLkLLkWV

/-- The spool a job writes, before its file has a name. -/
def spoolMetadata (mode : InkMode) (image : SourceImage) (xdpi ydpi : Int32) :
    DirectPrintSpool where
  channelOrder := channelOrder mode
  logicalChannelCount := Int32.ofNat mode.value
  width := Int32.ofNat image.width
  height := Int32.ofNat image.height
  xdpi := xdpi
  ydpi := ydpi
  bytesPerLine := Int32.ofNat (((image.width + 3) / 4 + 3) / 4 * 4)
  format := .nocaiMultiInk

section Channels

variable {V : Type} [QVariantApi V] (job : PrintJobMultiInk V)

/-- The mask key of a specialty ink: the mode parameter, or the default when it is blank. -/
def specialtyMaskKey (key fallback : String) : String :=
  let maskKey := trimmed (job.modeParams.string key fallback)
  if maskKey = "" then fallback else maskKey

/-- `maskKeyForChannel`. -/
def maskKeyForChannel (channel : Nat) : String :=
  let whiteMaskKey := job.specialtyMaskKey "whiteMaskKey" "w"
  let varnishMaskKey := job.specialtyMaskKey "varnishMaskKey" "v"
  let keys :=
    match job.inkMode with
    | .FourColor_YMCK => ["c", "m", "y", "k"]
    | .FiveColor_YMCK_W => ["c", "m", "y", "k", whiteMaskKey]
    | .SixColor_YMCK_Lm_Lc => ["c", "m", "y", "k", "lm", "lc"]
    | .SevenColor_YMCK_Lm_Lc_W => ["c", "m", "y", "k", "lm", "lc", whiteMaskKey]
    | .EightColor_YMCK_Lm_Lc_Lk_LLk => ["c", "m", "y", "k", "lc", "lm", "lk", "llk"]
    | .TenColor_YMCK_Lm_Lc_Lk_LLk_W_V =>
      ["c", "m", "y", "k", "lc", "lm", "lk", "llk", whiteMaskKey, varnishMaskKey]
  keys.getD channel "c"

/-- The mask file of a key. -/
def maskPath (assetPath : String → String) (key : String) : String :=
  assetPath ("mask_512_" ++ key ++ ".tiff")

/-- The dot strategy of its own that a specialty ink has. -/
structure OwnDots where
  smallDotThreshold : Int
  medDotThreshold : Int
  enablePromotion : Bool

/-- The dot strategy under the key prefix of a specialty ink, when it is used. -/
def specialtyDots (ink : String) : Option OwnDots :=
  if job.modeParams.bool (ink ++ "UseOwnDotStrategy") false then
    some
      { smallDotThreshold :=
          clamp (job.modeParams.int (ink ++ "SmallDotThreshold") 104).toInt 0 255
        medDotThreshold := clamp (job.modeParams.int (ink ++ "MedDotThreshold") 168).toInt 0 255
        enablePromotion := job.modeParams.bool (ink ++ "EnablePromotion") false }
  else none

/-- The dot strategy of its own that a channel has. -/
def ownDots (channel : Nat) : Option OwnDots :=
  if isWhiteChannel job.inkMode channel then job.specialtyDots "white"
  else if isVarnishChannel job.inkMode channel then job.specialtyDots "varnish"
  else none

/-! ## The bounded path -/

/-- The configuration of a channel on the bounded path. -/
def screenChannel (assetPath : String → String) (channel : Nat) : ScreenChannel :=
  let lightOverride := job.modeParams.bool "useLightInkMinThresholdOverride" false
  let lightMinimum := clamp (job.modeParams.int "lightInkMinThreshold" 2).toInt 0 254
  let maskKey := job.maskKeyForChannel channel
  -- White and varnish take the floors of black.
  let kLike := maskKey == "k" || maskKey == "lk" || maskKey == "llk" || maskKey == "w" ||
    maskKey == "v"
  let request : ScreenChannel :=
    { maskPath := maskPath assetPath maskKey
      minInkThreshold :=
        if lightOverride && isLightChannel job.inkMode channel then lightMinimum
        else job.dotStrategy.minInkThreshold
      smallDotThreshold := job.dotStrategy.smallDotThreshold
      medDotThreshold := job.dotStrategy.medDotThreshold
      enablePromotion := job.dotStrategy.enablePromotion
      floorRange := if kLike then job.dotStrategy.floorRangeK else job.dotStrategy.floorRangeCMY
      floorMax := if kLike then job.dotStrategy.floorMaxK else job.dotStrategy.floorMaxCMY
      enableDotSwap := job.dotStrategy.enableDotSwap
      useEffectiveTone := true }
  match job.ownDots channel with
  | none => request
  | some own =>
    { request with
      smallDotThreshold := own.smallDotThreshold
      medDotThreshold := own.medDotThreshold
      enablePromotion := own.enablePromotion }

/-- `screenChannels` of the bounded path. -/
def screenChannels (assetPath : String → String) : List ScreenChannel :=
  (List.range job.inkMode.value).map (job.screenChannel assetPath)

/-- The mode of a specialty ink. -/
def specialtyMode (key : String) : Int := clamp (job.modeParams.int key 0).toInt 0 3

/-- The four separated images from their planes. -/
def separatedImages (width height : Nat) (planes : Nat → Bytes) : CmykImages where
  width := width
  height := height
  pixels := (List.range (width * height)).map fun i ↦
    { c := (planes 0)[i]!, m := (planes 1)[i]!, y := (planes 2)[i]!, k := (planes 3)[i]! }
  pixels_length := by rw [List.length_map, List.length_range]

omit [QVariantApi V] in
/-- The request to the tone builder. -/
def toneRequest (images : CmykImages) : BuildRequest V where
  cmykImages := some images
  mode := job.inkMode
  modeParams := job.modeParams
  whitePlatePath := job.whitePlatePath
  varnishPlatePath := job.varnishPlatePath
  linearization := some job.linearization
  enableLinearization := job.enableLinearization

/-- `preparePlate`: nothing when there is no file. The job ends here when the image library
throws. -/
def preparePlate (files : PlateFiles) (image : SourceImage) (sourcePath : String) :
    Except String (Option Bytes) :=
  match files.read sourcePath image.width image.height with
  | .absent => .ok none
  | .thrown => .error "PrintJobMultiInk: bounded raster generation failed:"
  | .pixels plate => .ok (some plate)

/-- The plates of the bounded path. -/
structure PreparedPlates where
  white : Option Bytes
  varnish : Option Bytes

/-- The bounded path reads its plates before it begins: that of white or varnish when the ink is in
plate mode, whether or not the job has the ink. -/
def preparedPlates (files : PlateFiles) (image : SourceImage) : Except String PreparedPlates := do
  let white ←
    (if job.specialtyMode "whiteMode" = 3 then preparePlate files image job.whitePlatePath
      else .ok none)
  let varnish ←
    (if job.specialtyMode "varnishMode" = 3 then preparePlate files image job.varnishPlatePath
      else .ok none)
  return { white, varnish }

omit [QVariantApi V] in
/-- The plate that the bounded path takes for a path: the white one when the path is that of
white. -/
def plateSource (plates : PreparedPlates) (platePath : String) : Option Bytes :=
  if platePath = job.whitePlatePath then plates.white else plates.varnish

omit [QVariantApi V] in
/-- The plate loader of the strip of some rows. -/
def stripPlateLoader (plates : PreparedPlates) (image : SourceImage) (firstRow rowCount : Nat) :
    ExternalPlateLoader := fun platePath plateWidth plateHeight ↦
  match job.plateSource plates platePath with
  | none => none
  | some source =>
    if plateWidth ≠ image.width ∨ plateHeight ≠ rowCount then none
    else some (Plane.strip source image.width firstRow rowCount)

/-- `toneProvider`: the tone planes of a strip. -/
def toneProvider (fl : ℚ → ℚ) (plates : PreparedPlates) (image : SourceImage)
    (canonical : CanonicalCmykFile) (io : CacheIo) (firstRow rowCount : Nat) :
    Except String (List Bytes) :=
  match canonical.readRows io firstRow rowCount with
  | .error message => .error message
  | .ok raw =>
    let pixels := image.width * rowCount
    let images := separatedImages image.width rowCount (separated raw pixels)
    match buildToneChannels fl (job.toneRequest images)
      (job.stripPlateLoader plates image firstRow rowCount) with
    | none => .error ""
    | some tones => .ok tones

/-! ## The path in memory -/

/-- The image library throws on a plate that the tone builder asks its loader for. -/
def loaderThrows (files : PlateFiles) (image : SourceImage) (images : CmykImages) : Bool :=
  (requestedPlates (job.toneRequest images)).any fun platePath ↦
    files.read platePath image.width image.height = .thrown

/-- The tone planes of `buildInMemoryRasterSpool`: none when it returns false or throws. -/
def inMemoryTones (fl : ℚ → ℚ) (files : PlateFiles) (image : SourceImage) : Option (List Bytes) :=
  match image.coveredPlane 0, image.coveredPlane 1, image.coveredPlane 2, image.coveredPlane 3 with
  | some c, some m, some y, some k =>
    let images := separatedImages image.width image.height fun channel ↦
      [c, m, y, k].getD channel []
    if job.loaderThrows files image images then none
    else
      match buildToneChannels fl (job.toneRequest images) files.readPlate with
      | none => none
      | some tones => if tones.length ≠ job.inkMode.value then none else some tones
  | _, _, _, _ => none

/-- The request of a channel on the path in memory. -/
def channelRequest (channel : Nat) (tone : Bytes) : MultiInkScreenEngine.ChannelRequest :=
  let request : MultiInkScreenEngine.ChannelRequest :=
    { maskKey := job.maskKeyForChannel channel
      toneBytes := some tone
      isLightInk := isLightChannel job.inkMode channel
      useEffectiveTone := true }
  match job.ownDots channel with
  | none => request
  | some own =>
    { request with
      useOwnDotStrategy := true
      ownSmallDotThreshold := own.smallDotThreshold
      ownMedDotThreshold := own.medDotThreshold
      ownEnablePromotion := own.enablePromotion }

/-- The screen request of the path in memory. -/
def screenRequest (image : SourceImage) (tones : List Bytes) :
    MultiInkScreenEngine.ScreenRequest V where
  width := image.width
  height := image.height
  screenSeed := job.screenSeed
  modeParams := job.modeParams
  dotStrategy := job.dotStrategy
  channels := (List.range job.inkMode.value).map fun channel ↦
    job.channelRequest channel tones[channel]!

end Channels

end PrintJobMultiInk

end PrintFlow
