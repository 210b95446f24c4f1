import PrintFlow.Rip.PrintJobMultiInk
import PrintFlow.Rip.X33WhiteToneBuilder

/-!
# X-33 jobs

`PrintJobCMYK` builds the raster of an X-33 job, in four colours with or without white. As for
multi-ink jobs there is a path in memory and one that works strip by strip; each has its own code
for the tones, the screening parameters and the metadata of the spool.
-/

namespace PrintFlow

open BoundedRasterPipeline

/-- `DotStrategy`. -/
structure DotStrategy where
  minInkThreshold : Int := 8
  smallDotThreshold : Int := 104
  medDotThreshold : Int := 168
  enablePromotion : Bool := false
  floorRangeCMY : UInt8 := 24
  floorMaxCMY : UInt8 := 2
  floorRangeK : UInt8 := 12
  floorMaxK : UInt8 := 0
  enableDotSwap : Bool := false

/-- What `PrintJobCMYK` knows of a job when it builds its raster. A blank mask key of white has been
replaced by that of the white mask. -/
structure PrintJobCMYK where
  assetsExtractPath : String
  dotStrategy : DotStrategy := {}
  screenSeed : UInt32 := 0
  x33Linearization : MultiInkLinearization
  x33WhiteMode : X33WhiteToneBuilder.Mode := .Off
  x33WhitePlatePath : String := ""
  x33WhiteMaskKey : String := "w"
  x33WhiteThreshold : Int := 8
  x33WhiteDensity : Int := 255
  x33WhiteUseOwnDotStrategy : Bool := false
  x33WhiteSmallDotThreshold : Int := 104
  x33WhiteMedDotThreshold : Int := 168
  x33WhiteEnablePromotion : Bool := false
  mask_key_ne : x33WhiteMaskKey ≠ "" := by decide

namespace PrintJobCMYK

variable (job : PrintJobCMYK)

/-- `whiteEnabled`. -/
def whiteEnabled : Bool := job.x33WhiteMode != .Off

/-- `logicalChannelCount`. -/
def logicalChannelCount : Nat := if job.whiteEnabled then 5 else 4

/-- `chKeys`. -/
def chKeys : List String :=
  ["c", "m", "y", "k"] ++ if job.whiteEnabled then [job.x33WhiteMaskKey] else []

/-- The mask file of a key. -/
def maskPath (key : String) : String := job.assetsExtractPath ++ "/mask_512_" ++ key ++ ".tiff"

/-- The request to the builder of the white plane. -/
def whiteRequest (cmyk : CmykTones) (width height : Nat) : X33WhiteToneBuilder.BuildRequest where
  cmykTones := some cmyk
  width := width
  height := height
  mode := job.x33WhiteMode
  threshold := job.x33WhiteThreshold
  density := job.x33WhiteDensity
  platePath := job.x33WhitePlatePath

/-- The colour planes through their curves, when curves were loaded. -/
def curvedTones (cmyk : CmykTones) : Option CmykTones :=
  if job.x33Linearization.hasExternalCurves then job.x33Linearization.applyFourColorTones cmyk
  else some cmyk

/-- The white plane through its curve, when curves were loaded. -/
def curvedWhite (white : Bytes) : Option Bytes :=
  if job.x33Linearization.hasExternalCurves then job.x33Linearization.applyWhiteTone white
  else some white

/-! ## The bounded path -/

/-- The plate that is read before the strips: none unless white is printed from it, and an error
when there is no such file or the image library throws. -/
def whitePlate (files : PlateFiles) (image : SourceImage) : Except String (Option Bytes) :=
  if job.whiteEnabled && job.x33WhiteMode == .Plate then
    match files.read job.x33WhitePlatePath image.width image.height with
    | .absent => .error ("PrintJobCMYK: X-33 white plate not found: " ++ job.x33WhitePlatePath)
    | .thrown => .error "PRN generation failed:"
    | .pixels plate => .ok (some plate)
  else .ok none

/-- The plate loader of the strip of some rows. -/
def stripPlateLoader (image : SourceImage) (plate : Option Bytes) (firstRow rowCount : Nat) :
    X33WhiteToneBuilder.ExternalPlateLoader := fun _ plateWidth plateHeight ↦
  match plate with
  | none => none
  | some source =>
    if plateWidth ≠ image.width ∨ plateHeight ≠ rowCount then none
    else some (Plane.strip source image.width firstRow rowCount)

/-- `toneProvider`: the tone planes of a strip. -/
def toneProvider (image : SourceImage) (plate : Option Bytes) (canonical : CanonicalCmykFile)
    (io : CacheIo) (firstRow rowCount : Nat) : Except String (List Bytes) :=
  match canonical.readRows io firstRow rowCount with
  | .error message => .error message
  | .ok raw =>
    let pixels := image.width * rowCount
    match job.curvedTones
      { c := separated raw pixels 0, m := separated raw pixels 1
        y := separated raw pixels 2, k := separated raw pixels 3 } with
    | none => .error "Could not apply X-33 linearization to a raster strip."
    | some cmyk =>
      if job.whiteEnabled then
        match X33WhiteToneBuilder.build (job.whiteRequest cmyk image.width rowCount)
          (stripPlateLoader image plate firstRow rowCount) with
        | none => .error "Could not build the X-33 white strip."
        | some white =>
          match job.curvedWhite white with
          | none => .error ""
          | some white => .ok (cmyk.planes ++ [white])
      else .ok cmyk.planes

/-- The configuration of a channel on the bounded path. -/
def screenChannel (channel : Nat) : ScreenChannel :=
  let active :=
    if channel == 4 && job.x33WhiteUseOwnDotStrategy then
      { job.dotStrategy with
        smallDotThreshold := job.x33WhiteSmallDotThreshold
        medDotThreshold := job.x33WhiteMedDotThreshold
        enablePromotion := job.x33WhiteEnablePromotion }
    else job.dotStrategy
  { maskPath := job.maskPath (job.chKeys.getD channel "")
    minInkThreshold := active.minInkThreshold
    smallDotThreshold := active.smallDotThreshold
    medDotThreshold := active.medDotThreshold
    floorRange := if channel == 3 then active.floorRangeK else active.floorRangeCMY
    floorMax := if channel == 3 then active.floorMaxK else active.floorMaxCMY
    enableDotSwap := active.enableDotSwap
    enablePromotion := active.enablePromotion
    useEffectiveTone := false }

/-- `screenChannels` of the bounded path. -/
def screenChannels : List ScreenChannel := (List.range job.logicalChannelCount).map job.screenChannel

/-- The spool of the bounded path, before its file has a name. -/
def boundedSpool (image : SourceImage) (xdpi ydpi : Int32) : DirectPrintSpool :=
  let nocaiOrder : List Int32 := if job.whiteEnabled then [2, 1, 0, 3, 4, 4] else [2, 1, 0, 3]
  let bytesPerLine := Int32.ofNat (((image.width + 3) / 4 + 3) / 4 * 4)
  { channelOrder := nocaiOrder
    logicalChannelCount := Int32.ofNat job.logicalChannelCount
    width := Int32.ofNat image.width
    height := Int32.ofNat image.height
    xdpi := xdpi
    ydpi := ydpi
    bytesPerLine := bytesPerLine
    format := .nocaiX33Standard
    canonicalHeader := NocaiPrnWriter.makeStandardX33Header (Int32.ofNat image.width)
      (Int32.ofNat image.height) xdpi ydpi bytesPerLine (Int32.ofNat nocaiOrder.length) }

/-! ## The path in memory -/

/-- The tone planes of `buildInMemoryRasterSpool`: none when it returns false or throws. -/
def inMemoryTones (files : PlateFiles) (image : SourceImage) : Option (List Bytes) :=
  match image.coveredPlane 0, image.coveredPlane 1, image.coveredPlane 2, image.coveredPlane 3 with
  | some c, some m, some y, some k =>
    match job.curvedTones { c, m, y, k } with
    | none => none
    | some cmyk =>
      if job.whiteEnabled then
        match X33WhiteToneBuilder.build (job.whiteRequest cmyk image.width image.height)
          files.readPlate with
        | none => none
        | some whiteTone => (job.curvedWhite whiteTone).map fun white ↦ cmyk.planes ++ [white]
      else some cmyk.planes
  | _, _, _, _ => none

/-- The request of a channel on the path in memory. -/
def channelRequest (channel : Nat) (tone : Bytes) : MultiInkScreenEngine.ChannelRequest :=
  let keys := if job.whiteEnabled then ["c", "m", "y", "k", job.x33WhiteMaskKey]
    else ["c", "m", "y", "k"]
  let request : MultiInkScreenEngine.ChannelRequest :=
    { maskKey := keys.getD channel ""
      toneBytes := some tone
      useEffectiveTone := false
      floorClass := if channel == 3 then 1 else 0 }
  if channel == 4 && job.x33WhiteUseOwnDotStrategy then
    { request with
      useOwnDotStrategy := true
      ownSmallDotThreshold := job.x33WhiteSmallDotThreshold
      ownMedDotThreshold := job.x33WhiteMedDotThreshold
      ownEnablePromotion := job.x33WhiteEnablePromotion }
  else request

/-- The screen request of the path in memory, which has no mode parameters. -/
def screenRequest (V : Type) (image : SourceImage) (tones : List Bytes) :
    MultiInkScreenEngine.ScreenRequest V where
  width := image.width
  height := image.height
  screenSeed := job.screenSeed
  modeParams := fun _ ↦ none
  dotStrategy :=
    { minInkThreshold := job.dotStrategy.minInkThreshold
      smallDotThreshold := job.dotStrategy.smallDotThreshold
      medDotThreshold := job.dotStrategy.medDotThreshold
      enablePromotion := job.dotStrategy.enablePromotion
      floorRangeCMY := job.dotStrategy.floorRangeCMY
      floorMaxCMY := job.dotStrategy.floorMaxCMY
      floorRangeK := job.dotStrategy.floorRangeK
      floorMaxK := job.dotStrategy.floorMaxK
      enableDotSwap := job.dotStrategy.enableDotSwap }
  channels := (List.range job.logicalChannelCount).map fun channel ↦
    job.channelRequest channel tones[channel]!

/-- The spool of the path in memory, before its file has a name. -/
def inMemorySpool (image : SourceImage) (xdpi ydpi : Int32) : DirectPrintSpool :=
  let spool : DirectPrintSpool :=
    { channelOrder := if job.whiteEnabled then [2, 1, 0, 3, 4, 4] else [2, 1, 0, 3]
      logicalChannelCount := Int32.ofNat job.logicalChannelCount
      width := Int32.ofNat image.width
      height := Int32.ofNat image.height
      xdpi := xdpi
      ydpi := ydpi
      bytesPerLine := Int32.ofNat (((image.width + 3) / 4 + 3) / 4 * 4)
      format := .nocaiX33Standard }
  { spool with
    canonicalHeader := NocaiPrnWriter.makeStandardX33Header spool.width spool.height spool.xdpi
      spool.ydpi spool.bytesPerLine (Int32.ofNat spool.channelOrder.length) }

end PrintJobCMYK

end PrintFlow
