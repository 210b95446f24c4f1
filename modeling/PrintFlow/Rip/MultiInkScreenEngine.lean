import PrintFlow.Library.Interaction
import PrintFlow.Library.RowScan
import PrintFlow.Rip.Screening

/-!
# The full-frame screening engine

`screenChannels` screens each channel of a request in turn: a pass over the whole image that gates,
lifts and thresholds the tones, a second one that classifies the dots, a third that promotes them in
place, and a last one that packs them. It asks between rows whether the job was canceled.
-/

namespace PrintFlow.MultiInkScreenEngine

open Interaction Screening

/-- `ChannelRequest`. -/
structure ChannelRequest where
  maskKey : String := ""
  toneBytes : Option Bytes := none
  isLightInk : Bool := false
  useOwnDotStrategy : Bool := false
  ownSmallDotThreshold : Int := 104
  ownMedDotThreshold : Int := 168
  ownEnablePromotion : Bool := false
  useEffectiveTone : Bool := true
  floorClass : Int := -1

/-- `ScreenRequest`. A negative dimension is refused as zero is. -/
structure ScreenRequest (V : Type) where
  width : Nat
  height : Nat
  screenSeed : UInt32
  modeParams : QVariantMap V
  dotStrategy : MultiInkDotStrategy
  channels : List ChannelRequest

/-- The packed lines of one channel. -/
abbrev PackedLines := List Bytes

/-- The question whether the job was canceled. -/
inductive EngineCall where
  | isCanceled
  deriving DecidableEq

/-- The answers of the environment. -/
abbrev EngineAnswer : EngineCall → Type := fun _ ↦ Bool

/-- A program that asks whether it was canceled. -/
abbrev EngineProgram := Program EngineCall EngineAnswer

/-- Ask whether the job was canceled. -/
def isCanceled : EngineProgram Bool := Program.call .isCanceled

section Parameters

variable {V : Type} [QVariantApi V] (req : ScreenRequest V) (channelReq : ChannelRequest)

/-- Whether the floor values of black apply. -/
def isKLike : Bool :=
  if channelReq.floorClass < 0 then
    channelReq.maskKey == "k" || channelReq.maskKey == "lk" || channelReq.maskKey == "llk" ||
      channelReq.maskKey == "w" || channelReq.maskKey == "v"
  else decide (0 < channelReq.floorClass)

/-- The tones below which the floor lifts. -/
def floorRange : UInt8 :=
  if isKLike channelReq then req.dotStrategy.floorRangeK else req.dotStrategy.floorRangeCMY

/-- How far the floor lifts. -/
def floorMax : UInt8 :=
  if isKLike channelReq then req.dotStrategy.floorMaxK else req.dotStrategy.floorMaxCMY

/-- The gate of a channel, with the override for light inks. -/
def minInkThreshold : Int :=
  let useLightOverride := req.modeParams.bool "useLightInkMinThresholdOverride" false
  let lightMinT := clamp (req.modeParams.int "lightInkMinThreshold" 2).toInt 0 254
  if useLightOverride && channelReq.isLightInk then lightMinT
  else clamp req.dotStrategy.minInkThreshold 0 254

/-- The strategy of a channel: its own cut points and promotion flag when it has them. -/
def channelStrategy : MultiInkDotStrategy :=
  if channelReq.useOwnDotStrategy then
    { req.dotStrategy with
      smallDotThreshold := channelReq.ownSmallDotThreshold
      medDotThreshold := channelReq.ownMedDotThreshold
      enablePromotion := channelReq.ownEnablePromotion }
  else req.dotStrategy

end Parameters

/-! ## The first pass -/

/-- One pixel of the planes `effTone`, `dithered` and `classMask`. -/
structure Pixel where
  effTone : UInt8
  dithered : UInt8
  classMask : UInt8
  deriving Inhabited

section Dither

variable {V : Type} [QVariantApi V] (req : ScreenRequest V) (channelReq : ChannelRequest)
  (mask : Mask) (ch : Nat)

/-- The mask at a pixel, from the offset of the channel. -/
def sampleMask (x y : Nat) : UInt8 :=
  mask.data[wrap (y + maskOffsetY mask ch req.screenSeed) mask.height * mask.width +
    wrap (x + maskOffsetX mask ch req.screenSeed) mask.width]!

/-- Gate, lift and threshold one tone. -/
def ditherPixel (x y : Nat) (u : UInt8) : Pixel :=
  let minTch := (clamp (minInkThreshold req channelReq) 0 254).toNat
  if u.toNat ≤ minTch then
    { effTone := 0, dithered := 0, classMask := 255 }
  else
    let uEff := effectiveTone minTch (floorRange req channelReq) (floorMax req channelReq) u
    let t := sampleMask req mask ch x y
    { effTone := if channelReq.useEffectiveTone then .ofNat uEff else u
      dithered := if t.toNat < uEff then 255 else 0
      classMask := t }

/-- One row of the planes. -/
def ditherRow (channelBytes : Bytes) (y : Nat) : List Pixel :=
  (List.range req.width).map fun x ↦
    ditherPixel req channelReq mask ch x y channelBytes[y * req.width + x]!

/-- The rows of the planes, one poll before each. -/
def ditherRows (channelBytes : Bytes) : List Nat → List Pixel → EngineProgram (Option (List Pixel))
  | [], planes => pure (some planes)
  | y :: rest, planes => do
    if ← isCanceled then
      return none
    ditherRows channelBytes rest (planes ++ ditherRow req channelReq mask ch channelBytes y)

end Dither

/-! ## Classification, promotion and packing -/

/-- `dotClassification`. -/
def dotClassification (dithered mask channel : Bytes) (width height : Nat)
    (strategy : MultiInkDotStrategy) : List Bytes :=
  (List.range height).map fun y ↦ (List.range width).map fun x ↦
    let idx := y * width + x
    if dithered[idx]! = 0 then 0
    else
      let dot := dotLevel (cutBase strategy.smallDotThreshold) (cutBase strategy.medDotThreshold)
        channel[idx]! mask[idx]!
      if strategy.enableDotSwap then swapDot x y channel[idx]! dot else dot

/-- `localMAD`: the mean deviation from the neighbours that lie inside the image. -/
def localMAD (tone : Bytes) (width height cx cy : Nat) : Nat :=
  let inside := neighbours.filter fun (row, column) ↦
    1 ≤ cy + row ∧ cy + row < height + 1 ∧ 1 ≤ cx + column ∧ cx + column < width + 1
  if inside.length = 0 then 0
  else
    (inside.map fun (row, column) ↦
      deviation tone[(cy + row - 1) * width + (cx + column - 1)]! tone[cy * width + cx]!).sum /
      inside.length

/-- Promote one dot in place. -/
def promoteDot (parameters : Promotion) (tone : Bytes) (width height y : Nat) (dotMap : List Bytes)
    (x : Nat) : List Bytes :=
  let cls := (dotMap[y]!)[x]!
  let v := tone[y * width + x]!
  let weighted := (neighbours.map fun (row, column) ↦
    (dotMap[y + row - 1]!)[x + column - 1]!.toNat).sum
  let countAny := neighbours.countP fun (row, column) ↦ 0 < (dotMap[y + row - 1]!)[x + column - 1]!
  if cls = 0 ∨ cls = 3 then dotMap
  else if v.toNat < parameters.toneGate then dotMap
  else if countAny < parameters.minimumInked then dotMap
  else if parameters.flatEpsilon < localMAD tone width height x y then dotMap
  else
    dotMap.set y
      (dotMap[y]!.set x (drawDot parameters x y (weighted + parameters.kickBonus) v cls))

/-- `apply4x4Promotion`. -/
def apply4x4Promotion (dotMap : List Bytes) (tone : Bytes) (width height : Nat)
    (parameters : Promotion) : List Bytes :=
  (List.range' 1 (height - 3)).foldl (fun dotMap y ↦
    (List.range' 1 (width - 3)).foldl (promoteDot parameters tone width height y) dotMap) dotMap

/-- Add one dot to the byte being filled, and the byte to the line when it is full. -/
def packDot (dots : Bytes) (state : Bytes × UInt8) (x : Nat) : Bytes × UInt8 :=
  let byte := state.2 ||| ((dots[x]! &&& 0x03) <<< .ofNat ((3 - x % 4) * 2))
  if (x + 1) % 4 = 0 then (state.1 ++ [byte], 0) else (state.1, byte)

/-- Fill up with zeros until the length is a multiple of four. -/
def padToFour (line : Bytes) : Bytes := line ++ List.replicate ((4 - line.length % 4) % 4) 0

/-- One line of `packTo2BPP`. -/
def packLine (dots : Bytes) (width : Nat) : Bytes :=
  let (line, byte) := (List.range width).foldl (packDot dots) ([], 0)
  padToFour (if width % 4 ≠ 0 then line ++ [byte] else line)

/-- `packTo2BPP`. -/
def packTo2BPP (dotMap : List Bytes) (width height : Nat) : PackedLines :=
  (List.range height).map fun y ↦ packLine dotMap[y]! width

/-! ## The engine -/

section Engine

variable {V : Type} [QVariantApi V] (req : ScreenRequest V)

/-- The lines of a channel from its planes. -/
def screenedLines (channelReq : ChannelRequest) (planes : List Pixel) : PackedLines :=
  let strategy := channelStrategy req channelReq
  let effTone := planes.map (·.effTone)
  let dotMap := dotClassification (planes.map (·.dithered)) (planes.map (·.classMask)) effTone
    req.width req.height strategy
  let dotMap :=
    if strategy.enablePromotion then
      apply4x4Promotion dotMap effTone req.width req.height (promotion req.modeParams)
    else dotMap
  packTo2BPP dotMap req.width req.height

/-- The channels from number `ch` on. The mask loaded last is used again under the same key; before
any was loaded, that key is empty. -/
def screenFrom (maskLoader : String → Option Mask) : Nat → List ChannelRequest →
    String → Option Mask → List PackedLines → EngineProgram (Option (List PackedLines))
  | _, [], _, _, allPacked => pure (some allPacked)
  | ch, channelReq :: rest, lastMaskKey, lastMask, allPacked => do
    if ← isCanceled then
      return none
    match channelReq.toneBytes with
    | none => pure none
    | some channelBytes =>
      if channelBytes.length ≠ req.width * req.height then pure none
      else
        match if channelReq.maskKey = lastMaskKey then lastMask else maskLoader channelReq.maskKey with
        | none => pure none
        | some mask =>
          match ← ditherRows req channelReq mask ch channelBytes (List.range req.height) [] with
          | none => pure none
          | some planes =>
            screenFrom maskLoader (ch + 1) rest channelReq.maskKey (some mask)
              (allPacked ++ [screenedLines req channelReq planes])

/-- `screenChannels`. -/
def screenChannels (maskLoader : String → Option Mask) : EngineProgram (Option (List PackedLines)) :=
  if req.width = 0 ∨ req.height = 0 ∨ req.channels = [] then pure none
  else screenFrom req maskLoader 0 req.channels "" none []

end Engine

end PrintFlow.MultiInkScreenEngine
