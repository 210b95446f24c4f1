import PrintFlow.Library.Interaction
import PrintFlow.Rip.Screening

/-!
# The bounded screening pipeline

`screenToSpool` screens an image strip by strip. Each channel keeps at most three rows: a row is
promoted when the two rows below it have arrived, and leaves when the row below it was promoted. The
program asks whether the job was canceled and hands packed lines to the spool writer; the tone
provider and the mask files are functions that can fail. Rows and columns are natural numbers, as
the source's are under `Screening.CoordinatesFit`.
-/

namespace PrintFlow.BoundedRasterPipeline

open Interaction Screening

/-- `MaximumStripRows`. -/
def MaximumStripRows : Int := 128

/-- `MiB`. -/
def MiB : Nat := 1024 * 1024

/-- `boundedRowsForWidth`. -/
def boundedRowsForWidth (width estimatedBytesPerPixel usableBudget : Nat) : Nat :=
  if width = 0 ∨ estimatedBytesPerPixel = 0 then 1
  else min 128 (max 1 (usableBudget / (width * estimatedBytesPerPixel)))

/-- There is at least one row. -/
theorem bounded_rows_pos (width estimatedBytesPerPixel usableBudget : Nat) :
    0 < boundedRowsForWidth width estimatedBytesPerPixel usableBudget := by
  unfold boundedRowsForWidth
  split
  · exact Nat.one_pos
  · exact lt_min (by decide) (lt_max_of_lt_left Nat.one_pos)

/-- `ScreenChannel`. -/
structure ScreenChannel where
  maskPath : String
  minInkThreshold : Int := 8
  smallDotThreshold : Int := 104
  medDotThreshold : Int := 168
  floorRange : UInt8 := 0
  floorMax : UInt8 := 0
  enableDotSwap : Bool := false
  enablePromotion : Bool := false
  useEffectiveTone : Bool := false

/-- What the pipeline asks of its surroundings. A line that is written is answered by an error
message or none. -/
inductive PipelineCall where
  | isCanceled
  | writeLine (logicalChannel row : Nat) (packed : Bytes)
  deriving DecidableEq

/-- The answers of the environment. -/
abbrev PipelineAnswer : PipelineCall → Type
  | .isCanceled => Bool
  | .writeLine .. => Option String

/-- A program that screens, or fails with an error message. -/
abbrev PipelineProgram := ExceptT String (Program PipelineCall PipelineAnswer)

/-- Ask the surroundings. -/
def ask (call : PipelineCall) : PipelineProgram (PipelineAnswer call) :=
  ExceptT.lift (Program.call call)

/-- Fail when the job was canceled. -/
def checkCanceled : PipelineProgram Unit := do
  if ← ask .isCanceled then
    throw "Rasterization canceled."

/-! ## Mask rows -/

/-- A mask file, with the row read last. -/
structure MaskRows where
  image : Mask
  bytes : Bytes := []
  cachedRow : Option Nat := none
  cached : ∀ row, cachedRow = some row → bytes = image.row row

/-- A mask file that was just opened. -/
def MaskRows.opened (image : Mask) : MaskRows where
  image := image
  cached := by intro row h; cases h

/-- `MaskRows::row`. -/
def MaskRows.row (mask : MaskRows) (row : Nat) : Bytes × MaskRows :=
  let wrapped := row % mask.image.height
  if mask.cachedRow = some wrapped then (mask.bytes, mask)
  else
    (mask.image.row wrapped,
      { image := mask.image
        bytes := mask.image.row wrapped
        cachedRow := some wrapped
        cached := by intro row h; cases h; rfl })

/-- A row is that of the file, whether it was cached or not. -/
@[simp] theorem MaskRows.row_fst (mask : MaskRows) (row : Nat) :
    (mask.row row).1 = mask.image.row (row % mask.image.height) := by
  unfold MaskRows.row
  dsimp only
  split
  · next h => exact mask.cached _ h
  · rfl

/-- Reading a row keeps the file. -/
@[simp] theorem MaskRows.row_image (mask : MaskRows) (row : Nat) :
    (mask.row row).2.image = mask.image := by
  unfold MaskRows.row
  dsimp only
  split <;> rfl

/-! ## Rows -/

/-- A screened row that was not yet written. -/
structure ScreenRow where
  y : Nat
  tone : Bytes
  dots : Bytes
  deriving Inhabited

/-- The state of a channel. -/
structure ScreenState where
  config : ScreenChannel
  mask : MaskRows
  offsetX : Nat
  offsetY : Nat
  rows : List ScreenRow

/-- Screen one tone: the tone that classifies it and its dot. -/
def screenPixel (config : ScreenChannel) (maskWidth offsetX : Nat) (maskRow : Bytes) (x y : Nat)
    (originalTone : UInt8) : UInt8 × UInt8 :=
  let minTone := (clamp config.minInkThreshold 0 254).toNat
  if originalTone.toNat ≤ minTone then (0, 0)
  else
    let effective := effectiveTone minTone config.floorRange config.floorMax originalTone
    let threshold := maskRow[wrap (x + offsetX) maskWidth]!
    let classificationTone := if config.useEffectiveTone then .ofNat effective else originalTone
    if effective ≤ threshold.toNat then (classificationTone, 0)
    else
      let dot := dotLevel (cutBase config.smallDotThreshold) (cutBase config.medDotThreshold)
        classificationTone threshold
      (classificationTone, if config.enableDotSwap then swapDot x y classificationTone dot else dot)

/-- Screen one row. -/
def screenRow (config : ScreenChannel) (maskWidth offsetX : Nat) (maskRow : Bytes) (width y : Nat)
    (toneRow : Bytes) : ScreenRow :=
  let pixels := (List.range width).map fun x ↦
    screenPixel config maskWidth offsetX maskRow x y toneRow[x]!
  { y := y
    tone := pixels.map (·.1)
    dots := pixels.map (·.2) }

/-- `packRow`. -/
def packRow (dots : Bytes) (width : Nat) : Bytes :=
  let unpaddedBytes := (width + 3) / 4
  let bytesPerLine := (unpaddedBytes + 3) / 4 * 4
  (List.range width).foldl (fun packed x ↦
    packed.modify (x / 4) (· ||| ((dots[x]! &&& 0x03) <<< .ofNat ((3 - x % 4) * 2))))
    (List.replicate bytesPerLine 0)

/-- A row of the window, with the dots promoted so far in the second. -/
def neighbourRow (above center below further : ScreenRow) (dots : Bytes) : Nat → ScreenRow
  | 0 => above
  | 1 => { center with dots := dots }
  | 2 => below
  | _ => further

/-- Promote one dot of the second of four rows. -/
def promoteDot (parameters : Promotion) (above center below further : ScreenRow) (dots : Bytes)
    (x : Nat) : Bytes :=
  let window := neighbourRow above center below further dots
  let dot := dots[x]!
  let tone := center.tone[x]!
  let weighted := (neighbours.map fun (row, column) ↦
    (window row).dots[x + column - 1]!.toNat).sum
  let inked := neighbours.countP fun (row, column) ↦ 0 < (window row).dots[x + column - 1]!
  let deviations := (neighbours.map fun (row, column) ↦
    deviation (window row).tone[x + column - 1]! tone).sum
  if dot = 0 ∨ dot = 3 then dots
  else if tone.toNat < parameters.toneGate then dots
  else if inked < parameters.minimumInked ∨ parameters.flatEpsilon < deviations / neighbours.length
  then dots
  else dots.set x (drawDot parameters x center.y (weighted + parameters.kickBonus) tone dot)

/-- `promoteCenterRow` on the four rows of a full window. -/
def promoteCenterRow (parameters : Promotion) (width height : Nat)
    (above center below further : ScreenRow) : ScreenRow :=
  if center.y = 0 ∨ height ≤ center.y + 2 then center
  else
    { center with
      dots := (List.range' 1 (width - 3)).foldl
        (promoteDot parameters above center below further) center.dots }

/-- `emitFrontRow`. The row is dropped only after it was written. -/
def emitFrontRow (state : ScreenState) (logicalChannel : Nat) : PipelineProgram ScreenState :=
  match state.rows with
  | [] => pure state
  | row :: rest => do
    match ← ask (.writeLine logicalChannel row.y (packRow row.dots row.dots.length)) with
    | some message => throw message
    | none => pure { state with rows := rest }

/-! ## The pipeline -/

section Pipeline

variable (width height : Nat) (parameters : Promotion)

/-- Screen a row of one channel and emit the row that can no longer change. -/
def screenLine (state : ScreenState) (logicalChannel y : Nat) (toneRow : Bytes) :
    PipelineProgram ScreenState := do
  checkCanceled
  let (maskRow, mask) := state.mask.row (y + state.offsetY)
  let output := screenRow state.config state.mask.image.width state.offsetX maskRow width y toneRow
  let rows := state.rows ++ [output]
  if state.config.enablePromotion then
    match rows with
    | [above, center, below, further] =>
      let promoted := promoteCenterRow parameters width height above center below further
      emitFrontRow { state with mask := mask, rows := [above, promoted, below, further] }
        logicalChannel
    | _ => pure { state with mask := mask, rows := rows }
  else emitFrontRow { state with mask := mask, rows := rows } logicalChannel

/-- Screen a row of the channels from number `channel` on. -/
def screenChannelRows (y : Nat) : Nat → List ScreenState → List Bytes →
    PipelineProgram (List ScreenState)
  | channel, state :: states, toneRow :: toneRows => do
    let state ← screenLine width height parameters state channel y toneRow
    let states ← screenChannelRows y (channel + 1) states toneRows
    return state :: states
  | _, states, _ => pure states

/-- Screen the rows of a strip. -/
def screenStripRows (firstRow : Nat) (tones : List Bytes) : List Nat → List ScreenState →
    PipelineProgram (List ScreenState)
  | [], states => pure states
  | localRow :: rest, states => do
    let states ← screenChannelRows width height parameters (firstRow + localRow) 0 states
      (tones.map fun tone ↦ Plane.row tone width localRow)
    screenStripRows firstRow tones rest states

/-- Screen the strips. A provider that returns the wrong number of planes fails without a
message. -/
def screenStrips (toneProvider : Nat → Nat → Except String (List Bytes)) :
    List (Nat × Nat) → List ScreenState → PipelineProgram (List ScreenState)
  | [], states => pure states
  | (firstRow, rowCount) :: rest, states => do
    checkCanceled
    match toneProvider firstRow rowCount with
    | .error message => throw message
    | .ok tones =>
      if tones.length ≠ states.length then throw ""
      else if tones.any fun tone ↦ tone.length ≠ width * rowCount then
        throw "Streaming tone strip size is invalid."
      else
        let states ←
          screenStripRows width height parameters firstRow tones (List.range rowCount) states
        screenStrips toneProvider rest states

end Pipeline

/-- Open the masks of the channels from number `channel` on and place them. -/
def openStates (openMask : String → Except String Mask) (screenSeed : UInt32) :
    Nat → List ScreenChannel → Except String (List ScreenState)
  | _, [] => .ok []
  | channel, config :: rest =>
    match openMask config.maskPath with
    | .error message => .error message
    | .ok mask =>
      match openStates openMask screenSeed (channel + 1) rest with
      | .error message => .error message
      | .ok states => .ok (
        { config := config
          mask := .opened mask
          offsetX := maskOffsetX mask channel screenSeed
          offsetY := maskOffsetY mask channel screenSeed
          rows := [] } :: states)

/-- Emit the rows a channel still holds. -/
def flushRows (channel : Nat) : List ScreenRow → ScreenState → PipelineProgram Unit
  | [], _ => pure ()
  | _ :: rest, state => do
    let state ← emitFrontRow state channel
    flushRows channel rest state

/-- Emit what the channels from number `channel` on still hold. -/
def flushStates : Nat → List ScreenState → PipelineProgram Unit
  | _, [] => pure ()
  | channel, state :: rest => do
    flushRows channel state.rows state
    flushStates (channel + 1) rest

/-- The rows of a strip: the number asked for, within what the buffers may take. -/
def clampedStripRows (width channels : Nat) (stripRows : Int) : Nat :=
  min (clamp stripRows 1 MaximumStripRows).toNat
    (boundedRowsForWidth width (16 + 2 * channels) (96 * MiB))

/-- `screenToSpool`. -/
def screenToSpool {V : Type} [QVariantApi V] (width height : Nat) (screenSeed : UInt32)
    (promotionParameters : QVariantMap V) (channels : List ScreenChannel)
    (openMask : String → Except String Mask)
    (toneProvider : Nat → Nat → Except String (List Bytes)) (stripRows : Int) :
    PipelineProgram Unit := do
  if width = 0 ∨ height = 0 ∨ channels = [] then
    throw "Streaming screen request is invalid."
  else
    match openStates openMask screenSeed 0 channels with
    | .error message => throw message
    | .ok states =>
      let step := clampedStripRows width channels.length stripRows
      let states ← screenStrips width height (promotion promotionParameters) toneProvider
        (Plane.strips height step 0) states
      flushStates 0 states

end PrintFlow.BoundedRasterPipeline
