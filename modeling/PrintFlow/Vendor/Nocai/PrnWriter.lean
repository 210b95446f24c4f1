import PrintFlow.Core.RasterSpool.Reader

/-!
# Printer files

The packing of dots into lines, the headers of X-33 and multi-ink jobs, and the functions that write
a PRN file from packed lines in memory or from a spool. A file in memory is streamed to its target;
a spool is read back line by line and written to a temporary file that replaces the target when it
is complete.
-/

namespace PrintFlow.NocaiPrnWriter

open DataStream FileStore FloatFormat RasterSpool

/-! ## Packed lines -/

/-- A line while it is packed: the full bytes, the byte being filled and the number of dots in
it. -/
structure PackState where
  line : Bytes := []
  byte : UInt8 := 0
  idx : Nat := 0

/-- Put one more dot into the byte being filled, and the byte into the line when it is full. -/
def PackState.add (s : PackState) (dot : UInt8) : PackState :=
  let level := dot &&& 0x03
  let byte := s.byte ||| (level <<< .ofNat ((3 - s.idx % 4) * 2))
  let idx := s.idx + 1
  if idx % 4 = 0 then ⟨s.line ++ [byte], 0, idx⟩ else ⟨s.line, byte, idx⟩

/-- `while (line.size() % 4 != 0) line.push_back(0)`. -/
def padLine (line : Bytes) : Bytes := if line.length % 4 = 0 then line else padLine (line ++ [0])
termination_by (4 - line.length % 4) % 4
decreasing_by
  rw [List.length_append, List.length_singleton]
  omega

/-- One line of `packTo2Bpp`. -/
def packDots (dots : Bytes) (width : Nat) : Bytes :=
  let s := (List.range width).foldl (fun s x ↦ s.add dots[x]!) ({} : PackState)
  padLine (if s.idx % 4 ≠ 0 then s.line ++ [s.byte] else s.line)

/-- `packTo2Bpp`. -/
def packTo2Bpp (dotMap : List Bytes) (width height : Nat) : List Bytes :=
  (List.range height).map fun y ↦ packDots dotMap[y]! width

/-! ## Headers -/

/-- The conversion of an `int` to `uint32_t`. -/
def uint32 (value : Int32) : UInt32 := value.toUInt32

/-- `makeStandardX33Header`. The eighth word packs the 16-bit color count and bit count. -/
def makeStandardX33Header (width height xdpi ydpi bytesPerLine colors : Int32) : CanonicalHeader :=
  #v[0x00005555, uint32 xdpi, uint32 ydpi, uint32 bytesPerLine, uint32 height, uint32 width, 0,
    uint32 colors, 1, 1, 0, 0]

/-- `makeStandardX33SdkHeader` widens the packed counts to a word each. -/
def makeStandardX33SdkHeader (packedHeader : CanonicalHeader) : CanonicalHeader :=
  #v[packedHeader.get 0, packedHeader.get 1, packedHeader.get 2, packedHeader.get 3,
    packedHeader.get 4, packedHeader.get 5, packedHeader.get 6, packedHeader.get 7 &&& 0xffff,
    packedHeader.get 7 >>> 16, packedHeader.get 8, packedHeader.get 9, packedHeader.get 10]

/-- A word in the byte order of the machine. -/
def word16 (value : UInt16) : Bytes := (putUInt16 value).reverse

@[inherit_doc word16]
def word32 (value : UInt32) : Bytes := (putUInt32 value).reverse

/-- The bytes of an X-33 header. -/
def x33HeaderBytes (header : CanonicalHeader) : Bytes := header.toList.flatMap word32

/-- `enum class MultiInkMode`. -/
inductive MultiInkMode where
  | fourColorYMCK
  | fiveColorYMCKW
  | sixColorYMCKLmLc
  | sevenColorYMCKLmLcW
  | eightColorYMCKLmLcLkLLk
  | tenColorYMCKLmLcLkLLkWV
  deriving DecidableEq, Repr

/-- The ink letters of the controller board. -/
def inkByte (letter : Char) : UInt8 := UInt8.ofNat letter.toNat

/-- The board bytes of the logical channels of a mode. -/
def boardBytes : MultiInkMode → List UInt8
  | .fourColorYMCK => [inkByte 'C', inkByte 'M', inkByte 'Y', inkByte 'K']
  | .fiveColorYMCKW => [inkByte 'C', inkByte 'M', inkByte 'Y', inkByte 'K', inkByte 'W']
  | .sixColorYMCKLmLc =>
    [inkByte 'C', inkByte 'M', inkByte 'Y', inkByte 'K', inkByte 'c', inkByte 'm']
  | .sevenColorYMCKLmLcW =>
    [inkByte 'C', inkByte 'M', inkByte 'Y', inkByte 'K', inkByte 'c', inkByte 'm', inkByte 'W']
  | .eightColorYMCKLmLcLkLLk =>
    [inkByte 'C', inkByte 'M', inkByte 'Y', inkByte 'K', inkByte 'c', inkByte 'm', inkByte 'k', 0x01]
  | .tenColorYMCKLmLcLkLLkWV =>
    [inkByte 'C', inkByte 'M', inkByte 'Y', inkByte 'K', inkByte 'c', inkByte 'm', inkByte 'k', 0x01,
      inkByte 'W', inkByte 'V']

/-- `mapLogicalChannelToBoardByte`. -/
def mapLogicalChannelToBoardByte (mode : MultiInkMode) (channel : Int32) : UInt8 :=
  if channel < 0 then 0 else (boardBytes mode)[channel.toInt.toNat]?.getD 0

/-- `buildColorListForMode`. -/
def buildColorListForMode (mode : MultiInkMode) (channelOrder : List Int32) : Bytes :=
  let listed := (channelOrder.take 16).map (mapLogicalChannelToBoardByte mode)
  listed ++ List.replicate (16 - listed.length) 0

/-- `static_cast<float>` of an `int`. -/
def float (value : Int32) : ℚ := binary32.round value.toInt

/-- `struct InkjetImageHeader`: the fields that differ from job to job. -/
structure InkjetImageHeader where
  pixelWidth : UInt32
  pixelHeight : UInt32
  xDpi : ℚ
  yDpi : ℚ
  bytesPerLine : UInt32
  colorNum : UInt8
  colorList : Bytes

/-- Its 80 bytes. -/
def InkjetImageHeader.bytes (header : InkjetImageHeader) : Bytes :=
  "inkjet".toList.map inkByte ++ word16 1 ++ word32 header.pixelWidth ++ word32 header.pixelHeight ++
    word32 (singleBits header.xDpi) ++ word32 (singleBits header.yDpi) ++
    word32 header.bytesPerLine ++ word32 0 ++ List.replicate 16 0 ++ [2, header.colorNum] ++
    List.replicate 14 0 ++ header.colorList

/-! ## Files -/

/-- What the output file answers: whether it opens, how each write ends, and whether it closes or
replaces its target. -/
structure OutputIo where
  opened : Bool := true
  write : Nat → Io := fun _ ↦ .done
  closed : Bool := true

/-- Nothing fails. -/
structure OutputIo.Ok (io : OutputIo) : Prop where
  opened : io.opened = true
  write : ∀ index, (io.write index).ok = true
  closed : io.closed = true

/-- By default nothing fails. -/
theorem OutputIo.Ok.default : ({} : OutputIo).Ok := ⟨rfl, fun _ ↦ rfl, rfl⟩

/-- The contents of a `std::ofstream` after these writes, and whether they succeeded: after one that
fails it stores nothing. -/
def streamed (io : OutputIo) : (index : Nat) → (content : Bytes) → List Bytes → Bytes × Bool
  | _, content, [] => (content, true)
  | index, content, chunk :: rest =>
    let content := content ++ (io.write index).stored chunk
    if (io.write index).ok then streamed io (index + 1) content rest else (content, false)

/-- The plane-lines of a file in the order they are written. -/
def planeLines (channelOrder : List Int32) (height : Int32) : List (Int32 × Int32) :=
  (List.range height.toInt.toNat).flatMap fun row ↦
    channelOrder.map fun channel ↦ (channel, Int32.ofNat row)

/-- `packedLines[channel][row]`, or `none` out of bounds. -/
def packedLine (packedLines : List (List Bytes)) (channel row : Int32) : Option Bytes :=
  if channel < 0 ∨ row < 0 then none
  else packedLines[channel.toInt.toNat]?.bind (·[row.toInt.toNat]?)

/-- The plane orders of X-33 files: YMCK and YMCKWW. -/
def IsX33Order (channelOrder : List Int32) : Prop :=
  channelOrder = [2, 1, 0, 3] ∨ channelOrder = [2, 1, 0, 3, 4, 4]

instance (channelOrder : List Int32) : Decidable (IsX33Order channelOrder) :=
  inferInstanceAs (Decidable (_ ∨ _))

section Writers

variable (localOutputPath : String → String) (io : OutputIo) (files : Store String)

/-! ## From packed lines -/

/-- The header and the plane-lines written to an output stream: the files afterwards, and whether
the stream is still good. The result is `none` when the code reads out of bounds. -/
def streamPrn (path : String) (packedLines : List (List Bytes)) (header : Bytes)
    (channelOrder : List Int32) (height : Int32) : Option (Store String × Bool) := do
  let lines ← (planeLines channelOrder height).mapM fun (channel, row) ↦
    packedLine packedLines channel row
  let (content, good) := streamed io 0 [] (header :: lines)
  return (files.set path content, good && io.closed)

/-- The check of a channel in `writeStandardX33Prn`. -/
def channelFits (packedLines : List (List Bytes)) (height : Int32) (bytesPerLine : UInt32)
    (channel : Int32) : Bool :=
  !(channel < 0) && !(channel ≥ Int32.ofNat packedLines.length) &&
    packedLines[channel.toInt.toNat]?.any fun plane ↦
      plane.length == height.toInt.toNat && plane.all (·.length == bytesPerLine.toNat)

/-- `writeStandardX33Prn` from packed lines. -/
def writeStandardX33Prn (packedLines : List (List Bytes)) (channelOrder : List Int32)
    (width height xdpi ydpi : Int32) (outputPath : String) : Option (Store String × Bool) :=
  match packedLines with
  | [] | [] :: _ => some (files, false)
  | (first :: _) :: _ =>
    if ¬ IsX33Order channelOrder ∨ width ≤ 0 ∨ height ≤ 0 ∨ ¬ io.opened then some (files, false)
    else
      let path := localOutputPath outputPath
      let bytesPerLine := UInt32.ofNat first.length
      -- the stream has truncated its target before the lines are checked
      if bytesPerLine = 0 ∨ ¬ channelOrder.all (channelFits packedLines height bytesPerLine) then
        some (files.set path [], false)
      else
        let header := makeStandardX33Header width height xdpi ydpi bytesPerLine.toInt32
          (Int32.ofNat channelOrder.length)
        streamPrn io files path packedLines (x33HeaderBytes header) channelOrder height

/-- `writeStandardCmykPrn`. -/
def writeStandardCmykPrn (packedLines : List (List Bytes)) (channelOrder : List Int32)
    (width height xdpi ydpi : Int32) (outputPath : String) : Option (Store String × Bool) :=
  if channelOrder ≠ [2, 1, 0, 3] then some (files, false)
  else
    writeStandardX33Prn localOutputPath io files packedLines channelOrder width height xdpi ydpi
      outputPath

/-- `writeMultiInkPrn` from packed lines, which does not look at the stream after it opened. -/
def writeMultiInkPrn (packedLines : List (List Bytes)) (channelOrder : List Int32)
    (mode : MultiInkMode) (width height xdpi ydpi bytesPerLine : Int32) (outputPath : String) :
    Option (Store String × Bool) :=
  match packedLines with
  | [] | [] :: _ => some (files, false)
  | (_ :: _) :: _ =>
    let colors := UInt32.ofNat channelOrder.length
    if colors = 0 ∨ colors > 16 ∨ ¬ io.opened then some (files, false)
    else do
      let xDpi := if 720 < float xdpi then 720 else float xdpi
      let header : InkjetImageHeader :=
        { pixelWidth := uint32 width, pixelHeight := uint32 height, xDpi, yDpi := float ydpi
          bytesPerLine := uint32 bytesPerLine, colorNum := colors.toUInt8
          colorList := buildColorListForMode mode channelOrder }
      let (files, _) ← streamPrn io files (localOutputPath outputPath) packedLines header.bytes
        channelOrder height
      return (files, true)

/-! ## From spools -/

/-- The loops over rows and planes: the contents of the temporary file, or `none` when a line cannot
be read or written. -/
def savePlaneLines (reader : Reader) : (index : Nat) → List (Int32 × Int32) → (content : Bytes) →
    Option Bytes
  | _, [], content => some content
  | index, (channel, row) :: rest, content =>
    match reader.readLine files channel row with
    | .error _ => none
    | .ok line =>
      if (io.write index).ok then savePlaneLines reader (index + 1) rest (content ++ line) else none

/-- The header and the plane-lines written to a `QSaveFile`: the files afterwards, and whether the
target was replaced. -/
def savePrn (path : String) (reader : Reader) (header : Bytes) (channelOrder : List Int32)
    (height : Int32) : Store String × Bool :=
  if ¬ io.opened ∨ ¬ (io.write 0).ok then (files, false)
  else
    match savePlaneLines io files reader 1 (planeLines channelOrder height) header with
    | none => (files, false)
    | some content => if io.closed then (files.set path content, true) else (files, false)

variable (sha256 : Sha256) (checksumIo : ChecksumIo)

/-- `writeStandardX33Prn` from a spool. -/
def writeStandardX33PrnFromSpool (spool : DirectPrintSpool) (outputPath : String) :
    Store String × Bool :=
  if ¬ IsX33Order spool.channelOrder then (files, false)
  else
    match metadataIsValid spool, Reader.open sha256 checksumIo files spool.path true with
    | .ok (), .ok reader =>
      let header := makeStandardX33Header spool.width spool.height spool.xdpi spool.ydpi
        spool.bytesPerLine (Int32.ofNat spool.channelOrder.length)
      savePrn io files (localOutputPath outputPath) reader (x33HeaderBytes header)
        spool.channelOrder spool.height
    | _, _ => (files, false)

/-- `writeMultiInkPrn` from a spool. -/
def writeMultiInkPrnFromSpool (spool : DirectPrintSpool) (mode : MultiInkMode)
    (outputPath : String) : Store String × Bool :=
  if spool.channelOrder.length > 16 then (files, false)
  else
    match metadataIsValid spool, Reader.open sha256 checksumIo files spool.path true with
    | .ok (), .ok reader =>
      let header : InkjetImageHeader :=
        { pixelWidth := uint32 spool.width, pixelHeight := uint32 spool.height
          xDpi := min 720 (float spool.xdpi), yDpi := float spool.ydpi
          bytesPerLine := uint32 spool.bytesPerLine
          colorNum := UInt8.ofNat spool.channelOrder.length
          colorList := buildColorListForMode mode spool.channelOrder }
      savePrn io files (localOutputPath outputPath) reader header.bytes spool.channelOrder
        spool.height
    | _, _ => (files, false)

end Writers

end PrintFlow.NocaiPrnWriter
