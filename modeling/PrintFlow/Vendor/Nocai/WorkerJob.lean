import PrintFlow.Core.RasterSpool.Tamper
import PrintFlow.PrinterService.Codecs

/-!
# The files of the isolated print worker

A print of the isolated worker travels through a file: the raster and the settings of a packed
print, or the path of a spool, the path of the cancel marker and the settings of a spooled one. The
parent process writes the settings twice over, once with `writeWorkerSettings` and once field by
field; the worker reads both with `readWorkerSettings`, by position.
-/

namespace PrintFlow.NocaiDirectPrintClient

open DataStream FloatFormat LineStore PrinterServiceProtocol RasterSpool

/-- `kWorkerJobMagic`: "PFNW". -/
def workerJobMagic : UInt32 := 0x50464e57

/-- `kWorkerJobVersion`. -/
def workerJobVersion : UInt32 := 3

/-- `kWorkerSpoolMagic`: "PFSW". -/
def workerSpoolMagic : UInt32 := 0x50465357

/-- `kWorkerSpoolVersion`. -/
def workerSpoolVersion : UInt32 := 2

/-! `doubles` and `strings` stand for the `QDataStream` operators of `double` and `QString`. -/

variable (doubles : Codec Double) (strings : Codec String)

/-- `writeWorkerSettings`. -/
def writeWorkerSettings (settings : DirectPrintSettings) : Option Bytes := do
  let mediaHeightMm ← doubles.put settings.mediaHeightMm
  return putInt32 settings.printerIndex ++
    putInt32 settings.printDirection ++ putInt32 settings.printSpeed ++
    putInt32 settings.wcSequence ++ putInt32 settings.eclosionGrade ++
    putInt32 settings.headSelect ++ putInt32 settings.whiteInkPercent ++
    putInt32 settings.whiteInkPassCount ++ putInt32 settings.varnishInkPercent ++
    putInt32 settings.varnishInkPassCount ++ putInt32 settings.headVoltage ++
    putInt32 settings.disableUv0 ++ putInt32 settings.disableUv1 ++
    putInt32 settings.disableUv2 ++ putInt32 settings.disableUv3 ++
    putInt32 settings.disableUv4 ++ putInt32 settings.disableUv5 ++
    putInt32 settings.carReset ++ putInt32 settings.stripBlank ++
    putInt32 settings.blankDistance ++ mediaHeightMm ++
    putInt32 settings.printOffsetXmm ++ putInt32 settings.printOffsetYmm ++
    putInt32 settings.pass ++ putInt32 settings.vsdMode

/-- `readWorkerSettings`: `values` by position, then the fields after the media height. -/
def readWorkerSettings : Get DirectPrintSettings := do
  let values ← getList getInt32 20
  let mediaHeightMm ← doubles.get
  let offsetX ← getInt32
  let offsetY ← getInt32
  let pass ← getInt32
  let vsd ← getInt32
  return {
    printerIndex := values.getD 0 0
    printDirection := values.getD 1 0
    printSpeed := values.getD 2 0
    wcSequence := values.getD 3 0
    eclosionGrade := values.getD 4 0
    headSelect := values.getD 5 0
    whiteInkPercent := values.getD 6 0
    whiteInkPassCount := values.getD 7 0
    varnishInkPercent := values.getD 8 0
    varnishInkPassCount := values.getD 9 0
    headVoltage := values.getD 10 0
    disableUv0 := values.getD 11 0
    disableUv1 := values.getD 12 0
    disableUv2 := values.getD 13 0
    disableUv3 := values.getD 14 0
    disableUv4 := values.getD 15 0
    disableUv5 := values.getD 16 0
    carReset := values.getD 17 0
    stripBlank := values.getD 18 0
    blankDistance := values.getD 19 0
    mediaHeightMm := mediaHeightMm
    printOffsetXmm := offsetX
    printOffsetYmm := offsetY
    pass := pass
    vsdMode := vsd }

/-- The settings block that `submitPreparedJobIsolated` writes itself. -/
def inlineSettings (settings : DirectPrintSettings) : Option Bytes := do
  let mediaHeightMm ← doubles.put settings.mediaHeightMm
  return putInt32 settings.printerIndex ++
    putInt32 settings.printDirection ++ putInt32 settings.printSpeed ++
    putInt32 settings.wcSequence ++ putInt32 settings.eclosionGrade ++
    putInt32 settings.headSelect ++ putInt32 settings.whiteInkPercent ++
    putInt32 settings.whiteInkPassCount ++ putInt32 settings.varnishInkPercent ++
    putInt32 settings.varnishInkPassCount ++ putInt32 settings.headVoltage ++
    putInt32 settings.disableUv0 ++ putInt32 settings.disableUv1 ++
    putInt32 settings.disableUv2 ++ putInt32 settings.disableUv3 ++
    putInt32 settings.disableUv4 ++ putInt32 settings.disableUv5 ++
    putInt32 settings.carReset ++ putInt32 settings.stripBlank ++
    putInt32 settings.blankDistance ++ mediaHeightMm ++
    putInt32 settings.printOffsetXmm ++ putInt32 settings.printOffsetYmm ++
    putInt32 settings.pass ++ putInt32 settings.vsdMode

/-- What `submitPreparedJobIsolated` writes before the plane-lines. -/
def jobHeader (sdkRoot : String) (raster : DirectPrintRaster) (settings : DirectPrintSettings) :
    Option Bytes := do
  let root ← strings.put sdkRoot
  let settingsBlock ← inlineSettings doubles settings
  return putUInt32 workerJobMagic ++ putUInt32 workerJobVersion ++ root ++
    putInt32 raster.width ++ putInt32 raster.height ++
    putInt32 raster.xdpi ++ putInt32 raster.ydpi ++
    putInt32 raster.bytesPerLine ++ putUInt8 raster.format.value ++
    raster.canonicalHeader.toList.flatMap putUInt32 ++
    putInt32 (Int32.ofNat raster.channelOrder.length) ++
    raster.channelOrder.flatMap putInt32 ++ settingsBlock

/-- The plane-lines that `submitPreparedJobIsolated` writes: `none` where one is missing. -/
def jobLines (planes : List (List Bytes)) : List (Nat × Int32) → Option Bytes
  | [] => some []
  | (row, channel) :: order => do
    let line ← if channel < 0 then none else find planes channel.toInt.toNat row
    let rest ← jobLines planes order
    return putByteArray (some line) ++ rest

/-- The job file of `submitPreparedJobIsolated`, for the SDK folder it resolved. -/
def serializedJob (sdkRoot : String) (raster : DirectPrintRaster) (settings : DirectPrintSettings) :
    Except String Bytes :=
  match raster.packedLines with
  | none => .error "Direct print raster is empty."
  | some planes =>
    if planes = [] ∨ raster.channelOrder = [] ∨ raster.height ≤ 0 then
      .error "Direct print raster is empty."
    else if sdkRoot = "" then
      .error "No architecture-compatible direct print SDK folder was found."
    else
      match jobLines planes (lineOrder raster.height raster.channelOrder) with
      | none => .error "Direct print raster channel/row index is invalid."
      | some lines =>
        match jobHeader doubles strings sdkRoot raster settings with
        | none => .error "Could not serialize the isolated direct-print job."
        | some header => .ok (header ++ lines)

/-- The descriptor that `submitSpooledJobIsolated` writes. -/
def spoolDescriptor (sdkRoot spoolPath cancelPath : String) (settings : DirectPrintSettings) :
    Option Bytes := do
  let root ← strings.put sdkRoot
  let spool ← strings.put spoolPath
  let cancel ← strings.put cancelPath
  let settingsBlock ← writeWorkerSettings doubles settings
  return putUInt32 workerSpoolMagic ++ putUInt32 workerSpoolVersion ++ root ++ spool ++ cancel ++
    settingsBlock

/-- What the worker prints. -/
inductive WorkerJob where
  | spooled (sdkRoot spoolPath cancelPath : String) (settings : DirectPrintSettings)
  | packed (sdkRoot : String) (raster : DirectPrintRaster) (settings : DirectPrintSettings)

/-- A channel of the worker's order. -/
def getChannel : Get Int32 := do
  let channel ← getInt32
  if channel < 0 ∨ channel > 15 then failure else return channel

/-- The plane-lines of a job: each has the size the header gives, and is stored at its place. -/
def getLines (bytesPerLine : Int32) :
    List (Nat × Int32) → List (List Bytes) → Get (List (List Bytes))
  | [], packedLines => return packedLines
  | (row, channel) :: order, packedLines => do
    let line ← getByteArray
    if ((line.getD []).length : Int) ≠ bytesPerLine.toInt then failure
    else getLines bytesPerLine order (store packedLines channel.toInt.toNat row (line.getD []))

/-- The rest of a job file. -/
def getPackedJob (magic version : UInt32) (sdkRoot : String) : Get WorkerJob := do
  let width ← getInt32
  let height ← getInt32
  let xdpi ← getInt32
  let ydpi ← getInt32
  let bytesPerLine ← getInt32
  let rasterFormat ← getUInt8
  let canonicalHeader ← getCanonicalHeader
  let channelCount ← getInt32
  if magic ≠ workerJobMagic ∨ version ≠ workerJobVersion ∨
      width ≤ 0 ∨ height ≤ 0 ∨ bytesPerLine ≤ 0 ∨
      rasterFormat > DirectPrintRasterFormat.nocaiMultiInk.value ∨
      channelCount ≤ 0 ∨ channelCount > 16 then failure
  else do
    let channelOrder ← getList getChannel channelCount.toInt.toNat
    let settings ← readWorkerSettings doubles
    let packedLines ← getLines bytesPerLine (lineOrder height channelOrder)
      -- There is a place for every channel up to the highest one.
      (List.replicate (maximumChannel channelOrder + 1).toNat
        (List.replicate height.toInt.toNat []))
    return .packed sdkRoot
      { packedLines := some packedLines, channelOrder, width, height, xdpi, ydpi, bytesPerLine,
        format := ⟨rasterFormat⟩, canonicalHeader } settings

/-- The rest of a spool descriptor. -/
def getSpoolDescriptor (version : UInt32) (sdkRoot : String) : Get WorkerJob := do
  let spoolPath ← strings.get
  let cancelPath ← if version ≥ 2 then strings.get else pure ""
  if version < 1 ∨ version > workerSpoolVersion ∨ spoolPath = "" then failure
  else do
    let settings ← readWorkerSettings doubles
    return .spooled sdkRoot spoolPath cancelPath settings

/-- The file that `runSerializedPrintWorker` reads. -/
def getWorkerJob : Get WorkerJob := do
  let magic ← getUInt32
  let version ← getUInt32
  let sdkRoot ← strings.get
  if magic = workerSpoolMagic then getSpoolDescriptor doubles strings version sdkRoot
  else getPackedJob doubles magic version sdkRoot

/-- The job that `runSerializedPrintWorker` reads from a file, or its exit code. A read past the end
leaves zeros behind, and the status that is checked before the job is printed. -/
def readSerializedJob (file : Bytes) : Except Int32 WorkerJob :=
  match getWorkerJob doubles strings file with
  | none => .error 2
  | some (job, _) => .ok job

variable {doubles strings}

/-- The settings that the worker reads by position. -/
def positional (settings : DirectPrintSettings) : List Int32 :=
  [settings.printerIndex, settings.printDirection, settings.printSpeed, settings.wcSequence,
    settings.eclosionGrade, settings.headSelect, settings.whiteInkPercent,
    settings.whiteInkPassCount, settings.varnishInkPercent, settings.varnishInkPassCount,
    settings.headVoltage, settings.disableUv0, settings.disableUv1, settings.disableUv2,
    settings.disableUv3, settings.disableUv4, settings.disableUv5, settings.carReset,
    settings.stripBlank, settings.blankDistance]

theorem write_worker_settings_eq {settings : DirectPrintSettings} {mediaHeight : Bytes}
    (hput : doubles.put settings.mediaHeightMm = some mediaHeight) :
    writeWorkerSettings doubles settings =
      some ((positional settings).flatMap putInt32 ++ (mediaHeight ++
        (putInt32 settings.printOffsetXmm ++ (putInt32 settings.printOffsetYmm ++
          (putInt32 settings.pass ++ putInt32 settings.vsdMode))))) := by
  rw [writeWorkerSettings, hput]
  simp only [Option.bind_eq_bind, Option.bind_some, Option.pure_def, positional, List.flatMap_cons,
    List.flatMap_nil, List.append_assoc, List.nil_append]

/-- Both writers of the settings write the same bytes, and the worker reads the settings back. -/
theorem settings_read_back (hdoubles : doubles.RoundTrips) {settings : DirectPrintSettings}
    (hheight : doubles.put settings.mediaHeightMm ≠ none) :
    ∃ bytes, writeWorkerSettings doubles settings = some bytes ∧
      inlineSettings doubles settings = some bytes ∧
      ∀ rest, readWorkerSettings doubles (bytes ++ rest) = some (settings, rest) := by
  obtain ⟨mediaHeight, hput⟩ := Option.ne_none_iff_exists'.mp hheight
  have hwrite := write_worker_settings_eq hput
  refine ⟨_, hwrite, hwrite, fun rest ↦ ?_⟩
  have hvalues : ∀ tail, getList getInt32 20 ((positional settings).flatMap putInt32 ++ tail) =
      some (positional settings, tail) :=
    fun tail ↦ (get_list_eq_some get_int32_eq_some).mpr ⟨rfl, rfl⟩
  simp only [readWorkerSettings, List.append_assoc, bind_apply, pure_apply, hvalues,
    hdoubles _ _ _ hput, get_int32_put, Option.bind_some]
  rfl

/-- A raster that can be printed: its sizes are positive, its format is one of the enumeration, it
has 1 to 16 channels in 0 to 15, and every line of its order is stored with the size of a line. -/
structure ValidRaster (raster : DirectPrintRaster) : Prop where
  width_pos : 0 < raster.width.toInt
  height_pos : 0 < raster.height.toInt
  line_pos : 0 < raster.bytesPerLine.toInt
  format : raster.format.IsEnumerator
  order_ne_nil : raster.channelOrder ≠ []
  order_length : raster.channelOrder.length ≤ 16
  channels : ∀ channel ∈ raster.channelOrder, 0 ≤ channel.toInt ∧ channel.toInt ≤ 15
  lines : ∃ planes, raster.packedLines = some planes ∧
    ∀ line ∈ lineOrder raster.height raster.channelOrder,
      LineStored planes raster.bytesPerLine line

section Lines

variable {planes : List (List Bytes)} {bytesPerLine : Int32} {order : List (Nat × Int32)}

/-- The lines of an order as the parent writes them. -/
def linesFile (planes : List (List Bytes)) (order : List (Nat × Int32)) : Bytes :=
  order.flatMap fun line ↦ putByteArray (some (lineAt planes line.2.toInt.toNat line.1))

theorem job_lines_eq (hstored : ∀ line ∈ order, LineStored planes bytesPerLine line) :
    jobLines planes order = some (linesFile planes order) := by
  induction order with
  | nil => rfl
  | cons line order ih =>
      obtain ⟨row, channel⟩ := line
      obtain ⟨⟨hnonneg, bytes, hfind, -⟩, hrest⟩ := List.forall_mem_cons.mp hstored
      have hsign : ¬ channel < 0 := by
        rw [Int32.lt_iff_toInt_lt]
        exact not_lt.mpr hnonneg
      have hline : lineAt planes channel.toInt.toNat row = bytes := by
        rw [lineAt, hfind, Option.getD_some]
      rw [jobLines, if_neg hsign, hfind, ih hrest, linesFile, linesFile, List.flatMap_cons, hline]
      rfl

/-- The worker stores the lines that the parent wrote. -/
theorem get_lines_written (hstored : ∀ line ∈ order, LineStored planes bytesPerLine line)
    (storage : List (List Bytes)) (rest : Bytes) :
    getLines bytesPerLine order storage (linesFile planes order ++ rest) =
      some (storeAll (lineAt planes) storage (order.map position), rest) := by
  -- Each line is read off the front of the file, where the parent wrote it with its length.
  induction order generalizing storage with
  | nil => rfl
  | cons line order ih =>
      obtain ⟨row, channel⟩ := line
      obtain ⟨⟨-, bytes, hfind, hlength⟩, hrest⟩ := List.forall_mem_cons.mp hstored
      have hline : lineAt planes channel.toInt.toNat row = bytes := by
        rw [lineAt, hfind, Option.getD_some]
      have hfile : linesFile planes ((row, channel) :: order) ++ rest =
          putByteArray (some bytes) ++ (linesFile planes order ++ rest) := by
        rw [linesFile, List.flatMap_cons, hline, List.append_assoc, linesFile]
      have hfits : FitsByteArray (some bytes) := by
        intro other hother
        obtain rfl := Option.some.inj hother
        have hlt := bytesPerLine.toInt_lt
        omega
      have hread := get_byte_array_eq_some.mpr
        ⟨hfits, (rfl : putByteArray (some bytes) ++ (linesFile planes order ++ rest) = _)⟩
      rw [hfile, getLines, bind_apply, hread, Option.bind_some]
      dsimp only
      rw [Option.getD_some, if_neg (not_not.mpr hlength), ih hrest, List.map_cons, storeAll,
        storeAll, List.foldl_cons]
      simp only [position, hline]

end Lines

/-- The channels of a job read back. -/
theorem get_channels_written {channelOrder : List Int32}
    (hchannels : ∀ channel ∈ channelOrder, 0 ≤ channel.toInt ∧ channel.toInt ≤ 15) (rest : Bytes) :
    getList getChannel channelOrder.length (channelOrder.flatMap putInt32 ++ rest) =
      some (channelOrder, rest) := by
  induction channelOrder with
  | nil => rfl
  | cons channel channelOrder ih =>
      obtain ⟨⟨hnonneg, hle⟩, hrest⟩ := List.forall_mem_cons.mp hchannels
      have hfifteen : Int32.toInt 15 = 15 := rfl
      have hrange : ¬ (channel < 0 ∨ channel > 15) := by
        simp only [gt_iff_lt, Int32.lt_iff_toInt_lt, Int32.toInt_zero, hfifteen]
        omega
      have hhead : ∀ tail, getChannel (putInt32 channel ++ tail) = some (channel, tail) := by
        intro tail
        rw [getChannel, bind_apply, get_int32_put, Option.bind_some]
        dsimp only
        rw [if_neg hrange]
        rfl
      simp only [List.length_cons, getList, List.flatMap_cons, List.append_assoc, bind_apply,
        pure_apply, hhead, Option.bind_some, ih hrest]

/-- What `submitPreparedJobIsolated` writes for a valid raster, field by field. -/
theorem serialized_job_eq {sdkRoot : String} {raster : DirectPrintRaster}
    {settings : DirectPrintSettings} {root settingsBlock : Bytes} {planes : List (List Bytes)}
    (hraster : ValidRaster raster) (hplanes : raster.packedLines = some planes)
    (hstored : ∀ line ∈ lineOrder raster.height raster.channelOrder,
      LineStored planes raster.bytesPerLine line)
    (hroot : sdkRoot ≠ "") (hput : strings.put sdkRoot = some root)
    (hsettings : inlineSettings doubles settings = some settingsBlock) :
    serializedJob doubles strings sdkRoot raster settings =
      .ok (putUInt32 workerJobMagic ++ putUInt32 workerJobVersion ++ root ++
        putInt32 raster.width ++ putInt32 raster.height ++
        putInt32 raster.xdpi ++ putInt32 raster.ydpi ++
        putInt32 raster.bytesPerLine ++ putUInt8 raster.format.value ++
        raster.canonicalHeader.toList.flatMap putUInt32 ++
        putInt32 (Int32.ofNat raster.channelOrder.length) ++
        raster.channelOrder.flatMap putInt32 ++ settingsBlock ++
        linesFile planes (lineOrder raster.height raster.channelOrder)) := by
  have hfilled : ¬ (planes = [] ∨ raster.channelOrder = [] ∨ raster.height ≤ 0) := by
    intro hempty
    rcases hempty with rfl | hnil | hheight
    · obtain ⟨channel, hchannel⟩ := List.exists_mem_of_ne_nil _ hraster.order_ne_nil
      have hpos := hraster.height_pos
      have hline : (0, channel) ∈ lineOrder raster.height raster.channelOrder :=
        mem_line_order.mpr ⟨by omega, hchannel⟩
      obtain ⟨-, bytes, hbytes, -⟩ := hstored _ hline
      exact absurd hbytes (by simp [find])
    · exact hraster.order_ne_nil hnil
    · rw [Int32.le_iff_toInt_le] at hheight
      exact absurd hraster.height_pos (not_lt.mpr hheight)
  rw [serializedJob, hplanes]
  dsimp only
  rw [if_neg hfilled, if_neg hroot, job_lines_eq hstored, jobHeader, hput, hsettings]
  rfl

/-- A valid raster and its settings reach the worker, with the lines of the order. -/
theorem worker_job_read_back (hdoubles : doubles.RoundTrips) (hstrings : strings.RoundTrips)
    {sdkRoot : String} {raster : DirectPrintRaster} {settings : DirectPrintSettings}
    (hraster : ValidRaster raster) (hroot : sdkRoot ≠ "") (hput : strings.put sdkRoot ≠ none)
    (hheight : doubles.put settings.mediaHeightMm ≠ none) :
    ∃ file storage,
      serializedJob doubles strings sdkRoot raster settings = .ok file ∧
      readSerializedJob doubles strings file =
        .ok (.packed sdkRoot { raster with packedLines := some storage } settings) ∧
      ∀ channel ∈ raster.channelOrder, ∀ row < raster.height.toInt.toNat,
        rasterLine { raster with packedLines := some storage } channel row =
          rasterLine raster channel row := by
  obtain ⟨planes, hplanes, hstored⟩ := hraster.lines
  obtain ⟨root, hput⟩ := Option.ne_none_iff_exists'.mp hput
  obtain ⟨settingsBlock, -, hinline, hread⟩ := settings_read_back hdoubles hheight
  refine ⟨_, restored planes raster.height raster.channelOrder,
    serialized_job_eq hraster hplanes hstored hroot hput hinline, ?_, ?_⟩
  · have hcount : (Int32.ofNat raster.channelOrder.length).toInt = raster.channelOrder.length :=
      Int32.toInt_ofNat_of_lt (by have := hraster.order_length; omega)
    have hheader : ¬ (workerJobMagic ≠ workerJobMagic ∨ workerJobVersion ≠ workerJobVersion ∨
        raster.width ≤ 0 ∨ raster.height ≤ 0 ∨ raster.bytesPerLine ≤ 0 ∨
        raster.format.value > DirectPrintRasterFormat.nocaiMultiInk.value ∨
        Int32.ofNat raster.channelOrder.length ≤ 0 ∨
        Int32.ofNat raster.channelOrder.length > 16) := by
      have hsixteen : Int32.toInt 16 = 16 := rfl
      have hwidth := hraster.width_pos
      have hrows := hraster.height_pos
      have hline := hraster.line_pos
      have hpos := List.length_pos_iff.mpr hraster.order_ne_nil
      have hle := hraster.order_length
      have hformat : ¬ raster.format.value > DirectPrintRasterFormat.nocaiMultiInk.value :=
        UInt8.not_lt.mpr hraster.format
      simp only [ne_eq, not_true_eq_false, false_or, hformat, gt_iff_lt, Int32.lt_iff_toInt_lt,
        Int32.le_iff_toInt_le, Int32.toInt_zero, hsixteen, hcount]
      omega
    have hspool : workerJobMagic ≠ workerSpoolMagic := by decide
    have hchannels := get_channels_written hraster.channels
    have hlength : (Int32.ofNat raster.channelOrder.length).toInt.toNat =
        raster.channelOrder.length := by omega
    have hwords : ∀ tail, getCanonicalHeader (raster.canonicalHeader.toList.flatMap putUInt32 ++
        tail) = some (raster.canonicalHeader, tail) :=
      fun tail ↦ get_canonical_header_eq_some.mpr rfl
    have hlines := get_lines_written hstored (List.replicate
      (maximumChannel raster.channelOrder + 1).toNat
      (List.replicate raster.height.toInt.toNat [])) []
    rw [List.append_nil] at hlines
    simp only [List.append_assoc]
    rw [readSerializedJob, getWorkerJob, bind_read (get_uint32_put _ _),
      bind_read (get_uint32_put _ _), bind_read (hstrings _ _ _ hput), if_neg hspool, getPackedJob,
      bind_read (get_int32_put _ _), bind_read (get_int32_put _ _), bind_read (get_int32_put _ _),
      bind_read (get_int32_put _ _), bind_read (get_int32_put _ _), bind_read (get_uint8_put _ _),
      bind_read (hwords _), bind_read (get_int32_put _ _), if_neg hheader, hlength,
      bind_read (hchannels _), bind_read (hread _), bind_read hlines]
    rfl
  · intro channel hchannel row hrow
    obtain ⟨-, bytes, hbytes, -⟩ := hstored (row, channel) (mem_line_order.mpr ⟨hrow, hchannel⟩)
    rw [rasterLine, rasterLine, hplanes, Option.bind_some, Option.bind_some,
      find_restored (fun channel hchannel ↦ (hraster.channels channel hchannel).1) hchannel hrow,
      lineAt, hbytes, Option.getD_some]

/-- A spool descriptor reaches the worker with its paths and settings. -/
theorem spool_descriptor_read_back (hdoubles : doubles.RoundTrips) (hstrings : strings.RoundTrips)
    {sdkRoot spoolPath cancelPath : String} {settings : DirectPrintSettings} {file : Bytes}
    (hspool : spoolPath ≠ "")
    (hfile : spoolDescriptor doubles strings sdkRoot spoolPath cancelPath settings = some file) :
    readSerializedJob doubles strings file =
      .ok (.spooled sdkRoot spoolPath cancelPath settings) := by
  obtain ⟨root, hroot, hfile⟩ := Option.bind_eq_some_iff.mp hfile
  obtain ⟨spool, hpath, hfile⟩ := Option.bind_eq_some_iff.mp hfile
  obtain ⟨cancel, hcancel, hfile⟩ := Option.bind_eq_some_iff.mp hfile
  obtain ⟨settingsBlock, hsettings, hfile⟩ := Option.bind_eq_some_iff.mp hfile
  obtain rfl := Option.some.inj hfile
  have hheight : doubles.put settings.mediaHeightMm ≠ none := by
    intro hnone
    rw [writeWorkerSettings, hnone] at hsettings
    exact absurd hsettings (by simp)
  obtain ⟨bytes, hwrite, -, hread⟩ := settings_read_back hdoubles hheight
  obtain rfl := Option.some.inj (hsettings.symm.trans hwrite)
  have hread := hread []
  rw [List.append_nil] at hread
  have htwo : workerSpoolVersion ≥ 2 := by decide
  have hversion : ¬ (workerSpoolVersion < 1 ∨ workerSpoolVersion > workerSpoolVersion ∨
      spoolPath = "") := by
    intro hbad
    rcases hbad with hold | hnew | hempty
    · exact absurd hold (by decide)
    · exact absurd hnew (by decide)
    · exact hspool hempty
  simp only [List.append_assoc]
  rw [readSerializedJob, getWorkerJob, bind_read (get_uint32_put _ _),
    bind_read (get_uint32_put _ _), bind_read (hstrings _ _ _ hroot), if_pos rfl,
    getSpoolDescriptor, bind_read (hstrings _ _ _ hpath), if_pos htwo,
    bind_read (hstrings _ _ _ hcancel)]
  dsimp only
  rw [if_neg hversion, bind_read hread]
  rfl

/-- Jobs survive their encodings: the settings in a map and in both streams of the worker, the
metadata of a finalized spool, a raster in a request, and a raster in the file of the worker. -/
theorem job_codecs_round_trip {V : Type} [QVariantApi V] [QVariantOf V] [LawfulQVariant V]
    (doubles : Codec Double) (strings : Codec String) (hdoubles : doubles.RoundTrips)
    (hstrings : strings.RoundTrips) :
    (∀ settings : DirectPrintSettings,
      settingsFromMap (settingsToMap settings : QVariantMap V) = settings ∧
      (doubles.put settings.mediaHeightMm ≠ none →
        ∃ written inline,
          writeWorkerSettings doubles settings = some written ∧
          inlineSettings doubles settings = some inline ∧
          ∀ rest, readWorkerSettings doubles (written ++ rest) = some (settings, rest) ∧
            readWorkerSettings doubles (inline ++ rest) = some (settings, rest))) ∧
    (∀ (sha256 : Sha256) (files : FileStore.Store String) (ops : List Writer.Op)
        (io : FinalizeIo) (finished : State) (spool : DirectPrintSpool),
      Writer.finalize sha256 (Writer.run sha256 files ops) io = (finished, .ok spool) →
      spool.format.IsEnumerator →
      spoolMetadataFromMap (spoolMetadata spool : QVariantMap V) =
        .ok { spool with path := "" }) ∧
    (∀ (raster : DirectPrintRaster) (payload : Bytes),
      serializeRaster raster = .ok payload → raster.format.IsEnumerator →
      (∀ channel ∈ raster.channelOrder, 0 ≤ channel.toInt ∧ channel.toInt ≤ 15) →
      ∃ storage,
        deserializeRaster (rasterMetadata raster : QVariantMap V) payload =
          .accepted { raster with packedLines := some storage } ∧
        (∀ channel ∈ raster.channelOrder, ∀ row < raster.height.toInt.toNat,
          rasterLine { raster with packedLines := some storage } channel row =
            rasterLine raster channel row) ∧
        serializeRaster { raster with packedLines := some storage } = .ok payload) ∧
    (∀ (sdkRoot : String) (raster : DirectPrintRaster) (settings : DirectPrintSettings),
      ValidRaster raster → sdkRoot ≠ "" → strings.put sdkRoot ≠ none →
      doubles.put settings.mediaHeightMm ≠ none →
      ∃ file storage,
        serializedJob doubles strings sdkRoot raster settings = .ok file ∧
        readSerializedJob doubles strings file =
          .ok (.packed sdkRoot { raster with packedLines := some storage } settings) ∧
        ∀ channel ∈ raster.channelOrder, ∀ row < raster.height.toInt.toNat,
          rasterLine { raster with packedLines := some storage } channel row =
            rasterLine raster channel row) := by
  refine ⟨?_, ?_, ?_, ?_⟩
  · intro settings
    refine ⟨settings_from_map_to_map settings, fun hheight ↦ ?_⟩
    obtain ⟨bytes, hwrite, hinline, hread⟩ := settings_read_back hdoubles hheight
    exact ⟨bytes, bytes, hwrite, hinline, fun rest ↦ ⟨hread rest, hread rest⟩⟩
  · intro sha256 files ops io finished spool hfinalize hformat
    exact spool_metadata_from_map (finalized_spool_complete hfinalize hformat)
  · intro raster payload hserialize hformat hchannels
    exact deserialize_serialized hserialize hformat hchannels
  · intro sdkRoot raster settings hraster hroot hput hheight
    exact worker_job_read_back hdoubles hstrings hraster hroot hput hheight

/-- The operators of `double` on `-1`. -/
def minusOne : Codec Double where
  put value := if value = .finite (-1) then some (putUInt64 0xbff0000000000000) else none
  get := do
    let bits ← getUInt64
    if bits = 0xbff0000000000000 then return .finite (-1) else failure

/-- The operators of `QString` on "/sdk". -/
def sdkFolder : Codec String where
  put value :=
    if value = "/sdk" then some (putByteArray (some [0, 47, 0, 115, 0, 100, 0, 107])) else none
  get := do
    let text ← getByteArray
    if text = some [0, 47, 0, 115, 0, 100, 0, 107] then return "/sdk" else failure

theorem minus_one_round_trips : minusOne.RoundTrips := by
  intro value bytes rest hput
  dsimp only [minusOne] at hput ⊢
  split_ifs at hput with hvalue
  obtain rfl := Option.some.inj hput
  rw [hvalue, bind_read (get_uint64_eq_some.mpr rfl)]
  rfl

theorem sdk_folder_round_trips : sdkFolder.RoundTrips := by
  intro value bytes rest hput
  have hfits : FitsByteArray (some [0, 47, 0, 115, 0, 100, 0, 107]) := by
    intro other hother
    rw [← Option.some.inj hother]
    decide
  dsimp only [sdkFolder] at hput ⊢
  split_ifs at hput with hvalue
  obtain rfl := Option.some.inj hput
  rw [hvalue, bind_read (get_byte_array_eq_some.mpr ⟨hfits, rfl⟩)]
  rfl

/-- A line of four dots, printed twice. -/
def twiceOneLine : DirectPrintRaster where
  packedLines := some [[[0x1b, 0, 0, 0]]]
  channelOrder := [0, 0]
  width := 4
  height := 1
  xdpi := 720
  ydpi := 600
  bytesPerLine := 4

theorem twice_one_line_valid : ValidRaster twiceOneLine := by
  refine ⟨by decide, by decide, by decide, by decide, by decide, by decide, ?_, _, rfl, ?_⟩
  · intro channel hchannel
    have hzero : channel = 0 := by simpa [twiceOneLine] using hchannel
    rw [hzero]
    decide
  · intro ⟨row, channel⟩ hline
    obtain ⟨hrow, hchannel⟩ := mem_line_order.mp hline
    have hzero : channel = 0 := by simpa [twiceOneLine] using hchannel
    have hfirst : row = 0 := Nat.lt_one_iff.mp hrow
    subst hzero hfirst
    exact ⟨by decide, [0x1b, 0, 0, 0], rfl, rfl⟩

/-- The default settings, a finalized spool and a raster whose order repeats a channel. -/
theorem job_codecs_round_trip_one_line :
    settingsFromMap (settingsToMap {} : QVariantMap Variant) = {} ∧
    (∃ written, writeWorkerSettings minusOne {} = some written ∧
      readWorkerSettings minusOne (written ++ []) = some ({}, [])) ∧
    (∃ finished spool,
      Writer.finalize zeroDigest (Writer.run zeroDigest (fun _ ↦ none) oneLineOps) {} =
        (finished, .ok spool) ∧
      spoolMetadataFromMap (spoolMetadata spool : QVariantMap Variant) =
        .ok { spool with path := "" }) ∧
    (∃ storage,
      deserializeRaster (rasterMetadata twiceOneLine : QVariantMap Variant)
          [0x1b, 0, 0, 0, 0x1b, 0, 0, 0] =
        .accepted { twiceOneLine with packedLines := some storage } ∧
      serializeRaster { twiceOneLine with packedLines := some storage } =
        .ok [0x1b, 0, 0, 0, 0x1b, 0, 0, 0]) ∧
    ∃ file storage,
      serializedJob minusOne sdkFolder "/sdk" twiceOneLine {} = .ok file ∧
      readSerializedJob minusOne sdkFolder file =
        .ok (.packed "/sdk" { twiceOneLine with packedLines := some storage } {}) := by
  obtain ⟨hsettings, hspool, hraster, hjob⟩ :=
    job_codecs_round_trip (V := Variant) minusOne sdkFolder minus_one_round_trips
      sdk_folder_round_trips
  have hheight : minusOne.put ({} : DirectPrintSettings).mediaHeightMm ≠ none := by
    exact (Option.some_ne_none _ : some (putUInt64 0xbff0000000000000) ≠ none)
  have hroot : sdkFolder.put "/sdk" ≠ none := by
    exact (Option.some_ne_none _ :
      some (putByteArray (some [0, 47, 0, 115, 0, 100, 0, 107])) ≠ none)
  have hvalid := twice_one_line_valid
  obtain ⟨hmap, hstreams⟩ := hsettings {}
  obtain ⟨written, inline, hwritten, -, hread⟩ := hstreams hheight
  obtain ⟨spool, -, finished, hfinalize, hformat, -⟩ :=
    @one_line_published {} ⟨rfl, fun _ ↦ rfl, fun _ ↦ rfl⟩
  obtain ⟨storage, haccepted, -, hagain⟩ :=
    hraster twiceOneLine [0x1b, 0, 0, 0, 0x1b, 0, 0, 0] (by decide +kernel) hvalid.format
      hvalid.channels
  obtain ⟨file, planes, hfile, hworker, -⟩ :=
    hjob "/sdk" twiceOneLine {} hvalid (by decide) hroot hheight
  refine ⟨hmap, ⟨written, hwritten, (hread []).1⟩, ⟨finished, spool, hfinalize, ?_⟩,
    ⟨storage, haccepted, hagain⟩, file, planes, hfile, hworker⟩
  refine hspool _ _ _ _ _ _ hfinalize ?_
  rw [hformat]
  decide

end PrintFlow.NocaiDirectPrintClient
