import PrintFlow.Core.RasterSpool.Writer
import PrintFlow.Library.LineStore
import PrintFlow.PrinterService.Protocol

/-!
# Jobs of the printer service

The senders of the maps and payloads that `settingsFromMap`, `spoolMetadataFromMap` and
`deserializeRaster` read.
-/

namespace PrintFlow.PrinterServiceProtocol

open DataStream LineStore QVariantOf

variable {V : Type} [QVariantApi V] [QVariantOf V]

/-- `settingsToMap`. -/
def settingsToMap (settings : DirectPrintSettings) : QVariantMap V :=
  .ofEntries
    [("printerIndex", ofInt settings.printerIndex),
      ("printDirection", ofInt settings.printDirection),
      ("printSpeed", ofInt settings.printSpeed),
      ("wcSequence", ofInt settings.wcSequence),
      ("eclosionGrade", ofInt settings.eclosionGrade),
      ("headSelect", ofInt settings.headSelect),
      ("whiteInkPercent", ofInt settings.whiteInkPercent),
      ("whiteInkPassCount", ofInt settings.whiteInkPassCount),
      ("varnishInkPercent", ofInt settings.varnishInkPercent),
      ("varnishInkPassCount", ofInt settings.varnishInkPassCount),
      ("headVoltage", ofInt settings.headVoltage),
      ("disableUv0", ofInt settings.disableUv0),
      ("disableUv1", ofInt settings.disableUv1),
      ("disableUv2", ofInt settings.disableUv2),
      ("disableUv3", ofInt settings.disableUv3),
      ("disableUv4", ofInt settings.disableUv4),
      ("disableUv5", ofInt settings.disableUv5),
      ("carReset", ofInt settings.carReset),
      ("stripBlank", ofInt settings.stripBlank),
      ("blankDistance", ofInt settings.blankDistance),
      ("printOffsetXmm", ofInt settings.printOffsetXmm),
      ("printOffsetYmm", ofInt settings.printOffsetYmm),
      ("mediaHeightMm", ofDouble settings.mediaHeightMm),
      ("pass", ofInt settings.pass),
      ("vsdMode", ofInt settings.vsdMode)]

/-- A `QVariantList` of channels. -/
def channelList (channelOrder : List Int32) : List V := channelOrder.map ofInt

/-- A `QVariantList` of the words of a header. -/
def headerList (header : CanonicalHeader) : List V :=
  header.toList.map fun word ↦ ofULongLong word.toUInt64

/-- `rasterMetadata`. -/
def rasterMetadata (raster : DirectPrintRaster) : QVariantMap V :=
  .ofEntries
    [("width", ofInt raster.width),
      ("height", ofInt raster.height),
      ("xdpi", ofInt raster.xdpi),
      ("ydpi", ofInt raster.ydpi),
      ("bytesPerLine", ofInt raster.bytesPerLine),
      ("format", ofInt (Int32.ofNat raster.format.value.toNat)),
      ("channels", ofList (channelList raster.channelOrder)),
      ("canonicalHeader", ofList (headerList raster.canonicalHeader))]

/-- `spoolMetadata`. -/
def spoolMetadata (spool : DirectPrintSpool) : QVariantMap V :=
  .ofEntries
    [("width", ofInt spool.width),
      ("height", ofInt spool.height),
      ("xdpi", ofInt spool.xdpi),
      ("ydpi", ofInt spool.ydpi),
      ("bytesPerLine", ofInt spool.bytesPerLine),
      ("format", ofInt (Int32.ofNat spool.format.value.toNat)),
      ("logicalChannelCount", ofInt spool.logicalChannelCount),
      ("channels", ofList (channelList spool.channelOrder)),
      ("canonicalHeader", ofList (headerList spool.canonicalHeader)),
      ("bodyOffset", ofULongLong spool.bodyOffset),
      ("bodyBytes", ofULongLong spool.bodyBytes),
      ("sha256", ofByteArray spool.sha256)]

variable [LawfulQVariant V]

/-- Settings survive the map. -/
theorem settings_from_map_to_map (settings : DirectPrintSettings) :
    settingsFromMap (settingsToMap settings : QVariantMap V) = settings := by
  simp [settingsFromMap, settingsToMap, QVariantMap.ofEntries, QVariantMap.int, QVariantMap.double,
    List.lookup_cons]

/-! ## Spools -/

/-- An enumerator passes the check of a stored format. -/
theorem raster_format_enumerator {format : DirectPrintRasterFormat} (h : format.IsEnumerator) :
    rasterFormat (Int32.ofNat format.value.toNat) = some format := by
  have hle : format.value.toNat ≤ 2 := UInt8.le_iff_toNat_le.mp h
  have hword : (Int32.ofNat format.value.toNat).toInt = format.value.toNat :=
    Int32.toInt_ofNat_of_lt (by omega)
  have htwo : Int32.toInt 2 = 2 := rfl
  rw [rasterFormat, if_neg, hword, Int.toNat_natCast]
  · simp
  · simp only [gt_iff_lt, Int32.lt_iff_toInt_lt, hword, Int32.toInt_zero, htwo]
    omega

theorem channel_list_to_int (channelOrder : List Int32) :
    (channelList channelOrder : List V).map QVariantApi.toInt = channelOrder := by
  simp [channelList, Function.comp_def]

theorem header_list_to_header (header : CanonicalHeader) :
    canonicalHeader (headerList header : List V) = some header := by
  have hlength : (headerList header : List V).length = 12 := by simp [headerList]
  rw [canonicalHeader, dif_pos hlength]
  simp [headerList, Function.comp_def, Vector.toList]

/-- What `spoolMetadataFromMap` asks of the metadata of a spool. -/
structure SpoolComplete (spool : DirectPrintSpool) : Prop where
  format : spool.format.IsEnumerator
  sha256 : spool.sha256.length = 32
  offset : spool.bodyOffset ≠ 0
  body : spool.bodyBytes ≠ 0
  order : spool.channelOrder ≠ []
  channels : ∀ channel ∈ spool.channelOrder,
    0 ≤ channel.toInt ∧ channel.toInt < spool.logicalChannelCount.toInt

/-- The metadata of a complete spool survives the map; the path stays behind. -/
theorem spool_metadata_from_map {spool : DirectPrintSpool} (h : SpoolComplete spool) :
    spoolMetadataFromMap (spoolMetadata spool : QVariantMap V) = .ok { spool with path := "" } := by
  have hchannels : ¬ ∃ channel ∈ spool.channelOrder,
      channel < 0 ∨ channel ≥ spool.logicalChannelCount := by
    intro ⟨channel, hchannel, hrange⟩
    have hmem := h.channels channel hchannel
    simp only [ge_iff_le, Int32.lt_iff_toInt_lt, Int32.le_iff_toInt_le, Int32.toInt_zero] at hrange
    omega
  have hcomplete : ¬ (spool.sha256.length ≠ 32 ∨ spool.bodyOffset = 0 ∨ spool.bodyBytes = 0 ∨
      spool.channelOrder = []) := by
    simp only [not_or, not_not]
    exact ⟨h.sha256, h.offset, h.body, h.order⟩
  simp only [spoolMetadataFromMap, spoolMetadata, QVariantMap.ofEntries, QVariantMap.int,
    QVariantMap.list, QVariantMap.uint64, QVariantMap.byteArray, List.lookup_cons, String.reduceBEq,
    beq_self_eq_true, Option.elim_some, LawfulQVariant.to_int, LawfulQVariant.to_list,
    LawfulQVariant.to_ulonglong, LawfulQVariant.to_byte_array, raster_format_enumerator h.format,
    header_list_to_header, channel_list_to_int]
  rw [if_neg hcomplete, if_neg hchannels]

omit [LawfulQVariant V] in
/-- What `finalize` returns is complete. -/
theorem finalized_spool_complete {sha256 : RasterSpool.Sha256} {files : FileStore.Store String}
    {ops : List RasterSpool.Writer.Op} {io : RasterSpool.FinalizeIo}
    {finished : RasterSpool.State} {spool : DirectPrintSpool}
    (hfinalize : RasterSpool.Writer.finalize sha256 (RasterSpool.Writer.run sha256 files ops) io =
      (finished, .ok spool)) (hformat : spool.format.IsEnumerator) : SpoolComplete spool := by
  obtain ⟨content, hopen⟩ := RasterSpool.Writer.run_allocated sha256 files ops
    (RasterSpool.Writer.finalize_opened hfinalize)
  obtain ⟨-, -, rfl, -⟩ := RasterSpool.Writer.finalize_sound hopen hfinalize
  refine ⟨hformat, sha256.digest_length _, ?_, ?_, hopen.valid.order_ne_nil, hopen.valid.order_mem⟩
  · show (RasterSpool.Writer.run sha256 files ops).writer.metadata.bodyOffset ≠ 0
    rw [hopen.offset]
    decide
  · show (RasterSpool.Writer.run sha256 files ops).writer.metadata.bodyBytes ≠ 0
    have hpos := RasterSpool.Valid.expected_pos hopen.valid
    rw [← hopen.body] at hpos
    intro hzero
    rw [hzero, UInt64.toNat_zero] at hpos
    omega

/-! ## Rasters -/

/-- A line of planes, empty where there is none. -/
def lineAt (planes : List (List Bytes)) (channel row : Nat) : Bytes := (find planes channel row).getD []

/-- A plane-line of a raster. -/
def rasterLine (raster : DirectPrintRaster) (channel : Int32) (row : Nat) : Option Bytes :=
  raster.packedLines.bind fun lines ↦ find lines channel.toInt.toNat row

/-- Where a line of the order is stored. -/
def position (line : Nat × Int32) : Nat × Nat := (line.2.toInt.toNat, line.1)

/-- The planes hold a line of this size. -/
def LineStored (planes : List (List Bytes)) (bytesPerLine : Int32) (line : Nat × Int32) : Prop :=
  0 ≤ line.2.toInt ∧
    ∃ bytes, find planes line.2.toInt.toNat line.1 = some bytes ∧
      (bytes.length : Int) = bytesPerLine.toInt

/-- The payload of the lines of an order. -/
def orderPayload (planes : List (List Bytes)) (order : List (Nat × Int32)) : Bytes :=
  order.flatMap fun line ↦ lineAt planes line.2.toInt.toNat line.1

variable {planes : List (List Bytes)} {bytesPerLine : Int32} {order : List (Nat × Int32)}

/-- The lookup of `serializeRaster` finds the lines of channels that are not negative. -/
theorem line_lookup_eq (row : Nat) (channel : Int32) :
    (if channel < 0 then none else planes[channel.toInt.toNat]?).bind (·[row]?) =
      if channel < 0 then none else find planes channel.toInt.toNat row := by
  by_cases hnegative : channel < 0
  · rw [if_pos hnegative, if_pos hnegative, Option.bind_none]
  · rw [if_neg hnegative, if_neg hnegative, find]

/-- The loop of `serializeRaster` appends the lines of the order when all of them are stored. -/
theorem append_lines_ok_iff {payload result : Bytes} :
    appendLines planes bytesPerLine order payload = .ok result ↔
      (∀ line ∈ order, LineStored planes bytesPerLine line) ∧
        result = payload ++ orderPayload planes order := by
  -- The loop stops at the first line that is missing, is of a negative channel or has another
  -- length.
  induction order generalizing payload with
  | nil =>
      rw [appendLines, Except.ok.injEq, orderPayload, List.flatMap_nil, List.append_nil]
      exact ⟨fun h ↦ ⟨fun _ hline ↦ absurd hline List.not_mem_nil, h.symm⟩, fun h ↦ h.2.symm⟩
  | cons line order ih =>
      obtain ⟨row, channel⟩ := line
      rw [appendLines, line_lookup_eq, List.forall_mem_cons, LineStored]
      have hsign : channel < 0 ↔ channel.toInt < 0 := Int32.lt_iff_toInt_lt
      by_cases hnegative : channel < 0
      · rw [if_pos hnegative]
        refine iff_of_false (by simp) ?_
        intro ⟨⟨⟨hnonneg, _⟩, _⟩, _⟩
        exact absurd (hsign.mp hnegative) (not_lt.mpr hnonneg)
      · rw [if_neg hnegative]
        have hnonneg : 0 ≤ channel.toInt := not_lt.mp fun h ↦ hnegative (hsign.mpr h)
        cases hfind : find planes channel.toInt.toNat row with
        | none =>
            refine iff_of_false (by simp) ?_
            intro ⟨⟨⟨_, bytes, hbytes, _⟩, _⟩, _⟩
            exact absurd hbytes (by simp)
        | some bytes =>
            have hpayload : orderPayload planes ((row, channel) :: order) =
                bytes ++ orderPayload planes order := by
              rw [orderPayload, List.flatMap_cons, lineAt, hfind, Option.getD_some, orderPayload]
            dsimp only
            by_cases hlength : (bytes.length : Int) = bytesPerLine.toInt
            · rw [if_neg (not_not.mpr hlength), ih, hpayload, List.append_assoc]
              constructor
              · intro ⟨hstored, hresult⟩
                exact ⟨⟨⟨hnonneg, bytes, rfl, hlength⟩, hstored⟩, hresult⟩
              · intro ⟨⟨_, hstored⟩, hresult⟩
                exact ⟨hstored, hresult⟩
            · rw [if_pos hlength]
              refine iff_of_false (by simp) ?_
              intro ⟨⟨⟨_, other, hother, hsize⟩, _⟩, _⟩
              rw [Option.some.inj hother] at hlength
              exact hlength hsize

/-- Slicing the payload of an order stores its lines. -/
theorem slice_lines_payload (hstored : ∀ line ∈ order, LineStored planes bytesPerLine line)
    (before : Bytes) (storage : List (List Bytes)) :
    sliceLines (before ++ orderPayload planes order) bytesPerLine.toInt.toNat order before.length
        storage =
      .ok (storeAll (lineAt planes) storage (order.map position)) := by
  -- The payload read so far is `before`, so that the slice of a line starts at its length.
  induction order generalizing before storage with
  | nil => rfl
  | cons line order ih =>
      obtain ⟨row, channel⟩ := line
      obtain ⟨⟨-, bytes, hfind, hlength⟩, hrest⟩ := List.forall_mem_cons.mp hstored
      have hline : lineAt planes channel.toInt.toNat row = bytes := by
        rw [lineAt, hfind, Option.getD_some]
      have hpayload : before ++ orderPayload planes ((row, channel) :: order) =
          (before ++ bytes) ++ orderPayload planes order := by
        rw [orderPayload, List.flatMap_cons, hline, List.append_assoc, orderPayload]
      have hsize : bytesPerLine.toInt.toNat = bytes.length := by omega
      have hslice : ((before ++ bytes ++ orderPayload planes order).drop before.length).take
          bytesPerLine.toInt.toNat = bytes := by
        rw [List.append_assoc, List.drop_left' rfl, hsize, List.take_left' rfl]
      rw [sliceLines, hpayload, if_neg, hslice, hsize, ← List.length_append, ← hsize, ih hrest,
        List.map_cons, storeAll, storeAll, List.foldl_cons]
      · simp only [position, hline]
        rfl
      · simp only [List.length_append, hsize]
        omega

theorem mem_line_order {height channel : Int32} {channelOrder : List Int32} {row : Nat} :
    (row, channel) ∈ lineOrder height channelOrder ↔
      row < height.toInt.toNat ∧ channel ∈ channelOrder := by
  simp [lineOrder]

/-- No channel of an order is larger than its largest one. -/
theorem le_maximum_channel {channelOrder : List Int32} {channel : Int32}
    (h : channel ∈ channelOrder) : channel.toInt ≤ maximumChannel channelOrder := by
  have hfold : ∀ (channels : List Int32) (start : Int),
      start ≤ channels.foldl (fun maximum channel ↦ max maximum channel.toInt) start ∧
        ∀ channel ∈ channels,
          channel.toInt ≤ channels.foldl (fun maximum channel ↦ max maximum channel.toInt) start := by
    intro channels
    induction channels with
    | nil => exact fun start ↦ ⟨le_refl start, fun _ h ↦ absurd h List.not_mem_nil⟩
    | cons head tail ih =>
        intro start
        obtain ⟨hstart, htail⟩ := ih (max start head.toInt)
        refine ⟨le_trans (le_max_left _ _) hstart, List.forall_mem_cons.mpr ⟨?_, htail⟩⟩
        exact le_trans (le_max_right _ _) hstart
  exact (hfold channelOrder (-1)).2 channel h

/-- The planes a receiver builds from the lines of an order. -/
def restored (planes : List (List Bytes)) (height : Int32) (channelOrder : List Int32) :
    List (List Bytes) :=
  storeAll (lineAt planes)
    (List.replicate (maximumChannel channelOrder + 1).toNat
      (List.replicate height.toInt.toNat []))
    ((lineOrder height channelOrder).map position)

/-- The receiver's planes hold every line of the order. -/
theorem find_restored {height : Int32} {channelOrder : List Int32}
    (hchannels : ∀ channel ∈ channelOrder, 0 ≤ channel.toInt) {channel : Int32}
    (hchannel : channel ∈ channelOrder) {row : Nat} (hrow : row < height.toInt.toNat) :
    find (restored planes height channelOrder) channel.toInt.toNat row =
      some (lineAt planes channel.toInt.toNat row) := by
  have hpositions : ∀ place ∈ (lineOrder height channelOrder).map position,
      place.1 < (maximumChannel channelOrder + 1).toNat ∧ place.2 < height.toInt.toNat := by
    intro place hplace
    obtain ⟨⟨other, otherChannel⟩, hline, rfl⟩ := List.mem_map.mp hplace
    obtain ⟨hother, hmem⟩ := mem_line_order.mp hline
    have hle := le_maximum_channel hmem
    have hnonneg := hchannels otherChannel hmem
    show otherChannel.toInt.toNat < (maximumChannel channelOrder + 1).toNat ∧
      other < height.toInt.toNat
    omega
  have hplace : (channel.toInt.toNat, row) ∈ (lineOrder height channelOrder).map position :=
    List.mem_map.mpr ⟨(row, channel), mem_line_order.mpr ⟨hrow, hchannel⟩, rfl⟩
  rw [restored, find_store_all _ (replicate_shaped _ _ _) hpositions, if_pos hplace]

/-- `serializeRaster` accepts a raster whose lines are all stored and whose size passes the
check. -/
theorem serialize_raster_ok {raster : DirectPrintRaster} {payload : Bytes}
    (h : serializeRaster raster = .ok payload) :
    ∃ planes, raster.packedLines = some planes ∧
      checkedRasterSize raster.height (Int32.ofNat raster.channelOrder.length)
        raster.bytesPerLine = some payload.length ∧
      (∀ line ∈ lineOrder raster.height raster.channelOrder,
        LineStored planes raster.bytesPerLine line) ∧
      payload = orderPayload planes (lineOrder raster.height raster.channelOrder) := by
  unfold serializeRaster at h
  cases hplanes : raster.packedLines with
  | none =>
      rw [hplanes] at h
      exact absurd h (by simp)
  | some planes =>
      rw [hplanes] at h
      dsimp only at h
      cases hsize : checkedRasterSize raster.height (Int32.ofNat raster.channelOrder.length)
          raster.bytesPerLine with
      | none =>
          rw [hsize] at h
          exact absurd h (by simp)
      | some total =>
          rw [hsize] at h
          dsimp only at h
          cases hlines : appendLines planes raster.bytesPerLine
              (lineOrder raster.height raster.channelOrder) [] with
          | error message =>
              rw [hlines] at h
              exact absurd h (by simp)
          | ok result =>
              rw [hlines] at h
              dsimp only at h
              split_ifs at h with htotal
              obtain rfl := Except.ok.inj h
              obtain ⟨hstored, hpayload⟩ := append_lines_ok_iff.mp hlines
              exact ⟨planes, rfl, by rw [htotal], hstored, hpayload⟩

/-- A serialized raster reads back with the lines of its order, and serializes to the same payload
again. -/
theorem deserialize_serialized {raster : DirectPrintRaster} {payload : Bytes}
    (hserialize : serializeRaster raster = .ok payload) (hformat : raster.format.IsEnumerator)
    (hchannels : ∀ channel ∈ raster.channelOrder, 0 ≤ channel.toInt ∧ channel.toInt ≤ 15) :
    ∃ storage,
      deserializeRaster (rasterMetadata raster : QVariantMap V) payload =
        .accepted { raster with packedLines := some storage } ∧
      (∀ channel ∈ raster.channelOrder, ∀ row < raster.height.toInt.toNat,
        rasterLine { raster with packedLines := some storage } channel row =
          rasterLine raster channel row) ∧
      serializeRaster { raster with packedLines := some storage } = .ok payload := by
  obtain ⟨planes, hplanes, hsize, hstored, hpayload⟩ := serialize_raster_ok hserialize
  have hnonneg : ∀ channel ∈ raster.channelOrder, 0 ≤ channel.toInt :=
    fun channel hchannel ↦ (hchannels channel hchannel).1
  have hsame : ∀ channel ∈ raster.channelOrder, ∀ row < raster.height.toInt.toNat,
      find (restored planes raster.height raster.channelOrder) channel.toInt.toNat row =
        find planes channel.toInt.toNat row := by
    intro channel hchannel row hrow
    obtain ⟨-, bytes, hbytes, -⟩ :=
      hstored (row, channel) (mem_line_order.mpr ⟨hrow, hchannel⟩)
    rw [find_restored hnonneg hchannel hrow, lineAt, hbytes, Option.getD_some]
  refine ⟨restored planes raster.height raster.channelOrder, ?_, ?_, ?_⟩
  · have hrange : ¬ ∃ channel ∈ raster.channelOrder, channel < 0 ∨ channel > 15 := by
      have hfifteen : Int32.toInt 15 = 15 := rfl
      rintro ⟨channel, hchannel, hout⟩
      have hmem := hchannels channel hchannel
      simp only [gt_iff_lt, Int32.lt_iff_toInt_lt, Int32.toInt_zero, hfifteen] at hout
      omega
    have hslices := slice_lines_payload hstored [] (List.replicate
      (maximumChannel raster.channelOrder + 1).toNat
      (List.replicate raster.height.toInt.toNat []))
    rw [List.nil_append, ← hpayload, List.length_nil] at hslices
    simp only [deserializeRaster, rasterMetadata, QVariantMap.ofEntries, QVariantMap.int,
      QVariantMap.list, List.lookup_cons, String.reduceBEq, beq_self_eq_true, Option.elim_some,
      LawfulQVariant.to_int, LawfulQVariant.to_list, raster_format_enumerator hformat,
      header_list_to_header, channel_list_to_int]
    rw [if_neg hrange, if_neg (not_not.mpr hsize), hslices]
    rfl
  · intro channel hchannel row hrow
    rw [rasterLine, rasterLine, hplanes, Option.bind_some, Option.bind_some]
    exact hsame channel hchannel row hrow
  · have hlines : appendLines (restored planes raster.height raster.channelOrder)
        raster.bytesPerLine (lineOrder raster.height raster.channelOrder) [] = .ok payload := by
      refine append_lines_ok_iff.mpr ⟨?_, ?_⟩
      · rintro ⟨row, channel⟩ hline
        obtain ⟨hrow, hchannel⟩ := mem_line_order.mp hline
        obtain ⟨hpositive, bytes, hbytes, hlength⟩ := hstored _ hline
        exact ⟨hpositive, bytes, (hsame channel hchannel row hrow).trans hbytes, hlength⟩
      · rw [hpayload, List.nil_append, orderPayload, orderPayload]
        refine (List.flatMap_congr ?_).symm
        rintro ⟨row, channel⟩ hline
        obtain ⟨hrow, hchannel⟩ := mem_line_order.mp hline
        rw [lineAt, lineAt, hsame channel hchannel row hrow]
    rw [serializeRaster]
    dsimp only
    rw [hsize]
    dsimp only
    rw [hlines]
    exact if_pos rfl

end PrintFlow.PrinterServiceProtocol
