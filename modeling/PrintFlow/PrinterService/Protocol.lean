import PrintFlow.Core.PrintOutput

/-!
# The printer-service protocol

Print settings, spool metadata and rasters travel as maps of variants; the plane-lines of a raster
travel as one payload. `deserializeRaster` slices that payload by sizes the peer chose. Its size
check multiplies them in 64 bits, so it accepts a payload of the right size only when the product
does not wrap: `raster_size_bounds_iff` says exactly when that is.
-/

namespace PrintFlow.PrinterServiceProtocol

/-- 512 MiB. -/
def maximumFrameSize : UInt32 := 512 * 1024 * 1024

/-- `checkedRasterSize`. -/
def checkedRasterSize (height channelCount bytesPerLine : Int32) : Option Nat :=
  if height ≤ 0 ∨ channelCount ≤ 0 ∨ bytesPerLine ≤ 0 then none
  else
    let total := quint64 height * quint64 channelCount * quint64 bytesPerLine
    if total > maximumFrameSize.toUInt64 ∨ total > 0x7fffffffffffffff then none
    else some total.toNat

variable {V : Type} [QVariantApi V]

/-- `settingsFromMap`: a missing key keeps the default. -/
def settingsFromMap (map : QVariantMap V) : DirectPrintSettings :=
  let value : DirectPrintSettings := {}
  { printerIndex := map.int "printerIndex" value.printerIndex
    printDirection := map.int "printDirection" value.printDirection
    printSpeed := map.int "printSpeed" value.printSpeed
    wcSequence := map.int "wcSequence" value.wcSequence
    eclosionGrade := map.int "eclosionGrade" value.eclosionGrade
    headSelect := map.int "headSelect" value.headSelect
    whiteInkPercent := map.int "whiteInkPercent" value.whiteInkPercent
    whiteInkPassCount := map.int "whiteInkPassCount" value.whiteInkPassCount
    varnishInkPercent := map.int "varnishInkPercent" value.varnishInkPercent
    varnishInkPassCount := map.int "varnishInkPassCount" value.varnishInkPassCount
    headVoltage := map.int "headVoltage" value.headVoltage
    disableUv0 := map.int "disableUv0" value.disableUv0
    disableUv1 := map.int "disableUv1" value.disableUv1
    disableUv2 := map.int "disableUv2" value.disableUv2
    disableUv3 := map.int "disableUv3" value.disableUv3
    disableUv4 := map.int "disableUv4" value.disableUv4
    disableUv5 := map.int "disableUv5" value.disableUv5
    carReset := map.int "carReset" value.carReset
    stripBlank := map.int "stripBlank" value.stripBlank
    blankDistance := map.int "blankDistance" value.blankDistance
    printOffsetXmm := map.int "printOffsetXmm" value.printOffsetXmm
    printOffsetYmm := map.int "printOffsetYmm" value.printOffsetYmm
    pass := map.int "pass" value.pass
    vsdMode := map.int "vsdMode" value.vsdMode
    mediaHeightMm := map.double "mediaHeightMm" value.mediaHeightMm }

/-- The check of a stored format: `none` outside the enumeration. -/
def rasterFormat (format : Int32) : Option DirectPrintRasterFormat :=
  if format < 0 ∨ format > 2 then none else some ⟨format.toInt.toNat.toUInt8⟩

/-- The twelve words of a canonical header: `none` for any other number of values. -/
def canonicalHeader (header : List V) : Option CanonicalHeader :=
  if h : header.length = 12 then
    some ⟨(header.map QVariantApi.toUInt).toArray, by simpa using h⟩
  else none

/-- `spoolMetadataFromMap`. -/
def spoolMetadataFromMap (map : QVariantMap V) : Except String DirectPrintSpool :=
  match rasterFormat (map.int "format" 0) with
  | none => .error "Raster spool format is invalid."
  | some format =>
    match canonicalHeader (map.list "canonicalHeader") with
    | none => .error "Raster spool canonical header is invalid."
    | some header =>
      let value : DirectPrintSpool :=
        { width := map.int "width" 0
          height := map.int "height" 0
          xdpi := map.int "xdpi" 0
          ydpi := map.int "ydpi" 0
          bytesPerLine := map.int "bytesPerLine" 0
          logicalChannelCount := map.int "logicalChannelCount" 0
          bodyOffset := map.uint64 "bodyOffset"
          bodyBytes := map.uint64 "bodyBytes"
          sha256 := map.byteArray "sha256"
          format := format
          channelOrder := (map.list "channels").map QVariantApi.toInt
          canonicalHeader := header }
      if value.sha256.length ≠ 32 ∨ value.bodyOffset = 0 ∨ value.bodyBytes = 0 ∨
          value.channelOrder = [] then
        .error "Raster spool metadata is incomplete."
      else if ∃ channel ∈ value.channelOrder,
          channel < 0 ∨ channel ≥ value.logicalChannelCount then
        .error "Raster spool channel order is invalid."
      else .ok value

/-- The plane-lines of a payload in the order they are sent: row by row, in channel order. -/
def lineOrder (height : Int32) (channelOrder : List Int32) : List (Nat × Int32) :=
  (List.range height.toInt.toNat).flatMap fun row ↦ channelOrder.map fun channel ↦ (row, channel)

/-- The loop of `serializeRaster`. -/
def appendLines (lines : List (List Bytes)) (bytesPerLine : Int32) :
    List (Nat × Int32) → Bytes → Except String Bytes
  | [], payload => .ok payload
  | (row, channel) :: rest, payload =>
    match (if channel < 0 then none else lines[channel.toInt.toNat]?).bind (·[row]?) with
    | none => .error "Direct-print raster channel or row is missing."
    | some line =>
      if (line.length : Int) ≠ bytesPerLine.toInt then
        .error "Direct-print raster plane-line size is invalid."
      else appendLines lines bytesPerLine rest (payload ++ line)

/-- `serializeRaster`. The last comparison fails without a message. -/
def serializeRaster (raster : DirectPrintRaster) : Except String Bytes :=
  match raster.packedLines with
  | none => .error "Direct-print raster storage is unavailable."
  | some lines =>
    match checkedRasterSize raster.height (Int32.ofNat raster.channelOrder.length)
        raster.bytesPerLine with
    | none => .error "Direct-print raster dimensions are invalid or too large."
    | some totalSize =>
      match appendLines lines raster.bytesPerLine (lineOrder raster.height raster.channelOrder)
          [] with
      | .error message => .error message
      | .ok payload => if payload.length = totalSize then .ok payload else .error ""

/-- How `deserializeRaster` ends: with an error, with a slice that reaches past the payload, or
with a raster. -/
inductive Deserialized where
  | rejected (message : String)
  | outOfBounds (offset : Nat)
  | accepted (raster : DirectPrintRaster)
  deriving DecidableEq

/-- The loop of `deserializeRaster`: the storage, or the offset of a slice past the payload. -/
def sliceLines (payload : Bytes) (bytesPerLine : Nat) :
    List (Nat × Int32) → Nat → List (List Bytes) → Except Nat (List (List Bytes))
  | [], _, storage => .ok storage
  | (row, channel) :: rest, offset, storage =>
    if payload.length < offset + bytesPerLine then .error offset
    else
      sliceLines payload bytesPerLine rest (offset + bytesPerLine)
        (storage.modify channel.toInt.toNat fun rows ↦
          rows.set row ((payload.drop offset).take bytesPerLine))

/-- The largest channel of an order, `-1` when it is empty. -/
def maximumChannel (channelOrder : List Int32) : Int :=
  channelOrder.foldl (fun maximum channel ↦ max maximum channel.toInt) (-1)

/-- `deserializeRaster`. -/
def deserializeRaster (metadata : QVariantMap V) (payload : Bytes) : Deserialized :=
  let height := metadata.int "height" 0
  let bytesPerLine := metadata.int "bytesPerLine" 0
  match rasterFormat (metadata.int "format" 0) with
  | none => .rejected "Direct-print raster format is invalid."
  | some format =>
    let channelOrder := (metadata.list "channels").map QVariantApi.toInt
    if ∃ channel ∈ channelOrder, channel < 0 ∨ channel > 15 then
      .rejected "Direct-print channel index is invalid."
    else if checkedRasterSize height (Int32.ofNat channelOrder.length) bytesPerLine ≠
        some payload.length then
      .rejected "Direct-print raster payload length is invalid."
    else
      match canonicalHeader (metadata.list "canonicalHeader") with
      | none => .rejected "Direct-print canonical header is invalid."
      | some header =>
        -- The length has been checked, but with a computation that can wrap.
        match sliceLines payload bytesPerLine.toInt.toNat (lineOrder height channelOrder) 0
            (List.replicate (maximumChannel channelOrder + 1).toNat
              (List.replicate height.toInt.toNat [])) with
        | .error offset => .outOfBounds offset
        | .ok storage =>
          .accepted
            { packedLines := some storage
              channelOrder := channelOrder
              width := metadata.int "width" 0
              height := height
              xdpi := metadata.int "xdpi" 0
              ydpi := metadata.int "ydpi" 0
              bytesPerLine := bytesPerLine
              format := format
              canonicalHeader := header }

/-! ## The size check -/

/-- The size check accepts positive factors whose product, modulo `2 ^ 64`, is at most the maximal
frame size. -/
theorem checked_raster_size_eq_some {height channelCount bytesPerLine : Int32} {size : Nat} :
    checkedRasterSize height channelCount bytesPerLine = some size ↔
      0 < height.toInt ∧ 0 < channelCount.toInt ∧ 0 < bytesPerLine.toInt ∧
      height.toInt.toNat * channelCount.toInt.toNat * bytesPerLine.toInt.toNat % 2 ^ 64 = size ∧
      size ≤ maximumFrameSize.toNat := by
  have hmax : maximumFrameSize.toUInt64.toNat = maximumFrameSize.toNat := rfl
  have hqsize : (0x7fffffffffffffff : UInt64).toNat = 2 ^ 63 - 1 := rfl
  have hframe : maximumFrameSize.toNat ≤ 2 ^ 63 - 1 := by decide
  unfold checkedRasterSize
  by_cases hpos : height ≤ 0 ∨ channelCount ≤ 0 ∨ bytesPerLine ≤ 0
  · rw [if_pos hpos]
    simp only [Int32.le_iff_toInt_le, Int32.toInt_zero] at hpos
    refine iff_of_false (by simp) ?_
    intro ⟨hheight, hchannels, hline, _⟩
    omega
  · rw [if_neg hpos]
    simp only [not_or, Int32.le_iff_toInt_le, Int32.toInt_zero, not_le] at hpos
    obtain ⟨hheight, hchannels, hline⟩ := hpos
    have htotal : (quint64 height * quint64 channelCount * quint64 bytesPerLine).toNat =
        height.toInt.toNat * channelCount.toInt.toNat * bytesPerLine.toInt.toNat % 2 ^ 64 := by
      rw [UInt64.toNat_mul, UInt64.toNat_mul, quint64_to_nat hheight.le,
        quint64_to_nat hchannels.le, quint64_to_nat hline.le, Nat.mod_mul_mod]
    simp only [gt_iff_lt, UInt64.lt_iff_toNat_lt, htotal, hmax, hqsize]
    split_ifs with hlarge
    · refine iff_of_false (by simp) ?_
      intro ⟨_, _, _, hsize, hle⟩
      omega
    · rw [Option.some.injEq]
      constructor
      · intro hsize
        exact ⟨hheight, hchannels, hline, hsize, by omega⟩
      · intro h
        exact h.2.2.2.1

/-- The factors of an accepted size, where the wrapped product is not the product: the product
reaches 64 bits, or the number of channels does not fit an `int`. -/
def SizeWraps (height : Int32) (channels : Nat) (bytesPerLine : Int32) (size : Nat) : Prop :=
  0 < height.toInt ∧ 0 < (Int32.ofNat channels).toInt ∧ 0 < bytesPerLine.toInt ∧
    height.toInt.toNat * (Int32.ofNat channels).toInt.toNat * bytesPerLine.toInt.toNat % 2 ^ 64 =
      size ∧
    size ≤ maximumFrameSize.toNat ∧
    height.toInt * channels * bytesPerLine.toInt ≠ size

/-- An accepted size is the product over unbounded integers unless it wraps. -/
theorem size_exact_iff {height bytesPerLine : Int32} {channels size : Nat} :
    (checkedRasterSize height (Int32.ofNat channels) bytesPerLine = some size →
      height.toInt * channels * bytesPerLine.toInt = size ∧ size ≤ maximumFrameSize.toNat) ↔
      ¬ SizeWraps height channels bytesPerLine size := by
  rw [checked_raster_size_eq_some, SizeWraps]
  constructor
  · intro h ⟨hheight, hchannels, hline, hsize, hle, hne⟩
    exact hne (h ⟨hheight, hchannels, hline, hsize, hle⟩).1
  · intro h ⟨hheight, hchannels, hline, hsize, hle⟩
    refine ⟨?_, hle⟩
    by_contra hne
    exact h ⟨hheight, hchannels, hline, hsize, hle, hne⟩

/-! ## Slicing a payload -/

theorem line_order_length (height : Int32) (channelOrder : List Int32) :
    (lineOrder height channelOrder).length = height.toInt.toNat * channelOrder.length := by
  simp [lineOrder, List.length_flatMap]

/-- From an offset inside the payload the slices stay inside exactly when they fit together. -/
theorem slice_lines_ok_iff {payload : Bytes} {bytesPerLine offset : Nat}
    (hoffset : offset ≤ payload.length) {order : List (Nat × Int32)}
    {storage : List (List Bytes)} :
    (∃ result, sliceLines payload bytesPerLine order offset storage = .ok result) ↔
      offset + order.length * bytesPerLine ≤ payload.length := by
  induction order generalizing offset storage with
  | nil => exact iff_of_true ⟨storage, rfl⟩ (by simpa using hoffset)
  | cons line order ih =>
      obtain ⟨row, channel⟩ := line
      simp only [sliceLines, List.length_cons, Nat.succ_mul]
      by_cases hslice : payload.length < offset + bytesPerLine
      · rw [if_pos hslice]
        refine iff_of_false (by simp) ?_
        have hnonneg : 0 ≤ order.length * bytesPerLine := Nat.zero_le _
        omega
      · rw [if_neg hslice, ih (by omega)]
        omega

/-- What the protocol promises of a payload: an accepted one has exactly the size its metadata asks
for, and no slice reaches past it. -/
def WithinPayload (metadata : QVariantMap V) (payload : Bytes) : Prop :=
  (∀ raster, deserializeRaster metadata payload = .accepted raster →
    (metadata.int "height" 0).toInt * (metadata.list "channels").length *
        (metadata.int "bytesPerLine" 0).toInt = payload.length ∧
      payload.length ≤ maximumFrameSize.toNat) ∧
  ∀ offset, deserializeRaster metadata payload ≠ .outOfBounds offset

/-- The checks of `deserializeRaster` other than the size check. -/
def OtherChecksPass (metadata : QVariantMap V) : Prop :=
  (rasterFormat (metadata.int "format" 0)).isSome ∧
    (∀ value ∈ metadata.list "channels",
      0 ≤ (QVariantApi.toInt value).toInt ∧ (QVariantApi.toInt value).toInt ≤ 15) ∧
    (metadata.list "canonicalHeader").length = 12

variable {metadata : QVariantMap V} {payload : Bytes}

/-- A payload that passes all checks is sliced. -/
theorem deserialize_raster_sliced (hchecks : OtherChecksPass metadata)
    (hsize : checkedRasterSize (metadata.int "height" 0)
      (Int32.ofNat (metadata.list "channels").length) (metadata.int "bytesPerLine" 0) =
        some payload.length) :
    ∃ (storage : List (List Bytes)) (raster : List (List Bytes) → DirectPrintRaster),
      deserializeRaster metadata payload =
        match sliceLines payload (metadata.int "bytesPerLine" 0).toInt.toNat
          (lineOrder (metadata.int "height" 0)
            ((metadata.list "channels").map QVariantApi.toInt)) 0 storage with
        | .error offset => .outOfBounds offset
        | .ok result => .accepted (raster result) := by
  obtain ⟨hformat, hchannels, hheader⟩ := hchecks
  obtain ⟨format, hformat⟩ := Option.isSome_iff_exists.mp hformat
  have h15 : Int32.toInt 15 = 15 := rfl
  have hrange : ¬ ∃ channel ∈ (metadata.list "channels").map QVariantApi.toInt,
      channel < 0 ∨ channel > 15 := by
    simp only [List.mem_map, not_exists, not_and, not_or, gt_iff_lt, Int32.lt_iff_toInt_lt,
      Int32.toInt_zero, h15, not_lt]
    intro channel ⟨value, hvalue, hchannel⟩
    rw [← hchannel]
    exact hchannels value hvalue
  simp only [deserializeRaster, hformat, if_neg hrange, List.length_map, hsize, ne_eq,
    not_true_eq_false, if_false, canonicalHeader, dif_pos hheader]
  exact ⟨_, _, rfl⟩

/-- A payload that fails a check is rejected. -/
theorem deserialize_raster_rejected
    (h : ¬ (OtherChecksPass metadata ∧ checkedRasterSize (metadata.int "height" 0)
      (Int32.ofNat (metadata.list "channels").length) (metadata.int "bytesPerLine" 0) =
        some payload.length)) :
    ∃ message, deserializeRaster metadata payload = .rejected message := by
  have h15 : Int32.toInt 15 = 15 := rfl
  simp only [deserializeRaster]
  split
  · exact ⟨_, rfl⟩
  · next format hformat =>
      split_ifs with hrange hsize
      · exact ⟨_, rfl⟩
      · exact ⟨_, rfl⟩
      · split
        · exact ⟨_, rfl⟩
        · next header hheader =>
            refine absurd ?_ h
            rw [List.length_map, not_not] at hsize
            refine ⟨⟨by rw [hformat]; rfl, ?_, ?_⟩, hsize⟩
            · intro value hvalue
              simp only [List.mem_map, not_exists, not_and, not_or, gt_iff_lt,
                Int32.lt_iff_toInt_lt, Int32.toInt_zero, h15, not_lt] at hrange
              exact hrange _ ⟨value, hvalue, rfl⟩
            · by_contra hlength
              rw [canonicalHeader, dif_neg hlength] at hheader
              exact absurd hheader (by simp)

/-- Lines that fit into a frame-sized payload of the checked size fill it. -/
theorem fitting_size_exact {height bytesPerLine : Int32} {channels size : Nat}
    (hsize : checkedRasterSize height (Int32.ofNat channels) bytesPerLine = some size)
    (hfits : height.toInt.toNat * channels * bytesPerLine.toInt.toNat ≤ size) :
    height.toInt.toNat * channels * bytesPerLine.toInt.toNat = size := by
  obtain ⟨hheight, hchannels, hline, hmod, hmax⟩ := checked_raster_size_eq_some.mp hsize
  have hframe : maximumFrameSize.toNat = 2 ^ 29 := rfl
  have hle : channels ≤ height.toInt.toNat * channels * bytesPerLine.toInt.toNat := by
    calc channels = 1 * channels * 1 := by omega
      _ ≤ height.toInt.toNat * channels * bytesPerLine.toInt.toNat :=
        Nat.mul_le_mul (Nat.mul_le_mul_right _ (by omega)) (by omega)
  have hcount : (Int32.ofNat channels).toInt.toNat = channels := by
    rw [Int32.toInt_ofNat_of_lt (by omega), Int.toNat_natCast]
  rw [hcount] at hmod
  rw [← hmod]
  exact (Nat.mod_eq_of_lt (by omega)).symm

/-- The promise holds of a payload unless all checks pass and the size wraps. -/
theorem within_payload_iff :
    WithinPayload metadata payload ↔
      ¬ (OtherChecksPass metadata ∧
        SizeWraps (metadata.int "height" 0) (metadata.list "channels").length
          (metadata.int "bytesPerLine" 0) payload.length) := by
  by_cases h : OtherChecksPass metadata ∧ checkedRasterSize (metadata.int "height" 0)
      (Int32.ofNat (metadata.list "channels").length) (metadata.int "bytesPerLine" 0) =
        some payload.length
  · obtain ⟨hchecks, hsize⟩ := h
    obtain ⟨hheight, -, hline, -, hmax⟩ := checked_raster_size_eq_some.mp hsize
    obtain ⟨storage, raster, hsliced⟩ := deserialize_raster_sliced hchecks hsize
    have hproduct : (metadata.int "height" 0).toInt * (metadata.list "channels").length *
        (metadata.int "bytesPerLine" 0).toInt =
        ((metadata.int "height" 0).toInt.toNat * (metadata.list "channels").length *
          (metadata.int "bytesPerLine" 0).toInt.toNat : ℕ) := by
      rw [Nat.cast_mul, Nat.cast_mul, Int.toNat_of_nonneg hheight.le, Int.toNat_of_nonneg hline.le]
    have hlength : (lineOrder (metadata.int "height" 0)
        ((metadata.list "channels").map QVariantApi.toInt)).length =
        (metadata.int "height" 0).toInt.toNat * (metadata.list "channels").length := by
      rw [line_order_length, List.length_map]
    by_cases hfits : (metadata.int "height" 0).toInt.toNat * (metadata.list "channels").length *
        (metadata.int "bytesPerLine" 0).toInt.toNat ≤ payload.length
    · -- the slices fit, so the payload is accepted and has the size of its lines
      have hexact := fitting_size_exact hsize hfits
      obtain ⟨result, hok⟩ : ∃ result, sliceLines payload _ _ 0 storage = .ok result :=
        (slice_lines_ok_iff (Nat.zero_le _)).mpr (by rw [Nat.zero_add, hlength]; exact hfits)
      rw [hok] at hsliced
      refine iff_of_true ⟨?_, ?_⟩ ?_
      · intro _ _
        exact ⟨by rw [hproduct, hexact], hmax⟩
      · intro offset hbounds
        rw [hsliced] at hbounds
        exact absurd hbounds (by simp)
      · intro ⟨_, _, _, _, _, _, hne⟩
        exact hne (by rw [hproduct, hexact])
    · -- some slice reaches past the payload, whose size is that of a wrapped product
      have herror : ¬ ∃ result, sliceLines payload _ _ 0 storage = .ok result := fun hok ↦
        hfits (by rw [← hlength]; simpa using (slice_lines_ok_iff (Nat.zero_le _)).mp hok)
      refine iff_of_false ?_ ?_
      · intro ⟨_, hbounds⟩
        cases hslices : sliceLines payload (metadata.int "bytesPerLine" 0).toInt.toNat
            (lineOrder (metadata.int "height" 0)
              ((metadata.list "channels").map QVariantApi.toInt)) 0 storage with
        | error offset =>
            rw [hslices] at hsliced
            exact hbounds offset hsliced
        | ok result => exact herror ⟨result, hslices⟩
      · rw [not_not]
        obtain ⟨hheight, hchannels, hline, hmod, hmax⟩ := checked_raster_size_eq_some.mp hsize
        refine ⟨hchecks, hheight, hchannels, hline, hmod, hmax, ?_⟩
        rw [hproduct]
        omega
  · obtain ⟨message, hrejected⟩ := deserialize_raster_rejected h
    refine iff_of_true ⟨?_, ?_⟩ ?_
    · intro raster haccepted
      rw [hrejected] at haccepted
      exact absurd haccepted (by simp)
    · intro offset hbounds
      rw [hrejected] at hbounds
      exact absurd hbounds (by simp)
    · intro ⟨hchecks, hheight, hchannels, hline, hsize, hle, _⟩
      exact h ⟨hchecks, checked_raster_size_eq_some.mpr ⟨hheight, hchannels, hline, hsize, hle⟩⟩

/-- What the size check promises `serializeRaster`: a size it accepts is the product over unbounded
integers. -/
def SizeCheckExact (raster : DirectPrintRaster) : Prop :=
  ∀ size,
    checkedRasterSize raster.height (Int32.ofNat raster.channelOrder.length) raster.bytesPerLine =
      some size →
    raster.height.toInt * raster.channelOrder.length * raster.bytesPerLine.toInt = size ∧
      size ≤ maximumFrameSize.toNat

/-- Slices stay inside the payload, and accepted sizes are exact, unless the size wraps. -/
theorem raster_size_bounds_iff :
    (∀ (metadata : QVariantMap V) (payload : Bytes), WithinPayload metadata payload ↔
      ¬ (OtherChecksPass metadata ∧
        SizeWraps (metadata.int "height" 0) (metadata.list "channels").length
          (metadata.int "bytesPerLine" 0) payload.length)) ∧
    ∀ raster : DirectPrintRaster, SizeCheckExact raster ↔
      ¬ ∃ size, SizeWraps raster.height raster.channelOrder.length raster.bytesPerLine size := by
  refine ⟨fun metadata payload ↦ within_payload_iff, fun raster ↦ ?_⟩
  rw [not_exists]
  exact forall_congr' fun size ↦ size_exact_iff

/-- `2 ^ 30` rows of sixteen lines of `2 ^ 30` bytes, whose size wraps to zero. -/
def wrappingMetadata : QVariantMap Variant :=
  variantMap
    [("width", .int 4), ("height", .int 0x40000000), ("xdpi", .int 720), ("ydpi", .int 600),
      ("bytesPerLine", .int 0x40000000), ("format", .int 1),
      ("channels", .list (List.replicate 16 (.int 0))),
      ("canonicalHeader", .list (List.replicate 12 (.ulonglong 0)))]

/-- An empty payload is sliced out of bounds. -/
theorem raster_size_wraps :
    ¬ WithinPayload wrappingMetadata [] ∧
      ¬ SizeCheckExact
        { channelOrder := List.replicate 16 0, height := 0x40000000, bytesPerLine := 0x40000000 } := by
  refine ⟨?_, ?_⟩
  · rw [within_payload_iff, not_not]
    refine ⟨⟨by decide, ?_, by decide⟩, by decide, by decide, by decide, by decide, by decide,
      by decide⟩
    intro value hvalue
    rw [List.eq_of_mem_replicate hvalue]
    decide
  · intro h
    have hsize : checkedRasterSize 0x40000000 16 0x40000000 = some 0 := by decide
    exact absurd (h 0 hsize).1 (by decide)

end PrintFlow.PrinterServiceProtocol
