import PrintFlow.Core.PrintOutput
import PrintFlow.Library.DataStream

/-!
# The spool header

A spool file starts with a header of fixed size: an encoded record of the metadata and the
checksum, followed by zero padding. `decodeHeader` rebuilds the metadata from the record and checks
it with `metadataIsValid`. `get_record_eq_some` is the one fact about the encoding that the rest of
the spool development uses: a record decodes only from its own bytes.
-/

namespace PrintFlow.RasterSpool

open DataStream

/-- "PFRS". -/
def magic : UInt32 := 0x50465253

def version : UInt16 := 1

/-- The size of the header in bytes. -/
def headerBytes : Nat := 4096

/-- The body size the metadata asks for; zero when there is none or it overflows 64 bits. -/
def expectedBodyBytes (spool : DirectPrintSpool) : UInt64 :=
  if spool.logicalChannelCount ≤ 0 ∨ spool.height ≤ 0 ∨ spool.bytesPerLine ≤ 0 then 0
  else
    let lines := quint64 spool.logicalChannelCount * quint64 spool.height
    if lines > 0xffffffffffffffff / quint64 spool.bytesPerLine then 0
    else lines * quint64 spool.bytesPerLine

/-- The checks on spool metadata, in the order of the source, with their messages. -/
def metadataIsValid (spool : DirectPrintSpool) : Except String Unit :=
  let expectedLineBytes := ((quint64 spool.width + 3) / 4 + 3) &&& ~~~(3 : UInt64)
  let logicalLines := quint64 spool.logicalChannelCount * quint64 spool.height
  let expected := expectedBodyBytes spool
  if spool.width ≤ 0 ∨ spool.height ≤ 0 ∨ spool.xdpi ≤ 0 ∨ spool.ydpi ≤ 0 ∨
      spool.bytesPerLine ≤ 0 ∨ spool.logicalChannelCount ≤ 0 ∨ spool.logicalChannelCount > 16 ∨
      spool.channelOrder = [] ∨ spool.channelOrder.length > 16 then
    .error "Raster spool dimensions or channel metadata are invalid."
  else if expectedLineBytes ≠ quint64 spool.bytesPerLine ∨ logicalLines > 2147483647 then
    .error "Raster spool 2-bpp line layout is invalid."
  else if ∃ channel ∈ spool.channelOrder, channel < 0 ∨ channel ≥ spool.logicalChannelCount then
    .error "Raster spool channel order is invalid."
  else if expected = 0 ∨ (spool.bodyBytes ≠ 0 ∧ spool.bodyBytes ≠ expected) then
    .error "Raster spool byte count is invalid."
  else .ok ()

/-! ## The encoded record -/

/-- The metadata fields that the header stores. -/
structure Record where
  width : Int32
  height : Int32
  xdpi : Int32
  ydpi : Int32
  bytesPerLine : Int32
  format : UInt8
  logicalChannelCount : Int32
  bodyBytes : UInt64
  checksum : Option Bytes
  canonicalHeader : CanonicalHeader
  channelOrder : List Int32
  deriving DecidableEq

/-- What `encodeHeader` stores of a spool and a checksum, where `none` is a null `QByteArray`. -/
def recordOf (spool : DirectPrintSpool) (checksum : Option Bytes) : Record where
  width := spool.width
  height := spool.height
  xdpi := spool.xdpi
  ydpi := spool.ydpi
  bytesPerLine := spool.bytesPerLine
  format := spool.format.value
  logicalChannelCount := spool.logicalChannelCount
  bodyBytes := spool.bodyBytes
  checksum := checksum
  canonicalHeader := spool.canonicalHeader
  channelOrder := spool.channelOrder

/-- The fields in stream order, before the padding. -/
def putRecord (record : Record) : Bytes :=
  putUInt32 magic ++ putUInt16 version ++ putUInt64 (UInt64.ofNat headerBytes) ++
    putInt32 record.width ++ putInt32 record.height ++
    putInt32 record.xdpi ++ putInt32 record.ydpi ++
    putInt32 record.bytesPerLine ++ putUInt8 record.format ++
    putInt32 record.logicalChannelCount ++ putUInt64 record.bodyBytes ++
    putByteArray record.checksum ++
    record.canonicalHeader.toList.flatMap putUInt32 ++
    putInt32 (Int32.ofNat record.channelOrder.length) ++
    record.channelOrder.flatMap putInt32

/-- `encodeHeader`. The empty array stands for a record that does not fit. -/
def encodeHeader (spool : DirectPrintSpool) (checksum : Option Bytes) : Bytes :=
  let header := putRecord (recordOf spool checksum)
  if header.length > headerBytes then []
  else header ++ List.replicate (headerBytes - header.length) 0

/-- Twelve `quint32` words. -/
def getCanonicalHeader : Get CanonicalHeader := do
  let words ← getList getUInt32 12
  if h : words.length = 12 then pure ⟨words.toArray, by simpa using h⟩ else failure

/-- The channel count and the channels. A count outside `1..16` reads no channels. -/
def getChannelOrder : Get (List Int32) := do
  let physicalChannels ← getInt32
  if physicalChannels > 0 ∧ physicalChannels ≤ 16 then
    getList getInt32 physicalChannels.toInt.toNat
  else pure []

/-- The fields that `decodeHeader` reads. -/
def getRecord : Get (UInt32 × UInt16 × UInt64 × Record) := do
  let magic ← getUInt32
  let version ← getUInt16
  let headerBytes ← getUInt64
  let width ← getInt32
  let height ← getInt32
  let xdpi ← getInt32
  let ydpi ← getInt32
  let bytesPerLine ← getInt32
  let format ← getUInt8
  let logicalChannelCount ← getInt32
  let bodyBytes ← getUInt64
  let checksum ← getByteArray
  let canonicalHeader ← getCanonicalHeader
  let channelOrder ← getChannelOrder
  pure (magic, version, headerBytes,
    { width, height, xdpi, ydpi, bytesPerLine, format, logicalChannelCount, bodyBytes, checksum,
      canonicalHeader, channelOrder })

/-- The spool a decoded record describes. -/
def spoolOf (path : String) (record : Record) : DirectPrintSpool where
  path := path
  channelOrder := record.channelOrder
  logicalChannelCount := record.logicalChannelCount
  width := record.width
  height := record.height
  xdpi := record.xdpi
  ydpi := record.ydpi
  bytesPerLine := record.bytesPerLine
  format := ⟨record.format⟩
  canonicalHeader := record.canonicalHeader
  bodyOffset := UInt64.ofNat headerBytes
  bodyBytes := record.bodyBytes
  sha256 := record.checksum.getD []

/-- `decodeHeader`. -/
def decodeHeader (header : Bytes) (path : String) : Except String DirectPrintSpool :=
  if header.length ≠ headerBytes then .error "Raster spool header is truncated."
  else
    match getRecord header with
    | none => .error "Raster spool header is invalid or unsupported."
    | some ((readMagic, readVersion, readHeaderBytes, record), _) =>
      if readMagic ≠ magic ∨ readVersion ≠ version ∨
          readHeaderBytes ≠ UInt64.ofNat headerBytes then
        .error "Raster spool header is invalid or unsupported."
      else
        match metadataIsValid (spoolOf path record) with
        | .error message => .error message
        | .ok () => .ok (spoolOf path record)

/-! ## A record decodes only from its own bytes -/

theorem get_canonical_header_eq_some {words : CanonicalHeader} {bytes rest : Bytes} :
    getCanonicalHeader bytes = some (words, rest) ↔
      bytes = words.toList.flatMap putUInt32 ++ rest := by
  simp only [getCanonicalHeader, bind_eq_some, get_list_eq_some get_uint32_eq_some]
  constructor
  · rintro ⟨list, middle, ⟨hlength, rfl⟩, h⟩
    rw [dif_pos hlength, pure_eq_some] at h
    obtain ⟨rfl, rfl⟩ := h
    rfl
  · rintro rfl
    have hlength : words.toList.length = 12 := by simp
    refine ⟨words.toList, rest, ⟨hlength, rfl⟩, ?_⟩
    rw [dif_pos hlength, pure_eq_some]
    exact ⟨by simp [Vector.toList], rfl⟩

/-- A nonempty channel order decodes only from its own bytes. -/
theorem get_channel_order_eq_some {order : List Int32} {bytes rest : Bytes} (hnil : order ≠ []) :
    getChannelOrder bytes = some (order, rest) ↔
      order.length ≤ 16 ∧
        bytes = putInt32 (Int32.ofNat order.length) ++ (order.flatMap putInt32 ++ rest) := by
  have h16 : Int32.toInt 16 = 16 := rfl
  simp only [getChannelOrder, bind_eq_some, get_int32_eq_some]
  constructor
  · rintro ⟨count, middle, rfl, h⟩
    split_ifs at h with hcount
    · obtain ⟨hlength, rfl⟩ := (get_list_eq_some get_int32_eq_some).mp h
      simp only [gt_iff_lt, Int32.lt_iff_toInt_lt, Int32.le_iff_toInt_le, Int32.toInt_zero, h16]
        at hcount
      have hword : Int32.ofNat order.length = count := by
        rw [← Int32.toInt_inj, Int32.toInt_ofNat_of_lt (by omega)]
        omega
      exact ⟨by omega, by rw [hword]⟩
    · exact absurd (pure_eq_some.mp h).1.symm hnil
  · rintro ⟨hlength, rfl⟩
    have hpos : 0 < order.length := List.length_pos_iff.mpr hnil
    have hword : (Int32.ofNat order.length).toInt = order.length :=
      Int32.toInt_ofNat_of_lt (by omega)
    refine ⟨Int32.ofNat order.length, _, rfl, ?_⟩
    rw [if_pos]
    · exact (get_list_eq_some get_int32_eq_some).mpr ⟨by omega, rfl⟩
    · simp only [gt_iff_lt, Int32.lt_iff_toInt_lt, Int32.le_iff_toInt_le, Int32.toInt_zero, h16]
      omega

/-- A record with channels decodes only from its own bytes. -/
theorem get_record_eq_some {record : Record} {bytes rest : Bytes}
    (hnil : record.channelOrder ≠ []) :
    getRecord bytes = some ((magic, version, UInt64.ofNat headerBytes, record), rest) ↔
      FitsByteArray record.checksum ∧ record.channelOrder.length ≤ 16 ∧
        bytes = putRecord record ++ rest := by
  simp only [getRecord, bind_eq_some, get_uint8_eq_some, get_uint16_eq_some, get_uint32_eq_some,
    get_uint64_eq_some, get_int32_eq_some, get_byte_array_eq_some, get_canonical_header_eq_some,
    pure_eq_some]
  constructor
  · rintro ⟨_, _, rfl, _, _, rfl, _, _, rfl, width, _, rfl, height, _, rfl, xdpi, _, rfl, ydpi, _,
      rfl, bytesPerLine, _, rfl, format, _, rfl, channels, _, rfl, bodyBytes, _, rfl, checksum, _,
      ⟨hfits, rfl⟩, words, _, rfl, order, _, horder, h, rfl⟩
    simp only [Prod.mk.injEq] at h
    obtain ⟨rfl, rfl, rfl, rfl⟩ := h
    obtain ⟨hlength, rfl⟩ := (get_channel_order_eq_some hnil).mp horder
    exact ⟨hfits, hlength, by simp only [putRecord, List.append_assoc]⟩
  · rintro ⟨hfits, hlength, rfl⟩
    simp only [putRecord, List.append_assoc]
    exact ⟨_, _, rfl, _, _, rfl, _, _, rfl, _, _, rfl, _, _, rfl, _, _, rfl, _, _, rfl, _, _, rfl,
      _, _, rfl, _, _, rfl, _, _, rfl, _, _, ⟨hfits, rfl⟩, _, _, rfl, _, _,
      (get_channel_order_eq_some hnil).mpr ⟨hlength, rfl⟩, rfl, rfl⟩

/-! ## What the checks mean -/

/-- Masking with all bits but the two low ones rounds down to a multiple of four. -/
theorem and_mask_eq {value : Nat} (h : value < 2 ^ 64) :
    value &&& ((2 ^ 62 - 1) <<< 2) = (value >>> 2) <<< 2 := by
  apply Nat.eq_of_testBit_eq
  intro i
  rw [Nat.testBit_and, Nat.testBit_shiftLeft, Nat.testBit_two_pow_sub_one, Nat.testBit_shiftLeft,
    Nat.testBit_shiftRight]
  by_cases hlow : 2 ≤ i
  · rw [show 2 + (i - 2) = i by omega]
    by_cases hhigh : i < 64
    · simp [hlow, show i - 2 < 62 by omega]
    · have hbit : value.testBit i = false :=
        Nat.testBit_lt_two_pow (Nat.lt_of_lt_of_le h (Nat.pow_le_pow_right (by omega) (by omega)))
      simp [hbit]
  · simp [hlow]

/-- `& ~3` on `quint64`. -/
theorem and_not_three (value : UInt64) :
    (value &&& ~~~(3 : UInt64)).toNat = value.toNat / 4 * 4 := by
  have h := and_mask_eq value.toNat_lt
  simp only [Nat.shiftLeft_eq, Nat.shiftRight_eq_div_pow] at h
  rw [UInt64.toNat_and]
  simpa using h

/-- The arithmetic content of `metadataIsValid`, over unbounded integers. -/
structure Valid (spool : DirectPrintSpool) : Prop where
  width_pos : 0 < spool.width.toInt
  height_pos : 0 < spool.height.toInt
  xdpi_pos : 0 < spool.xdpi.toInt
  ydpi_pos : 0 < spool.ydpi.toInt
  channels_pos : 0 < spool.logicalChannelCount.toInt
  channels_le : spool.logicalChannelCount.toInt ≤ 16
  line_pos : 0 < spool.bytesPerLine.toInt
  line_bytes : spool.bytesPerLine.toInt = ((spool.width.toInt + 3) / 4 + 3) / 4 * 4
  lines_le : spool.logicalChannelCount.toInt * spool.height.toInt ≤ 2147483647
  order_ne_nil : spool.channelOrder ≠ []
  order_length : spool.channelOrder.length ≤ 16
  order_mem : ∀ channel ∈ spool.channelOrder,
    0 ≤ channel.toInt ∧ channel.toInt < spool.logicalChannelCount.toInt
  body_bytes : spool.bodyBytes = 0 ∨ spool.bodyBytes = expectedBodyBytes spool

/-- The `quint64` line size is the rounded-up one: the additions cannot wrap. -/
theorem expected_line_bytes {width : Int32} (h : 0 < width.toInt) :
    (((quint64 width + 3) / 4 + 3) &&& ~~~(3 : UInt64)).toNat =
      ((width.toInt.toNat + 3) / 4 + 3) / 4 * 4 := by
  have hlt := width.toInt_lt
  have hwidth : (quint64 width).toNat = width.toInt.toNat := quint64_to_nat (by omega)
  have h3 : (3 : UInt64).toNat = 3 := rfl
  have h4 : (4 : UInt64).toNat = 4 := rfl
  have hsum : (width.toInt.toNat + 3) % 2 ^ 64 = width.toInt.toNat + 3 :=
    Nat.mod_eq_of_lt (by omega)
  rw [and_not_three, UInt64.toNat_add, UInt64.toNat_div, UInt64.toNat_add, hwidth, h3, h4, hsum,
    Nat.mod_eq_of_lt (by omega)]

/-- A product of two `int` counts as a `quint64` does not wrap. -/
theorem quint64_mul {a b : Int32} (ha : 0 ≤ a.toInt) (hb : 0 ≤ b.toInt) :
    (quint64 a * quint64 b).toNat = a.toInt.toNat * b.toInt.toNat := by
  have hprod : a.toInt.toNat * b.toInt.toNat < 2 ^ 31 * 2 ^ 31 :=
    Nat.mul_lt_mul'' (by have := a.toInt_lt; omega) (by have := b.toInt_lt; omega)
  rw [UInt64.toNat_mul, quint64_to_nat ha, quint64_to_nat hb]
  exact Nat.mod_eq_of_lt (by omega)

/-- With positive counts whose lines fit an `int`, the body size is the product of the three. -/
theorem expected_body_bytes_to_nat {spool : DirectPrintSpool}
    (hchannels : 0 < spool.logicalChannelCount.toInt) (hheight : 0 < spool.height.toInt)
    (hline : 0 < spool.bytesPerLine.toInt)
    (hlines : spool.logicalChannelCount.toInt.toNat * spool.height.toInt.toNat ≤ 2147483647) :
    (expectedBodyBytes spool).toNat =
      spool.logicalChannelCount.toInt.toNat * spool.height.toInt.toNat *
        spool.bytesPerLine.toInt.toNat := by
  have hmul := quint64_mul (a := spool.logicalChannelCount) (b := spool.height)
    (by omega) (by omega)
  have hbpl : (quint64 spool.bytesPerLine).toNat = spool.bytesPerLine.toInt.toNat :=
    quint64_to_nat (by omega)
  have hlt : spool.bytesPerLine.toInt.toNat < 2 ^ 31 := by
    have := spool.bytesPerLine.toInt_lt
    omega
  have hbody : spool.logicalChannelCount.toInt.toNat * spool.height.toInt.toNat *
      spool.bytesPerLine.toInt.toNat ≤ 2147483647 * (2 ^ 31 - 1) :=
    Nat.mul_le_mul hlines (by omega)
  have hnonpos : ¬ (spool.logicalChannelCount ≤ 0 ∨ spool.height ≤ 0 ∨
      spool.bytesPerLine ≤ 0) := by
    simp only [Int32.le_iff_toInt_le, Int32.toInt_zero]
    omega
  have hfits : ¬ (quint64 spool.logicalChannelCount * quint64 spool.height >
      0xffffffffffffffff / quint64 spool.bytesPerLine) := by
    rw [gt_iff_lt, UInt64.lt_iff_toNat_lt, UInt64.toNat_div, hmul, hbpl, Nat.not_lt,
      Nat.le_div_iff_mul_le (by omega)]
    exact le_trans hbody (by decide)
  simp only [expectedBodyBytes, hnonpos, hfits, if_false]
  rw [UInt64.toNat_mul, hmul, hbpl]
  exact Nat.mod_eq_of_lt (by omega)

namespace Valid

variable {spool : DirectPrintSpool}

/-- The number of plane-lines, as a natural number, fits an `int`. -/
theorem lines_to_nat_le (h : Valid spool) :
    spool.logicalChannelCount.toInt.toNat * spool.height.toInt.toNat ≤ 2147483647 := by
  have hprod : spool.logicalChannelCount.toInt * spool.height.toInt =
      (spool.logicalChannelCount.toInt.toNat * spool.height.toInt.toNat : ℕ) := by
    rw [Nat.cast_mul, Int.toNat_of_nonneg h.channels_pos.le, Int.toNat_of_nonneg h.height_pos.le]
  have hlines := h.lines_le
  omega

/-- The body size of valid metadata, as a natural number. -/
theorem expected_to_nat (h : Valid spool) :
    (expectedBodyBytes spool).toNat =
      spool.logicalChannelCount.toInt.toNat * spool.height.toInt.toNat *
        spool.bytesPerLine.toInt.toNat :=
  expected_body_bytes_to_nat h.channels_pos h.height_pos h.line_pos h.lines_to_nat_le

/-- Valid metadata has a body. -/
theorem expected_pos (h : Valid spool) : 0 < (expectedBodyBytes spool).toNat := by
  rw [h.expected_to_nat]
  have hchannels := h.channels_pos
  have hheight := h.height_pos
  have hline := h.line_pos
  exact Nat.mul_pos (Nat.mul_pos (by omega) (by omega)) (by omega)

/-- The body of valid metadata is far below the 64-bit range. -/
theorem expected_lt (h : Valid spool) : (expectedBodyBytes spool).toNat < 2 ^ 62 := by
  rw [h.expected_to_nat]
  have hline : spool.bytesPerLine.toInt.toNat ≤ 2 ^ 31 - 1 := by
    have := spool.bytesPerLine.toInt_lt
    omega
  exact lt_of_le_of_lt (Nat.mul_le_mul h.lines_to_nat_le hline) (by decide)

end Valid

/-- For positive dimensions the layout check is about unbounded integers. -/
theorem line_layout_iff {spool : DirectPrintSpool} (hwidth : 0 < spool.width.toInt)
    (hheight : 0 < spool.height.toInt) (hline : 0 < spool.bytesPerLine.toInt)
    (hchannels : 0 < spool.logicalChannelCount.toInt) :
    ¬ (((quint64 spool.width + 3) / 4 + 3) &&& ~~~(3 : UInt64) ≠ quint64 spool.bytesPerLine ∨
        quint64 spool.logicalChannelCount * quint64 spool.height > 2147483647) ↔
      spool.bytesPerLine.toInt = ((spool.width.toInt + 3) / 4 + 3) / 4 * 4 ∧
        spool.logicalChannelCount.toInt * spool.height.toInt ≤ 2147483647 := by
  have hbytes := expected_line_bytes hwidth
  have hbpl : (quint64 spool.bytesPerLine).toNat = spool.bytesPerLine.toInt.toNat :=
    quint64_to_nat (by omega)
  have hmul := quint64_mul hchannels.le hheight.le
  have hmax : (2147483647 : UInt64).toNat = 2147483647 := rfl
  have hprod : spool.logicalChannelCount.toInt * spool.height.toInt =
      (spool.logicalChannelCount.toInt.toNat * spool.height.toInt.toNat : ℕ) := by
    rw [Nat.cast_mul, Int.toNat_of_nonneg hchannels.le, Int.toNat_of_nonneg hheight.le]
  rw [not_or, not_not, gt_iff_lt, ← UInt64.toNat_inj, UInt64.lt_iff_toNat_lt, hbytes, hbpl, hmul,
    hmax, hprod]
  omega

/-- The channel check on unbounded integers. -/
theorem channel_order_iff {spool : DirectPrintSpool} :
    ¬ (∃ channel ∈ spool.channelOrder, channel < 0 ∨ channel ≥ spool.logicalChannelCount) ↔
      ∀ channel ∈ spool.channelOrder,
        0 ≤ channel.toInt ∧ channel.toInt < spool.logicalChannelCount.toInt := by
  simp only [not_exists, not_and, not_or, Int32.lt_iff_toInt_lt, Int32.le_iff_toInt_le, ge_iff_le,
    Int32.toInt_zero, not_lt, not_le]

/-- The checks accept exactly the metadata with this arithmetic. -/
theorem metadata_is_valid_iff {spool : DirectPrintSpool} :
    metadataIsValid spool = .ok () ↔ Valid spool := by
  have h16 : Int32.toInt 16 = 16 := rfl
  simp only [metadataIsValid]
  constructor
  · intro h
    split_ifs at h with hdims hlayout horder hbody
    simp only [not_or, Int32.le_iff_toInt_le, Int32.lt_iff_toInt_lt, gt_iff_lt, Int32.toInt_zero,
      not_le, not_lt, h16] at hdims
    obtain ⟨hwidth, hheight, hxdpi, hydpi, hline, hchannels, hmax, hnil, hlength⟩ := hdims
    obtain ⟨hbytes, hlines⟩ := (line_layout_iff hwidth hheight hline hchannels).mp hlayout
    simp only [not_or, not_and_or, not_not] at hbody
    exact ⟨hwidth, hheight, hxdpi, hydpi, hchannels, hmax, hline, hbytes, hlines, hnil, hlength,
      channel_order_iff.mp horder, hbody.2⟩
  · intro h
    have hdims : ¬ (spool.width ≤ 0 ∨ spool.height ≤ 0 ∨ spool.xdpi ≤ 0 ∨ spool.ydpi ≤ 0 ∨
        spool.bytesPerLine ≤ 0 ∨ spool.logicalChannelCount ≤ 0 ∨ spool.logicalChannelCount > 16 ∨
        spool.channelOrder = [] ∨ spool.channelOrder.length > 16) := by
      simp only [not_or, Int32.le_iff_toInt_le, Int32.lt_iff_toInt_lt, gt_iff_lt, Int32.toInt_zero,
        not_le, not_lt, h16]
      exact ⟨h.width_pos, h.height_pos, h.xdpi_pos, h.ydpi_pos, h.line_pos, h.channels_pos,
        h.channels_le, h.order_ne_nil, h.order_length⟩
    have hlayout := (line_layout_iff h.width_pos h.height_pos h.line_pos h.channels_pos).mpr
      ⟨h.line_bytes, h.lines_le⟩
    have hbody : ¬ (expectedBodyBytes spool = 0 ∨
        (spool.bodyBytes ≠ 0 ∧ spool.bodyBytes ≠ expectedBodyBytes spool)) := by
      rw [not_or, not_and_or, not_not, not_not]
      refine ⟨?_, h.body_bytes⟩
      intro hzero
      have hpos := h.expected_pos
      rw [hzero] at hpos
      exact absurd hpos (by decide)
    rw [if_neg hdims, if_neg hlayout, if_neg (channel_order_iff.mpr h.order_mem), if_neg hbody]

/-! ## Encoded and decoded headers -/

/-- The validity of a spool is that of its record. -/
theorem valid_spool_of_record {spool : DirectPrintSpool} {path : String}
    {checksum : Option Bytes} :
    Valid (spoolOf path (recordOf spool checksum)) ↔ Valid spool :=
  ⟨fun h ↦ ⟨h.1, h.2, h.3, h.4, h.5, h.6, h.7, h.8, h.9, h.10, h.11, h.12, h.13⟩,
    fun h ↦ ⟨h.1, h.2, h.3, h.4, h.5, h.6, h.7, h.8, h.9, h.10, h.11, h.12, h.13⟩⟩

/-- The checksums a spool header holds: none yet, or a SHA-256 digest. -/
def IsChecksum (checksum : Option Bytes) : Prop := ∀ bytes ∈ checksum, bytes.length = 32

/-- A spool that is still being written has no checksum in its header. -/
theorem is_checksum_none : IsChecksum none := nofun

/-- A digest of thirty-two bytes. -/
theorem is_checksum_some {bytes : Bytes} (h : bytes.length = 32) : IsChecksum (some bytes) := by
  simpa [IsChecksum] using h

theorem IsChecksum.fits {checksum : Option Bytes} (h : IsChecksum checksum) :
    FitsByteArray checksum := by
  intro bytes hbytes
  rw [h bytes hbytes]
  decide

/-- The record of a spool with at most sixteen channels fits the header and leaves padding. -/
theorem put_record_length_lt {record : Record} (horder : record.channelOrder.length ≤ 16)
    (hchecksum : IsChecksum record.checksum) : (putRecord record).length < headerBytes := by
  have hwords : (record.canonicalHeader.toList.flatMap putUInt32).length = 48 := by
    simp [List.length_flatMap]
  have hchannels : (record.channelOrder.flatMap putInt32).length =
      record.channelOrder.length * 4 := by
    simp [List.length_flatMap]
  have hdigest : (putByteArray record.checksum).length ≤ 36 := by
    cases hcases : record.checksum with
    | none => simp [putByteArray]
    | some bytes =>
        have hlength := hchecksum bytes (by rw [hcases]; rfl)
        simp [putByteArray, hlength]
  simp only [putRecord, List.length_append, put_uint8_length, put_uint16_length,
    put_uint32_length, put_uint64_length, put_int32_length, hwords, hchannels, headerBytes]
  omega

/-- A header is its record, padded with zeros. -/
theorem encode_header_eq {spool : DirectPrintSpool} {checksum : Option Bytes}
    (horder : spool.channelOrder.length ≤ 16) (hchecksum : IsChecksum checksum) :
    encodeHeader spool checksum =
      putRecord (recordOf spool checksum) ++
        List.replicate (headerBytes - (putRecord (recordOf spool checksum)).length) 0 := by
  have hlt : (putRecord (recordOf spool checksum)).length < headerBytes :=
    put_record_length_lt horder hchecksum
  rw [encodeHeader, if_neg (by omega)]

/-- Such a header fills the header area. -/
theorem encode_header_length {spool : DirectPrintSpool} {checksum : Option Bytes}
    (horder : spool.channelOrder.length ≤ 16) (hchecksum : IsChecksum checksum) :
    (encodeHeader spool checksum).length = headerBytes := by
  have hlt : (putRecord (recordOf spool checksum)).length < headerBytes :=
    put_record_length_lt horder hchecksum
  rw [encode_header_eq horder hchecksum, List.length_append, List.length_replicate]
  omega

/-- A header decodes exactly when it starts with the record of valid metadata. -/
theorem decode_header_eq_ok {header : Bytes} {path : String} {spool : DirectPrintSpool} :
    decodeHeader header path = .ok spool ↔
      header.length = headerBytes ∧ ∃ record padding,
        FitsByteArray record.checksum ∧ header = putRecord record ++ padding ∧
          spool = spoolOf path record ∧ Valid spool := by
  unfold decodeHeader
  constructor
  · intro h
    split_ifs at h with hlength
    rw [not_not] at hlength
    split at h
    · exact absurd h (by simp)
    · next readMagic readVersion readHeaderBytes record padding hread =>
        split_ifs at h with hfields
        simp only [not_or, not_not] at hfields
        obtain ⟨rfl, rfl, rfl⟩ := hfields
        split at h
        · exact absurd h (by simp)
        · next hvalid =>
            obtain rfl := Except.ok.inj h
            have hspool := metadata_is_valid_iff.mp hvalid
            obtain ⟨hfits, -, rfl⟩ := (get_record_eq_some hspool.order_ne_nil).mp hread
            exact ⟨hlength, record, padding, hfits, rfl, rfl, hspool⟩
  · rintro ⟨hlength, record, padding, hfits, rfl, rfl, hspool⟩
    rw [if_neg (by rw [hlength]; exact not_not.mpr rfl),
      (get_record_eq_some hspool.order_ne_nil).mpr ⟨hfits, hspool.order_length, rfl⟩]
    have hfields : ¬ (magic ≠ magic ∨ version ≠ version ∨
        UInt64.ofNat headerBytes ≠ UInt64.ofNat headerBytes) := by
      simp
    simp only [hfields, if_false, metadata_is_valid_iff.mpr hspool]

/-- A valid header decodes to the metadata it was encoded from. -/
theorem decode_encode_header {spool : DirectPrintSpool} (hspool : Valid spool)
    {checksum : Option Bytes} (hchecksum : IsChecksum checksum) (path : String) :
    decodeHeader (encodeHeader spool checksum) path =
      .ok (spoolOf path (recordOf spool checksum)) := by
  rw [decode_header_eq_ok]
  exact ⟨encode_header_length hspool.order_length hchecksum, recordOf spool checksum, _,
    hchecksum.fits, encode_header_eq hspool.order_length hchecksum, rfl,
    valid_spool_of_record.mpr hspool⟩

/-- Records of at least one channel that start the same bytes are equal. -/
theorem put_record_inj {first second : Record} {firstRest secondRest : Bytes}
    (hfirst : first.channelOrder ≠ [] ∧ first.channelOrder.length ≤ 16 ∧
      FitsByteArray first.checksum)
    (hsecond : second.channelOrder ≠ [] ∧ second.channelOrder.length ≤ 16 ∧
      FitsByteArray second.checksum)
    (h : putRecord first ++ firstRest = putRecord second ++ secondRest) :
    first = second ∧ firstRest = secondRest := by
  have hread : getRecord (putRecord second ++ secondRest) =
      some ((magic, version, UInt64.ofNat headerBytes, first), firstRest) :=
    (get_record_eq_some hfirst.1).mpr ⟨hfirst.2.2, hfirst.2.1, h.symm⟩
  have hread' : getRecord (putRecord second ++ secondRest) =
      some ((magic, version, UInt64.ofNat headerBytes, second), secondRest) :=
    (get_record_eq_some hsecond.1).mpr ⟨hsecond.2.2, hsecond.2.1, rfl⟩
  rw [hread', Option.some.injEq] at hread
  simp only [Prod.mk.injEq, true_and] at hread
  exact ⟨hread.1.symm, hread.2.symm⟩

end PrintFlow.RasterSpool
