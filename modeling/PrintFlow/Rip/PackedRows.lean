import PrintFlow.Rip.InkPresence
import PrintFlow.Vendor.Nocai.PrnWriter

/-!
# Packed rows

Three functions pack a row of dots: `packRow` of the pipeline writes into a buffer by index, and the
engine and the printer files push bytes and pad the line afterwards. `packers_agree` says that they
give the same bytes, of the length that the metadata of a spool must state, and that the row can be
read back from them.
-/

namespace PrintFlow

open BoundedRasterPipeline

/-! ## Pushing bytes -/

/-- After some dots the printer files and the engine have pushed the same bytes. -/
theorem pack_state_eq (dots : Bytes) (n : Nat) :
    (List.range n).foldl (fun s x ↦ s.add dots[x]!) ({} : NocaiPrnWriter.PackState) =
      ⟨(packedLine dots n).1, (packedLine dots n).2, n⟩ := by
  induction n with
  | zero => rfl
  | succ n ih =>
      rw [List.range_succ, List.foldl_append, ih, packed_line_succ]
      simp only [List.foldl_cons, List.foldl_nil, NocaiPrnWriter.PackState.add,
        MultiInkScreenEngine.packDot]
      by_cases hfull : (n + 1) % 4 = 0
      · rw [if_pos hfull, if_pos hfull]
      · rw [if_neg hfull, if_neg hfull]

/-- Zeros are pushed until the length is a multiple of four. -/
theorem pad_line_eq (line : Bytes) :
    NocaiPrnWriter.padLine line = MultiInkScreenEngine.padToFour line := by
  fun_induction NocaiPrnWriter.padLine line with
  | case1 line hfull =>
      rw [MultiInkScreenEngine.padToFour, hfull]
      exact (List.append_nil line).symm
  | case2 line hfull ih =>
      have hzeros : (4 - line.length % 4) % 4 = (4 - (line.length + 1) % 4) % 4 + 1 := by omega
      rw [ih, MultiInkScreenEngine.padToFour, MultiInkScreenEngine.padToFour, List.length_append,
        List.length_singleton, hzeros, List.append_assoc, List.replicate_succ]
      rfl

/-- The printer files and the pipeline pack a line alike. -/
theorem pack_dots_eq_pack_row (dots : Bytes) (width : Nat) :
    NocaiPrnWriter.packDots dots width = packRow dots width := by
  rw [← pack_line_eq_pack_row]
  unfold NocaiPrnWriter.packDots
  rw [pack_state_eq, pad_line_eq]
  rfl

/-- Rows that are packed one by one. -/
theorem map_range_rows {pack : Bytes → Nat → Bytes} {width : Nat} (dotMap : List Bytes) :
    ((List.range dotMap.length).map fun y ↦ pack dotMap[y]! width) =
      dotMap.map fun dots ↦ pack dots width := by
  refine List.ext_getElem (by simp) fun y hy _ ↦ ?_
  have hrow : y < dotMap.length := by simpa using hy
  simp [List.getElem!_eq_getElem?_getD, List.getElem?_eq_getElem hrow]

/-! ## Length and padding -/

theorem pack_row_length (dots : Bytes) (width : Nat) :
    (packRow dots width).length = ((width + 3) / 4 + 3) / 4 * 4 :=
  packed_buffer_length dots _ width

/-- Behind the last dot there are zeros. -/
theorem dot_at_padding (dots : Bytes) {width x : Nat} (hx : width ≤ x) :
    dotAt (packRow dots width) x = 0 := by
  have hwidth : width ≤ 4 * (((width + 3) / 4 + 3) / 4 * 4) := by omega
  exact (dot_at_packed_buffer dots hwidth x).trans (if_neg (not_lt.mpr hx))

/-- A byte whose four codes are zero is zero. -/
theorem byte_eq_zero {byte : UInt8}
    (h : ∀ place < 4, (byte >>> .ofNat ((3 - place) * 2)) &&& 0x03 = 0) : byte = 0 := by
  have hbytes : ∀ byte : Fin 256,
      (∀ place < 4, (UInt8.ofNat byte >>> .ofNat ((3 - place) * 2)) &&& 0x03 = 0) → byte = 0 := by
    decide +kernel
  have hzero := hbytes ⟨byte.toNat, byte.toNat_lt⟩ (by simpa using h)
  exact UInt8.toNat_inj.mp (congrArg Fin.val hzero)

/-- A byte behind the last dot is zero. -/
theorem padding_byte (dots : Bytes) {width i : Nat} (hi : (width + 3) / 4 ≤ i) :
    (packRow dots width)[i]! = 0 := by
  refine byte_eq_zero fun place hplace ↦ ?_
  have hdot := dot_at_padding dots (show width ≤ 4 * i + place by omega)
  rw [dotAt] at hdot
  rwa [show (4 * i + place) / 4 = i by omega, show (4 * i + place) % 4 = place by omega] at hdot

/-! ## The length that a spool states -/

/-- The metadata of a spool of one row and one channel. -/
def oneLineSpool (width bytesPerLine : Int32) : DirectPrintSpool where
  width := width
  height := 1
  xdpi := 720
  ydpi := 720
  bytesPerLine := bytesPerLine
  logicalChannelCount := 1
  channelOrder := [0]

/-- The metadata of one row are valid with the length of the packed row, and with no other. -/
theorem one_line_valid_iff {width bytesPerLine : Int32} (hwidth : 0 < width.toInt) :
    RasterSpool.metadataIsValid (oneLineSpool width bytesPerLine) = .ok () ↔
      bytesPerLine.toInt = ((width.toInt + 3) / 4 + 3) / 4 * 4 := by
  rw [RasterSpool.metadata_is_valid_iff]
  constructor
  · exact fun h ↦ h.line_bytes
  · intro hline
    exact
      { width_pos := hwidth
        height_pos := show 0 < (1 : Int32).toInt by decide
        xdpi_pos := show 0 < (720 : Int32).toInt by decide
        ydpi_pos := show 0 < (720 : Int32).toInt by decide
        channels_pos := show 0 < (1 : Int32).toInt by decide
        channels_le := show (1 : Int32).toInt ≤ 16 by decide
        line_pos := by
          show 0 < bytesPerLine.toInt
          omega
        line_bytes := hline
        lines_le := show (1 : Int32).toInt * (1 : Int32).toInt ≤ 2147483647 by decide
        order_ne_nil := List.cons_ne_nil _ _
        order_length := show 1 ≤ 16 by decide
        order_mem := by
          intro channel hchannel
          obtain rfl := List.mem_singleton.mp hchannel
          exact ⟨le_refl _, show (0 : Int32).toInt < (1 : Int32).toInt by decide⟩
        body_bytes := .inl rfl }

/-! ## Agreement -/

/-- The dots that a packed row holds. -/
def unpackedRow (packed : Bytes) (width : Nat) : Bytes := (List.range width).map (dotAt packed)

theorem and_three_eq_mod (dot : UInt8) : dot &&& 0x03 = dot % 4 := by
  refine UInt8.toNat_inj.mp ?_
  rw [UInt8.toNat_and, UInt8.toNat_mod]
  exact Nat.and_two_pow_sub_one_eq_mod dot.toNat 2

/-- A packed row holds its dots modulo four. -/
theorem dot_at_row (dots : Bytes) {width x : Nat} (hx : x < width) :
    dotAt (packRow dots width) x = dots[x]! % 4 := by
  rw [dot_at_pack_row dots hx, and_three_eq_mod]

/-- Unpacking a packed row gives its dots modulo four. -/
theorem unpacked_row (dots : Bytes) :
    unpackedRow (packRow dots dots.length) dots.length = dots.map (· % 4) := by
  refine List.ext_getElem (by simp [unpackedRow]) fun x hx _ ↦ ?_
  have hrow : x < dots.length := by simpa [unpackedRow] using hx
  simp [unpackedRow, dot_at_row dots hrow, List.getElem!_eq_getElem?_getD,
    List.getElem?_eq_getElem hrow]

/-- The three packers give the same bytes for every row. A packed row has the length that the
metadata of a spool of that width must state, holds dot `x` modulo four in its place, is zero
elsewhere, and gives the row back. -/
theorem packers_agree (dotMap : List Bytes) (width : Nat)
    (hrows : ∀ dots ∈ dotMap, dots.length = width) :
    MultiInkScreenEngine.packTo2BPP dotMap width dotMap.length =
        (dotMap.map fun dots ↦ packRow dots width) ∧
      NocaiPrnWriter.packTo2Bpp dotMap width dotMap.length =
        (dotMap.map fun dots ↦ packRow dots width) ∧
      ∀ dots ∈ dotMap,
        (∀ spool : DirectPrintSpool, spool.width.toInt = width →
          RasterSpool.metadataIsValid spool = .ok () →
            spool.bytesPerLine.toInt = (packRow dots width).length) ∧
        (∀ spoolWidth bytesPerLine : Int32, spoolWidth.toInt = width → 1 ≤ width →
          (RasterSpool.metadataIsValid (oneLineSpool spoolWidth bytesPerLine) = .ok () ↔
            bytesPerLine.toInt = (packRow dots width).length)) ∧
        (∀ x < width, dotAt (packRow dots width) x = dots[x]! % 4) ∧
        (∀ x, width ≤ x → dotAt (packRow dots width) x = 0) ∧
        (∀ i, (width + 3) / 4 ≤ i → (packRow dots width)[i]! = 0) ∧
        unpackedRow (packRow dots width) width = dots.map (· % 4) := by
  -- Each packer is compared with `packRow`, and the rest is shown of that row alone.
  refine ⟨?_, ?_, fun dots hdots ↦ ⟨?_, ?_, ?_, ?_, ?_, ?_⟩⟩
  · rw [MultiInkScreenEngine.packTo2BPP, map_range_rows]
    exact List.map_congr_left fun dots _ ↦ pack_line_eq_pack_row dots width
  · rw [NocaiPrnWriter.packTo2Bpp, map_range_rows]
    exact List.map_congr_left fun dots _ ↦ pack_dots_eq_pack_row dots width
  · intro spool hspool hvalid
    have hline := (RasterSpool.metadata_is_valid_iff.mp hvalid).line_bytes
    rw [hline, hspool, pack_row_length]
    omega
  · intro spoolWidth bytesPerLine hspool hwidth
    rw [one_line_valid_iff (by omega), hspool, pack_row_length]
    omega
  · exact fun x hx ↦ dot_at_row dots hx
  · exact fun x hx ↦ dot_at_padding dots hx
  · exact fun i hi ↦ padding_byte dots hi
  · obtain rfl := hrows dots hdots
    exact unpacked_row dots

/-- Two rows of five dots, among them bytes beyond the codes. -/
theorem packers_agree_five_dots :
    MultiInkScreenEngine.packTo2BPP [[1, 2, 3, 0, 7], [255, 0, 0, 0, 1]] 5 2 =
        [[0x6c, 0xc0, 0, 0], [0xc0, 0x40, 0, 0]] ∧
      NocaiPrnWriter.packTo2Bpp [[1, 2, 3, 0, 7], [255, 0, 0, 0, 1]] 5 2 =
        [[0x6c, 0xc0, 0, 0], [0xc0, 0x40, 0, 0]] ∧
      unpackedRow [0x6c, 0xc0, 0, 0] 5 = [1, 2, 3, 0, 3] := by
  obtain ⟨hengine, hfile, hrows⟩ :=
    packers_agree [[1, 2, 3, 0, 7], [255, 0, 0, 0, 1]] 5 (by decide)
  have hpacked : packRow [1, 2, 3, 0, 7] 5 = [0x6c, 0xc0, 0, 0] := by decide
  obtain ⟨-, -, -, -, -, hunpacked⟩ := hrows [1, 2, 3, 0, 7] (by decide)
  rw [hpacked] at hunpacked
  exact ⟨hengine.trans (by decide), hfile.trans (by decide), hunpacked.trans (by decide)⟩

end PrintFlow
