import PrintFlow.Core.RasterSpool.Opened
import PrintFlow.Vendor.Nocai.PrnAgreement

/-!
# The printer file of any spool

The header of a PRN file comes from the metadata the caller gives, its lines come from a reader that
goes by the metadata of the spool file. `spool_prn_well_formed_iff` says when the two fit: a PRN
that was committed is well-formed exactly if the file has the dimensions, the line size, the number
of channels and the checksum that the caller gives.
-/

namespace PrintFlow.NocaiPrnWriter

open DataStream FileStore FloatFormat RasterSpool

variable {sha256 : Sha256} {checksumIo : ChecksumIo} {files after : Store String}
  {spool : DirectPrintSpool} {reader : Reader} {io : OutputIo}

/-! ## The lines of a file -/

/-- A row of planes follows the rows before it. -/
theorem plane_lines_of_rows (channelOrder : List Int32) (rows : Nat) {index : Nat}
    (h : index < rows * channelOrder.length) :
    ((List.range rows).flatMap fun row ↦ channelOrder.map fun channel ↦
        (channel, Int32.ofNat row))[index]? =
      channelOrder[index % channelOrder.length]?.map fun channel ↦
        (channel, Int32.ofNat (index / channelOrder.length)) := by
  have hlength (rows : Nat) : ((List.range rows).flatMap fun row ↦
      channelOrder.map fun channel ↦ (channel, Int32.ofNat row)).length =
        rows * channelOrder.length := by
    simp
  induction rows with
  | zero => exact absurd h (by simp)
  | succ rows ih =>
      rw [List.range_succ, List.flatMap_append, List.flatMap_singleton]
      by_cases hbefore : index < rows * channelOrder.length
      · rw [List.getElem?_append_left (by rwa [hlength]), ih hbefore]
      · -- The index is in the last row.
        obtain ⟨place, rfl⟩ := Nat.exists_eq_add_of_le (not_lt.mp hbefore)
        rw [Nat.succ_mul] at h
        have hplace : place < channelOrder.length := by omega
        rw [List.getElem?_append_right (by rw [hlength]; omega), hlength, Nat.add_sub_cancel_left,
          List.getElem?_map, Nat.mul_comm rows, Nat.mul_add_mod, Nat.mod_eq_of_lt hplace,
          Nat.mul_add_div (by omega), Nat.div_eq_of_lt hplace, Nat.add_zero]

/-- The plane-lines of a file, by index. -/
theorem plane_lines_get {channelOrder : List Int32} {height : Int32} {index : Nat}
    (h : index < height.toInt.toNat * channelOrder.length) :
    (planeLines channelOrder height)[index]? =
      channelOrder[index % channelOrder.length]?.map fun channel ↦
        (channel, Int32.ofNat (index / channelOrder.length)) :=
  plane_lines_of_rows channelOrder height.toInt.toNat h

/-- The number of plane-lines of a file. -/
theorem plane_lines_length (channelOrder : List Int32) (height : Int32) :
    (planeLines channelOrder height).length = height.toInt.toNat * channelOrder.length := by
  simp [planeLines]

/-- The loop over the lines appends the lines that were read. -/
theorem save_plane_lines_sound {places : List (Int32 × Int32)} {index : Nat}
    {content result : Bytes}
    (h : savePlaneLines io files reader index places content = some result) :
    ∃ lines, List.Forall₂ (fun place line ↦
        reader.readLine files place.1 place.2 = .ok line) places lines ∧
      result = content ++ lines.flatten := by
  induction places generalizing index content with
  | nil =>
      obtain rfl := Option.some.inj h
      exact ⟨[], .nil, by rw [List.flatten_nil, List.append_nil]⟩
  | cons place places ih =>
      obtain ⟨channel, row⟩ := place
      rw [savePlaneLines] at h
      split at h
      · exact absurd h (Option.some_ne_none _).symm
      · next line hline =>
          split at h
          · obtain ⟨lines, hlines, hresult⟩ := ih h
            exact ⟨line :: lines, .cons hline hlines, by
              rw [hresult, List.flatten_cons, List.append_assoc]⟩
          · exact absurd h (Option.some_ne_none _).symm

/-- A committed file is its header and the lines that were read, which have the size of a line of
the spool file. -/
theorem save_prn_sound {path : String} {header : Bytes} {channelOrder : List Int32} {height : Int32}
    (h : savePrn io files path reader header channelOrder height = (after, true)) :
    ∃ lines, List.Forall₂ (fun place line ↦
        reader.readLine files place.1 place.2 = .ok line) (planeLines channelOrder height) lines ∧
      lines.length = height.toInt.toNat * channelOrder.length ∧
      (∀ line ∈ lines, line.length = lineBytes reader.metadata) ∧
      after = files.set path (header ++ lines.flatten) := by
  unfold savePrn at h
  split at h
  · exact absurd (congrArg Prod.snd h) Bool.false_ne_true
  · split at h
    · exact absurd (congrArg Prod.snd h) Bool.false_ne_true
    · next content hcontent =>
        split at h
        · obtain ⟨lines, hlines, rfl⟩ := save_plane_lines_sound hcontent
          refine ⟨lines, hlines, ?_, ?_, (congrArg Prod.fst h).symm⟩
          · rw [← hlines.length_eq, plane_lines_length]
          · intro line hline
            obtain ⟨index, hindex, rfl⟩ := List.getElem_of_mem hline
            exact read_line_length
              ((List.forall₂_iff_get.mp hlines).2 index (hlines.length_eq ▸ hindex) hindex)
        · exact absurd (congrArg Prod.snd h) Bool.false_ne_true

/-- When nothing fails and every line can be read, the loop gets to its end. -/
theorem save_plane_lines_complete (hio : io.Ok) {places : List (Int32 × Int32)}
    (h : ∀ place ∈ places, ∃ line, reader.readLine files place.1 place.2 = .ok line) (index : Nat)
    (content : Bytes) : ∃ result, savePlaneLines io files reader index places content = some result := by
  induction places generalizing index content with
  | nil => exact ⟨content, rfl⟩
  | cons place places ih =>
      obtain ⟨channel, row⟩ := place
      obtain ⟨line, hline⟩ := h _ List.mem_cons_self
      dsimp only at hline
      rw [savePlaneLines, hline]
      dsimp only
      rw [if_pos (hio.write index)]
      exact ih (fun other hother ↦ h other (List.mem_cons_of_mem _ hother)) _ _

/-- Then the file is committed. -/
theorem save_prn_complete (hio : io.Ok) {channelOrder : List Int32} {height : Int32}
    (h : ∀ place ∈ planeLines channelOrder height, ∃ line,
      reader.readLine files place.1 place.2 = .ok line) (path : String) (header : Bytes) :
    ∃ after, savePrn io files path reader header channelOrder height = (after, true) := by
  obtain ⟨content, hcontent⟩ := save_plane_lines_complete hio h 1 header
  refine ⟨files.set path content, ?_⟩
  simp only [savePrn, hio.opened, hio.write 0, hcontent, hio.closed, not_true_eq_false, or_self,
    if_false, if_true]

/-! ## Well-formed files -/

/-- A PRN file is well-formed for a spool whose file has this metadata: behind the header come the
stored lines in the order of the planes, as many and as long as the header says, and the file is the
one the caller described. -/
structure WellFormed (sha256 : Sha256) (files : Store String) (spool metadata : DirectPrintSpool)
    (header content : Bytes) (rows colors lineSize : Nat) : Prop where
  front : content.take header.length = header
  length : content.length = header.length + rows * colors * lineSize
  lines (index : Nat) (hindex : index < rows * colors) :
    ∃ channel, spool.channelOrder[index % spool.channelOrder.length]? = some channel ∧
      Reader.readLine ⟨spool.path, metadata⟩ files channel
          (Int32.ofNat (index / spool.channelOrder.length)) =
        .ok (readAt content (header.length + index * lineSize) lineSize)
  width : metadata.width = spool.width
  height : metadata.height = spool.height
  bytesPerLine : metadata.bytesPerLine = spool.bytesPerLine
  logicalChannelCount : metadata.logicalChannelCount = spool.logicalChannelCount
  checksum (hgiven : spool.sha256 ≠ []) :
    sha256.digest (hashedBytes ((files spool.path).getD []) metadata) = spool.sha256

/-- The metadata of a spool file has the dimensions, the line size, the number of channels and, if
the caller gives one, the checksum of the caller's metadata. -/
structure Fits (spool metadata : DirectPrintSpool) : Prop where
  width : metadata.width = spool.width
  height : metadata.height = spool.height
  bytesPerLine : metadata.bytesPerLine = spool.bytesPerLine
  logicalChannelCount : metadata.logicalChannelCount = spool.logicalChannelCount
  checksum (hgiven : spool.sha256 ≠ []) : metadata.sha256 = spool.sha256

/-- A committed file is well-formed exactly if the spool file fits. -/
theorem saved_well_formed_iff
    (hopen : Reader.open sha256 checksumIo files spool.path true = .ok reader) {path : String}
    {header : Bytes}
    (hsave : savePrn io files path reader header spool.channelOrder spool.height = (after, true)) :
    ∃ content, after path = some content ∧
      (WellFormed sha256 files spool reader.metadata header content spool.height.toInt.toNat
          spool.channelOrder.length spool.bytesPerLine.toInt.toNat ↔
        Fits spool reader.metadata) := by
  obtain ⟨hpath, -⟩ := Reader.open_metadata hopen
  have hdigest := Reader.open_verified hopen
  have hcontent : reader.content files = (files spool.path).getD [] := by
    rw [Reader.content, hpath]
  have hreader : reader = ⟨spool.path, reader.metadata⟩ := by rw [← hpath]
  obtain ⟨lines, hlines, hcount, hsizes, rfl⟩ := save_prn_sound hsave
  refine ⟨header ++ lines.flatten, Store.set_same _ _ _, ?_⟩
  constructor
  · intro h
    refine ⟨h.width, h.height, h.bytesPerLine, h.logicalChannelCount, fun hgiven ↦ ?_⟩
    rw [hdigest, hcontent, h.checksum hgiven]
  · intro h
    have hsize : ∀ line ∈ lines, line.length = spool.bytesPerLine.toInt.toNat := by
      intro line hline
      rw [hsizes line hline, lineBytes, h.bytesPerLine]
    refine ⟨List.take_left, ?_, ?_, h.width, h.height, h.bytesPerLine, h.logicalChannelCount, ?_⟩
    · rw [List.length_append, flatten_length hsize, hcount]
    · intro index hindex
      have hcolors : 0 < spool.channelOrder.length := by
        refine Nat.pos_of_ne_zero fun hzero ↦ ?_
        rw [hzero, Nat.mul_zero] at hindex
        exact absurd hindex (Nat.not_lt_zero index)
      obtain ⟨channel, hchannel⟩ : ∃ channel,
          spool.channelOrder[index % spool.channelOrder.length]? = some channel :=
        ⟨_, List.getElem?_eq_getElem (Nat.mod_lt index hcolors)⟩
      have hplace := plane_lines_get hindex
      rw [hchannel, Option.map_some] at hplace
      obtain ⟨hbefore, hget⟩ := List.getElem?_eq_some_iff.mp hplace
      have hafter : index < lines.length := by rwa [hcount]
      have hread : reader.readLine files (planeLines spool.channelOrder spool.height)[index].1
          (planeLines spool.channelOrder spool.height)[index].2 = .ok lines[index] :=
        (List.forall₂_iff_get.mp hlines).2 index hbefore hafter
      rw [hget] at hread
      refine ⟨channel, hchannel, ?_⟩
      rw [← hreader, hread, readAt, ← List.drop_drop, List.drop_left]
      exact congrArg Except.ok
        (read_at_flatten hsize (List.getElem?_eq_getElem hafter)).symm
    · intro hgiven
      rw [← hcontent, ← hdigest, h.checksum hgiven]

/-- The header of the X-33 file of a spool. -/
def x33Header (spool : DirectPrintSpool) : CanonicalHeader :=
  makeStandardX33Header spool.width spool.height spool.xdpi spool.ydpi spool.bytesPerLine
    (Int32.ofNat spool.channelOrder.length)

/-- The header of the multi-ink file of a spool. -/
def inkjetHeader (mode : MultiInkMode) (spool : DirectPrintSpool) : InkjetImageHeader where
  pixelWidth := uint32 spool.width
  pixelHeight := uint32 spool.height
  xDpi := min 720 (float spool.xdpi)
  yDpi := float spool.ydpi
  bytesPerLine := uint32 spool.bytesPerLine
  colorNum := UInt8.ofNat spool.channelOrder.length
  colorList := buildColorListForMode mode spool.channelOrder

/-- A count that is not negative keeps its value as a `uint32_t`. -/
theorem uint32_to_nat {value : Int32} (h : 0 ≤ value.toInt) :
    (uint32 value).toNat = value.toInt.toNat :=
  Int32.toNat_toUInt32_of_le (Int32.le_iff_toInt_le.mpr h)

/-- The counts in an X-33 header of valid metadata. -/
theorem x33_header_counts (h : Valid spool) (horder : IsX33Order spool.channelOrder) :
    (x33Header spool)[4].toNat = spool.height.toInt.toNat ∧
      ((x33Header spool)[7] &&& 0xffff).toNat = spool.channelOrder.length ∧
      (x33Header spool)[3].toNat = spool.bytesPerLine.toInt.toNat := by
  refine ⟨uint32_to_nat h.height_pos.le, ?_, uint32_to_nat h.line_pos.le⟩
  show (uint32 (Int32.ofNat spool.channelOrder.length) &&& 0xffff).toNat = _
  rcases horder with horder | horder
  · rw [horder]
    decide
  · rw [horder]
    decide

/-- The counts in a multi-ink header of valid metadata. -/
theorem inkjet_header_counts (h : Valid spool) (mode : MultiInkMode) :
    (inkjetHeader mode spool).pixelHeight.toNat = spool.height.toInt.toNat ∧
      (inkjetHeader mode spool).colorNum.toNat = spool.channelOrder.length ∧
      (inkjetHeader mode spool).bytesPerLine.toNat = spool.bytesPerLine.toInt.toNat := by
  refine ⟨uint32_to_nat h.height_pos.le, ?_, uint32_to_nat h.line_pos.le⟩
  have hlength := h.order_length
  exact UInt8.toNat_ofNat_of_lt (by simp only [UInt8.size]; omega)

/-- An X-33 file that was committed from a spool has an opened reader and a valid order behind
it. -/
theorem x33_committed {localOutputPath : String → String} {outputPath : String}
    (h : writeStandardX33PrnFromSpool localOutputPath io files sha256 checksumIo spool outputPath =
      (after, true)) :
    IsX33Order spool.channelOrder ∧ Valid spool ∧ ∃ reader,
      Reader.open sha256 checksumIo files spool.path true = .ok reader ∧
      savePrn io files (localOutputPath outputPath) reader (x33HeaderBytes (x33Header spool))
        spool.channelOrder spool.height = (after, true) := by
  unfold writeStandardX33PrnFromSpool at h
  split at h
  · exact absurd (congrArg Prod.snd h) Bool.false_ne_true
  · next horder =>
      split at h
      · next _ reader hvalid hopen =>
          exact ⟨not_not.mp horder, metadata_is_valid_iff.mp hvalid, reader, hopen, h⟩
      · exact absurd (congrArg Prod.snd h) Bool.false_ne_true

/-- So has a multi-ink file. -/
theorem multi_ink_committed {localOutputPath : String → String} {outputPath : String}
    {mode : MultiInkMode}
    (h : writeMultiInkPrnFromSpool localOutputPath io files sha256 checksumIo spool mode outputPath =
      (after, true)) :
    Valid spool ∧ ∃ reader,
      Reader.open sha256 checksumIo files spool.path true = .ok reader ∧
      savePrn io files (localOutputPath outputPath) reader (inkjetHeader mode spool).bytes
        spool.channelOrder spool.height = (after, true) := by
  unfold writeMultiInkPrnFromSpool at h
  split at h
  · exact absurd (congrArg Prod.snd h) Bool.false_ne_true
  · split at h
    · next _ reader hvalid hopen =>
        exact ⟨metadata_is_valid_iff.mp hvalid, reader, hopen, h⟩
    · exact absurd (congrArg Prod.snd h) Bool.false_ne_true

/-- A multi-ink file that was committed from a finalized spool is its header and the packed lines,
row by row in the order of the planes. -/
theorem multi_ink_lines {packedLines : List (List Bytes)}
    (hspool : FinalizedSpool sha256 packedLines files spool) {localOutputPath : String → String}
    {outputPath : String} {mode : MultiInkMode}
    (h : writeMultiInkPrnFromSpool localOutputPath io files sha256 checksumIo spool mode outputPath =
      (after, true)) :
    Valid spool ∧ ∃ lines : List Bytes,
      after (localOutputPath outputPath) = some ((inkjetHeader mode spool).bytes ++ lines.flatten) ∧
      (∀ line ∈ lines, line.length = lineBytes spool) ∧
      ∀ row < spool.height.toInt.toNat, ∀ plane channel, spool.channelOrder[plane]? = some channel →
        ∃ line, lines[row * spool.channelOrder.length + plane]? = some line ∧
          packedLine packedLines channel (Int32.ofNat row) = some line := by
  obtain ⟨hvalid, reader, hopen, hsave⟩ := multi_ink_committed h
  -- The reader that the writer opened is the one that gives the packed lines.
  obtain ⟨other, hother, hsame⟩ := hspool.opens .default
  obtain rfl : other = reader := by
    obtain ⟨hpath, hread⟩ := Reader.open_metadata hopen
    obtain ⟨hpath', hread'⟩ := Reader.open_metadata hother
    show Reader.mk other.path other.metadata = Reader.mk reader.path reader.metadata
    rw [hpath, hpath', Except.ok.inj (hread'.symm.trans hread)]
  obtain ⟨lines, hlines, hcount, -, rfl⟩ := save_prn_sound hsave
  have hline : ∀ index (hindex : index < lines.length), ∃ place,
      (planeLines spool.channelOrder spool.height)[index]? = some place ∧
      packedLine packedLines place.1 place.2 = some lines[index] ∧
      lines[index].length = lineBytes spool := by
    intro index hindex
    have hbefore : index < (planeLines spool.channelOrder spool.height).length :=
      hlines.length_eq ▸ hindex
    have hread := (List.forall₂_iff_get.mp hlines).2 index hbefore hindex
    obtain ⟨bytes, hpacked, hbytes, hlength⟩ := hsame.lines _ _
      (plane_lines_in_range hvalid (List.getElem_mem hbefore))
    have hequal : lines[index] = bytes := Except.ok.inj (hread.symm.trans hbytes)
    exact ⟨_, List.getElem?_eq_getElem hbefore, by rw [hequal, hpacked], by rw [hequal, hlength]⟩
  refine ⟨hvalid, lines, Store.set_same _ _ _, ?_, ?_⟩
  · intro line hmem
    obtain ⟨index, hindex, rfl⟩ := List.getElem_of_mem hmem
    obtain ⟨-, -, -, hlength⟩ := hline index hindex
    exact hlength
  · intro row hrow plane channel hchannel
    obtain ⟨hplane, -⟩ := List.getElem?_eq_some_iff.mp hchannel
    have hindex : row * spool.channelOrder.length + plane <
        spool.height.toInt.toNat * spool.channelOrder.length := by
      have hle := Nat.mul_le_mul_right spool.channelOrder.length (Nat.succ_le_of_lt hrow)
      rw [Nat.succ_mul] at hle
      omega
    obtain ⟨place, hplace, hpacked, -⟩ := hline _ (hcount ▸ hindex)
    have hmod : (row * spool.channelOrder.length + plane) % spool.channelOrder.length = plane := by
      rw [Nat.mul_comm, Nat.mul_add_mod, Nat.mod_eq_of_lt hplane]
    have hdiv : (row * spool.channelOrder.length + plane) / spool.channelOrder.length = row := by
      rw [Nat.mul_comm, Nat.mul_add_div (by omega), Nat.div_eq_of_lt hplane, Nat.add_zero]
    rw [plane_lines_get hindex, hmod, hdiv, hchannel, Option.map_some] at hplace
    obtain rfl := Option.some.inj hplace
    exact ⟨_, List.getElem?_eq_getElem (hcount ▸ hindex), hpacked⟩

/-- A file that was committed from a spool, X-33 or multi-ink, is well-formed exactly if the
metadata of the spool file fits the metadata of the caller. -/
theorem spool_prn_well_formed_iff (localOutputPath : String → String) (io : OutputIo)
    (files : Store String) (sha256 : Sha256) (checksumIo : ChecksumIo) (spool : DirectPrintSpool)
    (outputPath : String) :
    (∀ after, writeStandardX33PrnFromSpool localOutputPath io files sha256 checksumIo spool
        outputPath = (after, true) →
      ∃ metadata content, readMetadata files spool.path = .ok metadata ∧
        after (localOutputPath outputPath) = some content ∧
        (WellFormed sha256 files spool metadata (x33HeaderBytes (x33Header spool)) content
            (x33Header spool)[4].toNat ((x33Header spool)[7] &&& 0xffff).toNat
            (x33Header spool)[3].toNat ↔
          Fits spool metadata)) ∧
    ∀ mode after, writeMultiInkPrnFromSpool localOutputPath io files sha256 checksumIo spool mode
        outputPath = (after, true) →
      ∃ metadata content, readMetadata files spool.path = .ok metadata ∧
        after (localOutputPath outputPath) = some content ∧
        (WellFormed sha256 files spool metadata (inkjetHeader mode spool).bytes content
            (inkjetHeader mode spool).pixelHeight.toNat (inkjetHeader mode spool).colorNum.toNat
            (inkjetHeader mode spool).bytesPerLine.toNat ↔
          Fits spool metadata) := by
  -- Each writer stores its header and what the reader of the spool gives; the counts of the header
  -- are those of the metadata that was passed, the lines those of the spool.
  constructor
  · intro after h
    obtain ⟨horder, hvalid, reader, hopen, hsave⟩ := x33_committed h
    obtain ⟨hrows, hcolors, hsize⟩ := x33_header_counts hvalid horder
    obtain ⟨content, hcontent, hiff⟩ := saved_well_formed_iff hopen hsave
    rw [hrows, hcolors, hsize]
    exact ⟨reader.metadata, content, (Reader.open_metadata hopen).2, hcontent, hiff⟩
  · intro mode after h
    obtain ⟨hvalid, reader, hopen, hsave⟩ := multi_ink_committed h
    obtain ⟨hrows, hcolors, hsize⟩ := inkjet_header_counts hvalid mode
    obtain ⟨content, hcontent, hiff⟩ := saved_well_formed_iff hopen hsave
    rw [hrows, hcolors, hsize]
    exact ⟨reader.metadata, content, (Reader.open_metadata hopen).2, hcontent, hiff⟩

/-! ## A spool of four planes -/

/-- The bytes of four lines. -/
def fourPlaneBody : Bytes := [0x1b, 0, 0, 0, 0xe4, 0, 0, 0, 0xff, 0, 0, 0, 0x55, 0, 0, 0]

/-- A spool file of four planes. -/
def fourPlaneFile : Store String :=
  Reader.headerFile (Writer.createMetadata fourPlaneMetadata) (some (List.replicate 32 0))
    fourPlaneBody

/-- The metadata of the spool file. -/
def fourPlaneSpool : DirectPrintSpool :=
  spoolOf "/a.pfrs" (recordOf (Writer.createMetadata fourPlaneMetadata) (some (List.replicate 32 0)))

/-- A caller that takes the lines for twice as long. -/
def widerSpool : DirectPrintSpool :=
  { fourPlaneSpool with width := 20, bytesPerLine := 8, bodyBytes := 0 }

/-- A caller with valid metadata, the four planes and one row gets its X-33 file. -/
theorem four_plane_written {caller : DirectPrintSpool} (hpath : caller.path = "/a.pfrs")
    (horder : caller.channelOrder = [2, 1, 0, 3]) (hheight : caller.height = 1)
    (hvalid : metadataIsValid caller = .ok ()) :
    ∃ after, writeStandardX33PrnFromSpool id {} fourPlaneFile zeroDigest {} caller "job.prn" =
        (after, true) ∧
      savePrn {} fourPlaneFile "job.prn" ⟨"/a.pfrs", fourPlaneSpool⟩
        (x33HeaderBytes (x33Header caller)) caller.channelOrder caller.height = (after, true) := by
  have hopen : Reader.open zeroDigest {} fourPlaneFile "/a.pfrs" true =
      .ok ⟨"/a.pfrs", fourPlaneSpool⟩ :=
    Reader.header_file_verified ⟨rfl, fun _ ↦ rfl, fun _ ↦ rfl⟩ four_plane_valid (fun _ ↦ rfl) rfl
  have hcomplete : Reader.Complete ⟨"/a.pfrs", fourPlaneSpool⟩ fourPlaneFile := by
    refine Reader.opened_complete hopen ?_
    rw [(Reader.opened_file hopen).2.2.2]
    decide
  have hlines : ∀ place ∈ planeLines caller.channelOrder caller.height, ∃ line,
      Reader.readLine ⟨"/a.pfrs", fourPlaneSpool⟩ fourPlaneFile place.1 place.2 = .ok line := by
    rw [horder, hheight]
    intro place hplace
    have hrange : InRange fourPlaneSpool place.1 place.2 :=
      plane_lines_in_range hcomplete.valid hplace
    exact ⟨_, Reader.read_line_eq hcomplete hrange⟩
  obtain ⟨after, hsave⟩ := save_prn_complete .default hlines "job.prn" (x33HeaderBytes (x33Header caller))
  refine ⟨after, ?_, hsave⟩
  unfold writeStandardX33PrnFromSpool
  rw [if_neg (not_not.mpr (.inl horder)), hvalid, hpath, hopen]
  exact hsave

theorem four_plane_spool_valid : Valid fourPlaneSpool := valid_spool_of_record.mpr four_plane_valid

theorem wider_spool_valid : Valid widerSpool :=
  ⟨by decide, by decide, by decide, by decide, by decide, by decide, by decide, by decide,
    by decide, by decide, by decide, List.all_iff_forall_prop.mp (by decide), Or.inl rfl⟩

/-- The caller that describes the spool file gets a well-formed file. -/
theorem spool_prn_well_formed_iff_four_planes :
    ∃ after content,
      writeStandardX33PrnFromSpool id {} fourPlaneFile zeroDigest {} fourPlaneSpool "job.prn" =
        (after, true) ∧
      after "job.prn" = some content ∧
      WellFormed zeroDigest fourPlaneFile fourPlaneSpool fourPlaneSpool
        (x33HeaderBytes (x33Header fourPlaneSpool)) content 1 4 4 := by
  obtain ⟨after, hwritten, -⟩ := @four_plane_written fourPlaneSpool rfl rfl rfl
    (metadata_is_valid_iff.mpr four_plane_spool_valid)
  obtain ⟨metadata, content, hmetadata, hcontent, hiff⟩ :=
    (spool_prn_well_formed_iff id {} fourPlaneFile zeroDigest {} fourPlaneSpool "job.prn").1 after
      hwritten
  have hread : readMetadata fourPlaneFile "/a.pfrs" = .ok fourPlaneSpool :=
    Reader.header_file_metadata four_plane_valid (is_checksum_some rfl) rfl
  obtain rfl := Except.ok.inj (hread.symm.trans hmetadata)
  exact ⟨after, content, hwritten, hcontent, hiff.mpr ⟨rfl, rfl, rfl, rfl, fun _ ↦ rfl⟩⟩

/-- The wider caller gets a file whose header promises twice as many bytes as there are. -/
theorem mismatched_spool_written :
    ∃ after content,
      writeStandardX33PrnFromSpool id {} fourPlaneFile zeroDigest {} widerSpool "job.prn" =
        (after, true) ∧
      after "job.prn" = some content ∧
      content.length = 48 + 16 ∧
      (x33Header widerSpool)[4].toNat * ((x33Header widerSpool)[7] &&& 0xffff).toNat *
        (x33Header widerSpool)[3].toNat = 32 := by
  obtain ⟨after, hwritten, hsave⟩ := @four_plane_written widerSpool rfl rfl rfl
    (metadata_is_valid_iff.mpr wider_spool_valid)
  obtain ⟨lines, -, hcount, hsizes, rfl⟩ := save_prn_sound hsave
  refine ⟨_, _, hwritten, Store.set_same _ _ _, ?_, by decide⟩
  have hheader : (x33HeaderBytes (x33Header widerSpool)).length = 48 := by decide
  have hlines : lines.length = 4 := hcount
  rw [List.length_append, flatten_length hsizes, hheader, hlines]
  rfl

end PrintFlow.NocaiPrnWriter
