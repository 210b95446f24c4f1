import Mathlib.Data.Bool.AllAny
import PrintFlow.Core.RasterSpool.RoundTrip
import PrintFlow.Vendor.Nocai.PrnWriter

/-!
# A spool and its lines give the same printer file

A PRN file written from packed lines and one written from a finalized spool that holds those lines
are equal: both writers put the same header in front of the same plane-lines.
-/

namespace PrintFlow.NocaiPrnWriter

open DataStream FileStore FloatFormat RasterSpool

/-- A finalized spool in these files that holds these packed lines: they are the ones a writer wrote
last, and there are no others. -/
structure FinalizedSpool (sha256 : Sha256) (packedLines : List (List Bytes)) (files : Store String)
    (spool : DirectPrintSpool) : Prop where
  written : ∃ (s created finished : State) (io : CreateIo) (directory : String)
    (metadata : DirectPrintSpool) (calls : List WriteCall) (finalIo : FinalizeIo),
    Writer.create s io directory metadata = (created, .ok ()) ∧
    Writer.finalize sha256 (writeLines created calls) finalIo = (finished, .ok spool) ∧
    files spool.path = finished.files spool.path ∧
    ∀ channel row, InRange metadata channel row →
      lastWritten metadata calls channel row = packedLine packedLines channel row
  channels : packedLines.length = spool.logicalChannelCount.toInt.toNat
  rows : ∀ plane ∈ packedLines, plane.length = spool.height.toInt.toNat

/-- A reader and packed lines that give the same plane-lines. -/
structure SameLines (packedLines : List (List Bytes)) (files : Store String)
    (spool : DirectPrintSpool) (reader : Reader) : Prop where
  valid : Valid spool
  lines : ∀ channel row, InRange spool channel row → ∃ bytes,
    packedLine packedLines channel row = some bytes ∧
    reader.readLine files channel row = .ok bytes ∧ bytes.length = lineBytes spool

variable {sha256 : Sha256} {checksumIo : ChecksumIo} {packedLines : List (List Bytes)}
  {files : Store String} {spool : DirectPrintSpool} {reader : Reader} {io : OutputIo}

/-- A line that is read has the size of a line. -/
theorem read_line_length {channel row : Int32} {bytes : Bytes}
    (h : reader.readLine files channel row = .ok bytes) :
    bytes.length = lineBytes reader.metadata := by
  unfold Reader.readLine at h
  dsimp only at h
  split_ifs at h with hrange hlength
  obtain rfl := Except.ok.inj h
  have hsize := not_not.mp hlength
  simp only [lineBytes]
  omega

/-- A finalized spool opens and gives its lines. -/
theorem FinalizedSpool.opens (h : FinalizedSpool sha256 packedLines files spool)
    (hchecksum : checksumIo.Ok) :
    ∃ reader, Reader.open sha256 checksumIo files spool.path true = .ok reader ∧
      SameLines packedLines files spool reader := by
  obtain ⟨s, created, finished, createIo, directory, metadata, calls, finalIo, hcreate, hfinalize,
    hfile, hlines⟩ := h.written
  obtain ⟨⟨content, hholds⟩, hmetadata⟩ := session_table hcreate calls
  have hvalid := hholds.valid
  have hsize : (0 : Int64) < 1 := by decide
  have hsizes : ∀ index : Nat, (0 : Int64) < (fun _ ↦ 1) index := fun _ ↦ hsize
  obtain ⟨hspool, -, reader, hopen, hreader, hread, -⟩ :=
    hholds.reads_back hfinalize hfile hchecksum true hsizes
  rw [hmetadata] at hspool hread hvalid
  refine ⟨reader, hopen, ?_, ?_⟩
  · rw [hspool]
    exact ⟨hvalid.1, hvalid.2, hvalid.3, hvalid.4, hvalid.5, hvalid.6, hvalid.7, hvalid.8, hvalid.9,
      hvalid.10, hvalid.11, hvalid.12, hvalid.13⟩
  · intro channel row hrange
    have hcreated : InRange (Writer.createMetadata metadata) channel row := by
      rw [hspool] at hrange
      exact ⟨hrange.1, hrange.2, hrange.3, hrange.4⟩
    obtain ⟨bytes, hlast, hbytes⟩ := hread channel row hcreated
    have hline := hlines channel row ⟨hcreated.1, hcreated.2, hcreated.3, hcreated.4⟩
    exact ⟨bytes, hline.symm.trans hlast, hbytes, hreader ▸ read_line_length hbytes⟩

/-! ## The loops -/

/-- An output stream that does not fail holds what was written. -/
theorem streamed_ok (hio : io.Ok) (index : Nat) (content : Bytes) (chunks : List Bytes) :
    streamed io index content chunks = (content ++ chunks.flatten, true) := by
  induction chunks generalizing index content with
  | nil => simp [streamed]
  | cons chunk chunks ih =>
      rw [streamed, if_pos (hio.write index), Io.stored_of_ok (hio.write index), ih,
        List.flatten_cons, List.append_assoc]

/-- The plane-lines read from the spool are the packed lines. -/
theorem save_plane_lines_ok (hio : io.Ok) (places : List (Int32 × Int32))
    (hplaces : ∀ place ∈ places, ∃ bytes, packedLine packedLines place.1 place.2 = some bytes ∧
      reader.readLine files place.1 place.2 = .ok bytes) (index : Nat) (content : Bytes) :
    ∃ lines, places.mapM (fun (channel, row) ↦ packedLine packedLines channel row) = some lines ∧
      savePlaneLines io files reader index places content = some (content ++ lines.flatten) := by
  induction places generalizing index content with
  | nil => exact ⟨[], rfl, by simp [savePlaneLines]⟩
  | cons place places ih =>
      obtain ⟨channel, row⟩ := place
      obtain ⟨bytes, hpacked, hread⟩ := hplaces _ List.mem_cons_self
      obtain ⟨lines, hlines, hsaved⟩ :=
        ih (fun other hother ↦ hplaces other (List.mem_cons_of_mem _ hother)) (index + 1)
          (content ++ bytes)
      refine ⟨bytes :: lines, ?_, ?_⟩
      · rw [List.mapM_cons, hlines]
        dsimp only at hpacked ⊢
        rw [hpacked]
        rfl
      · dsimp only at hread
        rw [savePlaneLines, hread]
        dsimp only
        rw [if_pos (hio.write index), hsaved, List.flatten_cons, List.append_assoc]

/-- The plane-lines a writer visits are in range. -/
theorem plane_lines_in_range (hvalid : Valid spool) {place : Int32 × Int32}
    (hplace : place ∈ planeLines spool.channelOrder spool.height) :
    InRange spool place.1 place.2 := by
  obtain ⟨row, hrow, hchannel⟩ := List.mem_flatMap.mp hplace
  obtain ⟨channel, hmem, rfl⟩ := List.mem_map.mp hchannel
  have hheight := spool.height.toInt_lt
  rw [List.mem_range] at hrow
  have hto : (Int32.ofNat row).toInt = row := Int32.toInt_ofNat_of_lt (by omega)
  obtain ⟨hnonneg, hlt⟩ := hvalid.order_mem channel hmem
  exact ⟨hnonneg, hlt, by dsimp only; omega, by dsimp only; omega⟩

/-- With the same header both ways of writing give the same files. -/
theorem stream_prn_eq_save (hio : io.Ok) (h : SameLines packedLines files spool reader)
    (path : String) (header : Bytes) :
    ∃ written, streamPrn io files path packedLines header spool.channelOrder spool.height =
        some (written, true) ∧
      savePrn io files path reader header spool.channelOrder spool.height = (written, true) := by
  obtain ⟨lines, hlines, hsaved⟩ := save_plane_lines_ok hio
    (planeLines spool.channelOrder spool.height) (fun place hplace ↦ by
      obtain ⟨bytes, hpacked, hread, -⟩ := h.lines _ _ (plane_lines_in_range h.valid hplace)
      exact ⟨bytes, hpacked, hread⟩) 1 header
  refine ⟨files.set path (header ++ lines.flatten), ?_, ?_⟩
  · rw [streamPrn, hlines]
    simp only [Option.bind_eq_bind, Option.bind_some, streamed_ok hio, hio.closed]
    rfl
  · simp only [savePrn, hio.opened, hio.write 0, hsaved, hio.closed, not_true_eq_false, or_self,
      if_false, if_true]

/-! ## The writers -/

/-- The first packed line has the size of a line. -/
theorem SameLines.first_line (h : SameLines packedLines files spool reader) :
    ∃ first rest planes, packedLines = (first :: rest) :: planes ∧
    first.length = lineBytes spool := by
  have hheight := h.valid.height_pos
  have hchannels := h.valid.channels_pos
  obtain ⟨bytes, hpacked, -, hlength⟩ := h.lines 0 0 ⟨by simp, by simpa, by simp, by simpa⟩
  unfold packedLine at hpacked
  match packedLines, hpacked with
  | [] :: _, hpacked => exact absurd hpacked (by simp)
  | (first :: rest) :: planes, hpacked =>
      have hfirst : first = bytes := by simpa using hpacked
      exact ⟨first, rest, planes, rfl, hfirst ▸ hlength⟩

/-- The channels of the order pass the check of the X-33 writer. -/
theorem SameLines.channel_fits (h : SameLines packedLines files spool reader)
    (hchannels : packedLines.length = spool.logicalChannelCount.toInt.toNat)
    (hrows : ∀ plane ∈ packedLines, plane.length = spool.height.toInt.toNat) {bytesPerLine : UInt32}
    (hbytes : bytesPerLine.toNat = lineBytes spool) {channel : Int32}
    (hchannel : channel ∈ spool.channelOrder) :
    channelFits packedLines spool.height bytesPerLine channel = true := by
  obtain ⟨hnonneg, hlt⟩ := h.valid.order_mem channel hchannel
  have hcount := h.valid.channels_le
  have hindex : channel.toInt.toNat < packedLines.length := by omega
  have hlength : (Int32.ofNat packedLines.length).toInt = packedLines.length :=
    Int32.toInt_ofNat_of_lt (by omega)
  have hsigned : ¬ channel < 0 := by
    rw [Int32.lt_iff_toInt_lt, Int32.toInt_zero]
    omega
  have hbelow : ¬ channel ≥ Int32.ofNat packedLines.length := by
    rw [ge_iff_le, Int32.le_iff_toInt_le, hlength]
    omega
  have hplane := List.getElem?_eq_getElem hindex
  have hmem := List.getElem_mem hindex
  generalize packedLines[channel.toInt.toNat] = plane at hplane hmem
  have hall : plane.all (·.length == bytesPerLine.toNat) = true := by
    refine List.all_eq_true.mpr fun line hline ↦ ?_
    obtain ⟨row, hrow, rfl⟩ := List.mem_iff_getElem.mp hline
    have hheight := spool.height.toInt_lt
    have hrows := hrows plane hmem
    have hto : (Int32.ofNat row).toInt = row := Int32.toInt_ofNat_of_lt (by omega)
    obtain ⟨bytes, hpacked, -, hsize⟩ :=
      h.lines channel (Int32.ofNat row) ⟨hnonneg, hlt, by omega, by omega⟩
    have hread : packedLine packedLines channel (Int32.ofNat row) = some plane[row] := by
      have hpositive : ¬ Int32.ofNat row < 0 := by
        rw [Int32.lt_iff_toInt_lt, Int32.toInt_zero]
        omega
      rw [packedLine, if_neg (not_or.mpr ⟨hsigned, hpositive⟩), hplane, hto, Int.toNat_natCast]
      exact List.getElem?_eq_getElem hrow
    obtain rfl := Option.some.inj (hread.symm.trans hpacked)
    rw [hbytes, hsize]
    exact beq_self_eq_true _
  rw [channelFits, decide_eq_false hsigned, decide_eq_false hbelow, hplane, Option.any_some,
    hrows plane hmem, beq_self_eq_true, hall]
  rfl

/-- The X-33 file of a spool is the one of its lines. -/
theorem x33_writers_agree (hio : io.Ok) (hspool : FinalizedSpool sha256 packedLines files spool)
    (hopen : Reader.open sha256 checksumIo files spool.path true = .ok reader)
    (hsame : SameLines packedLines files spool reader) (localOutputPath : String → String)
    (outputPath : String) (horder : IsX33Order spool.channelOrder) :
    ∃ written, writeStandardX33Prn localOutputPath io files packedLines spool.channelOrder
          spool.width spool.height spool.xdpi spool.ydpi outputPath = some (written, true) ∧
      writeStandardX33PrnFromSpool localOutputPath io files sha256 checksumIo spool outputPath =
        (written, true) := by
  obtain ⟨first, rest, planes, rfl, hfirst⟩ := hsame.first_line
  have hvalid : metadataIsValid spool = .ok () := metadata_is_valid_iff.mpr hsame.valid
  have hline := spool.bytesPerLine.toInt_lt
  have hpositive := hsame.valid.line_pos
  have hbytes : (UInt32.ofNat first.length).toNat = lineBytes spool := by
    rw [hfirst, lineBytes]
    exact UInt32.toNat_ofNat_of_lt (by simp only [UInt32.size]; omega)
  have hnonzero : UInt32.ofNat first.length ≠ 0 := by
    intro hzero
    rw [hzero, lineBytes, UInt32.toNat_zero] at hbytes
    omega
  have hword : (UInt32.ofNat first.length).toInt32 = spool.bytesPerLine := by
    have hto : (Int32.ofNat first.length).toInt = first.length :=
      Int32.toInt_ofNat_of_lt (by rw [hfirst, lineBytes]; omega)
    refine Int32.toInt_inj.mp ((show (UInt32.ofNat first.length).toInt32.toInt = _ from hto).trans ?_)
    rw [hfirst, lineBytes]
    omega
  have hchecks : ¬ (¬ IsX33Order spool.channelOrder ∨ spool.width ≤ 0 ∨ spool.height ≤ 0 ∨
      ¬ io.opened = true) := by
    have hwidth := hsame.valid.width_pos
    have hheight := hsame.valid.height_pos
    simp only [Int32.le_iff_toInt_le, Int32.toInt_zero, hio.opened, horder, not_true_eq_false,
      false_or, or_false, not_or]
    omega
  have hfits : spool.channelOrder.all (channelFits ((first :: rest) :: planes) spool.height
      (UInt32.ofNat first.length)) = true :=
    List.all_eq_true.mpr fun channel hchannel ↦
      hsame.channel_fits hspool.channels hspool.rows hbytes hchannel
  obtain ⟨written, hstream, hsave⟩ := stream_prn_eq_save hio hsame (localOutputPath outputPath)
    (x33HeaderBytes (makeStandardX33Header spool.width spool.height spool.xdpi spool.ydpi
      spool.bytesPerLine (Int32.ofNat spool.channelOrder.length)))
  refine ⟨written, ?_, ?_⟩
  · rw [writeStandardX33Prn, if_neg hchecks]
    dsimp only
    rw [if_neg (not_or.mpr ⟨hnonzero, not_not.mpr hfits⟩), hword, hstream]
  · rw [writeStandardX33PrnFromSpool, if_neg (not_not.mpr horder), hvalid, hopen]
    exact hsave

/-- The multi-ink file of a spool is the one of its lines. -/
theorem multi_ink_writers_agree (hio : io.Ok)
    (hopen : Reader.open sha256 checksumIo files spool.path true = .ok reader)
    (hsame : SameLines packedLines files spool reader) (localOutputPath : String → String)
    (outputPath : String) (mode : MultiInkMode) :
    ∃ written, writeMultiInkPrn localOutputPath io files packedLines spool.channelOrder mode
          spool.width spool.height spool.xdpi spool.ydpi spool.bytesPerLine outputPath =
        some (written, true) ∧
      writeMultiInkPrnFromSpool localOutputPath io files sha256 checksumIo spool mode outputPath =
        (written, true) := by
  obtain ⟨first, rest, planes, rfl, -⟩ := hsame.first_line
  have hvalid : metadataIsValid spool = .ok () := metadata_is_valid_iff.mpr hsame.valid
  have hlength := hsame.valid.order_length
  have hnonempty := List.length_pos_iff.mpr hsame.valid.order_ne_nil
  have hcolors : (UInt32.ofNat spool.channelOrder.length).toNat = spool.channelOrder.length :=
    UInt32.toNat_ofNat_of_lt (by simp only [UInt32.size]; omega)
  have hchecks : ¬ (UInt32.ofNat spool.channelOrder.length = 0 ∨
      UInt32.ofNat spool.channelOrder.length > 16 ∨ ¬ io.opened = true) := by
    have hsixteen : UInt32.toNat 16 = 16 := rfl
    simp only [← UInt32.toNat_inj, gt_iff_lt, UInt32.lt_iff_toNat_lt, hcolors, UInt32.toNat_zero,
      hsixteen, hio.opened, not_true_eq_false, or_false, not_or]
    omega
  -- the two clamps of the horizontal resolution differ only in how they are written
  have hclamp : (if 720 < float spool.xdpi then 720 else float spool.xdpi) =
      min 720 (float spool.xdpi) := by
    by_cases hover : 720 < float spool.xdpi
    · rw [if_pos hover, min_eq_left hover.le]
    · rw [if_neg hover, min_eq_right (not_lt.mp hover)]
  have hbyte : (UInt32.ofNat spool.channelOrder.length).toUInt8 =
      UInt8.ofNat spool.channelOrder.length := UInt32.toUInt8_ofNat' _
  obtain ⟨written, hstream, hsave⟩ := stream_prn_eq_save hio hsame (localOutputPath outputPath)
    (InkjetImageHeader.bytes
      { pixelWidth := uint32 spool.width, pixelHeight := uint32 spool.height
        xDpi := min 720 (float spool.xdpi), yDpi := float spool.ydpi
        bytesPerLine := uint32 spool.bytesPerLine
        colorNum := UInt8.ofNat spool.channelOrder.length
        colorList := buildColorListForMode mode spool.channelOrder })
  refine ⟨written, ?_, ?_⟩
  · rw [writeMultiInkPrn, if_neg hchecks]
    dsimp only
    rw [hclamp, hbyte, hstream]
    rfl
  · rw [writeMultiInkPrnFromSpool, if_neg (not_lt.mpr hlength), hvalid, hopen]
    exact hsave

/-- The files written from a finalized spool and from its lines are equal, X-33 or multi-ink: the
same bytes in the same place. An X-33 file is written exactly for the orders both writers accept. -/
theorem prn_writers_agree (sha256 : Sha256) (checksumIo : ChecksumIo) (hchecksum : checksumIo.Ok)
    (io : OutputIo) (hio : io.Ok) (localOutputPath : String → String)
    (packedLines : List (List Bytes)) (files : Store String) (spool : DirectPrintSpool)
    (hspool : FinalizedSpool sha256 packedLines files spool) (outputPath : String) :
    (writeStandardX33Prn localOutputPath io files packedLines spool.channelOrder spool.width
          spool.height spool.xdpi spool.ydpi outputPath =
        some (writeStandardX33PrnFromSpool localOutputPath io files sha256 checksumIo spool
          outputPath) ∧
      (IsX33Order spool.channelOrder →
        (writeStandardX33PrnFromSpool localOutputPath io files sha256 checksumIo spool
          outputPath).2 = true)) ∧
    ∀ mode,
      writeMultiInkPrn localOutputPath io files packedLines spool.channelOrder mode spool.width
          spool.height spool.xdpi spool.ydpi spool.bytesPerLine outputPath =
        some (writeMultiInkPrnFromSpool localOutputPath io files sha256 checksumIo spool mode
          outputPath) ∧
      (writeMultiInkPrnFromSpool localOutputPath io files sha256 checksumIo spool mode
        outputPath).2 = true := by
  obtain ⟨reader, hopen, hsame⟩ := hspool.opens hchecksum
  refine ⟨?_, fun mode ↦ ?_⟩
  -- Both X-33 writers refuse another order of the channels before they write.
  · by_cases horder : IsX33Order spool.channelOrder
    · obtain ⟨written, hpacked, hsaved⟩ :=
        x33_writers_agree hio hspool hopen hsame localOutputPath outputPath horder
      rw [hpacked, hsaved]
      exact ⟨rfl, fun _ ↦ rfl⟩
    · obtain ⟨first, rest, planes, rfl, -⟩ := hsame.first_line
      rw [writeStandardX33Prn, if_pos (.inl horder), writeStandardX33PrnFromSpool, if_pos horder]
      exact ⟨rfl, fun hyes ↦ absurd hyes horder⟩
  · obtain ⟨written, hpacked, hsaved⟩ :=
      multi_ink_writers_agree hio hopen hsame localOutputPath outputPath mode
    rw [hpacked, hsaved]
    exact ⟨rfl, rfl⟩

/-! ## A spool of four planes -/

/-- One row of four dots in four inks. -/
def fourPlaneMetadata : DirectPrintSpool where
  channelOrder := [2, 1, 0, 3]
  logicalChannelCount := 4
  width := 4
  height := 1
  xdpi := 720
  ydpi := 1440
  bytesPerLine := 4
  format := .nocaiX33Standard

/-- Its lines. -/
def fourPlanes : List (List Bytes) :=
  [[[0x1b, 0, 0, 0]], [[0xe4, 0, 0, 0]], [[0xff, 0, 0, 0]], [[0x55, 0, 0, 0]]]

/-- They are written from the last plane to the first. -/
def fourPlaneCalls : List WriteCall :=
  [⟨3, 0, [0x55, 0, 0, 0]⟩, ⟨2, 0, [0xff, 0, 0, 0]⟩, ⟨1, 0, [0xe4, 0, 0, 0]⟩, ⟨0, 0, [0x1b, 0, 0, 0]⟩]

theorem four_plane_valid : Valid (Writer.createMetadata fourPlaneMetadata) :=
  ⟨by decide, by decide, by decide, by decide, by decide, by decide, by decide, by decide,
    by decide, by decide, by decide, List.all_iff_forall_prop.mp (by decide), Or.inr rfl⟩

/-- Every line of the spool is the packed one. -/
theorem four_plane_lines (channel row : Int32) (h : InRange fourPlaneMetadata channel row) :
    lastWritten fourPlaneMetadata fourPlaneCalls channel row = packedLine fourPlanes channel row ∧
      (lastWritten fourPlaneMetadata fourPlaneCalls channel row).isSome = true := by
  obtain ⟨hchannel, hchannel_lt, hrow, hrow_lt⟩ := h
  have hone : Int32.toInt 1 = 1 := rfl
  have htwo : Int32.toInt 2 = 2 := rfl
  have hthree : Int32.toInt 3 = 3 := rfl
  have hfour : Int32.toInt 4 = 4 := rfl
  simp only [fourPlaneMetadata, hone, hfour] at hchannel_lt hrow_lt
  obtain rfl : row = 0 := Int32.toInt_inj.mp (by rw [Int32.toInt_zero]; omega)
  have hcases : channel = 0 ∨ channel = 1 ∨ channel = 2 ∨ channel = 3 := by
    simp only [← Int32.toInt_inj, Int32.toInt_zero, hone, htwo, hthree]
    omega
  rcases hcases with rfl | rfl | rfl | rfl
  all_goals decide

/-- The spool can be finalized. -/
theorem four_plane_spool : ∃ files spool, FinalizedSpool zeroDigest fourPlanes files spool ∧
    spool.channelOrder = [2, 1, 0, 3] := by
  have hall : ∀ channel row, InRange fourPlaneMetadata channel row →
      ∃ call ∈ fourPlaneCalls, call.Writes fourPlaneMetadata channel row :=
    fun channel row hrange ↦ last_written_is_some.mp (four_plane_lines channel row hrange).2
  obtain ⟨s, created, finished, spool, hcreate, hfinalize⟩ :=
    exists_finalized zeroDigest four_plane_valid hall
  obtain ⟨⟨content, hholds⟩, hmetadata⟩ := session_table hcreate fourPlaneCalls
  have hspool := hholds.finalized_metadata hfinalize
  rw [hmetadata] at hspool
  have hfields : spool.logicalChannelCount = 4 ∧ spool.height = 1 ∧
      spool.channelOrder = [2, 1, 0, 3] := by
    rw [hspool]
    exact ⟨rfl, rfl, rfl⟩
  refine ⟨finished.files, spool, ⟨?_, ?_, ?_⟩, hfields.2.2⟩
  · exact ⟨s, created, finished, _, _, fourPlaneMetadata, fourPlaneCalls, {}, hcreate, hfinalize, rfl,
      fun channel row hrange ↦ (four_plane_lines channel row hrange).1⟩
  · rw [hfields.1]
    rfl
  · rw [hfields.2.1]
    decide

/-- Its file is the same as the one of its lines, as an X-33 file and in every mode. -/
theorem prn_writers_agree_four_planes :
    ∃ files spool, FinalizedSpool zeroDigest fourPlanes files spool ∧
      (writeStandardX33PrnFromSpool id {} files zeroDigest {} spool "job.prn").2 = true ∧
      writeStandardX33Prn id {} files fourPlanes spool.channelOrder spool.width spool.height
          spool.xdpi spool.ydpi "job.prn" =
        some (writeStandardX33PrnFromSpool id {} files zeroDigest {} spool "job.prn") := by
  obtain ⟨files, spool, hspool, horder⟩ := four_plane_spool
  obtain ⟨⟨hequal, hwritten⟩, -⟩ := prn_writers_agree zeroDigest {} .default {}
    .default id fourPlanes files spool hspool "job.prn"
  exact ⟨files, spool, hspool, hwritten (.inl horder), hequal⟩

end PrintFlow.NocaiPrnWriter
