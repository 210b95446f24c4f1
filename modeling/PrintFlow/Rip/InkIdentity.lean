import PrintFlow.Rip.SpooledInks
import PrintFlow.Vendor.Nocai.PrnFromSpool

/-!
# Printing every ink in its own plane

The PRN file of a multi-ink job is written from its spool. `ink_identity_iff` says when each
plane-line of the file is of the ink that the colour list names for its plane: always, but for the
modes with six and seven inks, where light cyan is named for light magenta. There it is so only if
the two have the same lines.
-/

namespace PrintFlow

open BoundedRasterPipeline FileStore MultiInkToneBuilder RasterSpool

/-! ## The header of a PRN file -/

/-- How many planes a row of a PRN file has. -/
def colourCount (content : Bytes) : Nat := content[49]!.toNat

/-- The byte of the colour list for a plane. -/
def colourOf (content : Bytes) (plane : Nat) : UInt8 := content[64 + plane]!

/-- A line of a plane. -/
def planeLine (content : Bytes) (lineSize row plane : Nat) : Bytes :=
  readAt content (80 + (row * colourCount content + plane) * lineSize) lineSize

/-- The fields of a header before the counts. -/
def headerFront (header : NocaiPrnWriter.InkjetImageHeader) : Bytes :=
  "inkjet".toList.map NocaiPrnWriter.inkByte ++ NocaiPrnWriter.word16 1 ++
    NocaiPrnWriter.word32 header.pixelWidth ++ NocaiPrnWriter.word32 header.pixelHeight ++
    NocaiPrnWriter.word32 (FloatFormat.singleBits header.xDpi) ++
    NocaiPrnWriter.word32 (FloatFormat.singleBits header.yDpi) ++
    NocaiPrnWriter.word32 header.bytesPerLine ++ NocaiPrnWriter.word32 0 ++ List.replicate 16 0

theorem header_front_length (header : NocaiPrnWriter.InkjetImageHeader) :
    (headerFront header).length = 48 := by
  have hword : ∀ value, (NocaiPrnWriter.word32 value).length = 4 := by
    intro value
    rw [NocaiPrnWriter.word32, List.length_reverse, DataStream.putUInt32, DataStream.put_nat_length]
  have hhalf : ∀ value, (NocaiPrnWriter.word16 value).length = 2 := by
    intro value
    rw [NocaiPrnWriter.word16, List.length_reverse, DataStream.putUInt16, DataStream.put_nat_length]
  have hname : ("inkjet".toList.map NocaiPrnWriter.inkByte).length = 6 := rfl
  unfold headerFront
  simp only [List.length_append]
  rw [hname, hhalf]
  simp only [hword, List.length_replicate]

/-- Where the count and the colour list stand in a header. -/
theorem header_bytes_eq (header : NocaiPrnWriter.InkjetImageHeader) :
    header.bytes = headerFront header ++
      ([2, header.colorNum] ++ (List.replicate 14 0 ++ header.colorList)) := by
  rw [← List.append_assoc, ← List.append_assoc]
  rfl

/-- What a file says of its planes is what its header says. -/
theorem colours_of_header {header : NocaiPrnWriter.InkjetImageHeader}
    (hlist : header.colorList.length = 16) (body : Bytes) :
    header.bytes.length = 80 ∧ colourCount (header.bytes ++ body) = header.colorNum.toNat ∧
      ∀ plane < 16, colourOf (header.bytes ++ body) plane = header.colorList[plane]! := by
  have hfront := header_front_length header
  have hbytes := header_bytes_eq header
  have hlength : header.bytes.length = 80 := by
    rw [hbytes]
    simp [hfront, hlist]
  refine ⟨hlength, ?_, ?_⟩
  · rw [colourCount, List.getElem!_eq_getElem?_getD, List.getElem?_append_left (by omega), hbytes,
      List.getElem?_append_right (by omega), hfront]
    rfl
  · intro plane hplane
    rw [colourOf, List.getElem!_eq_getElem?_getD, List.getElem?_append_left (by omega), hbytes,
      List.getElem?_append_right (by omega), hfront, List.getElem!_eq_getElem?_getD,
      List.getElem?_append_right (by simp; omega), List.getElem?_append_right (by simp; omega)]
    congr 2
    simp
    omega

namespace PrintJobMultiInk

/-- Every plane has a channel, which is of an ink of the builder and named by its byte. -/
theorem plane_ink (mode : InkMode) {plane : Nat} (hplane : plane < mode.value) :
    ∃ channel ink, (channelOrder mode)[plane]? = some channel ∧
      (builderInks mode)[channel.toInt.toNat]? = some ink ∧
      (NocaiPrnWriter.buildColorListForMode (writerMode mode) (channelOrder mode))[plane]! =
        (namedInk mode ink).boardByte := by
  have hperm := channel_order_perm mode
  have hlength := hperm.length_eq
  rw [List.length_map, List.length_range] at hlength
  have hbound : plane < (channelOrder mode).length := by rwa [hlength]
  have hchannel : (channelOrder mode)[plane].toInt.toNat < (builderInks mode).length := by
    rw [builder_inks_length]
    exact List.mem_range.mp (hperm.subset (List.mem_map_of_mem (List.getElem_mem hbound)))
  refine ⟨_, _, List.getElem?_eq_getElem hbound, List.getElem?_eq_getElem hchannel, ?_⟩
  rw [colour_list_eq, List.getElem!_eq_getElem?_getD,
    List.getElem?_append_left (by rwa [List.length_map]), List.getElem?_map,
    List.getElem?_eq_getElem hbound, Option.map_some, List.getElem?_eq_getElem hchannel]
  rfl

/-- A colour list has sixteen bytes. -/
theorem colour_list_length (mode : InkMode) :
    (NocaiPrnWriter.buildColorListForMode (writerMode mode) (channelOrder mode)).length = 16 := by
  cases mode <;> rfl

variable {V : Type} [QVariantApi V] (fl : ℚ → ℚ) (job : PrintJobMultiInk V)
  (assetPath : String → String) (openMask : String → Except String Mask) (image : SourceImage)
  (loader : ExternalPlateLoader)

/-- `writePRNFile`. -/
def writePRNFile (localOutputPath : String → String) (io : NocaiPrnWriter.OutputIo)
    (files : Store String) (sha256 : Sha256) (checksumIo : ChecksumIo) (spool : DirectPrintSpool)
    (outputPath : String) : Store String × Bool :=
  NocaiPrnWriter.writeMultiInkPrnFromSpool localOutputPath io files sha256 checksumIo spool
    (writerMode job.inkMode) outputPath

/-- A PRN file in which each plane-line is of the ink that the colour list names for its plane: the
tone plane of this ink, screened with its mask. -/
structure KeepsInks (content : Bytes) : Prop where
  planes : colourCount content = job.inkMode.value
  lines (row : Nat) (hrow : row < image.height) (plane : Nat) (hplane : plane < job.inkMode.value) :
    ∃ ink : Ink, ink.boardByte = colourOf content plane ∧
      (job.inkLines fl assetPath openMask image loader ink).bind (·[row]?) =
        some (planeLine content (((image.width + 3) / 4 + 3) / 4 * 4) row plane)

/-- The colour list of the job names its light inks for one another, and they have other lines. -/
structure MixesLightInks : Prop where
  mode : SwapsLight job.inkMode
  lines : job.inkLines fl assetPath openMask image loader .lightCyan ≠
    job.inkLines fl assetPath openMask image loader .lightMagenta

variable {fl job assetPath openMask image loader} {files : PlateFiles} {sha256 : Sha256}
  {xdpi ydpi : Int32} {store after : Store String} {spool : DirectPrintSpool}

/-- What a PRN file of the job holds: in each plane the lines of an ink of the builder, under the
name that the mode has for it. -/
structure Printed (fl : ℚ → ℚ) (job : PrintJobMultiInk V) (assetPath : String → String)
    (openMask : String → Except String Mask) (image : SourceImage) (loader : ExternalPlateLoader)
    (content : Bytes) : Prop where
  planes : colourCount content = job.inkMode.value
  lines (plane : Nat) (hplane : plane < job.inkMode.value) : ∃ channel ink,
    (channelOrder job.inkMode)[plane]? = some channel ∧
    (builderInks job.inkMode)[channel.toInt.toNat]? = some ink ∧
    colourOf content plane = (namedInk job.inkMode ink).boardByte ∧
    ∀ row < image.height, (job.inkLines fl assetPath openMask image loader ink).bind (·[row]?) =
      some (planeLine content (((image.width + 3) / 4 + 3) / 4 * 4) row plane)

/-- A PRN file that was written from a spool of the job. -/
theorem printed_of_written
    (hspool : RasterSpoolBuilt fl job assetPath openMask image files sha256 xdpi ydpi store spool
      loader) {localOutputPath : String → String} {io : NocaiPrnWriter.OutputIo}
    {checksumIo : ChecksumIo} {outputPath : String}
    (hwritten : job.writePRNFile localOutputPath io store sha256 checksumIo spool outputPath =
      (after, true)) :
    ∃ content, after (localOutputPath outputPath) = some content ∧
      Printed fl job assetPath openMask image loader content := by
  obtain ⟨packed, calls, hinks, hwriting, hspooled⟩ := hspool.packed_inks
  have hfilling := hinks.filling job xdpi ydpi
  obtain ⟨-, hmetadata⟩ := hspooled.metadata_eq
  have horder : spool.channelOrder = channelOrder job.inkMode := by rw [hmetadata]; rfl
  have hheight : spool.height.toInt.toNat = image.height := by
    rw [hmetadata]
    exact (spool_counts job.inkMode image xdpi ydpi).2
  have hbytes : lineBytes spool = ((image.width + 3) / 4 + 3) / 4 * 4 := by
    rw [hmetadata]
    exact spool_line_bytes job.inkMode image xdpi ydpi
  have hcolours : spool.channelOrder.length = job.inkMode.value := by
    have hlength := (channel_order_perm job.inkMode).length_eq
    rwa [List.length_map, List.length_range, ← horder] at hlength
  obtain ⟨hvalid, lines, hcontent, hsizes, hlines⟩ :=
    NocaiPrnWriter.multi_ink_lines (hspooled.finalized hwriting hfilling) hwritten
  have hlist : (NocaiPrnWriter.inkjetHeader (writerMode job.inkMode) spool).colorList.length = 16 := by
    show (NocaiPrnWriter.buildColorListForMode _ spool.channelOrder).length = 16
    rw [horder, colour_list_length]
  obtain ⟨hheader, hnumber, hnames⟩ := colours_of_header hlist lines.flatten
  rw [(NocaiPrnWriter.inkjet_header_counts hvalid _).2.1, hcolours] at hnumber
  refine ⟨_, hcontent, hnumber, ?_⟩
  intro plane hplane
  obtain ⟨channel, ink, hchannel, hink, hcolour⟩ := plane_ink job.inkMode hplane
  have hsixteen : job.inkMode.value ≤ 16 := hcolours ▸ hvalid.order_length
  refine ⟨channel, ink, hchannel, hink, ?_, ?_⟩
  · rw [hnames plane (by omega)]
    show (NocaiPrnWriter.buildColorListForMode _ spool.channelOrder)[plane]! = _
    rw [horder, hcolour]
  · intro row hrow
    obtain ⟨line, hline, hpacked⟩ := hlines row (hheight ▸ hrow) plane channel (horder ▸ hchannel)
    have hread := read_at_flatten hsizes hline
    rw [hbytes, hcolours] at hread
    have hnumbered : (Int32.ofNat row).toInt = row :=
      Int32.toInt_ofNat_of_lt (hrow.trans image.height_lt)
    obtain ⟨hnonneg, hlt⟩ := hvalid.order_mem channel (List.mem_of_getElem? (horder ▸ hchannel))
    have hrange : InRange (spoolMetadata job.inkMode image xdpi ydpi) channel (Int32.ofNat row) := by
      rw [hmetadata] at hlt hheight
      refine ⟨hnonneg, hlt, by omega, ?_⟩
      have hrows : (spoolMetadata job.inkMode image xdpi ydpi).height.toInt.toNat = image.height :=
        hheight
      omega
    obtain ⟨printed, hprinted, hsame⟩ := hfilling.line_at hrange
    rw [hnumbered, Int.toNat_natCast, Option.some.inj (hsame.symm.trans hpacked)] at hprinted
    rw [planeLine, hnumber, readAt, ← hheader, ← List.drop_drop, List.drop_left]
    exact (hinks.get job hink).trans (hprinted.trans (congrArg some hread.symm))

/-- The lines of the inks of the builder are there, one for each row. -/
theorem PackedInks.some_lines {packed : List MultiInkScreenEngine.PackedLines}
    (h : job.PackedInks fl assetPath openMask image loader packed) {ink : Ink}
    (hink : ink ∈ builderInks job.inkMode) :
    ∃ lines, job.inkLines fl assetPath openMask image loader ink = some lines ∧
      lines.length = image.height := by
  have hmem : job.inkLines fl assetPath openMask image loader ink ∈ packed.map some := by
    rw [← h]
    exact List.mem_map_of_mem hink
  obtain ⟨lines, -, hlines⟩ := List.mem_map.mp hmem
  refine ⟨lines, hlines.symm, ?_⟩
  unfold inkLines at hlines
  cases hmask : openMask (maskPath assetPath (job.inkMaskKey ink)) with
  | error message =>
      rw [hmask] at hlines
      cases hlines
  | ok mask =>
      rw [hmask] at hlines
      rw [Option.some.inj hlines, packed_lines_length]
      rfl

/-- In the modes that swap the light inks the plane named light cyan is of light magenta. -/
theorem swapped_plane {mode : InkMode} (h : SwapsLight mode) :
    4 < mode.value ∧ (channelOrder mode)[4]? = some 4 ∧
      (builderInks mode)[4]? = some .lightMagenta ∧ namedInk mode .lightMagenta = .lightCyan ∧
      Ink.lightCyan ∈ builderInks mode := by
  rcases h with rfl | rfl
  · decide
  · decide

/-- Where the light inks are mixed, the plane named light cyan has the lines of light magenta. -/
theorem Printed.light_cyan {content : Bytes}
    (h : Printed fl job assetPath openMask image loader content) (hswaps : SwapsLight job.inkMode) :
    colourOf content 4 = Ink.lightCyan.boardByte ∧ ∀ row < image.height,
      (job.inkLines fl assetPath openMask image loader .lightMagenta).bind (·[row]?) =
        some (planeLine content (((image.width + 3) / 4 + 3) / 4 * 4) row 4) := by
  obtain ⟨hfour, hfourth, hbuilder, hnamed, -⟩ := swapped_plane hswaps
  obtain ⟨channel, ink, hchannel, hink, hcolour, hlines⟩ := h.lines 4 hfour
  obtain rfl := Option.some.inj (hfourth.symm.trans hchannel)
  obtain rfl : Ink.lightMagenta = ink := Option.some.inj (hbuilder.symm.trans hink)
  rw [hnamed] at hcolour
  exact ⟨hcolour, hlines⟩

/-- Files that keep the inks do not mix the light ones. -/
theorem Printed.not_mixed {content : Bytes}
    (h : Printed fl job assetPath openMask image loader content)
    {packed : List MultiInkScreenEngine.PackedLines}
    (hinks : job.PackedInks fl assetPath openMask image loader packed)
    (hkeeps : job.KeepsInks fl assetPath openMask image loader content) :
    ¬ job.MixesLightInks fl assetPath openMask image loader := by
  intro hmixes
  obtain ⟨hfour, -, hbuilder, -, hcyan⟩ := swapped_plane hmixes.mode
  obtain ⟨hcolour, hmagenta⟩ := h.light_cyan hmixes.mode
  obtain ⟨cyanLines, hcyan_lines, hcyan_length⟩ := hinks.some_lines hcyan
  obtain ⟨magentaLines, hmagenta_lines, hmagenta_length⟩ :=
    hinks.some_lines (List.mem_of_getElem? hbuilder)
  refine hmixes.lines ?_
  rw [hcyan_lines, hmagenta_lines]
  refine congrArg some (List.ext_getElem? fun row ↦ ?_)
  by_cases hrow : row < image.height
  · obtain ⟨ink, hname, hline⟩ := hkeeps.lines row hrow 4 hfour
    obtain rfl := Ink.board_byte_injective (hname.trans hcolour)
    have hother := hmagenta row hrow
    rw [hcyan_lines] at hline
    rw [hmagenta_lines] at hother
    exact hline.trans hother.symm
  · rw [List.getElem?_eq_none (by omega), List.getElem?_eq_none (by omega)]

/-- Files of jobs that do not mix the light inks keep them all. -/
theorem Printed.keeps {content : Bytes}
    (h : Printed fl job assetPath openMask image loader content)
    (hmixes : ¬ job.MixesLightInks fl assetPath openMask image loader) :
    job.KeepsInks fl assetPath openMask image loader content := by
  have hnamed : ∀ ink, job.inkLines fl assetPath openMask image loader (namedInk job.inkMode ink) =
      job.inkLines fl assetPath openMask image loader ink := by
    intro ink
    unfold namedInk
    by_cases hswaps : SwapsLight job.inkMode
    · have hsame : job.inkLines fl assetPath openMask image loader .lightCyan =
          job.inkLines fl assetPath openMask image loader .lightMagenta := by
        by_contra hlines
        exact hmixes ⟨hswaps, hlines⟩
      rw [if_pos hswaps]
      cases ink
      case lightCyan => exact hsame.symm
      case lightMagenta => exact hsame
      all_goals rfl
    · rw [if_neg hswaps]
  refine ⟨h.planes, ?_⟩
  intro row hrow plane hplane
  obtain ⟨channel, ink, -, -, hcolour, hlines⟩ := h.lines plane hplane
  exact ⟨_, hcolour.symm, by rw [hnamed ink, hlines row hrow]⟩

/-- In a PRN file of a multi-ink job every plane-line is of the ink that the colour list names for
its plane, exactly if the colour list does not name light inks with other lines for one another. -/
theorem ink_identity_iff
    (hspool : RasterSpoolBuilt fl job assetPath openMask image files sha256 xdpi ydpi store spool
      loader) {localOutputPath : String → String} {io : NocaiPrnWriter.OutputIo}
    {checksumIo : ChecksumIo} {outputPath : String}
    (hwritten : job.writePRNFile localOutputPath io store sha256 checksumIo spool outputPath =
      (after, true)) :
    ∃ content, after (localOutputPath outputPath) = some content ∧
      (job.KeepsInks fl assetPath openMask image loader content ↔
        ¬ job.MixesLightInks fl assetPath openMask image loader) := by
  obtain ⟨content, hcontent, hprinted⟩ := printed_of_written hspool hwritten
  obtain ⟨packed, -, hinks, -⟩ := hspool.packed_inks
  exact ⟨content, hcontent, fun hkeeps ↦ hprinted.not_mixed hinks hkeeps, fun hmixes ↦
    hprinted.keeps hmixes⟩

/-! ## Jobs that are printed -/

/-- When the masks of its inks are there, the path in memory screens a job unless it is canceled. -/
theorem exists_screened (hreads : job.loaderThrows files image (coveredImages image) = false)
    (hmasks : ∀ ink ∈ builderInks job.inkMode, ∃ mask,
      openMask (maskPath assetPath (job.inkMaskKey ink)) = .ok mask) :
    ∃ tones trace packed, job.inMemoryTones fl files image = some tones ∧
      Interaction.Runs (MultiInkScreenEngine.screenChannels (job.screenRequest image tones)
        fun key ↦ (openMask (maskPath assetPath key)).toOption) trace (some packed) := by
  have htones : job.inMemoryTones fl files image = some ((builderInks job.inkMode).map
      (job.inkTone fl (coveredImages image) files.readPlate)) := by
    rw [in_memory_tones_eq, hreads, build_tone_channels_eq]
    rfl
  generalize hlist : (builderInks job.inkMode).map
    (job.inkTone fl (coveredImages image) files.readPlate) = tones at htones
  have hready : ∀ channelReq ∈ (job.screenRequest image tones).channels,
      (∃ mask, (openMask (maskPath assetPath channelReq.maskKey)).toOption = some mask) ∧
      ∃ tone, channelReq.toneBytes = some tone ∧ tone.length = image.width * image.height := by
    intro channelReq hmem
    obtain ⟨channel, hchannel, rfl⟩ := List.mem_map.mp hmem
    rw [List.mem_range, ← builder_inks_length] at hchannel
    obtain ⟨hkey, hbytes⟩ := @channel_request_eq _ _ job channel tones[channel]!
    obtain ⟨htone, -⟩ := @screen_request_channel _ _ fl job image files tones hlist.symm channel _
      (List.getElem?_eq_getElem hchannel)
    obtain ⟨mask, hmask⟩ := hmasks _ (List.getElem_mem hchannel)
    refine ⟨⟨mask, ?_⟩, _, hbytes, ?_⟩
    · rw [hkey, job.mask_key_for_channel_eq (List.getElem?_eq_getElem hchannel), hmask]
      rfl
    · rw [htone]
      exact job.ink_tone_length fl (coveredImages image) files.readPlate _
  obtain ⟨screens, hscreens⟩ := @exists_screens _ _ (job.screenRequest image tones)
    (fun key ↦ (openMask (maskPath assetPath key)).toOption) _
    (fun channelReq hmem ↦
      ⟨@screen_request_keys _ _ job image tones channelReq hmem, (hready channelReq hmem).1⟩)
    (fun channelReq hmem ↦ (hready channelReq hmem).2) (maskPath assetPath) 0
  -- Nobody cancels the job.
  obtain ⟨trace, result, hruns, hanswers⟩ := Interaction.exists_runs (fun _ ↦ false)
    (MultiInkScreenEngine.screenChannels (job.screenRequest image tones)
      fun key ↦ (openMask (maskPath assetPath key)).toOption)
  have hcanceled : ¬ MultiInkScreenEngine.Canceled trace := by
    intro hcanceled
    obtain ⟨event, hevent, hanswer⟩ := hcanceled
    exact Bool.false_ne_true ((hanswers event hevent).symm.trans hanswer)
  obtain rfl := (MultiInkScreenEngine.screen_channels_meets _ image.width_pos image.height_pos
    (@screen_request_length _ _ job image tones).2 hscreens trace _ hruns).finished hcanceled
  exact ⟨tones, trace, _, htones, hruns⟩

/-- Then it gets its PRN file, when nothing else fails. -/
theorem exists_printed (sha256 : Sha256)
    (hreads : job.loaderThrows files image (coveredImages image) = false)
    (hmasks : ∀ ink ∈ builderInks job.inkMode, ∃ mask,
      openMask (maskPath assetPath (job.inkMaskKey ink)) = .ok mask)
    (hvalid : Valid (Writer.createMetadata (spoolMetadata job.inkMode image xdpi ydpi)))
    (outputPath : String) :
    ∃ store spool after, RasterSpoolBuilt fl job assetPath openMask image files sha256 xdpi ydpi
        store spool files.readPlate ∧
      job.writePRNFile id {} store sha256 {} spool outputPath = (after, true) := by
  obtain ⟨tones, trace, packed, htones, hruns⟩ :=
    @exists_screened _ _ fl job assetPath openMask image files hreads hmasks
  have hfilling := (memory_packed_inks htones hruns).filling job xdpi ydpi
  have hwriting := writing_line_calls hfilling
  obtain ⟨store, spool, hspooled⟩ := hfilling.spooled hwriting hvalid sha256
  obtain ⟨reader, hopen, hsame⟩ := (hspooled.finalized hwriting hfilling).opens .default
  obtain ⟨after, -, hwritten⟩ := NocaiPrnWriter.multi_ink_writers_agree .default hopen hsame id outputPath
    (writerMode job.inkMode)
  obtain ⟨hchannels, hheight⟩ := spool_counts job.inkMode image xdpi ydpi
  rw [hchannels, hheight] at hspooled
  exact ⟨store, spool, after, .inMemory htones hruns hspooled, hwritten⟩

/-- One pixel of a magenta that is split into dark and light. -/
def magentaImage : SourceImage :=
  { blankImage with pixels := [⟨0, 48, 0, 0⟩], pixels_length := rfl }

/-- A job with the defaults of a mode. -/
def plainJob (mode : InkMode) : PrintJobMultiInk Variant where
  inkMode := mode
  modeParams := variantMap []
  dotStrategy := {}
  screenSeed := 7
  whitePlatePath := ""
  varnishPlatePath := ""
  linearization := MultiInkLinearization.ofChannels (fun _ ↦ id) fun _ ↦ true
  enableLinearization := false

/-- It prints no plate. -/
theorem plain_job_reads (mode : InkMode) (files : PlateFiles) (image : SourceImage) :
    (plainJob mode).loaderThrows files image (coveredImages image) = false := by
  cases mode <;> rfl

/-- A mask of one pixel that every tone exceeds. -/
def openPixelMask : Mask where
  width := 1
  height := 1
  data := [0]
  width_pos := Nat.one_pos
  height_pos := Nat.one_pos
  data_length := rfl

/-- The spool of one pixel is valid. -/
theorem magenta_spool_valid {mode : InkMode}
    (h : mode = .SixColor_YMCK_Lm_Lc ∨ mode = .EightColor_YMCK_Lm_Lc_Lk_LLk) :
    Valid (Writer.createMetadata (spoolMetadata mode magentaImage 720 1440)) := by
  rcases h with rfl | rfl
  all_goals exact ⟨by decide, by decide, by decide, by decide, by decide, by decide, by decide,
    by decide, by decide, by decide, by decide, List.all_iff_forall_prop.mp (by decide), Or.inr rfl⟩

/-- With eight inks the pixel is printed in its inks. -/
theorem ink_identity_iff_eight_inks :
    ∃ store spool after content,
      RasterSpoolBuilt FloatFormat.binary32.round (plainJob .EightColor_YMCK_Lm_Lc_Lk_LLk) id
        (fun _ ↦ .ok openPixelMask) magentaImage fullPlates zeroDigest 720 1440 store spool
        fullPlates.readPlate ∧
      (plainJob .EightColor_YMCK_Lm_Lc_Lk_LLk).writePRNFile id {} store zeroDigest {} spool
        "job.prn" = (after, true) ∧
      after "job.prn" = some content ∧
      (plainJob .EightColor_YMCK_Lm_Lc_Lk_LLk).KeepsInks FloatFormat.binary32.round id
        (fun _ ↦ .ok openPixelMask) magentaImage fullPlates.readPlate content := by
  obtain ⟨store, spool, after, hspool, hwritten⟩ := @exists_printed _ _ FloatFormat.binary32.round
    (plainJob .EightColor_YMCK_Lm_Lc_Lk_LLk) id (fun _ ↦ .ok openPixelMask) magentaImage fullPlates
    720 1440 zeroDigest (plain_job_reads _ _ _) (fun _ _ ↦ ⟨openPixelMask, rfl⟩)
    (magenta_spool_valid (.inr rfl)) "job.prn"
  obtain ⟨content, hcontent, hiff⟩ := ink_identity_iff hspool hwritten
  exact ⟨store, spool, after, content, hspool, hwritten, hcontent,
    hiff.mpr fun hmixes ↦ absurd hmixes.mode (by decide)⟩

/-- With six inks it is not: its light magenta stands in the plane that is named light cyan. -/
theorem light_magenta_named_light_cyan :
    ∃ store spool after content,
      RasterSpoolBuilt FloatFormat.binary32.round (plainJob .SixColor_YMCK_Lm_Lc) id
        (fun _ ↦ .ok openPixelMask) magentaImage fullPlates zeroDigest 720 1440 store spool
        fullPlates.readPlate ∧
      (plainJob .SixColor_YMCK_Lm_Lc).writePRNFile id {} store zeroDigest {} spool "job.prn" =
        (after, true) ∧
      after "job.prn" = some content ∧
      ¬ (plainJob .SixColor_YMCK_Lm_Lc).KeepsInks FloatFormat.binary32.round id
        (fun _ ↦ .ok openPixelMask) magentaImage fullPlates.readPlate content := by
  obtain ⟨store, spool, after, hspool, hwritten⟩ := @exists_printed _ _ FloatFormat.binary32.round
    (plainJob .SixColor_YMCK_Lm_Lc) id (fun _ ↦ .ok openPixelMask) magentaImage fullPlates 720 1440
    zeroDigest (plain_job_reads _ _ _) (fun _ _ ↦ ⟨openPixelMask, rfl⟩)
    (magenta_spool_valid (.inl rfl)) "job.prn"
  obtain ⟨content, hcontent, hprinted⟩ := printed_of_written hspool hwritten
  obtain ⟨packed, -, hinks, -⟩ := hspool.packed_inks
  refine ⟨store, spool, after, content, hspool, hwritten, hcontent, fun hkeeps ↦ ?_⟩
  refine hprinted.not_mixed hinks hkeeps ⟨.inl rfl, ?_⟩
  decide +kernel

end PrintJobMultiInk

end PrintFlow
