import PrintFlow.Rip.InkPresence
import PrintFlow.Rip.PlaneInks
import PrintFlow.Vendor.Nocai.PrnAgreement

/-!
# The inks in a spool

A multi-ink job is screened into a spool on one of two paths. Both hand the writer of the spool, in
different orders, the lines of the inks of the job: the tone plane of each ink, screened with its
mask.
-/

namespace PrintFlow

open BoundedRasterPipeline FileStore Interaction MultiInkToneBuilder RasterSpool

/-! ## Screens with the same lines -/

/-- The gate is clamped when it is used, so that clamping it before changes nothing. -/
theorem Screen.lines_gated (screen : Screen) :
    ({ screen with config := PrintJobMultiInk.gated screen.config } : Screen).lines =
      screen.lines := by
  have hpixel : screenPixel (PrintJobMultiInk.gated screen.config) = screenPixel screen.config := by
    funext maskWidth offsetX maskRow x y tone
    simp only [screenPixel, PrintJobMultiInk.gated, clamp_clamp (show (0 : Int) ≤ 254 by decide)]
  have hrow : ({ screen with config := PrintJobMultiInk.gated screen.config } : Screen).rawRow =
      screen.rawRow := by
    funext y
    simp only [rawRow, screenRow, hpixel]
  simp only [lines, promoted, rawRows, hrow]
  rfl

/-- Screens that differ in the gate within its bounds only have the same lines. -/
theorem Screen.lines_congr {screen other : Screen}
    (hconfig : PrintJobMultiInk.gated screen.config = PrintJobMultiInk.gated other.config)
    (h : { screen with config := PrintJobMultiInk.gated other.config } =
      { other with config := PrintJobMultiInk.gated other.config }) :
    screen.lines = other.lines := by
  rw [← screen.lines_gated, ← other.lines_gated, hconfig, h]

/-! ## Lines in a spool -/

/-- A line of a channel, if there is one. -/
def lineOf (packed : List MultiInkScreenEngine.PackedLines) (channel row : Nat) : Option Bytes :=
  packed[channel]?.bind (·[row]?)

/-- Calls that write every line of some channels, in any order, and nothing else. -/
def Writing (packed : List MultiInkScreenEngine.PackedLines) (calls : List WriteCall) : Prop :=
  ∀ call, call ∈ calls ↔ ∃ channel row line, lineOf packed channel row = some line ∧
    call = ⟨Int32.ofNat channel, Int32.ofNat row, line⟩

/-- Lines that fill a spool of these dimensions. -/
structure Filling (metadata : DirectPrintSpool) (packed : List MultiInkScreenEngine.PackedLines) :
    Prop where
  channels : packed.length = metadata.logicalChannelCount.toInt.toNat
  rows : ∀ plane ∈ packed, plane.length = metadata.height.toInt.toNat
  lines : ∀ plane ∈ packed, ∀ line ∈ plane, line.length = lineBytes metadata

section Spool

variable {metadata : DirectPrintSpool} {packed : List MultiInkScreenEngine.PackedLines}
  {calls : List WriteCall}

/-- A line that fills a spool lies in its range. -/
theorem Filling.line_in_range (h : Filling metadata packed) {channel row : Nat} {line : Bytes}
    (hline : lineOf packed channel row = some line) :
    (Int32.ofNat channel).toInt = channel ∧ (Int32.ofNat row).toInt = row ∧
      channel < metadata.logicalChannelCount.toInt.toNat ∧ row < metadata.height.toInt.toNat ∧
      line.length = lineBytes metadata := by
  obtain ⟨plane, hplane, hget⟩ := Option.bind_eq_some_iff.mp hline
  obtain ⟨hchannel, rfl⟩ := List.getElem?_eq_some_iff.mp hplane
  obtain ⟨hrow, rfl⟩ := List.getElem?_eq_some_iff.mp hget
  have hmem := List.getElem_mem hchannel
  have hchannels := h.channels
  have hrows := h.rows _ hmem
  have hcount := metadata.logicalChannelCount.toInt_lt
  have hheight := metadata.height.toInt_lt
  exact ⟨Int32.toInt_ofNat_of_lt (by omega), Int32.toInt_ofNat_of_lt (by omega), by omega, by omega,
    h.lines _ hmem _ (List.getElem_mem hrow)⟩

/-- Every place of a spool has its line. -/
theorem Filling.line_at (h : Filling metadata packed) {channel row : Int32}
    (hrange : InRange metadata channel row) :
    ∃ line, lineOf packed channel.toInt.toNat row.toInt.toNat = some line ∧
      NocaiPrnWriter.packedLine packed channel row = some line := by
  have hchannel : channel.toInt.toNat < packed.length := by
    have hlt := hrange.channel_lt
    have hnonneg := hrange.channel_nonneg
    rw [h.channels]
    omega
  have hrow : row.toInt.toNat < packed[channel.toInt.toNat].length := by
    have hlt := hrange.row_lt
    have hnonneg := hrange.row_nonneg
    rw [h.rows _ (List.getElem_mem hchannel)]
    omega
  have hsigns : ¬ (channel < 0 ∨ row < 0) := by
    have hchannel := hrange.channel_nonneg
    have hrow := hrange.row_nonneg
    rw [Int32.lt_iff_toInt_lt, Int32.lt_iff_toInt_lt, Int32.toInt_zero]
    omega
  have hline : lineOf packed channel.toInt.toNat row.toInt.toNat =
      some packed[channel.toInt.toNat][row.toInt.toNat] := by
    rw [lineOf, List.getElem?_eq_getElem hchannel, Option.bind_some, List.getElem?_eq_getElem hrow]
  refine ⟨_, hline, ?_⟩
  rw [NocaiPrnWriter.packedLine, if_neg hsigns]
  exact hline

/-- Such calls leave in every place its line. -/
theorem Writing.last_written (h : Writing packed calls) (hfilling : Filling metadata packed)
    (hvalid : Valid (Writer.createMetadata metadata)) {channel row : Int32}
    (hrange : InRange metadata channel row) :
    (∃ call ∈ calls, call.Writes metadata channel row) ∧
      lastWritten metadata calls channel row = NocaiPrnWriter.packedLine packed channel row := by
  obtain ⟨line, hline, hpacked⟩ := hfilling.line_at hrange
  obtain ⟨hchannel, hrow, -, -, hlength⟩ := hfilling.line_in_range hline
  have hnonneg := hrange.channel_nonneg
  have hrow_nonneg := hrange.row_nonneg
  have haccepts : ∀ {other otherRow : Int32} {bytes : Bytes},
      Writer.Accepts metadata other otherRow bytes ↔
        Writer.Accepts (Writer.createMetadata metadata) other otherRow bytes := Iff.rfl
  have hplace : (Int32.ofNat channel.toInt.toNat) = channel ∧
      (Int32.ofNat row.toInt.toNat) = row := by
    refine ⟨Int32.toInt_inj.mp ?_, Int32.toInt_inj.mp ?_⟩
    · rw [hchannel]
      omega
    · rw [hrow]
      omega
  have hexists : ∃ call ∈ calls, call.Writes metadata channel row := by
    refine ⟨_, (h _).mpr ⟨_, _, line, hline, rfl⟩, hplace.1, hplace.2, ?_⟩
    rw [haccepts, Writer.accepts_iff hvalid, hplace.1, hplace.2]
    exact ⟨⟨hrange.1, hrange.2, hrange.3, hrange.4⟩, hlength⟩
  refine ⟨hexists, ?_⟩
  rw [hpacked]
  refine last_written_eq hexists ?_
  intro call hcall hwrites
  obtain ⟨other, otherRow, bytes, hbytes, rfl⟩ := (h call).mp hcall
  obtain ⟨rfl, rfl, -⟩ := hwrites
  obtain ⟨hother, hother_row, -, -, -⟩ := hfilling.line_in_range hbytes
  rw [hother, hother_row, Int.toNat_natCast, Int.toNat_natCast, hbytes] at hline
  exact Option.some.inj hline

/-- A spool that was created, written by some calls and finalized. -/
def Spooled (sha256 : Sha256) (metadata : DirectPrintSpool) (calls : List WriteCall)
    (files : Store String) (spool : DirectPrintSpool) : Prop :=
  ∃ (s created finished : State) (io : CreateIo) (directory : String) (finalIo : FinalizeIo),
    Writer.create s io directory metadata = (created, .ok ()) ∧
    Writer.finalize sha256 (writeLines created calls) finalIo = (finished, .ok spool) ∧
    files spool.path = finished.files spool.path

/-- The metadata of a spool is what it was created with. -/
theorem Spooled.metadata_eq {sha256 : Sha256} {files : Store String} {spool : DirectPrintSpool}
    (h : Spooled sha256 metadata calls files spool) :
    Valid (Writer.createMetadata metadata) ∧
      spool = { Writer.createMetadata metadata with path := spool.path, sha256 := spool.sha256 } := by
  obtain ⟨s, created, finished, io, directory, finalIo, hcreate, hfinalize, hfile⟩ := h
  obtain ⟨⟨content, hholds⟩, hmetadata⟩ := session_table hcreate calls
  have hvalid := hholds.valid
  have hspool := hholds.finalized_metadata hfinalize
  rw [hmetadata] at hspool hvalid
  exact ⟨hvalid, hspool⟩

/-- Such a spool holds the lines that were written. -/
theorem Spooled.finalized {sha256 : Sha256} {files : Store String} {spool : DirectPrintSpool}
    (h : Spooled sha256 metadata calls files spool) (hwriting : Writing packed calls)
    (hfilling : Filling metadata packed) :
    NocaiPrnWriter.FinalizedSpool sha256 packed files spool := by
  obtain ⟨hvalid, hspool⟩ := h.metadata_eq
  obtain ⟨s, created, finished, io, directory, finalIo, hcreate, hfinalize, hfile⟩ := h
  refine ⟨⟨s, created, finished, io, directory, metadata, calls, finalIo, hcreate, hfinalize, hfile,
    fun channel row hrange ↦ (hwriting.last_written hfilling hvalid hrange).2⟩, ?_, ?_⟩
  · rw [hspool]
    exact hfilling.channels
  · rw [hspool]
    exact hfilling.rows

/-- Without failures there is such a spool. -/
theorem Filling.spooled (h : Filling metadata packed) (hwriting : Writing packed calls)
    (hvalid : Valid (Writer.createMetadata metadata)) (sha256 : Sha256) :
    ∃ files spool, Spooled sha256 metadata calls files spool := by
  obtain ⟨s, created, finished, spool, hcreate, hfinalize⟩ := exists_finalized sha256 hvalid
    fun channel row hrange ↦ (hwriting.last_written h hvalid hrange).1
  exact ⟨finished.files, spool, s, created, finished, _, _, {}, hcreate, hfinalize, rfl⟩

end Spool

/-! ## Lines by number -/

/-- The lines of a screen carry their numbers. -/
theorem Screen.mem_lines_iff (screen : Screen) {row : Nat} {line : Bytes} :
    (row, line) ∈ screen.lines ↔ (MultiInkScreenEngine.packedLines screen)[row]? = some line := by
  have hnumber : ∀ {i : Nat} {entry : Nat × Bytes}, screen.lines[i]? = some entry →
      entry.1 = i := by
    intro i entry hentry
    have hrow : (screen.lines.map Prod.fst)[i]? = some entry.1 := by
      rw [List.getElem?_map, hentry]
      rfl
    rw [screen.lines_rows] at hrow
    exact (List.getElem?_eq_some_iff.mp hrow).2.symm.trans (List.getElem_range _)
  rw [MultiInkScreenEngine.packedLines, List.getElem?_map]
  constructor
  · intro hmem
    obtain ⟨i, hentry⟩ := List.mem_iff_getElem?.mp hmem
    obtain rfl : row = i := hnumber hentry
    rw [hentry]
    rfl
  · intro hline
    obtain ⟨entry, hentry, rfl⟩ := Option.map_eq_some_iff.mp hline
    have hrow : entry = (row, entry.2) := Prod.ext (hnumber hentry) rfl
    exact hrow ▸ List.mem_iff_getElem?.mpr ⟨row, hentry⟩

/-- A line is as long as its row needs, filled up to a multiple of four bytes. -/
theorem Screen.packed_line_length (screen : Screen) {line : Bytes}
    (h : line ∈ MultiInkScreenEngine.packedLines screen) :
    line.length = ((screen.width + 3) / 4 + 3) / 4 * 4 := by
  obtain ⟨entry, hentry, rfl⟩ := List.mem_map.mp h
  obtain ⟨row, hrow, rfl⟩ := List.mem_map.mp hentry
  obtain ⟨i, hi, rfl⟩ := List.mem_iff_getElem.mp hrow
  have hrows := List.forall₂_iff_get.mp screen.promoted_rows
  have hraised := hrows.2 i (hrows.1 ▸ hi) hi
  have hraw : ((screen.rawRows screen.height).get ⟨i, hrows.1 ▸ hi⟩).dots.length =
      screen.width := by
    simp [rawRows]
  have hlength := hraised.length.trans hraw
  show (packRow _ _).length = _
  rw [← hlength]
  exact packed_buffer_length ..

theorem packed_lines_length (screen : Screen) :
    (MultiInkScreenEngine.packedLines screen).length = screen.height := by
  rw [MultiInkScreenEngine.packedLines, List.length_map, Screen.lines_length]

/-- The call of the spool writer in an exchange of the pipeline. -/
def writeCall : Event PipelineCall PipelineAnswer → Option WriteCall
  | ⟨.writeLine logicalChannel row packed, _⟩ =>
    some ⟨Int32.ofNat logicalChannel, Int32.ofNat row, packed⟩
  | ⟨.isCanceled, _⟩ => none

/-- The calls of the spool writer in a run of the pipeline. -/
def writeCalls (trace : BoundedRasterPipeline.Trace) : List WriteCall := trace.filterMap writeCall

/-- A run that hands on the lines of some screens writes these lines. -/
theorem writing_of_trace {trace : BoundedRasterPipeline.Trace} {screens : List Screen}
    (h : ∀ channel, BoundedRasterPipeline.written channel trace = channelLines screens channel) :
    Writing (screens.map MultiInkScreenEngine.packedLines) (writeCalls trace) := by
  have hlines : ∀ {channel row : Nat} {line : Bytes},
      (row, line) ∈ BoundedRasterPipeline.written channel trace ↔
        lineOf (screens.map MultiInkScreenEngine.packedLines) channel row = some line := by
    intro channel row line
    rw [h channel, lineOf, channelLines, List.getElem?_map]
    cases screens[channel]? with
    | none => simp
    | some screen => exact screen.mem_lines_iff
  intro call
  constructor
  · intro hcall
    obtain ⟨event, hevent, hwrites⟩ := List.mem_filterMap.mp hcall
    obtain ⟨question, answer⟩ := event
    cases question with
    | isCanceled => cases hwrites
    | writeLine channel row line =>
        obtain rfl := Option.some.inj hwrites
        refine ⟨channel, row, line, hlines.mp (List.mem_filterMap.mpr ⟨_, hevent, ?_⟩), rfl⟩
        exact if_pos rfl
  · intro hcall
    obtain ⟨channel, row, line, hline, rfl⟩ := hcall
    obtain ⟨event, hevent, hnumbered⟩ := List.mem_filterMap.mp (hlines.mpr hline)
    refine List.mem_filterMap.mpr ⟨event, hevent, ?_⟩
    obtain ⟨question, answer⟩ := event
    cases question with
    | isCanceled => cases hnumbered
    | writeLine other otherRow bytes =>
        by_cases hsame : other = channel
        · have hentry : some (otherRow, bytes) = some (row, line) :=
            (if_pos hsame).symm.trans hnumbered
          cases hentry
          rw [← hsame]
          rfl
        · cases (if_neg hsame).symm.trans hnumbered

/-- The calls of the path in memory: the lines of every channel, one channel after the other. -/
def lineCalls (packed : List MultiInkScreenEngine.PackedLines) (channels height : Nat) :
    List WriteCall :=
  (List.range channels).flatMap fun channel ↦
    (List.range height).map fun row ↦
      ⟨Int32.ofNat channel, Int32.ofNat row, (packed[channel]!)[row]!⟩

theorem writing_line_calls {metadata : DirectPrintSpool}
    {packed : List MultiInkScreenEngine.PackedLines} (h : Filling metadata packed) :
    Writing packed (lineCalls packed metadata.logicalChannelCount.toInt.toNat
      metadata.height.toInt.toNat) := by
  have hget : ∀ {channel row : Nat}, channel < packed.length →
      row < metadata.height.toInt.toNat →
      lineOf packed channel row = some (packed[channel]!)[row]! := by
    intro channel row hchannel hrow
    have hbound : row < packed[channel].length := by
      rwa [h.rows _ (List.getElem_mem hchannel)]
    rw [lineOf, getElem!_pos packed channel hchannel, getElem!_pos packed[channel] row hbound,
      List.getElem?_eq_getElem hchannel, Option.bind_some, List.getElem?_eq_getElem hbound]
  intro call
  constructor
  · intro hcall
    obtain ⟨channel, hchannel, hrows⟩ := List.mem_flatMap.mp hcall
    obtain ⟨row, hrow, rfl⟩ := List.mem_map.mp hrows
    rw [List.mem_range] at hchannel hrow
    exact ⟨channel, row, _, hget (h.channels ▸ hchannel) hrow, rfl⟩
  · intro hcall
    obtain ⟨channel, row, line, hline, rfl⟩ := hcall
    obtain ⟨-, -, hchannel, hrow, -⟩ := h.line_in_range hline
    refine List.mem_flatMap.mpr ⟨channel, List.mem_range.mpr hchannel,
      List.mem_map.mpr ⟨row, List.mem_range.mpr hrow, ?_⟩⟩
    rw [Option.some.inj ((hget (h.channels ▸ hchannel) hrow).symm.trans hline)]

/-! ## The lines of inks -/

namespace PrintJobMultiInk

variable {V : Type} [QVariantApi V] (fl : ℚ → ℚ) (job : PrintJobMultiInk V)
  (assetPath : String → String) (openMask : String → Except String Mask) (image : SourceImage)

section Inks

variable (loader : ExternalPlateLoader)

/-- The tones of an ink. -/
def tonePlane (ink : Ink) : TonePlane image.width image.height :=
  ⟨job.inkTone fl (coveredImages image) loader ink,
    job.ink_tone_length fl (coveredImages image) loader ink⟩

/-- An ink as its channel screens it with a mask. -/
def inkScreen (mask : Mask) (ink : Ink) : Screen :=
  let channel := (builderInks job.inkMode).idxOf ink
  spoolScreen image.width image.height job.screenSeed job.modeParams channel
    (job.screenChannel assetPath channel) mask (job.tonePlane fl image loader ink)

/-- The lines of an ink: its tone plane, screened with its mask. -/
def inkLines (ink : Ink) : Option MultiInkScreenEngine.PackedLines :=
  match openMask (maskPath assetPath (job.inkMaskKey ink)) with
  | .error _ => none
  | .ok mask =>
    some (MultiInkScreenEngine.packedLines (job.inkScreen fl assetPath image loader mask ink))

/-- The lines of the inks of the builder, in its order. -/
def PackedInks (packed : List MultiInkScreenEngine.PackedLines) : Prop :=
  (builderInks job.inkMode).map (job.inkLines fl assetPath openMask image loader) = packed.map some

variable {fl assetPath openMask image loader} {packed : List MultiInkScreenEngine.PackedLines}

/-- The line of an ink is that of its channel. -/
theorem PackedInks.get (h : job.PackedInks fl assetPath openMask image loader packed)
    {channel row : Nat} {ink : Ink} (hink : (builderInks job.inkMode)[channel]? = some ink) :
    (job.inkLines fl assetPath openMask image loader ink).bind (·[row]?) =
      lineOf packed channel row := by
  have hlines := congrArg (·[channel]?) h
  rw [List.getElem?_map, List.getElem?_map, hink, Option.map_some] at hlines
  rw [lineOf]
  cases hpacked : packed[channel]? with
  | none =>
      rw [hpacked] at hlines
      cases hlines
  | some lines =>
      rw [hpacked] at hlines
      rw [Option.some.inj hlines]

/-- The size of a packed line in bytes. -/
theorem spool_line_bytes (mode : InkMode) (image : SourceImage) (xdpi ydpi : Int32) :
    lineBytes (spoolMetadata mode image xdpi ydpi) = ((image.width + 3) / 4 + 3) / 4 * 4 := by
  have hwidth := image.width_lt
  have hto : (Int32.ofNat (((image.width + 3) / 4 + 3) / 4 * 4)).toInt =
      ((image.width + 3) / 4 + 3) / 4 * 4 := Int32.toInt_ofNat_of_lt (by omega)
  show (Int32.ofNat (((image.width + 3) / 4 + 3) / 4 * 4)).toInt.toNat = _
  rw [hto]
  omega

/-- The counts in the metadata of a spool. -/
theorem spool_counts (mode : InkMode) (image : SourceImage) (xdpi ydpi : Int32) :
    (spoolMetadata mode image xdpi ydpi).logicalChannelCount.toInt.toNat = mode.value ∧
      (spoolMetadata mode image xdpi ydpi).height.toInt.toNat = image.height := by
  have hheight : (Int32.ofNat image.height).toInt = image.height :=
    Int32.toInt_ofNat_of_lt image.height_lt
  have hcount : (Int32.ofNat mode.value).toInt.toNat = mode.value := by cases mode <;> rfl
  refine ⟨hcount, ?_⟩
  show (Int32.ofNat image.height).toInt.toNat = _
  rw [hheight, Int.toNat_natCast]

/-- The lines of the inks fill the spool of the job. -/
theorem PackedInks.filling (h : job.PackedInks fl assetPath openMask image loader packed)
    (xdpi ydpi : Int32) :
    Filling (spoolMetadata job.inkMode image xdpi ydpi) packed := by
  obtain ⟨hchannels, hheight⟩ := spool_counts job.inkMode image xdpi ydpi
  have hscreen : ∀ plane ∈ packed, ∃ screen : Screen, screen.width = image.width ∧
      screen.height = image.height ∧ plane = MultiInkScreenEngine.packedLines screen := by
    intro plane hplane
    have hmem : some plane ∈ packed.map some := List.mem_map_of_mem hplane
    rw [← h] at hmem
    obtain ⟨ink, -, hlines⟩ := List.mem_map.mp hmem
    unfold inkLines at hlines
    cases hmask : openMask (maskPath assetPath (job.inkMaskKey ink)) with
    | error message =>
        rw [hmask] at hlines
        cases hlines
    | ok mask =>
        rw [hmask] at hlines
        exact ⟨_, rfl, rfl, (Option.some.inj hlines).symm⟩
  refine ⟨?_, ?_, ?_⟩
  · have hlength := congrArg List.length h
    rw [List.length_map, List.length_map, builder_inks_length] at hlength
    rw [hchannels, hlength]
  · intro plane hplane
    obtain ⟨screen, -, hrows, rfl⟩ := hscreen plane hplane
    rw [packed_lines_length, hrows, hheight]
  · intro plane hplane line hline
    obtain ⟨screen, hwidth, -, rfl⟩ := hscreen plane hplane
    rw [screen.packed_line_length hline, hwidth, spool_line_bytes]

/-- The channels of a job are opened with the masks of its inks. -/
theorem screen_channel_mask {channel : Nat} {ink : Ink}
    (hink : (builderInks job.inkMode)[channel]? = some ink) :
    (job.screenChannel assetPath channel).maskPath = maskPath assetPath (job.inkMaskKey ink) := by
  rw [← job.mask_key_for_channel_eq hink, screenChannel]
  cases job.ownDots channel <;> rfl

/-- An ink has the number of its channel. -/
theorem idx_of_builder_ink {mode : InkMode} {channel : Nat} {ink : Ink}
    (hink : (builderInks mode)[channel]? = some ink) : (builderInks mode).idxOf ink = channel := by
  obtain ⟨hbound, rfl⟩ := List.getElem?_eq_some_iff.mp hink
  exact (builder_inks_nodup mode).idxOf_getElem channel hbound

/-- Lines are those of the inks if each channel has the lines of its ink. -/
theorem packed_inks_of_channels (hlength : packed.length = job.inkMode.value)
    (h : ∀ channel ink, (builderInks job.inkMode)[channel]? = some ink → ∃ mask,
      openMask (maskPath assetPath (job.inkMaskKey ink)) = .ok mask ∧
      packed[channel]? = some (MultiInkScreenEngine.packedLines
        (spoolScreen image.width image.height job.screenSeed job.modeParams channel
          (job.screenChannel assetPath channel) mask (job.tonePlane fl image loader ink)))) :
    job.PackedInks fl assetPath openMask image loader packed := by
  refine List.ext_getElem? ?_
  intro channel
  rw [List.getElem?_map, List.getElem?_map]
  cases hink : (builderInks job.inkMode)[channel]? with
  | none =>
      rw [List.getElem?_eq_none_iff, builder_inks_length, ← hlength] at hink
      rw [List.getElem?_eq_none hink]
      rfl
  | some ink =>
      obtain ⟨mask, hmask, hpacked⟩ := h channel ink hink
      rw [hpacked, Option.map_some, Option.map_some, inkLines, hmask]
      dsimp only
      rw [inkScreen, idx_of_builder_ink hink]

end Inks

/-! ## The two paths -/

section Paths

variable (files : PlateFiles) (sha256 : Sha256) (xdpi ydpi : Int32)

/-- The spools that `buildRasterSpool` gives, from strips or from memory. The index is the loader
that the path takes its files from. -/
inductive RasterSpoolBuilt (store : Store String) (spool : DirectPrintSpool) :
    ExternalPlateLoader → Prop
  | bounded {plates : PreparedPlates} {io : CacheIo} {canonical : CanonicalCmykFile}
      {stripRows : Int} {trace : BoundedRasterPipeline.Trace}
      (hplates : job.preparedPlates files image = .ok plates)
      (hcreate : CanonicalCmykFile.create io image = .ok canonical)
      (hruns : Runs (screenToSpool image.width image.height job.screenSeed job.modeParams
        (job.screenChannels assetPath) openMask (job.toneProvider fl plates image canonical io)
        stripRows).run trace (.ok ()))
      (hspooled : Spooled sha256 (spoolMetadata job.inkMode image xdpi ydpi) (writeCalls trace)
        store spool) :
      RasterSpoolBuilt store spool (job.wholePlateLoader plates)
  | inMemory {tones : List Bytes} {trace : MultiInkScreenEngine.Trace}
      {packed : List MultiInkScreenEngine.PackedLines}
      (htones : job.inMemoryTones fl files image = some tones)
      (hruns : Runs (MultiInkScreenEngine.screenChannels (job.screenRequest image tones)
        fun key ↦ (openMask (maskPath assetPath key)).toOption) trace (some packed))
      (hspooled : Spooled sha256 (spoolMetadata job.inkMode image xdpi ydpi)
        (lineCalls packed job.inkMode.value image.height) store spool) :
      RasterSpoolBuilt store spool files.readPlate

variable {fl job assetPath openMask image files sha256 xdpi ydpi}

variable (fl job assetPath image) in
/-- The channels of the bounded path with the planes of their inks. -/
def spoolChannels (plates : PreparedPlates) :
    List (ScreenChannel × TonePlane image.width image.height) :=
  (builderInks job.inkMode).mapIdx fun channel ink ↦
    (job.screenChannel assetPath channel,
      job.tonePlane fl image (job.wholePlateLoader plates) ink)

theorem spool_channels_fst (plates : PreparedPlates) :
    (job.spoolChannels fl assetPath image plates).map Prod.fst = job.screenChannels assetPath := by
  refine List.ext_getElem (by simp [spoolChannels, screenChannels]) ?_
  intro channel _ _
  simp [spoolChannels, screenChannels]

/-- Their planes are those of the bounded path. -/
theorem spool_channels_tones (plates : PreparedPlates) (f : Bytes → Bytes) :
    ((job.spoolChannels fl assetPath image plates).map fun entry ↦ f entry.2.val) =
      ((builderInks job.inkMode).map
        (job.inkTone fl (coveredImages image) (job.wholePlateLoader plates))).map f := by
  refine List.ext_getElem (by simp [spoolChannels]) ?_
  intro channel _ _
  simp [spoolChannels, tonePlane]

/-- The tone provider gives strips of their planes. -/
theorem spool_channels_provided {plates : PreparedPlates} {io : CacheIo}
    {canonical : CanonicalCmykFile} (hplates : job.preparedPlates files image = .ok plates)
    (hcreate : CanonicalCmykFile.create io image = .ok canonical) (firstRow rowCount : Nat)
    (hcount : 0 < rowCount) (hrows : firstRow + rowCount ≤ image.height) (tones : List Bytes)
    (htones : job.toneProvider fl plates image canonical io firstRow rowCount = .ok tones) :
    tones = (job.spoolChannels fl assetPath image plates).map fun entry ↦
      Plane.strip entry.2.val image.width firstRow rowCount := by
  rw [spool_channels_tones plates (Plane.strip · image.width firstRow rowCount)]
  exact job.tone_provider_ok fl files image plates hplates hcreate
    (job.build_tone_channels_eq fl (coveredImages image) _) hcount hrows htones

/-- The strips of the bounded path give the lines of the inks. -/
theorem bounded_packed_inks {plates : PreparedPlates} {io : CacheIo}
    {canonical : CanonicalCmykFile} {stripRows : Int} {trace : BoundedRasterPipeline.Trace}
    (hplates : job.preparedPlates files image = .ok plates)
    (hcreate : CanonicalCmykFile.create io image = .ok canonical)
    (hruns : Runs (screenToSpool image.width image.height job.screenSeed job.modeParams
      (job.screenChannels assetPath) openMask (job.toneProvider fl plates image canonical io)
      stripRows).run trace (.ok ())) :
    ∃ packed, job.PackedInks fl assetPath openMask image (job.wholePlateLoader plates) packed ∧
      Writing packed (writeCalls trace) := by
  rw [← @spool_channels_fst _ _ fl job assetPath image plates] at hruns
  rcases screen_to_spool_screens stripRows (spool_channels_provided hplates hcreate) trace _ hruns
    with ⟨-, herror⟩ | hscreens
  · exact absurd rfl herror
  obtain ⟨screens, hscreens, -, hcomplete⟩ := hscreens
  refine ⟨_, ?_, writing_of_trace (hcomplete rfl)⟩
  refine job.packed_inks_of_channels ?_ ?_
  · have hlength := congrArg List.length (spool_screens_strips hscreens 0 0)
    rw [List.length_map, List.length_map, spoolChannels, List.length_mapIdx,
      builder_inks_length] at hlength
    rw [List.length_map, hlength]
  · intro channel ink hink
    have hentry : (job.spoolChannels fl assetPath image plates)[channel]? =
        some (job.screenChannel assetPath channel,
          job.tonePlane fl image (job.wholePlateLoader plates) ink) := by
      rw [spoolChannels, List.getElem?_mapIdx, hink]
      rfl
    rcases spool_screens_get hscreens channel with ⟨-, hnone⟩ | ⟨config, plane, mask, h⟩
    · cases hnone.symm.trans hentry
    · obtain ⟨hsome, hmask, hscreen⟩ := h
      cases hentry.symm.trans hsome
      rw [job.screen_channel_mask hink] at hmask
      refine ⟨mask, hmask, ?_⟩
      rw [List.getElem?_map, hscreen, Nat.zero_add]
      rfl

/-- A channel request has the key of its channel. -/
theorem channel_request_eq (channel : Nat) (tone : Bytes) :
    (job.channelRequest channel tone).maskKey = job.maskKeyForChannel channel ∧
      (job.channelRequest channel tone).toneBytes = some tone := by
  unfold channelRequest
  cases job.ownDots channel <;> exact ⟨rfl, rfl⟩

/-- Channels that were screened had masks and tones. -/
theorem channels_loaded {req : MultiInkScreenEngine.ScreenRequest V}
    {maskLoader : String → Option Mask} {ch : Nat}
    {channels : List MultiInkScreenEngine.ChannelRequest}
    {packed : List MultiInkScreenEngine.PackedLines}
    (h : MultiInkScreenEngine.ChannelsMeetLaws req maskLoader ch channels packed) :
    ∀ channelReq ∈ channels, (∃ mask, maskLoader channelReq.maskKey = some mask) ∧
      ∃ tone, channelReq.toneBytes = some tone ∧ tone.length = req.width * req.height := by
  induction channels generalizing ch packed with
  | nil => simp
  | cons first rest ih =>
      cases packed with
      | nil => cases h
      | cons lines others =>
          obtain ⟨⟨mask, tone, htone, hbytes, hmask, -⟩, hrest⟩ := h
          exact List.forall_mem_cons.mpr ⟨⟨⟨mask, hmask⟩, tone, hbytes, htone⟩, ih hrest⟩

/-- The channels of the screen request on the tones of the inks. -/
theorem screen_request_channel {tones : List Bytes}
    (htones : tones = (builderInks job.inkMode).map
      (job.inkTone fl (coveredImages image) files.readPlate)) {channel : Nat} {ink : Ink}
    (hink : (builderInks job.inkMode)[channel]? = some ink) :
    tones[channel]! = job.inkTone fl (coveredImages image) files.readPlate ink ∧
      (job.screenRequest image tones).channels[channel]? =
        some (job.channelRequest channel tones[channel]!) := by
  obtain ⟨hbound, rfl⟩ := List.getElem?_eq_some_iff.mp hink
  have hlength : channel < tones.length := by rwa [htones, List.length_map]
  refine ⟨?_, ?_⟩
  · rw [getElem!_pos tones channel hlength]
    simp only [htones, List.getElem_map]
  · rw [builder_inks_length] at hbound
    show ((List.range job.inkMode.value).map _)[channel]? = _
    rw [List.getElem?_map, List.getElem?_range hbound, Option.map_some]

/-- A screen request has the channels of its mode. -/
theorem screen_request_length (tones : List Bytes) :
    (job.screenRequest image tones).channels.length = job.inkMode.value ∧
      (job.screenRequest image tones).channels ≠ [] := by
  have hlength : (job.screenRequest image tones).channels.length = job.inkMode.value :=
    (List.length_map _).trans List.length_range
  refine ⟨hlength, List.ne_nil_of_length_pos ?_⟩
  rw [hlength]
  cases job.inkMode <;> exact Nat.succ_pos _

/-- Every channel of a screen request has a mask key. -/
theorem screen_request_keys (tones : List Bytes) :
    ∀ channelReq ∈ (job.screenRequest image tones).channels, channelReq.maskKey ≠ "" := by
  intro channelReq hmem
  obtain ⟨channel, hrange, rfl⟩ := List.mem_map.mp hmem
  rw [List.mem_range, ← builder_inks_length] at hrange
  rw [(channel_request_eq channel _).1,
    job.mask_key_for_channel_eq (List.getElem?_eq_getElem hrange)]
  exact job.ink_mask_key_ne_empty _

/-- The engine screens a channel as the pipeline does. -/
theorem request_screen_lines (tones : List Bytes) {channel : Nat} (mask : Mask)
    (htone : tones[channel]!.length = image.width * image.height) :
    (MultiInkScreenEngine.channelScreen (job.screenRequest image tones)
        (job.channelRequest channel tones[channel]!) mask channel
        (maskPath assetPath (job.maskKeyForChannel channel)) tones[channel]! htone).lines =
      (spoolScreen image.width image.height job.screenSeed job.modeParams channel
        (job.screenChannel assetPath channel) mask ⟨tones[channel]!, htone⟩).lines :=
  Screen.lines_congr (job.screen_channel_eq image assetPath tones channel).symm rfl

/-- So does the path in memory. -/
theorem memory_packed_inks {tones : List Bytes} {trace : MultiInkScreenEngine.Trace}
    {packed : List MultiInkScreenEngine.PackedLines}
    (htones : job.inMemoryTones fl files image = some tones)
    (hruns : Runs (MultiInkScreenEngine.screenChannels (job.screenRequest image tones)
      fun key ↦ (openMask (maskPath assetPath key)).toOption) trace (some packed)) :
    job.PackedInks fl assetPath openMask image files.readPlate packed := by
  rw [in_memory_tones_eq, build_tone_channels_eq] at htones
  have hinks := (Option.some.inj (Option.ite_none_left_eq_some.mp htones).2).symm
  have hloaded := channels_loaded
    (MultiInkScreenEngine.screen_channels_laws _ trace _ hruns packed rfl)
  obtain ⟨screens, hscreens⟩ := @exists_screens _ _ (job.screenRequest image tones)
    (fun key ↦ (openMask (maskPath assetPath key)).toOption) _
    (fun channelReq hmem ↦
      ⟨@screen_request_keys _ _ job image tones channelReq hmem, (hloaded channelReq hmem).1⟩)
    (fun channelReq hmem ↦ (hloaded channelReq hmem).2) (maskPath assetPath) 0
  obtain ⟨hcount, hnonempty⟩ := @screen_request_length _ _ job image tones
  have hgives := MultiInkScreenEngine.screen_channels_meets _ image.width_pos image.height_pos
    hnonempty hscreens trace _ hruns
  have hpacked : packed = screens.map MultiInkScreenEngine.packedLines := by
    by_cases hcanceled : MultiInkScreenEngine.Canceled trace
    · cases hgives.stopped hcanceled
    · exact Option.some.inj (hgives.finished hcanceled)
  refine job.packed_inks_of_channels ?_ ?_
  · rw [hpacked, List.length_map, MultiInkScreenEngine.requested_length _ hscreens, hcount]
  · intro channel ink hink
    obtain ⟨hget, hchannel⟩ := screen_request_channel hinks hink
    obtain ⟨mask, tone, htone, hbytes, hmask, hscreen⟩ :=
      MultiInkScreenEngine.requested_get _ hscreens hchannel
    obtain ⟨hkey, hchannel_tone⟩ := @channel_request_eq _ _ job channel tones[channel]!
    obtain rfl := Option.some.inj (hchannel_tone.symm.trans hbytes)
    rw [hkey] at hmask hscreen
    rw [Nat.zero_add] at hscreen
    have hplane : job.tonePlane fl image files.readPlate ink = ⟨tones[channel]!, htone⟩ :=
      Subtype.ext hget.symm
    refine ⟨mask, ?_, ?_⟩
    · rw [← job.mask_key_for_channel_eq hink]
      cases hopen : openMask (maskPath assetPath (job.maskKeyForChannel channel)) with
      | error message =>
          rw [hopen] at hmask
          cases hmask
      | ok opened =>
          rw [hopen] at hmask
          exact congrArg _ (Option.some.inj hmask)
    · have hlines := @request_screen_lines _ _ job assetPath image tones channel mask htone
      rw [hpacked, List.getElem?_map, hscreen, Option.map_some, hplane]
      exact congrArg (fun lines ↦ some (lines.map Prod.snd)) hlines

/-- The spool of a job was written from the lines of its inks. -/
theorem RasterSpoolBuilt.packed_inks {store : Store String} {spool : DirectPrintSpool}
    {loader : ExternalPlateLoader}
    (h : RasterSpoolBuilt fl job assetPath openMask image files sha256 xdpi ydpi store spool
      loader) :
    ∃ packed calls, job.PackedInks fl assetPath openMask image loader packed ∧
      Writing packed calls ∧
      Spooled sha256 (spoolMetadata job.inkMode image xdpi ydpi) calls store spool := by
  cases h with
  | bounded hplates hcreate hruns hspooled =>
      obtain ⟨packed, hinks, hwriting⟩ := bounded_packed_inks hplates hcreate hruns
      exact ⟨packed, _, hinks, hwriting, hspooled⟩
  | inMemory htones hruns hspooled =>
      have hinks := memory_packed_inks htones hruns
      have hwriting := writing_line_calls (hinks.filling job xdpi ydpi)
      obtain ⟨hchannels, hheight⟩ := spool_counts job.inkMode image xdpi ydpi
      rw [hchannels, hheight] at hwriting
      exact ⟨_, _, hinks, hwriting, hspooled⟩

end Paths

end PrintJobMultiInk

end PrintFlow
