import PrintFlow.Rip.InkIdentity
import PrintFlow.Rip.X33Strips

/-!
# The strategy does not show in the spool

Each job has a path in memory and one that works strip by strip; which of them runs depends on the
memory that is left, and the first falls back to the second. The file of a spool is fixed by its
metadata and its lines, in whatever order these were written. As both paths write the same lines,
the spools they publish are equal byte by byte.
-/

namespace PrintFlow

open BoundedRasterPipeline FileStore Interaction MultiInkToneBuilder RasterSpool

/-! ## The file of some lines -/

/-- The lines of all channels, one channel after the other. -/
def spoolBody (packed : List MultiInkScreenEngine.PackedLines) : Bytes := packed.flatten.flatten

/-- The checksum of a spool of these lines. -/
def spoolDigest (sha256 : Sha256) (metadata : DirectPrintSpool)
    (packed : List MultiInkScreenEngine.PackedLines) : Bytes :=
  sha256.digest (encodeHeader (Writer.createMetadata metadata) none ++ spoolBody packed)

/-- The file of a spool of these lines. -/
def spoolFile (sha256 : Sha256) (metadata : DirectPrintSpool)
    (packed : List MultiInkScreenEngine.PackedLines) : Bytes :=
  encodeHeader (Writer.createMetadata metadata) (some (spoolDigest sha256 metadata packed)) ++
    spoolBody packed

/-- The entries of a list, one after the other by number. -/
theorem flat_map_range_get {α β : Type} (list : List α) (f : Option α → List β) :
    (List.range list.length).flatMap (fun i ↦ f list[i]?) = list.flatMap fun a ↦ f (some a) := by
  induction list with
  | nil => rfl
  | cons first rest ih =>
      rw [List.length_cons, List.range_succ_eq_map, List.flatMap_cons, List.flatMap_map,
        List.flatMap_cons, ← ih]
      rfl

section Spool

variable {metadata : DirectPrintSpool} {packed : List MultiInkScreenEngine.PackedLines}
  {calls : List WriteCall}

/-- Calls that write every line of some channels leave the lines of these channels. -/
theorem Writing.channel_major (h : Writing packed calls) (hfilling : Filling metadata packed)
    (hvalid : Valid (Writer.createMetadata metadata)) :
    channelMajor metadata calls = spoolBody packed := by
  have hcount := metadata.logicalChannelCount.toInt_lt
  have hheight := metadata.height.toInt_lt
  have hline : ∀ channel < metadata.logicalChannelCount.toInt.toNat,
      ∀ row < metadata.height.toInt.toNat,
      lastWritten metadata calls (Int32.ofNat channel) (Int32.ofNat row) =
        lineOf packed channel row := by
    intro channel hchannel row hrow
    have hchannel_int : (Int32.ofNat channel).toInt = channel :=
      Int32.toInt_ofNat_of_lt (by omega)
    have hrow_int : (Int32.ofNat row).toInt = row := Int32.toInt_ofNat_of_lt (by omega)
    have hrange : InRange metadata (Int32.ofNat channel) (Int32.ofNat row) :=
      ⟨by omega, by omega, by omega, by omega⟩
    obtain ⟨line, hget, hpacked⟩ := hfilling.line_at hrange
    rw [(h.last_written hfilling hvalid hrange).2, hpacked, ← hget, hchannel_int, hrow_int,
      Int.toNat_natCast, Int.toNat_natCast]
  have hplane : ∀ plane ∈ packed,
      (List.range metadata.height.toInt.toNat).flatMap (fun row ↦ plane[row]?.getD []) =
        plane.flatten := by
    intro plane hplane
    rw [← hfilling.rows plane hplane, flat_map_range_get plane (·.getD [])]
    show plane.flatMap (fun line ↦ line) = _
    rw [List.flatMap_id']
  calc channelMajor metadata calls
      = (List.range metadata.logicalChannelCount.toInt.toNat).flatMap fun channel ↦
          (List.range metadata.height.toInt.toNat).flatMap fun row ↦
            (lineOf packed channel row).getD [] := by
        refine List.flatMap_congr fun channel hchannel ↦ List.flatMap_congr fun row hrow ↦ ?_
        rw [hline channel (List.mem_range.mp hchannel) row (List.mem_range.mp hrow)]
    _ = packed.flatMap fun plane ↦
          (List.range metadata.height.toInt.toNat).flatMap fun row ↦ plane[row]?.getD [] := by
        rw [← hfilling.channels]
        exact flat_map_range_get packed fun plane ↦
          (List.range metadata.height.toInt.toNat).flatMap fun row ↦ (plane.bind (·[row]?)).getD []
    _ = spoolBody packed := by
        rw [List.flatMap_congr hplane, spoolBody, List.flatMap_def, List.flatten_flatten]

/-- The file of a finalized spool is fixed by its metadata and its lines. -/
theorem Spooled.file_eq {sha256 : Sha256} {files : Store String} {spool : DirectPrintSpool}
    (h : Spooled sha256 metadata calls files spool) (hwriting : Writing packed calls)
    (hfilling : Filling metadata packed) :
    files spool.path = some (spoolFile sha256 metadata packed) ∧
      spool = { Writer.createMetadata metadata with
        path := spool.path, sha256 := spoolDigest sha256 metadata packed } := by
  obtain ⟨s, created, finished, io, directory, finalIo, hcreate, hfinalize, hfile⟩ := h
  obtain ⟨⟨content, hholds⟩, hmetadata⟩ := session_table hcreate calls
  obtain ⟨hcount, -, rfl, hfiles⟩ := Writer.finalize_sound hholds.toOpened hfinalize
  have hvalid := hholds.valid
  rw [hmetadata] at hvalid
  have hbody := hholds.body_eq (hholds.count_eq_iff.mp hcount)
  have hfilled : Filling (Writer.createMetadata metadata) packed :=
    ⟨hfilling.channels, hfilling.rows, hfilling.lines⟩
  have hlines : channelMajor (Writer.createMetadata metadata) calls = spoolBody packed :=
    hwriting.channel_major hfilled hvalid
  rw [hmetadata, hlines] at hbody
  have hdigest : sha256.digest (hashedBytes content (Writer.createMetadata metadata)) =
      spoolDigest sha256 metadata packed := by
    rw [hashedBytes, hbody]
    rfl
  refine ⟨?_, ?_⟩
  · rw [Writer.final_metadata_path] at hfile ⊢
    rw [hfile, hfiles, Store.set_same]
    have hheader := Writer.final_header_length sha256 content hholds.valid
    have hrest : content.drop headerBytes =
        readAt content headerBytes (Writer.createMetadata metadata).bodyBytes.toNat := by
      rw [readAt, List.take_of_length_le]
      rw [List.length_drop, hholds.length, hmetadata]
      omega
    rw [Writer.published, overwrite_inside (Nat.zero_le _), List.take_zero, List.nil_append,
      Nat.zero_add, hheader, hrest, hbody, hmetadata, hdigest]
    rfl
  · rw [Writer.finalMetadata, hmetadata, hdigest]

/-- Two spools of the same lines are equal byte by byte. -/
theorem Spooled.agree {sha256 : Sha256} {otherCalls : List WriteCall} {files others : Store String}
    {spool other : DirectPrintSpool} (h : Spooled sha256 metadata calls files spool)
    (hother : Spooled sha256 metadata otherCalls others other) (hwriting : Writing packed calls)
    (hothers : Writing packed otherCalls) (hfilling : Filling metadata packed) :
    (files spool.path).isSome ∧ others other.path = files spool.path ∧
      other = { spool with path := other.path } := by
  obtain ⟨hfile, hspool⟩ := h.file_eq hwriting hfilling
  obtain ⟨hotherFile, hotherSpool⟩ := hother.file_eq hothers hfilling
  refine ⟨?_, hotherFile.trans hfile.symm, ?_⟩
  · rw [hfile]
    rfl
  · rw [hotherSpool, hspool]

end Spool

/-! ## Undisturbed runs -/

/-- The pipeline screens some channels to the end, when their masks can be opened, the tone provider
gives strips of their planes, and nothing disturbs it. -/
theorem exists_strip_run {V : Type} [QVariantApi V] {width height : Nat} {screenSeed : UInt32}
    {modeParams : QVariantMap V} {openMask : String → Except String Mask}
    {provider : Nat → Nat → Except String (List Bytes)}
    {channels : List (ScreenChannel × TonePlane width height)} (hwidth : 0 < width)
    (hheight : 0 < height) (hnonempty : channels.map Prod.fst ≠ [])
    (hprovided : ∀ firstRow rowCount, 0 < rowCount → firstRow + rowCount ≤ height →
      ∀ tones, provider firstRow rowCount = .ok tones →
        tones = channels.map fun entry ↦ Plane.strip entry.2.val width firstRow rowCount)
    (hdelivers : Delivers provider height) {states : List ScreenState}
    (hopen : openStates openMask screenSeed 0 (channels.map Prod.fst) = .ok states)
    (stripRows : Int) :
    ∃ trace, Runs (screenToSpool width height screenSeed modeParams (channels.map Prod.fst)
      openMask provider stripRows).run trace (.ok ()) := by
  obtain ⟨screens, hscreens, hstandings⟩ := @open_states_screens V _ width height
    screenSeed modeParams openMask _ 0 states hopen
  have hmeets := screen_to_spool_meets stripRows hwidth hheight hnonempty
    (spool_screens_uniform hscreens)
    (fun firstRow rowCount hrow hrows planes hplanes ↦
      (hprovided firstRow rowCount hrow hrows planes hplanes).trans
        (spool_screens_strips hscreens firstRow rowCount))
    hopen (hstandings [] rfl)
  -- Nobody cancels the job, and the writer takes every line.
  obtain ⟨trace, result, hruns, hanswers⟩ := exists_runs
    (fun call ↦ @PipelineCall.rec PipelineAnswer false (fun _ _ _ ↦ none) call)
    (screenToSpool width height screenSeed modeParams (channels.map Prod.fst) openMask provider
      stripRows).run
  have hundisturbed : Undisturbed trace := by
    intro event hevent
    have hanswer := hanswers event hevent
    obtain ⟨call, answer⟩ := event
    cases call with
    | isCanceled => exact hanswer
    | writeLine => exact hanswer
  rcases (hmeets trace _ hruns).2 with ⟨rfl, -⟩ | ⟨hdisturbed, -⟩
  · exact ⟨trace, hruns⟩
  · exact absurd ⟨hundisturbed, hdelivers⟩ hdisturbed

/-! ## Multi-ink jobs -/

namespace PrintJobMultiInk

section Paths

variable {V : Type} [QVariantApi V] {fl : ℚ → ℚ} {job : PrintJobMultiInk V}
  {assetPath : String → String} {openMask : String → Except String Mask} {image : SourceImage}
  {files : PlateFiles} {plates : PreparedPlates} {sha256 : Sha256} {xdpi ydpi : Int32}

/-- Unless the job drops its varnish, each ink has the same tones on both paths. -/
theorem ink_tones_eq (hplates : job.preparedPlates files image = .ok plates)
    (hdrops : ¬ job.DropsVarnish files image) :
    ∀ ink ∈ builderInks job.inkMode,
      job.inkTone fl (coveredImages image) (job.wholePlateLoader plates) ink =
        job.inkTone fl (coveredImages image) files.readPlate ink := by
  have hequal := job.bounded_tones_eq fl files image plates hplates fun hten ↦
    job.varnish_planes_eq fl files image plates hplates hten hdrops
  rw [boundedTones, job.in_memory_tones_prepared fl hplates, build_tone_channels_eq,
    build_tone_channels_eq] at hequal
  exact List.map_inj_left.mp (Option.some.inj hequal)

/-- So it has the same lines. -/
theorem packed_inks_congr {loader other : ExternalPlateLoader}
    (hequal : ∀ ink ∈ builderInks job.inkMode,
      job.inkTone fl (coveredImages image) loader ink =
        job.inkTone fl (coveredImages image) other ink)
    {packed : List MultiInkScreenEngine.PackedLines}
    (h : job.PackedInks fl assetPath openMask image loader packed) :
    job.PackedInks fl assetPath openMask image other packed := by
  rw [PackedInks, ← h]
  refine List.map_congr_left fun ink hink ↦ ?_
  have hplane : job.tonePlane fl image other ink = job.tonePlane fl image loader ink :=
    Subtype.ext (hequal ink hink).symm
  unfold inkLines inkScreen
  rw [hplane]

/-- The lines of a job are unique. -/
theorem packed_inks_unique {loader : ExternalPlateLoader}
    {packed others : List MultiInkScreenEngine.PackedLines}
    (h : job.PackedInks fl assetPath openMask image loader packed)
    (hothers : job.PackedInks fl assetPath openMask image loader others) : others = packed :=
  List.map_injective_iff.mpr (Option.some_injective _) (hothers.symm.trans h)

/-- A spool of a job was written from the lines of its inks under the plates in memory, whichever
path gave it. -/
theorem RasterSpoolBuilt.memory_inks {store : Store String} {spool : DirectPrintSpool}
    {loader : ExternalPlateLoader}
    (h : RasterSpoolBuilt fl job assetPath openMask image files sha256 xdpi ydpi store spool
      loader)
    (hdrops : ¬ job.DropsVarnish files image) :
    ∃ packed calls, job.PackedInks fl assetPath openMask image files.readPlate packed ∧
      Writing packed calls ∧
      Spooled sha256 (spoolMetadata job.inkMode image xdpi ydpi) calls store spool := by
  obtain ⟨packed, calls, hinks, hwriting, hspooled⟩ := h.packed_inks
  refine ⟨packed, calls, ?_, hwriting, hspooled⟩
  cases h with
  | bounded hplates => exact packed_inks_congr (ink_tones_eq hplates hdrops) hinks
  | inMemory => exact hinks

/-- Two runs of `buildRasterSpool` on a job publish spools that are equal byte by byte, with the same
metadata and checksum, whichever path each run took and however it cut the image into strips. -/
theorem multi_ink_strategy_independent (hdrops : ¬ job.DropsVarnish files image)
    {store others : Store String} {spool other : DirectPrintSpool}
    {loader otherLoader : ExternalPlateLoader}
    (h : RasterSpoolBuilt fl job assetPath openMask image files sha256 xdpi ydpi store spool
      loader)
    (hother : RasterSpoolBuilt fl job assetPath openMask image files sha256 xdpi ydpi others other
      otherLoader) :
    (store spool.path).isSome ∧ others other.path = store spool.path ∧
      other = { spool with path := other.path } := by
  obtain ⟨packed, calls, hinks, hwriting, hspooled⟩ := h.memory_inks hdrops
  obtain ⟨otherPacked, otherCalls, hotherInks, hotherWriting, hotherSpooled⟩ :=
    hother.memory_inks hdrops
  obtain rfl := packed_inks_unique hinks hotherInks
  exact hspooled.agree hotherSpooled hwriting hotherWriting (hinks.filling job xdpi ydpi)

/-- When the masks of its channels are there, the bounded path screens a job to the end, unless
something disturbs it. -/
theorem exists_strips {io : CacheIo} {canonical : CanonicalCmykFile}
    (hplates : job.preparedPlates files image = .ok plates) (hio : io.Ok)
    (hcreate : CanonicalCmykFile.create io image = .ok canonical) {states : List ScreenState}
    (hopen : openStates openMask job.screenSeed 0 (job.screenChannels assetPath) = .ok states)
    (stripRows : Int) :
    ∃ trace, Runs (screenToSpool image.width image.height job.screenSeed job.modeParams
      (job.screenChannels assetPath) openMask (job.toneProvider fl plates image canonical io)
      stripRows).run trace (.ok ()) := by
  have hnonempty : job.screenChannels assetPath ≠ [] := by
    refine List.ne_nil_of_length_pos ?_
    rw [screenChannels, List.length_map, List.length_range]
    cases job.inkMode <;> exact Nat.succ_pos _
  rw [← @spool_channels_fst _ _ fl job assetPath image plates] at hopen hnonempty ⊢
  exact exists_strip_run image.width_pos image.height_pos hnonempty
    (spool_channels_provided hplates hcreate)
    (fun firstRow rowCount hrow hrows ↦ ⟨_, job.tone_provider_eq fl hplates hcreate
      (job.build_tone_channels_eq fl (coveredImages image) _) hrow hrows (hio.reopened _)⟩)
    hopen stripRows

end Paths

/-- The spool of three rows is valid. -/
theorem six_inks_spool_valid :
    Valid (Writer.createMetadata (spoolMetadata .SixColor_YMCK_Lm_Lc threeRows 720 1440)) :=
  ⟨by decide, by decide, by decide, by decide, by decide, by decide, by decide, by decide,
    by decide, by decide, by decide, List.all_iff_forall_prop.mp (by decide), Or.inr rfl⟩

/-- Three rows in six inks, built from strips of two rows and again in memory. -/
theorem multi_ink_strategy_independent_six_inks :
    ∃ store others spool other,
      RasterSpoolBuilt FloatFormat.binary32.round (plainJob .SixColor_YMCK_Lm_Lc) id
        (fun _ ↦ .ok openPixelMask) threeRows fullPlates zeroDigest 720 1440 store spool
        ((plainJob .SixColor_YMCK_Lm_Lc).wholePlateLoader ⟨none, none⟩) ∧
      RasterSpoolBuilt FloatFormat.binary32.round (plainJob .SixColor_YMCK_Lm_Lc) id
        (fun _ ↦ .ok openPixelMask) threeRows fullPlates zeroDigest 720 1440 others other
        fullPlates.readPlate ∧
      (store spool.path).isSome ∧ others other.path = store spool.path ∧
      other = { spool with path := other.path } := by
  have hio : CacheIo.Ok {} := ⟨rfl, fun _ ↦ rfl, fun _ ↦ rfl, fun _ ↦ rfl⟩
  have hplates : (plainJob .SixColor_YMCK_Lm_Lc).preparedPlates fullPlates threeRows =
      .ok ⟨none, none⟩ := rfl
  obtain ⟨canonical, hcreate⟩ := CanonicalCmykFile.create_complete hio threeRows
  obtain ⟨trace, hruns⟩ := @exists_strips _ _ FloatFormat.binary32.round
    (plainJob .SixColor_YMCK_Lm_Lc) id (fun _ ↦ .ok openPixelMask) threeRows fullPlates _ _ _
    hplates hio hcreate _ rfl 2
  obtain ⟨packed, hinks, hwriting⟩ := bounded_packed_inks hplates hcreate hruns
  obtain ⟨store, spool, hspooled⟩ :=
    (hinks.filling _ 720 1440).spooled hwriting six_inks_spool_valid zeroDigest
  obtain ⟨others, other, after, hmemory, -⟩ := @exists_printed _ _ FloatFormat.binary32.round
    (plainJob .SixColor_YMCK_Lm_Lc) id (fun _ ↦ .ok openPixelMask) threeRows fullPlates 720 1440
    zeroDigest (plain_job_reads _ _ _) (fun _ _ ↦ ⟨openPixelMask, rfl⟩) six_inks_spool_valid
    "job.prn"
  have hstrips := RasterSpoolBuilt.bounded hplates hcreate hruns hspooled
  exact ⟨store, others, spool, other, hstrips, hmemory, multi_ink_strategy_independent
    (fun hdrops ↦ absurd hdrops.tenInks (by decide)) hstrips hmemory⟩

end PrintJobMultiInk

/-! ## X-33 jobs -/

namespace PrintJobCMYK

variable {V : Type} [QVariantApi V] {job : PrintJobCMYK} {openMask : String → Except String Mask}
  {image : SourceImage} {files : PlateFiles} {sha256 : Sha256} {xdpi ydpi : Int32}

variable (V job openMask image files sha256 xdpi ydpi) in
/-- The spools that `buildRasterSpool` gives an X-33 job, from strips or from memory. Neither path
has mode parameters. -/
inductive RasterSpoolBuilt (store : Store String) (spool : DirectPrintSpool) : Prop
  | bounded {io : CacheIo} {canonical : CanonicalCmykFile} {plate : Option Bytes} {stripRows : Int}
      {trace : BoundedRasterPipeline.Trace}
      (hcreate : CanonicalCmykFile.create io image = .ok canonical)
      (hplate : job.whitePlate files image = .ok plate)
      (hruns : Runs (screenToSpool image.width image.height job.screenSeed
        (fun _ ↦ none : QVariantMap V) job.screenChannels openMask
        (job.toneProvider image plate canonical io) stripRows).run trace (.ok ()))
      (hspooled : Spooled sha256 (job.boundedSpool image xdpi ydpi) (writeCalls trace) store spool)
  | inMemory {tones : List Bytes} {trace : MultiInkScreenEngine.Trace}
      {packed : List MultiInkScreenEngine.PackedLines}
      (htones : job.inMemoryTones files image = some tones)
      (hruns : Runs (MultiInkScreenEngine.screenChannels (job.screenRequest V image tones)
        fun key ↦ (openMask (job.maskPath key)).toOption) trace (some packed))
      (hspooled : Spooled sha256 (job.inMemorySpool image xdpi ydpi)
        (lineCalls packed job.logicalChannelCount image.height) store spool)

variable (V job openMask image) in
/-- The lines of the channels: the tones of each, screened with its mask. -/
def PackedChannels (tones : List Bytes) (packed : List MultiInkScreenEngine.PackedLines) : Prop :=
  packed.length = job.logicalChannelCount ∧ ∀ channel < job.logicalChannelCount, ∃ mask,
    ∃ htone : tones[channel]!.length = image.width * image.height,
      openMask (job.screenChannel channel).maskPath = .ok mask ∧
      packed[channel]? = some (MultiInkScreenEngine.packedLines
        (spoolScreen image.width image.height job.screenSeed (fun _ ↦ none : QVariantMap V) channel
          (job.screenChannel channel) mask ⟨tones[channel]!, htone⟩))

variable (job) in
/-- There are channels. -/
theorem logical_channel_count_pos : 0 < job.logicalChannelCount := by
  unfold logicalChannelCount
  split_ifs <;> omega

omit [QVariantApi V] in
/-- A screen request has the channels of its job. -/
theorem screen_request_length (tones : List Bytes) :
    (job.screenRequest V image tones).channels.length = job.logicalChannelCount :=
  (List.length_map _).trans List.length_range

/-- The lines of a job are unique. -/
theorem packed_channels_unique {tones : List Bytes}
    {packed others : List MultiInkScreenEngine.PackedLines}
    (h : job.PackedChannels V openMask image tones packed)
    (hothers : job.PackedChannels V openMask image tones others) : others = packed := by
  refine List.ext_getElem? fun channel ↦ ?_
  by_cases hchannel : channel < job.logicalChannelCount
  · obtain ⟨mask, htone, hmask, hget⟩ := h.2 channel hchannel
    obtain ⟨other, _, hother, hgetOther⟩ := hothers.2 channel hchannel
    obtain rfl := Except.ok.inj (hmask.symm.trans hother)
    rw [hget, hgetOther]
  · rw [List.getElem?_eq_none (hothers.1 ▸ not_lt.mp hchannel),
      List.getElem?_eq_none (h.1 ▸ not_lt.mp hchannel)]

/-- The counts in the metadata of a spool. -/
theorem spool_counts :
    (job.inMemorySpool image xdpi ydpi).logicalChannelCount.toInt.toNat =
        job.logicalChannelCount ∧
      (job.inMemorySpool image xdpi ydpi).height.toInt.toNat = image.height := by
  have hheight : (Int32.ofNat image.height).toInt = image.height :=
    Int32.toInt_ofNat_of_lt image.height_lt
  refine ⟨?_, ?_⟩
  · show (Int32.ofNat job.logicalChannelCount).toInt.toNat = _
    unfold logicalChannelCount
    split_ifs <;> rfl
  · show (Int32.ofNat image.height).toInt.toNat = _
    rw [hheight, Int.toNat_natCast]

/-- The lines of the channels fill the spool of the job. -/
theorem PackedChannels.filling {tones : List Bytes}
    {packed : List MultiInkScreenEngine.PackedLines}
    (h : job.PackedChannels V openMask image tones packed) :
    Filling (job.inMemorySpool image xdpi ydpi) packed := by
  obtain ⟨hchannels, hheight⟩ := @spool_counts job image xdpi ydpi
  have hwidth := image.width_lt
  have hbytes : (Int32.ofNat (((image.width + 3) / 4 + 3) / 4 * 4)).toInt =
      ((image.width + 3) / 4 + 3) / 4 * 4 := Int32.toInt_ofNat_of_lt (by omega)
  have hscreen : ∀ plane ∈ packed, ∃ screen : Screen, screen.width = image.width ∧
      screen.height = image.height ∧ plane = MultiInkScreenEngine.packedLines screen := by
    intro plane hplane
    obtain ⟨channel, hget⟩ := List.mem_iff_getElem?.mp hplane
    have hchannel : channel < job.logicalChannelCount :=
      h.1 ▸ (List.getElem?_eq_some_iff.mp hget).1
    obtain ⟨mask, htone, -, hlines⟩ := h.2 channel hchannel
    exact ⟨_, rfl, rfl, Option.some.inj (hget.symm.trans hlines)⟩
  refine ⟨h.1.trans hchannels.symm, ?_, ?_⟩
  · intro plane hplane
    obtain ⟨screen, -, hrows, rfl⟩ := hscreen plane hplane
    rw [packed_lines_length, hrows, hheight]
  · intro plane hplane line hline
    obtain ⟨screen, hcolumns, -, rfl⟩ := hscreen plane hplane
    show _ = (Int32.ofNat (((image.width + 3) / 4 + 3) / 4 * 4)).toInt.toNat
    rw [screen.packed_line_length hline, hcolumns, hbytes]
    omega

section Strips

variable {tones : List Bytes} (hcount : tones.length = job.logicalChannelCount)
  (hlengths : ∀ tone ∈ tones, tone.length = image.width * image.height)

include hcount hlengths in
theorem tone_length {channel : Nat} (hchannel : channel < job.logicalChannelCount) :
    tones[channel]!.length = image.width * image.height := by
  rw [getElem!_pos tones channel (hcount ▸ hchannel)]
  exact hlengths _ (List.getElem_mem _)

/-- The channels with their tones. -/
def spoolChannels : List (ScreenChannel × TonePlane image.width image.height) :=
  (List.range job.logicalChannelCount).attach.map fun channel ↦
    (job.screenChannel channel.val,
      ⟨tones[channel.val]!, tone_length hcount hlengths (List.mem_range.mp channel.property)⟩)

theorem spool_channels_length :
    (spoolChannels hcount hlengths).length = job.logicalChannelCount := by
  simp [spoolChannels]

theorem spool_channels_fst : (spoolChannels hcount hlengths).map Prod.fst = job.screenChannels := by
  refine List.ext_getElem (by simp [spoolChannels, screenChannels]) ?_
  intro channel _ _
  simp [spoolChannels, screenChannels]

theorem spool_channels_tones (f : Bytes → Bytes) :
    ((spoolChannels hcount hlengths).map fun entry ↦ f entry.2.val) = tones.map f := by
  refine List.ext_getElem (by simp [spoolChannels, hcount]) ?_
  intro channel _ hright
  have hbound : channel < tones.length := by rwa [List.length_map] at hright
  have htone : (tones.map f)[channel] = f tones[channel]! := by
    rw [List.getElem_map, getElem!_pos tones channel hbound]
  rw [htone]
  simp [spoolChannels]

theorem spool_channels_get {channel : Nat} (hchannel : channel < job.logicalChannelCount) :
    (spoolChannels hcount hlengths)[channel]? = some (job.screenChannel channel,
      ⟨tones[channel]!, tone_length hcount hlengths hchannel⟩) := by
  rw [List.getElem?_eq_getElem (spool_channels_length hcount hlengths ▸ hchannel)]
  simp [spoolChannels]

variable {io : CacheIo} {canonical : CanonicalCmykFile} {plate : Option Bytes}

/-- The tone provider gives strips of the tones of the channels. -/
theorem spool_channels_provided (hcreate : CanonicalCmykFile.create io image = .ok canonical)
    (hplate : job.whitePlate files image = .ok plate)
    (htones : job.tonesOf (coveredTones image) image.width image.height files.readPlate = some tones)
    (firstRow rowCount : Nat) (hrow : 0 < rowCount) (hrows : firstRow + rowCount ≤ image.height)
    (planes : List Bytes)
    (hplanes : job.toneProvider image plate canonical io firstRow rowCount = .ok planes) :
    planes = (spoolChannels hcount hlengths).map fun entry ↦
      Plane.strip entry.2.val image.width firstRow rowCount := by
  rw [spool_channels_tones hcount hlengths (Plane.strip · image.width firstRow rowCount)]
  exact job.tone_provider_ok hcreate hplate htones hrow hrows hplanes

include hcount hlengths in
/-- The strips of the bounded path give the lines of the channels. -/
theorem bounded_packed_channels {stripRows : Int} {trace : BoundedRasterPipeline.Trace}
    (hcreate : CanonicalCmykFile.create io image = .ok canonical)
    (hplate : job.whitePlate files image = .ok plate)
    (htones : job.tonesOf (coveredTones image) image.width image.height files.readPlate = some tones)
    (hruns : Runs (screenToSpool image.width image.height job.screenSeed
      (fun _ ↦ none : QVariantMap V) job.screenChannels openMask
      (job.toneProvider image plate canonical io) stripRows).run trace (.ok ())) :
    ∃ packed, job.PackedChannels V openMask image tones packed ∧
      Writing packed (writeCalls trace) := by
  rw [← spool_channels_fst hcount hlengths] at hruns
  rcases screen_to_spool_screens stripRows
    (spool_channels_provided hcount hlengths hcreate hplate htones) trace _ hruns with
    ⟨-, herror⟩ | hscreens
  · exact absurd rfl herror
  obtain ⟨screens, hscreens, -, hcomplete⟩ := hscreens
  refine ⟨_, ⟨?_, ?_⟩, writing_of_trace (hcomplete rfl)⟩
  · have hlength := congrArg List.length (spool_screens_strips hscreens 0 0)
    rw [List.length_map, List.length_map, spool_channels_length] at hlength
    rw [List.length_map, ← hlength]
  · intro channel hchannel
    have hentry := spool_channels_get hcount hlengths hchannel
    rcases spool_screens_get hscreens channel with ⟨-, hnone⟩ | ⟨config, plane, mask, h⟩
    · cases hnone.symm.trans hentry
    · obtain ⟨hsome, hmask, hscreen⟩ := h
      cases hentry.symm.trans hsome
      refine ⟨mask, tone_length hcount hlengths hchannel, hmask, ?_⟩
      rw [List.getElem?_map, hscreen, Nat.zero_add]
      rfl

include hcount hlengths in
/-- When the masks of its channels are there, the bounded path screens a job to the end, unless
something disturbs it. -/
theorem exists_strips (hcreate : CanonicalCmykFile.create io image = .ok canonical) (hio : io.Ok)
    (hplate : job.whitePlate files image = .ok plate)
    (htones : job.tonesOf (coveredTones image) image.width image.height files.readPlate = some tones)
    {states : List ScreenState}
    (hopen : openStates openMask job.screenSeed 0 job.screenChannels = .ok states)
    (stripRows : Int) :
    ∃ trace, Runs (screenToSpool image.width image.height job.screenSeed
      (fun _ ↦ none : QVariantMap V) job.screenChannels openMask
      (job.toneProvider image plate canonical io) stripRows).run trace (.ok ()) := by
  have hnonempty : job.screenChannels ≠ [] := by
    refine List.ne_nil_of_length_pos ?_
    rw [screenChannels, List.length_map, List.length_range]
    exact job.logical_channel_count_pos
  rw [← spool_channels_fst hcount hlengths] at hopen hnonempty ⊢
  exact exists_strip_run image.width_pos image.height_pos hnonempty
    (spool_channels_provided hcount hlengths hcreate hplate htones)
    (fun firstRow rowCount hrow hrows ↦
      ⟨_, job.tone_provider_eq hcreate hplate htones hrow hrows (hio.reopened _)⟩) hopen stripRows

end Strips

/-- A channel request has the key and the tones of its channel. -/
theorem channel_request_eq (channel : Nat) (tone : Bytes) :
    (job.channelRequest channel tone).maskKey = job.chKeys.getD channel "" ∧
      (job.channelRequest channel tone).toneBytes = some tone := by
  have hkeys : job.chKeys = if job.whiteEnabled then ["c", "m", "y", "k", job.x33WhiteMaskKey]
      else ["c", "m", "y", "k"] := by
    unfold chKeys
    split_ifs <;> rfl
  rw [hkeys]
  unfold channelRequest
  dsimp only
  split_ifs <;> exact ⟨rfl, rfl⟩

/-- Every channel has a mask key. -/
theorem channel_key_ne_empty {channel : Nat} (hchannel : channel < job.logicalChannelCount) : job.chKeys.getD channel "" ≠ "" := by
  have hlength : job.chKeys.length = job.logicalChannelCount := by
    unfold chKeys logicalChannelCount
    split_ifs <;> rfl
  have hmem : job.chKeys.getD channel "" ∈ job.chKeys := by
    rw [List.getD_eq_getElem?_getD, List.getElem?_eq_getElem (hlength ▸ hchannel),
      Option.getD_some]
    exact List.getElem_mem _
  have hkeys : ∀ key ∈ job.chKeys, key ≠ "" := by
    unfold chKeys
    split_ifs
    · simp [job.mask_key_ne]
    · simp
  exact hkeys _ hmem

/-- The engine screens a channel as the pipeline does. -/
theorem request_screen_lines {tones : List Bytes} {channel : Nat} (mask : Mask)
    (htone : tones[channel]!.length = image.width * image.height) :
    (MultiInkScreenEngine.channelScreen (job.screenRequest V image tones)
        (job.channelRequest channel tones[channel]!) mask channel
        (job.maskPath (job.channelRequest channel tones[channel]!).maskKey) tones[channel]!
        htone).lines =
      (spoolScreen image.width image.height job.screenSeed (fun _ ↦ none : QVariantMap V) channel
        (job.screenChannel channel) mask ⟨tones[channel]!, htone⟩).lines :=
  Screen.lines_congr (job.screen_channel_eq image tones channel).symm rfl

/-- So does the path in memory. -/
theorem memory_packed_channels {tones : List Bytes}
    {trace : MultiInkScreenEngine.Trace} {packed : List MultiInkScreenEngine.PackedLines}
    (hruns : Runs (MultiInkScreenEngine.screenChannels (job.screenRequest V image tones)
      fun key ↦ (openMask (job.maskPath key)).toOption) trace (some packed)) :
    job.PackedChannels V openMask image tones packed := by
  have hloaded := PrintJobMultiInk.channels_loaded
    (MultiInkScreenEngine.screen_channels_laws _ trace _ hruns packed rfl)
  have hkeys : ∀ channelReq ∈ (job.screenRequest V image tones).channels,
      channelReq.maskKey ≠ "" := by
    intro channelReq hmem
    obtain ⟨channel, hchannel, rfl⟩ := List.mem_map.mp hmem
    rw [(job.channel_request_eq channel _).1]
    exact channel_key_ne_empty (List.mem_range.mp hchannel)
  have hnonempty : (job.screenRequest V image tones).channels ≠ [] := by
    refine List.ne_nil_of_length_pos ?_
    rw [screen_request_length]
    exact job.logical_channel_count_pos
  obtain ⟨screens, hscreens⟩ := @exists_screens _ _ (job.screenRequest V image tones)
    (fun key ↦ (openMask (job.maskPath key)).toOption) _
    (fun channelReq hmem ↦ ⟨hkeys channelReq hmem, (hloaded channelReq hmem).1⟩)
    (fun channelReq hmem ↦ (hloaded channelReq hmem).2) job.maskPath 0
  have hgives := MultiInkScreenEngine.screen_channels_meets _ image.width_pos image.height_pos
    hnonempty hscreens trace _ hruns
  have hpacked : packed = screens.map MultiInkScreenEngine.packedLines := by
    by_cases hcanceled : MultiInkScreenEngine.Canceled trace
    · cases hgives.stopped hcanceled
    · exact Option.some.inj (hgives.finished hcanceled)
  refine ⟨?_, ?_⟩
  · rw [hpacked, List.length_map, MultiInkScreenEngine.requested_length _ hscreens,
      screen_request_length]
  · intro channel hchannel
    have hget : (job.screenRequest V image tones).channels[channel]? =
        some (job.channelRequest channel tones[channel]!) := by
      show ((List.range job.logicalChannelCount).map _)[channel]? = _
      rw [List.getElem?_map, List.getElem?_range hchannel, Option.map_some]
    obtain ⟨mask, tone, htone, hbytes, hmask, hscreen⟩ :=
      MultiInkScreenEngine.requested_get _ hscreens hget
    obtain ⟨hreqKey, hreqTone⟩ := job.channel_request_eq channel tones[channel]!
    obtain rfl := Option.some.inj (hreqTone.symm.trans hbytes)
    refine ⟨mask, htone, ?_, ?_⟩
    · rw [hreqKey] at hmask
      show openMask (job.maskPath (job.chKeys.getD channel "")) = _
      cases hopen : openMask (job.maskPath (job.chKeys.getD channel "")) with
      | error message =>
          rw [hopen] at hmask
          cases hmask
      | ok opened =>
          rw [hopen] at hmask
          exact congrArg _ (Option.some.inj hmask)
    · have hlines := @request_screen_lines V _ job image tones channel mask htone
      rw [hpacked, List.getElem?_map, hscreen, Option.map_some, Nat.zero_add]
      exact congrArg (fun lines ↦ some (lines.map Prod.snd)) hlines

/-- A spool of an X-33 job was written from the lines of its channels, whichever path gave it. -/
theorem RasterSpoolBuilt.packed_channels {store : Store String} {spool : DirectPrintSpool}
    (h : job.RasterSpoolBuilt V openMask image files sha256 xdpi ydpi store spool) :
    ∃ tones packed calls,
      job.tonesOf (coveredTones image) image.width image.height files.readPlate = some tones ∧
      job.PackedChannels V openMask image tones packed ∧ Writing packed calls ∧
      Spooled sha256 (job.inMemorySpool image xdpi ydpi) calls store spool := by
  cases h with
  | bounded hcreate hplate hruns hspooled =>
      have hreadable : job.PlateReadable files image := by
        intro hmode
        obtain ⟨source, hread, -⟩ := job.white_plate_eq_some hplate hmode
        exact ⟨source, hread⟩
      obtain ⟨tones, htones, hcount, hlengths⟩ := job.exists_tones hreadable
      obtain ⟨packed, hpacked, hwriting⟩ :=
        bounded_packed_channels hcount hlengths hcreate hplate htones hruns
      exact ⟨tones, packed, _, htones, hpacked, hwriting, hspooled⟩
  | inMemory htones hruns hspooled =>
      have hpacked := memory_packed_channels hruns
      have hwriting := writing_line_calls (@PackedChannels.filling V _ job openMask image xdpi ydpi _ _ hpacked)
      obtain ⟨hchannels, hheight⟩ := @spool_counts job image xdpi ydpi
      rw [hchannels, hheight] at hwriting
      exact ⟨_, _, _, (job.in_memory_tones_eq files image).symm.trans htones, hpacked, hwriting,
        hspooled⟩

/-- Two runs of `buildRasterSpool` on an X-33 job publish spools that are equal byte by byte, with
the same metadata and checksum, whichever path each run took and however it cut the image into
strips. -/
theorem x33_strategy_independent {store others : Store String} {spool other : DirectPrintSpool}
    (h : job.RasterSpoolBuilt V openMask image files sha256 xdpi ydpi store spool)
    (hother : job.RasterSpoolBuilt V openMask image files sha256 xdpi ydpi others other) :
    (store spool.path).isSome ∧ others other.path = store spool.path ∧
      other = { spool with path := other.path } := by
  obtain ⟨tones, packed, calls, htones, hpacked, hwriting, hspooled⟩ := h.packed_channels
  obtain ⟨otherTones, otherPacked, otherCalls, hotherTones, hotherPacked, hotherWriting,
    hotherSpooled⟩ := hother.packed_channels
  obtain rfl := Option.some.inj (htones.symm.trans hotherTones)
  obtain rfl := packed_channels_unique hpacked hotherPacked
  exact hspooled.agree hotherSpooled hwriting hotherWriting hpacked.filling

/-- When the masks of its channels are there, the path in memory screens a job unless it is
canceled. -/
theorem exists_screened {tones : List Bytes}
    (hcount : tones.length = job.logicalChannelCount)
    (hlengths : ∀ tone ∈ tones, tone.length = image.width * image.height)
    (hmasks : ∀ channel < job.logicalChannelCount, ∃ mask,
      openMask (job.screenChannel channel).maskPath = .ok mask) :
    ∃ trace packed, Runs (MultiInkScreenEngine.screenChannels (job.screenRequest V image tones)
      fun key ↦ (openMask (job.maskPath key)).toOption) trace (some packed) := by
  have hready : ∀ channelReq ∈ (job.screenRequest V image tones).channels,
      (channelReq.maskKey ≠ "" ∧
        ∃ mask, (openMask (job.maskPath channelReq.maskKey)).toOption = some mask) ∧
      ∃ tone, channelReq.toneBytes = some tone ∧ tone.length = image.width * image.height := by
    intro channelReq hmem
    obtain ⟨channel, hchannel, rfl⟩ := List.mem_map.mp hmem
    rw [List.mem_range] at hchannel
    obtain ⟨hreqKey, hreqTone⟩ := job.channel_request_eq channel tones[channel]!
    obtain ⟨mask, hmask⟩ := hmasks channel hchannel
    refine ⟨⟨hreqKey ▸ channel_key_ne_empty hchannel, mask, ?_⟩, _, hreqTone,
      tone_length hcount hlengths hchannel⟩
    have hopen : openMask (job.maskPath (job.chKeys.getD channel "")) = .ok mask := hmask
    rw [hreqKey, hopen]
    rfl
  obtain ⟨screens, hscreens⟩ := @exists_screens _ _ (job.screenRequest V image tones)
    (fun key ↦ (openMask (job.maskPath key)).toOption) _
    (fun channelReq hmem ↦ (hready channelReq hmem).1)
    (fun channelReq hmem ↦ (hready channelReq hmem).2) job.maskPath 0
  have hnonempty : (job.screenRequest V image tones).channels ≠ [] := by
    refine List.ne_nil_of_length_pos ?_
    rw [screen_request_length]
    exact job.logical_channel_count_pos
  obtain ⟨trace, result, hruns, hanswers⟩ := exists_runs (fun _ ↦ false)
    (MultiInkScreenEngine.screenChannels (job.screenRequest V image tones)
      fun key ↦ (openMask (job.maskPath key)).toOption)
  have hcanceled : ¬ MultiInkScreenEngine.Canceled trace := by
    intro hcanceled
    obtain ⟨event, hevent, hanswer⟩ := hcanceled
    exact Bool.false_ne_true ((hanswers event hevent).symm.trans hanswer)
  obtain rfl := (MultiInkScreenEngine.screen_channels_meets _ image.width_pos image.height_pos
    hnonempty hscreens trace _ hruns).finished hcanceled
  exact ⟨trace, _, hruns⟩

/-- The spool of a job with white from a plate is valid. -/
theorem plate_spool_valid :
    Valid (Writer.createMetadata (plateJob.inMemorySpool PrintJobMultiInk.threeRows 720 1440)) :=
  ⟨by decide, by decide, by decide, by decide, by decide, by decide, by decide, by decide,
    by decide, by decide, by decide, List.all_iff_forall_prop.mp (by decide), Or.inr rfl⟩

/-- Three rows, built from strips of one row and again in memory. -/
theorem x33_strategy_independent_plate :
    ∃ store others spool other,
      plateJob.RasterSpoolBuilt Variant (fun _ ↦ .ok PrintJobMultiInk.openPixelMask)
        PrintJobMultiInk.threeRows risingPlates zeroDigest 720 1440 store spool ∧
      plateJob.RasterSpoolBuilt Variant (fun _ ↦ .ok PrintJobMultiInk.openPixelMask)
        PrintJobMultiInk.threeRows risingPlates zeroDigest 720 1440 others other ∧
      (store spool.path).isSome ∧ others other.path = store spool.path ∧
      other = { spool with path := other.path } := by
  have hio : CacheIo.Ok {} := ⟨rfl, fun _ ↦ rfl, fun _ ↦ rfl, fun _ ↦ rfl⟩
  have hreadable : plateJob.PlateReadable risingPlates
      PrintJobMultiInk.threeRows := fun _ ↦ ⟨[0, 1, 2, 3, 4, 5], rfl⟩
  obtain ⟨tones, htones, hcount, hlengths⟩ := plateJob.exists_tones hreadable
  obtain ⟨plate, hplate⟩ := plateJob.exists_white_plate hreadable
  obtain ⟨canonical, hcreate⟩ :=
    CanonicalCmykFile.create_complete hio PrintJobMultiInk.threeRows
  obtain ⟨trace, hruns⟩ := @exists_strips Variant _ plateJob
    (fun _ ↦ .ok PrintJobMultiInk.openPixelMask) _ _ _ hcount hlengths _ _ _ hcreate hio hplate
    htones _ rfl 1
  obtain ⟨packed, hpacked, hwriting⟩ :=
    bounded_packed_channels hcount hlengths hcreate hplate htones hruns
  obtain ⟨store, spool, hspooled⟩ := hpacked.filling.spooled hwriting plate_spool_valid zeroDigest
  obtain ⟨engineTrace, engineLines, hengine⟩ := @exists_screened Variant _ plateJob
    (fun _ ↦ .ok PrintJobMultiInk.openPixelMask) _ _ hcount hlengths
    fun _ _ ↦ ⟨_, rfl⟩
  have hfilling : Filling (plateJob.inMemorySpool PrintJobMultiInk.threeRows 720 1440)
      engineLines := (@memory_packed_channels Variant _ plateJob
        (fun _ ↦ .ok PrintJobMultiInk.openPixelMask) _ _ _ _ hengine).filling
  obtain ⟨others, other, hother⟩ :=
    hfilling.spooled (writing_line_calls hfilling) plate_spool_valid zeroDigest
  have hstrips : plateJob.RasterSpoolBuilt Variant (fun _ ↦ .ok PrintJobMultiInk.openPixelMask)
      PrintJobMultiInk.threeRows risingPlates zeroDigest 720 1440 store spool :=
    .bounded hcreate hplate hruns hspooled
  have hmemory : plateJob.RasterSpoolBuilt Variant (fun _ ↦ .ok PrintJobMultiInk.openPixelMask)
      PrintJobMultiInk.threeRows risingPlates zeroDigest 720 1440 others other :=
    .inMemory ((plateJob.in_memory_tones_eq _ _).trans htones) hengine hother
  exact ⟨store, others, spool, other, hstrips, hmemory,
    x33_strategy_independent hstrips hmemory⟩

end PrintJobCMYK

end PrintFlow
