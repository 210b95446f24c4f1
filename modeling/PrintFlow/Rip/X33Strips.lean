import PrintFlow.Rip.PrintJobCMYK
import PrintFlow.Rip.ToneStrips

/-!
# The strips of X-33 jobs

The curves and the white plane of an X-33 job are made pixel by pixel, after the source was covered
with its alpha mask. `x33_paths_agree` says that the bounded path gives the tones, the screening
parameters and the metadata of the path in memory, however it cuts the image into strips.
-/

namespace PrintFlow

open BoundedRasterPipeline

namespace PrintJobCMYK

variable (job : PrintJobCMYK)

/-! ## Tones -/

/-- The tone planes of some colour planes: curved, with the white plane made of them. -/
def tonesOf (cmyk : CmykTones) (width height : Nat)
    (plateLoader : X33WhiteToneBuilder.ExternalPlateLoader) : Option (List Bytes) :=
  (job.curvedTones cmyk).bind fun cmyk ↦
    if job.whiteEnabled then
      (X33WhiteToneBuilder.build (job.whiteRequest cmyk width height) plateLoader).bind fun white ↦
        (job.curvedWhite white).map fun white ↦ cmyk.planes ++ [white]
    else some cmyk.planes

section Strips

variable {cmyk : CmykTones} {width height firstRow rowCount : Nat}
  {plateLoader stripLoader : X33WhiteToneBuilder.ExternalPlateLoader}

/-- The curves of a strip. -/
theorem curved_tones_strip (hsized : cmyk.Sized (width * height))
    (hrows : firstRow + rowCount ≤ height) :
    job.curvedTones (cmyk.strip width firstRow rowCount) =
      (job.curvedTones cmyk).map (·.strip width firstRow rowCount) := by
  unfold curvedTones
  split_ifs
  · exact job.x33Linearization.apply_four_color_tones_strip hsized hrows
  · rfl

/-- Planes that can be curved keep their size. -/
theorem exists_curved_tones {pixels : Nat} (hsized : cmyk.Sized pixels) :
    ∃ curved, job.curvedTones cmyk = some curved ∧ curved.Sized pixels := by
  have hcount : cmyk.c.length = pixels := hsized _ List.mem_cons_self
  unfold curvedTones
  split_ifs with hcurves
  · obtain ⟨curved, hcurved⟩ : ∃ curved, job.x33Linearization.applyFourColorTones cmyk =
        some curved := by
      unfold MultiInkLinearization.applyFourColorTones
      rw [if_neg (not_or.mpr ⟨not_not.mpr hcurves, not_not.mpr (hcount ▸ hsized)⟩)]
      exact ⟨_, rfl⟩
    exact ⟨curved, hcurved, job.x33Linearization.apply_four_color_tones_sized hsized hcurved⟩
  · exact ⟨cmyk, rfl, hsized⟩

/-- The white curve of a strip. -/
theorem curved_white_strip (white : Bytes) :
    job.curvedWhite (Plane.strip white width firstRow rowCount) =
      (job.curvedWhite white).map (Plane.strip · width firstRow rowCount) := by
  unfold curvedWhite
  split_ifs
  · exact job.x33Linearization.apply_white_tone_strip white width firstRow rowCount
  · rfl

/-- The white curve is there, and keeps the size of the plane. -/
theorem exists_curved_white (white : Bytes) :
    ∃ curved, job.curvedWhite white = some curved ∧ curved.length = white.length := by
  unfold curvedWhite MultiInkLinearization.applyWhiteTone
  split_ifs
  · exact ⟨_, rfl, List.length_map _⟩
  · exact ⟨_, rfl, rfl⟩

/-- The tones of a strip are strips of the tones. -/
theorem tones_of_strip (hsized : cmyk.Sized (width * height)) (hcount : 0 < rowCount)
    (hrows : firstRow + rowCount ≤ height)
    (hplate : ∀ plate, plateLoader job.x33WhitePlatePath width height = some plate →
      plate.length = width * height)
    (hloader : job.x33WhiteMode = .Plate → stripLoader job.x33WhitePlatePath width rowCount =
      (plateLoader job.x33WhitePlatePath width height).map (Plane.strip · width firstRow rowCount)) :
    job.tonesOf (cmyk.strip width firstRow rowCount) width rowCount stripLoader =
      (job.tonesOf cmyk width height plateLoader).map
        (·.map (Plane.strip · width firstRow rowCount)) := by
  obtain ⟨curved, hcurved, hcurved_sized⟩ := job.exists_curved_tones hsized
  have hwhite : X33WhiteToneBuilder.build
        (job.whiteRequest (curved.strip width firstRow rowCount) width rowCount) stripLoader =
      (X33WhiteToneBuilder.build (job.whiteRequest curved width height) plateLoader).map
        (Plane.strip · width firstRow rowCount) :=
    @X33WhiteToneBuilder.build_strip curved firstRow rowCount (job.whiteRequest curved width height)
      plateLoader stripLoader rfl hcurved_sized hcount hrows hplate hloader
  unfold tonesOf
  rw [job.curved_tones_strip hsized hrows, hcurved, Option.map_some, Option.bind_some,
    Option.bind_some]
  by_cases henabled : job.whiteEnabled = true
  · rw [if_pos henabled, if_pos henabled, hwhite]
    cases X33WhiteToneBuilder.build (job.whiteRequest curved width height) plateLoader with
    | none => rfl
    | some white =>
        rw [Option.map_some, Option.bind_some, Option.bind_some, job.curved_white_strip white]
        cases job.curvedWhite white with
        | none => rfl
        | some white =>
            simp only [Option.map_some, CmykTones.strip_planes, List.map_append, List.map_cons,
              List.map_nil]
  · rw [if_neg henabled, if_neg henabled]
    exact congrArg some (curved.strip_planes width firstRow rowCount)

end Strips

/-! ## The two paths -/

/-- The planes of a source image under its mask. -/
def coveredTones (image : SourceImage) : CmykTones where
  c := image.covered.map (channelByte · 0)
  m := image.covered.map (channelByte · 1)
  y := image.covered.map (channelByte · 2)
  k := image.covered.map (channelByte · 3)

theorem covered_tones_sized (image : SourceImage) :
    (coveredTones image).Sized (image.width * image.height) := by
  simp [CmykTones.Sized, CmykTones.planes, coveredTones]

section Paths

variable (files : PlateFiles) (image : SourceImage)

/-- The path in memory gives the tones of the covered planes. -/
theorem in_memory_tones_eq :
    job.inMemoryTones files image =
      job.tonesOf (coveredTones image) image.width image.height files.readPlate := by
  have hplane : ∀ channel < 4,
      image.coveredPlane channel = some (image.covered.map (channelByte · channel)) :=
    fun _ hchannel ↦ image.covered_plane_eq hchannel
  have hcovered : coveredTones image =
      { c := image.covered.map (channelByte · 0), m := image.covered.map (channelByte · 1)
        y := image.covered.map (channelByte · 2), k := image.covered.map (channelByte · 3) } := rfl
  unfold inMemoryTones tonesOf
  rw [hplane 0 (by omega), hplane 1 (by omega), hplane 2 (by omega), hplane 3 (by omega)]
  dsimp only
  rw [← hcovered]
  cases job.curvedTones (coveredTones image) with
  | none => rfl
  | some cmyk =>
      rw [Option.bind_some]
      dsimp only
      by_cases henabled : job.whiteEnabled = true
      · rw [if_pos henabled, if_pos henabled]
        cases X33WhiteToneBuilder.build (job.whiteRequest cmyk image.width image.height)
            files.readPlate with
        | none => rfl
        | some white => rfl
      · rw [if_neg henabled, if_neg henabled]

/-- The plate that the job needs can be read. -/
def PlateReadable : Prop :=
  job.x33WhiteMode = .Plate →
    ∃ plate, files.readPlate job.x33WhitePlatePath image.width image.height = some plate

variable {files image}

/-- When its plate can be read, a job has a tone plane of the size of the image for each channel. -/
theorem exists_tones (hplate : job.PlateReadable files image) :
    ∃ tones, job.tonesOf (coveredTones image) image.width image.height files.readPlate =
        some tones ∧ tones.length = job.logicalChannelCount ∧
      ∀ tone ∈ tones, tone.length = image.width * image.height := by
  obtain ⟨curved, hcurved, hsized⟩ := job.exists_curved_tones (covered_tones_sized image)
  unfold tonesOf logicalChannelCount
  rw [hcurved, Option.bind_some]
  by_cases henabled : job.whiteEnabled = true
  · obtain ⟨white, hwhite, hlength⟩ := @X33WhiteToneBuilder.exists_build
      (job.whiteRequest curved image.width image.height) files.readPlate curved image.width_pos
      image.height_pos rfl hsized fun hmode ↦
        (hplate hmode).imp fun _ hread ↦ ⟨hread, PlateFiles.read_plate_length hread⟩
    obtain ⟨whiteTone, hwhiteTone, hkept⟩ := job.exists_curved_white white
    rw [if_pos henabled, if_pos henabled, hwhite, Option.bind_some, hwhiteTone, Option.map_some]
    refine ⟨_, rfl, rfl, ?_⟩
    rw [List.forall_mem_append, List.forall_mem_singleton]
    exact ⟨hsized, hkept.trans hlength⟩
  · rw [if_neg henabled, if_neg henabled]
    exact ⟨_, rfl, rfl, hsized⟩

/-- A plate that can be read is prepared. -/
theorem exists_white_plate (hplate : job.PlateReadable files image) :
    ∃ plate, job.whitePlate files image = .ok plate := by
  unfold whitePlate
  split_ifs with hmode
  · obtain ⟨plate, hread⟩ := hplate (by simpa using (Bool.and_eq_true_iff.mp hmode).2)
    rw [PlateFiles.read_plate_eq_some.mp hread]
    exact ⟨_, rfl⟩
  · exact ⟨_, rfl⟩

/-- In plate mode the plate that is prepared is the plate that the path in memory reads. -/
theorem white_plate_eq_some {plate : Option Bytes} (hplate : job.whitePlate files image = .ok plate)
    (hmode : job.x33WhiteMode = .Plate) :
    ∃ source, files.readPlate job.x33WhitePlatePath image.width image.height = some source ∧
      plate = some source := by
  unfold whitePlate at hplate
  rw [whiteEnabled, hmode, if_pos (by decide)] at hplate
  cases hread : files.read job.x33WhitePlatePath image.width image.height with
  | absent | thrown =>
      rw [hread] at hplate
      cases hplate
  | pixels source =>
      rw [hread] at hplate
      exact ⟨source, PlateFiles.read_plate_eq_some.mpr hread, (Except.ok.inj hplate).symm⟩

/-- In plate mode the loader of a strip gives the rows of the plate that the path in memory
reads. -/
theorem strip_plate_loader_eq {plate : Option Bytes}
    (hplate : job.whitePlate files image = .ok plate) (firstRow rowCount : Nat)
    (hmode : job.x33WhiteMode = .Plate) :
    stripPlateLoader image plate firstRow rowCount job.x33WhitePlatePath image.width rowCount =
      (files.readPlate job.x33WhitePlatePath image.width image.height).map
        (Plane.strip · image.width firstRow rowCount) := by
  obtain ⟨source, hread, rfl⟩ := job.white_plate_eq_some hplate hmode
  rw [hread]
  exact if_neg (by simp)

/-- The planes of the rows of a cache are strips of the covered planes. -/
theorem separated_strip {firstRow rowCount : Nat} (hrows : firstRow + rowCount ≤ image.height)
    {channel : Nat} (hchannel : channel < 4) :
    separated (interleaved (Plane.strip image.covered image.width firstRow rowCount))
        (image.width * rowCount) channel =
      Plane.strip (image.covered.map (channelByte · channel)) image.width firstRow rowCount := by
  rw [← Plane.strip_length image.covered_length hrows, separated_interleaved _ hchannel,
    Plane.strip_map]

/-- The tone provider gives the tones of the planes it reads. -/
theorem tone_provider_of_tones {io : CacheIo} {canonical : CanonicalCmykFile} {plate : Option Bytes}
    {firstRow rowCount : Nat} {raw : Bytes}
    (hread : canonical.readRows io firstRow rowCount = .ok raw)
    {cmyk : CmykTones}
    (hcmyk : { c := separated raw (image.width * rowCount) 0
               m := separated raw (image.width * rowCount) 1
               y := separated raw (image.width * rowCount) 2
               k := separated raw (image.width * rowCount) 3 } = cmyk)
    {tones : List Bytes}
    (htones : job.tonesOf cmyk image.width rowCount
      (stripPlateLoader image plate firstRow rowCount) = some tones) :
    job.toneProvider image plate canonical io firstRow rowCount = .ok tones := by
  obtain ⟨curved, hcurved, hplanes⟩ := Option.bind_eq_some_iff.mp htones
  unfold toneProvider
  rw [hread]
  dsimp only
  rw [hcmyk, hcurved]
  dsimp only
  by_cases henabled : job.whiteEnabled = true
  · rw [if_pos henabled] at hplanes ⊢
    obtain ⟨white, hwhite, hcurvedWhite⟩ := Option.bind_eq_some_iff.mp hplanes
    obtain ⟨whiteTone, hwhiteTone, rfl⟩ := Option.map_eq_some_iff.mp hcurvedWhite
    rw [hwhite]
    dsimp only
    rw [hwhiteTone]
  · rw [if_neg henabled] at hplanes ⊢
    obtain rfl := Option.some.inj hplanes
    rfl

/-- The tone provider gives strips of the tones of the path in memory. -/
theorem tone_provider_eq {io : CacheIo} {canonical : CanonicalCmykFile}
    (hcreate : CanonicalCmykFile.create io image = .ok canonical) {plate : Option Bytes}
    (hplate : job.whitePlate files image = .ok plate) {tones : List Bytes}
    (htones : job.tonesOf (coveredTones image) image.width image.height files.readPlate = some tones)
    {firstRow rowCount : Nat} (hcount : 0 < rowCount) (hrows : firstRow + rowCount ≤ image.height)
    (hopens : io.reopened firstRow = true) :
    job.toneProvider image plate canonical io firstRow rowCount =
      .ok (tones.map (Plane.strip · image.width firstRow rowCount)) := by
  have hstrip := job.tones_of_strip (covered_tones_sized image) hcount hrows
    (fun _ h ↦ PlateFiles.read_plate_length h)
    (job.strip_plate_loader_eq hplate firstRow rowCount)
  rw [htones, Option.map_some] at hstrip
  refine job.tone_provider_of_tones (CanonicalCmykFile.read_rows_eq hcreate hcount hrows hopens)
    ?_ hstrip
  rw [separated_strip hrows (by omega), separated_strip hrows (by omega),
    separated_strip hrows (by omega), separated_strip hrows (by omega)]
  rfl

/-- What the tone provider gives is a strip of these tones. -/
theorem tone_provider_ok {io : CacheIo} {canonical : CanonicalCmykFile}
    (hcreate : CanonicalCmykFile.create io image = .ok canonical) {plate : Option Bytes}
    (hplate : job.whitePlate files image = .ok plate) {tones : List Bytes}
    (htones : job.tonesOf (coveredTones image) image.width image.height files.readPlate = some tones)
    {firstRow rowCount : Nat} (hcount : 0 < rowCount) (hrows : firstRow + rowCount ≤ image.height)
    {planes : List Bytes}
    (h : job.toneProvider image plate canonical io firstRow rowCount = .ok planes) :
    planes = tones.map (Plane.strip · image.width firstRow rowCount) := by
  cases hopens : io.reopened firstRow with
  | true =>
      rw [job.tone_provider_eq hcreate hplate htones hcount hrows hopens] at h
      exact (Except.ok.inj h).symm
  | false =>
      obtain rfl := CanonicalCmykFile.create_eq hcreate
      have hrequest : ¬ (rowCount = 0 ∨ image.height < firstRow + rowCount) := by omega
      rw [toneProvider, CanonicalCmykFile.readRows, if_neg hrequest, hopens, Bool.not_false,
        if_pos rfl] at h
      cases h

/-! ## Screening and metadata -/

/-- The configurations of a channel are the same. -/
theorem screen_channel_eq {V : Type} [QVariantApi V] (image : SourceImage) (tones : List Bytes)
    (channel : Nat) :
    PrintJobMultiInk.gated (job.screenChannel channel) =
      PrintJobMultiInk.gated (MultiInkScreenEngine.screenChannel (job.screenRequest V image tones)
        (job.channelRequest channel tones[channel]!)
        (job.maskPath (job.channelRequest channel tones[channel]!).maskKey)) := by
  have hkeys : job.chKeys =
      if job.whiteEnabled then ["c", "m", "y", "k", job.x33WhiteMaskKey] else ["c", "m", "y", "k"] := by
    unfold chKeys
    split_ifs <;> rfl
  have hgate : clamp (clamp job.dotStrategy.minInkThreshold 0 254) 0 254 =
      clamp job.dotStrategy.minInkThreshold 0 254 := clamp_clamp (by omega)
  unfold screenChannel channelRequest MultiInkScreenEngine.screenChannel
    MultiInkScreenEngine.channelStrategy MultiInkScreenEngine.minInkThreshold
    MultiInkScreenEngine.floorRange MultiInkScreenEngine.floorMax MultiInkScreenEngine.isKLike
    PrintJobMultiInk.gated screenRequest
  rw [← hkeys]
  -- Only the white channel may have dots of its own, and only black has a floor class of one.
  cases hwhite : channel == 4 && job.x33WhiteUseOwnDotStrategy
  all_goals by_cases hblack : channel = 3
  all_goals simp [hblack, hgate]

end Paths

/-- The bounded path reads its plate and gives the strips of an image, however it is cut; joined
they are the planes of the path in memory. Both paths screen every channel with the same mask and
parameters, whatever type the mode parameters have, and describe the spool alike. -/
structure PathsAgree (V : Type) [QVariantApi V] (files : PlateFiles) (image : SourceImage) :
    Prop where
  plate : ∃ plate, job.whitePlate files image = .ok plate
  delivered (io : CacheIo) (hio : io.Ok) (canonical : CanonicalCmykFile)
    (hcreate : CanonicalCmykFile.create io image = .ok canonical) (plate : Option Bytes)
    (hplate : job.whitePlate files image = .ok plate) (strips : List (Nat × Nat))
    (hstrips : Plane.Partition image.height 0 strips) :
    ∃ planes, List.Forall₂ (fun cut tones ↦
      job.toneProvider image plate canonical io cut.1 cut.2 = .ok tones) strips planes
  tones (io : CacheIo) (canonical : CanonicalCmykFile)
    (hcreate : CanonicalCmykFile.create io image = .ok canonical) (plate : Option Bytes)
    (hplate : job.whitePlate files image = .ok plate) (strips : List (Nat × Nat))
    (hstrips : Plane.Partition image.height 0 strips) (planes : List (List Bytes))
    (hplanes : List.Forall₂ (fun cut tones ↦
      job.toneProvider image plate canonical io cut.1 cut.2 = .ok tones) strips planes) :
    job.inMemoryTones files image =
      some (PrintJobMultiInk.joined job.logicalChannelCount planes)
  screening (tones : List Bytes) :
    job.screenChannels.map PrintJobMultiInk.gated =
      (job.screenRequest V image tones).channels.map fun channelReq ↦
        PrintJobMultiInk.gated (MultiInkScreenEngine.screenChannel (job.screenRequest V image tones)
          channelReq (job.maskPath channelReq.maskKey))
  metadata (xdpi ydpi : Int32) : job.boundedSpool image xdpi ydpi = job.inMemorySpool image xdpi ydpi

/-- The two paths agree for every image, mask, curves, white mode and strategy, when the plate that
plate mode asks for can be read. -/
theorem x33_paths_agree (V : Type) [QVariantApi V] (files : PlateFiles) (image : SourceImage)
    (hplate : job.PlateReadable files image) : job.PathsAgree V files image := by
  obtain ⟨tones, htones, hcount, hlengths⟩ := job.exists_tones hplate
  refine ⟨job.exists_white_plate hplate, ?_, ?_, ?_, fun _ _ ↦ rfl⟩
  · intro io hio canonical hcreate plate hprepared strips hstrips
    exact PrintJobMultiInk.exists_provided hstrips fun firstRow rowCount hrow hrows ↦
      job.tone_provider_eq hcreate hprepared htones hrow hrows (hio.reopened _)
  · intro io canonical hcreate plate hprepared strips hstrips planes hplanes
    rw [in_memory_tones_eq, htones]
    refine congrArg some (PrintJobMultiInk.joined_provided hcount hlengths hstrips ?_ hplanes).symm
    exact fun firstRow rowCount planes hrow hrows hplane ↦
      job.tone_provider_ok hcreate hprepared htones hrow hrows hplane
  · intro tones
    rw [screenChannels, screenRequest, List.map_map, List.map_map]
    exact List.map_congr_left fun channel _ ↦ job.screen_channel_eq image tones channel

/-- White from a plate, with dots of its own. -/
def plateJob : PrintJobCMYK where
  assetsExtractPath := "assets"
  x33Linearization := MultiInkLinearization.ofChannels (fun _ ↦ id) fun _ ↦ true
  x33WhiteMode := .Plate
  x33WhitePlatePath := "plate.tiff"
  x33WhiteUseOwnDotStrategy := true

/-- Every path is that of a plate whose tones rise from pixel to pixel. -/
def risingPlates : PlateFiles where
  toLocalFile := id
  present _ := true
  gray _ width height := some ((List.range (width * height)).map .ofNat)
  gray_length := by
    rintro _ _ _ _ ⟨⟩
    rw [List.length_map, List.length_range]

/-- Three rows with a mask, which can be cut in four ways. -/
theorem x33_paths_agree_plate :
    plateJob.PathsAgree Variant risingPlates PrintJobMultiInk.threeRows := by
  refine plateJob.x33_paths_agree Variant _ _ fun _ ↦ ⟨[0, 1, 2, 3, 4, 5], ?_⟩
  rfl

end PrintJobCMYK

end PrintFlow
