import Mathlib.Data.List.Forall2
import PrintFlow.Rip.PrintJobMultiInk
import PrintFlow.Rip.Screen

/-!
# The tones of strips

The tone builder works pixel by pixel, so the planes of a strip are strips of the planes of the
image. `bounded_path_agrees_iff` says when the strips of the bounded path are the planes of the path
in memory: unless varnish is to be printed from a plate that is the plate of white as well, while
white is printed in another way, and unless the bounded path stops on a plate that the job does not
print.
-/

namespace PrintFlow

open BoundedRasterPipeline MultiInkToneBuilder

/-- Going through a list by index is going through its entries. -/
theorem map_range_get {α β : Type} [Inhabited α] {l : List α} {n : Nat} (h : l.length = n)
    (f : α → β) : ((List.range n).map fun i ↦ f l[i]!) = l.map f := by
  subst h
  refine List.ext_getElem (by simp) ?_
  intro i hi _
  have hlt : i < l.length := by simpa using hi
  simp only [List.getElem_map, List.getElem_range, getElem!_pos l i hlt]

theorem forall₂_eq_map {α β : Type} {f : α → β} {l : List α} {images : List β}
    (h : List.Forall₂ (fun entry image ↦ image = f entry) l images) : images = l.map f := by
  induction h with
  | nil => rfl
  | cons himage _ ih => rw [List.map_cons, himage, ih]

/-- Two steps succeed if the first does, and the second on what it gave. -/
theorem bind_eq_ok {ε α β : Type} {x : Except ε α} {f : α → Except ε β} {b : β} :
    (x >>= f) = .ok b ↔ ∃ a, x = .ok a ∧ f a = .ok b := by
  cases x with
  | ok a => simp [bind, Except.bind]
  | error message => simp [bind, Except.bind]

namespace MultiInkToneBuilder

variable {width height firstRow rowCount : Nat} {loader stripLoader : ExternalPlateLoader}
  {platePath : String}

theorem apply_gcr_neutral_transfer_strip (pixels : List Cmyk) (p : GcrParams) :
    applyGcrNeutralTransfer (Plane.strip pixels width firstRow rowCount) p =
      Plane.strip (applyGcrNeutralTransfer pixels p) width firstRow rowCount := by
  unfold applyGcrNeutralTransfer
  by_cases henabled : p.enabled = true
  · rw [if_pos henabled, if_pos henabled, Plane.strip_map]
  · rw [if_neg henabled, if_neg henabled]

theorem apply_neutral_light_ink_fade_strip (pixels : List InkPixel) (p : GcrParams) :
    applyNeutralLightInkFade (Plane.strip pixels width firstRow rowCount) p =
      Plane.strip (applyNeutralLightInkFade pixels p) width firstRow rowCount := by
  unfold applyNeutralLightInkFade
  by_cases henabled : p.enabled = true
  · rw [if_pos henabled, if_pos henabled, Plane.strip_map]
  · rw [if_neg henabled, if_neg henabled]

/-- A strip of a specialty plane is the plane of the strip. -/
theorem build_specialty_channel_strip (cfg : SpecialtyInkConfig) {post : List Cmyk}
    (hrows : firstRow + rowCount ≤ height)
    (hlength : ∀ plate, loader platePath width height = some plate → plate.length = width * height)
    (hloader : stripLoader platePath width rowCount =
      (loader platePath width height).map (Plane.strip · width firstRow rowCount)) :
    buildSpecialtyChannel cfg platePath stripLoader width rowCount
        (Plane.strip post width firstRow rowCount) =
      Plane.strip (buildSpecialtyChannel cfg platePath loader width height post) width firstRow
        rowCount := by
  simp only [buildSpecialtyChannel, hloader]
  split_ifs
  · exact (Plane.strip_map ..).symm
  · exact (Plane.strip_replicate _ hrows).symm
  · cases hplate : loader platePath width height with
    | none => exact (Plane.strip_replicate _ hrows).symm
    | some plate =>
        have hwhole := hlength plate hplate
        dsimp only [Option.map_some]
        rw [map_range_get (Plane.strip_length hwhole hrows)
            (applySpecialtyThresholdDensity · cfg.threshold cfg.density),
          map_range_get hwhole (applySpecialtyThresholdDensity · cfg.threshold cfg.density),
          Plane.strip_map]
  · exact (Plane.strip_replicate _ hrows).symm

end MultiInkToneBuilder

namespace PrintJobMultiInk

variable {V : Type} [QVariantApi V] (fl : ℚ → ℚ) (job : PrintJobMultiInk V)
  {images strip : CmykImages} {firstRow rowCount : Nat}
  {loader stripLoader : ExternalPlateLoader}

omit [QVariantApi V] in
@[simp] theorem tone_request_mode : (job.toneRequest images).mode = job.inkMode := rfl

omit [QVariantApi V] in
@[simp] theorem tone_request_params : (job.toneRequest images).modeParams = job.modeParams := rfl

omit [QVariantApi V] in
@[simp] theorem tone_request_white_plate :
    (job.toneRequest images).whitePlatePath = job.whitePlatePath := rfl

omit [QVariantApi V] in
@[simp] theorem tone_request_varnish_plate :
    (job.toneRequest images).varnishPlatePath = job.varnishPlatePath := rfl

omit [QVariantApi V] in
/-- The curves do not depend on the image. -/
theorem combo_linearization_eq :
    comboLinearization (job.toneRequest strip) = comboLinearization (job.toneRequest images) := rfl

/-- The buffers of a strip are a strip of the buffers. -/
theorem ink_pixels_strip
    (hpixels : strip.pixels = Plane.strip images.pixels images.width firstRow rowCount) :
    inkPixels fl (job.toneRequest strip) strip =
      Plane.strip (inkPixels fl (job.toneRequest images) images) images.width firstRow rowCount := by
  have hgcr : postGcr (job.toneRequest strip) strip =
      Plane.strip (postGcr (job.toneRequest images) images) images.width firstRow rowCount := by
    rw [postGcr, postGcr, hpixels]
    exact apply_gcr_neutral_transfer_strip ..
  have hseparate : (postGcr (job.toneRequest strip) strip).map
        (separate fl (job.toneRequest strip)) =
      Plane.strip ((postGcr (job.toneRequest images) images).map
        (separate fl (job.toneRequest images))) images.width firstRow rowCount := by
    rw [hgcr, Plane.strip_map]
    rfl
  simp only [inkPixels, hseparate, tone_request_mode, tone_request_params]
  cases job.inkMode
  all_goals first | rfl | exact apply_neutral_light_ink_fade_strip ..

/-- A strip of the tone planes of an image are the tone planes of the strip. -/
theorem build_tone_channels_strip
    (hpixels : strip.pixels = Plane.strip images.pixels images.width firstRow rowCount)
    (hwidth : strip.width = images.width) (hheight : strip.height = rowCount)
    (hrows : firstRow + rowCount ≤ images.height)
    (hlength : ∀ path plate, loader path images.width images.height = some plate →
      plate.length = images.width * images.height)
    (hloader : ∀ path, stripLoader path images.width rowCount =
      (loader path images.width images.height).map
        (Plane.strip · images.width firstRow rowCount)) :
    buildToneChannels fl (job.toneRequest strip) stripLoader =
      (buildToneChannels fl (job.toneRequest images) loader).map
        (·.map (Plane.strip · images.width firstRow rowCount)) := by
  have hpixels' := job.ink_pixels_strip fl hpixels
  have hplane : ∀ ink : InkPixel → UInt8,
      (inkPixels fl (job.toneRequest strip) strip).map ink =
        Plane.strip ((inkPixels fl (job.toneRequest images) images).map ink) images.width firstRow
          rowCount := by
    intro ink
    rw [hpixels', Plane.strip_map]
  have hpost : (inkPixels fl (job.toneRequest strip) strip).map (·.adj) =
      Plane.strip ((inkPixels fl (job.toneRequest images) images).map (·.adj)) images.width firstRow
        rowCount := by
    rw [hpixels', Plane.strip_map]
  have hcurved : ∀ (lut : MultiInkLinearization → Lut8) (plane : Bytes),
      curved (job.toneRequest strip) lut (Plane.strip plane images.width firstRow rowCount) =
        Plane.strip (curved (job.toneRequest images) lut plane) images.width firstRow rowCount := by
    intro lut plane
    rw [curved, curved, job.combo_linearization_eq]
    cases comboLinearization (job.toneRequest images) with
    | none => rfl
    | some linearization => exact (Plane.strip_map ..).symm
  have hwhite : curved (job.toneRequest strip) (·.lutW)
        (buildWhiteChannel fl (job.toneRequest strip) stripLoader strip) =
      Plane.strip (curved (job.toneRequest images) (·.lutW)
        (buildWhiteChannel fl (job.toneRequest images) loader images)) images.width firstRow
          rowCount := by
    rw [← hcurved, buildWhiteChannel, buildWhiteChannel, hwidth, hheight, hpost,
      build_specialty_channel_strip _ hrows (hlength _) (hloader _)]
    rfl
  have hvarnish : curved (job.toneRequest strip) (·.lutV)
        (buildVarnishChannel fl (job.toneRequest strip) stripLoader strip) =
      Plane.strip (curved (job.toneRequest images) (·.lutV)
        (buildVarnishChannel fl (job.toneRequest images) loader images)) images.width firstRow
          rowCount := by
    rw [← hcurved, buildVarnishChannel, buildVarnishChannel, hwidth, hheight, hpost,
      build_specialty_channel_strip _ hrows (hlength _) (hloader _)]
    rfl
  show some _ = some _
  simp only [hplane, hwhite, hvarnish, tone_request_mode]
  cases job.inkMode <;> rfl

/-! ## The planes of a path -/

/-- The separated images of a source image under its mask. -/
def coveredImages (image : SourceImage) : CmykImages :=
  ⟨image.width, image.height, image.covered, image.covered_length⟩

/-- Planes that are those of some pixels give images of these pixels. -/
theorem separated_images_eq {width height : Nat} {planes : Nat → Bytes} {pixels : List Cmyk}
    (hlength : pixels.length = width * height)
    (hplanes : ∀ channel < 4, planes channel = pixels.map (channelByte · channel)) :
    separatedImages width height planes = ⟨width, height, pixels, hlength⟩ := by
  have hbyte : ∀ channel < 4, ∀ i (hi : i < pixels.length),
      (planes channel)[i]! = channelByte pixels[i] channel := by
    intro channel hchannel i hi
    have hbound : i < (pixels.map (channelByte · channel)).length := by rwa [List.length_map]
    rw [hplanes channel hchannel, getElem!_pos _ i hbound, List.getElem_map]
  have hpixels : (separatedImages width height planes).pixels = pixels := by
    refine List.ext_getElem (by simp [separatedImages, hlength]) ?_
    intro i hi hi'
    simp only [separatedImages, List.getElem_map, List.getElem_range]
    rw [hbyte 0 (by decide) i hi', hbyte 1 (by decide) i hi', hbyte 2 (by decide) i hi',
      hbyte 3 (by decide) i hi']
    rfl
  exact CmykImages.mk.injEq .. |>.mpr ⟨rfl, rfl, hpixels⟩

/-- There is a buffer for each pixel. -/
theorem ink_pixels_length (images : CmykImages) :
    (inkPixels fl (job.toneRequest images) images).length = images.width * images.height := by
  rw [← images.pixels_length]
  simp only [inkPixels, postGcr, applyGcrNeutralTransfer, applyNeutralLightInkFade]
  split <;> split_ifs <;> simp only [List.length_map]

omit [QVariantApi V] in
/-- A curve keeps the size of a plane. -/
theorem curved_length (images : CmykImages) (lut : MultiInkLinearization → Lut8) (plane : Bytes) :
    (curved (job.toneRequest images) lut plane).length = plane.length := by
  unfold curved
  split
  · exact List.length_map _
  · rfl

/-- A specialty plane has a tone for each pixel. -/
theorem specialty_channel_length (images : CmykImages) (loader : ExternalPlateLoader)
    (cfg : SpecialtyInkConfig) (path : String) :
    (buildSpecialtyChannel cfg path loader images.width images.height
      ((inkPixels fl (job.toneRequest images) images).map (·.adj))).length =
      images.width * images.height := by
  unfold buildSpecialtyChannel
  dsimp only
  split_ifs
  · rw [List.length_map, List.length_map, ink_pixels_length]
  · exact List.length_replicate
  · split
    · rw [List.length_map, List.length_range]
    · exact List.length_replicate
  · exact List.length_replicate

/-- The builder gives a plane of the size of the image for each ink. -/
theorem build_tone_channels_planes (images : CmykImages) (loader : ExternalPlateLoader) :
    ∃ tones, buildToneChannels fl (job.toneRequest images) loader = some tones ∧
      tones.length = job.inkMode.value ∧
      ∀ tone ∈ tones, tone.length = images.width * images.height := by
  have hplane : ∀ ink : InkPixel → UInt8,
      ((inkPixels fl (job.toneRequest images) images).map ink).length =
        images.width * images.height :=
    fun ink ↦ by rw [List.length_map, ink_pixels_length]
  have hwhite := (job.curved_length images (·.lutW) _).trans
    (job.specialty_channel_length fl images loader (getWhiteConfig job.modeParams)
      job.whitePlatePath)
  have hvarnish := (job.curved_length images (·.lutV) _).trans
    (job.specialty_channel_length fl images loader (getVarnishConfig job.modeParams)
      job.varnishPlatePath)
  refine ⟨_, rfl, ?_, ?_⟩
  · rw [tone_request_mode]
    cases job.inkMode <;> rfl
  · rw [tone_request_mode]
    cases job.inkMode
    all_goals simp only [List.forall_mem_append, List.forall_mem_cons, hplane, true_and]
    all_goals simp only [List.not_mem_nil, false_implies, implies_true, and_true, true_and]
    · exact hwhite
    · exact hwhite
    · exact ⟨hwhite, hvarnish⟩

section Plates

variable {files : PlateFiles} {image : SourceImage} {plates : PreparedPlates}

/-- The paths of the plates that the bounded path reads. -/
def preparedPaths : List String :=
  (if job.specialtyMode "whiteMode" = 3 then [job.whitePlatePath] else []) ++
    if job.specialtyMode "varnishMode" = 3 then [job.varnishPlatePath] else []

/-- It reads every plate that the tone builder asks for. -/
theorem requested_plates_subset :
    requestedPlates (job.toneRequest images) ⊆ job.preparedPaths := by
  have hwhite : (getWhiteConfig job.modeParams).mode = job.specialtyMode "whiteMode" := rfl
  have hvarnish : (getVarnishConfig job.modeParams).mode = job.specialtyMode "varnishMode" := rfl
  unfold requestedPlates preparedPaths
  simp only [tone_request_mode, tone_request_params, hwhite, hvarnish]
  cases job.inkMode with
  | FiveColor_YMCK_W => exact List.subset_append_left _ _
  | SevenColor_YMCK_Lm_Lc_W => exact List.subset_append_left _ _
  | TenColor_YMCK_Lm_Lc_Lk_LLk_W_V => exact List.Subset.refl _
  | _ => exact List.nil_subset _

/-- A plate is prepared unless the image library throws, and then it is the plate in memory. -/
theorem prepare_plate_eq_ok {sourcePath : String} {plate : Option Bytes} :
    preparePlate files image sourcePath = .ok plate ↔
      files.read sourcePath image.width image.height ≠ .thrown ∧
        plate = files.readPlate sourcePath image.width image.height := by
  unfold preparePlate PlateFiles.readPlate
  cases files.read sourcePath image.width image.height with
  | thrown => simp
  | absent | pixels => simp [eq_comm]

/-- A plate that is prepared in plate mode only. -/
theorem prepared_plate_eq_ok {mode : Int} {sourcePath : String} {plate : Option Bytes} :
    (if mode = 3 then preparePlate files image sourcePath else .ok none) = .ok plate ↔
      (mode = 3 → files.read sourcePath image.width image.height ≠ .thrown) ∧
        plate = if mode = 3 then files.readPlate sourcePath image.width image.height else none := by
  by_cases hmode : mode = 3
  · rw [if_pos hmode, if_pos hmode, prepare_plate_eq_ok]
    simp [hmode]
  · rw [if_neg hmode, if_neg hmode]
    simp [hmode, eq_comm]

/-- The bounded path has its plates unless the image library throws on one of them. -/
theorem prepared_plates_eq_ok :
    job.preparedPlates files image = .ok plates ↔
      (∀ path ∈ job.preparedPaths, files.read path image.width image.height ≠ .thrown) ∧
        plates.white = (if job.specialtyMode "whiteMode" = 3 then
          files.readPlate job.whitePlatePath image.width image.height else none) ∧
        plates.varnish = if job.specialtyMode "varnishMode" = 3 then
          files.readPlate job.varnishPlatePath image.width image.height else none := by
  have hpaths :
      (∀ path ∈ job.preparedPaths, files.read path image.width image.height ≠ .thrown) ↔
        (job.specialtyMode "whiteMode" = 3 →
          files.read job.whitePlatePath image.width image.height ≠ .thrown) ∧
        (job.specialtyMode "varnishMode" = 3 →
          files.read job.varnishPlatePath image.width image.height ≠ .thrown) := by
    unfold preparedPaths
    split_ifs with hwhite hvarnish hvarnish <;> simp [*]
  rw [hpaths, preparedPlates, bind_eq_ok]
  constructor
  · rintro ⟨white, hwhite, h⟩
    obtain ⟨varnish, hvarnish, h⟩ := bind_eq_ok.mp h
    obtain rfl := Except.ok.inj h
    obtain ⟨hreadsWhite, rfl⟩ := prepared_plate_eq_ok.mp hwhite
    obtain ⟨hreadsVarnish, rfl⟩ := prepared_plate_eq_ok.mp hvarnish
    exact ⟨⟨hreadsWhite, hreadsVarnish⟩, rfl, rfl⟩
  · rintro ⟨⟨hreadsWhite, hreadsVarnish⟩, hwhite, hvarnish⟩
    refine ⟨plates.white, prepared_plate_eq_ok.mpr ⟨hreadsWhite, hwhite⟩, ?_⟩
    exact bind_eq_ok.mpr
      ⟨plates.varnish, prepared_plate_eq_ok.mpr ⟨hreadsVarnish, hvarnish⟩, rfl⟩

/-- It has them exactly if none throws. -/
theorem exists_prepared_plates_iff :
    (∃ plates, job.preparedPlates files image = .ok plates) ↔
      ∀ path ∈ job.preparedPaths, files.read path image.width image.height ≠ .thrown := by
  constructor
  · rintro ⟨plates, h⟩
    exact (job.prepared_plates_eq_ok.mp h).1
  · intro h
    exact ⟨⟨_, _⟩, job.prepared_plates_eq_ok.mpr ⟨h, rfl, rfl⟩⟩

end Plates

section Paths

variable (files : PlateFiles) (image : SourceImage) (plates : PreparedPlates)

omit [QVariantApi V] in
/-- The plate loader of the bounded path, for the whole image. -/
def wholePlateLoader : ExternalPlateLoader := fun platePath _ _ ↦
  job.plateSource plates platePath

variable {files} {image} {plates} in
/-- The plates of the bounded path have the size of the image. -/
theorem plate_source_length (hplates : job.preparedPlates files image = .ok plates)
    {platePath : String} {plate : Bytes} (h : job.plateSource plates platePath = some plate) :
    plate.length = image.width * image.height := by
  obtain ⟨-, hwhite, hvarnish⟩ := job.prepared_plates_eq_ok.mp hplates
  rw [plateSource, hwhite, hvarnish] at h
  split_ifs at h
  · exact PlateFiles.read_plate_length h
  · exact PlateFiles.read_plate_length h

/-- The planes of the bounded path, for the whole image. -/
def boundedTones : Option (List Bytes) :=
  buildToneChannels fl (job.toneRequest (coveredImages image)) (job.wholePlateLoader plates)

variable {files} {image} {plates} in
/-- The tone provider gives strips of these planes. -/
theorem tone_provider_eq (hplates : job.preparedPlates files image = .ok plates) {io : CacheIo}
    {canonical : CanonicalCmykFile} (hcreate : CanonicalCmykFile.create io image = .ok canonical)
    {tones : List Bytes} (htones : job.boundedTones fl image plates = some tones)
    {firstRow rowCount : Nat}
    (hcount : 0 < rowCount) (hrows : firstRow + rowCount ≤ image.height)
    (hopens : io.reopened firstRow = true) :
    job.toneProvider fl plates image canonical io firstRow rowCount =
      .ok (tones.map (Plane.strip · image.width firstRow rowCount)) := by
  have hlength := Plane.strip_length image.covered_length hrows
  have himages : separatedImages image.width rowCount
      (separated (interleaved (Plane.strip image.covered image.width firstRow rowCount))
        (image.width * rowCount)) =
      ⟨image.width, rowCount, Plane.strip image.covered image.width firstRow rowCount, hlength⟩ := by
    refine separated_images_eq hlength fun channel hchannel ↦ ?_
    rw [← separated_interleaved _ hchannel, hlength]
  have hstrip := @build_tone_channels_strip V _ fl job (coveredImages image)
    ⟨image.width, rowCount, Plane.strip image.covered image.width firstRow rowCount, hlength⟩
    firstRow rowCount (job.wholePlateLoader plates)
    (job.stripPlateLoader plates image firstRow rowCount) rfl rfl rfl hrows
    (fun _ _ hplate ↦ job.plate_source_length hplates hplate) ?_
  · rw [toneProvider, CanonicalCmykFile.read_rows_eq hcreate hcount hrows hopens]
    dsimp only
    rw [himages, hstrip, ← boundedTones, htones]
    rfl
  · intro path
    show stripPlateLoader job plates image firstRow rowCount path image.width rowCount =
      (job.plateSource plates path).map (Plane.strip · image.width firstRow rowCount)
    unfold stripPlateLoader
    cases job.plateSource plates path with
    | none => rfl
    | some source => exact if_neg (by simp)

/-- The path in memory gives the planes of its loader, unless that throws. -/
theorem in_memory_tones_eq :
    job.inMemoryTones fl files image =
      if job.loaderThrows files image (coveredImages image) then none
      else buildToneChannels fl (job.toneRequest (coveredImages image)) files.readPlate := by
  have himages : separatedImages image.width image.height (fun channel ↦
      [image.covered.map (channelByte · 0), image.covered.map (channelByte · 1),
        image.covered.map (channelByte · 2), image.covered.map (channelByte · 3)].getD channel []) =
      coveredImages image := by
    refine separated_images_eq image.covered_length fun channel hchannel ↦ ?_
    rcases channel with _ | _ | _ | _ | _
    all_goals first | rfl | omega
  obtain ⟨tones, htones, hlength, -⟩ :=
    job.build_tone_channels_planes fl (coveredImages image) files.readPlate
  rw [inMemoryTones, image.covered_plane_eq (by decide), image.covered_plane_eq (by decide),
    image.covered_plane_eq (by decide), image.covered_plane_eq (by decide)]
  dsimp only
  rw [himages, htones]
  dsimp only
  rw [if_neg (not_not.mpr hlength)]

/-- It throws on a plate that is read and is no image. -/
theorem loader_throws_iff :
    job.loaderThrows files image images = true ↔
      ∃ path ∈ requestedPlates (job.toneRequest images),
        files.read path image.width image.height = .thrown := by
  simp [loaderThrows]

variable {files} {image} {plates} in
/-- When the bounded path has its plates, the path in memory gives its planes. -/
theorem in_memory_tones_prepared (hplates : job.preparedPlates files image = .ok plates) :
    job.inMemoryTones fl files image =
      buildToneChannels fl (job.toneRequest (coveredImages image)) files.readPlate := by
  have hreads : ¬ job.loaderThrows files image (coveredImages image) = true := by
    rw [loader_throws_iff]
    rintro ⟨path, hpath, hthrown⟩
    exact (job.prepared_plates_eq_ok.mp hplates).1 path (job.requested_plates_subset hpath) hthrown
  rw [in_memory_tones_eq, if_neg hreads]

/-! ## When the paths agree -/

/-- The varnish that a tone of a plate gives, after threshold, density and curve. -/
def varnishTone (tone : UInt8) : UInt8 :=
  let cfg := getVarnishConfig job.modeParams
  let adjusted := applySpecialtyThresholdDensity tone cfg.threshold cfg.density
  if job.enableLinearization && job.linearization.hasExternalCurves then
    job.linearization.lutV adjusted
  else adjusted

/-- The job prints varnish from the plate of white, prints white in another way, and the plate
leaves varnish somewhere. -/
structure DropsVarnish : Prop where
  tenInks : job.inkMode = .TenColor_YMCK_Lm_Lc_Lk_LLk_W_V
  varnishPlate : job.specialtyMode "varnishMode" = 3
  noWhitePlate : job.specialtyMode "whiteMode" ≠ 3
  samePath : job.varnishPlatePath = job.whitePlatePath
  printed : ∃ plate, files.readPlate job.varnishPlatePath image.width image.height = some plate ∧
    ∃ tone ∈ plate, job.varnishTone tone ≠ job.varnishTone 0

/-- The bounded path ends on a plate that is no image, and that the job does not print: the mode of
the job has no such ink, and the plates it does print are not like that. -/
structure StopsOnUnprintedPlate : Prop where
  stops : ∃ path ∈ job.preparedPaths, files.read path image.width image.height = .thrown
  unprinted : ∀ path ∈ requestedPlates (job.toneRequest (coveredImages image)),
    files.read path image.width image.height ≠ .thrown

/-- The varnish plane of a loader. -/
def varnishPlane (loader : ExternalPlateLoader) : Bytes :=
  curved (job.toneRequest (coveredImages image)) (·.lutV)
    (buildVarnishChannel fl (job.toneRequest (coveredImages image)) loader (coveredImages image))

/-- A plane of varnish tones before their curve, and after it. -/
theorem curved_varnish (plane : Bytes) :
    curved (job.toneRequest (coveredImages image)) (·.lutV)
        (plane.map (applySpecialtyThresholdDensity · (getVarnishConfig job.modeParams).threshold
          (getVarnishConfig job.modeParams).density)) =
      plane.map job.varnishTone := by
  have hcurves : comboLinearization (job.toneRequest (coveredImages image)) =
      if job.enableLinearization && job.linearization.hasExternalCurves then
        some job.linearization else none := rfl
  rw [curved, hcurves]
  by_cases hused : (job.enableLinearization && job.linearization.hasExternalCurves) = true
  · rw [if_pos hused]
    dsimp only
    rw [List.map_map]
    refine List.map_congr_left fun tone _ ↦ ?_
    exact (if_pos hused).symm
  · rw [if_neg hused]
    refine List.map_congr_left fun tone _ ↦ ?_
    exact (if_neg hused).symm

/-- In plate mode it is made of the plate, or empty. -/
theorem varnish_plane_plate (hmode : job.specialtyMode "varnishMode" = 3)
    {loader : ExternalPlateLoader}
    (hlength : ∀ plate, loader job.varnishPlatePath image.width image.height = some plate →
      plate.length = image.width * image.height) :
    job.varnishPlane fl image loader =
      (loader job.varnishPlatePath image.width image.height).elim
        (List.replicate (image.width * image.height) (job.varnishTone 0))
        (·.map job.varnishTone) := by
  have hcfg : (getVarnishConfig job.modeParams).mode = 3 := hmode
  have hempty : ∀ threshold density, applySpecialtyThresholdDensity 0 threshold density = 0 := by
    intro threshold density
    unfold applySpecialtyThresholdDensity
    split
    · rfl
    · exact if_pos UInt8.zero_le
  rw [varnishPlane, buildVarnishChannel, buildSpecialtyChannel]
  simp only [tone_request_params, hcfg]
  rw [if_neg (by decide), if_neg (by decide), if_pos trivial]
  cases hplate : loader job.varnishPlatePath image.width image.height with
  | some plate =>
      have hloads : loader (job.toneRequest (coveredImages image)).varnishPlatePath
          (coveredImages image).width (coveredImages image).height = some plate := hplate
      rw [hloads]
      dsimp only [Option.elim_some]
      rw [← job.curved_varnish image plate]
      exact congrArg _ (map_range_get (hlength plate hplate)
        (applySpecialtyThresholdDensity · (getVarnishConfig job.modeParams).threshold
          (getVarnishConfig job.modeParams).density))
  | none =>
      have hloads : loader (job.toneRequest (coveredImages image)).varnishPlatePath
          (coveredImages image).width (coveredImages image).height = none := hplate
      rw [hloads]
      dsimp only [Option.elim_none]
      have hzero := job.curved_varnish image (List.replicate (image.width * image.height) 0)
      rw [List.map_replicate, List.map_replicate, hempty] at hzero
      exact hzero

/-- A specialty plane depends on its plate in plate mode only. -/
theorem build_specialty_channel_congr {cfg : SpecialtyInkConfig} {platePath : String}
    {loader other : ExternalPlateLoader} {width height : Nat} {post : List Cmyk}
    (h : cfg.mode = 3 → loader platePath width height = other platePath width height) :
    buildSpecialtyChannel cfg platePath loader width height post =
      buildSpecialtyChannel cfg platePath other width height post := by
  unfold buildSpecialtyChannel
  dsimp only
  split_ifs with _ _ hplate
  · rfl
  · rfl
  · rw [h hplate]
  · rfl

/-- The planes depend on the loader at the plates that the builder asks for, and on no other. -/
theorem build_tone_channels_congr {loader other : ExternalPlateLoader}
    (h : ∀ path ∈ requestedPlates (job.toneRequest images),
      loader path images.width images.height = other path images.width images.height) :
    buildToneChannels fl (job.toneRequest images) loader =
      buildToneChannels fl (job.toneRequest images) other := by
  have hwhite (hmem : (getWhiteConfig job.modeParams).mode = 3 →
      job.whitePlatePath ∈ requestedPlates (job.toneRequest images)) :
      buildWhiteChannel fl (job.toneRequest images) loader images =
        buildWhiteChannel fl (job.toneRequest images) other images :=
    build_specialty_channel_congr fun hmode ↦ h _ (hmem hmode)
  have hvarnish (hmem : (getVarnishConfig job.modeParams).mode = 3 →
      job.varnishPlatePath ∈ requestedPlates (job.toneRequest images)) :
      buildVarnishChannel fl (job.toneRequest images) loader images =
        buildVarnishChannel fl (job.toneRequest images) other images :=
    build_specialty_channel_congr fun hmode ↦ h _ (hmem hmode)
  show some _ = some _
  simp only [requestedPlates, tone_request_mode, tone_request_params] at hwhite hvarnish ⊢
  cases hmode : job.inkMode with
  | FiveColor_YMCK_W | SevenColor_YMCK_Lm_Lc_W =>
      rw [hwhite fun hplate ↦ by simp [hmode, hplate]]
  | TenColor_YMCK_Lm_Lc_Lk_LLk_W_V =>
      rw [hwhite fun hplate ↦ by simp [hmode, hplate],
        hvarnish fun hplate ↦ by simp [hmode, hplate]]
  | _ => rfl

variable {files} {image} {plates} in
/-- Both paths give the same white plane. -/
theorem white_planes_eq (hplates : job.preparedPlates files image = .ok plates) :
    buildWhiteChannel fl (job.toneRequest (coveredImages image)) (job.wholePlateLoader plates)
        (coveredImages image) =
      buildWhiteChannel fl (job.toneRequest (coveredImages image)) files.readPlate
        (coveredImages image) := by
  refine build_specialty_channel_congr fun hmode ↦ ?_
  have hplate : job.specialtyMode "whiteMode" = 3 := hmode
  obtain ⟨-, hwhite, -⟩ := job.prepared_plates_eq_ok.mp hplates
  show job.plateSource plates job.whitePlatePath = _
  rw [plateSource, if_pos rfl, hwhite, if_pos hplate]
  rfl

/-- With ten inks the last plane is varnish. -/
theorem varnish_plane_get (hten : job.inkMode = .TenColor_YMCK_Lm_Lc_Lk_LLk_W_V)
    {loader : ExternalPlateLoader} {tones : List Bytes}
    (htones : buildToneChannels fl (job.toneRequest (coveredImages image)) loader = some tones) :
    tones[9]? = some (job.varnishPlane fl image loader) := by
  obtain rfl := Option.some.inj htones
  rw [tone_request_mode, hten]
  rfl

/-- The paths agree on the planes if they do on the varnish plane, which only the mode with ten inks
has. -/
theorem bounded_tones_eq (hplates : job.preparedPlates files image = .ok plates)
    (h : job.inkMode = .TenColor_YMCK_Lm_Lc_Lk_LLk_W_V →
      job.varnishPlane fl image (job.wholePlateLoader plates) =
        job.varnishPlane fl image files.readPlate) :
    job.boundedTones fl image plates = job.inMemoryTones fl files image := by
  rw [job.in_memory_tones_prepared fl hplates, boundedTones]
  show some _ = some _
  simp only [job.white_planes_eq fl hplates, tone_request_mode]
  cases hmode : job.inkMode with
  | TenColor_YMCK_Lm_Lc_Lk_LLk_W_V =>
      have hvarnish := h hmode
      unfold varnishPlane at hvarnish
      dsimp only
      rw [hvarnish]
  | _ => rfl

/-- Unless the bounded path drops the varnish, the varnish planes are equal. -/
theorem varnish_planes_eq (hplates : job.preparedPlates files image = .ok plates)
    (hten : job.inkMode = .TenColor_YMCK_Lm_Lc_Lk_LLk_W_V) (h : ¬ job.DropsVarnish files image) :
    job.varnishPlane fl image (job.wholePlateLoader plates) =
      job.varnishPlane fl image files.readPlate := by
  obtain ⟨-, hwhitePlate, hvarnishPlate⟩ := job.prepared_plates_eq_ok.mp hplates
  by_cases hplate : job.specialtyMode "varnishMode" = 3
  · rw [job.varnish_plane_plate fl image hplate
        (fun _ h ↦ job.plate_source_length hplates h),
      job.varnish_plane_plate fl image hplate (fun _ h ↦ PlateFiles.read_plate_length h)]
    show (job.plateSource plates job.varnishPlatePath).elim _ _ =
      (files.readPlate job.varnishPlatePath image.width image.height).elim _ _
    by_cases hsame : job.varnishPlatePath = job.whitePlatePath
    · by_cases hwhite : job.specialtyMode "whiteMode" = 3
      · rw [plateSource, if_pos hsame, hwhitePlate, if_pos hwhite, hsame]
      · -- The bounded path has no plate here, so the plate in memory must leave nothing.
        rw [plateSource, if_pos hsame, hwhitePlate, if_neg hwhite]
        cases hread : files.readPlate job.varnishPlatePath image.width image.height with
        | none => rfl
        | some plate =>
            dsimp only [Option.elim_none, Option.elim_some]
            have hunprinted : ∀ tone ∈ plate, job.varnishTone tone = job.varnishTone 0 := by
              intro tone htone
              by_contra hprinted
              exact h ⟨hten, hplate, hwhite, hsame, plate, hread, tone, htone, hprinted⟩
            refine (List.eq_replicate_iff.mpr ⟨?_, ?_⟩).symm
            · rw [List.length_map, PlateFiles.read_plate_length hread]
            · intro tone htone
              obtain ⟨source, hsource, rfl⟩ := List.mem_map.mp htone
              exact hunprinted source hsource
    · rw [plateSource, if_neg hsame, hvarnishPlate, if_pos hplate]
  · refine congrArg (curved _ _) (build_specialty_channel_congr fun hmode ↦ ?_)
    exact absurd hmode hplate

/-- When the bounded path drops the varnish, the varnish planes differ. -/
theorem varnish_planes_ne (hplates : job.preparedPlates files image = .ok plates)
    (h : job.DropsVarnish files image) :
    job.varnishPlane fl image (job.wholePlateLoader plates) ≠
      job.varnishPlane fl image files.readPlate := by
  obtain ⟨plate, hread, tone, htone, hprinted⟩ := h.printed
  obtain ⟨-, hwhite, -⟩ := job.prepared_plates_eq_ok.mp hplates
  intro hequal
  rw [job.varnish_plane_plate fl image h.varnishPlate
      (fun _ h ↦ job.plate_source_length hplates h),
    job.varnish_plane_plate fl image h.varnishPlate
      (fun _ h ↦ PlateFiles.read_plate_length h), hread] at hequal
  have hnone : job.wholePlateLoader plates job.varnishPlatePath image.width image.height =
      none := by
    show job.plateSource plates job.varnishPlatePath = none
    rw [plateSource, if_pos h.samePath, hwhite, if_neg h.noWhitePlate]
  rw [hnone, Option.elim_none, Option.elim_some] at hequal
  have hmem : job.varnishTone tone ∈ plate.map job.varnishTone := List.mem_map_of_mem htone
  rw [← hequal] at hmem
  exact hprinted (List.eq_of_mem_replicate hmem)

/-- The planes of some strips, those of each channel one after the other. -/
def joined (channels : Nat) (strips : List (List Bytes)) : List Bytes :=
  (List.range channels).map fun channel ↦ strips.flatMap (·.getD channel [])

/-- A channel configuration as the pipeline takes it, with the gate in its bounds. -/
def gated (config : ScreenChannel) : ScreenChannel :=
  { config with minInkThreshold := clamp config.minInkThreshold 0 254 }

/-- The bounded path gets its plates if the path in memory gets its planes. It then gives the strips
of an image, however it is cut; joined they are the planes of the path in memory, and both paths
screen every channel with the same mask and parameters. -/
structure PathsAgree : Prop where
  plates : (∃ plates, job.preparedPlates files image = .ok plates) ↔
    (job.inMemoryTones fl files image).isSome = true
  delivered (plates : PreparedPlates) (hplates : job.preparedPlates files image = .ok plates)
    (io : CacheIo) (hio : io.Ok) (canonical : CanonicalCmykFile)
    (hcreate : CanonicalCmykFile.create io image = .ok canonical) (strips : List (Nat × Nat))
    (hstrips : Plane.Partition image.height 0 strips) :
    ∃ planes, List.Forall₂ (fun cut tones ↦
      job.toneProvider fl plates image canonical io cut.1 cut.2 = .ok tones) strips planes
  tones (plates : PreparedPlates) (hplates : job.preparedPlates files image = .ok plates)
    (io : CacheIo) (canonical : CanonicalCmykFile)
    (hcreate : CanonicalCmykFile.create io image = .ok canonical) (strips : List (Nat × Nat))
    (hstrips : Plane.Partition image.height 0 strips) (planes : List (List Bytes))
    (hplanes : List.Forall₂ (fun cut tones ↦
      job.toneProvider fl plates image canonical io cut.1 cut.2 = .ok tones) strips planes) :
    job.inMemoryTones fl files image = some (joined job.inkMode.value planes)
  screening (assetPath : String → String) (tones : List Bytes) :
    (job.screenChannels assetPath).map gated =
      (job.screenRequest image tones).channels.map fun channelReq ↦
        gated (MultiInkScreenEngine.screenChannel (job.screenRequest image tones) channelReq
          (maskPath assetPath channelReq.maskKey))

/-- The strips of some planes, joined, are these planes. -/
theorem joined_map_strips {tones : List Bytes} {channels width height : Nat}
    (hcount : tones.length = channels) (hlengths : ∀ tone ∈ tones, tone.length = width * height)
    {strips : List (Nat × Nat)} (hstrips : Plane.Partition height 0 strips) :
    joined channels (strips.map fun cut ↦ tones.map (Plane.strip · width cut.1 cut.2)) = tones := by
  refine List.ext_getElem (by simp [joined, hcount]) ?_
  intro channel hchannel hbound
  have hconcat := Plane.strips_concat (hlengths _ (List.getElem_mem hbound)) hstrips
  rw [Nat.zero_mul, List.drop_zero] at hconcat
  simp only [joined, List.getElem_map, List.getElem_range, List.flatMap_map]
  refine Eq.trans ?_ hconcat
  refine List.flatMap_congr fun cut _ ↦ ?_
  rw [List.getD_eq_getElem?_getD, List.getElem?_map, List.getElem?_eq_getElem hbound]
  rfl

/-- A provider that gives the strips of some planes delivers every cut of them. -/
theorem exists_provided {provider : Nat → Nat → Except String (List Bytes)} {tones : List Bytes}
    {width height : Nat} {strips : List (Nat × Nat)} (hstrips : Plane.Partition height 0 strips)
    (h : ∀ firstRow rowCount, 0 < rowCount → firstRow + rowCount ≤ height →
      provider firstRow rowCount = .ok (tones.map (Plane.strip · width firstRow rowCount))) :
    ∃ planes, List.Forall₂ (fun cut tones ↦ provider cut.1 cut.2 = .ok tones) strips planes := by
  refine ⟨strips.map fun cut ↦ tones.map (Plane.strip · width cut.1 cut.2), ?_⟩
  refine List.forall₂_map_right_iff.mpr (List.forall₂_same.mpr fun cut hcut ↦ ?_)
  obtain ⟨hcount, hrows⟩ := hstrips.mem hcut
  exact h cut.1 cut.2 hcount hrows

/-- What a provider of the strips of some planes gives, joined, are these planes. -/
theorem joined_provided {provider : Nat → Nat → Except String (List Bytes)} {tones : List Bytes}
    {channels width height : Nat} (hcount : tones.length = channels)
    (hlengths : ∀ tone ∈ tones, tone.length = width * height) {strips : List (Nat × Nat)}
    (hstrips : Plane.Partition height 0 strips)
    (h : ∀ firstRow rowCount planes, 0 < rowCount → firstRow + rowCount ≤ height →
      provider firstRow rowCount = .ok planes →
        planes = tones.map (Plane.strip · width firstRow rowCount))
    {planes : List (List Bytes)}
    (hplanes : List.Forall₂ (fun cut tones ↦ provider cut.1 cut.2 = .ok tones) strips planes) :
    joined channels planes = tones := by
  have hbounds : List.Forall₂ (fun cut tones ↦ (0 < cut.2 ∧ cut.1 + cut.2 ≤ height) ∧
      provider cut.1 cut.2 = .ok tones) strips planes :=
    (List.forall₂_and_left _ _).mpr ⟨fun cut hcut ↦ hstrips.mem hcut, hplanes⟩
  have hcuts : planes = strips.map fun cut ↦ tones.map (Plane.strip · width cut.1 cut.2) := by
    refine forall₂_eq_map (hbounds.imp fun cut plane hplane ↦ ?_)
    obtain ⟨⟨hrow, hrows⟩, hplane⟩ := hplane
    exact h cut.1 cut.2 plane hrow hrows hplane
  rw [hcuts, joined_map_strips hcount hlengths hstrips]

/-- The strips of the bounded path, joined, are its planes for the whole image. -/
theorem joined_strips {tones : List Bytes} (htones : job.boundedTones fl image plates = some tones)
    {strips : List (Nat × Nat)} (hstrips : Plane.Partition image.height 0 strips) :
    joined job.inkMode.value
      (strips.map fun cut ↦ tones.map (Plane.strip · image.width cut.1 cut.2)) = tones := by
  obtain ⟨planes, hplanes, hcount, hlengths⟩ :=
    job.build_tone_channels_planes fl (coveredImages image) (job.wholePlateLoader plates)
  obtain rfl := Option.some.inj (hplanes.symm.trans htones)
  exact joined_map_strips hcount hlengths hstrips

/-- What the tone provider gives is a strip of these planes. -/
theorem tone_provider_ok (hplates : job.preparedPlates files image = .ok plates) {io : CacheIo}
    {canonical : CanonicalCmykFile} (hcreate : CanonicalCmykFile.create io image = .ok canonical)
    {tones : List Bytes} (htones : job.boundedTones fl image plates = some tones)
    {firstRow rowCount : Nat} (hcount : 0 < rowCount) (hrows : firstRow + rowCount ≤ image.height)
    {planes : List Bytes}
    (h : job.toneProvider fl plates image canonical io firstRow rowCount = .ok planes) :
    planes = tones.map (Plane.strip · image.width firstRow rowCount) := by
  cases hopens : io.reopened firstRow with
  | true =>
      rw [job.tone_provider_eq fl hplates hcreate htones hcount hrows hopens] at h
      exact (Except.ok.inj h).symm
  | false =>
      obtain rfl := CanonicalCmykFile.create_eq hcreate
      have hrequest : ¬ (rowCount = 0 ∨ image.height < firstRow + rowCount) := by omega
      rw [toneProvider, CanonicalCmykFile.readRows, if_neg hrequest, hopens, Bool.not_false,
        if_pos rfl] at h
      cases h

/-- The configurations of a channel are the same. -/
theorem screen_channel_eq (assetPath : String → String) (tones : List Bytes) (channel : Nat) :
    gated (job.screenChannel assetPath channel) =
      gated (MultiInkScreenEngine.screenChannel (job.screenRequest image tones)
        (job.channelRequest channel tones[channel]!)
        (maskPath assetPath (job.maskKeyForChannel channel))) := by
  have hgate : ∀ (light : Prop) [Decidable light] (lightMinimum minimum : Int),
      clamp (if light then lightMinimum else minimum) 0 254 =
        clamp (if light then lightMinimum else clamp minimum 0 254) 0 254 := by
    intro light _ lightMinimum minimum
    split_ifs
    · rfl
    · exact (clamp_clamp (by decide)).symm
  unfold screenChannel channelRequest MultiInkScreenEngine.screenChannel
    MultiInkScreenEngine.channelStrategy MultiInkScreenEngine.minInkThreshold
    MultiInkScreenEngine.floorRange MultiInkScreenEngine.floorMax MultiInkScreenEngine.isKLike
    gated screenRequest
  cases job.ownDots channel with
  | none =>
      simp only [Bool.and_eq_true]
      simp
      exact hgate _ _ _
  | some own =>
      simp
      exact hgate _ _ _

/-- The plates of the bounded path when it drops the varnish: only that of varnish is read. -/
theorem DropsVarnish.exists_plates (h : job.DropsVarnish files image) :
    ∃ plates, job.preparedPlates files image = .ok plates := by
  refine job.exists_prepared_plates_iff.mpr fun path hpath ↦ ?_
  obtain ⟨plate, hread, -⟩ := h.printed
  rw [preparedPaths, if_neg h.noWhitePlate, if_pos h.varnishPlate, List.nil_append,
    List.mem_singleton] at hpath
  subst hpath
  rw [PlateFiles.read_plate_eq_some.mp hread]
  exact PlateReading.noConfusion

/-- When the bounded path drops the varnish, its planes are not those in memory. -/
theorem DropsVarnish.disagree (hdrops : job.DropsVarnish files image) :
    ¬ job.PathsAgree fl files image := by
  intro h
  obtain ⟨plates, hplates⟩ := hdrops.exists_plates
  obtain ⟨tones, htones, -, -⟩ :=
    job.build_tone_channels_planes fl (coveredImages image) (job.wholePlateLoader plates)
  have hbounded : job.boundedTones fl image plates = some tones := htones
  -- The image in one strip is enough to tell the planes apart.
  have hio : CacheIo.Ok {} := ⟨rfl, fun _ ↦ rfl, fun _ ↦ rfl, fun _ ↦ rfl⟩
  have hstrips : Plane.Partition image.height 0 [(0, image.height)] :=
    ⟨rfl, image.height_pos, Nat.zero_add _⟩
  obtain ⟨canonical, hcreate⟩ := CanonicalCmykFile.create_complete hio image
  have hprovider := job.tone_provider_eq fl hplates hcreate hbounded image.height_pos
    (Nat.zero_add image.height).le rfl
  have hmemory := h.tones plates hplates {} canonical hcreate _ hstrips _ (.cons hprovider .nil)
  have hjoined := job.joined_strips fl image plates hbounded hstrips
  rw [List.map_singleton] at hjoined
  rw [hjoined, job.in_memory_tones_prepared fl hplates] at hmemory
  have hwhole := job.varnish_plane_get fl image hdrops.tenInks htones
  have hfull := job.varnish_plane_get fl image hdrops.tenInks hmemory
  exact job.varnish_planes_ne fl files image plates hplates hdrops
    (Option.some.inj (hwhole.symm.trans hfull))

/-- The paths succeed together, unless the bounded path stops on a plate that is not printed. -/
theorem plates_agree_iff :
    ((∃ plates, job.preparedPlates files image = .ok plates) ↔
        (job.inMemoryTones fl files image).isSome = true) ↔
      ¬ job.StopsOnUnprintedPlate files image := by
  obtain ⟨tones, htones, -, -⟩ :=
    job.build_tone_channels_planes fl (coveredImages image) files.readPlate
  have hmemory : (job.inMemoryTones fl files image).isSome = true ↔
      ∀ path ∈ requestedPlates (job.toneRequest (coveredImages image)),
        files.read path image.width image.height ≠ .thrown := by
    rw [in_memory_tones_eq, htones]
    by_cases hthrows : job.loaderThrows files image (coveredImages image) = true
    · rw [if_pos hthrows]
      obtain ⟨path, hpath, hthrown⟩ := (job.loader_throws_iff files image).mp hthrows
      exact ⟨fun h ↦ (Bool.false_ne_true h).elim, fun h ↦ absurd hthrown (h path hpath)⟩
    · rw [if_neg hthrows]
      refine ⟨fun _ path hpath hthrown ↦ ?_, fun _ ↦ rfl⟩
      exact hthrows ((job.loader_throws_iff files image).mpr ⟨path, hpath, hthrown⟩)
  rw [hmemory, exists_prepared_plates_iff]
  constructor
  · intro h hstops
    obtain ⟨path, hpath, hthrown⟩ := hstops.stops
    exact h.mpr hstops.unprinted path hpath hthrown
  · intro h
    refine ⟨fun hreads path hpath ↦ hreads path (job.requested_plates_subset hpath), ?_⟩
    intro hunprinted path hpath hthrown
    exact h ⟨⟨path, hpath, hthrown⟩, hunprinted⟩

/-- The bounded path agrees with the path in memory, in tones and screening parameters, exactly if
it does not drop a varnish plate and does not stop on a plate that is not printed. -/
theorem bounded_path_agrees_iff :
    job.PathsAgree fl files image ↔
      ¬ job.DropsVarnish files image ∧ ¬ job.StopsOnUnprintedPlate files image := by
  constructor
  · intro h
    exact ⟨fun hdrops ↦ hdrops.disagree fl job files image h,
      (job.plates_agree_iff fl files image).mp h.plates⟩
  rintro ⟨hdrops, hstops⟩
  refine ⟨(job.plates_agree_iff fl files image).mpr hstops, ?_, ?_, ?_⟩
  · intro plates hplates io hio canonical hcreate strips hstrips
    obtain ⟨tones, htones, -, -⟩ :=
      job.build_tone_channels_planes fl (coveredImages image) (job.wholePlateLoader plates)
    exact exists_provided hstrips fun firstRow rowCount hcount hrows ↦
      job.tone_provider_eq fl hplates hcreate htones hcount hrows (hio.reopened _)
  · intro plates hplates io canonical hcreate strips hstrips planes hplanes
    obtain ⟨tones, htones, hcount, hlengths⟩ :=
      job.build_tone_channels_planes fl (coveredImages image) (job.wholePlateLoader plates)
    have hbounded : job.boundedTones fl image plates = some tones := htones
    -- Unless a shared plate is dropped the tones are the same; the rest compares strips with them.
    have hequal : job.boundedTones fl image plates = job.inMemoryTones fl files image :=
      job.bounded_tones_eq fl files image plates hplates fun hten ↦
        job.varnish_planes_eq fl files image plates hplates hten hdrops
    rw [← hequal, hbounded]
    refine congrArg some (joined_provided hcount hlengths hstrips ?_ hplanes).symm
    exact fun firstRow rowCount planes hcount hrows hplane ↦
      job.tone_provider_ok fl files image plates hplates hcreate hbounded hcount hrows hplane
  · intro assetPath tones
    rw [screenChannels, screenRequest, List.map_map, List.map_map]
    refine List.map_congr_left fun channel _ ↦ ?_
    have hkey : (job.channelRequest channel tones[channel]!).maskKey =
        job.maskKeyForChannel channel := by
      unfold channelRequest
      cases job.ownDots channel <;> rfl
    show gated (job.screenChannel assetPath channel) = gated (MultiInkScreenEngine.screenChannel
      (job.screenRequest image tones) _ (maskPath assetPath _))
    rw [hkey]
    exact job.screen_channel_eq image assetPath tones channel

end Paths

/-- An image of one unprinted pixel without a mask. -/
def blankImage : SourceImage where
  width := 1
  height := 1
  pixels := [⟨0, 0, 0, 0⟩]
  alpha := { mask_length := by rintro _ ⟨⟩ }
  width_pos := Nat.one_pos
  width_lt := by decide
  height_pos := Nat.one_pos
  height_lt := by decide
  pixels_length := rfl
  alpha_fits := by rintro ⟨⟩

/-- Three rows of two pixels, under a mask that hides the second pixel and half of the last. -/
def threeRows : SourceImage where
  width := 2
  height := 3
  pixels := [⟨10, 0, 0, 0⟩, ⟨0, 90, 0, 0⟩, ⟨0, 48, 0, 7⟩, ⟨200, 0, 31, 0⟩, ⟨0, 0, 0, 255⟩,
    ⟨60, 60, 60, 60⟩]
  alpha :=
    { width := 2
      height := 3
      mask := some [255, 0, 255, 255, 255, 128]
      mask_length := by
        rintro _ ⟨⟩
        rfl }
  width_pos := by decide
  width_lt := by decide
  height_pos := by decide
  height_lt := by decide
  pixels_length := rfl
  alpha_fits _ := ⟨rfl, rfl⟩

/-- Every path is that of a fully printed plate. -/
def fullPlates : PlateFiles where
  toLocalFile := id
  present _ := true
  gray _ width height := some (List.replicate (width * height) 255)
  gray_length := by
    rintro _ _ _ _ ⟨⟩
    exact List.length_replicate

/-- Ten inks, with varnish from a plate, and the path of that plate is still set for white, which is
off. -/
def sharedPlateJob : PrintJobMultiInk Variant where
  inkMode := .TenColor_YMCK_Lm_Lc_Lk_LLk_W_V
  modeParams := variantMap [("whiteMode", .int 0), ("varnishMode", .int 3)]
  dotStrategy := {}
  screenSeed := 7
  whitePlatePath := "plate.tiff"
  varnishPlatePath := "plate.tiff"
  linearization := MultiInkLinearization.ofChannels (fun _ ↦ id) fun _ ↦ true
  enableLinearization := false

/-- The bounded path drops its varnish. -/
theorem shared_plate_drops_varnish :
    ¬ sharedPlateJob.PathsAgree FloatFormat.binary64.round fullPlates blankImage := by
  refine DropsVarnish.disagree _ _ _ _
    ⟨rfl, by decide +kernel, by decide +kernel, rfl, [255], ?_, 255, ?_, ?_⟩
  · rfl
  · exact List.mem_singleton.mpr rfl
  · decide +kernel

end PrintJobMultiInk

end PrintFlow
