import PrintFlow.Rip.MultiInkToneBuilder

/-!
# Which pixels lose their light inks

In the modes with light blacks, light cyan and light magenta are faded in neutral pixels. The fade
looks at the buffers as they stand, and with curves in use the yellow one has already been curved.
`light_ink_fade_iff` says when it still fades the pixels whose colour is neutral.
-/

namespace PrintFlow.MultiInkToneBuilder

section Fade

variable {V : Type} [QVariantApi V] (fl : ℚ → ℚ) (req : BuildRequest V) (images : CmykImages)

/-- The buffers of the mode when the fade reads them. -/
def unfadedPixels : List InkPixel := (postGcr req images).map (separate fl req)

/-- The pixels that the loop of the fade does not skip. -/
def fadedPixels : List Bool :=
  let gcr := getGcrParams req.modeParams
  (unfadedPixels fl req images).map fun pixel ↦
    gcr.enabled && inNeutral gcr pixel.adj.c pixel.adj.m pixel.adj.y

/-- The pixels whose cyan, magenta and yellow are neutral after the neutral transfer. -/
def neutralPixels : List Bool :=
  let gcr := getGcrParams req.modeParams
  (postGcr req images).map fun adj ↦ gcr.enabled && inNeutral gcr adj.c adj.m adj.y

/-- The request without its curves. -/
def withoutCurves : BuildRequest V := { req with enableLinearization := false }

omit [QVariantApi V] in
/-- The curve that yellow goes through before the fade. -/
def yellowCurve : Lut8 := (comboLinearization req).elim id (·.lutY.single)

/-- A plane of a light ink: faded where the fade does not skip the pixel. -/
def fadedPlane (pct : UInt8) (ink : InkPixel → UInt8) : Bytes :=
  List.zipWith (fun faded pixel ↦ if faded then fadePct (ink pixel) pct else ink pixel)
    (fadedPixels fl req images) (unfadedPixels fl req images)

/-- The modes with light blacks. -/
def HasLightBlacks : Prop :=
  req.mode = .EightColor_YMCK_Lm_Lc_Lk_LLk ∨ req.mode = .TenColor_YMCK_Lm_Lc_Lk_LLk_W_V

variable {req}

/-- Separating a pixel leaves its cyan and magenta and curves its yellow. -/
theorem separate_adj (hmode : HasLightBlacks req) (adj : Cmyk) :
    (separate fl req adj).adj = { adj with y := yellowCurve req adj.y } := by
  unfold separate yellowCurve
  rcases hmode with hmode | hmode <;> rw [hmode] <;> cases comboLinearization req <;> rfl

theorem fade_ink (p : GcrParams) (pct : GcrParams → UInt8) (ink : InkPixel → UInt8)
    (hink : ∀ pixel, ink (fadeNeutral p pixel) =
      if inNeutral p pixel.adj.c pixel.adj.m pixel.adj.y then fadePct (ink pixel) (pct p)
      else ink pixel) (pixels : List InkPixel) :
    (applyNeutralLightInkFade pixels p).map ink =
      List.zipWith (fun faded pixel ↦ if faded then fadePct (ink pixel) (pct p) else ink pixel)
        (pixels.map fun pixel ↦ p.enabled && inNeutral p pixel.adj.c pixel.adj.m pixel.adj.y)
        pixels := by
  rw [List.zipWith_map_left, List.zipWith_self, applyNeutralLightInkFade]
  by_cases henabled : p.enabled = true
  · rw [if_pos henabled, List.map_map]
    refine List.map_congr_left fun pixel _ ↦ ?_
    rw [henabled, Bool.true_and]
    exact hink pixel
  · rw [if_neg henabled]
    refine List.map_congr_left fun pixel _ ↦ ?_
    rw [Bool.not_eq_true] at henabled
    rw [henabled, Bool.false_and, if_neg Bool.false_ne_true]

/-- The planes of light cyan and light magenta. -/
theorem light_ink_planes (hmode : HasLightBlacks req) (himages : req.cmykImages = some images)
    (plateLoader : ExternalPlateLoader) :
    ∃ tones, buildToneChannels fl req plateLoader = some tones ∧
      tones[4]? = some (fadedPlane fl req images
        (getGcrParams req.modeParams).lcFadePctInNeutral (·.cLight)) ∧
      tones[5]? = some (fadedPlane fl req images
        (getGcrParams req.modeParams).lmFadePctInNeutral (·.mLight)) := by
  have hcyan := fade_ink (getGcrParams req.modeParams) (·.lcFadePctInNeutral) (·.cLight)
    (fun pixel ↦ by unfold fadeNeutral; split <;> rfl) (unfadedPixels fl req images)
  have hmagenta := fade_ink (getGcrParams req.modeParams) (·.lmFadePctInNeutral) (·.mLight)
    (fun pixel ↦ by unfold fadeNeutral; split <;> rfl) (unfadedPixels fl req images)
  have hpixels : inkPixels fl req images =
      applyNeutralLightInkFade (unfadedPixels fl req images) (getGcrParams req.modeParams) := by
    unfold inkPixels
    rcases hmode with hmode | hmode <;> rw [hmode] <;> rfl
  unfold buildToneChannels
  rw [himages]
  refine ⟨_, rfl, ?_, ?_⟩
  · rcases hmode with hmode | hmode <;> rw [hmode] <;> exact congrArg some (hpixels ▸ hcyan)
  · rcases hmode with hmode | hmode <;> rw [hmode] <;> exact congrArg some (hpixels ▸ hmagenta)

/-- The fade skips the pixels that are not neutral once their yellow was curved. -/
theorem faded_pixels_eq (hmode : HasLightBlacks req) :
    fadedPixels fl req images = (postGcr req images).map fun adj ↦
      (getGcrParams req.modeParams).enabled &&
        inNeutral (getGcrParams req.modeParams) adj.c adj.m (yellowCurve req adj.y) := by
  unfold fadedPixels unfadedPixels
  rw [List.map_map]
  refine List.map_congr_left fun adj _ ↦ ?_
  show (_ && inNeutral _ (separate fl req adj).adj.c (separate fl req adj).adj.m
    (separate fl req adj).adj.y) = _
  rw [separate_adj fl hmode]

/-- In the modes with light blacks the light inks are faded in the pixels the fade does not skip.
Without curves these are the pixels whose colour is neutral after the neutral transfer; with curves
they are exactly when no curved yellow takes a pixel into the neutrals or out of them. -/
theorem light_ink_fade_iff (hmode : HasLightBlacks req) (himages : req.cmykImages = some images)
    (plateLoader : ExternalPlateLoader) :
    (∃ tones, buildToneChannels fl req plateLoader = some tones ∧
      tones[4]? = some (fadedPlane fl req images
        (getGcrParams req.modeParams).lcFadePctInNeutral (·.cLight)) ∧
      tones[5]? = some (fadedPlane fl req images
        (getGcrParams req.modeParams).lmFadePctInNeutral (·.mLight))) ∧
    fadedPixels fl (withoutCurves req) images = neutralPixels req images ∧
    (fadedPixels fl req images = neutralPixels req images ↔
      ∀ adj ∈ postGcr req images, (getGcrParams req.modeParams).enabled = true →
        inNeutral (getGcrParams req.modeParams) adj.c adj.m (yellowCurve req adj.y) =
          inNeutral (getGcrParams req.modeParams) adj.c adj.m adj.y) := by
  refine ⟨light_ink_planes fl images hmode himages plateLoader, ?_, ?_⟩
  -- Without curves the yellow that the fade tests is the yellow of the pixel.
  · have hplain : yellowCurve (withoutCurves req) = id := by
      unfold yellowCurve comboLinearization withoutCurves
      cases req.linearization <;> rfl
    have hmode' : HasLightBlacks (withoutCurves req) := hmode
    rw [faded_pixels_eq fl images hmode', hplain]
    rfl
  · rw [faded_pixels_eq fl images hmode, neutralPixels, List.map_inj_left]
    refine forall_congr' fun adj ↦ forall_congr' fun _ ↦ ?_
    cases (getGcrParams req.modeParams).enabled with
    | true => exact ⟨fun h _ ↦ h, fun h ↦ h rfl⟩
    | false => exact iff_of_true rfl nofun

end Fade

/-- Curves that raise yellow to the full tone and keep the other inks. -/
def fullYellow : MultiInkLinearization :=
  .ofChannels (fun channel ↦ if channel = .Y then fun _ ↦ 255 else id) (· = .Y)

/-- An image of one grey pixel. -/
def greyImage : CmykImages := ⟨1, 1, [⟨50, 50, 50, 0⟩], rfl⟩

/-- The grey pixel, with the neutral transfer and the full yellow curve. -/
def greyRequest : BuildRequest Variant where
  cmykImages := some greyImage
  mode := .EightColor_YMCK_Lm_Lc_Lk_LLk
  modeParams := variantMap [("gcrEnabled", .bool true)]
  linearization := some fullYellow
  enableLinearization := true

/-- The grey pixel is faded without the curves and not with them. -/
theorem curve_stops_fade :
    neutralPixels greyRequest greyImage = [true] ∧
      fadedPixels id (withoutCurves greyRequest) greyImage = [true] ∧
      fadedPixels id greyRequest greyImage = [false] := by
  decide +kernel

theorem light_ink_fade_iff_grey :
    (∃ tones, buildToneChannels id greyRequest (fun _ _ _ ↦ none) = some tones ∧
      tones[4]? = some (fadedPlane id greyRequest greyImage 70 (·.cLight)) ∧
      tones[5]? = some (fadedPlane id greyRequest greyImage 50 (·.mLight))) ∧
    fadedPixels id (withoutCurves greyRequest) greyImage = neutralPixels greyRequest greyImage ∧
    (fadedPixels id greyRequest greyImage = neutralPixels greyRequest greyImage ↔
      ∀ adj ∈ postGcr greyRequest greyImage,
        (getGcrParams greyRequest.modeParams).enabled = true →
          inNeutral (getGcrParams greyRequest.modeParams) adj.c adj.m
              (yellowCurve greyRequest adj.y) =
            inNeutral (getGcrParams greyRequest.modeParams) adj.c adj.m adj.y) :=
  light_ink_fade_iff id _ (.inl rfl) rfl _

end PrintFlow.MultiInkToneBuilder
