import PrintFlow.Rip.MultiInkToneBuilder

/-!
# The automatic underbase of the modes with white

In automatic mode white is printed where the colours are, as the buffers of the mode have them when
the white plane is built. The mode with five inks has curved all four colours by then, the mode with
seven inks only yellow and black, the mode with ten inks only yellow. `underbase_agrees_iff` says
when the three planes are the same all the same.
-/

namespace PrintFlow.MultiInkToneBuilder

section Underbase

variable {V : Type} [QVariantApi V] (fl : ℚ → ℚ) (req : BuildRequest V) (images : CmykImages)

/-- The white plane before its curve, for a mode. -/
def whitePlane (plateLoader : ExternalPlateLoader) (mode : InkMode) : Bytes :=
  buildWhiteChannel fl { req with mode := mode } plateLoader images

/-- The white that the coverage of a pixel gives. -/
def underbase (pixel : Cmyk) : UInt8 :=
  let cfg := getWhiteConfig req.modeParams
  applySpecialtyThresholdDensity (coverage pixel) cfg.threshold cfg.density

/-- The white planes of the three modes with white are the same. -/
structure UnderbaseAgrees (plateLoader : ExternalPlateLoader) : Prop where
  seven : whitePlane fl req images plateLoader .SevenColor_YMCK_Lm_Lc_W =
    whitePlane fl req images plateLoader .FiveColor_YMCK_W
  ten : whitePlane fl req images plateLoader .TenColor_YMCK_Lm_Lc_Lk_LLk_W_V =
    whitePlane fl req images plateLoader .FiveColor_YMCK_W

/-- With these curves a pixel has the same white when its colours are curved, when its cyan and
magenta are not, and when its black is not either. -/
structure CurvesKeepUnderbase (curves : MultiInkLinearization) (pixel : Cmyk) : Prop where
  cyanMagenta :
    underbase req
        ⟨pixel.c, pixel.m, curves.lutY.single pixel.y, curves.lutK_Lk_LLk.dark pixel.k⟩ =
      underbase req
        ⟨curves.lutC_Lc.dark pixel.c, curves.lutM_Lm.dark pixel.m, curves.lutY.single pixel.y,
          curves.lutK_Lk_LLk.dark pixel.k⟩
  black :
    underbase req ⟨pixel.c, pixel.m, curves.lutY.single pixel.y, pixel.k⟩ =
      underbase req
        ⟨curves.lutC_Lc.dark pixel.c, curves.lutM_Lm.dark pixel.m, curves.lutY.single pixel.y,
          curves.lutK_Lk_LLk.dark pixel.k⟩

omit [QVariantApi V] in
/-- The curves that are used do not depend on the mode. -/
theorem combo_linearization_mode (mode : InkMode) :
    comboLinearization { req with mode := mode } = comboLinearization req := rfl

/-- Fading the light inks leaves the colours. -/
theorem fade_adj (p : GcrParams) (pixels : List InkPixel) :
    (applyNeutralLightInkFade pixels p).map (·.adj) = pixels.map (·.adj) := by
  have hpixel : ∀ pixel, (fadeNeutral p pixel).adj = pixel.adj := by
    intro pixel
    unfold fadeNeutral
    split <;> rfl
  unfold applyNeutralLightInkFade
  split
  · rw [List.map_map]
    exact List.map_congr_left fun pixel _ ↦ hpixel pixel
  · rfl

/-- The colours that the white plane is built from. -/
theorem ink_pixels_adj :
    (inkPixels fl req images).map (·.adj) =
      (postGcr req images).map fun adj ↦ (separate fl req adj).adj := by
  have hmap : ((postGcr req images).map (separate fl req)).map (·.adj) =
      (postGcr req images).map fun adj ↦ (separate fl req adj).adj := List.map_map
  unfold inkPixels
  cases req.mode with
  | EightColor_YMCK_Lm_Lc_Lk_LLk | TenColor_YMCK_Lm_Lc_Lk_LLk_W_V =>
      exact (fade_adj ..).trans hmap
  | _ => exact hmap

/-- In automatic mode white is the underbase of these colours. -/
theorem white_plane_auto (hauto : (getWhiteConfig req.modeParams).mode = 1)
    (plateLoader : ExternalPlateLoader) (mode : InkMode) :
    whitePlane fl req images plateLoader mode =
      (postGcr req images).map fun adj ↦
        underbase req (separate fl { req with mode := mode } adj).adj := by
  rw [whitePlane, buildWhiteChannel, ink_pixels_adj, buildSpecialtyChannel]
  dsimp only
  rw [if_pos hauto, List.map_map]
  rfl

/-- The underbase does not depend on the number of colour inks exactly when no curves are used, or
the curves keep the underbase of every pixel. -/
theorem underbase_agrees_iff (hauto : (getWhiteConfig req.modeParams).mode = 1)
    (plateLoader : ExternalPlateLoader) :
    UnderbaseAgrees fl req images plateLoader ↔
      ∀ linearization, comboLinearization req = some linearization →
        ∀ pixel ∈ postGcr req images, CurvesKeepUnderbase req linearization pixel := by
  have hseven := white_plane_auto fl req images hauto plateLoader .SevenColor_YMCK_Lm_Lc_W
  have hten := white_plane_auto fl req images hauto plateLoader .TenColor_YMCK_Lm_Lc_Lk_LLk_W_V
  have hfive := white_plane_auto fl req images hauto plateLoader .FiveColor_YMCK_W
  simp only [separate, combo_linearization_mode] at hseven hten hfive
  -- The underbase is taken from the colours, and each of the modes curves other ones of them.
  cases hcurves : comboLinearization req with
  | none =>
      rw [hcurves] at hseven hten hfive
      refine iff_of_true ⟨hseven.trans hfive.symm, hten.trans hfive.symm⟩ ?_
      intro linearization h
      cases h
  | some linearization =>
      rw [hcurves] at hseven hten hfive
      refine ⟨fun h other hother adj hadj ↦ ?_, fun h ↦ ?_⟩
      · obtain rfl := Option.some.inj hother
        have hsix := (hseven.symm.trans h.seven).trans hfive
        have height := (hten.symm.trans h.ten).trans hfive
        exact ⟨List.map_inj_left.mp hsix adj hadj, List.map_inj_left.mp height adj hadj⟩
      · have hkept := h linearization rfl
        refine ⟨hseven.trans (Eq.trans ?_ hfive.symm), hten.trans (Eq.trans ?_ hfive.symm)⟩
        · exact List.map_congr_left fun adj hadj ↦ (hkept adj hadj).cyanMagenta
        · exact List.map_congr_left fun adj hadj ↦ (hkept adj hadj).black

end Underbase

/-- Curves that print no cyan and keep the other inks. -/
def noCyan : MultiInkLinearization :=
  .ofChannels (fun channel ↦ if channel = .C then fun _ ↦ 0 else id) (· = .C)

/-- An image of one cyan pixel. -/
def cyanImage : CmykImages := ⟨1, 1, [⟨200, 0, 0, 0⟩], rfl⟩

/-- The cyan pixel under an automatic underbase, with these curves. -/
def cyanRequest : BuildRequest Variant where
  cmykImages := some cyanImage
  modeParams := variantMap [("whiteMode", .int 1)]
  linearization := some noCyan
  enableLinearization := true

/-- Five inks print no white under it, seven and ten inks do. -/
theorem underbase_differs :
    ¬ UnderbaseAgrees id cyanRequest cyanImage fun _ _ _ ↦ none := by
  intro h
  have hfive : whitePlane id cyanRequest cyanImage (fun _ _ _ ↦ none) .FiveColor_YMCK_W = [0] := by
    decide +kernel
  have hseven : whitePlane id cyanRequest cyanImage (fun _ _ _ ↦ none) .SevenColor_YMCK_Lm_Lc_W =
      [198] := by decide +kernel
  exact absurd (hseven.symm.trans (h.seven.trans hfive)) (by decide)

theorem underbase_agrees_iff_cyan :
    UnderbaseAgrees id cyanRequest cyanImage (fun _ _ _ ↦ none) ↔
      ∀ linearization, comboLinearization cyanRequest = some linearization →
        ∀ pixel ∈ postGcr cyanRequest cyanImage,
          CurvesKeepUnderbase cyanRequest linearization pixel :=
  underbase_agrees_iff id cyanRequest cyanImage (by decide +kernel) _

end PrintFlow.MultiInkToneBuilder
