import PrintFlow.Rip.StripScreening
import PrintFlow.Rip.ToneStrips

/-!
# The inks of planes

The order of the planes of a mode stands in four places: in the tone builder, in the mask keys of a
job, in its channel order and in the colour list of the PRN writer. This module says which ink each
of them means by a position. They agree on all modes but those with six and seven inks, where the
colour list has light cyan and light magenta the other way round.
-/

namespace PrintFlow

open BoundedRasterPipeline MultiInkToneBuilder

/-- The inks of a printer. -/
inductive Ink where
  | cyan
  | magenta
  | yellow
  | black
  | lightCyan
  | lightMagenta
  | lightBlack
  | lightLightBlack
  | white
  | varnish
  deriving DecidableEq, Repr

namespace Ink

/-- The byte of a colour list that names an ink. -/
def boardByte : Ink → UInt8
  | cyan => NocaiPrnWriter.inkByte 'C'
  | magenta => NocaiPrnWriter.inkByte 'M'
  | yellow => NocaiPrnWriter.inkByte 'Y'
  | black => NocaiPrnWriter.inkByte 'K'
  | lightCyan => NocaiPrnWriter.inkByte 'c'
  | lightMagenta => NocaiPrnWriter.inkByte 'm'
  | lightBlack => NocaiPrnWriter.inkByte 'k'
  | lightLightBlack => 0x01
  | white => NocaiPrnWriter.inkByte 'W'
  | varnish => NocaiPrnWriter.inkByte 'V'

/-- A byte names one ink at most. -/
theorem board_byte_injective : Function.Injective boardByte := by
  intro ink other h
  cases ink <;> cases other <;> first | rfl | exact absurd h (by decide)

/-- Light cyan for light magenta and the other way round. -/
def swapLight : Ink → Ink
  | lightCyan => lightMagenta
  | lightMagenta => lightCyan
  | ink => ink

end Ink

/-- The inks of the planes that the tone builder gives, in its order. -/
def builderInks : InkMode → List Ink
  | .FourColor_YMCK => [.cyan, .magenta, .yellow, .black]
  | .FiveColor_YMCK_W => [.cyan, .magenta, .yellow, .black, .white]
  | .SixColor_YMCK_Lm_Lc => [.cyan, .magenta, .yellow, .black, .lightMagenta, .lightCyan]
  | .SevenColor_YMCK_Lm_Lc_W =>
    [.cyan, .magenta, .yellow, .black, .lightMagenta, .lightCyan, .white]
  | .EightColor_YMCK_Lm_Lc_Lk_LLk =>
    [.cyan, .magenta, .yellow, .black, .lightCyan, .lightMagenta, .lightBlack, .lightLightBlack]
  | .TenColor_YMCK_Lm_Lc_Lk_LLk_W_V =>
    [.cyan, .magenta, .yellow, .black, .lightCyan, .lightMagenta, .lightBlack, .lightLightBlack,
      .white, .varnish]

/-- The buffer that the tones of an ink are taken from. A mode that splits a colour has its dark
tones in a buffer of their own. -/
def inkBuffer (mode : InkMode) : Ink → InkPixel → UInt8
  | .cyan, pixel => if mode.value < 6 then pixel.adj.c else pixel.cDark
  | .magenta, pixel => if mode.value < 6 then pixel.adj.m else pixel.mDark
  | .yellow, pixel => pixel.adj.y
  | .black, pixel => if mode.value < 8 then pixel.adj.k else pixel.kDark
  | .lightCyan, pixel => pixel.cLight
  | .lightMagenta, pixel => pixel.mLight
  | .lightBlack, pixel => pixel.lk
  | .lightLightBlack, pixel => pixel.llk
  | .white, _ | .varnish, _ => 0

/-- The modes whose colour list has the light inks the other way round. -/
def SwapsLight (mode : InkMode) : Prop :=
  mode = .SixColor_YMCK_Lm_Lc ∨ mode = .SevenColor_YMCK_Lm_Lc_W

instance (mode : InkMode) : Decidable (SwapsLight mode) := inferInstanceAs (Decidable (_ ∨ _))

/-- The ink that the colour list names where it should name this one. -/
def namedInk (mode : InkMode) (ink : Ink) : Ink := if SwapsLight mode then ink.swapLight else ink

@[simp] theorem builder_inks_length (mode : InkMode) : (builderInks mode).length = mode.value := by
  cases mode <;> rfl

/-- Each ink has one plane. -/
theorem builder_inks_nodup (mode : InkMode) : (builderInks mode).Nodup := by
  cases mode <;> decide

namespace PrintJobMultiInk

/-- The colour list names the inks of the planes in the order of the channels, but for the swap of
the light inks. -/
theorem colour_list_eq (mode : InkMode) :
    NocaiPrnWriter.buildColorListForMode (writerMode mode) (channelOrder mode) =
      ((channelOrder mode).map fun channel ↦
          ((builderInks mode)[channel.toInt.toNat]?.elim 0 fun ink ↦ (namedInk mode ink).boardByte)) ++
        List.replicate (16 - mode.value) 0 := by
  cases mode <;> decide

/-- The planes of a file are those of the mode, in another order. -/
theorem channel_order_perm (mode : InkMode) :
    ((channelOrder mode).map fun channel ↦ channel.toInt.toNat).Perm (List.range mode.value) := by
  cases mode <;> decide

variable {V : Type} [QVariantApi V] (fl : ℚ → ℚ) (job : PrintJobMultiInk V)

/-- The mask key of an ink. -/
def inkMaskKey : Ink → String
  | .cyan => "c"
  | .magenta => "m"
  | .yellow => "y"
  | .black => "k"
  | .lightCyan => "lc"
  | .lightMagenta => "lm"
  | .lightBlack => "lk"
  | .lightLightBlack => "llk"
  | .white => job.specialtyMaskKey "whiteMaskKey" "w"
  | .varnish => job.specialtyMaskKey "varnishMaskKey" "v"

/-- The mask keys of a job are those of the inks of the builder. -/
theorem mask_key_for_channel_eq {channel : Nat} {ink : Ink}
    (h : (builderInks job.inkMode)[channel]? = some ink) :
    job.maskKeyForChannel channel = job.inkMaskKey ink := by
  have hkeys : job.maskKeyForChannel channel =
      ((builderInks job.inkMode).map job.inkMaskKey).getD channel "c" := by
    unfold maskKeyForChannel
    cases job.inkMode <;> rfl
  rw [hkeys, List.getD_eq_getElem?_getD, List.getElem?_map, h]
  rfl

/-- A mask key is not empty. -/
theorem ink_mask_key_ne_empty (ink : Ink) : job.inkMaskKey ink ≠ "" := by
  have hspecialty : ∀ key fallback, fallback ≠ "" → job.specialtyMaskKey key fallback ≠ "" := by
    intro key fallback hfallback
    unfold specialtyMaskKey
    dsimp only
    split_ifs with hblank
    · exact hfallback
    · exact hblank
  cases ink
  case white => exact hspecialty _ _ (by decide)
  case varnish => exact hspecialty _ _ (by decide)
  all_goals simp [inkMaskKey]

/-- The tone plane of an ink. -/
def inkTone (images : CmykImages) (loader : ExternalPlateLoader) : Ink → Bytes
  | .white => curved (job.toneRequest images) (·.lutW)
      (buildWhiteChannel fl (job.toneRequest images) loader images)
  | .varnish => curved (job.toneRequest images) (·.lutV)
      (buildVarnishChannel fl (job.toneRequest images) loader images)
  | ink => (inkPixels fl (job.toneRequest images) images).map (inkBuffer job.inkMode ink)

/-- The builder gives the tone planes of its inks. -/
theorem build_tone_channels_eq (images : CmykImages) (loader : ExternalPlateLoader) :
    buildToneChannels fl (job.toneRequest images) loader =
      some ((builderInks job.inkMode).map (job.inkTone fl images loader)) := by
  show some _ = some _
  simp only [tone_request_mode]
  unfold inkTone inkBuffer
  cases job.inkMode <;> rfl

/-- The tone plane of an ink has the size of the image. -/
theorem ink_tone_length (images : CmykImages) (loader : ExternalPlateLoader) (ink : Ink) :
    (job.inkTone fl images loader ink).length = images.width * images.height := by
  unfold inkTone
  split
  · exact (job.curved_length images _ _).trans (job.specialty_channel_length fl images loader _ _)
  · exact (job.curved_length images _ _).trans (job.specialty_channel_length fl images loader _ _)
  · rw [List.length_map, ink_pixels_length]

end PrintJobMultiInk

end PrintFlow
