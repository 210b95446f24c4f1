import PrintFlow.Rip.InkPresence

/-!
# When screening is monotone in the tone

The floor lifts a tone by an amount that falls as the tone rises. Where it falls by more than the
tone rises, a darker tone is lifted below a lighter one and prints less. `screening_monotone_iff`
says for which gates, ranges and heights of the floor this happens: the height must exceed the range
by two levels at least, and the gate must be low enough for two tones inside the range.
-/

namespace PrintFlow

open BoundedRasterPipeline Screening

namespace Screening

/-- The part of a tone above the gate, scaled to the full range. -/
def scaled (minTone tone : Nat) : Nat := (tone - minTone) * 255 / (255 - minTone)

/-- A scaled tone, lifted by the floor. -/
def lifted (range height effective : Nat) : Nat :=
  if 0 < range ∧ 0 < height ∧ effective < range then
    min 255 (effective + height * (range - effective) / range)
  else effective

theorem effective_tone_eq (minTone : Nat) (floorRange floorMax tone : UInt8) :
    effectiveTone minTone floorRange floorMax tone =
      lifted floorRange.toNat floorMax.toNat (scaled minTone tone.toNat) := rfl

theorem scaled_mono (minTone : Nat) {a b : Nat} (h : a ≤ b) :
    scaled minTone a ≤ scaled minTone b :=
  Nat.div_le_div_right (Nat.mul_le_mul_right 255 (Nat.sub_le_sub_right h minTone))

/-- Scaling does not shrink the part above the gate. -/
theorem le_scaled {minTone : Nat} (hgate : minTone < 255) (tone : Nat) :
    tone - minTone ≤ scaled minTone tone := by
  rw [scaled, Nat.le_div_iff_mul_le (by omega)]
  exact Nat.mul_le_mul_left _ (by omega)

theorem scaled_le {minTone tone : Nat} (hgate : minTone < 255) (htone : tone ≤ 255) :
    scaled minTone tone ≤ 255 := by
  refine Nat.div_le_of_le_mul ?_
  exact Nat.mul_le_mul_right 255 (by omega)

theorem lifted_le {range height effective : Nat} (h : effective ≤ 255) :
    lifted range height effective ≤ 255 := by
  unfold lifted
  split
  · exact Nat.min_le_left ..
  · exact h

/-- Above its range the floor does nothing. -/
theorem lifted_of_range_le {range height effective : Nat} (h : range ≤ effective) :
    lifted range height effective = effective :=
  if_neg (by omega)

/-- A floor that is at most as high as it is wide keeps the order of tones. -/
theorem lifted_mono {range height : Nat} (hflat : height ≤ range) {a b : Nat} (h : a ≤ b)
    (hb : b ≤ 255) : lifted range height a ≤ lifted range height b := by
  by_cases ha : 0 < range ∧ 0 < height ∧ a < range
  · obtain ⟨hrange, hheight, harange⟩ := ha
    rw [lifted, if_pos ⟨hrange, hheight, harange⟩]
    by_cases hbrange : b < range
    · rw [lifted, if_pos ⟨hrange, hheight, hbrange⟩]
      have hfall : height * (range - a) ≤ height * (range - b) + range * (b - a) := by
        have hsplit : range - a = (range - b) + (b - a) := by omega
        rw [hsplit, Nat.mul_add]
        exact Nat.add_le_add_left (Nat.mul_le_mul_right _ hflat) _
      have hdiv : height * (range - a) / range ≤ height * (range - b) / range + (b - a) :=
        calc height * (range - a) / range
            ≤ (height * (range - b) + range * (b - a)) / range := Nat.div_le_div_right hfall
          _ = height * (range - b) / range + (b - a) := Nat.add_mul_div_left _ _ hrange
      exact min_le_min_left 255 (by omega)
    · have hlift : height * (range - a) / range ≤ range - a := by
        refine Nat.div_le_of_le_mul ?_
        exact Nat.mul_le_mul_right _ hflat
      rw [lifted_of_range_le (Nat.le_of_not_lt hbrange)]
      exact (Nat.min_le_right ..).trans (by omega)
  · rw [lifted, if_neg ha]
    unfold lifted
    split
    · exact le_min (h.trans hb) (h.trans (Nat.le_add_right ..))
    · exact h

/-! ## Steep floors -/

/-- The number of gates, counted from zero, at which a floor reverses the order of two tones. -/
def reversingGates : Nat → Nat → Nat
  | 2, 4 | 2, 5 => 85
  | 2, 6 | 2, 7 | 2, 8 => 128
  | 3, 5 | 3, 6 | 3, 7 | 3, 8 => 128
  | 4, 6 | 4, 7 => 153
  | 4, 8 => 170
  | 5, 7 | 5, 8 => 170
  | 6, 8 => 183
  | _, _ => 0

/-- Whether the floor lifts a scaled tone at most as high as a later one. -/
def rises (range height low high : Nat) : Bool :=
  Nat.ble range low ||
    Nat.ble (low + height * (range - low) / range) (high + height * (range - high) / range)

/-- Whether the floor keeps the order of the six tones next to the gate. -/
def keepsOrder (range height minTone : Nat) : Bool :=
  (List.range' 1 6).all fun above ↦
    Nat.ble 255 (minTone + above) ||
      rises range height (scaled minTone (minTone + above)) (scaled minTone (minTone + above + 1))

/-- The ranges and heights of the floors that are higher than wide. -/
def steepFloors : List (Nat × Nat) :=
  [2, 3, 4, 5, 6, 7].flatMap fun range ↦ (List.range' (range + 1) (8 - range)).map (range, ·)

/-- The table of `reversingGates` is right at every gate. -/
theorem steep_floors_keep_order :
    (steepFloors.all fun floor ↦ (List.range 255).all fun minTone ↦
      keepsOrder floor.1 floor.2 minTone == Nat.ble (reversingGates floor.1 floor.2) minTone) =
        true := by
  decide +kernel

theorem keeps_order_eq {range height minTone : Nat} (hrange : 2 ≤ range) (hsteep : range < height)
    (hheight : height ≤ 8) (hgate : minTone < 255) :
    keepsOrder range height minTone = true ↔ reversingGates range height ≤ minTone := by
  have hfloor : (range, height) ∈ steepFloors := by
    refine List.mem_flatMap.mpr ⟨range, ?_, List.mem_map.mpr ⟨height, ?_, rfl⟩⟩
    · simp only [List.mem_cons]
      omega
    · rw [List.mem_range'_1]
      omega
  have htable := List.all_eq_true.mp steep_floors_keep_order _ hfloor
  have hentry := List.all_eq_true.mp htable minTone (List.mem_range.mpr hgate)
  rw [eq_of_beq hentry, Nat.ble_eq]

/-- A small floor, in one formula for the tones inside and above its range. -/
theorem lifted_small {range height effective : Nat} (hrange : 0 < range) (hheight : 0 < height)
    (hsmall : range + height ≤ 255) :
    lifted range height effective = effective + height * (range - effective) / range := by
  unfold lifted
  by_cases hinside : effective < range
  · have hlift : height * (range - effective) / range ≤ height := by
      refine Nat.div_le_of_le_mul ?_
      rw [Nat.mul_comm range]
      exact Nat.mul_le_mul_left _ (Nat.sub_le ..)
    rw [if_pos ⟨hrange, hheight, hinside⟩]
    exact Nat.min_eq_right (by omega)
  · rw [if_neg (by omega), Nat.sub_eq_zero_of_le (Nat.le_of_not_lt hinside), Nat.mul_zero,
      Nat.zero_div, Nat.add_zero]

theorem rises_iff {range height low high : Nat} (hrange : 0 < range) (hheight : 0 < height)
    (hsmall : range + height ≤ 255) (horder : low ≤ high) :
    rises range height low high = true ↔ lifted range height low ≤ lifted range height high := by
  rw [rises, Bool.or_eq_true, Nat.ble_eq, Nat.ble_eq, lifted_small hrange hheight hsmall,
    lifted_small hrange hheight hsmall]
  constructor
  · rintro (habove | hrises)
    · rw [Nat.sub_eq_zero_of_le habove, Nat.mul_zero, Nat.zero_div, Nat.add_zero]
      exact horder.trans (Nat.le_add_right ..)
    · exact hrises
  · exact .inr

/-- Above the range of the floor the order is kept. -/
theorem lifted_scaled_mono {range height minTone tone : Nat} (h : range ≤ scaled minTone tone) :
    lifted range height (scaled minTone tone) ≤ lifted range height (scaled minTone (tone + 1)) := by
  have hnext := scaled_mono minTone (Nat.le_succ tone)
  rw [lifted_of_range_le h, lifted_of_range_le (h.trans hnext)]
  exact hnext

/-- The floor lifts no tone above the next one. -/
def RisesAll (range height minTone : Nat) : Prop :=
  ∀ tone, minTone < tone → tone < 255 →
    lifted range height (scaled minTone tone) ≤ lifted range height (scaled minTone (tone + 1))

/-- From the seventh tone on the scaled tone is above a steep floor. -/
theorem keeps_order_iff {range height minTone : Nat} (hrange : 2 ≤ range) (hsteep : range < height)
    (hheight : height ≤ 8) (hgate : minTone < 255) :
    keepsOrder range height minTone = true ↔ RisesAll range height minTone := by
  have hiff : ∀ tone, rises range height (scaled minTone tone) (scaled minTone (tone + 1)) = true ↔
      lifted range height (scaled minTone tone) ≤
        lifted range height (scaled minTone (tone + 1)) := by
    intro tone
    exact rises_iff (by omega) (by omega) (by omega) (scaled_mono minTone (Nat.le_succ tone))
  constructor
  · intro hkeeps tone habove htone
    by_cases hnear : tone - minTone ≤ 6
    · have hentry := List.all_eq_true.mp hkeeps (tone - minTone)
        (by rw [List.mem_range'_1]; omega)
      rw [Nat.add_sub_cancel' (Nat.le_of_lt habove), Bool.or_eq_true, Nat.ble_eq] at hentry
      rcases hentry with hlast | hrises
      · omega
      · exact (hiff tone).mp hrises
    · have hfar := le_scaled hgate tone
      exact lifted_scaled_mono (by omega)
  · intro hrises
    refine List.all_eq_true.mpr fun above habove ↦ ?_
    rw [List.mem_range'_1] at habove
    rw [Bool.or_eq_true, Nat.ble_eq]
    by_cases hlast : 255 ≤ minTone + above
    · exact .inl hlast
    · exact .inr ((hiff _).mpr (hrises _ (by omega) (by omega)))

/-- Only a floor that is higher than wide can reverse tones, and only from a range of two on. -/
theorem reversing_gates_eq_zero {range height : Nat} (h : height ≤ range ∨ range ≤ 1) :
    reversingGates range height = 0 := by
  unfold reversingGates
  split <;> omega

theorem rises_all_iff {range height minTone : Nat} (hheight : height ≤ 8) (hgate : minTone < 255) :
    RisesAll range height minTone ↔ reversingGates range height ≤ minTone := by
  by_cases hflat : height ≤ range
  · rw [reversing_gates_eq_zero (.inl hflat)]
    refine iff_of_true (fun tone _ htone ↦ ?_) (Nat.zero_le _)
    exact lifted_mono hflat (scaled_mono minTone (Nat.le_succ tone)) (scaled_le hgate htone)
  by_cases hnarrow : range ≤ 1
  · rw [reversing_gates_eq_zero (.inr hnarrow)]
    refine iff_of_true (fun tone habove _ ↦ ?_) (Nat.zero_le _)
    have hscaled := le_scaled hgate tone
    exact lifted_scaled_mono (by omega)
  · rw [← keeps_order_iff (by omega) (by omega) hheight hgate]
    exact keeps_order_eq (by omega) (by omega) hheight hgate

/-! ## Printing -/

/-- The effective tone does not fall above the gate. -/
def EffectiveMonotone (minTone : Nat) (floorRange floorMax : UInt8) : Prop :=
  ∀ a b : UInt8, minTone < a.toNat → a ≤ b →
    effectiveTone minTone floorRange floorMax a ≤ effectiveTone minTone floorRange floorMax b

/-- A tone passes the gate and, lifted by the floor, exceeds a sample of the mask. -/
def Prints (minTone : Nat) (floorRange floorMax threshold tone : UInt8) : Prop :=
  minTone < tone.toNat ∧ threshold.toNat < effectiveTone minTone floorRange floorMax tone

/-- The floor reverses no tones at this gate. -/
def Steady (minTone : Nat) (floorRange floorMax : UInt8) : Prop :=
  reversingGates floorRange.toNat floorMax.toNat ≤ minTone

section Printing

variable {minTone : Nat} {floorRange floorMax : UInt8}

/-- Each tone against the next one is each tone against all later ones. -/
theorem effective_monotone_iff (hmax : floorMax ≤ 8) (hgate : minTone < 255) :
    EffectiveMonotone minTone floorRange floorMax ↔ Steady minTone floorRange floorMax := by
  rw [Steady, ← rises_all_iff (UInt8.le_iff_toNat_le.mp hmax) hgate]
  constructor
  · intro hmono tone habove htone
    have hbyte : ∀ n ≤ 255, (UInt8.ofNat n).toNat = n :=
      fun n hn ↦ UInt8.toNat_ofNat_of_lt' (Nat.lt_succ_of_le hn)
    have hlow := hbyte tone (by omega)
    have hhigh := hbyte (tone + 1) (by omega)
    have hstep := hmono (.ofNat tone) (.ofNat (tone + 1)) (by omega)
      (UInt8.le_iff_toNat_le.mpr (by omega))
    rwa [effective_tone_eq, effective_tone_eq, hlow, hhigh] at hstep
  · intro hrises a b ha hab
    have hlast := b.toNat_lt
    rw [effective_tone_eq, effective_tone_eq]
    have horder := UInt8.le_iff_toNat_le.mp hab
    generalize b.toNat = tone at horder hlast
    induction tone, horder using Nat.le_induction with
    | base => exact Nat.le_refl _
    | succ tone htone ih => exact (ih (by omega)).trans (hrises tone (by omega) (by omega))

/-- A fall of the effective tone shows at the sample it falls to. -/
theorem prints_monotone_iff (hgate : minTone < 255) :
    (∀ threshold a b, a ≤ b → Prints minTone floorRange floorMax threshold a →
        Prints minTone floorRange floorMax threshold b) ↔
      EffectiveMonotone minTone floorRange floorMax := by
  constructor
  · intro hprints a b ha hab
    refine Nat.le_of_not_lt fun hfall ↦ ?_
    have hhigh : effectiveTone minTone floorRange floorMax a ≤ 255 :=
      lifted_le (scaled_le hgate (Nat.lt_succ_iff.mp a.toNat_lt))
    have hsample : (UInt8.ofNat (effectiveTone minTone floorRange floorMax b)).toNat =
        effectiveTone minTone floorRange floorMax b := UInt8.toNat_ofNat_of_lt' (by
      show _ < 256
      omega)
    have hprinted := hprints _ a b hab ⟨ha, hsample.trans_lt hfall⟩
    exact absurd (hsample ▸ hprinted.2) (Nat.lt_irrefl _)
  · intro hmono threshold a b hab ⟨ha, hthreshold⟩
    exact ⟨ha.trans_le (UInt8.le_iff_toNat_le.mp hab), hthreshold.trans_le (hmono a b ha hab)⟩

end Printing

end Screening

theorem clamp_gate_lt (threshold : Int) : (clamp threshold 0 254).toNat < 255 := by
  have hclamp : 0 ≤ clamp threshold 0 254 ∧ clamp threshold 0 254 ≤ 254 := clamp_mem (by decide)
  omega

/-- A mask of one sample. -/
def singleMask (sample : UInt8) : Mask where
  width := 1
  height := 1
  data := [sample]
  width_pos := Nat.one_pos
  height_pos := Nat.one_pos
  data_length := rfl

namespace MultiInkScreenEngine

variable {V : Type} [QVariantApi V] (req : ScreenRequest V) (channelReq : ChannelRequest)

/-- In the full-frame engine a darker tone prints wherever a lighter one does. -/
def ScreensMonotone : Prop :=
  ∀ (mask : Mask) (ch x y : Nat) (a b : UInt8), a ≤ b →
    (ditherPixel req channelReq mask ch x y a).dithered ≠ 0 →
      (ditherPixel req channelReq mask ch x y b).dithered ≠ 0

/-- The gate of a channel, as the engine applies it. -/
def gate : Nat := (clamp (minInkThreshold req channelReq) 0 254).toNat

theorem dithered_ne_zero_iff (mask : Mask) (ch x y : Nat) (u : UInt8) :
    (ditherPixel req channelReq mask ch x y u).dithered ≠ 0 ↔
      Prints (gate req channelReq) (floorRange req channelReq) (floorMax req channelReq)
        (sampleMask req mask ch x y) u := by
  unfold ditherPixel Prints gate
  dsimp only
  by_cases hgate : u.toNat ≤ (clamp (minInkThreshold req channelReq) 0 254).toNat
  · rw [if_pos hgate]
    exact ⟨fun h ↦ absurd rfl h, fun h ↦ absurd h.1 (Nat.not_lt.mpr hgate)⟩
  · rw [if_neg hgate]
    dsimp only
    by_cases hmask : (sampleMask req mask ch x y).toNat <
        effectiveTone (clamp (minInkThreshold req channelReq) 0 254).toNat
          (floorRange req channelReq) (floorMax req channelReq) u
    · rw [if_pos hmask]
      exact iff_of_true (by decide) ⟨Nat.lt_of_not_le hgate, hmask⟩
    · rw [if_neg hmask]
      exact ⟨fun h ↦ absurd rfl h, fun h ↦ absurd h.2 hmask⟩

/-- The engine reaches every sample. -/
theorem screens_monotone_iff :
    ScreensMonotone req channelReq ↔
      EffectiveMonotone (gate req channelReq) (floorRange req channelReq)
        (floorMax req channelReq) := by
  have hgate : gate req channelReq < 255 := clamp_gate_lt _
  rw [← prints_monotone_iff hgate]
  constructor
  · intro hscreens threshold a b hab
    have hsample : sampleMask req (singleMask threshold) 0 0 0 = threshold := by
      rw [sampleMask, wrap_eq, wrap_eq]
      show [threshold][_ % 1 * 1 + _ % 1]! = threshold
      rw [Nat.mod_one, Nat.mod_one]
      rfl
    have hstep := hscreens (singleMask threshold) 0 0 0 a b hab
    rwa [dithered_ne_zero_iff, dithered_ne_zero_iff, hsample] at hstep
  · intro hprints mask ch x y a b hab
    rw [dithered_ne_zero_iff, dithered_ne_zero_iff]
    exact hprints _ a b hab

end MultiInkScreenEngine

namespace BoundedRasterPipeline

variable (config : ScreenChannel)

/-- In the bounded pipeline a darker tone prints wherever a lighter one does. -/
def ScreensMonotone : Prop :=
  ∀ (maskWidth offsetX : Nat) (maskRow : Bytes) (x y : Nat) (a b : UInt8), a ≤ b →
    (screenPixel config maskWidth offsetX maskRow x y a).2 ≠ 0 →
      (screenPixel config maskWidth offsetX maskRow x y b).2 ≠ 0

/-- The gate of a channel, as the pipeline applies it. -/
def gate : Nat := (clamp config.minInkThreshold 0 254).toNat

/-- The pipeline reaches every sample. -/
theorem screens_monotone_iff :
    ScreensMonotone config ↔
      EffectiveMonotone (gate config) config.floorRange config.floorMax := by
  have hgate : gate config < 255 := clamp_gate_lt _
  rw [← prints_monotone_iff hgate]
  have hpixel : ∀ (maskWidth offsetX : Nat) (maskRow : Bytes) (x y : Nat) (tone : UInt8),
      (screenPixel config maskWidth offsetX maskRow x y tone).2 ≠ 0 ↔
        Prints (gate config) config.floorRange config.floorMax
          maskRow[wrap (x + offsetX) maskWidth]! tone :=
    fun maskWidth offsetX maskRow x y tone ↦
      (screen_pixel_ink config maskWidth offsetX maskRow x y tone).1
  constructor
  · intro hscreens threshold a b hab
    have hstep := hscreens 1 0 [threshold] 0 0 a b hab
    rwa [hpixel, hpixel] at hstep
  · intro hprints maskWidth offsetX maskRow x y a b hab
    rw [hpixel, hpixel]
    exact hprints _ a b hab

end BoundedRasterPipeline

/-- In both programs, for every gate and every range and height of the floor that can be set,
screening is monotone in the tone, and the effective tone does not fall, exactly when the floor
reverses no tones at the gate. -/
theorem screening_monotone_iff {V : Type} [QVariantApi V]
    (req : MultiInkScreenEngine.ScreenRequest V)
    (channelReq : MultiInkScreenEngine.ChannelRequest) (config : ScreenChannel)
    (hengine : MultiInkScreenEngine.floorMax req channelReq ≤ 8) (hpipeline : config.floorMax ≤ 8) :
    ((MultiInkScreenEngine.ScreensMonotone req channelReq ↔
        Steady (MultiInkScreenEngine.gate req channelReq)
          (MultiInkScreenEngine.floorRange req channelReq)
          (MultiInkScreenEngine.floorMax req channelReq)) ∧
      (EffectiveMonotone (MultiInkScreenEngine.gate req channelReq)
          (MultiInkScreenEngine.floorRange req channelReq)
          (MultiInkScreenEngine.floorMax req channelReq) ↔
        Steady (MultiInkScreenEngine.gate req channelReq)
          (MultiInkScreenEngine.floorRange req channelReq)
          (MultiInkScreenEngine.floorMax req channelReq))) ∧
    (BoundedRasterPipeline.ScreensMonotone config ↔
        Steady (BoundedRasterPipeline.gate config) config.floorRange config.floorMax) ∧
      (EffectiveMonotone (BoundedRasterPipeline.gate config) config.floorRange config.floorMax ↔
        Steady (BoundedRasterPipeline.gate config) config.floorRange config.floorMax) := by
  have hfull : EffectiveMonotone (MultiInkScreenEngine.gate req channelReq)
      (MultiInkScreenEngine.floorRange req channelReq) _ ↔ Steady _ _ _ :=
    effective_monotone_iff hengine (clamp_gate_lt _)
  have hstrip : EffectiveMonotone (BoundedRasterPipeline.gate config) config.floorRange _ ↔
      Steady _ _ _ := effective_monotone_iff hpipeline (clamp_gate_lt _)
  exact ⟨⟨(MultiInkScreenEngine.screens_monotone_iff req channelReq).trans hfull, hfull⟩,
    (BoundedRasterPipeline.screens_monotone_iff config).trans hstrip, hstrip⟩

/-- A floor that lifts by eight levels within a range of two. -/
def steepChannel : ScreenChannel where
  maskPath := "c.png"
  minInkThreshold := 0
  floorRange := 2
  floorMax := 8

/-- The same floor in a request to the engine. -/
def steepRequest : MultiInkScreenEngine.ScreenRequest Variant where
  width := 1
  height := 1
  screenSeed := 7
  modeParams := variantMap []
  dotStrategy := { minInkThreshold := 0, floorRangeCMY := 2, floorMaxCMY := 8 }
  channels := [{ maskKey := "c", toneBytes := some [1] }]

/-- Tone one is lifted to five and prints over a sample of three; tone two stays and does not. -/
theorem steep_floor_reverses :
    effectiveTone 0 2 8 1 = 5 ∧ effectiveTone 0 2 8 2 = 2 ∧
      (screenPixel steepChannel 1 0 [3] 0 0 1).2 ≠ 0 ∧
      (screenPixel steepChannel 1 0 [3] 0 0 2).2 = 0 ∧
      (MultiInkScreenEngine.ditherPixel steepRequest { maskKey := "c" } (singleMask 3) 0 0 0
        1).dithered ≠ 0 ∧
      (MultiInkScreenEngine.ditherPixel steepRequest { maskKey := "c" } (singleMask 3) 0 0 0
        2).dithered = 0 := by
  decide

theorem screening_monotone_iff_steep :
    ((MultiInkScreenEngine.ScreensMonotone steepRequest { maskKey := "c" } ↔ Steady 0 2 8) ∧
      (EffectiveMonotone 0 2 8 ↔ Steady 0 2 8)) ∧
    (BoundedRasterPipeline.ScreensMonotone steepChannel ↔ Steady 0 2 8) ∧
      (EffectiveMonotone 0 2 8 ↔ Steady 0 2 8) :=
  screening_monotone_iff steepRequest { maskKey := "c" } steepChannel (by decide) (by decide)

end PrintFlow
