import Mathlib.Data.List.Forall2
import PrintFlow.Rip.MultiInkToneBuilder

/-!
# The arithmetic of the neutral transfer

`applyGcrNeutralTransfer` works in 8 and 16 bits. `neutral_transfer` compares each of its pixels
with the same computation over unbounded integers, and says what the transfer keeps of a pixel.
-/

namespace PrintFlow.MultiInkToneBuilder

/-! ## The computation over the integers -/

/-- The values the loop computes for a pixel that it does not skip. -/
structure TransferValues where
  chroma : ℤ
  pull : ℤ
  pull8 : ℤ
  c : ℤ
  m : ℤ
  y : ℤ
  kAdd : ℤ
  kSum : ℤ
  kNew : ℤ

/-- These values over unbounded integers. -/
def transferValues (p : GcrParams) (pixel : Cmyk) : TransferValues :=
  let neutral : ℤ := (minCMY pixel.c pixel.m pixel.y).toNat
  let pull : ℤ := neutral * p.gcrStrength.toNat / 255
  let pull8 : ℤ := min pull neutral
  let kAdd : ℤ := pull8 * p.kGain.toNat / 255
  let kSum : ℤ := pixel.k.toNat + kAdd
  let capped : ℤ := min 255 kSum
  { chroma := (maxCMY pixel.c pixel.m pixel.y).toNat - neutral
    pull := pull
    pull8 := pull8
    c := pixel.c.toNat - pull8
    m := pixel.m.toNat - pull8
    y := pixel.y.toNat - pull8
    kAdd := kAdd
    kSum := kSum
    kNew := if capped < p.kMinInNeutral.toNat ∧ 0 < neutral then p.kMinInNeutral.toNat else capped }

/-- A value fits an unsigned type of some bits. -/
def FitsBits (bits : Nat) (value : ℤ) : Prop := 0 ≤ value ∧ value < 2 ^ bits

/-- Every value fits the type that the source stores it in. -/
structure TransferValues.Fit (values : TransferValues) : Prop where
  chroma : FitsBits 8 values.chroma
  pull : FitsBits 16 values.pull
  pull8 : FitsBits 8 values.pull8
  c : FitsBits 8 values.c
  m : FitsBits 8 values.m
  y : FitsBits 8 values.y
  kAdd : FitsBits 16 values.kAdd
  kSum : FitsBits 16 values.kSum
  kNew : FitsBits 8 values.kNew

theorem byte_min_to_nat (a b : UInt8) : (min a b).toNat = min a.toNat b.toNat := by
  show (if a ≤ b then a else b).toNat = _
  split_ifs with h
  · exact (min_eq_left (UInt8.le_iff_toNat_le.mp h)).symm
  · exact (min_eq_right (Nat.le_of_not_le (mt UInt8.le_iff_toNat_le.mpr h))).symm

theorem byte_max_to_nat (a b : UInt8) : (max a b).toNat = max a.toNat b.toNat := by
  show (if a ≤ b then b else a).toNat = _
  split_ifs with h
  · exact (max_eq_right (UInt8.le_iff_toNat_le.mp h)).symm
  · exact (max_eq_left (Nat.le_of_not_le (mt UInt8.le_iff_toNat_le.mpr h))).symm

/-- The smallest of three tones is below each of them, and below the largest. -/
theorem min_cmy_le (c m y : UInt8) :
    (minCMY c m y).toNat ≤ c.toNat ∧ (minCMY c m y).toNat ≤ m.toNat ∧
      (minCMY c m y).toNat ≤ y.toNat ∧ (minCMY c m y).toNat ≤ (maxCMY c m y).toNat := by
  rw [minCMY, maxCMY, byte_min_to_nat, byte_min_to_nat, byte_max_to_nat, byte_max_to_nat]
  omega

/-- A part of a tone, in 255ths, is no larger than the tone. -/
theorem part_of_tone {tone : ℤ} (htone : 0 ≤ tone) (strength : UInt8) :
    0 ≤ tone * strength.toNat / 255 ∧ tone * strength.toNat / 255 ≤ tone := by
  have hstrength : (strength.toNat : ℤ) ≤ 255 := by
    have := strength.toNat_lt
    omega
  have hproduct : tone * strength.toNat ≤ tone * 255 := mul_le_mul_of_nonneg_left hstrength htone
  have hpositive : 0 ≤ tone * strength.toNat := mul_nonneg htone (Int.natCast_nonneg _)
  omega

/-- What is pulled out of a neutral pixel and what is added to its black. -/
theorem pull_mem (p : GcrParams) (pixel : Cmyk) :
    0 ≤ (transferValues p pixel).pull8 ∧
      (transferValues p pixel).pull8 = (transferValues p pixel).pull ∧
      (transferValues p pixel).pull8 ≤ (minCMY pixel.c pixel.m pixel.y).toNat ∧
      0 ≤ (transferValues p pixel).kAdd ∧
      (transferValues p pixel).kAdd ≤ (transferValues p pixel).pull8 := by
  have hpull := part_of_tone (Int.natCast_nonneg (minCMY pixel.c pixel.m pixel.y).toNat)
    p.gcrStrength
  have hpull8 : (transferValues p pixel).pull8 = (transferValues p pixel).pull :=
    min_eq_left hpull.2
  have hpositive : 0 ≤ (transferValues p pixel).pull8 := hpull8 ▸ hpull.1
  have hadd := part_of_tone hpositive p.kGain
  exact ⟨hpositive, hpull8, hpull8 ▸ hpull.2, hadd⟩

/-- Nothing wraps around. -/
theorem transfer_values_fit (p : GcrParams) (pixel : Cmyk) : (transferValues p pixel).Fit := by
  obtain ⟨hc, hm, hy, hmax⟩ := min_cmy_le pixel.c pixel.m pixel.y
  obtain ⟨hpositive, hequal, hpull, haddPositive, hadd⟩ := pull_mem p pixel
  have hmaxlt := (maxCMY pixel.c pixel.m pixel.y).toNat_lt
  have hclt := pixel.c.toNat_lt
  have hmlt := pixel.m.toNat_lt
  have hylt := pixel.y.toNat_lt
  have hklt := pixel.k.toNat_lt
  have hminimum := p.kMinInNeutral.toNat_lt
  constructor
  case chroma =>
      show FitsBits 8 ((maxCMY pixel.c pixel.m pixel.y).toNat - (minCMY pixel.c pixel.m pixel.y).toNat)
      unfold FitsBits
      omega
  case pull | pull8 | kAdd =>
      unfold FitsBits
      omega
  case c =>
      show FitsBits 8 (pixel.c.toNat - (transferValues p pixel).pull8)
      unfold FitsBits
      omega
  case m =>
      show FitsBits 8 (pixel.m.toNat - (transferValues p pixel).pull8)
      unfold FitsBits
      omega
  case y =>
      show FitsBits 8 (pixel.y.toNat - (transferValues p pixel).pull8)
      unfold FitsBits
      omega
  case kSum =>
      show FitsBits 16 (pixel.k.toNat + (transferValues p pixel).kAdd)
      unfold FitsBits
      omega
  case kNew =>
      show FitsBits 8 (if min 255 (pixel.k.toNat + (transferValues p pixel).kAdd) <
        p.kMinInNeutral.toNat ∧ (0 : ℤ) < (minCMY pixel.c pixel.m pixel.y).toNat then
          (p.kMinInNeutral.toNat : ℤ) else min 255 (pixel.k.toNat + (transferValues p pixel).kAdd))
      unfold FitsBits
      split_ifs <;> omega

/-! ## The bytes -/

theorem word_min_to_nat (a b : UInt16) : (min a b).toNat = min a.toNat b.toNat := by
  show (if a ≤ b then a else b).toNat = _
  split_ifs with h
  · exact (min_eq_left (UInt16.le_iff_toNat_le.mp h)).symm
  · exact (min_eq_right (Nat.le_of_not_le (mt UInt16.le_iff_toNat_le.mpr h))).symm

theorem byte_part_le (tone strength : UInt8) : tone.toNat * strength.toNat / 255 ≤ tone.toNat := by
  have hpart := (part_of_tone (Int.natCast_nonneg tone.toNat) strength).2
  exact_mod_cast hpart

/-- The byte pulled out of a neutral pixel. -/
theorem pulled_to_nat (neutral strength : UInt8) :
    (min (UInt16.ofNat (neutral.toNat * strength.toNat / 255)) neutral.toUInt16).toUInt8.toNat =
      neutral.toNat * strength.toNat / 255 := by
  have hpart := byte_part_le neutral strength
  have hlt := neutral.toNat_lt
  rw [UInt16.toNat_toUInt8, word_min_to_nat, UInt16.toNat_ofNat', UInt8.toNat_toUInt16]
  omega

/-- The black of a neutral pixel: what is added to it, and the minimum it is raised to. -/
theorem black_to_nat (p : GcrParams) (neutral pull8 k : UInt8) {kAdd : ℤ}
    (hadd : kAdd = (pull8.toNat * p.kGain.toNat / 255 : ℕ)) :
    let sum := min 255 (UInt16.ofNat (k.toNat +
      (UInt16.ofNat (pull8.toNat * p.kGain.toNat / 255)).toNat))
    ((if sum < p.kMinInNeutral.toUInt16 ∧ 0 < neutral then p.kMinInNeutral.toUInt16
        else sum).toUInt8.toNat : ℤ) =
      if min 255 (k.toNat + kAdd) < p.kMinInNeutral.toNat ∧ (0 : ℤ) < neutral.toNat then
        (p.kMinInNeutral.toNat : ℤ)
      else min 255 (k.toNat + kAdd) := by
  intro sum
  have hpart := byte_part_le pull8 p.kGain
  have hpull := pull8.toNat_lt
  have hk := k.toNat_lt
  have hminimum := p.kMinInNeutral.toNat_lt
  have hsum : (sum.toNat : ℤ) = min 255 (k.toNat + kAdd) := by
    show ((min 255 (UInt16.ofNat (k.toNat +
      (UInt16.ofNat (pull8.toNat * p.kGain.toNat / 255)).toNat))).toNat : ℤ) = _
    rw [word_min_to_nat, UInt16.toNat_ofNat', UInt16.toNat_ofNat',
      Nat.mod_eq_of_lt (by omega : pull8.toNat * p.kGain.toNat / 255 < 2 ^ 16),
      Nat.mod_eq_of_lt (by omega : k.toNat + pull8.toNat * p.kGain.toNat / 255 < 2 ^ 16), hadd]
    push_cast
    rfl
  have hraised : (sum < p.kMinInNeutral.toUInt16 ∧ 0 < neutral) ↔
      min 255 (k.toNat + kAdd) < p.kMinInNeutral.toNat ∧ (0 : ℤ) < neutral.toNat := by
    rw [← hsum, UInt16.lt_iff_toNat_lt, UInt8.lt_iff_toNat_lt, UInt8.toNat_toUInt16]
    show sum.toNat < _ ∧ 0 < _ ↔ _
    omega
  by_cases hlow : sum < p.kMinInNeutral.toUInt16 ∧ 0 < neutral
  · rw [if_pos hlow, if_pos (hraised.mp hlow), UInt16.toNat_toUInt8, UInt8.toNat_toUInt16]
    omega
  · rw [if_neg hlow, if_neg (mt hraised.mpr hlow), ← hsum, UInt16.toNat_toUInt8]
    omega

/-- The bytes of a pixel that is not skipped are these values. -/
theorem transfer_neutral_exact {p : GcrParams} {pixel : Cmyk}
    (h : inNeutral p pixel.c pixel.m pixel.y = true) :
    ((transferNeutral p pixel).c.toNat : ℤ) = (transferValues p pixel).c ∧
      ((transferNeutral p pixel).m.toNat : ℤ) = (transferValues p pixel).m ∧
      ((transferNeutral p pixel).y.toNat : ℤ) = (transferValues p pixel).y ∧
      ((transferNeutral p pixel).k.toNat : ℤ) = (transferValues p pixel).kNew := by
  obtain ⟨hc, hm, hy, -⟩ := min_cmy_le pixel.c pixel.m pixel.y
  obtain ⟨-, hequal, -, -, -⟩ := pull_mem p pixel
  have hpart := byte_part_le (minCMY pixel.c pixel.m pixel.y) p.gcrStrength
  have hpulled := pulled_to_nat (minCMY pixel.c pixel.m pixel.y) p.gcrStrength
  rw [transferNeutral, if_pos h]
  dsimp only
  generalize (min (UInt16.ofNat ((minCMY pixel.c pixel.m pixel.y).toNat * p.gcrStrength.toNat / 255))
    (minCMY pixel.c pixel.m pixel.y).toUInt16).toUInt8 = pull8 at hpulled ⊢
  have hvalue : (transferValues p pixel).pull8 = (pull8.toNat : ℤ) := by
    rw [hequal, hpulled, Int.natCast_ediv, Int.natCast_mul]
    rfl
  have hfewer : ∀ tone : UInt8, (minCMY pixel.c pixel.m pixel.y).toNat ≤ tone.toNat →
      ((tone - pull8).toNat : ℤ) = tone.toNat - (transferValues p pixel).pull8 := by
    intro tone htone
    have hle : pull8.toNat ≤ tone.toNat := by omega
    rw [UInt8.toNat_sub_of_le _ _ (UInt8.le_iff_toNat_le.mpr hle), hvalue]
    omega
  refine ⟨hfewer _ hc, hfewer _ hm, hfewer _ hy, black_to_nat p _ pull8 pixel.k ?_⟩
  show (transferValues p pixel).pull8 * p.kGain.toNat / 255 = _
  rw [hvalue, Int.natCast_ediv, Int.natCast_mul]
  rfl

/-- The pixels that are not skipped, over the integers. -/
theorem in_neutral_iff (p : GcrParams) (pixel : Cmyk) :
    inNeutral p pixel.c pixel.m pixel.y = true ↔
      (transferValues p pixel).chroma ≤ p.neutralGate.toNat ∧
        maxCMY pixel.c pixel.m pixel.y ≤ p.gcrMaxTone := by
  obtain ⟨-, -, -, hmax⟩ := min_cmy_le pixel.c pixel.m pixel.y
  rw [inNeutral, Bool.and_eq_true, decide_eq_true_eq, decide_eq_true_eq]
  refine and_congr_left fun _ ↦ ?_
  rw [UInt8.le_iff_toNat_le, UInt8.toNat_sub_of_le _ _ (UInt8.le_iff_toNat_le.mpr hmax)]
  show _ ↔ ((maxCMY pixel.c pixel.m pixel.y).toNat : ℤ) - (minCMY pixel.c pixel.m pixel.y).toNat ≤ _
  omega

/-! ## What the transfer keeps -/

/-- What the transfer makes of a pixel. -/
structure Transferred (p : GcrParams) (before after : Cmyk) : Prop where
  fit : (transferValues p before).Fit
  exact : p.enabled = true → (transferValues p before).chroma ≤ p.neutralGate.toNat →
    maxCMY before.c before.m before.y ≤ p.gcrMaxTone →
    (after.c.toNat : ℤ) = (transferValues p before).c ∧
      (after.m.toNat : ℤ) = (transferValues p before).m ∧
      (after.y.toNat : ℤ) = (transferValues p before).y ∧
      (after.k.toNat : ℤ) = (transferValues p before).kNew
  c_le : after.c ≤ before.c
  m_le : after.m ≤ before.m
  y_le : after.y ≤ before.y
  k_ge : before.k ≤ after.k
  c_sub_m : (after.c.toNat : ℤ) - after.m.toNat = before.c.toNat - before.m.toNat
  m_sub_y : (after.m.toNat : ℤ) - after.y.toNat = before.m.toNat - before.y.toNat
  c_sub_y : (after.c.toNat : ℤ) - after.y.toNat = before.c.toNat - before.y.toNat
  colourless : minCMY before.c before.m before.y = 0 → after = before
  chromatic : p.neutralGate.toNat < (transferValues p before).chroma → after = before
  dark : p.gcrMaxTone < maxCMY before.c before.m before.y → after = before

/-- A pixel that the transfer leaves alone. -/
theorem transferred_same {p : GcrParams} {pixel : Cmyk}
    (h : p.enabled = false ∨ inNeutral p pixel.c pixel.m pixel.y = false) :
    Transferred p pixel pixel where
  fit := transfer_values_fit p pixel
  exact := by
    intro henabled hchroma htone
    have hneutral := (in_neutral_iff p pixel).mpr ⟨hchroma, htone⟩
    rcases h with h | h
    · exact absurd (henabled.symm.trans h) (by decide)
    · exact absurd (hneutral.symm.trans h) (by decide)
  c_le := UInt8.le_refl _
  m_le := UInt8.le_refl _
  y_le := UInt8.le_refl _
  k_ge := UInt8.le_refl _
  c_sub_m := rfl
  m_sub_y := rfl
  c_sub_y := rfl
  colourless _ := rfl
  chromatic _ := rfl
  dark _ := rfl

/-- The new black is no lower than the old one. -/
theorem k_le_k_new (p : GcrParams) (pixel : Cmyk) :
    (pixel.k.toNat : ℤ) ≤ (transferValues p pixel).kNew := by
  obtain ⟨-, -, -, hadd, -⟩ := pull_mem p pixel
  have hk := pixel.k.toNat_lt
  show (pixel.k.toNat : ℤ) ≤ (if min 255 (pixel.k.toNat + (transferValues p pixel).kAdd) <
    p.kMinInNeutral.toNat ∧ (0 : ℤ) < (minCMY pixel.c pixel.m pixel.y).toNat then
      (p.kMinInNeutral.toNat : ℤ) else min 255 (pixel.k.toNat + (transferValues p pixel).kAdd))
  split_ifs <;> omega

/-- Without a neutral part nothing is moved to black. -/
theorem colourless_values {p : GcrParams} {pixel : Cmyk}
    (h : minCMY pixel.c pixel.m pixel.y = 0) :
    (transferValues p pixel).pull8 = 0 ∧ (transferValues p pixel).kNew = pixel.k.toNat := by
  obtain ⟨hpositive, -, hpull, haddPositive, hadd⟩ := pull_mem p pixel
  have hzero : ((minCMY pixel.c pixel.m pixel.y).toNat : ℤ) = 0 := by rw [h]; rfl
  have hk := pixel.k.toNat_lt
  refine ⟨by omega, ?_⟩
  show (if min 255 (pixel.k.toNat + (transferValues p pixel).kAdd) <
    p.kMinInNeutral.toNat ∧ (0 : ℤ) < (minCMY pixel.c pixel.m pixel.y).toNat then
      (p.kMinInNeutral.toNat : ℤ) else min 255 (pixel.k.toNat + (transferValues p pixel).kAdd)) = _
  rw [if_neg (by omega)]
  omega

/-- A pixel that the loop does not skip. -/
theorem transferred_neutral {p : GcrParams} {pixel : Cmyk}
    (h : inNeutral p pixel.c pixel.m pixel.y = true) :
    Transferred p pixel (transferNeutral p pixel) := by
  obtain ⟨hc, hm, hy, hk⟩ := transfer_neutral_exact h
  obtain ⟨hchroma, htone⟩ := (in_neutral_iff p pixel).mp h
  obtain ⟨hpull, -, -, -, -⟩ := pull_mem p pixel
  -- Cyan, magenta and yellow lose the same amount.
  have hcyan : ((transferNeutral p pixel).c.toNat : ℤ) =
      pixel.c.toNat - (transferValues p pixel).pull8 := hc
  have hmagenta : ((transferNeutral p pixel).m.toNat : ℤ) =
      pixel.m.toNat - (transferValues p pixel).pull8 := hm
  have hyellow : ((transferNeutral p pixel).y.toNat : ℤ) =
      pixel.y.toNat - (transferValues p pixel).pull8 := hy
  have hblack := k_le_k_new p pixel
  refine
    { fit := transfer_values_fit p pixel
      exact := fun _ _ _ ↦ ⟨hc, hm, hy, hk⟩
      c_le := UInt8.le_iff_toNat_le.mpr (by omega)
      m_le := UInt8.le_iff_toNat_le.mpr (by omega)
      y_le := UInt8.le_iff_toNat_le.mpr (by omega)
      k_ge := UInt8.le_iff_toNat_le.mpr (by omega)
      c_sub_m := by omega
      m_sub_y := by omega
      c_sub_y := by omega
      colourless := ?_
      chromatic := fun hlarge ↦ absurd hchroma (not_le.mpr hlarge)
      dark := fun hlarge ↦ absurd htone (UInt8.not_le.mpr hlarge) }
  intro hnone
  obtain ⟨hzero, hsame⟩ := @colourless_values p pixel hnone
  rw [Cmyk.mk.injEq]
  refine ⟨UInt8.toNat_inj.mp ?_, UInt8.toNat_inj.mp ?_, UInt8.toNat_inj.mp ?_,
    UInt8.toNat_inj.mp ?_⟩
  all_goals omega

/-- The transfer keeps every plane within its bytes: it takes the same amount of neutral out of
cyan, magenta and yellow, never lowers black, and changes only the neutral pixels within its
limits. -/
theorem neutral_transfer (p : GcrParams) (pixels : List Cmyk) :
    (p.enabled = false → applyGcrNeutralTransfer pixels p = pixels) ∧
      List.Forall₂ (Transferred p) pixels (applyGcrNeutralTransfer pixels p) := by
  unfold applyGcrNeutralTransfer
  by_cases henabled : p.enabled = true
  · rw [if_pos henabled]
    refine ⟨fun h ↦ absurd (henabled.symm.trans h) (by decide), ?_⟩
    refine List.forall₂_map_right_iff.mpr (List.forall₂_same.mpr fun pixel _ ↦ ?_)
    -- Outside of the neutral range the transfer is the identity, as it is when it is switched off.
    by_cases hneutral : inNeutral p pixel.c pixel.m pixel.y = true
    · exact transferred_neutral hneutral
    · rw [transferNeutral, if_neg hneutral]
      exact transferred_same (.inr (Bool.eq_false_of_not_eq_true hneutral))
  · rw [if_neg henabled]
    refine ⟨fun _ ↦ rfl, List.forall₂_same.mpr fun pixel _ ↦ ?_⟩
    exact transferred_same (.inl (Bool.eq_false_of_not_eq_true henabled))

end PrintFlow.MultiInkToneBuilder
