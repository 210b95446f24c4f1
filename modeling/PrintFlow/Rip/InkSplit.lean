import Mathlib.Tactic.Linarith
import PrintFlow.Rip.MultiInkToneBuilder

/-!
# What a split makes of a tone

Over the exact rationals the two-way split always conserves the tone: the light ink takes what the
dark one leaves. The three-way split rounds two parts and leaves the rest, cut off at zero, to the
third; `split_conserves_iff` says when the two parts fit into the tone.
-/

namespace PrintFlow.MultiInkToneBuilder

open FloatFormat

theorem round_half_away_of_nonneg {q : ℚ} (h : 0 ≤ q) : roundHalfAway q = ⌊q + 1 / 2⌋ := if_pos h

/-- A part of a tone rounds to a part of the tone. -/
theorem round_part_mem {q : ℚ} {v : ℕ} (hq : 0 ≤ q) (hv : q ≤ v) :
    0 ≤ roundHalfAway q ∧ roundHalfAway q ≤ v := by
  rw [round_half_away_of_nonneg hq]
  refine ⟨Int.floor_nonneg.mpr (by linarith), ?_⟩
  refine Int.lt_add_one_iff.mp (Int.floor_lt.mpr ?_)
  push_cast
  linarith

theorem clamp01_mem (v : ℚ) : 0 ≤ clamp01 v ∧ clamp01 v ≤ 1 := by
  unfold clamp01
  split_ifs with hlow hhigh
  · exact ⟨le_refl 0, zero_le_one⟩
  · exact ⟨zero_le_one, le_refl 1⟩
  · exact ⟨not_lt.mp hlow, not_lt.mp hhigh⟩

/-- An exact step lies between zero and one. -/
theorem smoothstep_mem (edge0 edge1 x : ℚ) :
    0 ≤ smoothstep id edge0 edge1 x ∧ smoothstep id edge0 edge1 x ≤ 1 := by
  unfold smoothstep
  dsimp only [id]
  split_ifs with hempty hpast
  · exact ⟨zero_le_one, le_refl 1⟩
  · exact ⟨le_refl 0, zero_le_one⟩
  · obtain ⟨hlow, hhigh⟩ := clamp01_mem ((x - edge0) / (edge1 - edge0))
    generalize clamp01 ((x - edge0) / (edge1 - edge0)) = t at hlow hhigh
    have hsquare : 0 ≤ t * t := mul_nonneg hlow hlow
    have hrest : 0 ≤ (1 - t) * (1 - t) * (1 + 2 * t) :=
      mul_nonneg (mul_self_nonneg _) (by linarith)
    exact ⟨mul_nonneg hsquare (by linarith), by linarith⟩

/-- The weight of a part keeps it within the tone. -/
theorem part_mem (v : UInt8) {weight : ℚ} (h : 0 ≤ weight ∧ weight ≤ 1) :
    0 ≤ (v.toNat : ℚ) * weight ∧ (v.toNat : ℚ) * weight ≤ v.toNat :=
  ⟨mul_nonneg (Nat.cast_nonneg _) h.1, mul_le_of_le_one_right (Nat.cast_nonneg _) h.2⟩

theorem to_byte_of_mem {value : ℤ} (hlow : 0 ≤ value) (hhigh : value ≤ 255) :
    ((toByte value).toNat : ℤ) = value := by
  have hclamp : clamp value 0 255 = value := by
    unfold clamp
    split_ifs <;> omega
  rw [toByte, hclamp, UInt8.toNat_ofNat_of_lt' (by show _ < 256; omega)]
  exact Int.toNat_of_nonneg hlow

theorem to_byte_of_nonpos {value : ℤ} (h : value ≤ 0) : (toByte value).toNat = 0 := by
  have hclamp : clamp value 0 255 = 0 := by
    unfold clamp
    split_ifs <;> omega
  rw [toByte, hclamp]
  rfl

/-- The two-way split conserves the tone. -/
theorem split2_conserves (v : UInt8) (p : Split2Params) :
    (split2Crossfade id v p).1.toNat + (split2Crossfade id v p).2.toNat = v.toNat := by
  unfold split2Crossfade
  by_cases hv : v = 0
  · rw [if_pos hv, hv]
    rfl
  · rw [if_neg hv]
    dsimp only [id]
    obtain ⟨hpart, hwhole⟩ := part_mem v
      (smoothstep_mem p.lightStart.toNat p.lightEnd.toNat v.toNat)
    obtain ⟨hlow, hhigh⟩ := round_part_mem hpart hwhole
    generalize roundHalfAway _ = dark at hlow hhigh
    have hbyte := v.toNat_lt
    have hdark := to_byte_of_mem hlow (by omega)
    have hlight : ((toByte (v.toNat - dark)).toNat : ℤ) = v.toNat - dark :=
      to_byte_of_mem (by omega) (by omega)
    omega

/-- The lightest and the dark part fit into the tone. -/
def PartsFit (v : UInt8) (p : Split3Params) : Prop :=
  ∃ n : ℤ, (v.toNat : ℚ) * smoothstep id p.t2Start.toNat p.t2End.toNat v.toNat < n + 1 / 2 ∧
    (n : ℚ) - 1 / 2 < v.toNat * smoothstep id p.t1Start.toNat p.t1End.toNat v.toNat

/-- What is rounded up on both sides fits when an integer separates the two parts. -/
theorem rounded_parts_le_iff {v : ℕ} {s1 s2 : ℚ} (h1 : (0 : ℚ) ≤ v * (1 - s1))
    (h2 : (0 : ℚ) ≤ v * s2) :
    roundHalfAway (v * (1 - s1)) + roundHalfAway (v * s2) ≤ v ↔
      ∃ n : ℤ, (v : ℚ) * s2 < n + 1 / 2 ∧ (n : ℚ) - 1 / 2 < v * s1 := by
  rw [round_half_away_of_nonneg h1, round_half_away_of_nonneg h2]
  constructor
  · intro hle
    refine ⟨⌊(v : ℚ) * s2 + 1 / 2⌋, ?_, ?_⟩
    · have hfloor := Int.lt_floor_add_one ((v : ℚ) * s2 + 1 / 2)
      linarith
    · have hfloor := Int.lt_floor_add_one ((v : ℚ) * (1 - s1) + 1 / 2)
      have hcast : (⌊(v : ℚ) * (1 - s1) + 1 / 2⌋ : ℚ) + ⌊(v : ℚ) * s2 + 1 / 2⌋ ≤ v := by
        exact_mod_cast hle
      linarith
  · intro ⟨n, hdark, hlightest⟩
    have hk : ⌊(v : ℚ) * s2 + 1 / 2⌋ < n + 1 := by
      refine Int.floor_lt.mpr ?_
      push_cast
      linarith
    have hllk : ⌊(v : ℚ) * (1 - s1) + 1 / 2⌋ < v - n + 1 := by
      refine Int.floor_lt.mpr ?_
      push_cast
      linarith
    omega

/-- The three-way split conserves the tone exactly when its rounded parts fit into it. -/
theorem split3_conserves_iff (v : UInt8) (p : Split3Params) :
    (split3Crossfade id v p).1.toNat + (split3Crossfade id v p).2.1.toNat +
        (split3Crossfade id v p).2.2.toNat = v.toNat ↔ PartsFit v p := by
  unfold split3Crossfade PartsFit
  by_cases hv : v = 0
  · rw [if_pos hv, hv]
    refine iff_of_true rfl ⟨0, ?_, ?_⟩ <;> norm_num
  · rw [if_neg hv]
    dsimp only [id]
    obtain ⟨hs1, hs1'⟩ := smoothstep_mem p.t1Start.toNat p.t1End.toNat v.toNat
    have hleft : 0 ≤ 1 - smoothstep id p.t1Start.toNat p.t1End.toNat v.toNat ∧
        1 - smoothstep id p.t1Start.toNat p.t1End.toNat v.toNat ≤ 1 :=
      ⟨by linarith, by linarith⟩
    have hlight := part_mem v hleft
    have hdark := part_mem v (smoothstep_mem p.t2Start.toNat p.t2End.toNat v.toNat)
    rw [← rounded_parts_le_iff hlight.1 hdark.1]
    obtain ⟨hllk, hllk'⟩ := round_part_mem hlight.1 hlight.2
    obtain ⟨hk, hk'⟩ := round_part_mem hdark.1 hdark.2
    generalize roundHalfAway (v.toNat * (1 - _)) = llk at hllk hllk'
    generalize roundHalfAway (v.toNat * smoothstep _ _ _ _) = k at hk hk'
    have hbyte := v.toNat_lt
    have hllkByte := to_byte_of_mem hllk (by omega)
    have hkByte := to_byte_of_mem hk (by omega)
    by_cases hfit : llk + k ≤ v.toNat
    · have hlk : ((toByte (v.toNat - llk - k)).toNat : ℤ) = v.toNat - llk - k :=
        to_byte_of_mem (by omega) (by omega)
      omega
    · have hlk : (toByte (v.toNat - llk - k)).toNat = 0 := to_byte_of_nonpos (by omega)
      omega

/-- The two-way split conserves every tone. The three-way split conserves a tone exactly when an
integer separates, by half a level, the part the dark window takes from the part the first window
has left. -/
theorem split_conserves_iff (v : UInt8) (p2 : Split2Params) (p3 : Split3Params) :
    (split2Crossfade id v p2).1.toNat + (split2Crossfade id v p2).2.toNat = v.toNat ∧
      ((split3Crossfade id v p3).1.toNat + (split3Crossfade id v p3).2.1.toNat +
          (split3Crossfade id v p3).2.2.toNat = v.toNat ↔ PartsFit v p3) :=
  ⟨split2_conserves v p2, split3_conserves_iff v p3⟩

/-- With the dark window before the first one a tone of 128 is printed twice. -/
theorem inverted_windows_print_twice :
    split3Crossfade id 128 { t1Start := 128, t1End := 224, t2Start := 32, t2End := 128 } =
        (128, 0, 128) ∧
      (128 : UInt8).toNat + (0 : UInt8).toNat + (128 : UInt8).toNat ≠ (128 : UInt8).toNat := by
  decide +kernel

/-! ## Ordered windows -/

/-- Past its window a step is complete. -/
theorem smoothstep_of_past {edge0 edge1 x : ℚ} (hedges : edge0 ≤ edge1) (hx : edge1 ≤ x) :
    smoothstep id edge0 edge1 x = 1 := by
  unfold smoothstep
  dsimp only [id]
  by_cases hempty : edge0 = edge1
  · rw [if_pos hempty, if_pos hx]
  · have hwidth : 0 < edge1 - edge0 := sub_pos.mpr (lt_of_le_of_ne hedges hempty)
    have hfull : 1 ≤ (x - edge0) / (edge1 - edge0) := (one_le_div hwidth).mpr (by linarith)
    have hclamp : clamp01 ((x - edge0) / (edge1 - edge0)) = 1 := by
      unfold clamp01
      split_ifs <;> linarith
    rw [if_neg hempty, hclamp]
    norm_num

/-- Before its window a step has not begun. -/
theorem smoothstep_of_before {edge0 edge1 x : ℚ} (hedges : edge0 ≤ edge1) (hx : x < edge0) :
    smoothstep id edge0 edge1 x = 0 := by
  unfold smoothstep
  dsimp only [id]
  by_cases hempty : edge0 = edge1
  · rw [if_pos hempty, if_neg (by linarith)]
  · have hwidth : 0 < edge1 - edge0 := sub_pos.mpr (lt_of_le_of_ne hedges hempty)
    have hnegative : (x - edge0) / (edge1 - edge0) < 0 := div_neg_of_neg_of_pos (by linarith) hwidth
    have hclamp : clamp01 ((x - edge0) / (edge1 - edge0)) = 0 := if_pos hnegative
    rw [if_neg hempty, hclamp]
    norm_num

/-- Windows that follow one another conserve every tone. -/
theorem ordered_windows_fit {p : Split3Params} (hfirst : p.t1Start ≤ p.t1End)
    (hbetween : p.t1End ≤ p.t2Start) (hsecond : p.t2Start ≤ p.t2End) (v : UInt8) :
    PartsFit v p := by
  have hcast : ∀ {a b : UInt8}, a ≤ b → (a.toNat : ℚ) ≤ b.toNat := by
    intro a b hab
    exact_mod_cast UInt8.le_iff_toNat_le.mp hab
  have hbetween := hcast hbetween
  unfold PartsFit
  by_cases hpast : (p.t1End.toNat : ℚ) ≤ v.toNat
  · -- The first window has left nothing to the lightest ink.
    have hdark := (part_mem v (smoothstep_mem p.t2Start.toNat p.t2End.toNat v.toNat)).2
    rw [smoothstep_of_past (hcast hfirst) hpast]
    refine ⟨v.toNat, ?_, ?_⟩ <;> push_cast <;> linarith
  · -- The dark window has not begun.
    have hlightest := (part_mem v (smoothstep_mem p.t1Start.toNat p.t1End.toNat v.toNat)).1
    rw [smoothstep_of_before (hcast hsecond) (by linarith)]
    refine ⟨0, ?_, ?_⟩ <;> push_cast <;> linarith

end PrintFlow.MultiInkToneBuilder
