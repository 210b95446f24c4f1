import Mathlib.Algebra.Order.Field.Basic
import Mathlib.Tactic.Linarith

/-!
# Piecewise linear curves

A curve through knots whose places ascend and may repeat. Between two neighbouring knots it is the
line through them, unless they are closer than a gap, where it jumps to the height of the second one
at once. Left of the first knot and right of the last one it is constant. `Knots.Value` says which
heights a curve has, and it bounds them and orders them without a word on how they are found.
-/

namespace Interpolation

variable {K : Type} [Field K] [LinearOrder K] [IsStrictOrderedRing K]

/-! ## Lines -/

/-- The height at a place of the line through two points. -/
def line (x0 x1 y0 y1 x : K) : K := y0 + (y1 - y0) * ((x - x0) / (x1 - x0))

section Lines

variable {x0 x1 y0 y1 x : K}

/-- Between two points the weight of the second one is between zero and one. -/
theorem weight_mem (h : x0 < x1) (hlow : x0 ≤ x) (hhigh : x ≤ x1) :
    0 ≤ (x - x0) / (x1 - x0) ∧ (x - x0) / (x1 - x0) ≤ 1 := by
  have hpositive : 0 < x1 - x0 := sub_pos.mpr h
  refine ⟨div_nonneg (sub_nonneg.mpr hlow) hpositive.le, ?_⟩
  exact (div_le_one hpositive).mpr (sub_le_sub_right hhigh x0)

/-- Between two points a line stays above what is below both of them. -/
theorem le_line {low : K} (h : x0 < x1) (hlow : x0 ≤ x) (hhigh : x ≤ x1) (hy0 : low ≤ y0)
    (hy1 : low ≤ y1) : low ≤ line x0 x1 y0 y1 x := by
  obtain ⟨hnonneg, hle⟩ := weight_mem h hlow hhigh
  unfold line
  generalize (x - x0) / (x1 - x0) = t at hnonneg hle ⊢
  have hfirst : 0 ≤ (y0 - low) * (1 - t) := mul_nonneg (sub_nonneg.mpr hy0) (sub_nonneg.mpr hle)
  have hsecond : 0 ≤ (y1 - low) * t := mul_nonneg (sub_nonneg.mpr hy1) hnonneg
  linarith

/-- Between two points a line stays below what is above both of them. -/
theorem line_le {high : K} (h : x0 < x1) (hlow : x0 ≤ x) (hhigh : x ≤ x1) (hy0 : y0 ≤ high)
    (hy1 : y1 ≤ high) : line x0 x1 y0 y1 x ≤ high := by
  obtain ⟨hnonneg, hle⟩ := weight_mem h hlow hhigh
  unfold line
  generalize (x - x0) / (x1 - x0) = t at hnonneg hle ⊢
  have hfirst : 0 ≤ (high - y0) * (1 - t) := mul_nonneg (sub_nonneg.mpr hy0) (sub_nonneg.mpr hle)
  have hsecond : 0 ≤ (high - y1) * t := mul_nonneg (sub_nonneg.mpr hy1) hnonneg
  linarith

/-- A line to a higher point ascends. -/
theorem line_mono {x' : K} (h : x0 < x1) (hy : y0 ≤ y1) (hx : x ≤ x') :
    line x0 x1 y0 y1 x ≤ line x0 x1 y0 y1 x' := by
  have hweight : (x - x0) / (x1 - x0) ≤ (x' - x0) / (x1 - x0) :=
    div_le_div_of_nonneg_right (sub_le_sub_right hx x0) (sub_pos.mpr h).le
  have hproduct := mul_le_mul_of_nonneg_left hweight (sub_nonneg.mpr hy)
  unfold line
  linarith

end Lines

/-! ## Curves -/

/-- The knots of a curve: the places and heights up to the last one, with the places ascending. -/
structure Knots (K : Type) [LinearOrder K] where
  last : Nat
  place : Nat → K
  height : Nat → K
  ascending : ∀ i j, i ≤ j → j ≤ last → place i ≤ place j

namespace Knots

variable {c : Knots K} {gap x value : K}

/-- The heights of a curve at a place. -/
inductive Value (c : Knots K) (gap x : K) : K → Prop where
  | before (h : x ≤ c.place 0) : Value c gap x (c.height 0)
  | after (hfirst : c.place 0 < x) (h : c.place c.last ≤ x) : Value c gap x (c.height c.last)
  | jump (i : Nat) (hlast : x < c.place c.last) (hlow : c.place i < x) (hhigh : x ≤ c.place (i + 1))
      (hi : i < c.last) (hgap : c.place (i + 1) - c.place i < gap) :
      Value c gap x (c.height (i + 1))
  | between (i : Nat) (hlast : x < c.place c.last) (hlow : c.place i < x)
      (hhigh : x ≤ c.place (i + 1)) (hi : i < c.last) (hgap : gap ≤ c.place (i + 1) - c.place i) :
      Value c gap x (line (c.place i) (c.place (i + 1)) (c.height i) (c.height (i + 1)) x)

omit [Field K] [IsStrictOrderedRing K] in
/-- Only one pair of neighbouring knots encloses a place. -/
theorem index_le {i j : Nat} {x' : K} (hi : c.place i < x) (hx : x ≤ x')
    (hj : x' ≤ c.place (j + 1)) (hlast : i ≤ c.last) : i ≤ j := by
  by_contra hlt
  exact absurd ((hi.trans_le hx).trans_le hj) (not_lt.mpr (c.ascending _ _ (by omega) hlast))

omit [Field K] [IsStrictOrderedRing K] in
/-- A place right of a knot is right of the first one. -/
theorem first_lt {i : Nat} (hlow : c.place i < x) (hi : i ≤ c.last) : c.place 0 < x :=
  (c.ascending 0 i (Nat.zero_le i) hi).trans_lt hlow

omit [IsStrictOrderedRing K] in
/-- Up to the first knot a curve has the height of the first one. -/
theorem Value.eq_first (h : c.Value gap x value) (hfirst : x ≤ c.place 0) : value = c.height 0 := by
  cases h with
  | before _ => rfl
  | after hpast _ => exact absurd hfirst (not_le.mpr hpast)
  | jump i _ hlow _ hi _ => exact absurd hfirst (not_le.mpr (first_lt hlow hi.le))
  | between i _ hlow _ hi _ => exact absurd hfirst (not_le.mpr (first_lt hlow hi.le))

omit [IsStrictOrderedRing K] in
/-- From the last knot on a curve has the height of the last one. -/
theorem Value.eq_last (h : c.Value gap x value) (hfirst : c.place 0 < x)
    (hlast : c.place c.last ≤ x) : value = c.height c.last := by
  cases h with
  | before hbefore => exact absurd hfirst (not_lt.mpr hbefore)
  | after _ _ => rfl
  | jump _ hinner => exact absurd hinner (not_lt.mpr hlast)
  | between _ hinner => exact absurd hinner (not_lt.mpr hlast)

omit [IsStrictOrderedRing K] in
/-- Between two neighbouring knots that are not too close a curve is the line through them. -/
theorem Value.eq_line (h : c.Value gap x value) {i : Nat} (hi : i < c.last)
    (hlast : x < c.place c.last) (hlow : c.place i < x) (hhigh : x ≤ c.place (i + 1))
    (hgap : gap ≤ c.place (i + 1) - c.place i) :
    value = line (c.place i) (c.place (i + 1)) (c.height i) (c.height (i + 1)) x := by
  cases h with
  | before hbefore => exact absurd (first_lt hlow hi.le) (not_lt.mpr hbefore)
  | after _ hpast => exact absurd hlast (not_lt.mpr hpast)
  | jump j _ hlow' hhigh' hj hgap' =>
      obtain rfl : i = j := le_antisymm (index_le hlow le_rfl hhigh' hi.le)
        (index_le hlow' le_rfl hhigh hj.le)
      exact absurd hgap (not_le.mpr hgap')
  | between j _ hlow' hhigh' hj _ =>
      obtain rfl : i = j := le_antisymm (index_le hlow le_rfl hhigh' hi.le)
        (index_le hlow' le_rfl hhigh hj.le)
      rfl

/-- The heights of a curve are between the heights of its knots. -/
theorem Value.mem (h : c.Value gap x value) {low high : K}
    (hheights : ∀ i ≤ c.last, low ≤ c.height i ∧ c.height i ≤ high) :
    low ≤ value ∧ value ≤ high := by
  cases h with
  | before h => exact hheights 0 (Nat.zero_le _)
  | after hfirst h => exact hheights c.last le_rfl
  | jump i hlast hlow hhigh hi hgap => exact hheights (i + 1) hi
  | between i hlast hlow hhigh hi hgap =>
      obtain ⟨hlow0, hhigh0⟩ := hheights i hi.le
      obtain ⟨hlow1, hhigh1⟩ := hheights (i + 1) hi
      exact ⟨le_line (hlow.trans_le hhigh) hlow.le hhigh hlow0 hlow1,
        line_le (hlow.trans_le hhigh) hlow.le hhigh hhigh0 hhigh1⟩

/-- Between two neighbouring knots of an ascending curve its heights are between theirs. -/
theorem Value.enclosed (h : c.Value gap x value)
    (hheights : ∀ i j, i ≤ j → j ≤ c.last → c.height i ≤ c.height j) {i : Nat}
    (hlast : x < c.place c.last) (hlow : c.place i < x) (hhigh : x ≤ c.place (i + 1))
    (hi : i < c.last) : c.height i ≤ value ∧ value ≤ c.height (i + 1) := by
  cases h with
  | before h => exact absurd (first_lt hlow hi.le) (not_lt.mpr h)
  | after _ h => exact absurd hlast (not_lt.mpr h)
  | jump j hlast' hlow' hhigh' hj hgap =>
      obtain rfl : i = j := le_antisymm (index_le hlow le_rfl hhigh' hi.le)
        (index_le hlow' le_rfl hhigh hj.le)
      exact ⟨hheights _ _ (Nat.le_succ i) hi, le_rfl⟩
  | between j hlast' hlow' hhigh' hj hgap =>
      obtain rfl : i = j := le_antisymm (index_le hlow le_rfl hhigh' hi.le)
        (index_le hlow' le_rfl hhigh hj.le)
      have hstep := hheights _ _ (Nat.le_succ i) hi
      exact ⟨le_line (hlow.trans_le hhigh) hlow.le hhigh le_rfl hstep,
        line_le (hlow.trans_le hhigh) hlow.le hhigh hstep le_rfl⟩

/-- A curve whose knots ascend in height ascends. -/
theorem Value.mono {x' value' : K} (h : c.Value gap x value) (h' : c.Value gap x' value')
    (hx : x ≤ x') (hheights : ∀ i j, i ≤ j → j ≤ c.last → c.height i ≤ c.height j) :
    value ≤ value' := by
  have hpast : ∀ i ≤ c.last, c.place i < x → ¬ x' ≤ c.place 0 := fun i hi hlow hfirst ↦
    absurd (first_lt hlow hi) (not_lt.mpr (hx.trans hfirst))
  -- A place that is enclosed by a later pair of knots has a greater height.
  have hlater : ∀ i j, i < j → j < c.last → value ≤ c.height (i + 1) → c.place j < x' →
      x' ≤ c.place (j + 1) → x' < c.place c.last → value ≤ value' := by
    intro i j hij hj hvalue hlow' hhigh' hlast'
    have hnext := (h'.enclosed hheights hlast' hlow' hhigh' hj).1
    exact hvalue.trans ((hheights (i + 1) j hij hj.le).trans hnext)
  cases h with
  | before h =>
      exact (h'.mem fun i hi ↦ ⟨hheights 0 i (Nat.zero_le i) hi, hheights i c.last hi le_rfl⟩).1
  | after hfirst h =>
      cases h' with
      | before h' => exact absurd h' (hpast 0 (Nat.zero_le _) hfirst)
      | after hfirst' h' => exact le_rfl
      | jump j hlast' => exact absurd hlast' (not_lt.mpr (h.trans hx))
      | between j hlast' => exact absurd hlast' (not_lt.mpr (h.trans hx))
  | jump i hlast hlow hhigh hi hgap =>
      cases h' with
      | before h' => exact absurd h' (hpast i hi.le hlow)
      | after hfirst' h' => exact hheights (i + 1) c.last hi le_rfl
      | jump j hlast' hlow' hhigh' hj hgap' =>
          have hij := index_le hlow hx hhigh' hi.le
          exact hheights (i + 1) (j + 1) (Nat.succ_le_succ hij) hj
      | between j hlast' hlow' hhigh' hj hgap' =>
          rcases (index_le hlow hx hhigh' hi.le).eq_or_lt with rfl | hlt
          · exact absurd hgap (not_lt.mpr hgap')
          · exact hlater i j hlt hj le_rfl hlow' hhigh' hlast'
  | between i hlast hlow hhigh hi hgap =>
      have hstep := hheights i (i + 1) (Nat.le_succ i) hi
      have hvalue := line_le (hlow.trans_le hhigh) hlow.le hhigh hstep le_rfl
      cases h' with
      | before h' => exact absurd h' (hpast i hi.le hlow)
      | after hfirst' h' => exact hvalue.trans (hheights (i + 1) c.last hi le_rfl)
      | jump j hlast' hlow' hhigh' hj hgap' =>
          have hij := index_le hlow hx hhigh' hi.le
          exact hvalue.trans (hheights (i + 1) (j + 1) (Nat.succ_le_succ hij) hj)
      | between j hlast' hlow' hhigh' hj hgap' =>
          rcases (index_le hlow hx hhigh' hi.le).eq_or_lt with rfl | hlt
          · exact line_mono (hlow.trans_le hhigh) hstep hx
          · exact hlater i j hlt hj hvalue hlow' hhigh' hlast'

end Knots

end Interpolation
