import PrintFlow.Library.Interpolation
import PrintFlow.Rip.CurveLoading
import PrintFlow.Rip.InkSplit

/-!
# Transfer tables

Over the exact rationals an accepted curve is an `Interpolation.Knots`, and the table that is built
from it holds the heights of the curve at the 256 tones, rounded. `transfer_table` collects what
follows. Where all knots are at one place the height of the first one is used, also for the tone at
that place.
-/

namespace PrintFlow.MultiInkLinearization

open FloatFormat Interpolation MultiInkToneBuilder

/-! ## Coordinates -/

section Coordinates

variable {xs ys : List ℚ}

theorem at_most_iff (value other : ℚ) :
    Coordinate.atMost (some value) (some other) = true ↔ value ≤ other := decide_eq_true_iff

theorem less_iff (value other : ℚ) :
    Coordinate.less (some value) (some other) = true ↔ value < other := decide_eq_true_iff

theorem coordinate_get {i : Nat} (hi : i < xs.length) :
    (xs.map some).getD i none = some (xs.getD i 0) := by
  simp [List.getD_eq_getElem?_getD, List.getElem?_eq_getElem hi]

theorem coordinate_head (hxs : xs ≠ []) : (xs.map some).headD none = some (xs.getD 0 0) := by
  cases xs with
  | nil => exact absurd rfl hxs
  | cons x xs => rfl

theorem coordinate_last (hxs : xs ≠ []) :
    (xs.map some).getLastD none = some (xs.getD (xs.length - 1) 0) := by
  have hpositive : 0 < xs.length := List.length_pos_iff.mpr hxs
  rw [← coordinate_get (by omega), List.getLastD_eq_getLast?, List.getLast?_eq_getElem?,
    List.length_map, List.getD_eq_getElem?_getD]

/-- Ascending coordinates ascend from each one to every later one. -/
theorem ascending_get (h : xs.Pairwise (· ≤ ·)) {i j : Nat} (hij : i ≤ j) (hj : j < xs.length) :
    xs.getD i 0 ≤ xs.getD j 0 := by
  rcases hij.eq_or_lt with rfl | hlt
  · exact le_rfl
  · have hi := hlt.trans hj
    simpa [List.getD_eq_getElem?_getD, List.getElem?_eq_getElem hi, List.getElem?_eq_getElem hj]
      using List.pairwise_iff_getElem.mp h i j hi hj hlt

/-- The knots of coordinates. -/
def knots (xs ys : List ℚ) (h : xs.Pairwise (· ≤ ·)) : Knots ℚ where
  last := xs.length - 1
  place i := xs.getD i 0
  height i := ys.getD i 0
  ascending i j hij hj := by
    by_cases hlength : j < xs.length
    · exact ascending_get h hij hlength
    · obtain rfl : i = j := by omega
      exact le_rfl

end Coordinates

/-! ## The search -/

/-- The search ends at the first coordinate that is not below a value. -/
theorem lower_bound_from_spec {xs : List ℚ} (hsorted : xs.Pairwise (· ≤ ·)) (x : ℚ) :
    ∀ fuel first len, len ≤ fuel → first + len ≤ xs.length →
      (∀ i < first, xs.getD i 0 < x) →
      (∀ i, first + len ≤ i → i < xs.length → x ≤ xs.getD i 0) →
      lowerBoundFrom (xs.map some) x fuel first len ≤ xs.length ∧
        (∀ i < lowerBoundFrom (xs.map some) x fuel first len, xs.getD i 0 < x) ∧
        ∀ i, lowerBoundFrom (xs.map some) x fuel first len ≤ i → i < xs.length →
          x ≤ xs.getD i 0 := by
  intro fuel
  induction fuel with
  | zero =>
      intro first len hfuel hlength hbelow habove
      obtain rfl := Nat.le_zero.mp hfuel
      exact ⟨hlength, hbelow, habove⟩
  | succ fuel ih =>
      intro first len hfuel hlength hbelow habove
      rw [lowerBoundFrom]
      by_cases hempty : len = 0
      · rw [if_pos hempty]
        subst hempty
        exact ⟨hlength, hbelow, habove⟩
      rw [if_neg hempty]
      dsimp only
      rw [coordinate_get (show first + len / 2 < xs.length by omega)]
      by_cases hless : xs.getD (first + len / 2) 0 < x
      · -- What is not after the middle is below the value.
        rw [if_pos ((less_iff _ _).mpr hless)]
        refine ih _ _ (by omega) (by omega) (fun i hi ↦ ?_) fun i hi ↦ habove i (by omega)
        exact (ascending_get hsorted (by omega) (by omega)).trans_lt hless
      · rw [if_neg (mt (less_iff _ _).mp hless)]
        refine ih _ _ (by omega) (by omega) hbelow fun i hi hlast ↦ ?_
        exact (not_lt.mp hless).trans (ascending_get hsorted (by omega) hlast)

theorem lower_bound_spec {xs : List ℚ} (hsorted : xs.Pairwise (· ≤ ·)) (x : ℚ) :
    lowerBound (xs.map some) x ≤ xs.length ∧
      (∀ i < lowerBound (xs.map some) x, xs.getD i 0 < x) ∧
      ∀ i, lowerBound (xs.map some) x ≤ i → i < xs.length → x ≤ xs.getD i 0 := by
  rw [lowerBound, List.length_map]
  exact lower_bound_from_spec hsorted x xs.length 0 xs.length le_rfl (by omega) (by simp)
    fun i hi hlast ↦ absurd hlast (by omega)

/-- The search for a place between the first and the last knot ends behind the first knot. -/
theorem lower_bound_inner {xs : List ℚ} (hsorted : xs.Pairwise (· ≤ ·)) {x : ℚ}
    (hfirst : xs.getD 0 0 < x) (hlast : x < xs.getD (xs.length - 1) 0) :
    1 ≤ lowerBound (xs.map some) x ∧ lowerBound (xs.map some) x < xs.length := by
  obtain ⟨hle, hbelow, habove⟩ := lower_bound_spec hsorted x
  have hxs : xs ≠ [] := by
    rintro rfl
    exact absurd (hfirst.trans hlast) (lt_irrefl _)
  have hpositive : 0 < xs.length := List.length_pos_iff.mpr hxs
  constructor
  · by_contra hzero
    exact absurd hfirst (not_lt.mpr (habove 0 (by omega) hpositive))
  · by_contra hpast
    exact absurd hlast (not_lt.mpr (hbelow (xs.length - 1) (by omega)).le)

/-! ## The table -/

section Table

variable {q : CurveReader} (hfl : ∀ value, q.fl value = value) {xs ys : List ℚ}
  (hsorted : xs.Pairwise (· ≤ ·)) (hlength : xs.length = ys.length)

include hfl

theorem nearly_equal_eq (x0 x1 : ℚ) :
    nearlyEqual q (some x0) (some x1) = decide (|x1 - x0| < 1 / 10 ^ 9) := by
  rw [nearlyEqual, hfl, hfl]

include hlength

/-- The value of a table before rounding is a height of the curve. -/
theorem curve_value_spec (hxs : xs ≠ []) (x : ℚ) :
    ∃ value, curveValue q (xs.map some) (ys.map some) x = some value ∧
      (knots xs ys hsorted).Value (1 / 10 ^ 9) x value := by
  have hys : ys ≠ [] := List.length_pos_iff.mp (hlength ▸ List.length_pos_iff.mpr hxs)
  unfold curveValue
  rw [coordinate_head hxs, coordinate_last hxs, coordinate_head hys, coordinate_last hys]
  dsimp only
  by_cases hfirst : x ≤ xs.getD 0 0
  · rw [if_pos ((at_most_iff _ _).mpr hfirst)]
    exact ⟨_, rfl, .before hfirst⟩
  rw [if_neg (mt (at_most_iff _ _).mp hfirst)]
  by_cases hlast : xs.getD (xs.length - 1) 0 ≤ x
  · rw [if_pos ((at_most_iff _ _).mpr hlast), ← hlength]
    exact ⟨_, rfl, .after (not_le.mp hfirst) hlast⟩
  rw [if_neg (mt (at_most_iff _ _).mp hlast)]
  obtain ⟨hlow, hhigh⟩ := lower_bound_inner hsorted (not_le.mp hfirst) (not_le.mp hlast)
  obtain ⟨-, hbelow, habove⟩ := lower_bound_spec hsorted x
  generalize lowerBound (xs.map some) x = idx at hlow hhigh hbelow habove ⊢
  obtain ⟨i, rfl⟩ := Nat.exists_eq_add_of_le' hlow
  have hx0 : xs.getD i 0 < x := hbelow i (Nat.lt_succ_self i)
  have hx1 : x ≤ xs.getD (i + 1) 0 := habove (i + 1) le_rfl hhigh
  rw [List.length_map, Nat.add_sub_cancel, Nat.min_eq_right (by omega), coordinate_get (by omega),
    coordinate_get hhigh, coordinate_get (by omega), coordinate_get (by omega)]
  have hdistance : |xs.getD (i + 1) 0 - xs.getD i 0| = xs.getD (i + 1) 0 - xs.getD i 0 :=
    abs_of_nonneg (sub_nonneg.mpr (hx0.le.trans hx1))
  have hinner : i < (knots xs ys hsorted).last := show i < xs.length - 1 by omega
  unfold interpolate
  rw [nearly_equal_eq hfl, hdistance]
  by_cases hnear : xs.getD (i + 1) 0 - xs.getD i 0 < 1 / 10 ^ 9
  · rw [if_pos (decide_eq_true hnear)]
    exact ⟨_, rfl, .jump i (not_le.mp hlast) hx0 hx1 hinner hnear⟩
  · rw [if_neg (mt of_decide_eq_true hnear)]
    dsimp only
    simp only [hfl]
    exact ⟨_, rfl, .between i (not_le.mp hlast) hx0 hx1 hinner (not_lt.mp hnear)⟩

end Table

/-! ## Rounding -/

/-- A value between zero and one as a byte. -/
def unitRound (value : ℚ) : ℤ := roundHalfAway (value * 255)

theorem unit_round_mono {value other : ℚ} (h : 0 ≤ value) (hle : value ≤ other) :
    unitRound value ≤ unitRound other := by
  have hscaled : value * 255 ≤ other * 255 := mul_le_mul_of_nonneg_right hle (by norm_num)
  rw [unitRound, unitRound, round_half_away_of_nonneg (by positivity),
    round_half_away_of_nonneg (by linarith)]
  exact Int.floor_le_floor (by linarith)

/-- The byte of a value between zero and one. -/
theorem unit_byte_eq {q : CurveReader} (hfl : ∀ value, q.fl value = value) {value : ℚ}
    (hlow : 0 ≤ value) (hhigh : value ≤ 1) :
    ((unitByte q (clamp01 value)).toNat : ℤ) = unitRound value := by
  have hclamp : clamp01 value = value := by
    unfold clamp01
    rw [if_neg (not_lt.mpr hlow), if_neg (not_lt.mpr hhigh)]
  have hround := @round_part_mem (value * 255) 255 (by positivity) (by push_cast; linarith)
  rw [unitByte, hfl, hclamp, UInt8.toNat_ofNat_of_lt' (by show _ < 256; omega)]
  exact Int.toNat_of_nonneg hround.1

/-! ## Accepted curves -/

/-- What holds of the coordinates of an accepted curve. -/
structure Accepted (xs ys : List ℚ) : Prop where
  points : 2 ≤ xs.length
  length_eq : xs.length = ys.length
  ascending : xs.Pairwise (· ≤ ·)
  places : ∀ x ∈ xs, 0 ≤ x ∧ x ≤ 1
  heights : ∀ y ∈ ys, 0 ≤ y ∧ y ≤ 1

/-- A clamped coordinate that is a number is between zero and one. -/
theorem of_double_mem {value : Double} {x : ℚ} (h : Coordinate.ofDouble value = some x) :
    0 ≤ x ∧ x ≤ 1 := by
  unfold Coordinate.ofDouble at h
  rcases value.clamp_cases zero_le_one with hnan | ⟨kept, hkept, hlow, hhigh⟩
  · rw [hnan] at h
    cases h
  · rw [hkept] at h
    obtain rfl := Option.some.inj h
    exact ⟨hlow, hhigh⟩

/-- The coordinates of parts, two at a time, are clamped doubles. -/
theorem read_pairs_spec {q : CurveReader} {parts : List String} {xs ys : List Coordinate}
    (h : readPairs q parts = .ok (xs, ys)) :
    xs.length = parts.length / 2 ∧ ys.length = parts.length / 2 ∧
      (∀ x ∈ xs, ∃ value, x = Coordinate.ofDouble value) ∧
      ∀ y ∈ ys, ∃ value, y = Coordinate.ofDouble value := by
  -- Two parts make a coordinate; a part that is left over at the end makes none.
  fun_induction readPairs q parts generalizing xs ys with
  | case1 => cases h
  | case2 first second rest x y hy hx restXs restYs hrest ih =>
      obtain ⟨hxs, hys, hplaces, hheights⟩ := ih hrest
      obtain ⟨rfl, rfl⟩ := Prod.mk.injEq .. ▸ Except.ok.inj h
      refine ⟨?_, ?_, ?_, ?_⟩
      · rw [List.length_cons, hxs, List.length_cons, List.length_cons]
        omega
      · rw [List.length_cons, hys, List.length_cons, List.length_cons]
        omega
      · exact List.forall_mem_cons.mpr ⟨⟨x, rfl⟩, hplaces⟩
      · exact List.forall_mem_cons.mpr ⟨⟨y, rfl⟩, hheights⟩
  | case3 => cases h
  | case4 parts hparts =>
      obtain ⟨rfl, rfl⟩ := Prod.mk.injEq .. ▸ Except.ok.inj h
      have hshort : parts.length / 2 = 0 := by
        cases parts with
        | nil => rfl
        | cons x rest =>
            cases rest with
            | nil => simp
            | cons y rest => exact (hparts x y rest rfl).elim
      exact ⟨hshort.symm, hshort.symm, fun _ hx ↦ absurd hx List.not_mem_nil,
        fun _ hy ↦ absurd hy List.not_mem_nil⟩

/-- Coordinates that nowhere descend ascend. -/
theorem ascending_of_descends {xs : List ℚ} (h : descends (xs.map some) = false) :
    xs.Pairwise (· ≤ ·) := by
  rw [← List.isChain_iff_pairwise]
  induction xs with
  | nil => exact .nil
  | cons x rest ih =>
      cases rest with
      | nil => exact .singleton x
      | cons next rest =>
          obtain ⟨hnext, hrest⟩ := Bool.or_eq_false_iff.mp h
          refine .cons_cons ?_ (ih hrest)
          exact not_lt.mp (mt (less_iff _ _).mpr (by simpa using hnext))

/-- The coordinates of an accepted curve. -/
theorem accepted_of_parse {q : CurveReader} {curveText : String} {xs ys : List ℚ}
    (h : parseCurvePairs q curveText = .ok (xs.map some, ys.map some)) : Accepted xs ys := by
  unfold parseCurvePairs at h
  dsimp only at h
  split_ifs at h with hparts
  rw [not_or, not_lt, not_not] at hparts
  split at h
  · cases h
  · next coordinates heights hread =>
      split_ifs at h with hdescends
      obtain ⟨rfl, rfl⟩ := Prod.mk.injEq .. ▸ Except.ok.inj h
      obtain ⟨hxs, hys, hplaces, hheights⟩ := read_pairs_spec hread
      rw [List.length_map] at hxs hys
      have hmem : ∀ values : List ℚ,
          (∀ x ∈ values.map some, ∃ value, x = Coordinate.ofDouble value) →
            ∀ x ∈ values, 0 ≤ x ∧ x ≤ 1 := by
        intro values hvalues x hx
        obtain ⟨value, hvalue⟩ := hvalues (some x) (List.mem_map_of_mem hx)
        exact of_double_mem hvalue.symm
      exact ⟨by omega, by omega, ascending_of_descends (Bool.eq_false_iff.mpr hdescends),
        hmem xs hplaces, hmem ys hheights⟩

/-! ## What a table holds -/

/-- The tone of a table entry as a place on a curve. -/
def place (input : UInt8) : ℚ := input.toNat / 255

/-- What holds of the table of a curve. At the place of the first knot the height of the first one
is used, also where the last knot is at the same place. -/
structure FollowsCurve (xs ys : List ℚ) (lut : Lut8) : Prop where
  bounds (low high : ℚ) (hlow : IsLeast {y | y ∈ ys} low) (hhigh : IsGreatest {y | y ∈ ys} high)
    (input : UInt8) : unitRound low ≤ (lut input).toNat ∧ ((lut input).toNat : ℤ) ≤ unitRound high
  mono (h : ys.Pairwise (· ≤ ·)) (first second : UInt8) (hle : first ≤ second) :
    lut first ≤ lut second
  first (input : UInt8) (h : place input ≤ xs.getD 0 0) :
    ((lut input).toNat : ℤ) = unitRound (ys.getD 0 0)
  last (input : UInt8) (hfirst : xs.getD 0 0 < place input)
    (h : xs.getD (xs.length - 1) 0 ≤ place input) :
    ((lut input).toNat : ℤ) = unitRound (ys.getD (ys.length - 1) 0)
  between (input : UInt8) (i : Nat) (hi : i + 1 < xs.length)
    (hlast : place input < xs.getD (xs.length - 1) 0) (hlow : xs.getD i 0 < place input)
    (hhigh : place input ≤ xs.getD (i + 1) 0) (hgap : 1 / 10 ^ 9 ≤ xs.getD (i + 1) 0 - xs.getD i 0) :
    ((lut input).toNat : ℤ) = unitRound (ys.getD i 0 + (ys.getD (i + 1) 0 - ys.getD i 0) *
      ((place input - xs.getD i 0) / (xs.getD (i + 1) 0 - xs.getD i 0)))

/-- The knots that are read around the result `idx` of the search are `idx - 1` and `idx`; both
exist, and their distance is not zero where it is divided by. -/
def SearchesSafely (xs ys : List ℚ) (x : ℚ) : Prop :=
  let idx := lowerBound (xs.map some) x
  0 < idx ∧ idx < xs.length ∧ idx < ys.length ∧
    (¬ |xs.getD idx 0 - xs.getD (idx - 1) 0| < 1 / 10 ^ 9 →
      xs.getD idx 0 - xs.getD (idx - 1) 0 ≠ 0)

theorem searches_safely {xs ys : List ℚ} (h : Accepted xs ys) {x : ℚ} (hfirst : xs.getD 0 0 < x)
    (hlast : x < xs.getD (xs.length - 1) 0) : SearchesSafely xs ys x := by
  obtain ⟨hlow, hhigh⟩ := lower_bound_inner h.ascending hfirst hlast
  refine ⟨hlow, hhigh, h.length_eq ▸ hhigh, fun hfar hzero ↦ hfar ?_⟩
  rw [hzero, abs_zero]
  positivity

/-- Every knot has a height. -/
theorem knot_lt {xs ys : List ℚ} (h : Accepted xs ys) {i : Nat}
    (hi : i ≤ (knots xs ys h.ascending).last) : i < ys.length := by
  have hlast : i ≤ xs.length - 1 := hi
  have hpoints := h.points
  rw [← h.length_eq]
  omega

/-- The height of a knot is one of the heights of the curve. -/
theorem knot_height {xs ys : List ℚ} (h : Accepted xs ys) {i : Nat}
    (hi : i ≤ (knots xs ys h.ascending).last) : (knots xs ys h.ascending).height i ∈ ys := by
  have hlength := knot_lt h hi
  show ys.getD i 0 ∈ ys
  rw [List.getD_eq_getElem?_getD, List.getElem?_eq_getElem hlength, Option.getD_some]
  exact List.getElem_mem hlength

/-- A table entry is a height of the curve at its place, rounded. -/
theorem table_entry {q : CurveReader} (hfl : ∀ value, q.fl value = value) {xs ys : List ℚ}
    (h : Accepted xs ys) (input : UInt8) :
    ∃ value, (knots xs ys h.ascending).Value (1 / 10 ^ 9) (place input) value ∧
      ((buildLutFromTransferPairs q (xs.map some) (ys.map some) input).toNat : ℤ) =
        unitRound value := by
  have hxs : xs ≠ [] := List.length_pos_iff.mp (lt_of_lt_of_le Nat.zero_lt_two h.points)
  have hys : ys ≠ [] := List.length_pos_iff.mp (h.length_eq ▸ List.length_pos_iff.mpr hxs)
  obtain ⟨value, hcurve, hvalue⟩ := curve_value_spec hfl h.ascending h.length_eq hxs (place input)
  have hmem : 0 ≤ value ∧ value ≤ 1 := hvalue.mem fun i hi ↦ h.heights _ (knot_height h hi)
  refine ⟨value, hvalue, ?_⟩
  unfold buildLutFromTransferPairs
  rw [if_neg (by simp [hxs, hys, h.length_eq]), unitTone, hfl]
  unfold place at hcurve
  rw [hcurve]
  exact unit_byte_eq hfl hmem.1 hmem.2

/-- A curve with one height at a place has that height in the table. -/
theorem entry_of_value {q : CurveReader} (hfl : ∀ value, q.fl value = value) {xs ys : List ℚ}
    (h : Accepted xs ys) {input : UInt8} {height : ℚ}
    (honly : ∀ value, (knots xs ys h.ascending).Value (1 / 10 ^ 9) (place input) value →
      value = height) :
    ((buildLutFromTransferPairs q (xs.map some) (ys.map some) input).toNat : ℤ) =
      unitRound height := by
  obtain ⟨value, hvalue, hentry⟩ := table_entry hfl h input
  rw [hentry, honly value hvalue]

/-- Over the exact rationals every accepted curve has two points or more, with ascending places and
all coordinates between zero and one, and the table that is built from it follows the curve. -/
theorem transfer_table {q : CurveReader} (hfl : ∀ value, q.fl value = value) {curveText : String}
    {xs ys : List ℚ} (hcurve : parseCurvePairs q curveText = .ok (xs.map some, ys.map some)) :
    Accepted xs ys ∧
      FollowsCurve xs ys (buildLutFromTransferPairs q (xs.map some) (ys.map some)) ∧
      ∀ input, xs.getD 0 0 < place input → place input < xs.getD (xs.length - 1) 0 →
        SearchesSafely xs ys (place input) := by
  have h := accepted_of_parse hcurve
  refine ⟨h, ?_, fun input hfirst hlast ↦ searches_safely h hfirst hlast⟩
  exact
    -- Every entry is the rounded value of the curve at its place.
    { bounds := by
        intro low high hlow hhigh input
        obtain ⟨value, hvalue, hentry⟩ := table_entry hfl h input
        obtain ⟨hle, hge⟩ := hvalue.mem fun i hi ↦
          ⟨hlow.2 (knot_height h hi), hhigh.2 (knot_height h hi)⟩
        have hnonneg := (h.heights low hlow.1).1
        rw [hentry]
        exact ⟨unit_round_mono hnonneg hle, unit_round_mono (hnonneg.trans hle) hge⟩
      mono := by
        intro hys first second hle
        obtain ⟨value, hvalue, hentry⟩ := table_entry hfl h first
        obtain ⟨value', hvalue', hentry'⟩ := table_entry hfl h second
        have hplaces : place first ≤ place second :=
          div_le_div_of_nonneg_right (Nat.cast_le.mpr hle) (by norm_num)
        have hheights := hvalue.mono hvalue' hplaces fun i j hij hj ↦
          ascending_get hys hij (knot_lt h hj)
        have hnonneg := (hvalue.mem fun i hi ↦ h.heights _ (knot_height h hi)).1
        have hround := unit_round_mono hnonneg hheights
        rw [← hentry, ← hentry'] at hround
        exact Int.ofNat_le.mp hround
      first := fun input hplace ↦ entry_of_value hfl h fun value hvalue ↦ hvalue.eq_first hplace
      last := by
        intro input hfirst hplace
        rw [← h.length_eq]
        exact entry_of_value hfl h fun value hvalue ↦ hvalue.eq_last hfirst hplace
      between := by
        intro input i hi hplace hlow hhigh hgap
        have hinner : i < (knots xs ys h.ascending).last := show i < xs.length - 1 by omega
        exact entry_of_value hfl h fun value hvalue ↦
          hvalue.eq_line hinner hplace hlow hhigh hgap }

/-- The number that digits stand for. -/
def digitsValue (digits : List Char) : ℚ :=
  digits.foldl (fun value digit ↦ 10 * value + (digit.toNat - 48 : Nat)) 0

/-- A reader of unsigned decimal numbers over the exact rationals. -/
def decimalReader : CurveReader where
  toLower text := String.ofList (text.toList.map Char.toLower)
  toDouble text :=
    let whole := text.toList.takeWhile (· ≠ '.')
    let fraction := (text.toList.dropWhile (· ≠ '.')).drop 1
    if whole ≠ [] ∧ (whole ++ fraction).all Char.isDigit then
      some (.finite (digitsValue whole + digitsValue fraction / 10 ^ fraction.length))
    else none
  fl := id
  nanByte := 0

/-- A curve with a step in the middle is accepted and followed. -/
theorem transfer_table_step :
    Accepted [0, 0.5, 0.5, 1] [0, 0.25, 0.75, 1] ∧
      FollowsCurve [0, 0.5, 0.5, 1] [0, 0.25, 0.75, 1]
        (buildLutFromTransferPairs decimalReader (([0, 0.5, 0.5, 1] : List ℚ).map some)
          (([0, 0.25, 0.75, 1] : List ℚ).map some)) ∧
      ∀ input, ([0, 0.5, 0.5, 1] : List ℚ).getD 0 0 < place input →
        place input < ([0, 0.5, 0.5, 1] : List ℚ).getD 3 0 →
          SearchesSafely [0, 0.5, 0.5, 1] [0, 0.25, 0.75, 1] (place input) := by
  have hcurve : parseCurvePairs decimalReader "0 0 0.5 0.25 0.5 0.75 1 1" =
      .ok (([0, 0.5, 0.5, 1] : List ℚ).map some, ([0, 0.25, 0.75, 1] : List ℚ).map some) := by
    decide +kernel
  exact transfer_table (fun _ ↦ rfl) hcurve

/-- Two points at one place: the tone at that place has the height of the first one. -/
theorem single_place_first :
    ¬ ∀ (q : CurveReader), (∀ value, q.fl value = value) → ∀ (curveText : String) (xs ys : List ℚ),
      parseCurvePairs q curveText = .ok (xs.map some, ys.map some) →
        ∀ input, xs.getD (xs.length - 1) 0 ≤ place input →
          ((buildLutFromTransferPairs q (xs.map some) (ys.map some) input).toNat : ℤ) =
            unitRound (ys.getD (ys.length - 1) 0) := by
  intro h
  have hcurve : parseCurvePairs decimalReader "0 0 0 1" =
      .ok (([0, 0] : List ℚ).map some, ([0, 1] : List ℚ).map some) := by
    decide +kernel
  have hzero := h decimalReader (fun _ ↦ rfl) "0 0 0 1" [0, 0] [0, 1] hcurve 0 (by decide +kernel)
  exact absurd hzero (by decide +kernel)

end PrintFlow.MultiInkLinearization
