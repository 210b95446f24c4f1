import Mathlib.Data.List.Basic

/-!
# Planes stored row by row

A plane of a given width is the list of its rows, one after the other. `row` and `strip` cut rows
out of it, and `Partition` says that a list of strips covers the rows of a plane once, in order.
-/

namespace Plane

variable {α β : Type*}

/-- The rows from `firstRow` on, `rowCount` of them. -/
def strip (plane : List α) (width firstRow rowCount : Nat) : List α :=
  (plane.drop (firstRow * width)).take (rowCount * width)

/-- One row. -/
def row (plane : List α) (width y : Nat) : List α := (plane.drop (y * width)).take width

theorem strip_length {plane : List α} {width height firstRow rowCount : Nat}
    (hplane : plane.length = width * height) (hrows : firstRow + rowCount ≤ height) :
    (strip plane width firstRow rowCount).length = width * rowCount := by
  have hle : (firstRow + rowCount) * width ≤ height * width := Nat.mul_le_mul_right width hrows
  rw [Nat.add_mul] at hle
  rw [strip, List.length_take, List.length_drop, hplane, Nat.mul_comm width height,
    Nat.mul_comm width rowCount]
  omega

/-- Rows of one value. -/
theorem strip_replicate (value : α) {width height firstRow rowCount : Nat}
    (hrows : firstRow + rowCount ≤ height) :
    strip (List.replicate (width * height) value) width firstRow rowCount =
      List.replicate (width * rowCount) value := by
  have hlength := @strip_length _ (List.replicate (width * height) value) width height firstRow
    rowCount List.length_replicate hrows
  refine List.eq_replicate_iff.mpr ⟨hlength, fun entry hentry ↦ ?_⟩
  exact List.eq_of_mem_replicate (List.mem_of_mem_drop (List.mem_of_mem_take hentry))

/-- A pixel of a strip is a pixel of the plane. -/
theorem get_strip_bang [Inhabited α] (plane : List α) {width firstRow rowCount i : Nat}
    (hi : i < width * rowCount) :
    (strip plane width firstRow rowCount)[i]! = plane[firstRow * width + i]! := by
  rw [Nat.mul_comm] at hi
  rw [List.getElem!_eq_getElem?_getD, List.getElem!_eq_getElem?_getD, strip,
    List.getElem?_take_of_lt hi, List.getElem?_drop]

/-- Rows of a plane that is given pixel by pixel. -/
theorem strip_map_range (f : Nat → α) {width height firstRow rowCount : Nat}
    (hrows : firstRow + rowCount ≤ height) :
    strip ((List.range (width * height)).map f) width firstRow rowCount =
      (List.range (width * rowCount)).map fun i ↦ f (firstRow * width + i) := by
  have hlength : ((List.range (width * height)).map f).length = width * height := by simp
  refine List.ext_getElem ?_ ?_
  · rw [strip_length hlength hrows, List.length_map, List.length_range]
  · intro i _ _
    simp [strip]

/-- A row of a strip is a row of the plane. -/
theorem row_strip {plane : List α} {width firstRow rowCount y : Nat} (hy : y < rowCount) :
    row (strip plane width firstRow rowCount) width y = row plane width (firstRow + y) := by
  have hle : (y + 1) * width ≤ rowCount * width := Nat.mul_le_mul_right width hy
  rw [Nat.add_mul] at hle
  rw [row, row, strip, List.drop_take, List.drop_drop, List.take_take, Nat.add_mul]
  congr 1
  omega

/-- A pixel of a row is a pixel of the plane. -/
theorem get_row (plane : List α) {width x : Nat} (hx : x < width) (y : Nat) :
    (row plane width y)[x]? = plane[y * width + x]? := by
  simp [row, hx]

/-- A pixel of a row is a pixel of the plane. -/
theorem get_row_bang [Inhabited α] (plane : List α) {width x : Nat} (hx : x < width) (y : Nat) :
    (row plane width y)[x]! = plane[y * width + x]! := by
  rw [List.getElem!_eq_getElem?_getD, List.getElem!_eq_getElem?_getD, get_row plane hx]

/-- Rows that are built one after the other are the rows of the plane. -/
theorem row_flat_map {g : Nat → List β} {width height y : Nat}
    (hlength : ∀ y, (g y).length = width) (hy : y < height) :
    row ((List.range height).flatMap g) width y = g y := by
  have hbefore : ∀ n, ((List.range n).flatMap g).length = n * width := by
    intro n
    simp [List.length_flatMap, hlength]
  obtain ⟨rest, rfl⟩ := Nat.exists_eq_add_of_lt hy
  have hsplit : List.range (y + rest + 1) = List.range y ++ y :: List.range' (y + 1) rest := by
    rw [Nat.add_assoc, List.range_eq_range', ← List.range'_append_1, Nat.zero_add,
      List.range'_succ, ← List.range_eq_range']
  rw [row, hsplit, List.flatMap_append, List.flatMap_cons, List.drop_left' (hbefore y),
    List.take_left' (hlength y)]

theorem strip_map (f : α → β) (plane : List α) (width firstRow rowCount : Nat) :
    strip (plane.map f) width firstRow rowCount = (strip plane width firstRow rowCount).map f := by
  rw [strip, strip, ← List.map_drop, ← List.map_take]

theorem strip_zip_with {γ : Type*} (f : α → β → γ) (first : List α) (second : List β)
    (width firstRow rowCount : Nat) :
    strip (List.zipWith f first second) width firstRow rowCount =
      List.zipWith f (strip first width firstRow rowCount)
      (strip second width firstRow rowCount) := by
  rw [strip, strip, strip, List.drop_zipWith, List.take_zipWith]

/-! ## Strips -/

/-- The strips, given by first row and row count, cover the rows from `firstRow` to `height`. -/
def Partition (height : Nat) : Nat → List (Nat × Nat) → Prop
  | firstRow, [] => firstRow = height
  | firstRow, (start, rowCount) :: rest =>
    start = firstRow ∧ 0 < rowCount ∧ Partition height (firstRow + rowCount) rest

theorem Partition.le {height firstRow : Nat} {strips : List (Nat × Nat)}
    (h : Partition height firstRow strips) : firstRow ≤ height := by
  induction strips generalizing firstRow with
  | nil => exact Nat.le_of_eq h
  | cons first rest ih =>
      obtain ⟨_, _, hrest⟩ := h
      exact Nat.le_trans (Nat.le_add_right firstRow first.2) (ih hrest)

/-- Each strip has rows, and they are rows of the plane. -/
theorem Partition.mem {height firstRow : Nat} {strips : List (Nat × Nat)}
    (h : Partition height firstRow strips) {cut : Nat × Nat} (hcut : cut ∈ strips) :
    0 < cut.2 ∧ cut.1 + cut.2 ≤ height := by
  induction strips generalizing firstRow with
  | nil => exact absurd hcut List.not_mem_nil
  | cons first rest ih =>
      obtain ⟨rfl, hcount, hrest⟩ := h
      rcases List.mem_cons.mp hcut with rfl | hcut
      · exact ⟨hcount, hrest.le⟩
      · exact ih hrest hcut

/-- The strips of a loop over the rows in steps of `stripRows`. -/
def strips (height stripRows firstRow : Nat) : List (Nat × Nat) :=
  if _ : firstRow < height ∧ 0 < stripRows then
    (firstRow, min stripRows (height - firstRow)) :: strips height stripRows (firstRow + stripRows)
  else []
  termination_by height - firstRow

/-- The loop covers the rows. -/
theorem strips_partition {height stripRows : Nat} (hstep : 0 < stripRows) (firstRow : Nat) :
    Partition height (min firstRow height) (strips height stripRows firstRow) := by
  fun_induction strips height stripRows firstRow with
  | case1 firstRow h ih =>
      have hnext : min firstRow height + min stripRows (height - firstRow) =
          min (firstRow + stripRows) height := by omega
      refine ⟨by omega, by omega, ?_⟩
      rw [hnext]
      exact ih
  | case2 firstRow h =>
      show min firstRow height = height
      omega

/-- The strips of a plane, one after the other, are the plane. -/
theorem strips_concat {plane : List α} {width height firstRow : Nat} {strips : List (Nat × Nat)}
    (hplane : plane.length = width * height) (h : Partition height firstRow strips) :
    strips.flatMap (fun cut ↦ strip plane width cut.1 cut.2) = plane.drop (firstRow * width) := by
  induction strips generalizing firstRow with
  | nil =>
      subst h
      rw [List.flatMap_nil, List.drop_eq_nil_of_le]
      exact Nat.le_of_eq (by rw [hplane, Nat.mul_comm])
  | cons cut rest ih =>
      obtain ⟨start, rowCount⟩ := cut
      obtain ⟨rfl, _, hrest⟩ := h
      rw [List.flatMap_cons, ih hrest, strip, Nat.add_mul, ← List.drop_drop, List.take_append_drop]

end Plane
