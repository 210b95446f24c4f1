import PrintFlow.Library.RowScan
import PrintFlow.Rip.BoundedRasterPipeline
import PrintFlow.Rip.MultiInkScreenEngine

/-!
# Screening a channel

A `Screen` is everything the packed lines of one channel depend on. Its rows are screened one by one
and, under promotion, filtered from top to bottom. The full-frame engine computes these lines with
its passes over whole planes.
-/

namespace PrintFlow

open BoundedRasterPipeline Interaction Screening

/-- A channel to screen, with a tone for each pixel. -/
structure Screen where
  config : ScreenChannel
  mask : Mask
  offsetX : Nat
  offsetY : Nat
  width : Nat
  height : Nat
  parameters : Promotion
  tone : Bytes
  tone_length : tone.length = width * height

namespace Screen

variable (screen : Screen)

/-- A screened row before promotion. -/
def rawRow (y : Nat) : ScreenRow :=
  screenRow screen.config screen.mask.width screen.offsetX
    (screen.mask.row ((y + screen.offsetY) % screen.mask.height)) screen.width y
    (Plane.row screen.tone screen.width y)

/-- The first rows before promotion. -/
def rawRows (n : Nat) : List ScreenRow := (List.range n).map screen.rawRow

/-- The row filter of promotion. -/
def filter : ScreenRow → ScreenRow → ScreenRow → ScreenRow → ScreenRow :=
  promoteCenterRow screen.parameters screen.width screen.height

/-- Rows, promoted when the channel asks for it. -/
def promoted (rows : List ScreenRow) : List ScreenRow :=
  if screen.config.enablePromotion then RowScan.scanAll screen.filter rows else rows

/-- A row as it is handed to the spool. -/
def line (row : ScreenRow) : Nat × Bytes := (row.y, packRow row.dots row.dots.length)

/-- The numbered lines of the channel. -/
def lines : List (Nat × Bytes) := (screen.promoted (screen.rawRows screen.height)).map line

@[simp] theorem raw_row_y (y : Nat) : (screen.rawRow y).y = y := rfl

@[simp] theorem raw_row_dots_length (y : Nat) : (screen.rawRow y).dots.length = screen.width := by
  simp [rawRow, screenRow]

@[simp] theorem raw_rows_length (n : Nat) : (screen.rawRows n).length = n := by
  simp [rawRows]

theorem raw_rows_succ (n : Nat) :
    screen.rawRows (n + 1) = screen.rawRows n ++ [screen.rawRow n] := by
  simp [rawRows, List.range_succ]

/-- There is one line for each row. -/
theorem lines_length : screen.lines.length = screen.height := by
  rw [lines, List.length_map, promoted]
  split
  · rw [RowScan.scan_all_length, raw_rows_length]
  · rw [raw_rows_length]

end Screen

/-! ## Packing -/

section Packing

variable {α : Type*}

/-- Modifying the entry after a front leaves the rest. -/
theorem modify_middle (front : List α) (a : α) (back : List α) (g : α → α) :
    (front ++ a :: back).modify front.length g = front ++ g a :: back := by
  induction front with
  | nil => rfl
  | cons head front ih => exact congrArg (head :: ·) ih

/-- Modifying an entry of the front leaves the back. -/
theorem modify_front {front : List α} {i : Nat} (hi : i < front.length) (back : List α)
    (g : α → α) : (front ++ back).modify i g = front.modify i g ++ back := by
  induction front generalizing i with
  | nil => exact absurd hi (Nat.not_lt_zero i)
  | cons head front ih =>
      cases i with
      | zero => rfl
      | succ i => exact congrArg (head :: ·) (ih (Nat.lt_of_succ_lt_succ hi))

end Packing

/-- The buffer of `packRow` after some dots. -/
def packedBuffer (dots : Bytes) (bytesPerLine n : Nat) : Bytes :=
  (List.range n).foldl (fun packed x ↦
    packed.modify (x / 4) (· ||| ((dots[x]! &&& 0x03) <<< .ofNat ((3 - x % 4) * 2))))
    (List.replicate bytesPerLine 0)

/-- The line of `packLine` and the byte being filled after some dots. -/
def packedLine (dots : Bytes) (n : Nat) : Bytes × UInt8 :=
  (List.range n).foldl (MultiInkScreenEngine.packDot dots) ([], 0)

theorem packed_buffer_succ (dots : Bytes) (bytesPerLine n : Nat) :
    packedBuffer dots bytesPerLine (n + 1) = (packedBuffer dots bytesPerLine n).modify (n / 4)
      (· ||| ((dots[n]! &&& 0x03) <<< .ofNat ((3 - n % 4) * 2))) := by
  rw [packedBuffer, List.range_succ, List.foldl_append]
  rfl

theorem packed_line_succ (dots : Bytes) (n : Nat) :
    packedLine dots (n + 1) = MultiInkScreenEngine.packDot dots (packedLine dots n) n := by
  rw [packedLine, List.range_succ, List.foldl_append]
  rfl

@[simp] theorem packed_buffer_length (dots : Bytes) (bytesPerLine n : Nat) :
    (packedBuffer dots bytesPerLine n).length = bytesPerLine := by
  induction n with
  | zero => exact List.length_replicate
  | succ n ih => rw [packed_buffer_succ, List.length_modify, ih]

/-- The buffer holds the full bytes of the line, then the byte being filled, then zeros. -/
theorem packed_buffer_eq (dots : Bytes) {bytesPerLine n : Nat} (hn : n ≤ 4 * bytesPerLine) :
    (packedLine dots n).1.length = n / 4 ∧ (n % 4 = 0 → (packedLine dots n).2 = 0) ∧
      packedBuffer dots bytesPerLine n ++ [0] =
        (packedLine dots n).1 ++ (packedLine dots n).2 ::
          List.replicate (bytesPerLine - n / 4) 0 := by
  -- Every fourth dot fills the byte that is built, which then joins the full ones.
  induction n with
  | zero =>
      refine ⟨rfl, fun _ ↦ rfl, ?_⟩
      show List.replicate bytesPerLine 0 ++ [0] = 0 :: List.replicate bytesPerLine 0
      rw [← List.replicate_succ', List.replicate_succ]
  | succ n ih =>
      obtain ⟨hlength, -, hbuffer⟩ := ih (by omega)
      have hindex : n / 4 < (packedBuffer dots bytesPerLine n).length := by
        rw [packed_buffer_length]
        omega
      have hmodified := congrArg (List.modify · (packedLine dots n).1.length
        (· ||| ((dots[n]! &&& 0x03) <<< .ofNat ((3 - n % 4) * 2)))) hbuffer
      simp only [modify_middle] at hmodified
      rw [hlength, modify_front hindex, ← packed_buffer_succ] at hmodified
      rw [packed_line_succ, MultiInkScreenEngine.packDot]
      by_cases hfull : (n + 1) % 4 = 0
      · have hrest : bytesPerLine - n / 4 = bytesPerLine - (n + 1) / 4 + 1 := by omega
        rw [if_pos hfull, hmodified, hrest, List.replicate_succ]
        refine ⟨?_, fun _ ↦ rfl, ?_⟩
        · rw [List.length_append, hlength]
          show n / 4 + 1 = (n + 1) / 4
          omega
        · rw [List.append_assoc]
          rfl
      · have hsame : (n + 1) / 4 = n / 4 := by omega
        rw [if_neg hfull, hmodified, hsame]
        exact ⟨hlength, fun h ↦ absurd h hfull, rfl⟩

/-- The engine and the pipeline pack a line alike. -/
theorem pack_line_eq_pack_row (dots : Bytes) (width : Nat) :
    MultiInkScreenEngine.packLine dots width = packRow dots width := by
  have hle : width ≤ 4 * (((width + 3) / 4 + 3) / 4 * 4) := by omega
  obtain ⟨hlength, hzero, hbuffer⟩ := packed_buffer_eq dots hle
  show MultiInkScreenEngine.padToFour
      (if width % 4 ≠ 0 then (packedLine dots width).1 ++ [(packedLine dots width).2]
        else (packedLine dots width).1) =
    packedBuffer dots (((width + 3) / 4 + 3) / 4 * 4) width
  refine (List.append_left_inj [0]).mp ?_
  rw [hbuffer]
  by_cases hrest : width % 4 = 0
  · have hpad : ((width + 3) / 4 + 3) / 4 * 4 - width / 4 = (4 - width / 4 % 4) % 4 := by omega
    rw [if_neg (by omega), hzero hrest, MultiInkScreenEngine.padToFour, hlength, hpad,
      List.append_assoc, ← List.replicate_succ', List.replicate_succ]
  · have hpad : ((width + 3) / 4 + 3) / 4 * 4 - width / 4 = (4 - (width / 4 + 1) % 4) % 4 + 1 := by
      omega
    have hfilled : ((packedLine dots width).1 ++ [(packedLine dots width).2]).length =
        width / 4 + 1 := by
      rw [List.length_append, hlength]
      rfl
    rw [if_pos hrest, MultiInkScreenEngine.padToFour, hfilled, hpad, List.append_assoc,
      ← List.replicate_succ', List.append_assoc]
    rfl

namespace MultiInkScreenEngine

variable {V : Type} [QVariantApi V]

section Passes

variable (req : ScreenRequest V) (channelReq : ChannelRequest) (mask : Mask) (ch : Nat)

/-- The parameters the engine derives for a channel, as the pipeline takes them. -/
def screenChannel (maskPath : String) : ScreenChannel :=
  let strategy := channelStrategy req channelReq
  { maskPath := maskPath
    minInkThreshold := minInkThreshold req channelReq
    smallDotThreshold := strategy.smallDotThreshold
    medDotThreshold := strategy.medDotThreshold
    floorRange := floorRange req channelReq
    floorMax := floorMax req channelReq
    enableDotSwap := strategy.enableDotSwap
    enablePromotion := strategy.enablePromotion
    useEffectiveTone := channelReq.useEffectiveTone }

/-- The screen of a channel of a request. -/
def channelScreen (maskPath : String) (tone : Bytes) (htone : tone.length = req.width * req.height) :
    Screen where
  config := screenChannel req channelReq maskPath
  mask := mask
  offsetX := maskOffsetX mask ch req.screenSeed
  offsetY := maskOffsetY mask ch req.screenSeed
  width := req.width
  height := req.height
  parameters := promotion req.modeParams
  tone := tone
  tone_length := htone

omit [QVariantApi V] in
/-- The mask is sampled as its rows are read. -/
theorem sample_mask_eq (x y : Nat) :
    sampleMask req mask ch x y =
      (mask.row ((y + maskOffsetY mask ch req.screenSeed) % mask.height))[
        wrap (x + maskOffsetX mask ch req.screenSeed) mask.width]! := by
  have hx : wrap (x + maskOffsetX mask ch req.screenSeed) mask.width < mask.width := by
    rw [wrap_eq]
    exact Nat.mod_lt _ mask.width_pos
  rw [Mask.row, Plane.get_row_bang mask.data hx, sampleMask, wrap_eq (y + _)]

/-- The dot of a pixel of the planes. -/
def classifyPixel (strategy : MultiInkDotStrategy) (x y : Nat) (pixel : Pixel) : UInt8 :=
  if pixel.dithered = 0 then 0
  else
    let dot := dotLevel (cutBase strategy.smallDotThreshold) (cutBase strategy.medDotThreshold)
      pixel.effTone pixel.classMask
    if strategy.enableDotSwap then swapDot x y pixel.effTone dot else dot

/-- Both passes over a pixel give what screening it in one pass gives. -/
theorem dither_pixel_eq (maskPath : String) (x y : Nat) (u : UInt8) :
    ((ditherPixel req channelReq mask ch x y u).effTone,
        classifyPixel (channelStrategy req channelReq) x y (ditherPixel req channelReq mask ch x y u)) =
      screenPixel (screenChannel req channelReq maskPath) mask.width
        (maskOffsetX mask ch req.screenSeed)
        (mask.row ((y + maskOffsetY mask ch req.screenSeed) % mask.height)) x y u := by
  unfold ditherPixel screenPixel
  dsimp only [screenChannel]
  rw [← sample_mask_eq]
  by_cases hgate : u.toNat ≤ (clamp (minInkThreshold req channelReq) 0 254).toNat
  · rw [if_pos hgate, if_pos hgate]
    rfl
  · rw [if_neg hgate, if_neg hgate]
    by_cases hmask : effectiveTone (clamp (minInkThreshold req channelReq) 0 254).toNat
        (floorRange req channelReq) (floorMax req channelReq) u ≤ (sampleMask req mask ch x y).toNat
    · rw [if_pos hmask, if_neg (Nat.not_lt.mpr hmask)]
      rfl
    · rw [if_neg hmask, if_pos (Nat.lt_of_not_le hmask)]
      rfl

/-- The planes of a channel. -/
def planes (tone : Bytes) : List Pixel :=
  (List.range req.height).flatMap (ditherRow req channelReq mask ch tone)

variable (maskPath : String) {tone : Bytes} (htone : tone.length = req.width * req.height)

/-- A row of the planes holds the rows of the screen. -/
theorem planes_row {y : Nat} (hy : y < req.height) :
    Plane.row (planes req channelReq mask ch tone) req.width y =
      ditherRow req channelReq mask ch tone y := by
  refine Plane.row_flat_map ?_ hy
  intro y
  simp [ditherRow]

theorem planes_get (tone : Bytes) {x y : Nat} (hx : x < req.width) (hy : y < req.height) :
    (planes req channelReq mask ch tone)[y * req.width + x]? =
      some (ditherPixel req channelReq mask ch x y tone[y * req.width + x]!) := by
  rw [← Plane.get_row _ hx, planes_row req channelReq mask ch hy]
  simp [ditherRow, hx]

/-- The pixels of a row of the screen are those of the planes. -/
theorem raw_row_pixels (y : Nat) :
    (List.range req.width).map (fun x ↦
        screenPixel (screenChannel req channelReq maskPath) mask.width
          (maskOffsetX mask ch req.screenSeed)
          (mask.row ((y + maskOffsetY mask ch req.screenSeed) % mask.height)) x y
          (Plane.row tone req.width y)[x]!) =
      (List.range req.width).map fun x ↦
        ((ditherPixel req channelReq mask ch x y tone[y * req.width + x]!).effTone,
          classifyPixel (channelStrategy req channelReq) x y
            (ditherPixel req channelReq mask ch x y tone[y * req.width + x]!)) := by
  refine List.map_congr_left ?_
  intro x hx
  rw [Plane.get_row_bang tone (List.mem_range.mp hx), dither_pixel_eq]

theorem raw_row_tone (y : Nat) :
    ((channelScreen req channelReq mask ch maskPath tone htone).rawRow y).tone =
      (List.range req.width).map fun x ↦
        (ditherPixel req channelReq mask ch x y tone[y * req.width + x]!).effTone :=
  (congrArg (List.map Prod.fst) (raw_row_pixels req channelReq mask ch maskPath y)).trans
    List.map_map

theorem raw_row_dots (y : Nat) :
    ((channelScreen req channelReq mask ch maskPath tone htone).rawRow y).dots =
      (List.range req.width).map fun x ↦ classifyPixel (channelStrategy req channelReq) x y
        (ditherPixel req channelReq mask ch x y tone[y * req.width + x]!) :=
  (congrArg (List.map Prod.snd) (raw_row_pixels req channelReq mask ch maskPath y)).trans
    List.map_map

/-- The tones of a row of the screen are a row of the plane `effTone`. -/
theorem eff_tone_row {y : Nat} (hy : y < req.height) :
    Plane.row ((planes req channelReq mask ch tone).map (·.effTone)) req.width y =
      ((channelScreen req channelReq mask ch maskPath tone htone).rawRow y).tone := by
  rw [raw_row_tone, Plane.row, ← List.map_drop, ← List.map_take]
  show List.map _ (Plane.row _ _ _) = _
  rw [planes_row req channelReq mask ch hy, ditherRow, List.map_map]
  rfl

/-- The dot map before promotion holds the dots of the rows of the screen. -/
theorem dot_classification_eq :
    dotClassification ((planes req channelReq mask ch tone).map (·.dithered))
        ((planes req channelReq mask ch tone).map (·.classMask))
        ((planes req channelReq mask ch tone).map (·.effTone)) req.width req.height
        (channelStrategy req channelReq) =
      ((channelScreen req channelReq mask ch maskPath tone htone).rawRows req.height).map
        (·.dots) := by
  rw [Screen.rawRows, List.map_map, dotClassification]
  refine List.map_congr_left ?_
  intro y hy
  show _ = ((channelScreen req channelReq mask ch maskPath tone htone).rawRow y).dots
  rw [raw_row_dots]
  refine List.map_congr_left ?_
  intro x hx
  have hpixel := planes_get req channelReq mask ch tone (List.mem_range.mp hx)
    (List.mem_range.mp hy)
  simp only [List.getElem!_eq_getElem?_getD, List.getElem?_map, hpixel, Option.map_some,
    Option.getD_some]
  rfl

end Passes

end MultiInkScreenEngine

/-! ## Promotion -/

section Promotion

variable {tone : Bytes} {width height : Nat}

/-- Rows that carry their number, a row of the plane of tones and a dot for each column. -/
structure Aligned (tone : Bytes) (width height : Nat) (rows : List ScreenRow) : Prop where
  length : rows.length = height
  y : ∀ i < height, rows[i]!.y = i
  tone : ∀ i < height, rows[i]!.tone = Plane.row tone width i
  dots : ∀ i < height, rows[i]!.dots.length = width

/-- The dots of a row. -/
theorem get_map_dots {rows : List ScreenRow} {i : Nat} (hi : i < rows.length) :
    (rows.map (·.dots))[i]! = rows[i]!.dots := by
  simp [hi]

/-- Replacing the dots of a row keeps the rows aligned. -/
theorem Aligned.set {rows : List ScreenRow} (h : Aligned tone width height rows) {y : Nat}
    (hy : y < height) {dots : Bytes} (hdots : dots.length = width) :
    Aligned tone width height (rows.set y { rows[y]! with dots := dots }) := by
  have hget := RowScan.get_set (h.length ▸ hy : y < rows.length) { rows[y]! with dots := dots }
  refine ⟨by rw [List.length_set, h.length], ?_, ?_, ?_⟩
  · intro i hi
    rw [hget]
    split
    · next hiy => exact hiy ▸ h.y y hy
    · exact h.y i hi
  · intro i hi
    rw [hget]
    split
    · next hiy => exact hiy ▸ h.tone y hy
    · exact h.tone i hi
  · intro i hi
    rw [hget]
    split
    · exact hdots
    · exact h.dots i hi

theorem neighbours_lt : ∀ p ∈ neighbours, p.1 < 4 ∧ p.2 < 4 := by decide

/-- The rows around a row are the window of four rows. -/
theorem window_eq {rows : List ScreenRow} {y : Nat} (hy : 1 ≤ y) (hlength : y + 2 < rows.length)
    (dots : Bytes) {row : Nat} (hrow : row < 4) :
    (rows.set y { rows[y]! with dots := dots })[y + row - 1]! =
      neighbourRow rows[y - 1]! rows[y]! rows[y + 1]! rows[y + 2]! dots row := by
  rw [RowScan.get_set (by omega)]
  match row, hrow with
  | 0, _ => exact if_neg (by omega)
  | 1, _ => exact if_pos (by omega)
  | 2, _ => exact if_neg (by omega)
  | 3, _ => exact if_neg (by omega)

/-- Inside the image all neighbours count for the local deviation. -/
theorem local_mad_eq {rows : List ScreenRow} (h : Aligned tone width height rows) {x y : Nat}
    (hy : 1 ≤ y) (hheight : y + 2 < height) (hx : 1 ≤ x) (hwidth : x + 2 < width) (dots : Bytes)
    (hdots : dots.length = width) :
    MultiInkScreenEngine.localMAD tone width height x y =
      (neighbours.map fun (row, column) ↦
        deviation (neighbourRow rows[y - 1]! rows[y]! rows[y + 1]! rows[y + 2]! dots row).tone[
          x + column - 1]! rows[y]!.tone[x]!).sum / neighbours.length := by
  have hinside : (neighbours.filter fun (row, column) ↦
      1 ≤ y + row ∧ y + row < height + 1 ∧ 1 ≤ x + column ∧ x + column < width + 1) =
        neighbours := by
    refine List.filter_eq_self.mpr ?_
    intro p hp
    have hlt := neighbours_lt p hp
    simp only [decide_eq_true_eq]
    omega
  have hcenter : tone[y * width + x]! = rows[y]!.tone[x]! := by
    rw [h.tone y (by omega), Plane.get_row_bang tone (by omega)]
  unfold MultiInkScreenEngine.localMAD
  simp only [hinside, hcenter]
  rw [if_neg (by decide)]
  congr 2
  refine List.map_congr_left ?_
  intro p hp
  have hlt := neighbours_lt p hp
  have haligned := h.set (y := y) (by omega) hdots
  show deviation tone[_]! _ = deviation _ _
  rw [← window_eq hy (by rw [h.length]; exact hheight) dots hlt.1,
    haligned.tone _ (by omega), Plane.get_row_bang tone (by omega)]

/-- Promoting a dot of the dot map in place is promoting it in the window of its row. -/
theorem promote_dot_eq (parameters : Promotion) {rows : List ScreenRow}
    (h : Aligned tone width height rows) {x y : Nat} (hy : 1 ≤ y) (hheight : y + 2 < height)
    (hx : 1 ≤ x) (hwidth : x + 2 < width) {dots : Bytes} (hdots : dots.length = width) :
    MultiInkScreenEngine.promoteDot parameters tone width height y
        ((rows.map (·.dots)).set y dots) x =
      (rows.map (·.dots)).set y
        (BoundedRasterPipeline.promoteDot parameters rows[y - 1]! rows[y]! rows[y + 1]!
          rows[y + 2]! dots x) := by
  have hlength : y + 2 < rows.length := by
    rw [h.length]
    exact hheight
  have hmap : (rows.map (·.dots)).set y dots =
      (rows.set y { rows[y]! with dots := dots }).map (·.dots) := by
    rw [List.map_set]
  have hself : ((rows.map (·.dots)).set y dots)[y]! = dots := by
    rw [RowScan.get_set (by rw [List.length_map]; omega), if_pos rfl]
  have hnear : ∀ p ∈ neighbours, ((rows.map (·.dots)).set y dots)[y + p.1 - 1]! =
      (neighbourRow rows[y - 1]! rows[y]! rows[y + 1]! rows[y + 2]! dots p.1).dots := by
    intro p hp
    have hlt := neighbours_lt p hp
    rw [hmap, get_map_dots (by rw [List.length_set]; omega), window_eq hy hlength dots hlt.1]
  have hcenter : tone[y * width + x]! = rows[y]!.tone[x]! := by
    rw [h.tone y (by omega), Plane.get_row_bang tone (by omega)]
  have hweighted : (neighbours.map fun (row, column) ↦
      (((rows.map (·.dots)).set y dots)[y + row - 1]!)[x + column - 1]!.toNat) =
        neighbours.map fun (row, column) ↦
          (neighbourRow rows[y - 1]! rows[y]! rows[y + 1]! rows[y + 2]! dots row).dots[
            x + column - 1]!.toNat := by
    refine List.map_congr_left ?_
    intro p hp
    exact congrArg (fun row : Bytes ↦ row[x + p.2 - 1]!.toNat) (hnear p hp)
  have hcount : (neighbours.countP fun (row, column) ↦
      0 < (((rows.map (·.dots)).set y dots)[y + row - 1]!)[x + column - 1]!) =
        neighbours.countP fun (row, column) ↦
          0 < (neighbourRow rows[y - 1]! rows[y]! rows[y + 1]! rows[y + 2]! dots row).dots[
            x + column - 1]! := by
    refine List.countP_congr ?_
    intro p hp
    exact iff_of_eq (congrArg (fun row : Bytes ↦ decide (0 < row[x + p.2 - 1]!) = true)
      (hnear p hp))
  unfold MultiInkScreenEngine.promoteDot BoundedRasterPipeline.promoteDot
  simp only [hweighted, hcount, hself, hcenter, local_mad_eq h hy hheight hx hwidth dots hdots,
    h.y y (by omega), List.set_set]
  split_ifs <;> first | rfl | omega

theorem promote_dot_length (parameters : Promotion) (above center below further : ScreenRow)
    (dots : Bytes) (x : Nat) :
    (BoundedRasterPipeline.promoteDot parameters above center below further dots x).length =
      dots.length := by
  unfold BoundedRasterPipeline.promoteDot
  dsimp only
  split_ifs
  all_goals first | rfl | exact List.length_set

/-- Promoting the dots of a row in place is promoting them in the window. -/
theorem promote_row_eq (parameters : Promotion) {rows : List ScreenRow}
    (h : Aligned tone width height rows) {y : Nat} (hy : 1 ≤ y) (hheight : y + 2 < height)
    {dots : Bytes} (hdots : dots.length = width) (xs : List Nat)
    (hxs : ∀ x ∈ xs, 1 ≤ x ∧ x + 2 < width) :
    xs.foldl (MultiInkScreenEngine.promoteDot parameters tone width height y)
        ((rows.map (·.dots)).set y dots) =
        (rows.map (·.dots)).set y (xs.foldl (BoundedRasterPipeline.promoteDot parameters
          rows[y - 1]! rows[y]! rows[y + 1]! rows[y + 2]!) dots) ∧
      (xs.foldl (BoundedRasterPipeline.promoteDot parameters rows[y - 1]! rows[y]! rows[y + 1]!
        rows[y + 2]!) dots).length = width := by
  induction xs generalizing dots with
  | nil => exact ⟨rfl, hdots⟩
  | cons x xs ih =>
      obtain ⟨hx, hwidth⟩ := hxs x (List.mem_cons_self ..)
      rw [List.foldl_cons, List.foldl_cons,
        promote_dot_eq parameters h hy hheight hx hwidth hdots]
      exact ih (by rw [promote_dot_length, hdots]) fun x hx ↦ hxs x (List.mem_cons_of_mem _ hx)

theorem mem_inner {size i : Nat} (hi : i ∈ List.range' 1 (size - 3)) : 1 ≤ i ∧ i + 2 < size := by
  rw [List.mem_range'_1] at hi
  omega

/-- One row of the loop over the dot map is one row of the filter. -/
theorem replace_row_eq (parameters : Promotion) {rows : List ScreenRow}
    (h : Aligned tone width height rows) {y : Nat} (hy : 1 ≤ y) (hheight : y + 2 < height) :
    (List.range' 1 (width - 3)).foldl
        (MultiInkScreenEngine.promoteDot parameters tone width height y) (rows.map (·.dots)) =
        (RowScan.replaceRow (promoteCenterRow parameters width height) rows y).map (·.dots) ∧
      Aligned tone width height
        (RowScan.replaceRow (promoteCenterRow parameters width height) rows y) := by
  have hdots := h.dots y (by omega)
  have hself : (rows.map (·.dots)).set y rows[y]!.dots = rows.map (·.dots) := by
    have hlength : y < (rows.map (·.dots)).length := by
      rw [List.length_map, h.length]
      omega
    rw [← get_map_dots (by rw [h.length]; omega), getElem!_pos _ y hlength]
    exact List.set_getElem_self hlength
  obtain ⟨hrow, hlength⟩ := promote_row_eq parameters h hy hheight hdots
    (List.range' 1 (width - 3)) fun x hx ↦ mem_inner hx
  have hreplace : RowScan.replaceRow (promoteCenterRow parameters width height) rows y =
      rows.set y { rows[y]! with
        dots := (List.range' 1 (width - 3)).foldl (BoundedRasterPipeline.promoteDot parameters
          rows[y - 1]! rows[y]! rows[y + 1]! rows[y + 2]!) rows[y]!.dots } := by
    rw [RowScan.replaceRow, promoteCenterRow, if_neg (by rw [h.y y (by omega)]; omega)]
  rw [hself] at hrow
  refine ⟨?_, ?_⟩
  · rw [hrow, hreplace, List.map_set]
  · rw [hreplace]
    exact h.set (by omega) hlength

/-- The loop over the dot map computes the filtered rows. -/
theorem apply_promotion_eq (parameters : Promotion) {rows : List ScreenRow}
    (h : Aligned tone width height rows) :
    MultiInkScreenEngine.apply4x4Promotion (rows.map (·.dots)) tone width height parameters =
        (RowScan.scanAll (promoteCenterRow parameters width height) rows).map (·.dots) ∧
      Aligned tone width height
        (RowScan.scanAll (promoteCenterRow parameters width height) rows) := by
  -- The dot map and the rows go through the same loop; each step keeps them aligned.
  have hloop : ∀ (ys : List Nat) (rows : List ScreenRow), Aligned tone width height rows →
      (∀ y ∈ ys, 1 ≤ y ∧ y + 2 < height) →
      ys.foldl (fun dotMap y ↦ (List.range' 1 (width - 3)).foldl
          (MultiInkScreenEngine.promoteDot parameters tone width height y) dotMap)
          (rows.map (·.dots)) =
        (ys.foldl (RowScan.replaceRow (promoteCenterRow parameters width height)) rows).map
          (·.dots) ∧
      Aligned tone width height
        (ys.foldl (RowScan.replaceRow (promoteCenterRow parameters width height)) rows) := by
    intro ys
    induction ys with
    | nil => exact fun rows h _ ↦ ⟨rfl, h⟩
    | cons y ys ih =>
        intro rows h hys
        obtain ⟨hy, hheight⟩ := hys y (List.mem_cons_self ..)
        obtain ⟨hmap, halign⟩ := replace_row_eq parameters h hy hheight
        rw [List.foldl_cons, List.foldl_cons, hmap]
        exact ih _ halign fun y hy ↦ hys y (List.mem_cons_of_mem _ hy)
  rw [← RowScan.in_place_eq_scan_all, RowScan.inPlace, h.length]
  exact hloop _ rows h fun y hy ↦ mem_inner hy

/-- The packed dot map of aligned rows holds their lines. -/
theorem Aligned.lines {rows : List ScreenRow} (h : Aligned tone width height rows) :
    rows.map Screen.line =
      (MultiInkScreenEngine.packTo2BPP (rows.map (·.dots)) width height).mapIdx Prod.mk := by
  refine List.ext_getElem ?_ ?_
  · rw [List.length_map, h.length, List.length_mapIdx, MultiInkScreenEngine.packTo2BPP,
      List.length_map, List.length_range]
  · intro i hi hi'
    have hrow : i < rows.length := by rwa [List.length_map] at hi
    have hheight : i < height := h.length ▸ hrow
    have hy := h.y i hheight
    have hdots := h.dots i hheight
    rw [getElem!_pos rows i hrow] at hy hdots
    rw [List.getElem_map, List.getElem_mapIdx, Screen.line, hy, hdots]
    simp only [MultiInkScreenEngine.packTo2BPP, List.getElem_map, List.getElem_range]
    rw [pack_line_eq_pack_row, get_map_dots hrow, getElem!_pos rows i hrow]

end Promotion

/-! ## The engine -/

namespace MultiInkScreenEngine

variable {V : Type} [QVariantApi V] (req : ScreenRequest V) (mask : Mask)

section Lines

variable (channelReq : ChannelRequest) (ch : Nat) (maskPath : String) {tone : Bytes}
  (htone : tone.length = req.width * req.height)

theorem raw_rows_aligned :
    Aligned ((planes req channelReq mask ch tone).map (·.effTone)) req.width req.height
      ((channelScreen req channelReq mask ch maskPath tone htone).rawRows req.height) := by
  have hget : ∀ i < req.height,
      ((channelScreen req channelReq mask ch maskPath tone htone).rawRows req.height)[i]! =
        (channelScreen req channelReq mask ch maskPath tone htone).rawRow i := by
    intro i hi
    simp [Screen.rawRows, hi]
  refine ⟨Screen.raw_rows_length _ _, ?_, ?_, ?_⟩ <;> intro i hi <;> rw [hget i hi]
  · rfl
  · exact (eff_tone_row req channelReq mask ch maskPath htone hi).symm
  · exact Screen.raw_row_dots_length _ _

/-- The passes over the planes of a channel compute the lines of its screen. -/
theorem screened_lines_eq :
    (channelScreen req channelReq mask ch maskPath tone htone).lines =
      (screenedLines req channelReq (planes req channelReq mask ch tone)).mapIdx Prod.mk := by
  have haligned := raw_rows_aligned req mask channelReq ch maskPath htone
  unfold Screen.lines Screen.promoted screenedLines
  dsimp only
  rw [dot_classification_eq req channelReq mask ch maskPath htone]
  by_cases hpromotion : (channelStrategy req channelReq).enablePromotion = true
  · obtain ⟨hmap, hfiltered⟩ := apply_promotion_eq (promotion req.modeParams) haligned
    rw [if_pos hpromotion, hmap]
    exact (congrArg (List.map Screen.line) (if_pos hpromotion)).trans hfiltered.lines
  · rw [if_neg hpromotion]
    exact (congrArg (List.map Screen.line) (if_neg hpromotion)).trans haligned.lines

end Lines

/-- The exchanges of a run of the engine. -/
abbrev Trace := List (Event EngineCall EngineAnswer)

/-- The engine was told at some point that the job was canceled. -/
def Canceled (trace : Trace) : Prop := ∃ event ∈ trace, event.answer = true

/-- A piece of the engine gives its value, unless the job was canceled. -/
structure Gives {α : Type} (value : α) (trace : Trace) (result : Option α) : Prop where
  finished : ¬ Canceled trace → result = some value
  stopped : Canceled trace → result = none

/-- Asking first and stopping when canceled. -/
theorem Gives.poll {α : Type} {value : α} {next : EngineProgram (Option α)}
    (h : Meets next (Gives value)) :
    Meets (isCanceled >>= fun canceled ↦ if canceled then pure none else next) (Gives value) := by
  refine .call_bind ?_
  intro canceled
  cases canceled with
  | true =>
      refine .pure ⟨fun hnot ↦ (hnot ⟨_, List.mem_cons_self .., rfl⟩).elim, fun _ ↦ rfl⟩
  | false =>
      refine h.mono ?_
      intro trace result hresult
      have hcanceled : Canceled (⟨.isCanceled, false⟩ :: trace) ↔ Canceled trace := by
        simp [Canceled]
      exact ⟨fun hnot ↦ hresult.finished (hcanceled.not.mp hnot),
        fun h ↦ hresult.stopped (hcanceled.mp h)⟩

/-- Going on with the value of a piece of the engine. -/
theorem Gives.bind {α β : Type} {value : α} {final : β} {p : EngineProgram (Option α)}
    {next : Option α → EngineProgram (Option β)} (hp : Meets p (Gives value))
    (hnone : next none = pure none) (hnext : Meets (next (some value)) (Gives final)) :
    Meets (p >>= next) (Gives final) := by
  refine Meets.bind hp ?_
  intro before result hresult
  by_cases hcanceled : Canceled before
  · rw [hresult.stopped hcanceled, hnone]
    refine .pure ⟨fun hnot ↦ (hnot ?_).elim, fun _ ↦ rfl⟩
    rwa [List.append_nil]
  · rw [hresult.finished hcanceled]
    refine hnext.mono ?_
    intro after result hafter
    have hsplit : Canceled (before ++ after) ↔ Canceled after := by
      constructor
      · intro ⟨event, hevent, hanswer⟩
        rcases List.mem_append.mp hevent with hbefore | hlater
        · exact (hcanceled ⟨event, hbefore, hanswer⟩).elim
        · exact ⟨event, hlater, hanswer⟩
      · intro ⟨event, hevent, hanswer⟩
        exact ⟨event, List.mem_append_right _ hevent, hanswer⟩
    exact ⟨fun hnot ↦ hafter.finished (hsplit.not.mp hnot), fun h ↦ hafter.stopped (hsplit.mp h)⟩

/-- The rows of the planes are built one after the other. -/
theorem dither_rows_meets (channelReq : ChannelRequest) (ch : Nat) (channelBytes : Bytes)
    (ys : List Nat) (built : List Pixel) :
    Meets (ditherRows req channelReq mask ch channelBytes ys built)
      (Gives (built ++ ys.flatMap (ditherRow req channelReq mask ch channelBytes))) := by
  induction ys generalizing built with
  | nil =>
      rw [List.flatMap_nil, List.append_nil]
      exact .pure ⟨fun _ ↦ rfl, fun ⟨_, h, _⟩ ↦ (List.not_mem_nil h).elim⟩
  | cons y ys ih =>
      have hnext := ih (built ++ ditherRow req channelReq mask ch channelBytes y)
      rw [List.append_assoc, ← List.flatMap_cons] at hnext
      exact Gives.poll hnext

/-- The screens of the channels of a request from number `ch` on: each channel has a tone for every
pixel and a mask under its key. -/
def Requested (maskLoader : String → Option Mask) (maskPath : String → String) :
    Nat → List ChannelRequest → List Screen → Prop
  | _, [], screens => screens = []
  | ch, channelReq :: rest, screens =>
    ∃ mask tone others, ∃ htone : tone.length = req.width * req.height,
      channelReq.maskKey ≠ "" ∧ channelReq.toneBytes = some tone ∧
      maskLoader channelReq.maskKey = some mask ∧
      screens =
        channelScreen req channelReq mask ch (maskPath channelReq.maskKey) tone htone :: others ∧
      Requested maskLoader maskPath (ch + 1) rest others

/-- The screen of a channel of a request by its number. -/
theorem requested_get {maskLoader : String → Option Mask} {maskPath : String → String} {ch : Nat}
    {channels : List ChannelRequest} {screens : List Screen}
    (h : Requested req maskLoader maskPath ch channels screens) {i : Nat}
    {channelReq : ChannelRequest} (hreq : channels[i]? = some channelReq) :
    ∃ mask tone, ∃ htone : tone.length = req.width * req.height,
      channelReq.toneBytes = some tone ∧ maskLoader channelReq.maskKey = some mask ∧
      screens[i]? = some
        (channelScreen req channelReq mask (ch + i) (maskPath channelReq.maskKey) tone htone) := by
  induction channels generalizing ch screens i with
  | nil => exact absurd hreq (by simp)
  | cons first rest ih =>
      obtain ⟨mask, tone, others, htone, _, hbytes, hmask, rfl, hrest⟩ := h
      cases i with
      | zero =>
          obtain rfl := Option.some.inj hreq
          exact ⟨mask, tone, htone, hbytes, hmask, rfl⟩
      | succ i =>
          have hnext := ih hrest hreq
          rwa [Nat.add_right_comm] at hnext

/-- There is a screen for each channel. -/
theorem requested_length {maskLoader : String → Option Mask} {maskPath : String → String} {ch : Nat}
    {channels : List ChannelRequest} {screens : List Screen}
    (h : Requested req maskLoader maskPath ch channels screens) :
    screens.length = channels.length := by
  induction channels generalizing ch screens with
  | nil =>
      have hnone : screens = [] := h
      subst hnone
      rfl
  | cons first rest ih =>
      obtain ⟨mask, tone, others, htone, _, _, _, rfl, hrest⟩ := h
      rw [List.length_cons, List.length_cons, ih hrest]

/-- Numbering lines and dropping the numbers changes nothing. -/
theorem map_snd_numbered (lines : PackedLines) : (lines.mapIdx Prod.mk).map Prod.snd = lines := by
  refine List.ext_getElem? ?_
  intro i
  rw [List.getElem?_map, List.getElem?_mapIdx, Option.map_map]
  exact Option.map_id'

/-- The packed lines of a screen. -/
def packedLines (screen : Screen) : PackedLines := screen.lines.map Prod.snd

/-- The engine gives the packed lines of its screens. The mask kept from the channel before is the
one its key loads. -/
theorem screen_from_meets {maskLoader : String → Option Mask} {maskPath : String → String}
    {ch : Nat}
    {channels : List ChannelRequest} {screens : List Screen}
    (h : Requested req maskLoader maskPath ch channels screens) {lastMaskKey : String}
    {lastMask : Option Mask} (hlast : lastMaskKey = "" ∨ lastMask = maskLoader lastMaskKey)
    (allPacked : List PackedLines) :
    Meets (screenFrom req maskLoader ch channels lastMaskKey lastMask allPacked)
      (Gives (allPacked ++ screens.map packedLines)) := by
  -- The engine asks for the mask only when the key changes, so the kept mask must be that of the
  -- key.
  induction channels generalizing ch screens lastMaskKey lastMask allPacked with
  | nil =>
      have hnone : screens = [] := h
      rw [hnone, List.map_nil, List.append_nil]
      exact .pure ⟨fun _ ↦ rfl, fun ⟨_, hevent, _⟩ ↦ (List.not_mem_nil hevent).elim⟩
  | cons channelReq channels ih =>
      obtain ⟨mask, tone, others, htone, hkey, hbytes, hmask, rfl, hrest⟩ := h
      have hloaded : (if channelReq.maskKey = lastMaskKey then lastMask
          else maskLoader channelReq.maskKey) = some mask := by
        split
        · next hsame =>
            rcases hlast with hempty | hlast
            · exact absurd (hsame.trans hempty) hkey
            · rw [hlast, ← hsame, hmask]
        · exact hmask
      have hlines : packedLines (channelScreen req channelReq mask ch
            (maskPath channelReq.maskKey) tone htone) =
          screenedLines req channelReq (planes req channelReq mask ch tone) := by
        rw [packedLines, screened_lines_eq, map_snd_numbered]
      have hlast' : channelReq.maskKey = "" ∨ some mask = maskLoader channelReq.maskKey :=
        .inr hmask.symm
      have hnext := ih hrest hlast'
        (allPacked ++ [screenedLines req channelReq (planes req channelReq mask ch tone)])
      rw [List.append_assoc] at hnext
      rw [List.map_cons, hlines]
      refine Gives.poll ?_
      rw [hbytes]
      dsimp only
      rw [if_neg (not_not_intro htone), hloaded]
      refine Gives.bind (dither_rows_meets req mask channelReq ch tone _ []) rfl ?_
      exact hnext

/-- `screenChannels` gives the packed lines of all channels. -/
theorem screen_channels_meets {maskLoader : String → Option Mask} {maskPath : String → String}
    {screens : List Screen} (hwidth : 0 < req.width) (hheight : 0 < req.height)
    (hchannels : req.channels ≠ [])
    (h : Requested req maskLoader maskPath 0 req.channels screens) :
    Meets (screenChannels req maskLoader) (Gives (screens.map packedLines)) := by
  rw [screenChannels, if_neg (by simp [hchannels]; omega)]
  exact screen_from_meets req h (.inl rfl) []

end MultiInkScreenEngine

end PrintFlow
