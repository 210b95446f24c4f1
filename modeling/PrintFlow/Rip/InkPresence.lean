import PrintFlow.Rip.StripScreening

/-!
# Where ink is printed and how large its dots are

A pixel is inked when its tone passes the gate and the lifted tone exceeds the mask. Classification,
the dot swap and promotion only choose the size of the dots that are there. `ink_presence` states
this of every dot that the full-frame engine and the bounded pipeline pack.
-/

namespace PrintFlow

open BoundedRasterPipeline Interaction Screening

/-! ## Dots of a packed line -/

/-- The code of a dot of a packed line. -/
def dotAt (packed : Bytes) (x : Nat) : UInt8 :=
  (packed[x / 4]! >>> .ofNat ((3 - x % 4) * 2)) &&& 0x03

/-- A dot shifted to one place of a byte is read back at that place only. -/
theorem shifted_dot_at (dot : UInt8) {i j : Nat} (hi : i < 4) (hj : j < 4) :
    ((dot &&& 0x03) <<< .ofNat ((3 - i) * 2)) >>> .ofNat ((3 - j) * 2) &&& 0x03 =
      if i = j then dot &&& 0x03 else 0 := by
  have hcodes : ∀ code : Fin 4, ∀ i j : Fin 4,
      (UInt8.ofNat code <<< .ofNat ((3 - i) * 2)) >>> .ofNat ((3 - j) * 2) &&& 0x03 =
        if i = j then UInt8.ofNat code else 0 := by decide
  have hcode : (dot &&& 0x03).toNat < 4 := by
    rw [UInt8.toNat_and]
    exact Nat.lt_succ_of_le Nat.and_le_right
  simpa using hcodes ⟨_, hcode⟩ ⟨i, hi⟩ ⟨j, hj⟩

theorem shift_right_or (a b shift : UInt8) : (a ||| b) >>> shift = a >>> shift ||| b >>> shift := by
  simp [← UInt8.toBitVec_inj, BitVec.ushiftRight_or_distrib]

theorem or_and_distrib (a b c : UInt8) : (a ||| b) &&& c = a &&& c ||| b &&& c := by
  simp [← UInt8.toBitVec_inj, BitVec.and_or_distrib_right]

/-- Modifying a byte changes that byte only. -/
theorem get_modify {bytes : Bytes} {i : Nat} (hi : i < bytes.length) (g : UInt8 → UInt8)
    (j : Nat) : (bytes.modify i g)[j]! = if j = i then g bytes[j]! else bytes[j]! := by
  rw [List.getElem!_eq_getElem?_getD, List.getElem!_eq_getElem?_getD, List.getElem?_modify]
  by_cases hij : j = i
  · subst hij
    rw [if_pos rfl, List.getElem?_eq_getElem hi]
    simp
  · simp [hij, Ne.symm hij]

/-- The buffer holds the dots packed so far, and zeros from there on. -/
theorem dot_at_packed_buffer (dots : Bytes) {bytesPerLine n : Nat} (hn : n ≤ 4 * bytesPerLine)
    (x : Nat) :
    dotAt (packedBuffer dots bytesPerLine n) x = if x < n then dots[x]! &&& 0x03 else 0 := by
  induction n with
  | zero =>
      show (List.replicate bytesPerLine (0 : UInt8))[x / 4]! >>> _ &&& 0x03 = 0
      have hzero : (List.replicate bytesPerLine (0 : UInt8))[x / 4]! = 0 := by
        rw [List.getElem!_eq_getElem?_getD, List.getElem?_replicate]
        split <;> rfl
      rw [hzero, UInt8.zero_shiftRight, UInt8.zero_and]
  | succ n ih =>
      have hindex : n / 4 < (packedBuffer dots bytesPerLine n).length := by
        rw [packed_buffer_length]
        omega
      rw [packed_buffer_succ]
      rw [dotAt, get_modify hindex]
      -- Only the byte of the new dot changes, and in it only the place of the dot.
      by_cases hbyte : x / 4 = n / 4
      · rw [if_pos hbyte, shift_right_or, or_and_distrib,
          shifted_dot_at _ (Nat.mod_lt _ (by decide)) (Nat.mod_lt _ (by decide))]
        show dotAt (packedBuffer dots bytesPerLine n) x ||| _ = _
        rw [ih (by omega)]
        by_cases hnew : x = n
        · subst hnew
          rw [if_neg (Nat.lt_irrefl x), if_pos rfl, if_pos (Nat.lt_succ_self x), UInt8.zero_or]
        · rw [if_neg (by omega : ¬ n % 4 = x % 4), UInt8.or_zero]
          exact if_congr (by omega) rfl rfl
      · rw [if_neg hbyte]
        show dotAt (packedBuffer dots bytesPerLine n) x = _
        rw [ih (by omega)]
        exact if_congr (by omega) rfl rfl

/-- A packed row holds the dots of the row. -/
theorem dot_at_pack_row (dots : Bytes) {width x : Nat} (hx : x < width) :
    dotAt (packRow dots width) x = dots[x]! &&& 0x03 := by
  have hwidth : width ≤ 4 * (((width + 3) / 4 + 3) / 4 * 4) := by omega
  exact (dot_at_packed_buffer dots hwidth x).trans (if_pos hx)

/-! ## One pixel -/

/-- A dot before and after it may have been promoted: it grows by one level at most, and only a dot
of the first or the second level does. -/
def Raised (before after : UInt8) : Prop :=
  after = before ∨ before = 1 ∧ after = 2 ∨ before = 2 ∧ after = 3

/-- Promotion neither creates nor removes ink. -/
theorem Raised.ne_zero_iff {before after : UInt8} (h : Raised before after) :
    after ≠ 0 ↔ before ≠ 0 := by
  rcases h with rfl | ⟨rfl, rfl⟩ | ⟨rfl, rfl⟩
  · exact Iff.rfl
  · decide
  · decide

theorem Raised.le {before after : UInt8} (h : Raised before after) (hbefore : before ≤ 3) :
    after ≤ 3 := by
  rcases h with rfl | ⟨rfl, rfl⟩ | ⟨rfl, rfl⟩
  · exact hbefore
  · decide
  · decide

theorem draw_dot_raised (parameters : Promotion) (x y weighted : Nat) (tone dot : UInt8) :
    Raised dot (drawDot parameters x y weighted tone dot) := by
  unfold drawDot
  dsimp only
  split
  · next hsmall =>
      split
      · exact .inr (.inl ⟨hsmall, rfl⟩)
      · exact .inl rfl
  · split
    · next hmedium =>
        split
        · exact .inr (.inr ⟨hmedium, rfl⟩)
        · exact .inl rfl
    · exact .inl rfl

/-- A dot that is there has one of three levels. -/
theorem dot_level_cases (smallBase medBase tone threshold : UInt8) :
    dotLevel smallBase medBase tone threshold = 1 ∨ dotLevel smallBase medBase tone threshold = 2 ∨
      dotLevel smallBase medBase tone threshold = 3 := by
  unfold dotLevel
  dsimp only
  split
  · exact .inl rfl
  · split
    · exact .inr (.inl rfl)
    · exact .inr (.inr rfl)

theorem level_range {dot : UInt8} (hdot : dot = 1 ∨ dot = 2 ∨ dot = 3) : dot ≠ 0 ∧ dot ≤ 3 := by
  rcases hdot with rfl | rfl | rfl <;> decide

/-- The swap mirrors a dot or keeps it. -/
theorem swap_dot_cases (x y : Nat) (tone dot : UInt8) :
    swapDot x y tone dot = dot ∨ swapDot x y tone dot = 4 - dot := by
  unfold swapDot
  split
  · exact .inr rfl
  · split
    · split
      · exact .inr rfl
      · exact .inl rfl
    · exact .inl rfl

/-- The swap of a dot that is there gives one that is there. -/
theorem swap_dot_level {dot : UInt8} (hdot : dot = 1 ∨ dot = 2 ∨ dot = 3) (x y : Nat)
    (tone : UInt8) : swapDot x y tone dot ≠ 0 ∧ swapDot x y tone dot ≤ 3 := by
  have hmirrored : 4 - dot = 1 ∨ 4 - dot = 2 ∨ 4 - dot = 3 := by
    rcases hdot with rfl | rfl | rfl
    · exact .inr (.inr rfl)
    · exact .inr (.inl rfl)
    · exact .inl rfl
  rcases swap_dot_cases x y tone dot with hswap | hswap
  · rw [hswap]
    exact level_range hdot
  · rw [hswap]
    exact level_range hmirrored

/-- The bounded pipeline prints a dot where the tone passes the gate and the lifted tone exceeds the
mask, in one of three levels. -/
theorem screen_pixel_ink (config : ScreenChannel) (maskWidth offsetX : Nat) (maskRow : Bytes)
    (x y : Nat) (tone : UInt8) :
    ((screenPixel config maskWidth offsetX maskRow x y tone).2 ≠ 0 ↔
        (clamp config.minInkThreshold 0 254).toNat < tone.toNat ∧
          maskRow[wrap (x + offsetX) maskWidth]!.toNat <
            effectiveTone (clamp config.minInkThreshold 0 254).toNat config.floorRange
              config.floorMax tone) ∧
      (screenPixel config maskWidth offsetX maskRow x y tone).2 ≤ 3 := by
  rw [screenPixel]
  dsimp only
  by_cases hgate : tone.toNat ≤ (clamp config.minInkThreshold 0 254).toNat
  · rw [if_pos hgate]
    exact ⟨⟨fun h ↦ absurd rfl h, fun h ↦ absurd h.1 (Nat.not_lt.mpr hgate)⟩, UInt8.zero_le⟩
  rw [if_neg hgate]
  by_cases hmask : effectiveTone (clamp config.minInkThreshold 0 254).toNat config.floorRange
      config.floorMax tone ≤ maskRow[wrap (x + offsetX) maskWidth]!.toNat
  · rw [if_pos hmask]
    exact ⟨⟨fun h ↦ absurd rfl h, fun h ↦ absurd h.2 (Nat.not_lt.mpr hmask)⟩, UInt8.zero_le⟩
  rw [if_neg hmask]
  have hinked := And.intro (Nat.lt_of_not_le hgate) (Nat.lt_of_not_le hmask)
  have hlevel := dot_level_cases (cutBase config.smallDotThreshold)
    (cutBase config.medDotThreshold)
    (if config.useEffectiveTone then .ofNat (effectiveTone
      (clamp config.minInkThreshold 0 254).toNat config.floorRange config.floorMax tone) else tone)
    maskRow[wrap (x + offsetX) maskWidth]!
  cases config.enableDotSwap with
  | true =>
      obtain ⟨hdot, hrange⟩ := swap_dot_level hlevel x y _
      exact ⟨⟨fun _ ↦ hinked, fun _ ↦ hdot⟩, hrange⟩
  | false =>
      obtain ⟨hdot, hrange⟩ := level_range hlevel
      exact ⟨⟨fun _ ↦ hinked, fun _ ↦ hdot⟩, hrange⟩

/-- Two bits hold a level. -/
theorem and_three {dot : UInt8} (hdot : dot ≤ 3) : dot &&& 0x03 = dot := by
  have hlevel : ∀ code : Fin 4, UInt8.ofNat code &&& 0x03 = UInt8.ofNat code := by decide
  have hlt : dot.toNat < 4 := Nat.lt_succ_of_le (UInt8.le_iff_toNat_le.mp hdot)
  simpa using hlevel ⟨dot.toNat, hlt⟩

namespace Screen

variable (screen : Screen) (x y : Nat)

/-- The tone of a pixel. -/
def toneAt : UInt8 := screen.tone[y * screen.width + x]!

/-- The sample of the mask at a pixel. -/
def thresholdAt : UInt8 :=
  screen.mask.data[(y + screen.offsetY) % screen.mask.height * screen.mask.width +
    (x + screen.offsetX) % screen.mask.width]!

/-- The tone passes the gate and, lifted by the floor, exceeds the mask. -/
def Inked : Prop :=
  let minTone := (clamp screen.config.minInkThreshold 0 254).toNat
  minTone < (screen.toneAt x y).toNat ∧
    (screen.thresholdAt x y).toNat <
      effectiveTone minTone screen.config.floorRange screen.config.floorMax (screen.toneAt x y)

/-- The dot before promotion. -/
def classified : UInt8 := (screen.rawRow y).dots[x]!

/-- The channel without the dot swap. -/
def withoutSwap : Screen :=
  { screen with config := { screen.config with enableDotSwap := false } }

/-- What the dot printed at a pixel tells about the tone there. -/
structure DotLaws (code : UInt8) : Prop where
  ink : code ≠ 0 ↔ screen.Inked x y
  range : code ≤ 3
  swap : screen.classified x y ≠ 0 ↔ screen.withoutSwap.classified x y ≠ 0
  promotion : code ≠ 0 ↔ screen.classified x y ≠ 0
  raised : Raised (screen.classified x y) code
  border : x = 0 ∨ y = 0 ∨ screen.width ≤ x + 2 ∨ screen.height ≤ y + 2 →
    code = screen.classified x y

variable {screen x}

theorem classified_eq (hx : x < screen.width) :
    screen.classified x y = (screenPixel screen.config screen.mask.width screen.offsetX
      (screen.mask.row ((y + screen.offsetY) % screen.mask.height)) x y (screen.toneAt x y)).2 := by
  rw [classified, rawRow, screenRow, toneAt, ← Plane.get_row_bang screen.tone hx]
  simp [hx]

/-- Ink is where the tone passes the gate and exceeds the mask, in one of three levels. -/
theorem classified_ink (hx : x < screen.width) :
    (screen.classified x y ≠ 0 ↔ screen.Inked x y) ∧ screen.classified x y ≤ 3 := by
  have hthreshold : (screen.mask.row ((y + screen.offsetY) % screen.mask.height))[
      wrap (x + screen.offsetX) screen.mask.width]! = screen.thresholdAt x y := by
    rw [wrap_eq, Mask.row, Plane.get_row_bang _ (Nat.mod_lt _ screen.mask.width_pos)]
    rfl
  rw [classified_eq y hx, Inked, ← hthreshold]
  exact screen_pixel_ink ..

/-- The dot swap neither creates nor removes ink. -/
theorem classified_without_swap (hx : x < screen.width) :
    screen.classified x y ≠ 0 ↔ screen.withoutSwap.classified x y ≠ 0 :=
  (classified_ink y hx).1.trans (@classified_ink screen.withoutSwap x y hx).1.symm

/-- A raised dot keeps the laws of the dot before promotion. -/
theorem DotLaws.of_raised {code : UInt8} (hx : x < screen.width)
    (hraised : Raised (screen.classified x y) code)
    (hborder : x = 0 ∨ y = 0 ∨ screen.width ≤ x + 2 ∨ screen.height ≤ y + 2 →
      code = screen.classified x y) : screen.DotLaws x y code where
  ink := hraised.ne_zero_iff.trans (classified_ink y hx).1
  range := hraised.le (classified_ink y hx).2
  swap := classified_without_swap y hx
  promotion := hraised.ne_zero_iff
  raised := hraised
  border := hborder

end Screen

/-! ## Promotion -/

section Promotion

variable (parameters : Promotion) {above center below further : ScreenRow}

/-- Promoting a dot raises it and leaves the others. -/
theorem promote_dot_raised (dots : Bytes) (x j : Nat) :
    if x = j then
      Raised dots[j]!
        (BoundedRasterPipeline.promoteDot parameters above center below further dots x)[j]!
    else
      (BoundedRasterPipeline.promoteDot parameters above center below further dots x)[j]! =
        dots[j]! := by
  unfold BoundedRasterPipeline.promoteDot
  dsimp only
  by_cases hxj : x = j
  · subst hxj
    rw [if_pos rfl]
    split_ifs
    · exact .inl rfl
    · exact .inl rfl
    · exact .inl rfl
    · by_cases hx : x < dots.length
      · rw [RowScan.get_set hx, if_pos rfl]
        exact draw_dot_raised ..
      · rw [List.set_eq_of_length_le (Nat.le_of_not_lt hx)]
        exact .inl rfl
  · rw [if_neg hxj]
    split_ifs
    · rfl
    · rfl
    · rfl
    · simp [List.getElem!_eq_getElem?_getD, hxj]

/-- Promoting the dots of some columns, each of them once. -/
theorem promote_dots_raised {xs : List Nat} (hxs : xs.Nodup) (dots : Bytes) :
    let promoted : Bytes := xs.foldl
      (BoundedRasterPipeline.promoteDot parameters above center below further) dots
    promoted.length = dots.length ∧ (∀ j : Nat, Raised dots[j]! promoted[j]!) ∧
      ∀ j : Nat, j ∉ xs → promoted[j]! = dots[j]! := by
  -- Each column is raised by its own step alone, as the columns are different.
  induction xs generalizing dots with
  | nil => exact ⟨rfl, fun _ ↦ .inl rfl, fun _ _ ↦ rfl⟩
  | cons x xs ih =>
      obtain ⟨hfirst, hrest⟩ := List.nodup_cons.mp hxs
      obtain ⟨hlength, hraised, hothers⟩ := ih hrest
        (BoundedRasterPipeline.promoteDot parameters above center below further dots x)
      have hstep := @promote_dot_raised parameters above center below further dots x
      refine ⟨hlength.trans (promote_dot_length ..), ?_, ?_⟩
      · intro j
        have hj := hstep j
        by_cases hxj : x = j
        · subst hxj
          rw [if_pos rfl] at hj
          rw [List.foldl_cons, hothers x hfirst]
          exact hj
        · rw [if_neg hxj] at hj
          rw [List.foldl_cons, ← hj]
          exact hraised j
      · intro j hj
        obtain ⟨hxj, hnot⟩ := not_or.mp (List.mem_cons.not.mp hj)
        have hstay := hstep j
        rw [if_neg (Ne.symm hxj)] at hstay
        rw [List.foldl_cons, hothers j hnot, hstay]

/-- A row before and after it may have been promoted. -/
structure RowRaised (width height : Nat) (before after : ScreenRow) : Prop where
  y : after.y = before.y
  length : after.dots.length = before.dots.length
  raised : ∀ x : Nat, Raised before.dots[x]! after.dots[x]!
  border : ∀ x : Nat, x = 0 ∨ before.y = 0 ∨ width ≤ x + 2 ∨ height ≤ before.y + 2 →
    after.dots[x]! = before.dots[x]!

theorem RowRaised.refl (width height : Nat) (row : ScreenRow) : RowRaised width height row row :=
  ⟨rfl, rfl, fun _ ↦ .inl rfl, fun _ _ ↦ rfl⟩

/-- The filter raises dots of inner columns, and of inner rows only. -/
theorem promote_center_row_raised (width height : Nat) :
    RowRaised width height center
      (promoteCenterRow parameters width height above center below further) := by
  unfold promoteCenterRow
  split
  · exact .refl width height center
  · next hinner =>
      obtain ⟨hlength, hraised, hothers⟩ := @promote_dots_raised parameters above center below
        further (List.range' 1 (width - 3)) List.nodup_range' center.dots
      refine ⟨rfl, hlength, hraised, ?_⟩
      intro x hborder
      refine hothers x fun hx ↦ ?_
      have hcolumn := mem_inner hx
      omega

end Promotion

/-! ## The lines of a channel -/

namespace Screen

variable (screen : Screen)

/-- Every row of a channel is handed on once, with dots that were raised at most. -/
theorem promoted_rows :
    List.Forall₂ (RowRaised screen.width screen.height) (screen.rawRows screen.height)
      (screen.promoted (screen.rawRows screen.height)) := by
  unfold promoted
  split
  · refine RowScan.scan_all_forall₂ _ (RowRaised.refl _ _) ?_ _
    intro above center below further
    exact promote_center_row_raised screen.parameters screen.width screen.height
  · exact List.forall₂_same.mpr fun row _ ↦ .refl _ _ row

/-- The line of a row carries its number, and dots that keep the laws of the row. -/
theorem line_at {y : Nat} (hy : y < screen.height) :
    ∃ packed, screen.lines[y]? = some (y, packed) ∧
      ∀ x < screen.width, screen.DotLaws x y (dotAt packed x) := by
  have hrows := screen.promoted_rows
  have hraw : y < (screen.rawRows screen.height).length := by rwa [raw_rows_length]
  have hpromoted : y < (screen.promoted (screen.rawRows screen.height)).length := by
    rwa [← hrows.length_eq]
  have hrow := (List.forall₂_iff_get.mp hrows).2 y hraw hpromoted
  have hget : (screen.rawRows screen.height).get ⟨y, hraw⟩ = screen.rawRow y := by
    simp [rawRows]
  rw [hget] at hrow
  obtain ⟨row, hline, hrow⟩ : ∃ row, (screen.promoted (screen.rawRows screen.height))[y]? =
      some row ∧ RowRaised screen.width screen.height (screen.rawRow y) row :=
    ⟨_, List.getElem?_eq_getElem hpromoted, hrow⟩
  have hlength := hrow.length.trans (screen.raw_row_dots_length y)
  refine ⟨packRow row.dots row.dots.length, ?_, ?_⟩
  · rw [lines, List.getElem?_map, hline]
    exact congrArg some (Prod.ext hrow.y rfl)
  · intro x hx
    have hraised : Raised (screen.classified x y) row.dots[x]! := hrow.raised x
    have hrange := hraised.le (classified_ink y hx).2
    rw [hlength, dot_at_pack_row _ hx, and_three hrange]
    refine DotLaws.of_raised y hx hraised fun hborder ↦ hrow.border x ?_
    exact hborder

/-- The lines carry the numbers of the rows. -/
theorem lines_rows : screen.lines.map Prod.fst = List.range screen.height := by
  refine List.ext_getElem? ?_
  intro y
  by_cases hy : y < screen.height
  · obtain ⟨packed, hline, -⟩ := screen.line_at hy
    rw [List.getElem?_map, hline, List.getElem?_range hy]
    rfl
  · rw [List.getElem?_eq_none (by simpa [lines_length] using hy),
      List.getElem?_eq_none (by simpa using hy)]

/-- The laws hold of every line. -/
theorem line_laws {y : Nat} {packed : Bytes} (h : (y, packed) ∈ screen.lines) :
    y < screen.height ∧ ∀ x < screen.width, screen.DotLaws x y (dotAt packed x) := by
  obtain ⟨i, hi, hline⟩ := List.mem_iff_getElem.mp h
  obtain ⟨packed', hline', hlaws⟩ := screen.line_at (lines_length screen ▸ hi)
  rw [List.getElem?_eq_getElem hi, hline] at hline'
  cases hline'
  exact ⟨lines_length screen ▸ hi, hlaws⟩

end Screen

/-! ## The full-frame engine -/

namespace MultiInkScreenEngine

variable {V : Type} [QVariantApi V] (req : ScreenRequest V) (maskLoader : String → Option Mask)

/-- The packed lines of a channel hold a line for each row, with dots that keep the laws of the
channel. -/
def LinesMeetLaws (screen : Screen) (lines : PackedLines) : Prop :=
  lines.length = screen.height ∧
    ∀ y < screen.height, ∀ x < screen.width, screen.DotLaws x y (dotAt lines[y]! x)

theorem packed_lines_meet_laws (screen : Screen) : LinesMeetLaws screen (packedLines screen) := by
  refine ⟨by rw [packedLines, List.length_map, Screen.lines_length], ?_⟩
  intro y hy
  obtain ⟨packed, hline, hlaws⟩ := screen.line_at hy
  have hget : (packedLines screen)[y]! = packed := by
    rw [packedLines, List.getElem!_eq_getElem?_getD, List.getElem?_map, hline]
    rfl
  rwa [hget]

/-- The lines of the channels from number `ch` on: each channel has its tones and its mask. -/
def ChannelsMeetLaws : Nat → List ChannelRequest → List PackedLines → Prop
  | _, [], packed => packed = []
  | _, _ :: _, [] => False
  | ch, channelReq :: rest, lines :: others =>
    (∃ mask tone, ∃ htone : tone.length = req.width * req.height,
      channelReq.toneBytes = some tone ∧ maskLoader channelReq.maskKey = some mask ∧
      LinesMeetLaws (channelScreen req channelReq mask ch "" tone htone) lines) ∧
    ChannelsMeetLaws (ch + 1) rest others

variable {maskLoader}

/-- Planes that were dithered without a cancellation are those of the channel. -/
theorem dither_rows_some (mask : Mask) (channelReq : ChannelRequest) (ch : Nat) (tone : Bytes) :
    Meets (ditherRows req channelReq mask ch tone (List.range req.height) [])
      fun _ result ↦ ∀ dithered, result = some dithered →
        dithered = planes req channelReq mask ch tone := by
  refine (dither_rows_meets req mask channelReq ch tone _ []).mono ?_
  intro trace result hresult dithered hsome
  by_cases hcanceled : Canceled trace
  · cases (hresult.stopped hcanceled).symm.trans hsome
  · exact Option.some.inj (hsome.symm.trans (hresult.finished hcanceled))

/-- Each channel that is screened meets its laws. The mask kept from the channel before is the one
its key loads, or none. -/
theorem screen_from_laws {ch : Nat} {channels : List ChannelRequest} {lastMaskKey : String}
    {lastMask : Option Mask} (hlast : lastMask = none ∨ lastMask = maskLoader lastMaskKey)
    (allPacked : List PackedLines) :
    Meets (screenFrom req maskLoader ch channels lastMaskKey lastMask allPacked)
      fun _ result ↦ ∀ packed, result = some packed →
        ∃ more, packed = allPacked ++ more ∧ ChannelsMeetLaws req maskLoader ch channels more := by
  -- The mask is kept from the channel before when the key is the same, which `hlast` accounts for.
  induction channels generalizing ch lastMaskKey lastMask allPacked with
  | nil =>
      refine .pure ?_
      intro packed hpacked
      exact ⟨[], by rw [List.append_nil, Option.some.inj hpacked], rfl⟩
  | cons channelReq channels ih =>
      have hfail : Meets (pure none : EngineProgram (Option (List PackedLines)))
          fun _ result ↦ ∀ packed, result = some packed → ∃ more, packed = allPacked ++ more ∧
            ChannelsMeetLaws req maskLoader ch (channelReq :: channels) more :=
        .pure fun packed hpacked ↦ absurd hpacked (Option.some_ne_none packed).symm
      refine .call_bind ?_
      intro canceled
      cases canceled with
      | true => exact hfail
      | false =>
          cases htone : channelReq.toneBytes with
          | none => exact hfail
          | some tone =>
              dsimp only
              by_cases hlength : tone.length = req.width * req.height
              · rw [if_neg (not_not_intro hlength)]
                have hloaded : ∀ mask, (if channelReq.maskKey = lastMaskKey then lastMask
                    else maskLoader channelReq.maskKey) = some mask →
                      maskLoader channelReq.maskKey = some mask := by
                  intro mask hmask
                  by_cases hsame : channelReq.maskKey = lastMaskKey
                  · rw [if_pos hsame] at hmask
                    rcases hlast with hnone | hlast
                    · cases hnone.symm.trans hmask
                    · rw [hsame, ← hlast, hmask]
                  · rwa [if_neg hsame] at hmask
                cases hmask : (if channelReq.maskKey = lastMaskKey then lastMask
                    else maskLoader channelReq.maskKey) with
                | none => exact hfail
                | some mask =>
                    have hkey := hloaded mask hmask
                    dsimp only
                    refine Meets.bind (dither_rows_some req mask channelReq ch tone) ?_
                    intro before dithered hdithered
                    cases dithered with
                    | none => exact hfail
                    | some dithered =>
                        obtain rfl := hdithered dithered rfl
                        refine (ih (.inr hkey.symm) _).mono ?_
                        intro after result hresult packed hpacked
                        obtain ⟨more, rfl, hmore⟩ := hresult packed hpacked
                        refine ⟨_ :: more, List.append_assoc .., ⟨mask, tone, hlength, htone, hkey,
                          ?_⟩, hmore⟩
                        have hlaws := packed_lines_meet_laws
                          (channelScreen req channelReq mask ch "" tone hlength)
                        rwa [packedLines, screened_lines_eq, map_snd_numbered] at hlaws
              · rw [if_pos hlength]
                exact hfail

/-- Whatever `screenChannels` returns meets the laws of all channels. -/
theorem screen_channels_laws :
    Meets (screenChannels req maskLoader) fun _ result ↦ ∀ allPacked, result = some allPacked →
      ChannelsMeetLaws req maskLoader 0 req.channels allPacked := by
  unfold screenChannels
  refine .ite (fun _ ↦ .pure nofun) fun _ ↦ ?_
  refine (screen_from_laws req (.inl rfl) []).mono ?_
  intro trace result hresult allPacked hpacked
  obtain ⟨more, rfl, hmore⟩ := hresult allPacked hpacked
  exact hmore

end MultiInkScreenEngine

/-! ## The bounded pipeline -/

namespace BoundedRasterPipeline

/-- A tone for each pixel of an image. -/
def TonePlane (width height : Nat) : Type := { plane : Bytes // plane.length = width * height }

section Pipeline

variable {V : Type} [QVariantApi V] (width height : Nat) (screenSeed : UInt32)
  (promotionParameters : QVariantMap V)

/-- The screen of a channel of the pipeline. -/
def spoolScreen (channel : Nat) (config : ScreenChannel) (mask : Mask)
    (plane : TonePlane width height) : Screen where
  config := config
  mask := mask
  offsetX := maskOffsetX mask channel screenSeed
  offsetY := maskOffsetY mask channel screenSeed
  width := width
  height := height
  parameters := promotion promotionParameters
  tone := plane.val
  tone_length := plane.property

variable (openMask : String → Except String Mask)

/-- The screens of the channels of an image from number `channel` on. -/
def SpoolScreens : Nat → List (ScreenChannel × TonePlane width height) → List Screen → Prop
  | _, [], screens => screens = []
  | channel, (config, plane) :: rest, screens =>
    ∃ mask others, openMask config.maskPath = .ok mask ∧
      screens = spoolScreen width height screenSeed promotionParameters channel config mask plane ::
        others ∧
      SpoolScreens (channel + 1) rest others

variable {width height screenSeed promotionParameters openMask}
  {image : List (ScreenChannel × TonePlane width height)} {screens : List Screen} {channel : Nat}

theorem spool_screens_uniform
    (h : SpoolScreens width height screenSeed promotionParameters openMask channel image screens) :
    Uniform screens width height (promotion promotionParameters) := by
  induction image generalizing channel screens with
  | nil =>
      have hnone : screens = [] := h
      rw [hnone]
      exact fun _ hscreen ↦ (List.not_mem_nil hscreen).elim
  | cons first rest ih =>
      obtain ⟨mask, others, _, rfl, hrest⟩ := h
      intro screen hscreen
      rcases List.mem_cons.mp hscreen with rfl | hother
      · exact ⟨rfl, rfl, rfl⟩
      · exact ih hrest screen hother

theorem spool_screens_strips
    (h : SpoolScreens width height screenSeed promotionParameters openMask channel image screens)
    (firstRow rowCount : Nat) :
    (image.map fun entry ↦ Plane.strip entry.2.val width firstRow rowCount) =
      screens.map fun screen ↦ Plane.strip screen.tone screen.width firstRow rowCount := by
  induction image generalizing channel screens with
  | nil =>
      have hnone : screens = [] := h
      rw [hnone]
      rfl
  | cons first rest ih =>
      obtain ⟨mask, others, _, rfl, hrest⟩ := h
      rw [List.map_cons, List.map_cons, ih hrest]
      rfl

/-- The screen of a channel by its number. -/
theorem spool_screens_get
    (h : SpoolScreens width height screenSeed promotionParameters openMask channel image screens)
    (i : Nat) : screens[i]? = none ∧ image[i]? = none ∨
      ∃ config plane mask, image[i]? = some (config, plane) ∧
        openMask config.maskPath = .ok mask ∧
        screens[i]? = some (spoolScreen width height screenSeed promotionParameters (channel + i)
          config mask plane) := by
  induction image generalizing channel screens i with
  | nil =>
      have hnone : screens = [] := h
      rw [hnone]
      exact .inl ⟨rfl, rfl⟩
  | cons first rest ih =>
      obtain ⟨mask, others, hmask, rfl, hrest⟩ := h
      cases i with
      | zero => exact .inr ⟨first.1, first.2, mask, rfl, hmask, rfl⟩
      | succ i =>
          have hnext := ih hrest i
          rwa [Nat.add_right_comm] at hnext

/-- Channels that were opened have screens, and stand before their first row. -/
theorem open_states_screens {states : List ScreenState}
    (hopen : openStates openMask screenSeed channel (image.map Prod.fst) = .ok states) :
    ∃ screens,
      SpoolScreens width height screenSeed promotionParameters openMask channel image screens ∧
      ∀ before : List Screen, before.length = channel →
        Standings (before ++ screens) 0 [] channel states := by
  -- A channel that cannot open its mask ends the loop, so every channel before has its screen.
  induction image generalizing channel states with
  | nil =>
      obtain rfl := Except.ok.inj hopen
      refine ⟨[], rfl, ?_⟩
      intro before hbefore
      show channel = (before ++ []).length
      rw [List.append_nil, hbefore]
  | cons first rest ih =>
      rw [List.map_cons, openStates] at hopen
      cases hmask : openMask first.1.maskPath with
      | error message => simp only [hmask, reduceCtorEq] at hopen
      | ok mask =>
          rw [hmask] at hopen
          dsimp only at hopen
          cases hrest : openStates openMask screenSeed (channel + 1) (rest.map Prod.fst) with
          | error message => simp only [hrest, reduceCtorEq] at hopen
          | ok others =>
              rw [hrest] at hopen
              obtain rfl := Except.ok.inj hopen
              obtain ⟨screens, hscreens, hstandings⟩ := ih hrest
              refine ⟨_ :: screens, ⟨mask, screens, hmask, rfl, hscreens⟩, ?_⟩
              intro before hbefore
              have hrest := hstandings (before ++ [spoolScreen width height screenSeed
                promotionParameters channel first.1 mask first.2]) (by simp [hbefore])
              rw [List.append_assoc] at hrest
              refine ⟨⟨spoolScreen width height screenSeed promotionParameters channel first.1 mask
                first.2, ?_, ?_⟩, hrest⟩
              · rw [← hbefore, List.getElem?_append_right (Nat.le_refl _), Nat.sub_self]
                rfl
              · refine ⟨rfl, rfl, rfl, rfl, [], rfl, ?_⟩
                split
                · exact RowScan.Holds.nil _
                · exact ⟨rfl, rfl⟩

variable {toneProvider : Nat → Nat → Except String (List Bytes)}

/-- A run of the pipeline hands on nothing, or the lines of its screens from the first on; a run
that succeeds hands on all of them. -/
theorem screen_to_spool_screens (stripRows : Int)
    (hprovider : ∀ firstRow rowCount, 0 < rowCount → firstRow + rowCount ≤ height →
      ∀ tones, toneProvider firstRow rowCount = .ok tones →
        tones = image.map fun entry ↦ Plane.strip entry.2.val width firstRow rowCount) :
    Meets (screenToSpool width height screenSeed promotionParameters (image.map Prod.fst) openMask
        toneProvider stripRows).run fun trace result ↦
      (trace = [] ∧ result ≠ .ok ()) ∨
        ∃ screens, SpoolScreens width height screenSeed promotionParameters openMask 0 image screens ∧
          InOrder screens trace ∧
          (result = .ok () → ∀ channel, written channel trace = channelLines screens channel) := by
  by_cases hrequest : width = 0 ∨ height = 0 ∨ image.map Prod.fst = []
  · rw [screenToSpool, if_pos hrequest]
    exact .pure (.inl ⟨rfl, fun h ↦ by cases h⟩)
  have hpositive : 0 < width ∧ 0 < height ∧ image.map Prod.fst ≠ [] := by
    simp only [not_or] at hrequest
    exact ⟨Nat.pos_of_ne_zero hrequest.1, Nat.pos_of_ne_zero hrequest.2.1, hrequest.2.2⟩
  cases hopen : openStates openMask screenSeed 0 (image.map Prod.fst) with
  | error message =>
      rw [screenToSpool, if_neg hrequest, hopen]
      exact .pure (.inl ⟨rfl, fun h ↦ by cases h⟩)
  | ok states =>
      obtain ⟨screens, hscreens, hstandings⟩ :=
        @open_states_screens _ _ width height screenSeed promotionParameters openMask image 0 states
          hopen
      refine (screen_to_spool_meets stripRows hpositive.1 hpositive.2.1 hpositive.2.2
        (spool_screens_uniform hscreens) ?_ hopen (hstandings [] rfl)).mono ?_
      · intro firstRow rowCount hcount hrows tones htones
        rw [hprovider firstRow rowCount hcount hrows tones htones,
          spool_screens_strips hscreens]
      · intro trace result hrun
        refine .inr ⟨screens, hscreens, hrun.1, fun hok ↦ ?_⟩
        rcases hrun.2 with ⟨_, hcomplete⟩ | ⟨_, herror⟩
        · exact hcomplete
        · exact absurd hok herror

/-- Every line that is handed on keeps the laws of its channel, and a run that succeeds hands on one
for each row. -/
theorem screen_to_spool_laws (stripRows : Int)
    (hprovider : ∀ firstRow rowCount, 0 < rowCount → firstRow + rowCount ≤ height →
      ∀ tones, toneProvider firstRow rowCount = .ok tones →
        tones = image.map fun entry ↦ Plane.strip entry.2.val width firstRow rowCount) :
    Meets (screenToSpool width height screenSeed promotionParameters (image.map Prod.fst) openMask
        toneProvider stripRows).run fun trace result ↦
      (∀ channel y packed, (y, packed) ∈ written channel trace → ∃ config plane mask,
        image[channel]? = some (config, plane) ∧ openMask config.maskPath = .ok mask ∧
        y < height ∧ ∀ x < width, (spoolScreen width height screenSeed promotionParameters channel
          config mask plane).DotLaws x y (dotAt packed x)) ∧
      (result = .ok () → ∀ channel < image.length,
        (written channel trace).map Prod.fst = List.range height) := by
  refine (screen_to_spool_screens stripRows hprovider).mono ?_
  rintro trace result (⟨rfl, herror⟩ | ⟨screens, hscreens, hordered, hcomplete⟩)
  · exact ⟨fun _ _ _ h ↦ absurd h List.not_mem_nil, fun hok ↦ absurd hok herror⟩
  have hlines : ∀ channel, channelLines screens channel = [] ∧ image[channel]? = none ∨
      ∃ config plane mask, image[channel]? = some (config, plane) ∧
        openMask config.maskPath = .ok mask ∧ channelLines screens channel =
          (spoolScreen width height screenSeed promotionParameters channel config mask
            plane).lines := by
    intro channel
    rcases spool_screens_get hscreens channel with ⟨hnone, hend⟩ | ⟨config, plane, mask, h⟩
    · exact .inl ⟨by rw [channelLines, hnone]; rfl, hend⟩
    · refine .inr ⟨config, plane, mask, h.1, h.2.1, ?_⟩
      rw [channelLines, h.2.2, Nat.zero_add]
      rfl
  refine ⟨?_, ?_⟩
  · intro channel y packed hwritten
    have hline := (hordered channel).subset hwritten
    rcases hlines channel with ⟨hnone, _⟩ | ⟨config, plane, mask, himage, hmask, hscreen⟩
    · rw [hnone] at hline
      exact absurd hline List.not_mem_nil
    · rw [hscreen] at hline
      obtain ⟨hy, hlaws⟩ := Screen.line_laws _ hline
      exact ⟨config, plane, mask, himage, hmask, hy, hlaws⟩
  · intro hok channel hchannel
    rw [hcomplete hok channel]
    rcases hlines channel with ⟨_, hend⟩ | ⟨config, plane, mask, _, _, hscreen⟩
    · exact absurd (List.getElem?_eq_none_iff.mp hend) (Nat.not_le.mpr hchannel)
    · rw [hscreen]
      exact Screen.lines_rows _

end Pipeline

/-- In both programs a dot is printed exactly where the tone passes the gate and the lifted tone
exceeds the mask; its code is at most three, the dot swap and promotion neither create nor remove
it, and promotion raises it by one level at most, away from the border. The tone provider has no
strips but those of the image. -/
theorem ink_presence {V : Type} [QVariantApi V] (req : MultiInkScreenEngine.ScreenRequest V)
    (maskLoader : String → Option Mask) {width height : Nat} (screenSeed : UInt32)
    (promotionParameters : QVariantMap V) (image : List (ScreenChannel × TonePlane width height))
    (openMask : String → Except String Mask)
    (toneProvider : Nat → Nat → Except String (List Bytes)) (stripRows : Int)
    (hprovider : ∀ firstRow rowCount, 0 < rowCount → firstRow + rowCount ≤ height →
      ∀ tones, toneProvider firstRow rowCount = .ok tones →
        tones = image.map fun entry ↦ Plane.strip entry.2.val width firstRow rowCount) :
    (Meets (MultiInkScreenEngine.screenChannels req maskLoader) fun _ result ↦
      ∀ allPacked, result = some allPacked →
        MultiInkScreenEngine.ChannelsMeetLaws req maskLoader 0 req.channels allPacked) ∧
    Meets (screenToSpool width height screenSeed promotionParameters (image.map Prod.fst) openMask
        toneProvider stripRows).run fun trace result ↦
      (∀ channel y packed, (y, packed) ∈ written channel trace → ∃ config plane mask,
        image[channel]? = some (config, plane) ∧ openMask config.maskPath = .ok mask ∧
        y < height ∧ ∀ x < width, (spoolScreen width height screenSeed promotionParameters channel
          config mask plane).DotLaws x y (dotAt packed x)) ∧
      (result = .ok () → ∀ channel < image.length,
        (written channel trace).map Prod.fst = List.range height) :=
  ⟨MultiInkScreenEngine.screen_channels_laws req,
    screen_to_spool_laws stripRows hprovider⟩

/-- The image of `squareRequest`, for the pipeline. -/
def squareImage : List (ScreenChannel × TonePlane 4 4) :=
  [({ maskPath := "k.png", enablePromotion := true }, ⟨List.replicate 16 200, rfl⟩)]

theorem ink_presence_square :
    (Meets (MultiInkScreenEngine.screenChannels squareRequest fun _ ↦ some pixelMask) fun _ result ↦
      ∀ allPacked, result = some allPacked →
        MultiInkScreenEngine.ChannelsMeetLaws squareRequest (fun _ ↦ some pixelMask) 0
          squareRequest.channels allPacked) ∧
    Meets (screenToSpool 4 4 7 (variantMap ([] : List (String × Variant)))
        (squareImage.map Prod.fst) (fun _ ↦ .ok pixelMask)
        (fun firstRow rowCount ↦ .ok [Plane.strip (List.replicate 16 200) 4 firstRow rowCount])
        3).run fun trace result ↦
      (∀ channel y packed, (y, packed) ∈ written channel trace → ∃ config plane mask,
        squareImage[channel]? = some (config, plane) ∧
        Except.ok (ε := String) pixelMask = .ok mask ∧
        y < 4 ∧ ∀ x < 4, (spoolScreen 4 4 7 (variantMap ([] : List (String × Variant))) channel
          config mask plane).DotLaws x y (dotAt packed x)) ∧
      (result = .ok () → ∀ channel < 1,
        (written channel trace).map Prod.fst = List.range 4) := by
  refine ink_presence squareRequest _ 7 _ squareImage _ _ 3 ?_
  intro firstRow rowCount _ _ tones htones
  exact (Except.ok.inj htones).symm

end BoundedRasterPipeline

end PrintFlow
