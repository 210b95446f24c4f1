import PrintFlow.Vendor.Nocai.PrnWriter

/-!
# What a failed write leaves of the output

A spool is written to a temporary file that replaces the output when it is complete, and the
multi-ink writer of packed lines reports no failure once its output is open. The X-33 writer of
packed lines truncates its output before it has looked at the lines. `failed_write_iff` says for
every writer when a failure leaves the output as it was.
-/

namespace PrintFlow.NocaiPrnWriter

open FileStore RasterSpool

/-- A call of one of the writers. -/
inductive Write where
  | standardCmyk (packedLines : List (List Bytes)) (channelOrder : List Int32)
      (width height xdpi ydpi : Int32)
  | standardX33 (packedLines : List (List Bytes)) (channelOrder : List Int32)
      (width height xdpi ydpi : Int32)
  | standardX33FromSpool (spool : DirectPrintSpool)
  | multiInk (packedLines : List (List Bytes)) (channelOrder : List Int32) (mode : MultiInkMode)
      (width height xdpi ydpi bytesPerLine : Int32)
  | multiInkFromSpool (spool : DirectPrintSpool) (mode : MultiInkMode)

section Writers

variable (localOutputPath : String → String) (io : OutputIo) (files : Store String)
  (sha256 : Sha256) (checksumIo : ChecksumIo) (outputPath : String)

/-- The files after a call and its result, or `none` when the code reads out of bounds. -/
def Write.apply : Write → Option (Store String × Bool)
  | .standardCmyk packedLines channelOrder width height xdpi ydpi =>
      writeStandardCmykPrn localOutputPath io files packedLines channelOrder width height xdpi ydpi
        outputPath
  | .standardX33 packedLines channelOrder width height xdpi ydpi =>
      writeStandardX33Prn localOutputPath io files packedLines channelOrder width height xdpi ydpi
        outputPath
  | .standardX33FromSpool spool =>
      some (writeStandardX33PrnFromSpool localOutputPath io files sha256 checksumIo spool outputPath)
  | .multiInk packedLines channelOrder mode width height xdpi ydpi bytesPerLine =>
      writeMultiInkPrn localOutputPath io files packedLines channelOrder mode width height xdpi ydpi
        bytesPerLine outputPath
  | .multiInkFromSpool spool mode =>
      some (writeMultiInkPrnFromSpool localOutputPath io files sha256 checksumIo spool mode
        outputPath)

/-- A call that fails leaves the output file as it was. -/
def Write.LeavesOutput (write : Write) : Prop :=
  ∀ after, write.apply localOutputPath io files sha256 checksumIo outputPath = some (after, false) →
    after (localOutputPath outputPath) = files (localOutputPath outputPath)

/-- When an X-33 file of packed lines keeps its output from a failure: a check that comes before the
open fails, or the output was empty and a check of the lines fails, or everything is written, or the
output held just what was written until the stream failed. -/
def SparesOutput (packedLines : List (List Bytes)) (channelOrder : List Int32)
    (width height xdpi ydpi : Int32) : Prop :=
  match packedLines with
  | [] | [] :: _ => True
  | (first :: _) :: _ =>
    let bytesPerLine := UInt32.ofNat first.length
    let header := makeStandardX33Header width height xdpi ydpi bytesPerLine.toInt32
      (Int32.ofNat channelOrder.length)
    (¬ IsX33Order channelOrder ∨ width ≤ 0 ∨ height ≤ 0 ∨ ¬ io.opened) ∨
    if bytesPerLine = 0 ∨ ¬ channelOrder.all (channelFits packedLines height bytesPerLine) then
      files (localOutputPath outputPath) = some []
    else
      ∀ lines, (planeLines channelOrder height).mapM
          (fun (channel, row) ↦ packedLine packedLines channel row) = some lines →
        ((streamed io 0 [] (x33HeaderBytes header :: lines)).2 = true ∧ io.closed = true) ∨
          files (localOutputPath outputPath) =
            some (streamed io 0 [] (x33HeaderBytes header :: lines)).1

/-- When a call keeps its output from a failure. -/
def Write.Spares : Write → Prop
  | .standardCmyk packedLines channelOrder width height xdpi ydpi =>
      channelOrder = [2, 1, 0, 3] →
        SparesOutput localOutputPath io files outputPath packedLines channelOrder width height xdpi
          ydpi
  | .standardX33 packedLines channelOrder width height xdpi ydpi =>
      SparesOutput localOutputPath io files outputPath packedLines channelOrder width height xdpi
        ydpi
  | _ => True

end Writers

variable {localOutputPath : String → String} {io : OutputIo} {files after : Store String}
  {sha256 : Sha256} {checksumIo : ChecksumIo} {outputPath path : String}

/-- A `QSaveFile` that is not committed leaves all files alone. -/
theorem save_prn_failed {reader : Reader} {header : Bytes} {channelOrder : List Int32}
    {height : Int32}
    (h : savePrn io files path reader header channelOrder height = (after, false)) :
    after = files := by
  unfold savePrn at h
  split at h
  · exact (congrArg Prod.fst h).symm
  · split at h
    · exact (congrArg Prod.fst h).symm
    · split at h
      · exact absurd (congrArg Prod.snd h).symm Bool.false_ne_true
      · exact (congrArg Prod.fst h).symm

/-- So does an X-33 file that is not written from a spool. -/
theorem x33_from_spool_failed {spool : DirectPrintSpool}
    (h : writeStandardX33PrnFromSpool localOutputPath io files sha256 checksumIo spool outputPath =
      (after, false)) : after = files := by
  unfold writeStandardX33PrnFromSpool at h
  split at h
  · exact (congrArg Prod.fst h).symm
  · split at h
    · exact save_prn_failed h
    · exact (congrArg Prod.fst h).symm

/-- And a multi-ink file. -/
theorem multi_ink_from_spool_failed {spool : DirectPrintSpool} {mode : MultiInkMode}
    (h : writeMultiInkPrnFromSpool localOutputPath io files sha256 checksumIo spool mode outputPath =
      (after, false)) : after = files := by
  unfold writeMultiInkPrnFromSpool at h
  split at h
  · exact (congrArg Prod.fst h).symm
  · split at h
    · exact save_prn_failed h
    · exact (congrArg Prod.fst h).symm

/-- The multi-ink writer of packed lines fails only before it opens its output. -/
theorem multi_ink_failed {packedLines : List (List Bytes)} {channelOrder : List Int32}
    {mode : MultiInkMode} {width height xdpi ydpi bytesPerLine : Int32}
    (h : writeMultiInkPrn localOutputPath io files packedLines channelOrder mode width height xdpi
      ydpi bytesPerLine outputPath = some (after, false)) : after = files := by
  unfold writeMultiInkPrn at h
  split at h
  · exact (congrArg Prod.fst (Option.some.inj h)).symm
  · exact (congrArg Prod.fst (Option.some.inj h)).symm
  · dsimp only at h
    split at h
    · exact (congrArg Prod.fst (Option.some.inj h)).symm
    · obtain ⟨written, -, hwritten⟩ := Option.bind_eq_some_iff.mp h
      exact absurd (congrArg Prod.snd (Option.some.inj hwritten)) nofun

/-- What the output stream leaves when it fails. -/
theorem stream_prn_spares {packedLines : List (List Bytes)} {header : Bytes}
    {channelOrder : List Int32} {height : Int32} :
    (∀ after, streamPrn io files path packedLines header channelOrder height = some (after, false) →
        after path = files path) ↔
      ∀ lines, (planeLines channelOrder height).mapM
          (fun (channel, row) ↦ packedLine packedLines channel row) = some lines →
        ((streamed io 0 [] (header :: lines)).2 = true ∧ io.closed = true) ∨
          files path = some (streamed io 0 [] (header :: lines)).1 := by
  unfold streamPrn
  cases (planeLines channelOrder height).mapM
      (fun (channel, row) ↦ packedLine packedLines channel row) with
  | none => exact ⟨fun _ lines hlines ↦ absurd hlines nofun, fun _ after hafter ↦ absurd hafter nofun⟩
  | some lines =>
      show (∀ after, some (files.set path (streamed io 0 [] (header :: lines)).1,
          (streamed io 0 [] (header :: lines)).2 && io.closed) = some (after, false) →
        after path = files path) ↔ _
      constructor
      · intro h others hothers
        obtain rfl := Option.some.inj hothers
        by_cases hgood : ((streamed io 0 [] (header :: lines)).2 && io.closed) = true
        · exact .inl (Bool.and_eq_true_iff.mp hgood)
        · have hleft := h _ (by rw [Bool.eq_false_iff.mpr hgood])
          exact .inr ((Store.set_same _ _ _).symm.trans hleft).symm
      · intro h after hafter
        obtain ⟨rfl, hbad⟩ := Prod.mk.inj (Option.some.inj hafter)
        rcases h lines rfl with hgood | hsame
        · rw [hgood.1, hgood.2] at hbad
          exact absurd hbad nofun
        · rw [Store.set_same, hsame]

/-- When the X-33 writer of packed lines keeps its output from a failure. -/
theorem x33_spares {packedLines : List (List Bytes)} {channelOrder : List Int32}
    {width height xdpi ydpi : Int32} :
    (∀ after, writeStandardX33Prn localOutputPath io files packedLines channelOrder width height xdpi
          ydpi outputPath = some (after, false) →
        after (localOutputPath outputPath) = files (localOutputPath outputPath)) ↔
      SparesOutput localOutputPath io files outputPath packedLines channelOrder width height xdpi
        ydpi := by
  match packedLines with
  | [] =>
      refine ⟨fun _ ↦ trivial, fun _ after (hafter : some (files, false) = _) ↦ ?_⟩
      rw [(Prod.mk.inj (Option.some.inj hafter)).1]
  | [] :: _ =>
      refine ⟨fun _ ↦ trivial, fun _ after (hafter : some (files, false) = _) ↦ ?_⟩
      rw [(Prod.mk.inj (Option.some.inj hafter)).1]
  | (first :: rest) :: planes =>
      unfold writeStandardX33Prn SparesOutput
      dsimp only
      by_cases hearly : ¬ IsX33Order channelOrder ∨ width ≤ 0 ∨ height ≤ 0 ∨ ¬ io.opened = true
      · rw [if_pos hearly]
        refine ⟨fun _ ↦ .inl hearly, fun _ after hafter ↦ ?_⟩
        rw [(Prod.mk.inj (Option.some.inj hafter)).1]
      · rw [if_neg hearly]
        split
        · -- The stream is open and has truncated its target.
          constructor
          · intro h
            have hleft := h _ rfl
            exact .inr ((Store.set_same _ _ _).symm.trans hleft).symm
          · intro h after hafter
            rw [← (Prod.mk.inj (Option.some.inj hafter)).1, Store.set_same,
              h.resolve_left hearly]
        · rw [stream_prn_spares, or_iff_right hearly]

/-- A failed call leaves its output as it was exactly if it spares it. -/
theorem failed_write_iff (localOutputPath : String → String) (io : OutputIo)
    (files : Store String) (sha256 : Sha256) (checksumIo : ChecksumIo) (outputPath : String)
    (write : Write) :
    write.LeavesOutput localOutputPath io files sha256 checksumIo outputPath ↔
      write.Spares localOutputPath io files outputPath := by
  -- Only the X-33 writer of packed lines, which the CMYK writer calls, writes into the output itself;
  -- the others leave all files alone when they fail.
  cases write with
  | standardCmyk packedLines channelOrder width height xdpi ydpi =>
      unfold Write.LeavesOutput Write.apply Write.Spares writeStandardCmykPrn
      dsimp only
      by_cases horder : channelOrder = [2, 1, 0, 3]
      · rw [if_neg (not_not.mpr horder), x33_spares]
        exact ⟨fun h _ ↦ h, fun h ↦ h horder⟩
      · rw [if_pos horder]
        refine ⟨fun _ hyes ↦ absurd hyes horder, fun _ after hafter ↦ ?_⟩
        rw [(Prod.mk.inj (Option.some.inj hafter)).1]
  | standardX33 packedLines channelOrder width height xdpi ydpi => exact x33_spares
  | standardX33FromSpool spool =>
      refine ⟨fun _ ↦ trivial, fun _ after hafter ↦ ?_⟩
      rw [x33_from_spool_failed (Option.some.inj hafter)]
  | multiInk packedLines channelOrder mode width height xdpi ydpi bytesPerLine =>
      refine ⟨fun _ ↦ trivial, fun _ after hafter ↦ ?_⟩
      rw [multi_ink_failed hafter]
  | multiInkFromSpool spool mode =>
      refine ⟨fun _ ↦ trivial, fun _ after hafter ↦ ?_⟩
      rw [multi_ink_from_spool_failed (Option.some.inj hafter)]

/-- A raster without the planes of its order empties the file that was there. -/
theorem malformed_raster_truncates :
    writeStandardCmykPrn id {} (Store.set (fun _ ↦ none) "job.prn" [1, 2, 3]) [[[0, 0, 0, 0]]]
        [2, 1, 0, 3] 4 1 720 600 "job.prn" =
      some (Store.set (Store.set (fun _ ↦ none) "job.prn" [1, 2, 3]) "job.prn" [], false) ∧
    Store.set (Store.set (fun _ ↦ none) "job.prn" [1, 2, 3]) "job.prn" [] "job.prn" ≠
      Store.set (fun _ ↦ none) "job.prn" [1, 2, 3] "job.prn" := by
  refine ⟨rfl, ?_⟩
  rw [Store.set_same, Store.set_same]
  decide

end PrintFlow.NocaiPrnWriter
