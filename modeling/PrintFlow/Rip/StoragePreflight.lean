import Mathlib.Algebra.Order.BigOperators.Group.List
import PrintFlow.Core.RasterSpool.Header
import PrintFlow.Library.CheckedArithmetic
import PrintFlow.Rip.BoundedRasterPipeline

/-!
# The storage preflight

Before a job is rastered `preflightStorage` adds up what its temporary files and caches will need
and compares the sum, with a fifth more, to the space that is left. Every step is checked for
overflow. `preflight_storage_iff` says that the job is admitted exactly if the requirement over the
unbounded integers fits into the available space.
-/

namespace PrintFlow.BoundedRasterPipeline

open CheckedArithmetic

/-- `sizeof(Magick::Quantum)`, which is at most that of a `long double`. -/
structure MagickQuantum where
  bytes : UInt64
  bytes_le : bytes ≤ 16

/-- `QStorageInfo` of the scratch directory. `bytesAvailable` is negative for an invalid one
only. -/
structure QStorageInfo where
  isValid : Bool
  isReady : Bool
  bytesAvailable : Int64
  available_nonneg : isValid = true → 0 ≤ bytesAvailable.toInt

/-- The parameters of `preflightStorage`. -/
structure StorageRequest where
  width : Int32
  height : Int32
  sourceWidth : Int32
  sourceHeight : Int32
  logicalChannels : Int32
  physicalChannels : Int32
  includeFinalPrn : Bool
  includeAlphaCache : Bool := false
  externalPlateCaches : Int32 := 0
  maskCacheBytes : UInt64 := 0

/-- A number of bytes in MiB, rounded down. -/
def inMiB (bytes : UInt64) : String := toString (bytes / .ofNat MiB)

variable (quantum : MagickQuantum) (r : StorageRequest)

/-- `resizeRequired`. -/
def StorageRequest.resizeRequired : Bool := r.sourceWidth ≠ r.width || r.sourceHeight ≠ r.height

/-- `std::clamp(externalPlateCaches, 0, 2)`. -/
def StorageRequest.plateCaches : Int32 :=
  if r.externalPlateCaches < 0 then 0 else if 2 < r.externalPlateCaches then 2
  else r.externalPlateCaches

/-- The source caches that a resize keeps. -/
def resizeSourceCaches (sourcePixels : UInt64) : Option UInt64 :=
  if r.resizeRequired then multiply sourcePixels (29 * quantum.bytes) else some 0

/-- The caches of the alpha plane, at the size of the source and at the size of the output. -/
def alphaCaches (pixels sourcePixels : UInt64) : Option UInt64 :=
  if r.includeAlphaCache then do
    let alphaCaches ← multiply sourcePixels (1 + 5 * quantum.bytes)
    if r.resizeRequired then
      (multiply pixels (5 * quantum.bytes)).bind fun resizedAlpha ↦ add resizedAlpha alphaCaches
    else some alphaCaches
  else some 0

/-- The packed lines of some channels. -/
def lineBytes (bytesPerLine : UInt64) (channels : Int32) : Option UInt64 := do
  let lines ← multiply bytesPerLine (quint64 r.height)
  multiply lines (quint64 channels)

/-- The exported PRN file. -/
def finalPrn (bytesPerLine : UInt64) : Option UInt64 :=
  if r.includeFinalPrn then lineBytes r bytesPerLine r.physicalChannels else some 0

/-- What `preflightStorage` requires, or none when a step overflows. -/
def requiredBytes : Option UInt64 := do
  let pixels ← multiply (quint64 r.width) (quint64 r.height)
  let sourcePixels ← multiply (quint64 r.sourceWidth) (quint64 r.sourceHeight)
  let unpaddedBytes := (quint64 r.width + 3) / 4
  let bytesPerLine := (unpaddedBytes + 3) &&& ~~~(3 : UInt64)
  let canonical ← multiply pixels 4
  let magickCache ← multiply pixels (5 * quantum.bytes)
  let resizeSourceCaches ← resizeSourceCaches quantum r sourcePixels
  let spool ← lineBytes r bytesPerLine r.logicalChannels
  let alphaCaches ← alphaCaches quantum r pixels sourcePixels
  let externalCaches ← multiply pixels (5 * quantum.bytes * quint64 r.plateCaches)
  let prn ← finalPrn r bytesPerLine
  let base ← [canonical, magickCache, resizeSourceCaches, alphaCaches, externalCaches,
    r.maskCacheBytes, spool, prn].foldlM (fun base value ↦ add value base) 0
  add (base / 5) base

/-- `preflightStorage`. A request without a positive count fails without a message. -/
def preflightStorage (storage : QStorageInfo) : Except (Option String) Unit :=
  if r.width ≤ 0 ∨ r.height ≤ 0 ∨ r.sourceWidth ≤ 0 ∨ r.sourceHeight ≤ 0 ∨ r.logicalChannels ≤ 0 ∨
      r.physicalChannels ≤ 0 then
    .error none
  else
    match requiredBytes quantum r with
    | none => .error (some "Raster storage estimate overflowed.")
    | some required =>
      if !storage.isValid || !storage.isReady then
        .error (some "Raster scratch storage is not available.")
      else
        let available := storage.bytesAvailable.toUInt64
        if available < required then
          .error (some ("Not enough temporary storage to raster this job. Required: " ++
            inMiB (required + .ofNat MiB - 1) ++ " MiB; available: " ++ inMiB available ++ " MiB."))
        else .ok ()

/-! ## The requirement over the unbounded integers -/

/-- All counts are positive. -/
structure StorageRequest.Positive : Prop where
  width : 0 < r.width.toInt
  height : 0 < r.height.toInt
  sourceWidth : 0 < r.sourceWidth.toInt
  sourceHeight : 0 < r.sourceHeight.toInt
  logicalChannels : 0 < r.logicalChannels.toInt
  physicalChannels : 0 < r.physicalChannels.toInt

/-- The bytes of one plane of packed lines. -/
def planeBytes : Nat :=
  ((r.width.toInt.toNat + 3) / 4 + 3) / 4 * 4 * r.height.toInt.toNat

/-- The terms of the requirement: the canonical file, the image cache, the source caches of a
resize, the alpha caches, the plate caches, the masks, the spool and the PRN file. -/
def storageTerms : List Nat :=
  let pixels := r.width.toInt.toNat * r.height.toInt.toNat
  let sourcePixels := r.sourceWidth.toInt.toNat * r.sourceHeight.toInt.toNat
  let cache := 5 * quantum.bytes.toNat
  [pixels * 4, pixels * cache,
    if r.resizeRequired then sourcePixels * (29 * quantum.bytes.toNat) else 0,
    if r.includeAlphaCache then
      sourcePixels * (1 + cache) + (if r.resizeRequired then pixels * cache else 0)
    else 0,
    pixels * (cache * r.plateCaches.toInt.toNat), r.maskCacheBytes.toNat,
    planeBytes r * r.logicalChannels.toInt.toNat,
    if r.includeFinalPrn then planeBytes r * r.physicalChannels.toInt.toNat else 0]

/-- The sum of the terms and a fifth of it. -/
def storageRequirement : Nat :=
  (storageTerms quantum r).sum + (storageTerms quantum r).sum / 5

/-! ## The checked computation -/

section Computation

variable {quantum r}

theorem quantum_le : quantum.bytes.toNat ≤ 16 := UInt64.le_iff_toNat_le.mp quantum.bytes_le

/-- The sizes of a pixel in the caches are small. -/
theorem quantum_product {count : UInt64} (h : count.toNat ≤ 29) :
    (count * quantum.bytes).toNat = count.toNat * quantum.bytes.toNat := by
  have hproduct := Nat.mul_le_mul h (@quantum_le quantum)
  rw [UInt64.toNat_mul, Nat.mod_eq_of_lt (by omega)]

theorem plate_caches_mem : 0 ≤ r.plateCaches.toInt ∧ r.plateCaches.toInt ≤ 2 := by
  unfold StorageRequest.plateCaches
  split_ifs with hlow hhigh
  · decide
  · decide
  · rw [Int32.lt_iff_toInt_lt, not_lt] at hlow hhigh
    exact ⟨hlow, hhigh⟩

/-- The size of a pixel in the plate caches. -/
theorem plate_product :
    (5 * quantum.bytes * quint64 r.plateCaches).toNat =
      5 * quantum.bytes.toNat * r.plateCaches.toInt.toNat := by
  obtain ⟨hlow, hhigh⟩ := @plate_caches_mem r
  have hquantum := @quantum_le quantum
  have hproduct : 5 * quantum.bytes.toNat * r.plateCaches.toInt.toNat ≤ 80 * 2 :=
    Nat.mul_le_mul (by omega) (by omega)
  have hcache : (5 * quantum.bytes).toNat = 5 * quantum.bytes.toNat := quantum_product (by decide)
  rw [UInt64.toNat_mul, hcache, quint64_to_nat hlow, Nat.mod_eq_of_lt (by omega)]

/-- The requirement is at least each of its terms. -/
theorem term_le_requirement {term : Nat} (h : term ∈ storageTerms quantum r) :
    term ≤ storageRequirement quantum r :=
  (List.single_le_sum (fun _ _ ↦ Nat.zero_le _) term h).trans (Nat.le_add_right _ _)

/-- A number of pixels has a place in 64 bits. -/
theorem within_pixels {total : Nat} {columns rows : Int32} (hcolumns : 0 < columns.toInt)
    (hrows : 0 < rows.toInt) :
    Within total (multiply (quint64 columns) (quint64 rows))
      (columns.toInt.toNat * rows.toInt.toNat) := by
  have hfirst := columns.toInt_lt
  have hsecond := rows.toInt_lt
  have hproduct : columns.toInt.toNat * rows.toInt.toNat < 2 ^ 31 * 2 ^ 31 :=
    Nat.mul_lt_mul'' (by omega) (by omega)
  have hmultiply := @within_multiply total (quint64 columns) (quint64 rows)
  rw [quint64_to_nat hcolumns.le, quint64_to_nat hrows.le] at hmultiply
  exact hmultiply fun hlarge ↦ by omega

/-- The lines of some channels. -/
theorem within_line_bytes {total : Nat} (h : r.Positive) {bytesPerLine : UInt64} {channels : Int32}
    (hline : bytesPerLine.toNat = ((r.width.toInt.toNat + 3) / 4 + 3) / 4 * 4)
    (hchannels : 0 < channels.toInt) (hle : planeBytes r * channels.toInt.toNat ≤ total) :
    Within total (lineBytes r bytesPerLine channels) (planeBytes r * channels.toInt.toNat) := by
  have hplane : planeBytes r ≤ total :=
    (Nat.le_mul_of_pos_right _ (show 0 < channels.toInt.toNat by omega)).trans hle
  refine (within_product hline (quint64_to_nat h.height.le) hplane).bind fun lines hlines ↦ ?_
  exact within_product hlines (quint64_to_nat hchannels.le) hle

theorem within_final_prn {total : Nat} (h : r.Positive) {bytesPerLine : UInt64}
    (hline : bytesPerLine.toNat = ((r.width.toInt.toNat + 3) / 4 + 3) / 4 * 4)
    (hle : (if r.includeFinalPrn then planeBytes r * r.physicalChannels.toInt.toNat else 0) ≤ total) :
    Within total (finalPrn r bytesPerLine)
      (if r.includeFinalPrn then planeBytes r * r.physicalChannels.toInt.toNat else 0) := by
  refine .ite (fun hinclude ↦ ?_) fun _ ↦ .exact 0
  rw [if_pos hinclude] at hle
  exact within_line_bytes h hline h.physicalChannels hle

theorem within_resize {total sourceCount : Nat} {sourcePixels : UInt64}
    (hsource : sourcePixels.toNat = sourceCount)
    (hle : (if r.resizeRequired then sourceCount * (29 * quantum.bytes.toNat) else 0) ≤ total) :
    Within total (resizeSourceCaches quantum r sourcePixels)
      (if r.resizeRequired then sourceCount * (29 * quantum.bytes.toNat) else 0) := by
  refine .ite (fun hresize ↦ ?_) fun _ ↦ .exact 0
  rw [if_pos hresize] at hle
  exact within_product hsource (quantum_product (by decide)) hle

theorem within_alpha {total count sourceCount : Nat} {pixels sourcePixels : UInt64}
    (hpixels : pixels.toNat = count) (hsource : sourcePixels.toNat = sourceCount)
    (hle : (if r.includeAlphaCache then sourceCount * (1 + 5 * quantum.bytes.toNat) +
      (if r.resizeRequired then count * (5 * quantum.bytes.toNat) else 0) else 0) ≤ total) :
    Within total (alphaCaches quantum r pixels sourcePixels)
      (if r.includeAlphaCache then sourceCount * (1 + 5 * quantum.bytes.toNat) +
        (if r.resizeRequired then count * (5 * quantum.bytes.toNat) else 0) else 0) := by
  have hcache : (5 * quantum.bytes).toNat = 5 * quantum.bytes.toNat := quantum_product (by decide)
  have hpixel : (1 + 5 * quantum.bytes).toNat = 1 + 5 * quantum.bytes.toNat := by
    have hle := @quantum_le quantum
    have hone : (1 : UInt64).toNat = 1 := rfl
    rw [UInt64.toNat_add, hcache, hone, Nat.mod_eq_of_lt (by omega)]
  refine .ite (fun hinclude ↦ ?_) fun _ ↦ .exact 0
  rw [if_pos hinclude] at hle
  refine (within_product hsource hpixel (by omega)).bind fun first hfirst ↦ ?_
  by_cases hresize : r.resizeRequired = true
  · rw [if_pos hresize] at hle ⊢
    rw [if_pos hresize]
    refine (within_product hpixels hcache (by omega)).bind fun resized hresized ↦ ?_
    have hadd := @within_add total resized first (by omega)
    rwa [hfirst, hresized] at hadd
  · rw [if_neg hresize, if_neg hresize]
    exact .of_word hfirst

/-- The checked computation gives the requirement, or fails because it has no place in 64 bits. -/
theorem required_bytes_within (h : r.Positive) :
    Within (storageRequirement quantum r) (requiredBytes quantum r)
      (storageRequirement quantum r) := by
  have hterms : ∀ term ∈ storageTerms quantum r, term ≤ storageRequirement quantum r :=
    fun term ↦ term_le_requirement
  have hsum : (storageTerms quantum r).sum ≤ storageRequirement quantum r := Nat.le_add_right _ _
  have htotal : (storageTerms quantum r).sum + (storageTerms quantum r).sum / 5 =
      storageRequirement quantum r := rfl
  generalize storageRequirement quantum r = total at hterms hsum htotal ⊢
  simp only [storageTerms, List.forall_mem_cons] at hterms
  obtain ⟨hcanonical, hmagick, hresize, halpha, hexternal, -, hspool, hprn, -⟩ := hterms
  have hcache : (5 * quantum.bytes).toNat = 5 * quantum.bytes.toNat := quantum_product (by decide)
  have hline := RasterSpool.expected_line_bytes h.width
  unfold requiredBytes
  dsimp only
  refine (within_pixels h.width h.height).bind fun pixels hpixels ↦ ?_
  refine (within_pixels h.sourceWidth h.sourceHeight).bind fun sourcePixels hsource ↦ ?_
  refine (within_product hpixels rfl hcanonical).bind fun canonical hcanonical ↦ ?_
  refine (within_product hpixels hcache hmagick).bind fun magickCache hmagick ↦ ?_
  refine (within_resize hsource hresize).bind fun resizeSourceCaches hresize ↦ ?_
  refine (within_line_bytes h hline h.logicalChannels hspool).bind fun spool hspool ↦ ?_
  refine (within_alpha hpixels hsource halpha).bind fun alphaCaches halpha ↦ ?_
  refine (within_product hpixels plate_product hexternal).bind fun externalCaches hexternal ↦ ?_
  refine (within_final_prn h hline hprn).bind fun prn hprn ↦ ?_
  have hwords : [canonical, magickCache, resizeSourceCaches, alphaCaches, externalCaches,
      r.maskCacheBytes, spool, prn].map UInt64.toNat = storageTerms quantum r := by
    simp only [List.map_cons, List.map_nil, hcanonical, hmagick, hresize, halpha, hexternal, hspool,
      hprn]
    rfl
  have hzero : (0 : UInt64).toNat = 0 := rfl
  refine (within_sum _ 0 (by rw [hwords, hzero]; omega)).bind fun base hbase ↦ ?_
  rw [hwords, hzero, Nat.zero_add] at hbase
  have hfifth : (base / 5).toNat = (storageTerms quantum r).sum / 5 := by
    rw [UInt64.toNat_div, hbase]
    rfl
  have hadd := @within_add total (base / 5) base
  rw [hbase, hfifth, htotal] at hadd
  exact hadd id

end Computation

/-! ## Admission -/

variable (storage : QStorageInfo)

/-- The test of the counts. -/
theorem counts_iff : ¬ (r.width ≤ 0 ∨ r.height ≤ 0 ∨ r.sourceWidth ≤ 0 ∨ r.sourceHeight ≤ 0 ∨
    r.logicalChannels ≤ 0 ∨ r.physicalChannels ≤ 0) ↔ r.Positive := by
  have hzero : (0 : Int32).toInt = 0 := rfl
  simp only [not_or, Int32.le_iff_toInt_le, not_le, hzero]
  exact ⟨fun ⟨h1, h2, h3, h4, h5, h6⟩ ↦ ⟨h1, h2, h3, h4, h5, h6⟩,
    fun h ↦ ⟨h.width, h.height, h.sourceWidth, h.sourceHeight, h.logicalChannels,
      h.physicalChannels⟩⟩

/-- The available space of a valid storage keeps its value. -/
theorem available_to_nat (h : storage.isValid = true) :
    (storage.bytesAvailable.toUInt64.toNat : Int) = storage.bytesAvailable.toInt := by
  have hnonneg := storage.available_nonneg h
  have hlt := storage.bytesAvailable.toUInt64.toNat_lt
  have hbits : storage.bytesAvailable.toInt =
      if 2 * storage.bytesAvailable.toUInt64.toNat < 2 ^ 64 then
        (storage.bytesAvailable.toUInt64.toNat : Int)
      else storage.bytesAvailable.toUInt64.toNat - (2 ^ 64 : Nat) :=
    BitVec.toInt_eq_toNat_cond _
  split_ifs at hbits
  · exact hbits.symm
  · omega

/-- A requirement that has no place in 64 bits fails as an overflow. -/
theorem preflight_overflow (h : r.Positive) (hlarge : 2 ^ 64 ≤ storageRequirement quantum r) :
    preflightStorage quantum r storage = .error (some "Raster storage estimate overflowed.") := by
  have hnone := (required_bytes_within h).eq_none_iff.mpr hlarge
  unfold preflightStorage
  rw [if_neg ((counts_iff r).mpr h), hnone]

/-- A job is admitted exactly if its counts are positive, the scratch storage can be used and the
requirement fits into the available space. -/
theorem preflight_storage_iff :
    preflightStorage quantum r storage = .ok () ↔
      r.Positive ∧ storage.isValid = true ∧ storage.isReady = true ∧
        (storageRequirement quantum r : Int) ≤ storage.bytesAvailable.toInt := by
  unfold preflightStorage
  by_cases h : r.Positive
  · rw [if_neg ((counts_iff r).mpr h)]
    have hwithin := @required_bytes_within quantum r h
    cases hrequired : requiredBytes quantum r with
    | none =>
        have hlarge := hwithin.eq_none_iff.mp hrequired
        refine iff_of_false nofun fun hall ↦ ?_
        have havailable := storage.bytesAvailable.toInt_lt
        omega
    | some required =>
        have hvalue := hwithin.eq_some_iff.mp hrequired
        dsimp only
        by_cases husable : storage.isValid = true ∧ storage.isReady = true
        · have havailable := available_to_nat storage husable.1
          rw [if_neg (by simp [husable.1, husable.2])]
          by_cases hfits : storage.bytesAvailable.toUInt64 < required
          · rw [if_pos hfits]
            rw [UInt64.lt_iff_toNat_lt] at hfits
            exact iff_of_false nofun fun hall ↦ by omega
          · rw [if_neg hfits]
            rw [UInt64.lt_iff_toNat_lt] at hfits
            exact iff_of_true rfl ⟨h, husable.1, husable.2, by omega⟩
        · rw [if_pos (by simpa [← Bool.not_eq_true, imp_iff_not_or] using husable)]
          exact iff_of_false nofun fun hall ↦ husable ⟨hall.2.1, hall.2.2.1⟩
  · rw [if_pos (not_not.mp (mt (counts_iff r).mp h))]
    exact iff_of_false nofun fun hall ↦ h hall.1

/-- The preflight is exact: it admits a job exactly if its counts are positive, the storage can be
used and the requirement over the unbounded integers is available. Where a term, a sum of terms or
the requirement has no place in 64 bits it fails. -/
theorem preflight_storage_exact :
    (preflightStorage quantum r storage = .ok () ↔
      r.Positive ∧ storage.isValid = true ∧ storage.isReady = true ∧
        (storageRequirement quantum r : Int) ≤ storage.bytesAvailable.toInt) ∧
    (∀ amount, amount ∈ storageTerms quantum r ∨ (∃ n, amount = ((storageTerms quantum r).take n).sum) ∨
      amount = storageRequirement quantum r → 2 ^ 64 ≤ amount →
        preflightStorage quantum r storage ≠ .ok ()) ∧
    (r.Positive → 2 ^ 64 ≤ storageRequirement quantum r →
      preflightStorage quantum r storage = .error (some "Raster storage estimate overflowed.")) := by
  refine ⟨preflight_storage_iff quantum r storage, fun amount hamount hlarge hok ↦ ?_,
    preflight_overflow quantum r storage⟩
  -- The terms are added one after the other, so none of the partial sums passes the whole.
  have hle : amount ≤ storageRequirement quantum r := by
    rcases hamount with hterm | ⟨n, rfl⟩ | rfl
    · exact term_le_requirement hterm
    · have hsplit := List.sum_take_add_sum_drop (storageTerms quantum r) n
      unfold storageRequirement
      omega
    · exact le_rfl
  have hfits := ((preflight_storage_iff quantum r storage).mp hok).2.2.2
  have havailable := storage.bytesAvailable.toInt_lt
  omega

/-- A job of 100 by 100 pixels with four channels, by a build with 16-bit quanta. -/
def squareJob : StorageRequest where
  width := 100
  height := 100
  sourceWidth := 100
  sourceHeight := 100
  logicalChannels := 4
  physicalChannels := 4
  includeFinalPrn := false

/-- It is admitted by a storage with just enough space, and by none with a byte less. -/
example : storageRequirement ⟨2, by decide⟩ squareJob = 181440 ∧
    preflightStorage ⟨2, by decide⟩ squareJob ⟨true, true, 181440, fun _ ↦ by decide⟩ = .ok () ∧
    preflightStorage ⟨2, by decide⟩ squareJob ⟨true, true, 181439, fun _ ↦ by decide⟩ ≠ .ok () := by
  refine ⟨by decide, by rfl, ?_⟩
  decide

end PrintFlow.BoundedRasterPipeline
