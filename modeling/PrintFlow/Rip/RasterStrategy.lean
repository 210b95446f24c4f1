import Mathlib.Algebra.BigOperators.Group.Finset.Basic
import PrintFlow.Rip.StoragePreflight

/-!
# The masks on disk and the raster strategy

Two numbers decide how a job is rastered. `estimateMaskCacheStorage` adds up the image caches of the
masks, each counted once however many channels share it, and hands the sum to the storage preflight.
`selectRasterStrategy` estimates what the planes of the job take in memory, and picks the path in
memory if that is not more than 4 GiB.
-/

namespace PrintFlow.BoundedRasterPipeline

open CheckedArithmetic

/-! ## The caches of the masks -/

section Masks

variable (quantum : MagickQuantum) (ping : String → Except String (UInt64 × UInt64))

/-- The image cache of a mask, if its dimensions are accepted. -/
def maskCacheBytes (width height : UInt64) : Option UInt64 :=
  if width = 0 ∨ height = 0 ∨ 0xffffffffffffffff / height < width ∨
      0xffffffffffffffff / (5 * quantum.bytes) < width * height then none
  else some (width * height * 5 * quantum.bytes)

/-- The loop over the masks, with the paths and the bytes it has counted. -/
def estimateFrom : List String → List String → UInt64 → Except String (List String × UInt64)
  | [], uniquePaths, bytes => .ok (uniquePaths, bytes)
  | path :: rest, uniquePaths, bytes =>
    if path = "" ∨ path ∈ uniquePaths then estimateFrom rest uniquePaths bytes
    else
      match ping path with
      | .error what => .error ("Could not inspect a blue-noise mask: " ++ what)
      | .ok (width, height) =>
        match maskCacheBytes quantum width height with
        | none => .error ("Blue-noise mask dimensions are invalid: " ++ path)
        | some cacheBytes =>
          if 0xffffffffffffffff - cacheBytes < bytes then
            .error "Blue-noise mask cache estimate overflowed."
          else estimateFrom rest (path :: uniquePaths) (bytes + cacheBytes)

/-- `estimateMaskCacheStorage`. It fails without a message when there is no mask. -/
def estimateMaskCacheStorage (maskPaths : List String) : Except (Option String) UInt64 :=
  match estimateFrom quantum ping maskPaths [] 0 with
  | .error message => .error (some message)
  | .ok (uniquePaths, bytes) => if uniquePaths = [] then .error none else .ok bytes

/-- The paths that name a mask. -/
def maskFiles (maskPaths : List String) : Finset String := (maskPaths.filter (· ≠ "")).toFinset

/-- A mask that can be inspected has pixels. -/
def Inspected (path : String) : Prop :=
  ∃ width height, ping path = .ok (width, height) ∧ width ≠ 0 ∧ height ≠ 0

/-- The bytes of a mask in the image cache. -/
def maskCost (path : String) : Nat :=
  match ping path with
  | .error _ => 0
  | .ok (width, height) => width.toNat * height.toNat * (5 * quantum.bytes.toNat)

variable {quantum ping}

/-- A mask has its bytes, or none when they have no place in 64 bits. -/
theorem mask_cache_within {total : Nat} (hquantum : quantum.bytes ≠ 0) {width height : UInt64}
    (hwidth : width ≠ 0) (hheight : height ≠ 0)
    (hle : width.toNat * height.toNat * (5 * quantum.bytes.toNat) ≤ total) :
    Within total (maskCacheBytes quantum width height)
      (width.toNat * height.toNat * (5 * quantum.bytes.toNat)) := by
  have hmax : (0xffffffffffffffff : UInt64).toNat = 2 ^ 64 - 1 := rfl
  have hcache : (5 * quantum.bytes).toNat = 5 * quantum.bytes.toNat := quantum_product (by decide)
  have hpositive : ∀ {word : UInt64}, word ≠ 0 → 0 < word.toNat :=
    fun hword ↦ Nat.pos_of_ne_zero fun h ↦ hword (UInt64.toNat_inj.mp h)
  have hbytes := hpositive hquantum
  have hpixel : 0 < 5 * quantum.bytes.toNat := by omega
  unfold maskCacheBytes
  by_cases harea : 0xffffffffffffffff / height < width
  · rw [if_pos (.inr (.inr (.inl harea)))]
    rw [UInt64.lt_iff_toNat_lt, UInt64.toNat_div, hmax,
      Nat.div_lt_iff_lt_mul (hpositive hheight)] at harea
    exact .overflow ((Nat.le_mul_of_pos_right _ hpixel).trans hle |>.trans' (by omega)) _
  have hplace : width.toNat * height.toNat < 2 ^ 64 := by
    rw [UInt64.lt_iff_toNat_lt, UInt64.toNat_div, hmax,
      Nat.div_lt_iff_lt_mul (hpositive hheight)] at harea
    omega
  have harea_nat : (width * height).toNat = width.toNat * height.toNat := by
    rw [UInt64.toNat_mul, Nat.mod_eq_of_lt hplace]
  have htest : 0xffffffffffffffff / (5 * quantum.bytes) < width * height ↔
      2 ^ 64 ≤ width.toNat * height.toNat * (5 * quantum.bytes.toNat) := by
    rw [UInt64.lt_iff_toNat_lt, UInt64.toNat_div, hmax, hcache, harea_nat,
      Nat.div_lt_iff_lt_mul hpixel]
    omega
  by_cases hcost : 2 ^ 64 ≤ width.toNat * height.toNat * (5 * quantum.bytes.toNat)
  · rw [if_pos (.inr (.inr (.inr (htest.mpr hcost))))]
    exact .overflow (hcost.trans hle) _
  · rw [if_neg (by simp only [hwidth, hheight, harea, htest, hcost, or_self, not_false_eq_true])]
    refine .of_word ?_
    rw [UInt64.mul_assoc, UInt64.toNat_mul, hcache, harea_nat, Nat.mod_eq_of_lt (by omega)]

/-- The masks that are left to count. -/
theorem mask_files_cons (path : String) (rest counted : List String) :
    maskFiles (path :: rest) \ counted.toFinset =
      if path = "" ∨ path ∈ counted then maskFiles rest \ counted.toFinset
      else insert path (maskFiles rest \ (path :: counted).toFinset) := by
  ext other
  by_cases hother : other = path
  · subst hother
    by_cases hempty : other = "" <;> by_cases hcounted : other ∈ counted <;>
      simp [maskFiles, hempty, hcounted]
  · have hmem : other ∈ maskFiles (path :: rest) ↔ other ∈ maskFiles rest := by
      simp [maskFiles, hother]
    split_ifs with h
    · simp [hmem]
    · simp [hmem, hother]

/-- The cost of a mask that can be inspected is its cache. -/
theorem mask_cost_eq {path : String} {width height : UInt64}
    (hping : ping path = .ok (width, height)) :
    maskCost quantum ping path = width.toNat * height.toNat * (5 * quantum.bytes.toNat) := by
  rw [maskCost, hping]

/-- One mask is added to the estimate, if it can be inspected and the sum has a place. -/
theorem estimate_step (hquantum : quantum.bytes ≠ 0) {path : String} {rest uniquePaths : List String}
    (hnew : ¬ (path = "" ∨ path ∈ uniquePaths)) {bytes : UInt64}
    {result : List String × UInt64} :
    estimateFrom quantum ping (path :: rest) uniquePaths bytes = .ok result ↔
      Inspected ping path ∧ ∃ sum : UInt64, sum.toNat = bytes.toNat + maskCost quantum ping path ∧
        estimateFrom quantum ping rest (path :: uniquePaths) sum = .ok result := by
  have hmax : (0xffffffffffffffff : UInt64).toNat = 2 ^ 64 - 1 := rfl
  rw [estimateFrom, if_neg hnew]
  cases hping : ping path with
  | error what => exact iff_of_false nofun fun ⟨⟨_, _, h, _⟩, _⟩ ↦ by cases hping.symm.trans h
  | ok dimensions =>
      obtain ⟨width, height⟩ := dimensions
      dsimp only
      by_cases hzero : width = 0 ∨ height = 0
      · have hnone : maskCacheBytes quantum width height = none := by
          refine if_pos ?_
          rcases hzero with hwidth | hheight
          · exact .inl hwidth
          · exact .inr (.inl hheight)
        rw [hnone]
        refine iff_of_false nofun fun ⟨⟨columns, rows, h, hcolumns, hrows⟩, _⟩ ↦ ?_
        cases hping.symm.trans h
        exact hzero.elim hcolumns hrows
      obtain ⟨hwidth, hheight⟩ := not_or.mp hzero
      have hinspected : Inspected ping path := ⟨width, height, hping, hwidth, hheight⟩
      have hwithin := mask_cache_within hquantum hwidth hheight le_rfl
      rw [← mask_cost_eq hping] at hwithin
      cases hcache : maskCacheBytes quantum width height with
      | none =>
          have hlarge := hwithin.eq_none_iff.mp hcache
          refine iff_of_false nofun fun ⟨_, sum, hsum, _⟩ ↦ ?_
          have hlt := sum.toNat_lt
          omega
      | some cacheBytes =>
          have hcost := hwithin.eq_some_iff.mp hcache
          have hlt := cacheBytes.toNat_lt
          have htest : 0xffffffffffffffff - cacheBytes < bytes ↔
              2 ^ 64 ≤ bytes.toNat + cacheBytes.toNat := by
            rw [UInt64.lt_iff_toNat_lt, UInt64.toNat_sub_of_le _ _ (UInt64.le_iff_toNat_le.mpr
              (by omega)), hmax]
            omega
          dsimp only
          by_cases hoverflow : 2 ^ 64 ≤ bytes.toNat + cacheBytes.toNat
          · rw [if_pos (htest.mpr hoverflow)]
            refine iff_of_false nofun fun ⟨_, sum, hsum, _⟩ ↦ ?_
            have hsum_lt := sum.toNat_lt
            omega
          · rw [if_neg (mt htest.mp hoverflow)]
            have hsum : (bytes + cacheBytes).toNat = bytes.toNat + maskCost quantum ping path := by
              rw [UInt64.toNat_add, Nat.mod_eq_of_lt (by omega), hcost]
            constructor
            · intro h
              exact ⟨hinspected, _, hsum, h⟩
            · intro ⟨_, sum, hother, h⟩
              rwa [UInt64.toNat_inj.mp (hsum.trans hother.symm)]

/-- The loop counts each mask that was not counted before. -/
theorem estimate_from_iff (hquantum : quantum.bytes ≠ 0) (rest uniquePaths : List String)
    (bytes out : UInt64) :
    (∃ all, estimateFrom quantum ping rest uniquePaths bytes = .ok (all, out)) ↔
      (∀ path ∈ maskFiles rest \ uniquePaths.toFinset, Inspected ping path) ∧
        out.toNat = bytes.toNat +
          ∑ path ∈ maskFiles rest \ uniquePaths.toFinset, maskCost quantum ping path := by
  induction rest generalizing uniquePaths bytes with
  | nil =>
      simp only [estimateFrom, maskFiles, List.filter_nil, List.toFinset_nil, Finset.empty_sdiff,
        Finset.notMem_empty, false_implies, implies_true, true_and, Finset.sum_empty, Nat.add_zero,
        Except.ok.injEq, Prod.mk.injEq]
      exact ⟨fun ⟨_, _, h⟩ ↦ h ▸ rfl, fun h ↦ ⟨_, rfl, (UInt64.toNat_inj.mp h).symm⟩⟩
  | cons path rest ih =>
      rw [mask_files_cons]
      by_cases hknown : path = "" ∨ path ∈ uniquePaths
      · rw [if_pos hknown, estimateFrom, if_pos hknown]
        exact ih uniquePaths bytes
      · have hfresh : path ∉ maskFiles rest \ (path :: uniquePaths).toFinset := by simp
        rw [if_neg hknown, Finset.forall_mem_insert, Finset.sum_insert hfresh]
        simp only [estimate_step hquantum hknown]
        constructor
        · intro ⟨all, hinspected, sum, hsum, h⟩
          obtain ⟨hothers, hout⟩ := (ih _ sum).mp ⟨all, h⟩
          exact ⟨⟨hinspected, hothers⟩, by omega⟩
        · intro ⟨⟨hinspected, hothers⟩, hout⟩
          have hplace := out.toNat_lt
          have hsum : (UInt64.ofNat (bytes.toNat + maskCost quantum ping path)).toNat =
              bytes.toNat + maskCost quantum ping path := by
            rw [UInt64.toNat_ofNat', Nat.mod_eq_of_lt (by omega)]
          obtain ⟨all, h⟩ := (ih _ _).mpr ⟨hothers, by rw [hsum]; omega⟩
          exact ⟨all, hinspected, _, hsum, h⟩

/-- The loop has seen the masks it counted. -/
theorem estimate_from_paths (rest uniquePaths all : List String) (bytes out : UInt64)
    (h : estimateFrom quantum ping rest uniquePaths bytes = .ok (all, out)) :
    all.toFinset = maskFiles rest ∪ uniquePaths.toFinset := by
  induction rest generalizing uniquePaths bytes with
  | nil =>
      obtain ⟨rfl, -⟩ := Prod.mk.inj (Except.ok.inj h)
      simp [maskFiles]
  | cons path rest ih =>
      rw [estimateFrom] at h
      split_ifs at h with hknown
      · rw [ih _ _ h]
        ext other
        by_cases hother : other = path
        · subst hother
          rcases hknown with rfl | hknown
          · simp [maskFiles]
          · simp [hknown]
        · simp [maskFiles, hother]
      · split at h
        · cases h
        · split at h
          · cases h
          · split_ifs at h
            rw [ih _ _ h]
            ext other
            by_cases hother : other = path
            · subst hother
              simp [maskFiles, (not_or.mp hknown).1]
            · simp [maskFiles, hother]

/-- The estimate is exact: it succeeds exactly if there is a mask, every mask can be inspected and
the sum has a place in 64 bits, which is then the estimate. A mask that several channels share counts
once. -/
theorem mask_cache_estimate_exact (hquantum : quantum.bytes ≠ 0) (maskPaths : List String)
    (bytes : UInt64) :
    estimateMaskCacheStorage quantum ping maskPaths = .ok bytes ↔
      (maskFiles maskPaths).Nonempty ∧ (∀ path ∈ maskFiles maskPaths, Inspected ping path) ∧
        bytes.toNat = ∑ path ∈ maskFiles maskPaths, maskCost quantum ping path := by
  have hloop := @estimate_from_iff quantum ping hquantum maskPaths [] 0 bytes
  rw [List.toFinset_nil, Finset.sdiff_empty, UInt64.toNat_zero, Nat.zero_add] at hloop
  rw [← hloop]
  unfold estimateMaskCacheStorage
  cases hestimate : estimateFrom quantum ping maskPaths [] 0 with
  | error message => exact iff_of_false nofun fun ⟨_, _, h⟩ ↦ by cases h
  | ok result =>
      obtain ⟨all, total⟩ := result
      have hpaths := estimate_from_paths _ _ _ _ _ hestimate
      rw [List.toFinset_nil, Finset.union_empty] at hpaths
      rw [← hpaths, List.toFinset_nonempty_iff]
      dsimp only
      split_ifs with hnone
      · exact iff_of_false nofun fun h ↦ h.1 hnone
      · constructor
        · intro h
          exact ⟨hnone, all, by rw [Except.ok.inj h]⟩
        · intro ⟨_, other, h⟩
          exact congrArg Except.ok (Prod.mk.inj (Except.ok.inj h)).2

/-- Two masks of 512 by 512, the first for two channels. -/
theorem mask_cache_estimate_exact_shared :
    estimateMaskCacheStorage ⟨2, by decide⟩ (fun _ ↦ .ok (512, 512)) ["c", "m", "", "c"] =
      .ok 5242880 :=
  (mask_cache_estimate_exact (by decide) ["c", "m", "", "c"] 5242880).mpr
    ⟨⟨"c", by decide⟩, fun _ _ ↦ ⟨512, 512, rfl, by decide, by decide⟩, by decide⟩

end Masks

/-! ## The strategy -/

/-- `RasterStrategy`. -/
inductive RasterStrategy where
  | InMemory
  | Bounded
  deriving DecidableEq

/-- `RasterStrategyDecision`. -/
structure RasterStrategyDecision where
  strategy : RasterStrategy := .Bounded
  estimatedNativeBytes : UInt64 := 0
  nativeLimitBytes : UInt64 := 0

/-- `InMemoryRasterBudget`. -/
def InMemoryRasterBudget : UInt64 := 4 * 1024 * .ofNat MiB

/-- The bytes of an ASCII text. -/
def ascii (text : String) : Bytes := text.toList.map fun c ↦ .ofNat c.toNat

/-- White space and capital letters in a `QByteArray` are those of ASCII. -/
def isAsciiSpace (byte : UInt8) : Bool := (9 ≤ byte && byte ≤ 13) || byte == 32

/-- `trimmed().toLower()` of a `QByteArray`. -/
def trimmedLower (text : Bytes) : Bytes :=
  ((text.dropWhile isAsciiSpace).reverse.dropWhile isAsciiSpace).reverse.map fun byte ↦
    if 65 ≤ byte ∧ byte ≤ 90 then byte + 32 else byte

/-- `bytesPerPixel`. -/
def bytesPerPixel (logicalChannels : Int32) (multiInk : Bool) : UInt64 :=
  if multiInk then 24 + 2 * quint64 logicalChannels else 16 + (quint64 logicalChannels + 3) / 4

/-- `selectRasterStrategy`, with the value of `PRINTFLOW_FORCE_RASTER_STRATEGY`. -/
def selectRasterStrategy (environment : Bytes) (width height logicalChannels : Int32)
    (multiInk : Bool) : RasterStrategyDecision :=
  let decision : RasterStrategyDecision := { nativeLimitBytes := InMemoryRasterBudget }
  if width ≤ 0 ∨ height ≤ 0 ∨ logicalChannels ≤ 0 then decision
  else
    let pixels := quint64 width * quint64 height
    if 2147483647 < pixels then decision
    else
      let fixedOverhead : UInt64 := 8 * .ofNat MiB
      if (0xffffffffffffffff - fixedOverhead) / bytesPerPixel logicalChannels multiInk < pixels then
        decision
      else
        let decision := { decision with
          estimatedNativeBytes := pixels * bytesPerPixel logicalChannels multiInk + fixedOverhead }
        let forced := trimmedLower environment
        if forced = ascii "bounded" then decision
        else if forced = ascii "memory" ∨
            decision.estimatedNativeBytes ≤ decision.nativeLimitBytes then
          { decision with strategy := .InMemory }
        else decision

/-- The bytes that the planes of a job are expected to take. -/
def nativeRequirement (width height logicalChannels : Nat) (multiInk : Bool) : Nat :=
  width * height * (if multiInk then 24 + 2 * logicalChannels else 16 + (logicalChannels + 3) / 4) +
    8 * MiB

section Strategy

variable {width height logicalChannels : Int32} {multiInk : Bool}

theorem bytes_per_pixel_to_nat (h : 0 < logicalChannels.toInt) :
    (bytesPerPixel logicalChannels multiInk).toNat =
      if multiInk then 24 + 2 * logicalChannels.toInt.toNat
      else 16 + (logicalChannels.toInt.toNat + 3) / 4 := by
  have hlt := logicalChannels.toInt_lt
  have hword := quint64_to_nat h.le
  have htwo : (2 : UInt64).toNat = 2 := rfl
  have hthree : (3 : UInt64).toNat = 3 := rfl
  have hfour : (4 : UInt64).toNat = 4 := rfl
  have hbase : (24 : UInt64).toNat = 24 ∧ (16 : UInt64).toNat = 16 := ⟨rfl, rfl⟩
  unfold bytesPerPixel
  split_ifs
  · rw [UInt64.toNat_add, UInt64.toNat_mul, hword, htwo, hbase.1]
    omega
  · rw [UInt64.toNat_add, UInt64.toNat_div, UInt64.toNat_add, hword, hthree, hfour, hbase.2]
    omega

/-- The estimate of a job that passes the test of its pixels has a place in 64 bits, so that the test
for overflow never fails. -/
theorem native_requirement_lt {w h c : Nat} (hpixels : w * h ≤ 2147483647) (hc : c < 2 ^ 31)
    (multiInk : Bool) : nativeRequirement w h c multiInk < 2 ^ 64 := by
  have hbytes : (if multiInk then 24 + 2 * c else 16 + (c + 3) / 4) ≤ 2 ^ 32 + 22 := by
    split_ifs <;> omega
  have hproduct := Nat.mul_le_mul hpixels hbytes
  have hMiB : MiB = 1048576 := rfl
  rw [nativeRequirement, hMiB]
  omega

/-- A job whose size is estimated: it has pixels and channels, and not more pixels than an `int`
counts. -/
structure Estimated (width height logicalChannels : Int32) : Prop where
  width_pos : 0 < width.toInt
  height_pos : 0 < height.toInt
  channels_pos : 0 < logicalChannels.toInt
  pixels_le : width.toInt.toNat * height.toInt.toNat ≤ 2147483647

/-- The estimate of such a job is its requirement. -/
theorem Estimated.estimate (h : Estimated width height logicalChannels) (environment : Bytes) :
    ∃ estimate : UInt64,
      estimate.toNat = nativeRequirement width.toInt.toNat height.toInt.toNat
        logicalChannels.toInt.toNat multiInk ∧
      selectRasterStrategy environment width height logicalChannels multiInk =
        { strategy :=
            if trimmedLower environment ≠ ascii "bounded" ∧
              (trimmedLower environment = ascii "memory" ∨ estimate ≤ InMemoryRasterBudget)
            then .InMemory else .Bounded
          estimatedNativeBytes := estimate
          nativeLimitBytes := InMemoryRasterBudget } := by
  have hwidth := width.toInt_lt
  have hheight := height.toInt_lt
  have hpixels := h.pixels_le
  have hchannels := logicalChannels.toInt_lt
  have hzero : (0 : Int32).toInt = 0 := rfl
  have hcounts : ¬ (width ≤ 0 ∨ height ≤ 0 ∨ logicalChannels ≤ 0) := by
    simp only [not_or, Int32.le_iff_toInt_le, not_le, hzero]
    exact ⟨h.width_pos, h.height_pos, h.channels_pos⟩
  have harea : (quint64 width * quint64 height).toNat =
      width.toInt.toNat * height.toInt.toNat := by
    rw [UInt64.toNat_mul, quint64_to_nat h.width_pos.le, quint64_to_nat h.height_pos.le,
      Nat.mod_eq_of_lt (by omega)]
  have hint : (2147483647 : UInt64).toNat = 2147483647 := rfl
  have hmax : (0xffffffffffffffff - 8 * UInt64.ofNat MiB).toNat = 2 ^ 64 - 1 - 8 * MiB := rfl
  have hoverhead : (8 * UInt64.ofNat MiB).toNat = 8 * MiB := rfl
  have hMiB : MiB = 1048576 := rfl
  have hbytes := @bytes_per_pixel_to_nat logicalChannels multiInk h.channels_pos
  have hlt := native_requirement_lt hpixels (show logicalChannels.toInt.toNat < 2 ^ 31 by omega)
    multiInk
  rw [nativeRequirement, ← hbytes, ← harea] at hlt
  have hpositive : 0 < (bytesPerPixel logicalChannels multiInk).toNat := by
    rw [hbytes]
    split_ifs <;> omega
  have hfits : ¬ (0xffffffffffffffff - 8 * UInt64.ofNat MiB) / bytesPerPixel logicalChannels multiInk <
      quint64 width * quint64 height := by
    rw [UInt64.lt_iff_toNat_lt, UInt64.toNat_div, hmax, Nat.div_lt_iff_lt_mul hpositive]
    omega
  refine ⟨quint64 width * quint64 height * bytesPerPixel logicalChannels multiInk +
    8 * .ofNat MiB, ?_, ?_⟩
  · rw [UInt64.toNat_add, UInt64.toNat_mul, hoverhead, nativeRequirement, ← hbytes, ← harea]
    omega
  · unfold selectRasterStrategy
    rw [if_neg hcounts, if_neg (by rw [UInt64.lt_iff_toNat_lt, harea, hint]; omega), if_neg hfits]
    by_cases hbounded : trimmedLower environment = ascii "bounded"
    · rw [if_pos hbounded, if_neg fun hand ↦ hand.1 hbounded]
    · rw [if_neg hbounded]
      by_cases hmemory : trimmedLower environment = ascii "memory" ∨
          quint64 width * quint64 height * bytesPerPixel logicalChannels multiInk +
            8 * .ofNat MiB ≤ InMemoryRasterBudget
      · rw [if_pos hmemory, if_pos ⟨hbounded, hmemory⟩]
      · rw [if_neg hmemory, if_neg fun hand ↦ hmemory hand.2]

/-- Other jobs have no estimate and are cut into strips. -/
theorem not_estimated (h : ¬ Estimated width height logicalChannels) (environment : Bytes) :
    selectRasterStrategy environment width height logicalChannels multiInk =
      { nativeLimitBytes := InMemoryRasterBudget } := by
  have hzero : (0 : Int32).toInt = 0 := rfl
  unfold selectRasterStrategy
  by_cases hcounts : width ≤ 0 ∨ height ≤ 0 ∨ logicalChannels ≤ 0
  · rw [if_pos hcounts]
  · rw [if_neg hcounts]
    simp only [not_or, Int32.le_iff_toInt_le, not_le, hzero] at hcounts
    have hwidth := width.toInt_lt
    have hheight := height.toInt_lt
    have hproduct : width.toInt.toNat * height.toInt.toNat < 2 ^ 31 * 2 ^ 31 :=
      Nat.mul_lt_mul'' (by omega) (by omega)
    have harea : (quint64 width * quint64 height).toNat =
        width.toInt.toNat * height.toInt.toNat := by
      rw [UInt64.toNat_mul, quint64_to_nat hcounts.1.le, quint64_to_nat hcounts.2.1.le,
        Nat.mod_eq_of_lt (by omega)]
    have hint : (2147483647 : UInt64).toNat = 2147483647 := rfl
    have hlarge : 2147483647 < quint64 width * quint64 height := by
      rw [UInt64.lt_iff_toNat_lt, harea, hint]
      by_contra hsmall
      exact h ⟨hcounts.1, hcounts.2.1, hcounts.2.2, not_lt.mp hsmall⟩
    rw [if_pos hlarge]

/-- The strategy is exact: a job is rastered in memory exactly if it has pixels and channels, not
more than `INT_MAX` pixels, and either the environment asks for it or, unless the environment
forbids it, its requirement over the unbounded integers is not more than 4 GiB. -/
theorem raster_strategy_exact (environment : Bytes) (width height logicalChannels : Int32)
    (multiInk : Bool) :
    (selectRasterStrategy environment width height logicalChannels multiInk).strategy = .InMemory ↔
      Estimated width height logicalChannels ∧
        trimmedLower environment ≠ ascii "bounded" ∧
        (trimmedLower environment = ascii "memory" ∨
          nativeRequirement width.toInt.toNat height.toInt.toNat logicalChannels.toInt.toNat
            multiInk ≤ 4 * 2 ^ 30) := by
  by_cases h : Estimated width height logicalChannels
  · obtain ⟨estimate, hestimate, hselect⟩ := @Estimated.estimate _ _ _ multiInk h environment
    have hbudget : estimate ≤ InMemoryRasterBudget ↔
        nativeRequirement width.toInt.toNat height.toInt.toNat logicalChannels.toInt.toNat
          multiInk ≤ 4 * 2 ^ 30 := by
      rw [UInt64.le_iff_toNat_le, hestimate]
      rfl
    have hif : ∀ (c : Prop) [Decidable c],
        (if c then RasterStrategy.InMemory else .Bounded) = .InMemory ↔ c := by
      intro c _
      split_ifs with hc
      · exact iff_of_true rfl hc
      · exact iff_of_false nofun hc
    rw [hselect, ← hbudget]
    exact (hif _).trans ⟨fun hand ↦ ⟨h, hand⟩, And.right⟩
  · rw [not_estimated h]
    exact iff_of_false nofun fun hand ↦ h hand.1

/-- With the environment unset, a job that is not larger than one that is rastered in memory is
rastered in memory; an X-33 job even if the larger one is multi-ink. -/
theorem raster_strategy_mono {otherWidth otherHeight otherChannels : Int32} {otherInk : Bool}
    (h : (selectRasterStrategy [] otherWidth otherHeight otherChannels otherInk).strategy =
      .InMemory)
    (hwidth : 0 < width.toInt ∧ width ≤ otherWidth)
    (hheight : 0 < height.toInt ∧ height ≤ otherHeight)
    (hchannels : 0 < logicalChannels.toInt ∧ logicalChannels ≤ otherChannels)
    (hink : multiInk = true → otherInk = true) :
    (selectRasterStrategy [] width height logicalChannels multiInk).strategy = .InMemory := by
  rw [raster_strategy_exact] at h ⊢
  simp only [Int32.le_iff_toInt_le] at hwidth hheight hchannels
  obtain ⟨hother, -, hmemory⟩ := h
  have harea : width.toInt.toNat * height.toInt.toNat ≤
      otherWidth.toInt.toNat * otherHeight.toInt.toNat := Nat.mul_le_mul (by omega) (by omega)
  refine ⟨⟨hwidth.1, hheight.1, hchannels.1, harea.trans hother.pixels_le⟩, by decide, .inr ?_⟩
  refine (Nat.add_le_add_right (Nat.mul_le_mul harea ?_) _).trans
    (hmemory.resolve_left (by decide))
  cases multiInk with
  | true =>
      rw [hink rfl, if_pos rfl, if_pos rfl]
      omega
  | false =>
      rw [if_neg (by simp)]
      split_ifs <;> omega

/-- Of the jobs in the tests, the large one in four colours fits and the one in ten inks does not. -/
example : (selectRasterStrategy [] 11854 12274 4 false).strategy = .InMemory ∧
    (selectRasterStrategy [] 11854 12274 10 true).strategy = .Bounded := by
  decide

end Strategy

end PrintFlow.BoundedRasterPipeline
