import PrintFlow.Rip.BoundedRasterPipeline
import PrintFlow.Rip.MultiInkToneBuilder

/-!
# Source images and their cache

A job rasterizes a CMYK image under the alpha mask of its source. The path in memory exports the
whole image and covers each of its planes with the mask. The bounded path writes the covered pixels
to a cache file, some rows at a time, and reads rows back from it. `read_rows_eq` says that what it
reads is a strip of the planes in memory.
-/

namespace PrintFlow

open BoundedRasterPipeline MultiInkToneBuilder

/-! ## Alpha masks -/

/-- `RasterAlphaMask`, which is inactive without a mask. -/
structure RasterAlphaMask where
  width : Nat := 0
  height : Nat := 0
  mask : Option Bytes := none
  mask_length : ∀ bytes, mask = some bytes → bytes.length = width * height

namespace RasterAlphaMask

variable (alpha : RasterAlphaMask)

/-- `isActive`. -/
def isActive : Bool := alpha.mask.isSome

/-- A tone under an alpha value. -/
def covered (tone alpha : UInt8) : UInt8 := .ofNat ((tone.toNat * alpha.toNat + 127) / 255)

/-- `readRows`. -/
def readRows (firstRow rowCount : Nat) : Option Bytes :=
  match alpha.mask with
  | none => some []
  | some bytes =>
    if alpha.height < firstRow + rowCount then none
    else some (Plane.strip bytes alpha.width firstRow rowCount)

/-- `applyToRows`. -/
def applyToRows (firstRow rowCount : Nat) (tone : Bytes) : Option Bytes :=
  if !alpha.isActive then some tone
  else
    let count := alpha.width * rowCount
    if tone.length ≠ count then none
    else
      match alpha.readRows firstRow rowCount with
      | none => none
      | some rows => if rows.length ≠ count then none else some (List.zipWith covered tone rows)

/-- `applyTo`. -/
def applyTo (tone : Bytes) : Option Bytes :=
  if !alpha.isActive then some tone
  else if alpha.width = 0 ∨ alpha.height = 0 ∨ tone.length ≠ alpha.width * alpha.height then none
  else alpha.applyToRows 0 alpha.height tone

end RasterAlphaMask

/-! ## Pixels and their bytes -/

/-- The byte of a pixel in one of the four planes. -/
def channelByte (pixel : Cmyk) : Nat → UInt8
  | 0 => pixel.c
  | 1 => pixel.m
  | 2 => pixel.y
  | _ => pixel.k

/-- The pixels as the export `"CMYK"` gives them. -/
def interleaved (pixels : List Cmyk) : Bytes :=
  pixels.flatMap fun pixel ↦ [pixel.c, pixel.m, pixel.y, pixel.k]

/-- One of the planes of interleaved bytes. -/
def separated (raw : Bytes) (pixels channel : Nat) : Bytes :=
  (List.range pixels).map fun pixel ↦ raw[pixel * 4 + channel]!

@[simp] theorem interleaved_length (pixels : List Cmyk) :
    (interleaved pixels).length = pixels.length * 4 := by
  simp [interleaved, List.length_flatMap]

@[simp] theorem interleaved_append (first second : List Cmyk) :
    interleaved (first ++ second) = interleaved first ++ interleaved second :=
  List.flatMap_append

theorem interleaved_drop (pixels : List Cmyk) (n : Nat) :
    (interleaved pixels).drop (n * 4) = interleaved (pixels.drop n) := by
  rcases Nat.le_total n pixels.length with hle | hle
  · have hlength : (interleaved (pixels.take n)).length = n * 4 := by
      rw [interleaved_length, List.length_take, Nat.min_eq_left hle]
    conv_lhs => rw [← List.take_append_drop n pixels, interleaved_append]
    exact List.drop_left' hlength
  · rw [List.drop_eq_nil_of_le hle, List.drop_eq_nil_of_le]
    · rfl
    · rw [interleaved_length]
      exact Nat.mul_le_mul_right 4 hle

theorem interleaved_take (pixels : List Cmyk) (n : Nat) :
    (interleaved pixels).take (n * 4) = interleaved (pixels.take n) := by
  rcases Nat.le_total n pixels.length with hle | hle
  · have hlength : (interleaved (pixels.take n)).length = n * 4 := by
      rw [interleaved_length, List.length_take, Nat.min_eq_left hle]
    conv_lhs => rw [← List.take_append_drop n pixels, interleaved_append]
    exact List.take_left' hlength
  · rw [List.take_of_length_le hle, List.take_of_length_le]
    rw [interleaved_length]
    exact Nat.mul_le_mul_right 4 hle

/-- A byte of the export. -/
theorem interleaved_get (pixels : List Cmyk) {i channel : Nat} (hi : i < pixels.length)
    (hchannel : channel < 4) :
    (interleaved pixels)[i * 4 + channel]! = channelByte pixels[i] channel := by
  have hfirst : (interleaved pixels)[i * 4 + channel]? =
      (interleaved (pixels.drop i))[channel]? := by
    rw [← interleaved_drop, List.getElem?_drop]
  rw [List.getElem!_eq_getElem?_getD, hfirst, List.drop_eq_getElem_cons hi]
  rcases channel with _ | _ | _ | _ | _
  all_goals first | rfl | omega

/-- The planes of an export are the planes of the pixels. -/
theorem separated_interleaved (pixels : List Cmyk) {channel : Nat} (hchannel : channel < 4) :
    separated (interleaved pixels) pixels.length channel =
      pixels.map (channelByte · channel) := by
  refine List.ext_getElem (by simp [separated]) ?_
  intro i hi _
  have hlt : i < pixels.length := by simpa [separated] using hi
  simp only [separated, List.getElem_map, List.getElem_range]
  exact interleaved_get pixels hlt hchannel

/-! ## Source images -/

/-- The image of a job at its output size, with the alpha mask of its source, which has the same
size. -/
structure SourceImage where
  width : Nat
  height : Nat
  pixels : List Cmyk
  alpha : RasterAlphaMask
  width_pos : 0 < width
  width_lt : width < 2 ^ 31
  height_pos : 0 < height
  height_lt : height < 2 ^ 31
  pixels_length : pixels.length = width * height
  alpha_fits : alpha.isActive = true → alpha.width = width ∧ alpha.height = height

/-- A pixel under an alpha value. -/
def coveredPixel (pixel : Cmyk) (alpha : UInt8) : Cmyk where
  c := RasterAlphaMask.covered pixel.c alpha
  m := RasterAlphaMask.covered pixel.m alpha
  y := RasterAlphaMask.covered pixel.y alpha
  k := RasterAlphaMask.covered pixel.k alpha

namespace SourceImage

variable (image : SourceImage)

/-- The pixels under the mask. -/
def covered : List Cmyk :=
  match image.alpha.mask with
  | none => image.pixels
  | some bytes => List.zipWith coveredPixel image.pixels bytes

/-- The mask has a value for each pixel. -/
theorem alpha_length {bytes : Bytes} (h : image.alpha.mask = some bytes) :
    bytes.length = image.width * image.height := by
  obtain ⟨hwidth, hheight⟩ := image.alpha_fits (by rw [RasterAlphaMask.isActive, h]; rfl)
  rw [image.alpha.mask_length bytes h, hwidth, hheight]

@[simp] theorem covered_length : image.covered.length = image.width * image.height := by
  unfold covered
  split
  · exact image.pixels_length
  · next bytes h =>
      rw [List.length_zipWith, image.pixels_length, image.alpha_length h, Nat.min_self]

/-- The path in memory exports the image, separates the planes and covers each of them. -/
def coveredPlane (channel : Nat) : Option Bytes :=
  image.alpha.applyTo (separated (interleaved image.pixels) (image.width * image.height) channel)

/-- That gives the planes of the covered pixels. -/
theorem covered_plane_eq {channel : Nat} (hchannel : channel < 4) :
    image.coveredPlane channel = some (image.covered.map (channelByte · channel)) := by
  have hplane : separated (interleaved image.pixels) (image.width * image.height) channel =
      image.pixels.map (channelByte · channel) := by
    rw [← image.pixels_length, separated_interleaved _ hchannel]
  rw [coveredPlane, hplane, covered]
  cases hmask : image.alpha.mask with
  | none => simp only [RasterAlphaMask.applyTo, RasterAlphaMask.isActive, hmask]; rfl
  | some bytes =>
      have hactive : image.alpha.isActive = true := by rw [RasterAlphaMask.isActive, hmask]; rfl
      obtain ⟨hwidth, hheight⟩ := image.alpha_fits hactive
      have hlength : (image.pixels.map (channelByte · channel)).length =
          image.width * image.height := by rw [List.length_map, image.pixels_length]
      have hstrip : Plane.strip bytes image.width 0 image.height = bytes := by
        rw [Plane.strip, Nat.zero_mul, List.drop_zero, List.take_of_length_le]
        rw [image.alpha_length hmask, Nat.mul_comm]
      have hpositive : ¬ (image.width = 0 ∨ image.height = 0 ∨
          (image.pixels.map (channelByte · channel)).length ≠ image.width * image.height) := by
        have hw := image.width_pos
        have hh := image.height_pos
        rw [hlength]
        omega
      rw [RasterAlphaMask.applyTo, hactive, hwidth, hheight, if_neg (by decide), if_neg hpositive,
        RasterAlphaMask.applyToRows, hactive, if_neg (by decide)]
      dsimp only
      rw [hwidth, hlength, if_neg (not_not.mpr rfl), RasterAlphaMask.readRows, hmask]
      dsimp only
      rw [hheight, Nat.zero_add, if_neg (Nat.lt_irrefl _), hwidth, hstrip]
      dsimp only
      rw [image.alpha_length hmask, if_neg (not_not.mpr rfl), List.zipWith_map_left,
        List.map_zipWith]
      congr 2
      funext pixel alpha
      rcases channel with _ | _ | _ | _
      all_goals rfl

/-- The pixels of some rows under the mask are those rows of the covered pixels. -/
theorem covered_strip {firstRow rowCount : Nat} :
    Plane.strip image.covered image.width firstRow rowCount =
      match image.alpha.mask with
      | none => Plane.strip image.pixels image.width firstRow rowCount
      | some bytes => List.zipWith coveredPixel
          (Plane.strip image.pixels image.width firstRow rowCount)
          (Plane.strip bytes image.width firstRow rowCount) := by
  rw [covered]
  split
  · rfl
  · exact Plane.strip_zip_with ..

end SourceImage

/-! ## The cache -/

/-- How the steps of the cache end: whether its file opens, and for each strip whether the job was
canceled before it and whether it was written. `reopened` says whether the file opens for the rows
from a number on. -/
structure CacheIo where
  opened : Bool := true
  canceled : Nat → Bool := fun _ ↦ false
  written : Nat → Bool := fun _ ↦ true
  reopened : Nat → Bool := fun _ ↦ true
  errorString : String := ""

/-- Nothing fails. -/
structure CacheIo.Ok (io : CacheIo) : Prop where
  opened : io.opened = true
  canceled : ∀ strip, io.canceled strip = false
  written : ∀ strip, io.written strip = true
  reopened : ∀ firstRow, io.reopened firstRow = true

/-- `CanonicalCmykFile`, with the bytes of its file. -/
structure CanonicalCmykFile where
  width : Nat
  height : Nat
  content : Bytes

namespace CanonicalCmykFile

/-- The loop that covers the pixels of a strip. -/
def coverRows (bytes alphaRows : Bytes) : Bytes :=
  bytes.mapIdx fun i tone ↦ RasterAlphaMask.covered tone alphaRows[i / 4]!

/-- The bytes of some rows, or `none` when the mask does not have them. -/
def stripBytes (image : SourceImage) (firstRow rowCount : Nat) : Option Bytes :=
  let bytes := interleaved (Plane.strip image.pixels image.width firstRow rowCount)
  if image.alpha.isActive then
    match image.alpha.readRows firstRow rowCount with
    | none => none
    | some alphaRows =>
      if alphaRows.length ≠ image.width * rowCount then none else some (coverRows bytes alphaRows)
  else some bytes

/-- The strips from number `index` on. -/
def writeStrips (io : CacheIo) (image : SourceImage) :
    (index : Nat) → List (Nat × Nat) → (content : Bytes) → Except String Bytes
  | _, [], content => .ok content
  | index, (firstRow, rowCount) :: rest, content =>
    if io.canceled index then .error "Rasterization canceled."
    else
      match stripBytes image firstRow rowCount with
      | none => .error "Could not read the resized alpha mask."
      | some bytes =>
        if io.written index then writeStrips io image (index + 1) rest (content ++ bytes)
        else .error ("Could not write the canonical CMYK cache: " ++ io.errorString)

/-- The rows the cache writes at a time. -/
def cacheRows (image : SourceImage) : Nat :=
  boundedRowsForWidth image.width (if image.alpha.isActive then 5 else 4) (64 * MiB)

/-- `CanonicalCmykFile::create`. -/
def create (io : CacheIo) (image : SourceImage) : Except String CanonicalCmykFile :=
  if image.width = 0 ∨ image.height = 0 then .error "Canonical CMYK image is empty."
  else if !io.opened then
    .error ("Could not create the canonical CMYK cache: " ++ io.errorString)
  else
    match writeStrips io image 0 (Plane.strips image.height (cacheRows image) 0) [] with
    | .error message => .error message
    | .ok content => .ok ⟨image.width, image.height, content⟩

/-- `CanonicalCmykFile::readRows`. -/
def readRows (file : CanonicalCmykFile) (io : CacheIo) (firstRow rowCount : Nat) :
    Except String Bytes :=
  if rowCount = 0 ∨ file.height < firstRow + rowCount then
    .error "Canonical CMYK row request is invalid."
  else if !io.reopened firstRow then .error io.errorString
  else
    let count := rowCount * file.width * 4
    let bytes := (file.content.drop (firstRow * file.width * 4)).take count
    if bytes.length ≠ count then .error "Canonical CMYK cache is truncated." else .ok bytes

/-- Covering the bytes of an export covers its pixels. -/
theorem cover_rows_interleaved (pixels : List Cmyk) {alphaRows : Bytes}
    (h : alphaRows.length = pixels.length) :
    coverRows (interleaved pixels) alphaRows =
      interleaved (List.zipWith coveredPixel pixels alphaRows) := by
  induction pixels generalizing alphaRows with
  | nil => rfl
  | cons pixel pixels ih =>
      cases alphaRows with
      | nil => cases h
      | cons alpha alphaRows =>
          have hrest := ih (Nat.succ.inj h)
          have hnext : ∀ i, (i + 4) / 4 = i / 4 + 1 := fun i ↦ by omega
          simp only [coverRows, interleaved, List.flatMap_cons, List.mapIdx_append,
            List.zipWith_cons_cons] at hrest ⊢
          simp only [List.length_cons, List.length_nil, hnext, List.getElem!_cons_succ]
          rw [hrest]
          simp [coveredPixel]

/-- The bytes of some rows are those of the covered pixels. -/
theorem strip_bytes_eq (image : SourceImage) {firstRow rowCount : Nat}
    (hrows : firstRow + rowCount ≤ image.height) :
    stripBytes image firstRow rowCount =
      some (interleaved (Plane.strip image.covered image.width firstRow rowCount)) := by
  rw [image.covered_strip, stripBytes]
  cases hmask : image.alpha.mask with
  | none => rw [RasterAlphaMask.isActive, hmask]; rfl
  | some bytes =>
      have hactive : image.alpha.isActive = true := by rw [RasterAlphaMask.isActive, hmask]; rfl
      obtain ⟨hwidth, hheight⟩ := image.alpha_fits hactive
      have halpha := Plane.strip_length (image.alpha_length hmask) hrows
      rw [hactive, RasterAlphaMask.readRows, hmask, hwidth, hheight]
      dsimp only
      rw [if_pos rfl, if_neg (Nat.not_lt.mpr hrows)]
      dsimp only
      rw [if_neg (not_not.mpr halpha), cover_rows_interleaved]
      rw [halpha, Plane.strip_length image.pixels_length hrows]

/-- The strips append the bytes of their rows. -/
theorem write_strips_eq {io : CacheIo} {image : SourceImage} {strips : List (Nat × Nat)}
    {firstRow index : Nat} {content result : Bytes}
    (hstrips : Plane.Partition image.height firstRow strips)
    (h : writeStrips io image index strips content = .ok result) :
    result = content ++ interleaved (image.covered.drop (firstRow * image.width)) := by
  induction strips generalizing firstRow index content with
  | nil =>
      obtain rfl := Except.ok.inj h
      have hend : firstRow = image.height := hstrips
      rw [List.drop_eq_nil_of_le, interleaved, List.flatMap_nil, List.append_nil]
      rw [image.covered_length, hend, Nat.mul_comm]
  | cons cut rest ih =>
      obtain ⟨start, rowCount⟩ := cut
      obtain ⟨rfl, _, hrest⟩ := hstrips
      rw [writeStrips, strip_bytes_eq image hrest.le] at h
      split_ifs at h
      rw [ih hrest h, List.append_assoc, ← interleaved_append, Plane.strip, Nat.add_mul,
        ← List.drop_drop, List.take_append_drop]

/-- Without failures the strips are written. -/
theorem write_strips_complete {io : CacheIo} (hio : io.Ok) {image : SourceImage}
    {strips : List (Nat × Nat)} {firstRow : Nat}
    (hstrips : Plane.Partition image.height firstRow strips) (index : Nat) (content : Bytes) :
    ∃ result, writeStrips io image index strips content = .ok result := by
  induction strips generalizing firstRow index content with
  | nil => exact ⟨content, rfl⟩
  | cons cut rest ih =>
      obtain ⟨start, rowCount⟩ := cut
      obtain ⟨rfl, _, hrest⟩ := hstrips
      rw [writeStrips, strip_bytes_eq image hrest.le, hio.canceled, if_neg Bool.false_ne_true]
      dsimp only
      rw [hio.written, if_pos rfl]
      exact ih hrest _ _

/-- The loop of the cache covers the rows. -/
theorem cache_strips (image : SourceImage) :
    Plane.Partition image.height 0 (Plane.strips image.height (cacheRows image) 0) := by
  have hstrips := @Plane.strips_partition image.height (cacheRows image) (bounded_rows_pos ..) 0
  rwa [Nat.zero_min] at hstrips

/-- A cache that was created holds the covered pixels. -/
theorem create_eq {io : CacheIo} {image : SourceImage} {file : CanonicalCmykFile}
    (h : create io image = .ok file) :
    file = ⟨image.width, image.height, interleaved image.covered⟩ := by
  unfold create at h
  split_ifs at h
  split at h
  · cases h
  · next content hcontent =>
      obtain rfl := Except.ok.inj h
      rw [write_strips_eq (cache_strips image) hcontent, List.nil_append, Nat.zero_mul,
        List.drop_zero]

/-- Without failures the cache is created. -/
theorem create_complete {io : CacheIo} (hio : io.Ok) (image : SourceImage) :
    ∃ file, create io image = .ok file := by
  have hpositive : ¬ (image.width = 0 ∨ image.height = 0) := by
    have hwidth := image.width_pos
    have hheight := image.height_pos
    omega
  obtain ⟨content, hcontent⟩ := write_strips_complete hio (cache_strips image) 0 []
  refine ⟨⟨image.width, image.height, content⟩, ?_⟩
  rw [create, if_neg hpositive, hio.opened, Bool.not_true, if_neg Bool.false_ne_true, hcontent]

/-- Rows of a created cache, when the file opens, are a strip of the covered pixels. -/
theorem read_rows_eq {io : CacheIo} {image : SourceImage} {file : CanonicalCmykFile}
    (h : create io image = .ok file) {firstRow rowCount : Nat} (hcount : 0 < rowCount)
    (hrows : firstRow + rowCount ≤ image.height) (hopens : io.reopened firstRow = true) :
    file.readRows io firstRow rowCount =
      .ok (interleaved (Plane.strip image.covered image.width firstRow rowCount)) := by
  obtain rfl := create_eq h
  have hrequest : ¬ (rowCount = 0 ∨ image.height < firstRow + rowCount) := by omega
  have hbytes : ((interleaved image.covered).drop (firstRow * image.width * 4)).take
      (rowCount * image.width * 4) =
        interleaved (Plane.strip image.covered image.width firstRow rowCount) := by
    rw [interleaved_drop, interleaved_take, Plane.strip]
  rw [readRows, if_neg hrequest, hopens, Bool.not_true, if_neg Bool.false_ne_true]
  dsimp only
  rw [hbytes, if_neg]
  rw [not_not, interleaved_length, Plane.strip_length image.covered_length hrows,
    Nat.mul_comm image.width]

end CanonicalCmykFile

end PrintFlow
