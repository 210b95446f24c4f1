import PrintFlow.Library.Runs
import PrintFlow.Rip.ImagePhysicalSize

/-!
# Repeated output of one image

`PrintJobCMYK` and `PrintJobMultiInk` scale their image in place to the resolution of an output and
keep the density that the image had when it was loaded. `keeps_physical_size_iff` says for a run of
outputs when every raster has the size of the source at its resolution.
-/

namespace PrintFlow.RepeatedOutput

open FloatFormat ImagePhysicalSize

/-! ## The jobs -/

/-- The classes that produce rasters. -/
inductive PrintJobClass where
  | cmyk
  | multiInk
  deriving DecidableEq

def kBaseXDpi : Int := 720
def kBaseYDpi : Int := 600

/-- The fallback density of a class. -/
def PrintJobClass.fallbackDpi : PrintJobClass → Double
  | .cmyk => .finite 720
  | .multiInk => .finite kBaseYDpi

/-- `snapToMultiple`. -/
def snapToMultiple (value step : Int) : Int :=
  if step ≤ 0 then value
  else if value ≤ 0 then step
  else max step ((value + step / 2) / step * step)

/-- A resolution in dots per inch. -/
structure Resolution where
  xdpi : Int
  ydpi : Int
  deriving DecidableEq

/-- The resolution that a class gives the raster of a call. -/
def PrintJobClass.resolution (jobClass : PrintJobClass) (asked : Resolution) : Resolution :=
  match jobClass with
  | .cmyk => asked
  | .multiInk => ⟨clamp asked.xdpi 1 kBaseXDpi, snapToMultiple asked.ydpi kBaseYDpi⟩

/-- The image of a job: its pixels, the density of the source, the size of the source alpha mask, if
there is one, and whether it is a CMYK image. -/
structure JobImage where
  columns : Nat
  rows : Nat
  inputDensity : Density
  alphaMask : Option PixelSize
  isCmyk : Bool

/-- The image of a job after a source image is loaded and converted. -/
def loaded (jobClass : PrintJobClass) (source : Source) (hasAlpha isCmyk : Bool) : JobImage where
  columns := source.columns
  rows := source.rows
  inputDensity := resolvedDensity source jobClass.fallbackDpi jobClass.fallbackDpi
  alphaMask := if hasAlpha then some ⟨source.columns, source.rows⟩ else none
  isCmyk

/-- What decides a call besides its resolution: whether the masks and the storage suffice, whether
the image and the alpha mask can be resized, and whether everything after that succeeds. -/
structure Course where
  storage : Bool
  resizes : Bool
  maskResizes : Bool
  completes : Bool

/-- The raster of a spool. -/
structure Raster where
  width : Nat
  height : Nat
  xdpi : Int
  ydpi : Int
  deriving DecidableEq

/-- The size of the image. -/
def JobImage.size (job : JobImage) : PixelSize := ⟨job.columns, job.rows⟩

/-- `RasterAlphaMask::resize`: whether it succeeds, and the size after it. -/
def resizeMask (alphaMask : Option PixelSize) (size : PixelSize) (resizes : Bool) :
    Bool × Option PixelSize :=
  match alphaMask with
  | none => (true, none)
  | some old =>
    if old = size then (true, some old)
    else if resizes then (true, some size)
    else (false, some old)

/-- `buildRasterSpool`: the image of the job after it, and the raster that it produced. -/
def buildRasterSpool (jobClass : PrintJobClass) (asked : Resolution) (course : Course)
    (job : JobImage) : JobImage × Option Raster :=
  if !job.isCmyk then (job, none)
  else
    let resolution := jobClass.resolution asked
    -- "Preserve source physical dimensions while converting its pixels"
    match outputPixelSize job.columns job.rows job.inputDensity resolution.xdpi resolution.ydpi with
    | none => (job, none)
    | some outputSize =>
      if !course.storage then (job, none)
      else
        let spool (job : JobImage) : JobImage × Option Raster :=
          (job, if course.completes then
            some ⟨job.columns, job.rows, resolution.xdpi, resolution.ydpi⟩ else none)
        if outputSize = job.size then spool job
        else if !course.resizes then (job, none)
        else
          let resized := resizeMask job.alphaMask outputSize course.maskResizes
          let job := { job with
            columns := outputSize.width, rows := outputSize.height, alphaMask := resized.2 }
          if !resized.1 then (job, none) else spool job

/-- A call on the job. The raster of `generateFinalPRN` is in the PRN file, if it is written. -/
inductive Call where
  | buildRasterSpool (asked : Resolution) (course : Course)
  | generateFinalPRN (asked : Resolution) (course : Course) (written : Bool)

/-- The resolution that a call asks for. -/
def Call.asked : Call → Resolution
  | .buildRasterSpool asked _ => asked
  | .generateFinalPRN asked _ _ => asked

/-- The course of a call. -/
def Call.course : Call → Course
  | .buildRasterSpool _ course => course
  | .generateFinalPRN _ course _ => course

/-- The raster that a call produces. -/
def produced (jobClass : PrintJobClass) (job : JobImage) : Call → Option Raster
  | .buildRasterSpool asked course => (buildRasterSpool jobClass asked course job).2
  | .generateFinalPRN asked course written =>
    if written then (buildRasterSpool jobClass asked course job).2 else none

/-- The image of the job after a call. -/
def step (jobClass : PrintJobClass) (job : JobImage) (call : Call) : JobImage :=
  (buildRasterSpool jobClass call.asked call.course job).1

/-! ## The size of the image -/

/-- The size that scaling gives, or the old one if the resolution is not valid. -/
def nextSize (density : Density) (size : PixelSize) (resolution : Resolution) : PixelSize :=
  (outputPixelSize size.width size.height density resolution.xdpi resolution.ydpi).getD size

/-- The size after these calls: each one that gets to the resize scales the size that it finds. -/
def sizeAfter (jobClass : PrintJobClass) (density : Density) (size : PixelSize)
    (calls : List Call) : PixelSize :=
  calls.foldl (fun size call ↦
    if call.course.storage && call.course.resizes then
      nextSize density size (jobClass.resolution call.asked)
    else size) size

section Sizes

variable {jobClass : PrintJobClass} {job : JobImage} {call : Call}

@[simp] theorem size_mk (columns rows : Nat) (density : Density) (alphaMask : Option PixelSize)
    (isCmyk : Bool) : (JobImage.mk columns rows density alphaMask isCmyk).size = ⟨columns, rows⟩ :=
  rfl

/-- A call keeps the density and the kind of the image. -/
theorem step_keeps (jobClass : PrintJobClass) (job : JobImage) (call : Call) :
    (step jobClass job call).inputDensity = job.inputDensity ∧
      (step jobClass job call).isCmyk = job.isCmyk := by
  rw [step, buildRasterSpool]
  dsimp only
  split
  · exact ⟨rfl, rfl⟩
  · split
    · exact ⟨rfl, rfl⟩
    · split
      · exact ⟨rfl, rfl⟩
      · split
        · exact ⟨rfl, rfl⟩
        · split
          · exact ⟨rfl, rfl⟩
          · split
            · exact ⟨rfl, rfl⟩
            · exact ⟨rfl, rfl⟩

/-- A call on a CMYK image scales its size, if it gets to the resize. -/
theorem step_size (hcmyk : job.isCmyk = true) : (step jobClass job call).size =
    if call.course.storage && call.course.resizes then
      nextSize job.inputDensity job.size (jobClass.resolution call.asked)
    else job.size := by
  rw [step, buildRasterSpool, hcmyk, nextSize]
  show _ = if _ then (outputPixelSize job.columns job.rows _ _ _).getD _ else _
  cases hsize : outputPixelSize job.columns job.rows job.inputDensity
      (jobClass.resolution call.asked).xdpi (jobClass.resolution call.asked).ydpi with
  | none => simp [hsize]
  | some outputSize =>
      cases hstorage : call.course.storage with
      | false => simp [hsize]
      | true =>
          by_cases hsame : outputSize = job.size
          · simp [hsize, hsame]
          · cases hresizes : call.course.resizes with
            | false => simp [hsize, hsame]
            | true =>
                cases hmask : (resizeMask job.alphaMask outputSize call.course.maskResizes).1 with
                | false => simp [hsize, hsame, hmask]
                | true => simp [hsize, hsame, hmask]

/-- A raster is that of a CMYK image that is scaled to a size, and has this size. -/
theorem build_raster_spool_size {asked : Resolution} {course : Course} {raster : Raster}
    (h : (buildRasterSpool jobClass asked course job).2 = some raster) :
    job.isCmyk = true ∧ outputPixelSize job.size.width job.size.height job.inputDensity
      (jobClass.resolution asked).xdpi (jobClass.resolution asked).ydpi =
        some ⟨raster.width, raster.height⟩ := by
  rw [buildRasterSpool] at h
  show _ ∧ outputPixelSize job.columns job.rows _ _ _ = _
  cases hcmyk : job.isCmyk with
  | false => simp [hcmyk] at h
  | true =>
      refine ⟨rfl, ?_⟩
      cases hsize : outputPixelSize job.columns job.rows job.inputDensity
          (jobClass.resolution asked).xdpi (jobClass.resolution asked).ydpi with
      | none => simp [hcmyk, hsize] at h
      | some outputSize =>
          cases hstorage : course.storage with
          | false => simp [hcmyk, hsize, hstorage] at h
          | true =>
              by_cases hsame : outputSize = job.size
              · cases hcompletes : course.completes with
                | false => simp [hcmyk, hsize, hstorage, hsame, hcompletes] at h
                | true =>
                    simp only [hcmyk, hsize, hstorage, hsame, hcompletes, Bool.not_true,
                      Bool.false_eq_true, ↓reduceIte, Option.some.injEq] at h
                    rw [← h, hsame]
                    rfl
              · cases hresizes : course.resizes with
                | false => simp [hcmyk, hsize, hstorage, hsame, hresizes] at h
                | true =>
                    cases hmask : (resizeMask job.alphaMask outputSize course.maskResizes).1 with
                    | false => simp [hcmyk, hsize, hstorage, hsame, hresizes, hmask] at h
                    | true =>
                        cases hcompletes : course.completes with
                        | false =>
                            simp [hcmyk, hsize, hstorage, hsame, hresizes, hmask, hcompletes] at h
                        | true =>
                            simp only [hcmyk, hsize, hstorage, hsame, hresizes, hmask, hcompletes,
                              Bool.not_true, Bool.false_eq_true, ↓reduceIte,
                              Option.some.injEq] at h
                            rw [← h]

/-- A raster that is produced has the size that the image of the job scales to. -/
theorem produced_size {raster : Raster} (h : produced jobClass job call = some raster) :
    job.isCmyk = true ∧ outputPixelSize job.size.width job.size.height job.inputDensity
      (jobClass.resolution call.asked).xdpi (jobClass.resolution call.asked).ydpi =
        some ⟨raster.width, raster.height⟩ := by
  cases call with
  | buildRasterSpool asked course => exact build_raster_spool_size h
  | generateFinalPRN asked course written =>
      rw [produced] at h
      split at h
      case isTrue => exact build_raster_spool_size h
      case isFalse => exact absurd h (by simp)

/-- The image of a CMYK job has the size that the calls so far give it. -/
theorem run_size (hcmyk : job.isCmyk = true) (calls : List Call) :
    (Runs.run (step jobClass) job calls).size =
      sizeAfter jobClass job.inputDensity job.size calls := by
  induction calls generalizing job with
  | nil => rfl
  | cons call calls ih =>
      obtain ⟨hdensity, hkind⟩ := step_keeps jobClass job call
      rw [Runs.run_cons, ih (hkind.trans hcmyk), hdensity, step_size hcmyk]
      rfl

/-- A run keeps the density and the kind of the image. -/
theorem run_keeps (jobClass : PrintJobClass) (job : JobImage) (calls : List Call) :
    (Runs.run (step jobClass) job calls).inputDensity = job.inputDensity ∧
      (Runs.run (step jobClass) job calls).isCmyk = job.isCmyk := by
  induction calls generalizing job with
  | nil => exact ⟨rfl, rfl⟩
  | cons call calls ih =>
      obtain ⟨hdensity, hkind⟩ := step_keeps jobClass job call
      obtain ⟨hlater, hlater_kind⟩ := ih (step jobClass job call)
      rw [Runs.run_cons]
      exact ⟨hlater.trans hdensity, hlater_kind.trans hkind⟩

end Sizes

/-! ## The physical size -/

/-- The pixels of the source at the resolution of a call. -/
def sourcePixels (jobClass : PrintJobClass) (source : Source) (call : Call) : Option PixelSize :=
  outputPixelSize source.columns source.rows
    (resolvedDensity source jobClass.fallbackDpi jobClass.fallbackDpi)
    (jobClass.resolution call.asked).xdpi (jobClass.resolution call.asked).ydpi

/-- The raster of a call has the pixels of the source at its resolution. -/
def KeepsPhysicalSize (jobClass : PrintJobClass) (source : Source) (job : JobImage)
    (call : Call) : Prop :=
  ∀ raster, produced jobClass job call = some raster →
    sourcePixels jobClass source call = some ⟨raster.width, raster.height⟩

/-- The pixels that the calls so far leave of the source, at the resolution of a call. -/
def repeatedPixels (jobClass : PrintJobClass) (source : Source) (before : List Call)
    (call : Call) : Option PixelSize :=
  let density := resolvedDensity source jobClass.fallbackDpi jobClass.fallbackDpi
  let size := sizeAfter jobClass density ⟨source.columns, source.rows⟩ before
  outputPixelSize size.width size.height density (jobClass.resolution call.asked).xdpi
    (jobClass.resolution call.asked).ydpi

/-- Every raster of a run keeps the physical size exactly when, at each call that produces one, the
sizes to which the earlier calls have scaled the source one after the other scale to the same pixels
as the source itself. -/
theorem keeps_physical_size_iff (jobClass : PrintJobClass) (source : Source)
    (hasAlpha isCmyk : Bool) (calls : List Call) :
    Runs.Along (step jobClass) (KeepsPhysicalSize jobClass source)
        (loaded jobClass source hasAlpha isCmyk) calls ↔
      ∀ before call after, calls = before ++ call :: after →
        (produced jobClass (Runs.run (step jobClass) (loaded jobClass source hasAlpha isCmyk) before)
          call).isSome = true →
        repeatedPixels jobClass source before call = sourcePixels jobClass source call := by
  -- what a call produces has the pixels that the earlier calls leave
  have hproduced : ∀ before call raster,
      produced jobClass (Runs.run (step jobClass) (loaded jobClass source hasAlpha isCmyk) before)
        call = some raster →
      repeatedPixels jobClass source before call = some ⟨raster.width, raster.height⟩ := by
    intro before call raster h
    obtain ⟨hkind, hsize⟩ := produced_size h
    obtain ⟨hdensity, hsame⟩ := run_keeps jobClass (loaded jobClass source hasAlpha isCmyk) before
    rw [run_size (hsame.symm.trans hkind), hdensity] at hsize
    exact hsize
  rw [Runs.along_iff]
  constructor
  · intro hkeeps before call after hsplit hsome
    obtain ⟨raster, hraster⟩ := Option.isSome_iff_exists.mp hsome
    rw [hproduced before call raster hraster]
    exact (hkeeps before call after hsplit raster hraster).symm
  · intro hsame before call after hsplit raster hraster
    rw [← hsame before call after hsplit (by rw [hraster]; rfl)]
    exact hproduced before call raster hraster

/-- A call whose course meets no failure. -/
def smoothCourse : Course := ⟨true, true, true, true⟩

/-- A poster of 720 by 720 pixels at 720 dots per inch. -/
def poster : Source := ⟨720, 720, .finite 720, .finite 720, .pixelsPerInch⟩

/-- A proof at 360 dots per inch and the output at 720. -/
def proofThenOutput : List Call :=
  [.buildRasterSpool ⟨360, 360⟩ smoothCourse, .buildRasterSpool ⟨720, 720⟩ smoothCourse]

/-- The second output has a quarter of the pixels. -/
theorem second_output_shrinks : ¬ ∀ jobClass source hasAlpha isCmyk calls,
    Runs.Along (step jobClass) (KeepsPhysicalSize jobClass source)
      (loaded jobClass source hasAlpha isCmyk) calls := by
  intro hkeeps
  have hsecond := (hkeeps .cmyk poster false true proofThenOutput).2.1
  have hraster : (produced .cmyk (step .cmyk (loaded .cmyk poster false true)
      (.buildRasterSpool ⟨360, 360⟩ smoothCourse)) (.buildRasterSpool ⟨720, 720⟩ smoothCourse)) =
        some ⟨360, 360, 720, 720⟩ := by
    decide +kernel
  have hsource : sourcePixels .cmyk poster (.buildRasterSpool ⟨720, 720⟩ smoothCourse) =
      some ⟨720, 720⟩ := by
    decide +kernel
  have hsame := hsecond _ hraster
  rw [hsource] at hsame
  exact absurd hsame (by decide)

end PrintFlow.RepeatedOutput
