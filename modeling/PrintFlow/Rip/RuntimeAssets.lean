import PrintFlow.Core.AssetManager

/-!
# The runtime assets of the two jobs

`PrintJobCMYK` and `PrintJobMultiInk` stage their assets in one directory, each with a flag of its
own that says that this is done, and each can remove the directory. `runtime_assets_staged` is what
the flag is worth after any preparations and cleanups, with any failures; `prepared_without_files`
is what a job makes of its flag after the other one has removed the directory.
-/

namespace PrintFlow.RuntimeAssets

open FileStore Interaction AssetManager

/-! ## The jobs -/

/-- The asset manager's root path, whether there is one, and the flag of a job. -/
structure Job where
  rooted : Bool := false
  prepared : Bool := false

/-- The `return` that `prepareAssets` takes. -/
inductive Prepared where
  | notInitialized
  | kept
  | notStaged
  | staged
  deriving DecidableEq

/-- The asset of a mask. -/
def maskAsset (key : String) : Asset :=
  (":/assets/blue_noise_mask_512_12000/mask_" ++ key ++ ".tiff", "mask_512_" ++ key ++ ".tiff")

/-- A mask that is there is used as it is. -/
def stageMask (asset : Asset) : FileProgram Unit := do
  if ← FileCall.ask (.exists asset.2) then return ()
  else if ← FileCall.ask (.resourceExists asset.1) then
    let _ ← copyResourceIfMissing asset
    return ()
  else return ()

def stageMasks : List Asset → FileProgram Unit
  | [] => pure ()
  | asset :: rest => do
    stageMask asset
    stageMasks rest

/-- The files that `addProfile` copies. -/
def copyProfiles : List Asset → FileProgram Unit
  | [] => pure ()
  | asset :: rest => do
    let _ ← copyResourceIfMissing asset
    copyProfiles rest

/-- The part of both `prepareAssets` that stages the files. -/
def stageAssets (job : Job) (bundled masks profiles : List Asset) : FileProgram (Job × Prepared) := do
  if ← syncResources bundled then
    stageMasks masks
    copyProfiles profiles
    return ({ job with prepared := true }, .staged)
  else return (job, .notStaged)

namespace PrintJobCMYK

def bundled : List Asset :=
  [(":/assets/sRGBProfile.icm", "sRGBProfile.icm"),
    (":/assets/RIP_App_1440_Plain_Default.icc", "RIP_App_1440_Plain_Default.icc"),
    (":/assets/RIP_App_1440_Plain_Neutral.icc", "RIP_App_1440_Plain_Neutral.icc"),
    (":/assets/RIP_App_Generic_CMYK.icc", "RIP_App_Generic_CMYK.icc"),
    (":/assets/RIP_App_Linearization_1440_X-33.xml", "RIP_App_Linearization_1440_X-33.xml")]

def masks : List Asset := ["c", "m", "y", "k", "w"].map maskAsset

def profiles : List Asset :=
  [(":/assets/RIP_App_1440_Plain_Default.icc", "RIP_App_1440_Plain_Default.icc"),
    (":/assets/RIP_App_1440_Plain_Neutral.icc", "RIP_App_1440_Plain_Neutral.icc"),
    (":/assets/sRGBProfile.icm", "sRGBProfile.icm"),
    (":/assets/RIP_App_Generic_CMYK.icc", "RIP_App_Generic_CMYK.icc")]

def prepareAssets (job : Job) : FileProgram (Job × Prepared) := do
  let (rooted, ok) ← initializeRoot
  let job := { job with rooted }
  if !ok then return (job, .notInitialized)
  else if job.prepared then
    if ← FileCall.ask .directoryExists then return (job, .kept)
    else stageAssets job bundled masks profiles
  else stageAssets job bundled masks profiles

def cleanupRuntimeAssets (job : Job) : FileProgram (Job × Bool) := do
  if ← cleanup job.rooted then return ({ job with prepared := false }, true)
  else return (job, false)

end PrintJobCMYK

namespace PrintJobMultiInk

def bundled : List Asset :=
  [(":/assets/sRGBProfile.icm", "sRGBProfile.icm"),
    (":/assets/RIP_App_Generic_CMYK.icc", "RIP_App_Generic_CMYK.icc"),
    (":/assets/RIP_App_1200_4C.icc", "RIP_App_1200_4C.icc"),
    (":/assets/RIP_App_1200_8C.icc", "RIP_App_1200_8C.icc"),
    (":/assets/RIP_App_Linearization_1200_4C.xml", "RIP_App_Linearization_1200_4C.xml"),
    (":/assets/RIP_App_Linearization_1200_8C.xml", "RIP_App_Linearization_1200_8C.xml")]

def masks : List Asset :=
  ["c", "m", "y", "k", "lc", "lm", "lk", "llk", "w", "v"].map maskAsset

/-- It returns `true` with `kept` and `staged`. -/
def prepareAssets (job : Job) : FileProgram (Job × Prepared) := do
  let (rooted, ok) ← initializeRoot
  let job := { job with rooted }
  if !ok then return (job, .notInitialized)
  else if job.prepared then return (job, .kept)
  else stageAssets job bundled masks []

def cleanupAssets (job : Job) : FileProgram (Job × Bool) := do
  let ok ← cleanup job.rooted
  if ok then return ({ job with prepared := false }, ok) else return (job, ok)

end PrintJobMultiInk

/-! ## Runs of both jobs -/

inductive Kind where
  | cmyk
  | multiInk
  deriving DecidableEq

/-- The files a job keeps in step with their resources. -/
def Kind.bundled : Kind → List Asset
  | .cmyk => PrintJobCMYK.bundled
  | .multiInk => PrintJobMultiInk.bundled

/-- The files it copies where they are missing. -/
def Kind.copied : Kind → List Asset
  | .cmyk => PrintJobCMYK.masks ++ PrintJobCMYK.profiles
  | .multiInk => PrintJobMultiInk.masks

def Kind.prepareAssets : Kind → Job → FileProgram (Job × Prepared)
  | .cmyk => PrintJobCMYK.prepareAssets
  | .multiInk => PrintJobMultiInk.prepareAssets

def Kind.cleanup : Kind → Job → FileProgram (Job × Bool)
  | .cmyk => PrintJobCMYK.cleanupRuntimeAssets
  | .multiInk => PrintJobMultiInk.cleanupAssets

/-- What a job did, and how it ended. -/
inductive Done where
  | prepare (kind : Kind) (prepared : Prepared)
  | cleanup (kind : Kind) (ok : Bool)

/-- The directory and the two jobs. -/
structure Jobs where
  directory : Directory
  job : Kind → Job := fun _ ↦ {}

/-- A job prepares its assets or cleans up. -/
inductive JobsStep (resources : Store String) (sha256 : Bytes → Bytes) (jobs : Jobs) :
    Done → Jobs → Prop where
  | prepare {kind trace job prepared directory} :
      Runs (kind.prepareAssets (jobs.job kind)) trace (job, prepared) →
        Along (FileStep resources sha256) jobs.directory trace directory →
          JobsStep resources sha256 jobs (.prepare kind prepared)
            ⟨directory, Function.update jobs.job kind job⟩
  | cleanup {kind trace job ok directory} :
      Runs (kind.cleanup (jobs.job kind)) trace (job, ok) →
        Along (FileStep resources sha256) jobs.directory trace directory →
          JobsStep resources sha256 jobs (.cleanup kind ok)
            ⟨directory, Function.update jobs.job kind job⟩

/-- The jobs take any number of steps. -/
inductive JobsRun (resources : Store String) (sha256 : Bytes → Bytes) (start : Jobs) :
    List Done → Jobs → Prop where
  | nil : JobsRun resources sha256 start [] start
  | snoc {history jobs done next} : JobsRun resources sha256 start history jobs →
      JobsStep resources sha256 jobs done next →
        JobsRun resources sha256 start (history ++ [done]) next

/-! ## One preparation -/

/-- The files in step lie under one path by their names. -/
theorem bundled_path {kind : Kind} {asset : Asset} (h : asset ∈ kind.bundled) :
    asset.1 = ":/assets/" ++ asset.2 := by
  cases kind with
  | cmyk =>
      have hall : ∀ asset ∈ PrintJobCMYK.bundled, asset.1 = ":/assets/" ++ asset.2 := by decide
      exact hall asset h
  | multiInk =>
      have hall : ∀ asset ∈ PrintJobMultiInk.bundled, asset.1 = ":/assets/" ++ asset.2 := by decide
      exact hall asset h

theorem bundled_consistent (kind : Kind) : Consistent kind.bundled := by
  intro first hfirst second hsecond hname
  rw [bundled_path hfirst, bundled_path hsecond, hname]

section Programs

variable {resources : Store String} {sha256 : Bytes → Bytes} {directory : Directory}

theorem initialize_root_safely :
    Safely (FileStep resources sha256) Anytime initializeRoot
      (fun root final ↦ final.files = directory.files ∧ (root.2 = true → final.present = true))
      directory := by
  refine .call_bind trivial fun found next hstep ↦ ?_
  cases hstep
  refine .ite (fun _ ↦ ?_) fun _ ↦ .pure ⟨rfl, nofun⟩
  refine .call_bind trivial fun made next hstep ↦ .pure ?_
  cases hstep
  exact ⟨rfl, fun hmade ↦ (Bool.or_eq_true _ _).mpr (.inr hmade)⟩

theorem stage_mask_safely (asset : Asset) :
    Safely (FileStep resources sha256) Anytime (stageMask asset)
      (fun _ ↦ Refreshed resources [] [asset] directory) directory := by
  refine .call_bind trivial fun found next hstep ↦ ?_
  cases hstep
  refine .ite (fun _ ↦ .pure (.of_files rfl)) fun _ ↦ ?_
  refine .call_bind trivial fun found next hstep ↦ ?_
  cases hstep
  refine .ite (fun _ ↦ ?_) fun _ ↦ .pure (.of_files rfl)
  exact .bind copy_resource_if_missing_safely fun _ _ hcopied ↦ .pure hcopied.1

theorem stage_masks_safely (masks : List Asset) :
    Safely (FileStep resources sha256) Anytime (stageMasks masks)
      (fun _ ↦ Refreshed resources [] masks directory) directory := by
  induction masks generalizing directory with
  | nil => exact .pure (.of_files rfl)
  | cons asset rest ih =>
      have hsubset : [asset] ⊆ asset :: rest := List.cons_subset_cons _ (List.nil_subset _)
      refine .bind (stage_mask_safely asset) fun _ between hfirst ↦ ?_
      refine ih.mono fun _ final hrest ↦ ?_
      exact (hfirst.mono (List.Subset.refl []) hsubset).trans
        (hrest.mono (List.Subset.refl []) (List.subset_cons_self asset rest))

theorem copy_profiles_safely (profiles : List Asset) :
    Safely (FileStep resources sha256) Anytime (copyProfiles profiles)
      (fun _ ↦ Refreshed resources [] profiles directory) directory := by
  induction profiles generalizing directory with
  | nil => exact .pure (.of_files rfl)
  | cons asset rest ih =>
      have hsubset : [asset] ⊆ asset :: rest := List.cons_subset_cons _ (List.nil_subset _)
      refine .bind copy_resource_if_missing_safely fun _ between hfirst ↦ ?_
      refine ih.mono fun _ final hrest ↦ ?_
      exact (hfirst.1.mono (List.Subset.refl []) hsubset).trans
        (hrest.mono (List.Subset.refl []) (List.subset_cons_self asset rest))

/-- What `prepareAssets` leaves. A job that was prepared changes no file; another one is prepared
exactly if it has staged its files. -/
structure Prepares (resources : Store String) (sha256 : Bytes → Bytes) (kind : Kind) (job : Job)
    (directory : Directory) (result : Job × Prepared) (final : Directory) : Prop where
  refreshed : Refreshed resources kind.bundled kind.copied directory final
  again : job.prepared = true → result.1.prepared = true ∧ final.files = directory.files ∧
    (result.2 = .kept ∨ result.2 = .notInitialized)
  first : job.prepared = false → (result.1.prepared = true ↔ result.2 = .staged)
  staged : result.2 = .staged → ∀ asset ∈ kind.bundled, Staged resources sha256 asset final

theorem stage_assets_safely {kind : Kind} {masks profiles : List Asset}
    (hcopied : kind.copied = masks ++ profiles) {job : Job} (hjob : job.prepared = false) :
    Safely (FileStep resources sha256) Anytime (stageAssets job kind.bundled masks profiles)
      (Prepares resources sha256 kind job directory) directory := by
  have hnot {result : Prop} : job.prepared = true → result := fun htrue ↦ by
    rw [hjob] at htrue
    cases htrue
  refine .bind (sync_resources_safely (bundled_consistent kind)) fun ok synced hsynced ↦ ?_
  have hfirst := hsynced.1.mono (List.Subset.refl _) (List.nil_subset kind.copied)
  refine .ite (fun hok ↦ ?_) fun _ ↦ .pure ⟨hfirst, hnot, fun _ ↦ ?_, nofun⟩
  · refine .bind (stage_masks_safely masks) fun _ masked hmasked ↦ ?_
    refine .bind (copy_profiles_safely profiles) fun _ final hprofiles ↦ .pure ?_
    refine ⟨?_, hnot, fun _ ↦ iff_of_true rfl rfl, fun _ asset hasset ↦ ?_⟩
    · refine hfirst.trans (.trans (hmasked.mono (List.nil_subset _) ?_)
        (hprofiles.mono (List.nil_subset _) ?_))
      · rw [hcopied]
        exact List.subset_append_left ..
      · rw [hcopied]
        exact List.subset_append_right ..
    · have hmasks := hmasked.staged (hsynced.2 hok asset hasset) fun _ hpath ↦
        absurd hpath List.not_mem_nil
      exact hprofiles.staged hmasks fun _ hpath ↦ absurd hpath List.not_mem_nil
  · rw [hjob]
    exact iff_of_false nofun nofun

/-- A job that is not prepared again. -/
theorem Prepares.unchanged {kind : Kind} {job result : Job} {prepared : Prepared}
    {final : Directory} (hfiles : final.files = directory.files)
    (hjob : result.prepared = job.prepared)
    (hprepared : prepared = .notInitialized ∨ prepared = .kept ∧ job.prepared = true) :
    Prepares resources sha256 kind job directory (result, prepared) final := by
  refine ⟨.of_files hfiles, fun htrue ↦ ⟨hjob.trans htrue, hfiles, ?_⟩, fun hfalse ↦ ?_, ?_⟩
  · exact hprepared.symm.imp_left And.left
  · refine iff_of_false (fun htrue ↦ ?_) fun hstaged ↦ ?_
    · cases hfalse.symm.trans (hjob.symm.trans htrue)
    · rcases hprepared with hnot | hkept
      · cases hnot.symm.trans hstaged
      · cases hkept.1.symm.trans hstaged
  · intro hstaged
    rcases hprepared with hnot | hkept
    · cases hnot.symm.trans hstaged
    · cases hkept.1.symm.trans hstaged

/-- Preparing in a directory with the same files is preparing in this one. -/
theorem Prepares.of_files {kind : Kind} {job rooted : Job} {found final : Directory}
    {result : Job × Prepared} (h : Prepares resources sha256 kind rooted found result final)
    (hfiles : found.files = directory.files) (hjob : rooted.prepared = job.prepared) :
    Prepares resources sha256 kind job directory result final := by
  refine ⟨Refreshed.trans (.of_files hfiles) h.refreshed, fun htrue ↦ ?_, fun hfalse ↦ ?_,
    h.staged⟩
  · obtain ⟨hprepared, hsame, hresult⟩ := h.again (hjob.trans htrue)
    exact ⟨hprepared, hsame.trans hfiles, hresult⟩
  · exact h.first (hjob.trans hfalse)

theorem prepare_assets_safely (kind : Kind) (job : Job) :
    Safely (FileStep resources sha256) Anytime (kind.prepareAssets job)
      (Prepares resources sha256 kind job directory) directory := by
  cases kind with
  | cmyk =>
      refine .bind initialize_root_safely fun root found hroot ↦ ?_
      obtain ⟨rooted, ok⟩ := root
      refine .ite (fun _ ↦ .pure (.unchanged hroot.1 rfl (.inl rfl))) fun hok ↦ ?_
      have hpresent : found.present = true := hroot.2 (by simpa using hok)
      refine .ite (fun hprepared ↦ ?_) fun hprepared ↦ ?_
      · refine .call_bind trivial fun exists_ final hstep ↦ ?_
        cases hstep
        rw [if_pos hpresent]
        exact .pure (.unchanged hroot.1 rfl (.inr ⟨rfl, hprepared⟩))
      · have hcopied : Kind.copied .cmyk = PrintJobCMYK.masks ++ PrintJobCMYK.profiles := rfl
        refine Safely.mono (stage_assets_safely hcopied ?_) fun _ _ hstaged ↦
          hstaged.of_files hroot.1 rfl
        exact (Bool.not_eq_true _).mp hprepared
  | multiInk =>
      refine .bind initialize_root_safely fun root found hroot ↦ ?_
      obtain ⟨rooted, ok⟩ := root
      refine .ite (fun _ ↦ .pure (.unchanged hroot.1 rfl (.inl rfl))) fun _ ↦ ?_
      refine .ite (fun hprepared ↦ .pure (.unchanged hroot.1 rfl (.inr ⟨rfl, hprepared⟩))) ?_
      intro hprepared
      have hcopied : Kind.copied .multiInk = PrintJobMultiInk.masks ++ [] :=
        (List.append_nil _).symm
      refine Safely.mono (stage_assets_safely hcopied ?_) fun _ _ hstaged ↦
        hstaged.of_files hroot.1 rfl
      exact (Bool.not_eq_true _).mp hprepared

theorem initialize_root_possibly :
    Possibly (FileStep resources sha256) initializeRoot
      (fun root final ↦ root = (true, true) ∧ final.present = true) directory :=
  .call_bind true (.location true) (.call_bind true (.mkpath true)
    (.pure ⟨rfl, Bool.or_true _⟩))

theorem stage_mask_possibly (asset : Asset) (hpresent : directory.present = true) :
    Possibly (FileStep resources sha256) (stageMask asset) (fun _ final ↦ final.present = true)
      directory := by
  refine .call_bind _ (.fileExists asset.2) ?_
  split
  · exact .pure hpresent
  · refine .call_bind _ (.resourceExists asset.1) ?_
    split
    · exact .bind (copy_resource_if_missing_possibly hpresent) fun _ _ hfound ↦ .pure hfound
    · exact .pure hpresent

theorem stage_masks_possibly (masks : List Asset) (hpresent : directory.present = true) :
    Possibly (FileStep resources sha256) (stageMasks masks) (fun _ final ↦ final.present = true)
      directory := by
  induction masks generalizing directory with
  | nil => exact .pure hpresent
  | cons asset rest ih =>
      refine .bind (stage_mask_possibly asset hpresent) fun _ _ hfound ↦ ih hfound

theorem copy_profiles_possibly (profiles : List Asset) (hpresent : directory.present = true) :
    Possibly (FileStep resources sha256) (copyProfiles profiles)
      (fun _ final ↦ final.present = true) directory := by
  induction profiles generalizing directory with
  | nil => exact .pure hpresent
  | cons asset rest ih =>
      exact .bind (copy_resource_if_missing_possibly hpresent) fun _ _ hfound ↦ ih hfound

theorem stage_assets_possibly {job : Job} {bundled masks profiles : List Asset}
    (hresources : ∀ asset ∈ bundled, resources.exists asset.1 = true)
    (hpresent : directory.present = true) :
    Possibly (FileStep resources sha256) (stageAssets job bundled masks profiles)
      (fun result _ ↦ result = ({ job with prepared := true }, .staged)) directory := by
  refine .bind (sync_resources_possibly hresources hpresent) fun ok synced hsynced ↦ ?_
  rw [if_pos hsynced.1]
  refine .bind (stage_masks_possibly masks hsynced.2) fun _ masked hmasked ↦ ?_
  exact .bind (copy_profiles_possibly profiles hmasked) fun _ _ _ ↦ .pure rfl

/-- A job that is not prepared can stage its files, whatever the directory holds. -/
theorem prepare_assets_possibly {kind : Kind} {job : Job} (hjob : job.prepared = false)
    (hresources : ∀ asset ∈ kind.bundled, resources.exists asset.1 = true) :
    Possibly (FileStep resources sha256) (kind.prepareAssets job)
      (fun result _ ↦ result = ({ rooted := true, prepared := true }, .staged)) directory := by
  cases kind with
  | cmyk =>
      refine .bind initialize_root_possibly fun root found hroot ↦ ?_
      obtain ⟨rfl, hpresent⟩ := hroot
      dsimp only
      rw [if_neg (by decide), if_neg (by rw [hjob]; decide)]
      exact stage_assets_possibly hresources hpresent
  | multiInk =>
      refine .bind initialize_root_possibly fun root found hroot ↦ ?_
      obtain ⟨rfl, hpresent⟩ := hroot
      dsimp only
      rw [if_neg (by decide), if_neg (by rw [hjob]; decide)]
      exact stage_assets_possibly hresources hpresent

/-- What cleaning up leaves. -/
structure Cleans (job : Job) (directory : Directory) (result : Job × Bool) (final : Directory) :
    Prop where
  files (name : String) : final.files name = directory.files name ∨ final.files name = none
  prepared : result.1.prepared = (job.prepared && !result.2)
  gone : result.2 = true → job.rooted = true → ∀ name, final.files name = none

theorem kind_cleanup_safely (kind : Kind) (job : Job) (hsound : directory.Sound) :
    Safely (FileStep resources sha256) Anytime (kind.cleanup job) (Cleans job directory)
      directory := by
  cases kind with
  | cmyk =>
      refine .bind (cleanup_safely job.rooted hsound) fun ok final hclean ↦ ?_
      refine .ite (fun hok ↦ .pure ⟨hclean.1, ?_, fun _ ↦ hclean.2 hok⟩) fun hok ↦
        .pure ⟨hclean.1, ?_, nofun⟩
      · exact (Bool.and_false _).symm
      · exact (Bool.and_true _).symm
  | multiInk =>
      refine .bind (cleanup_safely job.rooted hsound) fun ok final hclean ↦ ?_
      cases ok with
      | true => exact .pure ⟨hclean.1, (Bool.and_false _).symm, hclean.2⟩
      | false => exact .pure ⟨hclean.1, (Bool.and_true _).symm, nofun⟩

end Programs

/-! ## Runs -/

/-- The bundled files of a job are staged. -/
def AllStaged (resources : Store String) (sha256 : Bytes → Bytes) (kind : Kind)
    (directory : Directory) : Prop :=
  ∀ asset ∈ kind.bundled, Staged resources sha256 asset directory

/-- The job has staged its files and not removed them since. They are staged, but for a cleanup
since then. -/
def StagedSince (resources : Store String) (sha256 : Bytes → Bytes) (kind : Kind)
    (history : List Done) (directory : Directory) : Prop :=
  ∃ before after, history = before ++ .prepare kind .staged :: after ∧
    .cleanup kind true ∉ after ∧
    (AllStaged resources sha256 kind directory ∨ ∃ other ok, .cleanup other ok ∈ after)

section Runs

variable {resources : Store String} {sha256 : Bytes → Bytes} {start jobs next : Jobs} {kind : Kind}
  {history : List Done} {done : Done}

theorem JobsStep.prepares {prepared : Prepared}
    (h : JobsStep resources sha256 jobs (.prepare kind prepared) next) :
    ∃ job, next.job = Function.update jobs.job kind job ∧
      Prepares resources sha256 kind (jobs.job kind) jobs.directory (job, prepared)
        next.directory := by
  cases h with
  | prepare hruns halong =>
      exact ⟨_, rfl, (prepare_assets_safely kind _ _ _ hruns).2 _ halong⟩

theorem JobsStep.cleans {ok : Bool}
    (h : JobsStep resources sha256 jobs (.cleanup kind ok) next) (hsound : jobs.directory.Sound) :
    ∃ job, next.job = Function.update jobs.job kind job ∧
      Cleans (jobs.job kind) jobs.directory (job, ok) next.directory := by
  cases h with
  | cleanup hruns halong =>
      exact ⟨_, rfl, (kind_cleanup_safely kind _ hsound _ _ hruns).2 _ halong⟩

theorem JobsStep.sound (h : JobsStep resources sha256 jobs done next)
    (hsound : jobs.directory.Sound) : next.directory.Sound := by
  cases h with
  | prepare _ halong | cleanup _ halong =>
      exact halong.invariant (fun _ _ _ _ hstep ↦ hstep.sound) hsound

theorem JobsRun.sound (h : JobsRun resources sha256 start history jobs)
    (hsound : start.directory.Sound) : jobs.directory.Sound := by
  induction h with
  | nil => exact hsound
  | snoc _ hstep ih => exact hstep.sound ih

/-- The files of one job stay staged while the other one prepares its own. -/
theorem AllStaged.refreshed {other : Kind} {before after : Directory}
    (hstaged : AllStaged resources sha256 kind before)
    (h : Refreshed resources other.bundled other.copied before after) :
    AllStaged resources sha256 kind after := by
  intro asset hasset
  refine h.staged (hstaged asset hasset) fun path hpath ↦ ?_
  rw [bundled_path hasset]
  exact bundled_path hpath

theorem StagedSince.prepared {other : Kind} {prepared : Prepared} {before after : Directory}
    (h : StagedSince resources sha256 kind history before)
    (hrefreshed : Refreshed resources other.bundled other.copied before after) :
    StagedSince resources sha256 kind (history ++ [.prepare other prepared]) after := by
  obtain ⟨first, second, rfl, hnot, hstaged⟩ := h
  refine ⟨first, second ++ [.prepare other prepared], by simp, ?_, ?_⟩
  · simpa using hnot
  · refine hstaged.imp (fun hstaged ↦ hstaged.refreshed hrefreshed) fun hcleaned ↦ ?_
    obtain ⟨cleaner, ok, hmem⟩ := hcleaned
    exact ⟨cleaner, ok, List.mem_append_left _ hmem⟩

theorem StagedSince.cleaned {other : Kind} {ok : Bool} {before after : Directory}
    (h : StagedSince resources sha256 kind history before)
    (hother : Done.cleanup other ok ≠ .cleanup kind true) :
    StagedSince resources sha256 kind (history ++ [.cleanup other ok]) after := by
  obtain ⟨first, second, rfl, hnot, _⟩ := h
  refine ⟨first, second ++ [.cleanup other ok], by simp, ?_, .inr ⟨other, ok, by simp⟩⟩
  rw [List.mem_append, List.mem_singleton, not_or]
  exact ⟨hnot, hother.symm⟩

/-- A job that is prepared has staged its files. -/
theorem staged_since (h : JobsRun resources sha256 start history jobs)
    (hstart : ∀ kind, (start.job kind).prepared = false) (hsound : start.directory.Sound)
    (hprepared : (jobs.job kind).prepared = true) :
    StagedSince resources sha256 kind history jobs.directory := by
  induction h with
  | nil => cases (hstart kind).symm.trans hprepared
  | @snoc history jobs done next hrun hstep ih =>
      cases done with
      | prepare other prepared =>
          obtain ⟨job, hjob, hprepares⟩ := hstep.prepares
          rw [hjob] at hprepared
          by_cases hother : kind = other
          · subst hother
            rw [Function.update_self] at hprepared
            cases hbefore : (jobs.job kind).prepared with
            | true => exact (ih hbefore).prepared hprepares.refreshed
            | false =>
                obtain rfl := (hprepares.first hbefore).mp hprepared
                exact ⟨history, [], rfl, List.not_mem_nil, .inl (hprepares.staged rfl)⟩
          · rw [Function.update_of_ne hother] at hprepared
            exact (ih hprepared).prepared hprepares.refreshed
      | cleanup other ok =>
          obtain ⟨job, hjob, hcleans⟩ := hstep.cleans (hrun.sound hsound)
          rw [hjob] at hprepared
          by_cases hother : kind = other
          · subst hother
            rw [Function.update_self, hcleans.prepared, Bool.and_eq_true, Bool.not_eq_true']
              at hprepared
            refine (ih hprepared.1).cleaned fun heq ↦ ?_
            cases heq
            cases hprepared.2
          · rw [Function.update_of_ne hother] at hprepared
            refine (ih hprepared).cleaned fun heq ↦ ?_
            cases heq
            exact hother rfl

/-- Where the file of a name comes from. -/
def Origin (resources : Store String) (before after : Directory) (name : String) : Prop :=
  after.files name = before.files name ∨ after.files name = none ∨
    ∃ kind path resource, (path, name) ∈ Kind.bundled kind ++ kind.copied ∧
      resources path = some resource ∧ after.files name = some resource

theorem run_origin (h : JobsRun resources sha256 start history jobs)
    (hsound : start.directory.Sound) (name : String) :
    Origin resources start.directory jobs.directory name := by
  induction h with
  | nil => exact .inl rfl
  | @snoc history jobs done next hrun hstep ih =>
      cases done with
      | prepare other prepared =>
          obtain ⟨_, _, hprepares⟩ := hstep.prepares
          rcases hprepares.refreshed name with hsame | ⟨path, resource, hresource, hafter, hwhere⟩
          · rw [Origin, hsame]
            exact ih
          · refine .inr (.inr ⟨other, path, resource, ?_, hresource, hafter⟩)
            rw [List.mem_append]
            exact hwhere.imp_right And.left
      | cleanup other ok =>
          obtain ⟨_, _, hcleans⟩ := hstep.cleans (hrun.sound hsound)
          rcases hcleans.files name with hsame | hnone
          · rw [Origin, hsame]
            exact ih
          · exact .inr (.inl hnone)

/-- A file that is not kept in step is left alone until a cleanup. -/
theorem run_kept (h : JobsRun resources sha256 start history jobs)
    (hcleanup : ∀ other ok, .cleanup other ok ∉ history) {name : String} {content : Bytes}
    (hcontent : start.directory.files name = some content)
    (hname : ∀ kind path, (path, name) ∉ Kind.bundled kind) :
    jobs.directory.files name = some content := by
  induction h with
  | nil => exact hcontent
  | @snoc history jobs done next _ hstep ih =>
      have hbefore := ih fun other ok hmem ↦ hcleanup other ok (List.mem_append_left _ hmem)
      cases done with
      | prepare other prepared =>
          obtain ⟨_, _, hprepares⟩ := hstep.prepares
          exact hprepares.refreshed.kept hbefore (hname other)
      | cleanup other ok =>
          exact absurd (List.mem_append_right _ List.mem_cons_self) (hcleanup other ok)

theorem prepare_step (hjob : (jobs.job kind).prepared = false)
    (hresources : ∀ asset ∈ kind.bundled, resources.exists asset.1 = true) :
    ∃ next, JobsStep resources sha256 jobs (.prepare kind .staged) next := by
  have hcan : Possibly (FileStep resources sha256) (kind.prepareAssets (jobs.job kind))
      (fun result _ ↦ result = ({ rooted := true, prepared := true }, .staged)) jobs.directory :=
    prepare_assets_possibly hjob hresources
  obtain ⟨trace, result, final, hruns, halong, rfl⟩ := hcan
  exact ⟨_, .prepare hruns halong⟩

/-- Whatever the two jobs of a process do, and whatever fails: every file of the directory is as it
was when the process started, or a whole resource of its name, or gone; a job that is prepared has
staged its bundled files, and they are still staged unless the other job cleaned up since then or a
cleanup of its own failed; a file that is not bundled, such as a mask that was there, is left alone
until a cleanup; and a job that is not prepared can stage the files whose resources exist. -/
theorem runtime_assets_staged {directory : Directory} (hsound : directory.Sound)
    (h : JobsRun resources sha256 { directory } history jobs) :
    (∀ name, Origin resources directory jobs.directory name) ∧
    (∀ kind, (jobs.job kind).prepared = true →
      StagedSince resources sha256 kind history jobs.directory) ∧
    ((∀ other ok, .cleanup other ok ∉ history) → ∀ name content,
      directory.files name = some content → (∀ kind path, (path, name) ∉ Kind.bundled kind) →
        jobs.directory.files name = some content) ∧
    (∀ kind, (jobs.job kind).prepared = false →
      (∀ asset ∈ kind.bundled, resources.exists asset.1 = true) →
        ∃ next, JobsStep resources sha256 jobs (.prepare kind .staged) next) :=
  ⟨run_origin h hsound, fun _ ↦ staged_since h (fun _ ↦ rfl) hsound,
    fun hcleanup _ _ ↦ run_kept h hcleanup, fun _ ↦ prepare_step⟩

/-- A cleanup can succeed. -/
theorem cleanup_step (resources : Store String) (sha256 : Bytes → Bytes) (kind : Kind)
    (jobs : Jobs) : ∃ next, JobsStep resources sha256 jobs (.cleanup kind true) next := by
  have hclean : Possibly (FileStep resources sha256) (AssetManager.cleanup (jobs.job kind).rooted)
      (fun ok _ ↦ ok = true) jobs.directory := by
    cases (jobs.job kind).rooted with
    | false => exact .pure rfl
    | true =>
        refine .call_bind _ .directoryExists ?_
        cases jobs.directory.present with
        | false => exact .pure rfl
        | true => exact .call true .removeRecursively rfl
  have hcleanup : Possibly (FileStep resources sha256) (kind.cleanup (jobs.job kind))
      (fun result _ ↦ result.2 = true) jobs.directory := by
    cases kind with
    | cmyk | multiInk =>
        refine hclean.bind ?_
        rintro _ final rfl
        exact .pure rfl
  obtain ⟨trace, ⟨job, ok⟩, final, hruns, halong, rfl⟩ := hcleanup
  exact ⟨_, .cleanup hruns halong⟩

/-- Resources with a content each, and a directory in which a mask was put by hand. -/
def pathResources : Store String := fun path ↦ some path.toUTF8.toList

def ownMask : Directory where
  present := true
  files name := if name = "mask_512_c.tiff" then some [7] else none

/-- Both jobs prepare their assets, and one of them cleans up. -/
theorem runtime_assets_staged_both : ∃ both cleaned,
    JobsRun pathResources id { directory := ownMask }
      [.prepare .multiInk .staged, .prepare .cmyk .staged] both ∧
    (∀ kind, StagedSince pathResources id kind
      [.prepare .multiInk .staged, .prepare .cmyk .staged] both.directory) ∧
    both.directory.files "mask_512_c.tiff" = some [7] ∧
    JobsRun pathResources id { directory := ownMask }
      [.prepare .multiInk .staged, .prepare .cmyk .staged, .cleanup .multiInk true] cleaned ∧
    StagedSince pathResources id .cmyk
      [.prepare .multiInk .staged, .prepare .cmyk .staged, .cleanup .multiInk true]
      cleaned.directory ∧
    (∀ name, Origin pathResources ownMask cleaned.directory name) ∧
    ∃ next, JobsStep pathResources id cleaned (.prepare .multiInk .staged) next := by
  have hsound : ownMask.Sound := nofun
  have hstart : JobsRun pathResources id { directory := ownMask } [] { directory := ownMask } :=
    .nil
  obtain ⟨first, hfirst⟩ := (runtime_assets_staged hsound hstart).2.2.2 .multiInk rfl fun _ _ ↦ rfl
  obtain ⟨inkJob, hinkJob, hinkPrepares⟩ := hfirst.prepares
  have hcmyk : first.job .cmyk = {} := by
    rw [hinkJob]
    rfl
  have honce := JobsRun.snoc .nil hfirst
  obtain ⟨both, hsecond⟩ := (runtime_assets_staged hsound honce).2.2.2 .cmyk
    (congrArg Job.prepared hcmyk) fun _ _ ↦ rfl
  obtain ⟨cmykJob, hcmykJob, hcmykPrepares⟩ := hsecond.prepares
  have hcmykFlag : cmykJob.prepared = true :=
    (hcmykPrepares.first (congrArg Job.prepared hcmyk)).mpr rfl
  have htwice := JobsRun.snoc honce hsecond
  obtain ⟨_, hstaged, hkept, _⟩ := runtime_assets_staged hsound htwice
  obtain ⟨cleaned, hcleanup⟩ := cleanup_step pathResources id .multiInk both
  obtain ⟨gone, hgone, hcleans⟩ := hcleanup.cleans (htwice.sound hsound)
  have hthrice := JobsRun.snoc htwice hcleanup
  obtain ⟨horigin, hstill, _, hagain⟩ := runtime_assets_staged hsound hthrice
  refine ⟨both, cleaned, htwice, fun kind ↦ hstaged kind ?_, hkept ?_ _ _ rfl ?_, hthrice,
    hstill .cmyk ?_, horigin, hagain .multiInk ?_ fun _ _ ↦ rfl⟩
  · cases kind with
    | cmyk =>
        rw [hcmykJob, Function.update_self]
        exact hcmykFlag
    | multiInk =>
        rw [hcmykJob, Function.update_of_ne (by decide), hinkJob, Function.update_self]
        exact (hinkPrepares.first rfl).mpr rfl
  · intro other ok hmem
    simp at hmem
  · intro kind path hmem
    have hname : ∀ asset ∈ kind.bundled, asset.2 ≠ "mask_512_c.tiff" := by
      cases kind <;> decide
    exact hname _ hmem rfl
  · rw [hgone, Function.update_of_ne (by decide), hcmykJob, Function.update_self]
    exact hcmykFlag
  · rw [hgone, Function.update_self, hcleans.prepared]
    exact Bool.and_false _

/-- Every name of the files of a job. -/
def Kind.Stages (kind : Kind) (name : String) : Prop :=
  ∃ path, (path, name) ∈ kind.bundled ++ kind.copied

theorem Kind.eq_of_ne {kind other third : Kind} (h : other ≠ kind) (hthird : third ≠ kind) :
    third = other := by
  cases kind <;> cases other <;> cases third <;> trivial

/-- After the other job has removed the directory, a prepared job keeps its flag until it cleans up
itself: `prepareAssets` takes the shortcut every time, or stops before it because it cannot
initialize, and the files that only this job stages stay away. -/
theorem prepared_without_files {other : Kind} (hother : other ≠ kind)
    (hsound : jobs.directory.Sound) (hprepared : (jobs.job kind).prepared = true)
    (hrooted : (jobs.job other).rooted = true)
    (hcleanup : JobsStep resources sha256 jobs (.cleanup other true) start)
    (h : JobsRun resources sha256 start history next) (hown : .cleanup kind true ∉ history) :
    (next.job kind).prepared = true ∧
    (∀ prepared, .prepare kind prepared ∈ history →
      prepared = .kept ∨ prepared = .notInitialized) ∧
    ∀ asset ∈ kind.bundled, ¬ other.Stages asset.2 → next.directory.files asset.2 = none := by
  obtain ⟨_, hremoved, hgone⟩ := hcleanup.cleans hsound
  have hstart : start.directory.Sound := hcleanup.sound hsound
  induction h with
  | nil =>
      rw [hremoved, Function.update_of_ne hother.symm]
      exact ⟨hprepared, fun _ hmem ↦ (List.not_mem_nil hmem).elim,
        fun asset _ _ ↦ hgone.gone rfl hrooted asset.2⟩
  | @snoc history found done next hrun hstep ih =>
      obtain ⟨hflag, hkept, hnone⟩ := ih fun hmem ↦ hown (List.mem_append_left _ hmem)
      cases done with
      | prepare mover prepared =>
          obtain ⟨job, hjob, hprepares⟩ := hstep.prepares
          by_cases hmover : mover = kind
          · subst hmover
            obtain ⟨hagain, hfiles, hresult⟩ := hprepares.again hflag
            rw [hjob, Function.update_self]
            refine ⟨hagain, fun result hmem ↦ ?_, fun asset hasset hnot ↦ ?_⟩
            · rcases List.mem_append.mp hmem with hbefore | hlast
              · exact hkept result hbefore
              · cases List.mem_singleton.mp hlast
                exact hresult
            · rw [hfiles]
              exact hnone asset hasset hnot
          · obtain rfl := Kind.eq_of_ne hother hmover
            rw [hjob, Function.update_of_ne (Ne.symm hmover)]
            refine ⟨hflag, fun result hmem ↦ ?_, fun asset hasset hnot ↦ ?_⟩
            · rcases List.mem_append.mp hmem with hbefore | hlast
              · exact hkept result hbefore
              · cases List.mem_singleton.mp hlast
                exact absurd rfl hmover
            · rcases hprepares.refreshed asset.2 with hsame | ⟨path, _, _, _, hwhere⟩
              · exact hsame.trans (hnone asset hasset hnot)
              · refine absurd ⟨path, List.mem_append.mpr ?_⟩ hnot
                exact hwhere.imp_right And.left
      | cleanup mover ok =>
          obtain ⟨job, hjob, hcleans⟩ := hstep.cleans (hrun.sound hstart)
          refine ⟨?_, fun result hmem ↦ ?_, fun asset hasset hnot ↦ ?_⟩
          · rw [hjob]
            by_cases hmover : mover = kind
            · subst hmover
              rw [Function.update_self, hcleans.prepared, hflag, Bool.true_and, Bool.not_eq_true']
              cases ok with
              | false => rfl
              | true => exact absurd (List.mem_append_right _ List.mem_cons_self) hown
            · rw [Function.update_of_ne (Ne.symm hmover)]
              exact hflag
          · rcases List.mem_append.mp hmem with hbefore | hlast
            · exact hkept result hbefore
            · cases List.mem_singleton.mp hlast
          · rcases hcleans.files asset.2 with hsame | hremoved
            · exact hsame.trans (hnone asset hasset hnot)
            · exact hremoved

end Runs

/-- Both jobs have staged their files, which are empty. -/
def bothPrepared : Jobs where
  directory := { present := true, files := fun _ ↦ some [] }
  job _ := { rooted := true, prepared := true }

/-- The multi-ink job goes on without its profile after the X-33 job has cleaned up. -/
theorem prepared_without_files_multi_ink : ∃ start next,
    JobsStep (fun _ ↦ some []) id bothPrepared (.cleanup .cmyk true) start ∧
    JobsRun (fun _ ↦ some []) id start [.prepare .multiInk .kept] next ∧
    (next.job .multiInk).prepared = true ∧
    next.directory.files "RIP_App_1200_4C.icc" = none := by
  let cleaned : Jobs := ⟨{}, Function.update bothPrepared.job .cmyk { rooted := true }⟩
  let kept : Jobs :=
    ⟨{ present := true }, Function.update cleaned.job .multiInk { rooted := true, prepared := true }⟩
  have hcleans : Runs (Kind.cmyk.cleanup (bothPrepared.job .cmyk))
      [⟨.directoryExists, true⟩, ⟨.removeRecursively, true⟩] ({ rooted := true }, true) :=
    .ask _ _ _ _ _ (.ask _ _ _ _ _ (.done _))
  have hprepares : Runs (Kind.multiInk.prepareAssets (cleaned.job .multiInk))
      [⟨.location, true⟩, ⟨.mkpath, true⟩] ({ rooted := true, prepared := true }, .kept) :=
    .ask _ _ _ _ _ (.ask _ _ _ _ _ (.done _))
  have hcleanup : JobsStep (fun _ ↦ some []) id bothPrepared (.cleanup .cmyk true) cleaned :=
    .cleanup hcleans (.cons .directoryExists (.cons .removeRecursively (.nil _)))
  have hprepare : JobsStep (fun _ ↦ some []) id cleaned (.prepare .multiInk .kept) kept :=
    .prepare hprepares (.cons (.location true) (.cons (.mkpath true) (.nil _)))
  have hother : Kind.cmyk ≠ .multiInk := by decide
  have hsound : bothPrepared.directory.Sound := nofun
  have hrun := JobsRun.snoc .nil hprepare
  obtain ⟨hprepared, _, hmissing⟩ :=
    prepared_without_files hother hsound rfl rfl hcleanup hrun (by simp)
  refine ⟨cleaned, kept, hcleanup, hrun, hprepared, ?_⟩
  refine hmissing (":/assets/RIP_App_1200_4C.icc", "RIP_App_1200_4C.icc") (by decide) ?_
  rintro ⟨path, hpath⟩
  have hname : "RIP_App_1200_4C.icc" ∈ (Kind.cmyk.bundled ++ Kind.cmyk.copied).map Prod.snd :=
    List.mem_map_of_mem hpath
  exact absurd hname (by decide)

end PrintFlow.RuntimeAssets
