import PrintFlow.Core.PrintJobModel

/-!
# Saving and loading print jobs

Loading what was saved gives the selected jobs back. A job that a run of the model made has an
identifier, a height and a feathering grade that survive the clamping of the reader. The image of a
job is written next to the JSON file under the identifier of the job, so a job keeps its image if
no later one with other bytes is written to the same file.
-/

namespace PrintFlow.PrintJobModel

open FloatFormat FileStore

variable {D F V S : Type} (q : Platform D F)

/-! ## The jobs of a run -/

/-- What holds of every job in the list: it has an identifier, and its height and its feathering
grade are as the clamping leaves them. -/
structure JobKept (job : PrintJob D) : Prop where
  named : job.id ≠ ""
  height : clampHeight job.mediaHeightMm = job.mediaHeightMm
  feathering : clampFeathering job.feathering = job.feathering

/-- An integer has a decimal form. -/
theorem to_string_ne_empty (value : Int) : toString value ≠ "" := by
  cases value with
  | ofNat value => exact Nat.repr_ne_empty
  | negSucc value =>
      intro h
      have hlength := congrArg String.toList h
      rw [show toString (Int.negSucc value) = "-" ++ Nat.repr (value + 1) from rfl,
        String.toList_append] at hlength
      exact absurd hlength (by simp)

/-- Clamping a height twice is clamping it once. -/
theorem clamp_height_twice (height : Double) :
    clampHeight (clampHeight height) = clampHeight height := by
  rcases Double.clamp_cases height (show (-1 : ℚ) ≤ 152 by norm_num) with
    hnan | ⟨kept, hkept, hlow, hhigh⟩
  · rw [clampHeight, clampHeight, hnan]
    rfl
  · rw [clampHeight, clampHeight, hkept]
    exact Double.clamp_of_mem hlow hhigh

/-- Clamping a grade twice is clamping it once. -/
theorem clamp_feathering_twice (grade : Int32) :
    clampFeathering (clampFeathering grade) = clampFeathering grade := by
  unfold clampFeathering
  by_cases hlow : grade < 1
  · rw [if_pos hlow]
    rfl
  · rw [if_neg hlow]
    by_cases hhigh : 3 < grade
    · rw [if_pos hhigh]
      rfl
    · rw [if_neg hhigh, if_neg hlow, if_neg hhigh]

/-- A new job is kept. -/
theorem default_kept (now : Reading D) (name : String) : JobKept (makeDefaultJob now name) where
  named := to_string_ne_empty now.msecs
  height := Double.clamp_of_mem (by norm_num) (by norm_num)
  feathering := rfl

/-- A job with another image path is kept. -/
theorem JobKept.image {job : PrintJob D} (h : JobKept job) (path : String) :
    JobKept { job with imagePath := path } :=
  ⟨h.named, h.height, h.feathering⟩

/-- An updated job is kept. -/
theorem JobKept.updated [QVariantApi V] [QVariantJobApi V D] {job : PrintJob D} (h : JobKept job)
    (jobData : QVariantMap V) : JobKept (updatedJob jobData job) where
  named := h.named
  height := by
    show clampHeight ((jobData "mediaHeightMm").elim _ _) = (jobData "mediaHeightMm").elim _ _
    cases jobData "mediaHeightMm" with
    | none => exact h.height
    | some value => exact clamp_height_twice _
  feathering := by
    show clampFeathering ((jobData "feathering").elim _ _) = (jobData "feathering").elim _ _
    cases jobData "feathering" with
    | none => exact h.feathering
    | some value => exact clamp_feathering_twice _

variable [DecidableEq F]

/-- A job that was read from a file is kept. -/
theorem parsed_kept (localPath : String) (now : Reading D) (disk : Disk F) (obj : Json.Object) :
    JobKept (parseObject q localPath now disk obj).1 where
  named := by
    show (if (obj.value "id").toString "" = "" then toString now.msecs else _) ≠ ""
    by_cases hid : (obj.value "id").toString "" = ""
    · rw [if_pos hid]
      exact to_string_ne_empty now.msecs
    · rw [if_neg hid]
      exact hid
  height := by
    show clampHeight (if obj.contains "mediaHeightMm" then _ else _) = if _ then _ else _
    by_cases hheight : obj.contains "mediaHeightMm" = true
    · rw [if_pos hheight]
      exact clamp_height_twice _
    · rw [if_neg hheight]
      exact Double.clamp_of_mem (by norm_num) (by norm_num)
  feathering := by
    show clampFeathering (if obj.contains "feathering" then _ else _) = if _ then _ else _
    by_cases hgrade : obj.contains "feathering" = true
    · rw [if_pos hgrade]
      exact clamp_feathering_twice _
    · rw [if_neg hgrade]
      rfl

/-- The jobs that were read from an array are kept. -/
theorem parsed_array_kept (localPath : String) (clock : Nat → Reading D) (disk : Disk F)
    (values : List Json) : ∀ job ∈ (parseArray q localPath clock disk values).1, JobKept job := by
  induction values generalizing clock disk with
  | nil => exact nofun
  | cons value rest ih =>
      cases value with
      | object fields =>
          intro job hjob
          rcases List.mem_cons.mp hjob with rfl | hrest
          · exact parsed_kept q localPath (clock 0) disk _
          · exact ih _ _ job hrest
      | null => exact ih _ _
      | bool value => exact ih _ _
      | number value => exact ih _ _
      | string value => exact ih _ _
      | array values => exact ih _ _

/-- An import leaves the jobs alone. -/
theorem import_jobs (sourcePath : String) (context : ImportContext) (state : State D F) :
    (importImageToJobStorage q sourcePath context state).1.jobs = state.jobs := by
  unfold importImageToJobStorage
  dsimp only
  split_ifs
  all_goals try rfl
  split <;> rfl

section Runs

variable [QVariantApi V] [QVariantJobApi V D]

/-- Jobs with one of them changed by something that keeps it. -/
theorem modify_kept {jobs : List (PrintJob D)} (h : ∀ job ∈ jobs, JobKept job)
    {change : PrintJob D → PrintJob D} (hchange : ∀ job, JobKept job → JobKept (change job))
    (index : Nat) : ∀ job ∈ jobs.modify index change, JobKept job := by
  intro job hjob
  obtain ⟨place, hplace, rfl⟩ := List.getElem_of_mem hjob
  rw [List.getElem_modify]
  split
  · exact hchange _ (h _ (List.getElem_mem _))
  · exact h _ (List.getElem_mem _)

/-- Every call keeps the jobs. -/
theorem step_kept {state : State D F} (h : ∀ job ∈ state.jobs, JobKept job) (call : Call D F V) :
    ∀ job ∈ (step q state call).jobs, JobKept job := by
  cases call with
  | addJob name now =>
      intro job hjob
      rcases List.mem_append.mp hjob with hold | hnew
      · exact h job hold
      · exact List.mem_singleton.mp hnew ▸ default_kept now name
  | addJobFromImage sourcePath name context now =>
      have hjobs := import_jobs q sourcePath context state
      show ∀ job ∈ (addJobFromImage q sourcePath name context now state).1.jobs, JobKept job
      unfold addJobFromImage
      generalize importImageToJobStorage q sourcePath context state = imported at hjobs ⊢
      obtain ⟨after, importedPath⟩ := imported
      dsimp only at hjobs ⊢
      split
      · exact hjobs ▸ h
      · intro job hjob
        rcases List.mem_append.mp hjob with hold | hnew
        · exact h job (hjobs ▸ hold)
        · exact List.mem_singleton.mp hnew ▸ (default_kept now _).image importedPath
  | updateJob index jobData =>
      show ∀ job ∈ (updateJob index jobData state).jobs, JobKept job
      unfold updateJob
      split
      · exact h
      · exact modify_kept h (fun _ hjob ↦ hjob.updated jobData) index.toNat
  | updateJobImage index sourcePath context =>
      have hjobs := import_jobs q sourcePath context state
      show ∀ job ∈ (updateJobImage q index sourcePath context state).1.jobs, JobKept job
      unfold updateJobImage
      generalize importImageToJobStorage q sourcePath context state = imported at hjobs ⊢
      obtain ⟨after, importedPath⟩ := imported
      dsimp only at hjobs ⊢
      split
      · exact h
      · split
        · exact hjobs ▸ h
        · exact modify_kept (hjobs ▸ h) (fun _ hjob ↦ hjob.image importedPath) index.toNat
  | removeJob index =>
      show ∀ job ∈ (removeJob index state).jobs, JobKept job
      unfold removeJob
      split
      · exact h
      · exact fun job hjob ↦ h job (List.mem_of_mem_eraseIdx hjob)
  | loadFromJson path clock =>
      show ∀ job ∈ (loadFromJson q path clock state).jobs, JobKept job
      unfold loadFromJson
      dsimp only
      split
      · intro job hjob
        rcases List.mem_append.mp hjob with hold | hnew
        · exact h job hold
        · exact parsed_array_kept q _ _ _ _ job hnew
      · intro job hjob
        rcases List.mem_append.mp hjob with hold | hnew
        · exact h job hold
        · exact List.mem_singleton.mp hnew ▸ parsed_kept q _ _ _ _
      · exact h
  | saveToJson path selectedIndexes =>
      show ∀ job ∈ (saveToJson q path selectedIndexes state).jobs, JobKept job
      unfold saveToJson
      dsimp only
      split <;> exact h
  | outside disk => exact h

/-- The jobs of every run are kept. -/
theorem run_kept (disk : Disk F) (calls : List (Call D F V)) :
    ∀ job ∈ (run q disk calls).jobs, JobKept job := by
  have hfold (state : State D F) (h : ∀ job ∈ state.jobs, JobKept job) :
      ∀ job ∈ (calls.foldl (step q) state).jobs, JobKept job := by
    induction calls generalizing state with
    | nil => exact h
    | cons call calls ih => exact ih _ (step_kept q h call)
  exact hfold _ nofun

end Runs

/-! ## What is loaded -/

/-- The job that the saved form of a job is read as; `extracted` tells whether its image was
saved. -/
def loadedJob (localPath : String) (now : Reading D) (extracted : Bool) (job : PrintJob D) :
    PrintJob D :=
  { job with
    imagePath :=
      if extracted then q.fromLocalFile (extractedPath q localPath job.id job.imagePath)
      else job.imagePath
    mediaHeightMm := if job.mediaHeightMm = .nan then .finite (-1) else job.mediaHeightMm
    createdAt := some ((q.fromIsoDate (job.createdAt.elim "" q.toIsoDate)).getD now.dateTime) }

/-- The file that the image of a job is extracted to. -/
def extractedFile (localPath : String) (job : PrintJob D) : F :=
  q.file (extractedPath q localPath job.id job.imagePath)

/-- The images among these jobs that can be read, with the files they are extracted to. -/
def extractions (localPath : String) (disk : Disk F) (jobs : List (PrintJob D)) :
    List (F × Bytes) :=
  jobs.filterMap fun job ↦ (imageOf q disk job).map fun bytes ↦ (extractedFile q localPath job, bytes)

/-- The height of a kept job after the text of the JSON file and the clamping of the reader. -/
theorem height_read {job : PrintJob D} (h : JobKept job) :
    clampHeight ((Json.number job.mediaHeightMm).scrub.toDouble (.finite (-1))) =
      if job.mediaHeightMm = .nan then .finite (-1) else job.mediaHeightMm := by
  have hclamped := h.height
  cases hheight : job.mediaHeightMm with
  | finite height =>
      rw [Json.scrub_finite, if_neg nofun]
      exact hheight ▸ hclamped
  | infinite negative =>
      rw [hheight] at hclamped
      cases negative <;> exact absurd hclamped nofun
  | nan =>
      rw [Json.scrub, if_pos rfl]
      exact Double.clamp_of_mem (by norm_num) (by norm_num)

/-- The saved form of a job is read as the job, and its image is written to its file. -/
theorem parse_saved (localPath : String) (now : Reading D) {disk later : Disk F} {job : PrintJob D}
    (h : JobKept job) (hwrite : later.canWrite (extractedFile q localPath job) = true) :
    parseObject q localPath now later ((jobObject q disk job).mapValues Json.scrub) =
      (loadedJob q localPath now (imageOf q disk job).isSome job,
        (imageOf q disk job).elim later (later.write (extractedFile q localPath job))) := by
  have hheight := height_read h
  have hgrade := h.feathering
  unfold extractedFile at hwrite
  cases himage : imageOf q disk job with
  | none =>
      simp [parseObject, jobObject, himage, jobFields, OrderedMap.ofList, OrderedMap.insertAll,
        OrderedMap.contains, Json.Object.value, Json.toString, h.named, hgrade, hheight, loadedJob]
  | some bytes =>
      simp [parseObject, jobObject, himage, jobFields, OrderedMap.ofList, OrderedMap.insertAll,
        OrderedMap.contains, Json.Object.value, Json.toString, h.named, hgrade, hheight, loadedJob,
        hwrite, Base64.decode_encode, extractedFile]

/-- The array of saved jobs is read job by job; the images are written in the order of the jobs. -/
theorem parse_saved_array (localPath : String) (clock : Nat → Reading D) (disk : Disk F)
    {later : Disk F} {jobs : List (PrintJob D)} (hkept : ∀ job ∈ jobs, JobKept job)
    (hwrite : ∀ job ∈ jobs, later.canWrite (extractedFile q localPath job) = true) :
    parseArray q localPath clock later (jobs.map fun job ↦ (Json.ofObject (jobObject q disk job)).scrub) =
      (jobs.mapIdx fun index job ↦
          loadedJob q localPath (clock index) (imageOf q disk job).isSome job,
        { later with content := later.content.setAll (extractions q localPath disk jobs) }) := by
  induction jobs generalizing clock later with
  | nil => rfl
  | cons job jobs ih =>
      have hjob := hkept job List.mem_cons_self
      have hfile := hwrite job List.mem_cons_self
      have hrest : ∀ other ∈ jobs, JobKept other := fun other hother ↦
        hkept other (List.mem_cons_of_mem job hother)
      have hobject : (Json.ofObject (jobObject q disk job)).scrub =
          .object ((jobObject q disk job).mapValues Json.scrub).entries := Json.scrub_of_object _
      rw [List.map_cons, hobject, parseArray]
      have hfields : (Json.object ((jobObject q disk job).mapValues Json.scrub).entries).toObject =
          (jobObject q disk job).mapValues Json.scrub := Json.to_object_of_object _
      rw [hfields, parse_saved q localPath (clock 0) hjob hfile]
      dsimp only
      cases himage : imageOf q disk job with
      | none =>
          rw [Option.elim_none, ih _ hrest fun other hother ↦
            hwrite other (List.mem_cons_of_mem job hother)]
          simp [List.mapIdx_cons, extractions, himage]
      | some bytes =>
          -- Writing an image changes no permission, so the rest can still be written.
          have hothers : ∀ other ∈ jobs,
              (later.write (extractedFile q localPath job) bytes).canWrite
                (extractedFile q localPath other) = true :=
            fun other hother ↦ hwrite other (List.mem_cons_of_mem job hother)
          rw [Option.elim_some, ih _ hrest hothers]
          simp [List.mapIdx_cons, extractions, himage, Disk.write, Store.setAll]

/-- What loading a saved selection into a new model gives. -/
theorem load_saved {path : String} (clock : Nat → Reading D) {disk later : Disk F}
    {jobs : List (PrintJob D)} (hkept : ∀ job ∈ jobs, JobKept job)
    (htext : q.json.Keeps (savedDocument q disk jobs))
    (hfile : later.read (q.file (q.toLocalFile path)) =
      some (q.json.write (savedDocument q disk jobs)))
    (hwrite : ∀ job ∈ jobs,
      later.canWrite (extractedFile q (q.toLocalFile path) job) = true) :
    loadFromJson q path clock (emptyModel later) =
      { jobs := jobs.mapIdx fun index job ↦
          loadedJob q (q.toLocalFile path) (clock index) (imageOf q disk job).isSome job
        lastError := ""
        disk := { later with
          content := later.content.setAll (extractions q (q.toLocalFile path) disk jobs) } } := by
  have hread : (later.read (q.file (q.toLocalFile path))).bind q.json.read =
      some (.array (jobs.map fun job ↦ (Json.ofObject (jobObject q disk job)).scrub)) := by
    rw [hfile, Option.bind_some, htext, savedDocument, Json.scrub_array, List.map_map]
    rfl
  unfold loadFromJson
  dsimp only [emptyModel]
  rw [hread]
  dsimp only
  rw [parse_saved_array q _ clock disk hkept hwrite]
  rfl

/-! ## The round trip -/

/-- What the model relies on of Qt: a path survives its form as a URL, the directory of a file has
an absolute path, and a date is read back from its ISO text up to the second, where it has one.
`second` is a date and time without the fraction of its second. -/
structure Platform.Lawful (second : D → S) : Prop where
  to_local_file (path : String) (h : isAbsolutePath path) :
    q.toLocalFile (q.fromLocalFile path) = path
  absolute_dir (path : String) : isAbsolutePath (q.absoluteDir path)
  from_iso (date : D) (h : q.toIsoDate date ≠ "") :
    ∃ back, q.fromIsoDate (q.toIsoDate date) = some back ∧ second back = second date
  from_empty : q.fromIsoDate "" = none
  to_iso_second (date other : D) (h : second date = second other) :
    q.toIsoDate date = q.toIsoDate other
  to_iso_exists : ∃ date, q.toIsoDate date ≠ ""

/-- Two jobs agree in every field but the path of the image, in `createdAt` to the second. -/
structure SameJob (second : D → S) (job copy : PrintJob D) : Prop where
  id : copy.id = job.id
  name : copy.name = job.name
  paperSize : copy.paperSize = job.paperSize
  mediaHeightMm : copy.mediaHeightMm = job.mediaHeightMm
  resolution : copy.resolution = job.resolution
  offset : copy.offset = job.offset
  feathering : copy.feathering = job.feathering
  whiteStrategy : copy.whiteStrategy = job.whiteStrategy
  varnishType : copy.varnishType = job.varnishType
  colorProfile : copy.colorProfile = job.colorProfile
  createdAt : copy.createdAt.map second = job.createdAt.map second
  whitePlatePath : copy.whitePlatePath = job.whitePlatePath
  varnishPlatePath : copy.varnishPlatePath = job.varnishPlatePath

/-- The loaded jobs are the saved ones in order, and each image that could be read before the save
is in the file that the loaded job names. -/
structure Restored (second : D → S) (before : Disk F) (saved : List (PrintJob D))
    (loaded : State D F) : Prop where
  length : loaded.jobs.length = saved.length
  fields (index : Nat) (job copy : PrintJob D) (hjob : saved[index]? = some job)
    (hcopy : loaded.jobs[index]? = some copy) : SameJob second job copy
  images (index : Nat) (job copy : PrintJob D) (bytes : Bytes) (hjob : saved[index]? = some job)
    (hcopy : loaded.jobs[index]? = some copy) (hbytes : imageOf q before job = some bytes) :
    loaded.disk.content (q.file (q.toLocalFile copy.imagePath)) = some bytes

/-- The files as the save finds them when it reads the images: the JSON file is already empty. -/
def openedDisk (path : String) (disk : Disk F) : Disk F :=
  disk.write (q.file (q.toLocalFile path)) []

/-- When a selection survives: every job has a date with an ISO text and a height that is a number,
and for every image that can be read before the save, the last of the images that go to the same
file is, as the save finds it, that image. -/
structure Restorable (path : String) (before : Disk F) (saved : List (PrintJob D)) : Prop where
  created (job : PrintJob D) (hjob : job ∈ saved) :
    ∃ date, job.createdAt = some date ∧ q.toIsoDate date ≠ ""
  height (job : PrintJob D) (hjob : job ∈ saved) : job.mediaHeightMm ≠ .nan
  images (job : PrintJob D) (hjob : job ∈ saved) (bytes : Bytes)
    (hbytes : imageOf q before job = some bytes) :
    let writes := extractions q (q.toLocalFile path) (openedDisk q path before) saved
    ((writes.filter fun write ↦ write.1 = extractedFile q (q.toLocalFile path) job).getLast?).map
      (·.2) = some bytes

variable {q} {second : D → S}

/-- A path that goes on after an absolute one is absolute. -/
theorem absolute_append {path : String} (h : isAbsolutePath path) (rest : String) :
    isAbsolutePath (path ++ rest) := by
  unfold isAbsolutePath at h ⊢
  rw [String.toList_append, List.head?_append, h]
  rfl

/-- A name in a directory with an absolute path has an absolute path. -/
theorem file_path_absolute {dir : String} (h : isAbsolutePath dir) (name : String) :
    isAbsolutePath (filePath dir name) := by
  unfold filePath
  by_cases hname : isAbsolutePath name
  · rw [if_pos hname]
    exact hname
  · rw [if_neg hname]
    split
    · exact absolute_append h name
    · exact absolute_append (absolute_append h "/") name

omit [DecidableEq F] in
/-- An image is extracted to an absolute path. -/
theorem extracted_absolute (h : q.Lawful second) (localPath id imagePath : String) :
    isAbsolutePath (extractedPath q localPath id imagePath) :=
  file_path_absolute (h.absolute_dir localPath) _

/-- An image that can be read before the save can be read when the JSON file is open. -/
theorem opened_image {path : String} {before : Disk F} {job : PrintJob D} {bytes : Bytes}
    (h : imageOf q before job = some bytes) :
    (imageOf q (openedDisk q path before) job).isSome = true := by
  unfold imageOf Disk.read at h ⊢
  show Option.isSome (if before.canRead _ = true then (before.content.set _ []) _ else none) = true
  split at h
  · next hread =>
      rw [if_pos hread]
      by_cases hsame : q.file (q.toLocalFile job.imagePath) = q.file (q.toLocalFile path)
      · rw [hsame, Store.set_same]
        rfl
      · rw [Store.set_other _ _ hsame, h]
        rfl
  · exact absurd h nofun

omit [DecidableEq F] in
/-- The date of a job is read back to the second exactly if it has an ISO text. -/
theorem created_read (h : q.Lawful second) (createdAt : Option D) :
    (∀ now, (some ((q.fromIsoDate (createdAt.elim "" q.toIsoDate)).getD now)).map second =
        createdAt.map second) ↔
      ∃ date, createdAt = some date ∧ q.toIsoDate date ≠ "" := by
  constructor
  · intro hread
    obtain ⟨dated, hdated⟩ := h.to_iso_exists
    have hdate := hread dated
    cases createdAt with
    | none => exact absurd hdate nofun
    | some date =>
        refine ⟨date, rfl, fun hempty ↦ hdated ?_⟩
        -- Without an ISO text the reader takes the clock, here a date that has one.
        rw [Option.elim_some, hempty, h.from_empty, Option.getD_none, Option.map_some,
          Option.map_some] at hdate
        rw [h.to_iso_second dated date (Option.some.inj hdate), hempty]
  · intro ⟨date, hcreated, htext⟩ now
    obtain ⟨back, hback, hsecond⟩ := h.from_iso date htext
    rw [hcreated, Option.elim_some, hback, Option.getD_some, Option.map_some, Option.map_some,
      hsecond]

omit [DecidableEq F] in
/-- The loaded job agrees with the saved one exactly if its height is a number and its date is read
back. -/
theorem same_loaded (localPath : String) (now : Reading D) (extracted : Bool) (job : PrintJob D) :
    SameJob second job (loadedJob q localPath now extracted job) ↔
      job.mediaHeightMm ≠ .nan ∧
        (some ((q.fromIsoDate (job.createdAt.elim "" q.toIsoDate)).getD now.dateTime)).map second =
          job.createdAt.map second := by
  constructor
  · intro h
    refine ⟨fun hnan ↦ ?_, h.createdAt⟩
    have hheight : (if job.mediaHeightMm = .nan then Double.finite (-1) else job.mediaHeightMm) =
        job.mediaHeightMm := h.mediaHeightMm
    rw [if_pos hnan, hnan] at hheight
    exact absurd hheight nofun
  · intro ⟨hheight, hcreated⟩
    exact ⟨rfl, rfl, rfl, if_neg hheight, rfl, rfl, rfl, rfl, rfl, rfl, hcreated, rfl, rfl⟩

/-- After loading, the file of an image holds the last image that was extracted to it. -/
theorem extracted_content {localPath : String} {opened later : Disk F} {jobs : List (PrintJob D)}
    {job : PrintJob D} (hjob : job ∈ jobs) (himage : (imageOf q opened job).isSome = true) :
    later.content.setAll (extractions q localPath opened jobs) (extractedFile q localPath job) =
      (((extractions q localPath opened jobs).filter fun write ↦
        write.1 = extractedFile q localPath job).getLast?).map (·.2) := by
  obtain ⟨bytes, hbytes⟩ := Option.isSome_iff_exists.mp himage
  have hmem : (extractedFile q localPath job, bytes) ∈
      (extractions q localPath opened jobs).filter fun write ↦
        write.1 = extractedFile q localPath job := by
    refine List.mem_filter.mpr ⟨List.mem_filterMap.mpr ⟨job, hjob, ?_⟩, by simp⟩
    rw [hbytes]
    rfl
  rw [Store.set_all_apply]
  generalize (extractions q localPath opened jobs).filter _ = writes at hmem
  cases hlast : writes.getLast? with
  | none => exact absurd (List.getLast?_eq_none_iff.mp hlast ▸ hmem) List.not_mem_nil
  | some write => rfl

/-- An image that goes to a file of its own is the last that goes there. -/
theorem last_extraction {localPath : String} {opened : Disk F} {jobs : List (PrintJob D)}
    (hfiles : (jobs.map (extractedFile q localPath)).Nodup) {job : PrintJob D} (hjob : job ∈ jobs)
    {bytes : Bytes} (hbytes : imageOf q opened job = some bytes) :
    ((extractions q localPath opened jobs).filter fun write ↦
      write.1 = extractedFile q localPath job).getLast?.map (·.2) = some bytes := by
  induction jobs with
  | nil => exact absurd hjob List.not_mem_nil
  | cons first jobs ih =>
      rw [List.map_cons, List.nodup_cons] at hfiles
      obtain ⟨hother, hfiles⟩ := hfiles
      rcases List.mem_cons.mp hjob with rfl | hjob
      · have hrest : (extractions q localPath opened jobs).filter (fun write ↦
            write.1 = extractedFile q localPath job) = [] := by
          refine List.filter_eq_nil_iff.mpr fun write hwrite hsame ↦ hother ?_
          obtain ⟨later, hlater, himage⟩ := List.mem_filterMap.mp hwrite
          obtain ⟨_, -, rfl⟩ := Option.map_eq_some_iff.mp himage
          rw [← of_decide_eq_true hsame]
          exact List.mem_map_of_mem hlater
        rw [extractions, List.filterMap_cons_some (by rw [hbytes]; rfl),
          List.filter_cons_of_pos (by simp)]
        rw [extractions] at hrest
        rw [hrest]
        rfl
      · have hfirst : extractedFile q localPath first ≠ extractedFile q localPath job := by
          intro hsame
          exact hother (hsame ▸ List.mem_map_of_mem hjob)
        rw [← ih hfiles hjob, extractions, extractions]
        cases himage : imageOf q opened first with
        | none => rw [List.filterMap_cons_none (by rw [himage]; rfl)]
        | some image =>
            rw [List.filterMap_cons_some (by rw [himage]; rfl),
              List.filter_cons_of_neg (by simpa using hfirst)]

/-- Loading a saved selection into a new model restores it exactly if it is restorable. -/
theorem load_saved_iff (h : q.Lawful second) {path : String} {before later : Disk F}
    {jobs : List (PrintJob D)} (hkept : ∀ job ∈ jobs, JobKept job)
    (htext : q.json.Keeps (savedDocument q (openedDisk q path before) jobs))
    (hfile : later.read (q.file (q.toLocalFile path)) =
      some (q.json.write (savedDocument q (openedDisk q path before) jobs)))
    (hwrite : ∀ job ∈ jobs,
      later.canWrite (extractedFile q (q.toLocalFile path) job) = true) :
    (∀ clock, Restored q second before jobs (loadFromJson q path clock (emptyModel later))) ↔
      Restorable q path before jobs := by
  have hloaded (clock : Nat → Reading D) :=
    load_saved q clock hkept htext hfile hwrite
  -- The copy of a job is at the place of the job.
  have hcopy (clock : Nat → Reading D) (index : Nat) :
      (loadFromJson q path clock (emptyModel later)).jobs[index]? =
        jobs[index]?.map fun job ↦ loadedJob q (q.toLocalFile path) (clock index)
          (imageOf q (openedDisk q path before) job).isSome job := by
    rw [hloaded]
    exact List.getElem?_mapIdx
  have himage (clock : Nat → Reading D) {job : PrintJob D} (hjob : job ∈ jobs) (now : Reading D)
      {bytes : Bytes} (hbytes : imageOf q before job = some bytes) :
      (loadFromJson q path clock (emptyModel later)).disk.content
          (q.file (q.toLocalFile (loadedJob q (q.toLocalFile path) now
            (imageOf q (openedDisk q path before) job).isSome job).imagePath)) =
        (((extractions q (q.toLocalFile path) (openedDisk q path before) jobs).filter fun write ↦
          write.1 = extractedFile q (q.toLocalFile path) job).getLast?).map (·.2) := by
    have hopened : (imageOf q (openedDisk q path before) job).isSome = true := opened_image hbytes
    rw [hloaded, hopened]
    show later.content.setAll _ (q.file (q.toLocalFile (q.fromLocalFile _))) = _
    rw [h.to_local_file _ (extracted_absolute h _ _ _)]
    exact extracted_content hjob hopened
  constructor
  · intro hrestored
    have hsame (job : PrintJob D) (hjob : job ∈ jobs) (date : D) :
        job.mediaHeightMm ≠ .nan ∧
          (some ((q.fromIsoDate (job.createdAt.elim "" q.toIsoDate)).getD date)).map second =
            job.createdAt.map second := by
      obtain ⟨index, hindex⟩ := List.mem_iff_getElem?.mp hjob
      exact (same_loaded _ _ _ job).mp ((hrestored fun _ ↦ ⟨0, date⟩).fields index job _ hindex
        (by rw [hcopy, hindex]; rfl))
    obtain ⟨dated, _⟩ := h.to_iso_exists
    exact
      { created := fun job hjob ↦ (created_read h _).mp fun now ↦ (hsame job hjob now).2
        height := fun job hjob ↦ (hsame job hjob dated).1
        images := by
          intro job hjob bytes hbytes
          obtain ⟨index, hindex⟩ := List.mem_iff_getElem?.mp hjob
          have hcontent := (hrestored fun _ ↦ ⟨0, dated⟩).images index job _ bytes hindex
            (by rw [hcopy, hindex]; rfl) hbytes
          rwa [himage _ hjob _ hbytes] at hcontent }
  · intro hrestorable clock
    exact
      { length := by
          rw [hloaded]
          exact List.length_mapIdx
        fields := by
          intro index job copy hjob hfound
          have hmem := List.mem_of_getElem? hjob
          rw [hcopy, hjob] at hfound
          rw [← Option.some.inj hfound]
          exact (same_loaded _ _ _ job).mpr ⟨hrestorable.height job hmem,
            (created_read h _).mpr (hrestorable.created job hmem) _⟩
        images := by
          intro index job copy bytes hjob hfound hbytes
          have hmem := List.mem_of_getElem? hjob
          rw [hcopy, hjob] at hfound
          rw [← Option.some.inj hfound, himage clock hmem _ hbytes]
          exact hrestorable.images job hmem bytes hbytes }

/-- After every run, the selected jobs survive saving and loading exactly if they are restorable. -/
theorem save_load_round_trip [QVariantApi V] [QVariantJobApi V D] (h : q.Lawful second)
    (disk later : Disk F)
    (calls : List (Call D F V)) (selectedIndexes : List Int) (path : String)
    (htarget : (run q disk calls).disk.canWrite (q.file (q.toLocalFile path)) = true)
    (htext : q.json.Keeps (savedDocument q (openedDisk q path (run q disk calls).disk)
      (selectedJobs (run q disk calls).jobs selectedIndexes)))
    (hfile : later.read (q.file (q.toLocalFile path)) =
      (saveToJson q path selectedIndexes (run q disk calls)).disk.content
        (q.file (q.toLocalFile path)))
    (hwrite : ∀ job ∈ selectedJobs (run q disk calls).jobs selectedIndexes,
      later.canWrite (extractedFile q (q.toLocalFile path) job) = true) :
    (∀ clock, Restored q second (run q disk calls).disk
        (selectedJobs (run q disk calls).jobs selectedIndexes)
        (loadFromJson q path clock (emptyModel later))) ↔
      Restorable q path (run q disk calls).disk
        (selectedJobs (run q disk calls).jobs selectedIndexes) := by
  -- Every selected job is one of the run, so its numbers are within their bounds.
  have hkept : ∀ job ∈ selectedJobs (run q disk calls).jobs selectedIndexes, JobKept job := by
    intro job hjob
    obtain ⟨index, _, hindex⟩ := List.mem_filterMap.mp hjob
    unfold jobAt at hindex
    split at hindex
    · exact absurd hindex nofun
    · exact run_kept q disk calls job (List.mem_of_getElem? hindex)
  refine load_saved_iff h hkept htext ?_ hwrite
  rw [hfile, saveToJson]
  dsimp only
  rw [if_pos htarget]
  exact Store.set_same _ _ _

/-! ## A concrete platform -/

/-- A platform whose clock shows one date and whose JSON text is that of one document. -/
def posix (text : Bytes) (document : Json) : Platform Unit String where
  isLocalFile url := url.toList.take 7 = "file://".toList
  toLocalFile url :=
    if url.toList.take 7 = "file://".toList then String.ofList (url.toList.drop 7) else ""
  fromLocalFile path := "file://" ++ path
  absoluteDir _ := "/"
  file path := path
  toLower text := String.ofList (text.toList.map Char.toLower)
  canDecode _ _ := true
  appDataLocation := "/app"
  toIsoDate _ := "2025-01-01T00:00:00"
  fromIsoDate text := if text = "2025-01-01T00:00:00" then some () else none
  json := ⟨fun _ ↦ text, fun bytes ↦ if bytes = text then some document.scrub else none⟩

theorem posix_lawful (text : Bytes) (document : Json) :
    (posix text document).Lawful (fun date : Unit ↦ date) where
  to_local_file path _ := by
    show (if ("file://" ++ path).toList.take 7 = "file://".toList then
      String.ofList (("file://" ++ path).toList.drop 7) else "") = path
    have htake : ("file://" ++ path).toList.take 7 = "file://".toList := by
      rw [String.toList_append]
      rfl
    have hdrop : ("file://" ++ path).toList.drop 7 = path.toList := by
      rw [String.toList_append]
      rfl
    rw [if_pos htake, hdrop, String.ofList_toList]
  absolute_dir _ := show isAbsolutePath "/" by decide
  from_iso _ _ := ⟨(), rfl, rfl⟩
  from_empty := rfl
  to_iso_second _ _ _ := rfl
  to_iso_exists := ⟨(), show "2025-01-01T00:00:00" ≠ "" by decide⟩

/-- Files that can be read and written, with two images. -/
def twoImages : Disk String where
  content path := if path = "/a.png" then some [1] else if path = "/b.png" then some [2] else none
  canRead _ := true
  canWrite _ := true

instance : QVariantJobApi Variant Unit where
  toSize _ := ⟨-1, -1⟩
  toPoint _ := ⟨0, 0⟩
  toDateTime _ := none

/-- The JSON text of an imported job. -/
def jobText (id imageData name : String) : String :=
  "    \x7b\n        \"colorProfile\": \"sRGB\",\n" ++
    "        \"createdAt\": \"2025-01-01T00:00:00\",\n        \"feathering\": 2,\n" ++
    "        \"id\": \"" ++ id ++ "\",\n        \"imageData\": \"" ++ imageData ++ "\",\n" ++
    "        \"imagePath\": \"file:///app/job_images/" ++ id ++ "_" ++ name ++ ".png\",\n" ++
    "        \"mediaHeightMm\": -1,\n        \"name\": \"" ++ name ++ "\",\n" ++
    "        \"offsetX\": 0,\n        \"offsetY\": 0,\n" ++
    "        \"paperSizeHeight\": 297,\n        \"paperSizeWidth\": 210,\n" ++
    "        \"resolutionHeight\": 1440,\n        \"resolutionWidth\": 720,\n" ++
    "        \"varnishPlatePath\": \"\",\n        \"varnishType\": \"None\",\n" ++
    "        \"whitePlatePath\": \"\",\n        \"whiteStrategy\": \"None\"\n    \x7d"

/-- Two imports, a millisecond apart. -/
def apartImports : List (Call Unit String Variant) :=
  [.addJobFromImage "/a.png" "" ⟨true, 1000⟩ ⟨1000, ()⟩,
    .addJobFromImage "/b.png" "" ⟨true, 1001⟩ ⟨1001, ()⟩]

/-- The state after the two imports. -/
def apartState : State Unit String := run (posix [] .null) twoImages apartImports

/-- An import does not depend on the JSON text. -/
theorem posix_add_job (text : Bytes) (document : Json) (sourcePath name : String)
    (context : ImportContext) (now : Reading Unit) (state : State Unit String) :
    addJobFromImage (posix text document) sourcePath name context now state =
      addJobFromImage (posix [] .null) sourcePath name context now state := rfl

theorem posix_imports (text : Bytes) (document : Json) :
    run (posix text document) twoImages apartImports = apartState := by
  simp only [apartState, run, apartImports, List.foldl_cons, List.foldl_nil, step,
    posix_add_job text document]

/-- Neither does the document of a save, and the text keeps it. -/
theorem posix_keeps (text : Bytes) (path : String) (disk : Disk String)
    (jobs : List (PrintJob Unit)) :
    let document := savedDocument (posix [] .null) (openedDisk (posix [] .null) path disk) jobs
    (posix text document).json.Keeps
      (savedDocument (posix text document) (openedDisk (posix text document) path disk) jobs) :=
  if_pos rfl

/-- The document of the two jobs, the second one first. -/
def apartDocument : Json :=
  savedDocument (posix [] .null) (openedDisk (posix [] .null) "file:///jobs.json" apartState.disk)
    (selectedJobs apartState.jobs [1, 0])

/-- The platform with the JSON text of this document. -/
def apartPlatform : Platform Unit String :=
  posix ("[\n" ++ jobText "1001" "Ag==" "b" ++ ",\n" ++ jobText "1000" "AQ==" "a" ++
    "\n]\n").toUTF8.toList apartDocument

theorem apart_platform_lawful : apartPlatform.Lawful (fun date : Unit ↦ date) :=
  posix_lawful _ _

/-- Each image goes to a file of its own. -/
theorem apart_restorable :
    Restorable apartPlatform "file:///jobs.json" apartState.disk
      (selectedJobs apartState.jobs [1, 0]) where
  created job hjob := by
    have hcreated : ∀ job ∈ selectedJobs apartState.jobs [1, 0],
        job.createdAt = some () := by decide +kernel
    exact ⟨(), hcreated job hjob, by decide⟩
  height := by decide +kernel
  images job hjob bytes hbytes := by
    have hfiles : ((selectedJobs apartState.jobs [1, 0]).map
        (extractedFile apartPlatform "/jobs.json")).Nodup := by decide +kernel
    have hopened : ∀ job ∈ selectedJobs apartState.jobs [1, 0],
        imageOf apartPlatform (openedDisk apartPlatform "file:///jobs.json" apartState.disk) job =
          imageOf apartPlatform apartState.disk job := by decide +kernel
    exact last_extraction hfiles hjob ((hopened job hjob).trans hbytes)

/-- Both jobs are restored with their images. -/
theorem save_load_round_trip_two_jobs :
    let s := run apartPlatform twoImages apartImports
    s.jobs.map (imageOf apartPlatform s.disk) = [some [1], some [2]] ∧
      ∀ clock, Restored apartPlatform (fun date : Unit ↦ date) s.disk
        (selectedJobs s.jobs [1, 0])
        (loadFromJson apartPlatform "file:///jobs.json" clock
          (emptyModel (saveToJson apartPlatform "file:///jobs.json" [1, 0] s).disk)) := by
  have hrun : run apartPlatform twoImages apartImports = apartState := posix_imports _ _
  refine ⟨?_, (save_load_round_trip apart_platform_lawful twoImages _ apartImports [1, 0]
    "file:///jobs.json" ?_ ?_ ?_ ?_).mpr ?_⟩
  all_goals rw [hrun]
  · decide +kernel
  · decide +kernel
  · exact posix_keeps _ "file:///jobs.json" apartState.disk (selectedJobs apartState.jobs [1, 0])
  · exact if_pos (by decide +kernel)
  · decide +kernel
  · exact apart_restorable

/-- Two imports in one millisecond. -/
def twoImports : List (Call Unit String Variant) :=
  [.addJobFromImage "/a.png" "" ⟨true, 1000⟩ ⟨1000, ()⟩,
    .addJobFromImage "/b.png" "" ⟨true, 1000⟩ ⟨1000, ()⟩]

/-- The state after the two imports. -/
def importedState : State Unit String := run (posix [] .null) twoImages twoImports

example : importedState.jobs.map (·.imagePath) =
    ["file:///app/job_images/1000_a.png", "file:///app/job_images/1000_b.png"] := by
  decide +kernel

/-- The document of the two jobs. -/
def importedDocument : Json :=
  savedDocument (posix [] .null) (openedDisk (posix [] .null) "file:///jobs.json" importedState.disk)
    importedState.jobs

/-- The two jobs after loading them from the file they were saved to. -/
def reloadedState : State Unit String :=
  let saved := saveToJson (posix [0] importedDocument) "file:///jobs.json" [0, 1] importedState
  loadFromJson (posix [0] importedDocument) "file:///jobs.json" (fun _ ↦ ⟨2000, ()⟩)
    (emptyModel saved.disk)

/-- Both jobs are named after the millisecond of the imports, so the image of the second one
replaces that of the first. -/
theorem same_millisecond_image_lost :
    ¬ Restored (posix [0] importedDocument) (fun date : Unit ↦ date) importedState.disk
      (selectedJobs importedState.jobs [0, 1]) reloadedState := by
  intro h
  have hlost : ((selectedJobs importedState.jobs [0, 1])[0]?.bind
        (imageOf (posix [0] importedDocument) importedState.disk),
      reloadedState.jobs[0]?.bind fun copy ↦ reloadedState.disk.content
        ((posix [0] importedDocument).file
          ((posix [0] importedDocument).toLocalFile copy.imagePath))) = (some [1], some [2]) := by
    decide +kernel
  obtain ⟨hbefore, hafter⟩ := Prod.mk.injEq .. ▸ hlost
  obtain ⟨job, hjob, hbytes⟩ := Option.bind_eq_some_iff.mp hbefore
  obtain ⟨copy, hcopy, hcontent⟩ := Option.bind_eq_some_iff.mp hafter
  exact absurd ((h.images 0 job copy [1] hjob hcopy hbytes).symm.trans hcontent) (by decide)

end PrintFlow.PrintJobModel
