import PrintFlow.Core.Qt
import PrintFlow.Library.Base64
import PrintFlow.Library.FileStore
import PrintFlow.Library.Json

/-!
# The list of print jobs

`src/src/core/PrintJobModel.cpp`: the jobs of the queue, the import of images into the storage of
the application and the JSON file that jobs are saved to and loaded from. A saved job carries the
bytes of its image; loading writes them to a file next to the JSON file that is named after the job.
File names are those of a POSIX platform. What the model calls of Qt and of the platform beyond the
file system is a parameter.
-/

namespace PrintFlow

open FloatFormat FileStore

/-- A `QSize`. -/
structure QSize where
  width : Int32
  height : Int32
  deriving DecidableEq, Repr

/-- A `QPoint`. -/
structure QPoint where
  x : Int32
  y : Int32
  deriving DecidableEq, Repr

/-- The conversions of a `QVariant` to the types of a print job. -/
class QVariantJobApi (V D : Type) where
  toSize : V → QSize
  toPoint : V → QPoint
  toDateTime : V → Option D

/-- A print job. An invalid `QDateTime` is `none`. -/
structure PrintJob (D : Type) where
  id : String
  name : String
  imagePath : String
  paperSize : QSize
  mediaHeightMm : Double
  resolution : QSize
  offset : QPoint
  feathering : Int32
  whiteStrategy : String
  varnishType : String
  colorProfile : String
  createdAt : Option D
  whitePlatePath : String
  varnishPlatePath : String

namespace PrintJobModel

/-! ## File names -/

/-- The part of a path after its last slash. -/
def fileName (path : String) : List Char := (path.toList.reverse.takeWhile (· ≠ '/')).reverse

/-- `QFileInfo::suffix`. -/
def suffix (path : String) : String :=
  let name := fileName path
  if '.' ∈ name then String.ofList (name.reverse.takeWhile (· ≠ '.')).reverse else ""

/-- `QFileInfo::completeBaseName`. -/
def completeBaseName (path : String) : String :=
  let name := fileName path
  if '.' ∈ name then String.ofList ((name.reverse.dropWhile (· ≠ '.')).drop 1).reverse
  else String.ofList name

/-- `QDir::isAbsolutePath`. -/
def isAbsolutePath (path : String) : Prop := path.toList.head? = some '/'

instance (path : String) : Decidable (isAbsolutePath path) :=
  inferInstanceAs (Decidable (_ = _))

/-- `QDir(dir).filePath(name)` of a name that is not empty. -/
def filePath (dir name : String) : String :=
  if isAbsolutePath name then name
  else if dir = "" ∨ dir.toList.getLast? = some '/' then dir ++ name
  else dir ++ "/" ++ name

/-- A run of at least ten digits and the underscore after it are dropped. -/
def dropStamp (name : List Char) : List Char :=
  let digits := name.takeWhile Char.isDigit
  match name.drop digits.length with
  | '_' :: rest => if 10 ≤ digits.length then rest else name
  | _ => name

/-- Every run of characters of a class is replaced by one character. -/
def replaceRuns (replaced : Char → Bool) (replacement : Char) : Bool → List Char → List Char
  | _, [] => []
  | inRun, c :: rest =>
      if replaced c then
        if inRun then replaceRuns replaced replacement true rest
        else replacement :: replaceRuns replaced replacement true rest
      else c :: replaceRuns replaced replacement false rest

/-- The characters of the class `[A-Za-z0-9_.-]`. -/
def isFileNameChar (c : Char) : Bool := c.isAlphanum || c = '_' || c = '.' || c = '-'

/-- The characters of the class `[_\s]`. -/
def isWordGap (c : Char) : Bool := c = '_' || c = ' ' || (0x09 ≤ c.toNat && c.toNat ≤ 0x0d)

/-! ## The platform -/

/-- What the model calls of Qt and of the platform. `D` is a valid `QDateTime` and `F` a file,
which several paths may name. -/
structure Platform (D F : Type) where
  /-- `QUrl(text).isLocalFile()`. -/
  isLocalFile : String → Bool
  /-- `QUrl(text).toLocalFile()`. -/
  toLocalFile : String → String
  /-- `QUrl::fromLocalFile(path).toString()`. -/
  fromLocalFile : String → String
  /-- `QFileInfo(path).absoluteDir()`. -/
  absoluteDir : String → String
  /-- The file that a path names. -/
  file : String → F
  /-- `QString::toLower`. -/
  toLower : String → String
  /-- `QImageReader(path).canRead()`, for a file with this content. -/
  canDecode : String → Bytes → Bool
  /-- `QStandardPaths::writableLocation(AppDataLocation)`. -/
  appDataLocation : String
  /-- `QDateTime::toString(Qt::ISODate)`. -/
  toIsoDate : D → String
  /-- `QDateTime::fromString(text, Qt::ISODate)`. -/
  fromIsoDate : String → Option D
  /-- `QJsonDocument::toJson` and `QJsonDocument::fromJson`. -/
  json : Json.TextFormat

/-- The files of the system and what the program may do with each. -/
structure Disk (F : Type) where
  content : Store F
  canRead : F → Bool
  canWrite : F → Bool

section Disk

variable {F : Type}

/-- The bytes that opening a file for reading gives. -/
def Disk.read (disk : Disk F) (file : F) : Option Bytes :=
  if disk.canRead file then disk.content file else none

/-- `QFileInfo::isFile`. -/
def Disk.isFile (disk : Disk F) (file : F) : Bool := (disk.content file).isSome

/-- Write the bytes of a file that was opened for writing. -/
def Disk.write [DecidableEq F] (disk : Disk F) (file : F) (bytes : Bytes) : Disk F :=
  { disk with content := disk.content.set file bytes }

/-- `QFile::copy`, which never replaces a file. -/
def Disk.copy [DecidableEq F] (disk : Disk F) (source target : F) : Option (Disk F) :=
  match disk.read source with
  | none => none
  | some bytes =>
      if disk.isFile target then none
      else if disk.canWrite target then some (disk.write target bytes)
      else none

end Disk

/-- What the clock says when a job is made. -/
structure Reading (D : Type) where
  /-- `QDateTime::currentMSecsSinceEpoch`. -/
  msecs : Int
  /-- `QDateTime::currentDateTime`. -/
  dateTime : D

/-- The jobs and the last error of a model, and the files around it. -/
structure State (D F : Type) where
  jobs : List (PrintJob D)
  lastError : String
  disk : Disk F

variable {D F V : Type}

/-- `std::clamp(height, -1.0, 152.0)`. -/
def clampHeight (height : Double) : Double := height.clamp (.finite (-1)) (.finite 152)

/-- `std::clamp(grade, 1, 3)`. -/
def clampFeathering (grade : Int32) : Int32 := if grade < 1 then 1 else if 3 < grade then 3 else grade

/-- `PrintJobModel::makeDefaultJob`. -/
def makeDefaultJob (now : Reading D) (name : String) : PrintJob D where
  id := toString now.msecs
  name
  imagePath := ""
  paperSize := ⟨210, 297⟩
  mediaHeightMm := .finite (-1)
  resolution := ⟨720, 1440⟩
  offset := ⟨0, 0⟩
  feathering := 2
  whiteStrategy := "None"
  varnishType := "None"
  colorProfile := "sRGB"
  createdAt := some now.dateTime
  whitePlatePath := ""
  varnishPlatePath := ""

/-- `PrintJobModel::addJob`. -/
def addJob (name : String) (now : Reading D) (state : State D F) : State D F :=
  { state with jobs := state.jobs ++ [makeDefaultJob now name] }

/-- The job at an index of the list. -/
def jobAt (jobs : List (PrintJob D)) (index : Int) : Option (PrintJob D) :=
  if index < 0 then none else jobs[index.toNat]?

/-- `PrintJobModel::removeJob`. -/
def removeJob (index : Int) (state : State D F) : State D F :=
  if index < 0 ∨ state.jobs.length ≤ index then state
  else { state with jobs := state.jobs.eraseIdx index.toNat }

/-- `PrintJobModel::updateJob` on the job. -/
def updatedJob [QVariantApi V] [QVariantJobApi V D] (jobData : QVariantMap V) (job : PrintJob D) :
    PrintJob D where
  id := job.id
  name := (jobData "name").elim job.name QVariantApi.toString
  imagePath := (jobData "imagePath").elim job.imagePath QVariantApi.toString
  paperSize := (jobData "paperSize").elim job.paperSize (QVariantJobApi.toSize D)
  mediaHeightMm :=
    (jobData "mediaHeightMm").elim job.mediaHeightMm fun value ↦
      clampHeight (QVariantApi.toDouble value)
  resolution := (jobData "resolution").elim job.resolution (QVariantJobApi.toSize D)
  offset := (jobData "offset").elim job.offset (QVariantJobApi.toPoint D)
  feathering :=
    (jobData "feathering").elim job.feathering fun value ↦ clampFeathering (QVariantApi.toInt value)
  whiteStrategy := (jobData "whiteStrategy").elim job.whiteStrategy QVariantApi.toString
  varnishType := (jobData "varnishType").elim job.varnishType QVariantApi.toString
  colorProfile := (jobData "colorProfile").elim job.colorProfile QVariantApi.toString
  whitePlatePath := (jobData "whitePlatePath").elim job.whitePlatePath QVariantApi.toString
  varnishPlatePath := (jobData "varnishPlatePath").elim job.varnishPlatePath QVariantApi.toString
  createdAt := (jobData "createdAt").elim job.createdAt QVariantJobApi.toDateTime

/-- `PrintJobModel::updateJob`. -/
def updateJob [QVariantApi V] [QVariantJobApi V D] (index : Int) (jobData : QVariantMap V)
    (state : State D F) : State D F :=
  if index < 0 ∨ state.jobs.length ≤ index then state
  else { state with jobs := state.jobs.modify index.toNat (updatedJob jobData) }

/-! ## Import of an image -/

/-- `PrintJobModel::isSupportedImportExtension`. -/
def isSupportedImportExtension (extension : String) : Bool :=
  ["jpeg", "jpg", "png", "bmp", "tiff", "tif", "svg", "pdf"].contains extension

/-- The first bytes of a TIFF file. -/
def tiffSignatures : List Bytes :=
  [[0x49, 0x49, 0x2a, 0], [0x4d, 0x4d, 0, 0x2a], [0x49, 0x49, 0x2b, 0], [0x4d, 0x4d, 0, 0x2b]]

variable (q : Platform D F)

/-- `PrintJobModel::validateImportedSource`. -/
def validateImportedSource (disk : Disk F) (localPath extension : String) : Bool :=
  if extension = "pdf" ∨ extension = "svg" then disk.isFile (q.file localPath)
  else
    let content := disk.read (q.file localPath)
    if content.any (q.canDecode localPath) then true
    else if extension = "tif" ∨ extension = "tiff" then
      content.any fun bytes ↦ tiffSignatures.contains (bytes.take 4)
    else false

/-- What an import finds besides the files: whether the directory of the images can be made, and
the time. -/
structure ImportContext where
  mkpath : Bool
  msecs : Int

/-- The path given as a local file, as a URL or as it is. -/
def localSource (sourcePath : String) : String :=
  if q.isLocalFile sourcePath then q.toLocalFile sourcePath else sourcePath

/-- The name of the imported copy of an image. -/
def importedName (msecs : Int) (localPath extension : String) : String :=
  let base := replaceRuns (fun c ↦ !isFileNameChar c) '_' false (completeBaseName localPath).toList
  toString msecs ++ "_" ++ (if base = [] then "image" else String.ofList base) ++ "." ++ extension

variable [DecidableEq F]

/-- `PrintJobModel::importImageToJobStorage`; the path is empty when the import fails. -/
def importImageToJobStorage (sourcePath : String) (context : ImportContext) (state : State D F) :
    State D F × String :=
  let localPath := localSource q sourcePath
  let extension := q.toLower (suffix localPath)
  let fail (message : String) : State D F × String := ({ state with lastError := message }, "")
  if !state.disk.isFile (q.file localPath) then fail "The selected image could not be opened."
  else if !isSupportedImportExtension extension then
    fail ("Unsupported image type: ." ++ extension)
  else if !validateImportedSource q state.disk localPath extension then
    fail "The selected file is not a readable image."
  else if q.appDataLocation = "" then fail "App storage is not available."
  else if !context.mkpath then fail "Could not create job image storage."
  else
    let destination := filePath q.appDataLocation
      ("job_images/" ++ importedName context.msecs localPath extension)
    match state.disk.copy (q.file localPath) (q.file destination) with
    | none => fail "Could not copy image into app storage."
    | some disk => ({ state with lastError := "", disk }, q.fromLocalFile destination)

/-- The name of a job made from an image. -/
def defaultJobName (sourcePath importedPath : String) : String :=
  let base := (trimmed (completeBaseName (localSource q sourcePath))).toList
  let unstamped := (dropStamp (dropStamp base).reverse).reverse
  let default := String.ofList (replaceRuns isWordGap ' ' false unstamped)
  if default ≠ "" then default
  else
    let imported := trimmed (completeBaseName (q.toLocalFile importedPath))
    if imported ≠ "" then imported else "Untitled Image"

/-- `PrintJobModel::addJobFromImage`; the row is -1 when the import fails. -/
def addJobFromImage (sourcePath name : String) (context : ImportContext) (now : Reading D)
    (state : State D F) : State D F × Int :=
  let (state, importedPath) := importImageToJobStorage q sourcePath context state
  if importedPath = "" then (state, -1)
  else
    let name :=
      if trimmed name = "" then defaultJobName q sourcePath importedPath else trimmed name
    let job := { makeDefaultJob now name with imagePath := importedPath }
    ({ state with jobs := state.jobs ++ [job] }, state.jobs.length)

/-- `PrintJobModel::updateJobImage`. -/
def updateJobImage (index : Int) (sourcePath : String) (context : ImportContext)
    (state : State D F) : State D F × Bool :=
  if index < 0 ∨ state.jobs.length ≤ index then
    ({ state with lastError := "No job is selected." }, false)
  else
    let (state, importedPath) := importImageToJobStorage q sourcePath context state
    if importedPath = "" then (state, false)
    else
      let jobs := state.jobs.modify index.toNat ({ · with imagePath := importedPath })
      ({ state with jobs }, true)

/-! ## The JSON file -/

/-- The file next to the JSON file that the image of a job is extracted to. -/
def extractedPath (localPath id imagePath : String) : String :=
  let originalExt := if suffix imagePath = "" then "png" else suffix imagePath
  filePath (q.absoluteDir localPath) (id ++ "." ++ originalExt)

/-- The jobs at the valid indexes of a selection, in its order. -/
def selectedJobs (jobs : List (PrintJob D)) (selectedIndexes : List Int) : List (PrintJob D) :=
  selectedIndexes.filterMap (jobAt jobs)

/-- The image of a job as the files hold it. -/
def imageOf (disk : Disk F) (job : PrintJob D) : Option Bytes :=
  disk.read (q.file (q.toLocalFile job.imagePath))

/-- The fields of a job in the JSON file, without its image. -/
def jobFields (job : PrintJob D) : Json.Object :=
  OrderedMap.ofList
    [("id", .string job.id), ("name", .string job.name), ("imagePath", .string job.imagePath),
      ("paperSizeWidth", .ofInt job.paperSize.width),
      ("paperSizeHeight", .ofInt job.paperSize.height),
      ("mediaHeightMm", .number job.mediaHeightMm),
      ("resolutionWidth", .ofInt job.resolution.width),
      ("resolutionHeight", .ofInt job.resolution.height), ("offsetX", .ofInt job.offset.x),
      ("offsetY", .ofInt job.offset.y), ("feathering", .ofInt job.feathering),
      ("whiteStrategy", .string job.whiteStrategy), ("varnishType", .string job.varnishType),
      ("colorProfile", .string job.colorProfile),
      ("createdAt", .string (job.createdAt.elim "" q.toIsoDate)),
      ("whitePlatePath", .string job.whitePlatePath),
      ("varnishPlatePath", .string job.varnishPlatePath)]

/-- A job as the JSON file has it, with its image when that can be read. -/
def jobObject (disk : Disk F) (job : PrintJob D) : Json.Object :=
  match imageOf q disk job with
  | some bytes =>
      (jobFields q job).insert "imageData" (.string (String.ofList (Base64.encode bytes)))
  | none => jobFields q job

/-- The document of these jobs. -/
def savedDocument (disk : Disk F) (jobs : List (PrintJob D)) : Json :=
  .array (jobs.map fun job ↦ .ofObject (jobObject q disk job))

/-- `PrintJobModel::saveToJson`. The file is emptied before the images are read. -/
def saveToJson (path : String) (selectedIndexes : List Int) (state : State D F) : State D F :=
  let file := q.file (q.toLocalFile path)
  if state.disk.canWrite file then
    let opened := state.disk.write file []
    let document := savedDocument q opened (selectedJobs state.jobs selectedIndexes)
    { state with disk := opened.write file (q.json.write document) }
  else state

/-- The `parseObject` of `PrintJobModel::loadFromJson`: a job, with its image extracted. -/
def parseObject (localPath : String) (now : Reading D) (disk : Disk F) (obj : Json.Object) :
    PrintJob D × Disk F :=
  let id := (obj.value "id").toString ""
  let imagePath := (obj.value "imagePath").toString ""
  let newPath := extractedPath q localPath id imagePath
  -- A file that cannot be written leaves the job the path it was saved with.
  let extracted := obj.contains "imageData" && disk.canWrite (q.file newPath)
  let imageData := Base64.decode ((obj.value "imageData").toString "").toList
  let job : PrintJob D :=
    { id := if id = "" then toString now.msecs else id
      name := (obj.value "name").toString ""
      imagePath := if extracted then q.fromLocalFile newPath else imagePath
      paperSize :=
        ⟨(obj.value "paperSizeWidth").toInt 0, (obj.value "paperSizeHeight").toInt 0⟩
      mediaHeightMm :=
        if obj.contains "mediaHeightMm" then
          clampHeight ((obj.value "mediaHeightMm").toDouble (.finite (-1)))
        else .finite (-1)
      resolution :=
        ⟨(obj.value "resolutionWidth").toInt 0, (obj.value "resolutionHeight").toInt 0⟩
      offset := ⟨(obj.value "offsetX").toInt 0, (obj.value "offsetY").toInt 0⟩
      feathering :=
        if obj.contains "feathering" then clampFeathering ((obj.value "feathering").toInt 2) else 2
      whiteStrategy := (obj.value "whiteStrategy").toString ""
      varnishType := (obj.value "varnishType").toString ""
      colorProfile := (obj.value "colorProfile").toString ""
      createdAt :=
        some ((q.fromIsoDate ((obj.value "createdAt").toString "")).getD now.dateTime)
      whitePlatePath := (obj.value "whitePlatePath").toString ""
      varnishPlatePath := (obj.value "varnishPlatePath").toString "" }
  (job, if extracted then disk.write (q.file newPath) imageData else disk)

/-- The jobs of an array, each read at its own time; other values are skipped. -/
def parseArray (localPath : String) (clock : Nat → Reading D) (disk : Disk F) :
    List Json → List (PrintJob D) × Disk F
  | [] => ([], disk)
  | .object fields :: rest =>
      let (job, disk) := parseObject q localPath (clock 0) disk (Json.object fields).toObject
      let (jobs, disk) := parseArray localPath (fun index ↦ clock (index + 1)) disk rest
      (job :: jobs, disk)
  | _ :: rest => parseArray localPath (fun index ↦ clock (index + 1)) disk rest

/-- `PrintJobModel::loadFromJson`. -/
def loadFromJson (path : String) (clock : Nat → Reading D) (state : State D F) : State D F :=
  let localPath := q.toLocalFile path
  match (state.disk.read (q.file localPath)).bind q.json.read with
  | some (.array values) =>
      let (newJobs, disk) := parseArray q localPath clock state.disk values
      { state with jobs := state.jobs ++ newJobs, disk }
  | some (.object fields) =>
      let (job, disk) :=
        parseObject q localPath (clock 0) state.disk (Json.object fields).toObject
      { state with jobs := state.jobs ++ [job], disk }
  | _ => state

/-! ## Runs -/

/-- A call on the model, with what it finds, or a change of the files by something else. -/
inductive Call (D F V : Type) where
  | addJob (name : String) (now : Reading D)
  | addJobFromImage (sourcePath name : String) (context : ImportContext) (now : Reading D)
  | updateJob (index : Int) (jobData : QVariantMap V)
  | updateJobImage (index : Int) (sourcePath : String) (context : ImportContext)
  | removeJob (index : Int)
  | loadFromJson (path : String) (clock : Nat → Reading D)
  | saveToJson (path : String) (selectedIndexes : List Int)
  | outside (disk : Disk F)

variable [QVariantApi V] [QVariantJobApi V D]

/-- The state after a call. -/
def step (state : State D F) : Call D F V → State D F
  | .addJob name now => addJob name now state
  | .addJobFromImage sourcePath name context now =>
      (addJobFromImage q sourcePath name context now state).1
  | .updateJob index jobData => updateJob index jobData state
  | .updateJobImage index sourcePath context =>
      (updateJobImage q index sourcePath context state).1
  | .removeJob index => removeJob index state
  | .loadFromJson path clock => loadFromJson q path clock state
  | .saveToJson path selectedIndexes => saveToJson q path selectedIndexes state
  | .outside disk => { state with disk }

/-- A model without jobs. -/
def emptyModel (disk : Disk F) : State D F := ⟨[], "", disk⟩

/-- The state after these calls on a new model. -/
def run (disk : Disk F) (calls : List (Call D F V)) : State D F :=
  calls.foldl (step q) (emptyModel disk)

end PrintJobModel

end PrintFlow
