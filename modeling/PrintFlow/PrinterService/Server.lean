import PrintFlow.Core.RasterSpool.Reader
import PrintFlow.Library.Runs
import PrintFlow.PrinterService.Protocol

/-!
# The printer service

The service handles one request after the other on one thread. A request that prints runs inside
the backend until the print returns, and the backend may deliver further requests and timer events
meanwhile. A state therefore keeps the prints that are executing, innermost first, and a step is
one delivered event or the return of the innermost print.

`trace` lists the calls the backend got, with the command they were made for and the number of
prints executing then; `uploads` are the uploads in progress. `log` records what clients declared
and sent, and is read by no definition of the service.
-/

namespace PrintFlow.PrinterServiceServer

open FileStore PrinterServiceProtocol RasterSpool

variable {V : Type} [QVariantApi V]

/-- The calls of the backend, less its plain getters. -/
inductive BackendCall where
  | isAvailable
  | setSdkRootPath (path : String)
  | setAutoDiscoverSdk (enabled : Bool)
  | refreshPrinters
  | choosePrinter (index : Int32)
  | connectPrinter
  | resetSdkSession
  | statusText
  | getPrinterStatus
  | getPrinterInfo
  | abortPrint
  | pausePrint
  | continuePrint
  | executeMaintenanceActionNow (action : String)
  | submitSpooledJob (spool : DirectPrintSpool) (settings : DirectPrintSettings)
  | submitPreparedJob (raster : DirectPrintRaster) (settings : DirectPrintSettings)
  deriving DecidableEq

/-- One call: the command it was made for, how many prints were executing, and the call. -/
structure TraceEntry where
  command : String
  depth : Nat
  call : BackendCall

/-- `PrinterServiceServer::UploadState`. -/
structure UploadState where
  partialPath : String
  expectedBytes : UInt64
  receivedBytes : UInt64 := 0
  lastActivityMs : Int
  expectedSpool : DirectPrintSpool
  settings : DirectPrintSettings

/-- A print that is executing: what its handler does when it returns. -/
inductive Printing where
  | job
  | upload (finalPath : String)
  deriving DecidableEq

/-- What clients declared and sent, and what was submitted. -/
inductive LogEntry where
  | began (id : String) (fileBytes : UInt64) (spool : DirectPrintSpool)
      (settings : DirectPrintSettings)
  | accepted (id : String) (chunk : Bytes)
  | submitted (id : String) (spool : DirectPrintSpool) (settings : DirectPrintSettings)

/-- The members of the service, the files, and the records of its run. A service that read out of
bounds has crashed and does nothing any more. -/
structure State where
  uploads : List (String × UploadState) := []
  printInProgress : Bool := false
  prints : List Printing := []
  crashed : Bool := false
  files : Store String
  trace : List TraceEntry := []
  log : List LogEntry := []

/-- The answers to one request: of the backend, the clock, the file system and the random source. -/
structure RequestIo (V : Type) where
  available : Bool := true
  isConnected : Bool := false
  refreshed : Bool := true
  chosen : Bool := true
  connected : Bool := true
  reset : Bool := true
  aborted : Bool := true
  paused : Bool := true
  continued : Bool := true
  statusText : String := ""
  printerStatus : QVariantMap V
  printerInfo : QVariantMap V
  completion : QVariantMap V
  printers : List V := []
  lastError : String := ""
  nowMs : Int := 0
  uploadId : String := ""
  storage : Option UInt64 := some 0xffffffffffffffff
  fileOpened : Bool := true
  fileError : String := ""
  write : Io := .done
  rename : Bool := true
  checksum : ChecksumIo := {}

/-- The `result` of a response. -/
inductive Result (V : Type) where
  | none
  | text (value : String)
  | number (value : UInt64)
  | upload (id : String) (chunkBytes : Nat)
  | printers (values : List V)
  | map (value : QVariantMap V)
  | variant (value : Option V)

/-- A response: `available` is the part of `serviceState` that asks the backend. -/
structure Response (V : Type) where
  ok : Bool
  result : Result V
  error : String
  available : Bool

/-! ## Requests -/

/-- `kUploadChunkBytes`. -/
def uploadChunkBytes : Nat := 1024 * 1024

/-- `kUploadExpiryMs`. -/
def uploadExpiryMs : Int := 5 * 60 * 1000

/-- `uploadDirectory`. -/
def uploadDirectory : String := "/tmp/PrintFlow-printer-uploads"

/-- The file that collects the chunks of an upload. -/
def partialPathOf (id : String) : String := uploadDirectory ++ "/" ++ (id ++ ".upload.partial")

/-- `QString::chop`. -/
def chop (s : String) (count : Nat) : String := String.ofList (s.toList.take (s.length - count))

/-- The name of a complete upload. -/
def finalPathOf (partialPath : String) : String :=
  chop partialPath ".upload.partial".length ++ ".pfrs"

namespace State

/-- Call the backend. -/
def call (s : State) (command : String) (call : BackendCall) : State :=
  { s with trace := s.trace ++ [{ command, depth := s.prints.length, call }] }

/-- The upload with this id. -/
def upload (s : State) (id : String) : Option UploadState := s.uploads.lookup id

/-- `m_uploads.insert`. -/
def insert (s : State) (id : String) (upload : UploadState) : State :=
  { s with uploads := (id, upload) :: s.uploads.filter fun entry ↦ entry.1 != id }

/-- `m_uploads.erase`. -/
def erase (s : State) (id : String) : State :=
  { s with uploads := s.uploads.filter fun entry ↦ entry.1 != id }

/-- `QFile::remove`. -/
def removeFile (s : State) (path : String) : State := { s with files := s.files.remove path }

end State

/-- `response`, with the call that `serviceState` makes unless a print is in progress. -/
def response (s : State) (command : String) (io : RequestIo V) (ok : Bool) (result : Result V)
    (error : String) : State × Option (Response V) :=
  (if s.printInProgress then s else s.call command .isAvailable,
    some { ok, result, error := if ok then "" else error,
           available := if s.printInProgress then true else io.available })

/-- The `configure` command. -/
def configure (s : State) (command : String) (io : RequestIo V) (arguments : QVariantMap V) :
    State × Option (Response V) :=
  let s := s.call command (.setSdkRootPath (arguments.string "sdkRootPath" ""))
  let s := s.call command (.setAutoDiscoverSdk (arguments.bool "autoDiscoverSdk" true))
  let s := s.call command .isAvailable
  response s command io io.available .none io.lastError

/-- The index of a listed printer. -/
def printerIndex (printer : V) (fallback : Int32) : Int32 :=
  QVariantMap.int (QVariantApi.toMap printer) "index" fallback

/-- The end of `reconnectPrinter`: the requested printer, or the only one there is. -/
def reconnect (s : State) (command : String) (io : RequestIo V) (arguments : QVariantMap V) :
    State × Option (Response V) :=
  let s := s.call command .resetSdkSession
  if !io.reset then response s command io false .none io.lastError
  else
    let s := s.call command .refreshPrinters
    if !io.refreshed then response s command io false .none io.lastError
    else
      let requested := arguments.int "index" (-1)
      let selected : Option Int32 :=
        if ∃ printer ∈ io.printers, printerIndex printer (-1) = requested then some requested
        else
          -- A single printer is taken without being asked for.
          match io.printers with
          | [printer] => some (printerIndex printer 0)
          | _ => none
      match selected with
      | none =>
        response s command io false .none
          (if io.printers.isEmpty then "No printer was found during reconnect."
           else "Select a printer before reconnecting.")
      | some index =>
        let s := s.call command (.choosePrinter index)
        if !io.chosen then response s command io false .none io.lastError
        else
          let s := s.call command .connectPrinter
          response s command io io.connected .none io.lastError

/-- The `reconnectPrinter` command: a healthy session is kept. -/
def reconnectPrinter (s : State) (command : String) (io : RequestIo V)
    (arguments : QVariantMap V) : State × Option (Response V) :=
  if io.isConnected then
    let s := s.call command .getPrinterStatus
    if io.printerStatus.bool "ok" false then
      response s command io true (.text "The existing printer session is healthy.") ""
    else reconnect s command io arguments
  else reconnect s command io arguments

/-- The checks of `beginRasterUpload` on what the client declares. -/
def declaredUpload (arguments : QVariantMap V) :
    Except String (UInt64 × DirectPrintSpool × DirectPrintSettings) :=
  let expectedBytes := arguments.uint64 "fileBytes"
  match spoolMetadataFromMap (arguments.map "spool") with
  | .error message => .error message
  | .ok expected =>
    let settings := settingsFromMap (arguments.map "settings")
    match metadataIsValid expected with
    | .error message => .error message
    | .ok () =>
      if expected.bodyOffset ≠ UInt64.ofNat headerBytes ∨
          expected.bodyBytes ≠ expectedBodyBytes expected ∨
          expectedBytes ≠ expected.bodyOffset + expected.bodyBytes then
        .error "Raster upload file length does not match its metadata."
      else .ok (expectedBytes, expected, settings)

/-- The `beginRasterUpload` command. -/
def beginRasterUpload (s : State) (command : String) (io : RequestIo V)
    (arguments : QVariantMap V) : State × Option (Response V) :=
  match declaredUpload arguments with
  | .error message => response s command io false .none message
  | .ok (expectedBytes, expectedSpool, settings) =>
    let required := expectedBytes + expectedBytes / 5
    if io.storage.getD 0 < required then
      response s command io false .none
        ("Not enough temporary storage for the raster upload. Required: " ++
          toString ((required + 1024 * 1024 - 1) / (1024 * 1024)) ++ " MiB; available: " ++
          toString (io.storage.getD 0 / (1024 * 1024)) ++ " MiB.")
    else if !io.fileOpened then response s command io false .none io.fileError
    else
      let upload : UploadState :=
        { partialPath := partialPathOf io.uploadId, expectedBytes, expectedSpool, settings,
          lastActivityMs := io.nowMs }
      let s := { s with
        files := s.files.set upload.partialPath []
        log := s.log ++ [LogEntry.began io.uploadId expectedBytes expectedSpool settings] }
      response (s.insert io.uploadId upload) command io true
        (.upload io.uploadId uploadChunkBytes) ""

/-- The `appendRasterChunk` command. -/
def appendRasterChunk (s : State) (command : String) (io : RequestIo V)
    (arguments : QVariantMap V) (chunk : Bytes) : State × Option (Response V) :=
  let uploadId := arguments.string "uploadId" ""
  match s.upload uploadId with
  | none => response s command io false .none "Raster upload does not exist."
  | some upload =>
    if arguments.uint64 "offset" ≠ upload.receivedBytes ∨ chunk = [] ∨
        chunk.length > uploadChunkBytes ∨
        upload.receivedBytes + UInt64.ofNat chunk.length > upload.expectedBytes then
      response s command io false .none "Raster upload chunk offset or size is invalid."
    -- A chunk that is not wholly written ends the upload.
    else if !(io.fileOpened && io.write.ok) then
      response ((s.removeFile upload.partialPath).erase uploadId) command io false .none
        io.fileError
    else
      let received := upload.receivedBytes + UInt64.ofNat chunk.length
      let s := { s with
        files := s.files.set upload.partialPath
          ((s.files upload.partialPath).getD [] ++ chunk)
        log := s.log ++ [LogEntry.accepted uploadId chunk] }
      response (s.insert uploadId
          { upload with receivedBytes := received, lastActivityMs := io.nowMs })
        command io true (.number received) ""

/-- The `cancelRasterUpload` command. -/
def cancelRasterUpload (s : State) (command : String) (io : RequestIo V)
    (arguments : QVariantMap V) : State × Option (Response V) :=
  let uploadId := arguments.string "uploadId" ""
  match s.upload uploadId with
  | none => response s command io true .none ""
  | some upload =>
    response ((s.removeFile upload.partialPath).erase uploadId) command io true .none ""

/-- Whether an uploaded spool is the declared one. -/
def sameSpool (uploaded expected : DirectPrintSpool) : Bool :=
  uploaded.width = expected.width ∧ uploaded.height = expected.height ∧
    uploaded.xdpi = expected.xdpi ∧ uploaded.ydpi = expected.ydpi ∧
    uploaded.bytesPerLine = expected.bytesPerLine ∧
    uploaded.logicalChannelCount = expected.logicalChannelCount ∧
    uploaded.channelOrder = expected.channelOrder ∧ uploaded.format = expected.format ∧
    uploaded.canonicalHeader = expected.canonicalHeader ∧
    uploaded.bodyBytes = expected.bodyBytes ∧ uploaded.sha256 = expected.sha256

/-- The checks of `commitRasterUpload` on the uploaded file. -/
def uploadedSpool (sha256 : Sha256) (io : ChecksumIo) (files : Store String) (finalPath : String)
    (expected : DirectPrintSpool) : Except String DirectPrintSpool :=
  match readMetadata files finalPath with
  | .error message => .error message
  | .ok uploaded =>
    match verify sha256 io files uploaded with
    | .error message => .error message
    | .ok () =>
      if sameSpool uploaded expected then .ok uploaded
      else .error "Uploaded raster metadata does not match the submitted job."

/-- The `commitRasterUpload` command. The print is left executing. -/
def commitRasterUpload (sha256 : Sha256) (s : State) (command : String) (io : RequestIo V)
    (arguments : QVariantMap V) : State × Option (Response V) :=
  let uploadId := arguments.string "uploadId" ""
  match s.upload uploadId with
  | none => response s command io false .none "Raster upload does not exist."
  | some upload =>
    -- The upload is forgotten before anything can fail, so that it is committed once at most.
    let s := s.erase uploadId
    if upload.receivedBytes ≠ upload.expectedBytes then
      response (s.removeFile upload.partialPath) command io false .none
        "Raster upload is incomplete."
    else
      let finalPath := finalPathOf upload.partialPath
      match (if io.rename then s.files.rename upload.partialPath finalPath else none) with
      | none =>
        response (s.removeFile upload.partialPath) command io false .none
          "Could not finalize the uploaded raster spool."
      | some files =>
        let s := { s with files }
        match uploadedSpool sha256 io.checksum s.files finalPath upload.expectedSpool with
        | .error message => response (s.removeFile finalPath) command io false .none message
        | .ok uploaded =>
          let s := { s with printInProgress := true }
          let s := s.call command (.submitSpooledJob uploaded upload.settings)
          ({ s with
              prints := .upload finalPath :: s.prints
              log := s.log ++ [LogEntry.submitted uploadId uploaded upload.settings] }, none)

/-- The `submitJob` command. The print is left executing. -/
def submitJob (s : State) (command : String) (io : RequestIo V) (arguments : QVariantMap V)
    (payload : Bytes) : State × Option (Response V) :=
  match deserializeRaster (arguments.map "raster") payload with
  | .accepted raster =>
    let s := s.call command
      (.submitPreparedJob raster (settingsFromMap (arguments.map "settings")))
    ({ s with prints := .job :: s.prints }, none)
  | .rejected message => response s command io false .none message
  | .outOfBounds _ => ({ s with crashed := true }, none)

/-- `handleRequest`. It ends with a response, or inside a print. -/
def handleRequest (sha256 : Sha256) (s : State) (request : QVariantMap V) (io : RequestIo V) :
    State × Option (Response V) :=
  let command := trimmed (request.string "command" "")
  let arguments := request.map "arguments"
  if command = "ping" then
    response s command io true (.text "PrintFlowPrinterService") ""
  -- While a job prints, every command but an abort is refused.
  else if s.printInProgress ∧ command ≠ "abortPrint" then
    response s command io false .none "A print job is already in progress."
  else if command = "configure" then configure s command io arguments
  else if command = "refreshPrinters" then
    response (s.call command .refreshPrinters) command io io.refreshed (.printers io.printers)
      io.lastError
  else if command = "choosePrinter" then
    response (s.call command (.choosePrinter (arguments.int "index" (-1)))) command io io.chosen
      .none io.lastError
  else if command = "connectPrinter" then
    response (s.call command .connectPrinter) command io io.connected .none io.lastError
  else if command = "reconnectPrinter" then reconnectPrinter s command io arguments
  else if command = "statusText" then
    response (s.call command .statusText) command io true (.text io.statusText) ""
  else if command = "getPrinterStatus" then
    response (s.call command .getPrinterStatus) command io (io.printerStatus.bool "ok" false)
      (.map io.printerStatus) io.lastError
  else if command = "getPrinterInfo" then
    response (s.call command .getPrinterInfo) command io (io.printerInfo.bool "ok" false)
      (.map io.printerInfo) io.lastError
  else if command = "abortPrint" then
    response (s.call command .abortPrint) command io io.aborted .none io.lastError
  else if command = "pausePrint" then
    response (s.call command .pausePrint) command io io.paused .none io.lastError
  else if command = "continuePrint" then
    response (s.call command .continuePrint) command io io.continued .none io.lastError
  else if command = "maintenance" then
    response (s.call command (.executeMaintenanceActionNow (arguments.string "action" "")))
      command io (io.completion.bool "ok" false) (.variant (io.completion "result"))
      (io.completion.string "error" "")
  else if command = "beginRasterUpload" then beginRasterUpload s command io arguments
  else if command = "appendRasterChunk" then
    appendRasterChunk s command io arguments (request.byteArray "payload")
  else if command = "cancelRasterUpload" then cancelRasterUpload s command io arguments
  else if command = "commitRasterUpload" then commitRasterUpload sha256 s command io arguments
  else if command = "submitJob" then
    submitJob s command io arguments (request.byteArray "payload")
  else if command = "shutdown" then response s command io true .none ""
  else response s command io false .none ("Unknown printer-service command: " ++ command)

/-! ## Steps -/

/-- `removeExpiredUploads`. -/
def removeExpiredUploads (s : State) (nowMs : Int) : State :=
  let cutoff := nowMs - uploadExpiryMs
  let expired := s.uploads.filter fun entry ↦ entry.2.lastActivityMs ≤ cutoff
  { s with
    files := expired.foldl (fun files entry ↦ files.remove entry.2.partialPath) s.files
    uploads := s.uploads.filter fun entry ↦ ¬ entry.2.lastActivityMs ≤ cutoff }

/-- The rest of a handler when its print returns. `commitRasterUpload` builds its response before
its guard clears the flag. -/
def finishPrint (s : State) (io : RequestIo V) (printing : Printing) (ok : Bool) :
    State × Option (Response V) :=
  match printing with
  | .job => response s "submitJob" io ok .none io.lastError
  | .upload finalPath =>
    let (s, reply) :=
      response (s.removeFile finalPath) "commitRasterUpload" io ok .none io.lastError
    ({ s with printInProgress := false }, reply)

/-- What can happen to the service: a request or a frame that does not decode is delivered, the
clean-up timer fires, or the innermost print returns. -/
inductive Action (V : Type) where
  | request (request : QVariantMap V) (io : RequestIo V)
  | invalidFrame (io : RequestIo V)
  | expire (nowMs : Int)
  | printReturns (io : RequestIo V) (ok : Bool)

/-- One step. -/
def step (sha256 : Sha256) (s : State) (action : Action V) : State :=
  if s.crashed then s
  else
    match action with
    | .request request io => (handleRequest sha256 s request io).1
    | .invalidFrame io => (response s "" io false .none "").1
    | .expire nowMs => removeExpiredUploads s nowMs
    | .printReturns io ok =>
      match s.prints with
      | [] => s
      | printing :: prints => (finishPrint { s with prints } io printing ok).1

/-- The states a service that starts with these files reaches. -/
def run (sha256 : Sha256) (files : Store String) (actions : List (Action V)) : State :=
  Runs.run (step sha256) { files } actions

end PrintFlow.PrinterServiceServer
