import PrintFlow.Vendor.Nocai.SdkLibrary

/-!
# Submitting a job

A spooled job is verified and then printed, in this process or by a worker process of its own. A
request to cancel it reaches a print in this process through `m_cancelRequested`, and a worker
through a marker file, whose path is registered while the job is submitted. The job, the worker and
every request are programs; what they share is a state, and `Shared.step` says how their events move
it, in whatever order they happen.
-/

namespace PrintFlow.NocaiDirectPrintClient

open FileStore Interaction RasterSpool

/-- The descriptor of a spooled job for a worker. -/
structure Descriptor where
  sdkRoot : String
  spoolPath : String
  cancelPath : String
  settings : DirectPrintSettings
  deriving DecidableEq

/-- What submitting a job asks of the vendor library, the process and the operating system. A call
of the vendor library carries the `m_workerCancelFilePath` of the client that makes it. -/
inductive SubmitCall where
  | sdk (workerCancelFilePath : String) (call : SdkCall)
  | library (call : LibraryCall)
  | resetCancelRequested
  | loadCancelRequested
  | verifySpool (spool : DirectPrintSpool)
  | openSpool (path : String)
  | reportProgress (completed total : Int64)
  | resolveSdkRoot
  | createTemporaryDir
  | registerCancelFile (path : String)
  | clearCancelFile
  | removeFile (path : String)
  | openDescriptor (path : String)
  | writeDescriptor (descriptor : Descriptor)
  | writeJob (job : Bytes)
  | startWorker (descriptorPath : String)
  | waitForWorker
  | readDescriptor (path : String)
  | readMetadata (path : String)
  | exitWorker (code : Int32)

/-- The answers. A worker ends with an exit code, or without one when it crashes. -/
@[reducible] def SubmitCall.Answer : SubmitCall → Type
  | sdk _ call => call.Answer
  | library call => call.Answer
  | resetCancelRequested => Unit
  | loadCancelRequested => Bool
  | verifySpool _ => Option String
  | openSpool _ => Except String (Reader × Store String)
  | reportProgress _ _ => Unit
  | resolveSdkRoot => String
  | createTemporaryDir => Option String
  | registerCancelFile _ => Unit
  | clearCancelFile => Unit
  | removeFile _ => Bool
  | openDescriptor _ => Option String
  | writeDescriptor _ => Bool
  | writeJob _ => Bool
  | startWorker _ => Option String
  | waitForWorker => Option Int32
  | readDescriptor _ => Option Descriptor
  | readMetadata _ => Except String DirectPrintSpool
  | exitWorker _ => Unit

/-- A program that submits or prints a job. -/
abbrev SubmitProgram (α : Type) := Program SubmitCall SubmitCall.Answer α

/-- An event of such a program. -/
abbrev SubmitEvent := Event SubmitCall SubmitCall.Answer

/-- Make one call. -/
abbrev SubmitCall.ask (call : SubmitCall) : SubmitProgram call.Answer := Program.call call

/-- A program of a client, as part of a submission. -/
def onSdk {α : Type} (workerCancelFilePath : String) (p : SdkProgram α) : SubmitProgram α :=
  p.within (.sdk workerCancelFilePath) fun _ ↦ rfl

/-- A program that concerns the library, as part of a submission. -/
def onLibrary {α : Type} (p : LibraryProgram α) : SubmitProgram α :=
  p.within .library fun _ ↦ rfl

/-! ## Printing a spool -/

/-- The raster `printSpooledJob` prints, with empty planes in place of the spooled ones. -/
def spoolRaster (spool : DirectPrintSpool) : DirectPrintRaster where
  packedLines := some (List.replicate spool.logicalChannelCount.toInt.toNat [])
  channelOrder := spool.channelOrder
  width := spool.width
  height := spool.height
  xdpi := spool.xdpi
  ydpi := spool.ydpi
  bytesPerLine := spool.bytesPerLine
  format := spool.format
  canonicalHeader := spool.canonicalHeader

/-- `printSpooledJob`. -/
def printSpooledJob (sdk : Sdk) (workerCancelFilePath : String) (client : Client)
    (spool : DirectPrintSpool) (settings : DirectPrintSettings) :
    SubmitProgram (Client × Option Bool) := do
  match ← (SubmitCall.openSpool spool.path).ask with
  | .error message => return (client.setError message, some false)
  | .ok (reader, files) =>
    onSdk workerCancelFilePath
      (printPackedJob sdk client (spoolRaster spool) settings (some (reader, files)))

/-- The branch of `runSerializedPrintWorker` for spooled jobs; a descriptor that cannot be read is
`none`. The result is `none` when the code reads out of bounds. -/
def runSpoolWorker (sdk : Sdk) (jobPath : String) : SubmitProgram (Option Int32) := do
  match ← (SubmitCall.readDescriptor jobPath).ask with
  | none => exit 2
  | some descriptor =>
    if descriptor.spoolPath.isEmpty then exit 2
    else
      match ← (SubmitCall.readMetadata descriptor.spoolPath).ask with
      | .error _ => exit 2
      | .ok spool =>
        match ← (SubmitCall.verifySpool spool).ask with
        | some _ => exit 2
        | none =>
          let (client, found) ← onSdk descriptor.cancelPath (refreshPrinters sdk {})
          if !found then exit 3
          else
            let (_, printed) ←
              printSpooledJob sdk descriptor.cancelPath client spool descriptor.settings
            match printed with
            | some true => exit 0
            | some false => exit 4
            | none => return none
where
  /-- The end of the process. -/
  exit (code : Int32) : SubmitProgram (Option Int32) := do
    (SubmitCall.exitWorker code).ask
    return some code

/-! ## Submitting a spool -/

/-- `setError` on the client of a session. -/
def SdkSession.setError (session : SdkSession) (message : String) : SdkSession :=
  { session with client := session.client.setError message }

/-- What `submitSpooledJobIsolated` does while its cancel file is registered. -/
def printInWorker (arm : Bool) (session : SdkSession) (descriptorPath : String)
    (descriptor : Descriptor) : SubmitProgram (SdkSession × Bool) := do
  match ← (SubmitCall.openDescriptor descriptorPath).ask with
  | some message =>
    return (session.setError ("Could not create isolated spool descriptor: " ++ message), false)
  | none =>
    if !(← (SubmitCall.writeDescriptor descriptor).ask) then
      return (session.setError "Could not serialize the isolated spool descriptor.", false)
    else
      let (session, unloaded) ← onLibrary (unloadSdkSession arm session)
      if !unloaded then return (session, false)
      else
        match ← (SubmitCall.startWorker descriptorPath).ask with
        | some message =>
          return (session.setError ("Could not start isolated direct-print worker: " ++ message), false)
        | none =>
          let exitCode ← SubmitCall.waitForWorker.ask
          if exitCode = some 0 then return (session, true)
          else
            -- Whatever the worker did, the client must connect again.
            let session := { session with client := { session.client with connected := false } }
            if ← SubmitCall.loadCancelRequested.ask then
              return (session.setError "Direct print was canceled.", false)
            else
              match exitCode with
              | none =>
                return (session.setError ("The vendor print SDK crashed in the isolated worker; " ++
                  "PrintFlow remained open."), false)
              | some code =>
                return (session.setError ("The isolated direct-print worker failed with exit code " ++
                  toString code.toInt ++ "."), false)

/-- `submitSpooledJobIsolated`. -/
def submitSpooledJobIsolated (arm : Bool) (session : SdkSession) (spool : DirectPrintSpool)
    (settings : DirectPrintSettings) : SubmitProgram (SdkSession × Bool) := do
  let sdkRoot ← SubmitCall.resolveSdkRoot.ask
  if sdkRoot.isEmpty then
    return (session.setError "No architecture-compatible direct print SDK folder was found.", false)
  else
    match ← SubmitCall.createTemporaryDir.ask with
    | none =>
      return (session.setError "Could not create the isolated direct-print job folder.", false)
    | some temporaryDir =>
      let cancelPath := temporaryDir ++ "/cancel.request"
      (SubmitCall.registerCancelFile cancelPath).ask
      let (session, printed) ← printInWorker arm session (temporaryDir ++ "/job.pfsw")
        { sdkRoot, spoolPath := spool.path, cancelPath, settings }
      let _ ← (SubmitCall.removeFile cancelPath).ask
      SubmitCall.clearCancelFile.ask
      return (session, printed)

/-- `printSpooledJob` on a session of this process. -/
def printInProcess (sdk : Sdk) (session : SdkSession) (spool : DirectPrintSpool)
    (settings : DirectPrintSettings) : SubmitProgram (SdkSession × Option Bool) := do
  let (client, printed) ← printSpooledJob sdk "" session.client spool settings
  return ({ session with client }, printed)

/-- The number of plane-lines `submitSpooledJob` reports. -/
def totalLines (spool : DirectPrintSpool) : Int64 :=
  spool.height.toInt64 * Int64.ofNat spool.channelOrder.length

/-- `submitSpooledJob`, by a worker or in this process, with a progress callback or without one. The
result is `none` when the code reads out of bounds. -/
def submitSpooledJob (isolated progress : Bool) (sdk : Sdk) (session : SdkSession)
    (spool : DirectPrintSpool) (settings : DirectPrintSettings) :
    SubmitProgram (SdkSession × Option Bool) := do
  SubmitCall.resetCancelRequested.ask
  match ← (SubmitCall.verifySpool spool).ask with
  | some message => return (session.setError message, some false)
  | none =>
    if progress then (SubmitCall.reportProgress 0 (totalLines spool)).ask
    let (session, printed) ← print
    if printed = some true && progress then
      (SubmitCall.reportProgress (totalLines spool) (totalLines spool)).ask
    return (session, printed)
where
  /-- The job on the path it takes. -/
  print : SubmitProgram (SdkSession × Option Bool) :=
    if isolated then do
      let (session, printed) ← submitSpooledJobIsolated sdk.arm session spool settings
      return (session, some printed)
    else printInProcess sdk session spool settings

/-- `submitPreparedJob` where it prints in this process. -/
def submitPreparedJob (sdk : Sdk) (session : SdkSession) (raster : DirectPrintRaster)
    (settings : DirectPrintSettings) : SubmitProgram (SdkSession × Option Bool) := do
  let (client, printed) ← onSdk "" (printPackedJob sdk session.client raster settings none)
  return ({ session with client }, printed)

/-! ## Requests to cancel -/

/-- What a request to cancel does. -/
inductive CancelCall where
  | storeCancelRequested
  | loadCancelFile
  | createFile (path : String)
  | abortPrint
  deriving DecidableEq

/-- The answers. `abortPrint` is the rest of the operation once it has the client's mutex. -/
@[reducible] def CancelCall.Answer : CancelCall → Type
  | storeCancelRequested => Unit
  | loadCancelFile => String
  | createFile _ => Bool
  | abortPrint => Bool

/-- A request to cancel. -/
abbrev CancelProgram (α : Type) := Program CancelCall CancelCall.Answer α

/-- An event of a request. -/
abbrev CancelEvent := Event CancelCall CancelCall.Answer

/-- `cancelCurrentOutput`. -/
def cancelCurrentOutput : CancelProgram Unit := do
  Program.call CancelCall.storeCancelRequested
  let cancelFile ← Program.call CancelCall.loadCancelFile
  if !cancelFile.isEmpty then
    let _ ← Program.call (CancelCall.createFile cancelFile)

/-- `abortPrint`. -/
def abortPrint : CancelProgram Bool := do
  Program.call CancelCall.storeCancelRequested
  let cancelFile ← Program.call CancelCall.loadCancelFile
  if !cancelFile.isEmpty then Program.call (CancelCall.createFile cancelFile)
  else Program.call CancelCall.abortPrint

/-! ## What the threads share -/

/-- The state the job, its worker and the requests share: `m_cancelRequested`,
`m_isolatedCancelFilePath`, the marker files that exist, the descriptor that was written, whether a
worker was started, and how it ended. -/
structure Shared where
  cancelRequested : Bool := false
  isolatedCancelFile : String := ""
  files : List String := []
  descriptor : Option Descriptor := none
  workerStarted : Bool := false
  workerExit : Option (Option Int32) := none
  deriving DecidableEq

/-- An event of one of the threads. -/
inductive ThreadEvent where
  | job (event : SubmitEvent)
  | worker (event : SubmitEvent)
  | cancel (request : Nat) (event : CancelEvent)

namespace Shared

/-- The condition of the poll in `printPackedJob`. -/
def canceled (shared : Shared) (cancelRequested : Bool) (workerCancelFilePath : String) : Bool :=
  cancelRequested || (workerCancelFilePath != "" && shared.files.contains workerCancelFilePath)

/-- An event of the job; `none` when it cannot happen in this state. -/
def jobStep (shared : Shared) : SubmitEvent → Option Shared
  | ⟨.sdk workerCancelFilePath .cancelRequested, answer⟩ =>
    if answer = shared.canceled shared.cancelRequested workerCancelFilePath then some shared
    else none
  | ⟨.resetCancelRequested, _⟩ => some { shared with cancelRequested := false }
  | ⟨.loadCancelRequested, answer⟩ =>
    if answer = shared.cancelRequested then some shared else none
  | ⟨.registerCancelFile path, _⟩ => some { shared with isolatedCancelFile := path }
  | ⟨.clearCancelFile, _⟩ => some { shared with isolatedCancelFile := "" }
  | ⟨.removeFile path, removed⟩ =>
    some (if removed then { shared with files := shared.files.filter (· != path) } else shared)
  | ⟨.writeDescriptor descriptor, written⟩ =>
    some (if written then { shared with descriptor := some descriptor } else shared)
  | ⟨.startWorker _, none⟩ => some { shared with workerStarted := true }
  | ⟨.waitForWorker, exitCode⟩ =>
    match shared.workerExit with
    | some ended => if exitCode = ended then some shared else none
    | none => if exitCode = none then some { shared with workerExit := some none } else none
  | _ => some shared

/-- An event of the worker, which runs from its start to its end. The worker has an
`m_cancelRequested` of its own, which nobody sets. -/
def workerStep (shared : Shared) (event : SubmitEvent) : Option Shared :=
  if !shared.workerStarted || shared.workerExit.isSome then none
  else
    match event with
    | ⟨.sdk workerCancelFilePath .cancelRequested, answer⟩ =>
      if answer = shared.canceled false workerCancelFilePath then some shared else none
    | ⟨.readDescriptor _, some descriptor⟩ =>
      if shared.descriptor = some descriptor then some shared else none
    | ⟨.exitWorker code, _⟩ => some { shared with workerExit := some (some code) }
    | _ => some shared

/-- An event of a request. -/
def cancelStep (shared : Shared) : CancelEvent → Option Shared
  | ⟨.storeCancelRequested, _⟩ => some { shared with cancelRequested := true }
  | ⟨.loadCancelFile, answer⟩ => if answer = shared.isolatedCancelFile then some shared else none
  | ⟨.createFile path, created⟩ =>
    some (if created then { shared with files := path :: shared.files } else shared)
  | ⟨.abortPrint, _⟩ => some shared

/-- An event of any thread. -/
def step (shared : Shared) : ThreadEvent → Option Shared
  | .job event => shared.jobStep event
  | .worker event => shared.workerStep event
  | .cancel _ event => shared.cancelStep event

/-- Events in the order they happen. -/
def replay (shared : Shared) (events : List ThreadEvent) : Option Shared :=
  events.foldlM step shared

end Shared

/-- The events of the job. -/
def jobEvents (events : List ThreadEvent) : List SubmitEvent :=
  events.filterMap fun
    | .job event => some event
    | _ => none

/-- The events of the worker. -/
def workerEvents (events : List ThreadEvent) : List SubmitEvent :=
  events.filterMap fun
    | .worker event => some event
    | _ => none

/-- The events of one request. -/
def cancelEvents (request : Nat) (events : List ThreadEvent) : List CancelEvent :=
  events.filterMap fun
    | .cancel other event => if other = request then some event else none
    | _ => none

end PrintFlow.NocaiDirectPrintClient
