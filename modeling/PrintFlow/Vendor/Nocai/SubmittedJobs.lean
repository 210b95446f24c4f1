import PrintFlow.Vendor.Nocai.SdkHistory
import PrintFlow.Vendor.Nocai.Submission
import PrintFlow.Vendor.Nocai.WorkerJob

/-!
# What a job does to its session

A job prints in this process, with the session as it is. Or it is handed to a worker process, which
has a session of its own: the session here is let go before, and a job of packed lines travels in a
file, as a spooled one does. `HandsOver` says what is left of the session in the second case, and
`PrintsHere` in the first.
-/

namespace PrintFlow.NocaiDirectPrintClient

open DataStream FloatFormat Interaction RasterSpool

/-- What `submitPreparedJobIsolated` does once the job file is written. -/
def printPackedInWorker (arm : Bool) (session : SdkSession) (jobPath : String) :
    SubmitProgram (SdkSession × Bool) := do
  let (session, unloaded) ← onLibrary (unloadSdkSession arm session)
  if !unloaded then return (session, false)
  else
    match ← (SubmitCall.startWorker jobPath).ask with
    | some message =>
      return (session.setError ("Could not start isolated direct-print worker: " ++ message), false)
    | none =>
      let exitCode ← SubmitCall.waitForWorker.ask
      if exitCode = some 0 then return (session, true)
      else
        let session := { session with client := { session.client with connected := false } }
        match exitCode with
        | none =>
          return (session.setError ("The vendor print SDK crashed in the isolated worker; " ++
            "PrintFlow remained open."), false)
        | some code =>
          return (session.setError ("The isolated direct-print worker failed with exit code " ++
            toString code.toInt ++ "."), false)

/-- `submitPreparedJobIsolated`. Such a job registers no cancel file. -/
def submitPreparedJobIsolated (doubles : Codec Double) (strings : Codec String) (arm : Bool)
    (session : SdkSession) (raster : DirectPrintRaster) (settings : DirectPrintSettings) :
    SubmitProgram (SdkSession × Bool) := do
  if raster.packedLines.getD [] = [] ∨ raster.channelOrder = [] ∨ raster.height ≤ 0 then
    return (session.setError "Direct print raster is empty.", false)
  else
    let sdkRoot ← SubmitCall.resolveSdkRoot.ask
    if sdkRoot.isEmpty then
      return (session.setError "No architecture-compatible direct print SDK folder was found.",
        false)
    else
      match ← SubmitCall.createTemporaryDir.ask with
      | none =>
        return (session.setError "Could not create the isolated direct-print job folder.", false)
      | some temporaryDir =>
        let jobPath := temporaryDir ++ "/job.pfnw"
        match ← (SubmitCall.openDescriptor jobPath).ask with
        | some message =>
          return (session.setError ("Could not create isolated direct-print job: " ++ message),
            false)
        | none =>
          match serializedJob doubles strings sdkRoot raster settings with
          | .error message => return (session.setError message, false)
          | .ok job =>
            if !(← (SubmitCall.writeJob job).ask) then
              return (session.setError "Could not serialize the isolated direct-print job.", false)
            else printPackedInWorker arm session jobPath

/-! ## A session that is handed over -/

/-- A step of a session whose job is handed to a worker, with its history: an error is set, the
session is let go, or the worker fails. -/
inductive Handed (arm : Bool) : SdkSession → List HistoryEvent → SdkSession → Prop where
  | failed {session} (message : String) : Handed arm session [] (session.setError message)
  | released {session trace after unloaded} :
      Runs (unloadSdkSession arm session) trace (after, unloaded) →
      Handed arm session (.reset :: trace.map .library) after
  | workerFailed {session} :
      Handed arm session [] { session with client := { session.client with connected := false } }

/-- Any number of such steps. -/
inductive HandedOver (arm : Bool) : SdkSession → List HistoryEvent → SdkSession → Prop where
  | refl (session) : HandedOver arm session [] session
  | step {session history between more after} : Handed arm session history between →
      HandedOver arm between more after → HandedOver arm session (history ++ more) after

theorem Handed.over {arm : Bool} {session after : SdkSession} {history : List HistoryEvent}
    (h : Handed arm session history after) : HandedOver arm session history after :=
  List.append_nil history ▸ .step h (.refl after)

theorem HandedOver.trans {arm : Bool} {session between after : SdkSession}
    {history more : List HistoryEvent} (first : HandedOver arm session history between)
    (second : HandedOver arm between more after) :
    HandedOver arm session (history ++ more) after := by
  induction first with
  | refl => exact second
  | step hstep _ ih =>
      rw [List.append_assoc]
      exact .step hstep (ih second)

/-- The calls of a history that concern the library. -/
def libraryHistory (history : List HistoryEvent) : List LibraryEvent :=
  history.filterMap fun
    | .library event => some event
    | _ => none

/-- The calls of a submission that concern the library. -/
def libraryCalls (trace : List SubmitEvent) : List LibraryEvent :=
  trace.filterMap fun
    | ⟨.library call, answer⟩ => some ⟨call, answer⟩
    | _ => none

theorem library_calls_append (first second : List SubmitEvent) :
    libraryCalls (first ++ second) = libraryCalls first ++ libraryCalls second :=
  List.filterMap_append

theorem library_history_of_library (events : List LibraryEvent) :
    libraryHistory (events.map .library) = events := by
  rw [libraryHistory, List.filterMap_map]
  exact List.filterMap_some

theorem library_calls_within (events : List LibraryEvent) :
    libraryCalls (events.map (Event.within .library fun _ ↦ rfl)) = events := by
  rw [libraryCalls, List.filterMap_map]
  exact List.filterMap_some

/-- From this session a job hands over, by the library calls that it makes. -/
def HandsOver {α : Type} (arm : Bool) (session : SdkSession)
    (p : SubmitProgram (SdkSession × α)) : Prop :=
  Meets p fun trace result ↦ ∃ history, HandedOver arm session history result.1 ∧
    libraryHistory history = libraryCalls trace

namespace HandsOver

variable {α β : Type} {arm : Bool} {session : SdkSession}

/-- A job that ends after one step, or without one. -/
theorem last {after : SdkSession} {value : α} (h : HandedOver arm session [] after) :
    HandsOver arm session (pure (after, value) : SubmitProgram (SdkSession × α)) :=
  Meets.pure ⟨[], h, rfl⟩

theorem failed (message : String) (value : α) :
    HandsOver arm session
      (pure (session.setError message, value) : SubmitProgram (SdkSession × α)) :=
  last (Handed.failed message).over

/-- A call that is none of the library's. -/
protected theorem ask {call : SubmitCall} {f : call.Answer → SubmitProgram (SdkSession × α)}
    (hcall : ∀ answer, libraryCalls [⟨call, answer⟩] = [])
    (hf : ∀ answer, HandsOver arm session (f answer)) : HandsOver arm session (call.ask >>= f) := by
  refine .call_bind fun answer ↦ Meets.mono (hf answer) fun trace result hend ↦ ?_
  obtain ⟨history, hover, hlibrary⟩ := hend
  refine ⟨history, hover, hlibrary.trans ?_⟩
  show _ = libraryCalls ([⟨call, answer⟩] ++ trace)
  rw [library_calls_append, hcall, List.nil_append]

protected theorem ite {c : Prop} [Decidable c] {p q : SubmitProgram (SdkSession × α)}
    (hp : HandsOver arm session p) (hq : HandsOver arm session q) :
    HandsOver arm session (if c then p else q) :=
  Meets.ite (fun _ ↦ hp) fun _ ↦ hq

/-- One part of a job after another. -/
protected theorem bind {p : SubmitProgram (SdkSession × α)}
    {f : SdkSession × α → SubmitProgram (SdkSession × β)} (hp : HandsOver arm session p)
    (hf : ∀ after value, HandsOver arm after (f (after, value))) :
    HandsOver arm session (p >>= f) := by
  refine Meets.bind hp ?_
  rintro before ⟨after, value⟩ ⟨history, hover, hlibrary⟩
  refine Meets.mono (hf after value) fun trace result ⟨more, hmore, hcalls⟩ ↦ ?_
  refine ⟨history ++ more, hover.trans hmore, ?_⟩
  rw [library_calls_append, ← hlibrary, ← hcalls]
  exact List.filterMap_append

/-- Letting the session go. -/
theorem unload : HandsOver arm session (onLibrary (unloadSdkSession arm session)) := by
  rintro trace ⟨after, unloaded⟩ hruns
  obtain ⟨inner, rfl, hinner⟩ := (runs_within SubmitCall.library fun _ ↦ rfl).mp hruns
  exact ⟨_, (Handed.released hinner).over,
    (library_history_of_library inner).trans (library_calls_within inner).symm⟩

end HandsOver

section HandedOver

variable (doubles : Codec Double) (strings : Codec String) (arm : Bool) (session : SdkSession)
  (settings : DirectPrintSettings)

theorem print_in_worker_hands_over (descriptorPath : String) (descriptor : Descriptor) :
    HandsOver arm session (printInWorker arm session descriptorPath descriptor) := by
  refine .ask (fun _ ↦ rfl) fun opened ↦ ?_
  cases opened with
  | some message => exact .failed _ _
  | none =>
      refine .ask (fun _ ↦ rfl) fun written ↦ .ite (.failed _ _) ?_
      refine .bind .unload fun released unloaded ↦ .ite (.last (.refl released)) ?_
      refine .ask (fun _ ↦ rfl) fun started ↦ ?_
      cases started with
      | some message => exact .failed _ _
      | none =>
          refine .ask (fun _ ↦ rfl) fun exitCode ↦ .ite (.last (.refl released)) ?_
          refine .ask (fun _ ↦ rfl) fun canceled ↦ .ite ?_ ?_
          · exact .last (.step .workerFailed (Handed.failed _).over)
          · cases exitCode with
            | none => exact .last (.step .workerFailed (Handed.failed _).over)
            | some code => exact .last (.step .workerFailed (Handed.failed _).over)

/-- A spooled job of a worker sets errors, lets the session go and disconnects it, and does nothing
else to it. -/
theorem submit_spooled_job_isolated_hands_over (spool : DirectPrintSpool) :
    HandsOver arm session (submitSpooledJobIsolated arm session spool settings) := by
  refine .ask (fun _ ↦ rfl) fun sdkRoot ↦ .ite (.failed _ _) (.ask (fun _ ↦ rfl) fun folder ↦ ?_)
  cases folder with
  | none => exact .failed _ _
  | some temporaryDir =>
      refine .ask (fun _ ↦ rfl) fun _ ↦ .bind (print_in_worker_hands_over arm session _ _) ?_
      refine fun after printed ↦ .ask (fun _ ↦ rfl) fun _ ↦ .ask (fun _ ↦ rfl) fun _ ↦ ?_
      exact .last (.refl after)

theorem print_packed_in_worker_hands_over (jobPath : String) :
    HandsOver arm session (printPackedInWorker arm session jobPath) := by
  refine .bind .unload fun released unloaded ↦ .ite (.last (.refl released)) ?_
  refine .ask (fun _ ↦ rfl) fun started ↦ ?_
  cases started with
  | some message => exact .failed _ _
  | none =>
      refine .ask (fun _ ↦ rfl) fun exitCode ↦ .ite (.last (.refl released)) ?_
      cases exitCode with
      | none => exact .last (.step .workerFailed (Handed.failed _).over)
      | some code => exact .last (.step .workerFailed (Handed.failed _).over)

/-- The same with the checks before it. -/
theorem submit_spooled_job_hands_over (progress : Bool) (sdk : Sdk) (spool : DirectPrintSpool) :
    HandsOver sdk.arm session (submitSpooledJob true progress sdk session spool settings) := by
  have hprint : HandsOver sdk.arm session
      (submitSpooledJob.print true sdk session spool settings) :=
    .bind (submit_spooled_job_isolated_hands_over sdk.arm session settings spool) fun after _ ↦
      .last (.refl after)
  have hreported (after : SdkSession) (printed : Option Bool) :
      HandsOver sdk.arm after (do
        if printed = some true && progress then
          (SubmitCall.reportProgress (totalLines spool) (totalLines spool)).ask
        return (after, printed)) :=
    .ite (.ask (fun _ ↦ rfl) fun _ ↦ .last (.refl after)) (.last (.refl after))
  refine .ask (fun _ ↦ rfl) fun _ ↦ .ask (fun _ ↦ rfl) fun failure ↦ ?_
  cases failure with
  | some message => exact .failed _ _
  | none =>
      exact .ite (.ask (fun _ ↦ rfl) fun _ ↦ .bind hprint hreported) (.bind hprint hreported)

/-- A job of packed lines does no more. -/
theorem submit_prepared_job_isolated_hands_over (raster : DirectPrintRaster) :
    HandsOver arm session
      (submitPreparedJobIsolated doubles strings arm session raster settings) := by
  refine .ite (.failed _ _) (.ask (fun _ ↦ rfl) fun sdkRoot ↦ .ite (.failed _ _) ?_)
  refine .ask (fun _ ↦ rfl) fun folder ↦ ?_
  cases folder with
  | none => exact .failed _ _
  | some temporaryDir =>
      refine .ask (fun _ ↦ rfl) fun opened ↦ ?_
      cases opened with
      | some message => exact .failed _ _
      | none =>
          dsimp only
          cases serializedJob doubles strings sdkRoot raster settings with
          | error message => exact .failed _ _
          | ok job =>
              refine .ask (fun _ ↦ rfl) fun written ↦ .ite (.failed _ _) ?_
              exact print_packed_in_worker_hands_over arm session _

end HandedOver

/-! ## A session that prints -/

/-- The calls of a submission that concern the printer. -/
def printerCalls (trace : List SubmitEvent) : List SdkEvent :=
  trace.filterMap fun
    | ⟨.sdk _ call, answer⟩ => some ⟨call, answer⟩
    | _ => none

theorem printer_calls_within (workerCancelFilePath : String) (events : List SdkEvent) :
    printerCalls (events.map (Event.within (.sdk workerCancelFilePath) fun _ ↦ rfl)) = events := by
  rw [printerCalls, List.filterMap_map]
  exact List.filterMap_some

theorem printer_calls_append (first second : List SubmitEvent) :
    printerCalls (first ++ second) = printerCalls first ++ printerCalls second :=
  List.filterMap_append

/-- With these calls of the printer, a job of this process sets an error before the first one, or it
is a `printPackedJob`. -/
def PrintsHere (sdk : Sdk) (session : SdkSession) (settings : DirectPrintSettings)
    (calls : List SdkEvent) (result : SdkSession × Option Bool) : Prop :=
  (calls = [] ∧ ∃ message, result.1 = session.setError message) ∨
  ∃ raster opened client, result.1 = { session with client } ∧
    Runs (printPackedJob sdk session.client raster settings opened) calls (client, result.2)

section PrintsHere

variable (sdk : Sdk) (session : SdkSession) (settings : DirectPrintSettings)

theorem print_in_process_prints_here (spool : DirectPrintSpool) :
    Meets (printInProcess sdk session spool settings) fun trace result ↦
      PrintsHere sdk session settings (printerCalls trace) result := by
  refine .bind (P := fun trace printed ↦ PrintsHere sdk session settings (printerCalls trace)
    ({ session with client := printed.1 }, printed.2)) ?_ ?_
  · refine .call_bind fun opening ↦ ?_
    cases opening with
    | error message => exact .pure (.inl ⟨rfl, message, rfl⟩)
    | ok opened =>
        rintro trace ⟨client, printed⟩ hruns
        obtain ⟨inner, rfl, hinner⟩ := (runs_within (SubmitCall.sdk "") fun _ ↦ rfl).mp hruns
        exact .inr ⟨spoolRaster spool, some opened, client, rfl,
          (printer_calls_within "" inner).symm ▸ hinner⟩
  · rintro before ⟨client, printed⟩ hprints
    exact .pure ((List.append_nil before).symm ▸ hprints)

/-- A spooled job of this process. -/
theorem submit_spooled_job_prints_here (progress : Bool) (spool : DirectPrintSpool) :
    Meets (submitSpooledJob false progress sdk session spool settings) fun trace result ↦
      PrintsHere sdk session settings (printerCalls trace) result := by
  -- What is reported before and after the print is none of the printer's calls.
  have hreported (before : List SubmitEvent) (result : SdkSession × Option Bool)
      (h : PrintsHere sdk session settings (printerCalls before) result) :
      Meets (do
        if result.2 = some true && progress then
          (SubmitCall.reportProgress (totalLines spool) (totalLines spool)).ask
        return result) fun after last ↦
          PrintsHere sdk session settings (printerCalls (before ++ after)) last := by
    refine .ite (fun _ ↦ .call_bind fun answer ↦ .pure ?_) fun _ ↦ .pure ?_
    · rw [printer_calls_append]
      exact (List.append_nil (printerCalls before)).symm ▸ h
    · exact (List.append_nil before).symm ▸ h
  have hprint := print_in_process_prints_here sdk session settings spool
  refine .call_bind fun _ ↦ .call_bind fun failure ↦ ?_
  cases failure with
  | some message => exact .pure (.inl ⟨rfl, message, rfl⟩)
  | none =>
      refine .ite (fun _ ↦ .call_bind fun _ ↦ ?_) fun _ ↦ ?_
      · exact .bind hprint fun before result h ↦ hreported before result h
      · exact .bind hprint fun before result h ↦ hreported before result h

/-- A job of packed lines. -/
theorem submit_prepared_job_prints_here (raster : DirectPrintRaster) :
    Meets (submitPreparedJob sdk session raster settings) fun trace result ↦
      PrintsHere sdk session settings (printerCalls trace) result := by
  refine .bind (P := fun trace printed ↦ PrintsHere sdk session settings (printerCalls trace)
    ({ session with client := printed.1 }, printed.2)) ?_ ?_
  · rintro trace ⟨client, printed⟩ hruns
    obtain ⟨inner, rfl, hinner⟩ := (runs_within (SubmitCall.sdk "") fun _ ↦ rfl).mp hruns
    exact .inr ⟨raster, none, client, rfl, (printer_calls_within "" inner).symm ▸ hinner⟩
  · rintro before ⟨client, printed⟩ hprints
    exact .pure ((List.append_nil before).symm ▸ hprints)

end PrintsHere

end PrintFlow.NocaiDirectPrintClient
