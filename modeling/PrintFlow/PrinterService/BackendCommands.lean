import PrintFlow.Vendor.Nocai.Maintenance
import PrintFlow.Vendor.Nocai.SubmittedJobs

/-!
# Commands and jobs of the backend

The server's commands call the methods of its backend, and every answer carries the state that the
backend reports. `Served` are the backends that commands and jobs lead to, one after the other; a
request that arrives while a worker prints finds one of them too, and a request that arrives while
the server's own process prints is not followed. `service_reports_connection` says that no answer
reports a connection that the history of the backend does not bear out;
`reconnect_printer_keeps_healthy_session` says what `reconnectPrinter` does.
-/

namespace PrintFlow.BackendCommands

open Interaction NocaiDirectPrintClient

/-! ## The methods of the backend -/

/-- The methods that call the vendor library. `abortPrint` carries what becomes of the marker file
of a worker, if there is one. -/
inductive Method where
  | isAvailable
  | getPrinterStatus
  | getPrinterInfo
  | refreshPrinters
  | choosePrinter (index : Int32)
  | connectPrinter
  | abortPrint (marker : Option Bool)
  | pausePrint
  | continuePrint
  | executeMaintenanceActionNow (action : String) (arguments : MaintenanceArguments)

def Method.program (sdk : Sdk) (client : Client) : Method → SdkProgram (Client × Bool)
  | .isAvailable => NocaiDirectPrintClient.isAvailable client
  | .getPrinterStatus => NocaiDirectPrintClient.getPrinterStatus sdk client
  | .getPrinterInfo => NocaiDirectPrintClient.getPrinterInfo sdk client
  | .refreshPrinters => NocaiDirectPrintClient.refreshPrinters sdk client
  | .choosePrinter index => NocaiDirectPrintClient.choosePrinter client index
  | .connectPrinter => NocaiDirectPrintClient.connectPrinter sdk client
  | .abortPrint marker => abortPrinting client marker
  | .pausePrint => NocaiDirectPrintClient.pausePrint client
  | .continuePrint => NocaiDirectPrintClient.continuePrint client
  | .executeMaintenanceActionNow action arguments =>
    executeMaintenanceAction sdk client (trimmed action) arguments

/-- A call of the backend: a method; `resetSdkSession`; the two settings; and what can be read. -/
inductive BackendCall where
  | method (method : Method)
  | resetSdkSession
  | setSdkRootPath (path : String)
  | setAutoDiscoverSdk (enabled : Bool)
  | isConnected
  | lastError
  | sdkRootPath
  | autoDiscoverSdk
  | printers

abbrev BackendCall.Answer : BackendCall → Type
  | .method _ => Bool
  | .resetSdkSession => Bool
  | .setSdkRootPath _ => Unit
  | .setAutoDiscoverSdk _ => Unit
  | .isConnected => Bool
  | .lastError => String
  | .sdkRootPath => String
  | .autoDiscoverSdk => Bool
  | .printers => List (Int32 × String)

abbrev BackendProgram (α : Type) := Program BackendCall BackendCall.Answer α

/-- Make one call. -/
abbrev BackendCall.ask (call : BackendCall) : BackendProgram call.Answer := Program.call call

/-- Call a method. -/
abbrev Method.ask (method : Method) : BackendProgram Bool := (BackendCall.method method).ask

abbrev BackendEvent := Event BackendCall BackendCall.Answer

/-! ## The commands of the server -/

/-- `serviceState`, without what is constant. -/
structure ServiceState where
  available : Bool
  connected : Bool
  lastError : String
  sdkRootPath : String
  autoDiscoverSdk : Bool
  printers : List (Int32 × String)

/-- `serviceState`: during a print the library is not asked for. -/
def serviceState (printInProgress : Bool) : BackendProgram ServiceState := do
  let available ← (if printInProgress then pure true else Method.isAvailable.ask)
  let connected ← BackendCall.isConnected.ask
  let lastError ← BackendCall.lastError.ask
  let sdkRootPath ← BackendCall.sdkRootPath.ask
  let autoDiscoverSdk ← BackendCall.autoDiscoverSdk.ask
  let printers ← BackendCall.printers.ask
  return { available, connected, lastError, sdkRootPath, autoDiscoverSdk, printers }

/-- The `result` of an answer; what a printer reports is left out. -/
inductive Result where
  | nothing
  | text (text : String)
  | printers (printers : List (Int32 × String))
  | report

structure Response where
  ok : Bool
  result : Result
  error : String
  state : ServiceState

def response (printInProgress ok : Bool) (result : Result) (errorMessage : String) :
    BackendProgram Response := do
  let state ← serviceState printInProgress
  return { ok, result, error := if ok then "" else errorMessage, state }

/-- An answer with the last error. -/
def respond (printInProgress ok : Bool) (result : Result) : BackendProgram Response := do
  let error ← BackendCall.lastError.ask
  response printInProgress ok result error

/-- A method, and the answer with its success. -/
def Method.answer (printInProgress : Bool) (method : Method) (result : Result) :
    BackendProgram Response := do
  let ok ← method.ask
  respond printInProgress ok result

/-- The printer to choose again: the one that was selected, or the only one. -/
def reconnectIndex (printers : List (Int32 × String)) (selectedIndex : Int32) :
    Except String Int32 :=
  if printers.any fun printer ↦ printer.1 = selectedIndex then .ok selectedIndex
  else match printers with
    | [] => .error "No printer was found during reconnect."
    | [only] => .ok only.1
    | _ => .error "Select a printer before reconnecting."

/-- The part of `reconnectPrinter` behind the search. -/
def chooseAndConnect (selectedIndex : Int32) : BackendProgram Response := do
  let printers ← BackendCall.printers.ask
  match reconnectIndex printers selectedIndex with
  | .error error => response false false .nothing error
  | .ok index =>
    if ← (Method.choosePrinter index).ask then Method.connectPrinter.answer false .nothing
    else respond false false .nothing

/-- The part that builds the session anew. -/
def rebuild (selectedIndex : Int32) : BackendProgram Response := do
  if ← BackendCall.resetSdkSession.ask then
    if ← Method.refreshPrinters.ask then chooseAndConnect selectedIndex
    else respond false false .nothing
  else respond false false .nothing

/-- The test for a session that works. -/
def isHealthy : BackendProgram Bool := do
  if ← BackendCall.isConnected.ask then Method.getPrinterStatus.ask else return false

/-- The command `reconnectPrinter`. -/
def reconnectPrinter (selectedIndex : Int32) : BackendProgram Response := do
  if ← isHealthy then response false true (.text "The existing printer session is healthy.") ""
  else rebuild selectedIndex

/-- The command `configure`. The language leaves open whether the error is read before the call of
`isAvailable`. -/
def configure (path : String) (enabled errorFirst : Bool) : BackendProgram Response := do
  BackendCall.setSdkRootPath path |>.ask
  BackendCall.setAutoDiscoverSdk enabled |>.ask
  let before ← BackendCall.lastError.ask
  let available ← Method.isAvailable.ask
  let after ← BackendCall.lastError.ask
  response false available .nothing (if errorFirst then before else after)

/-- The command `refreshPrinters`. -/
def refreshPrinters : BackendProgram Response := do
  let ok ← Method.refreshPrinters.ask
  let printers ← BackendCall.printers.ask
  respond false ok (.printers printers)

/-- The command `statusText`, for the SDK folder that the library was loaded from. -/
def statusText (resolvedSdkRoot : String) : BackendProgram Response := do
  let available ← Method.isAvailable.ask
  let error ← BackendCall.lastError.ask
  response false true
    (.text (if available then "Direct print SDK ready: " ++ resolvedSdkRoot else error)) ""

/-- A command. `detached` are those that do not call the backend, with what they answer, and
`submitted` the end of one that has submitted a job. -/
inductive Command where
  | ping
  | configure (path : String) (enabled errorFirst : Bool)
  | refreshPrinters
  | choosePrinter (index : Int32)
  | connectPrinter
  | reconnectPrinter (selectedIndex : Int32)
  | statusText (resolvedSdkRoot : String)
  | getPrinterStatus
  | getPrinterInfo
  | abortPrint (marker : Option Bool)
  | pausePrint
  | continuePrint
  | maintenance (action : String) (arguments : MaintenanceArguments)
  | detached (ok : Bool) (result : Result) (errorMessage : String)
  | submitted (ok : Bool)

/-- A command that is refused during a print. -/
def whenIdle (printInProgress : Bool) (serve : BackendProgram Response) : BackendProgram Response :=
  if printInProgress then response true false .nothing "A print job is already in progress."
  else serve

/-- `handleRequest`. A spooled job is still in progress when its own command is answered. -/
def Command.handle (printInProgress : Bool) : Command → BackendProgram Response
  | .ping => response printInProgress true (.text "PrintFlowPrinterService") ""
  | .configure path enabled errorFirst =>
    whenIdle printInProgress (BackendCommands.configure path enabled errorFirst)
  | .refreshPrinters => whenIdle printInProgress BackendCommands.refreshPrinters
  | .choosePrinter index =>
    whenIdle printInProgress ((Method.choosePrinter index).answer false .nothing)
  | .connectPrinter => whenIdle printInProgress (Method.connectPrinter.answer false .nothing)
  | .reconnectPrinter selectedIndex =>
    whenIdle printInProgress (BackendCommands.reconnectPrinter selectedIndex)
  | .statusText resolvedSdkRoot =>
    whenIdle printInProgress (BackendCommands.statusText resolvedSdkRoot)
  | .getPrinterStatus => whenIdle printInProgress (Method.getPrinterStatus.answer false .report)
  | .getPrinterInfo => whenIdle printInProgress (Method.getPrinterInfo.answer false .report)
  | .abortPrint marker => (Method.abortPrint marker).answer printInProgress .nothing
  | .pausePrint => whenIdle printInProgress (Method.pausePrint.answer false .nothing)
  | .continuePrint => whenIdle printInProgress (Method.continuePrint.answer false .nothing)
  | .maintenance action arguments =>
    whenIdle printInProgress
      ((Method.executeMaintenanceActionNow action arguments).answer false .report)
  | .detached ok result errorMessage =>
    whenIdle printInProgress (response false ok result errorMessage)
  | .submitted ok => respond printInProgress ok .nothing

/-! ## The backend -/

/-- The backend's session, and the history of its calls. -/
structure Backend where
  session : SdkSession
  history : List HistoryEvent

/-- The world of a method. -/
def Backend.world (backend : Backend) : SdkWorld := ⟨backend.session.library, backend.history, []⟩

/-- What the methods do to the backend. -/
inductive BackendStep (arm : Bool) (backend : Backend) : BackendEvent → Backend → Prop where
  | method {method sdk trace client ok world} : sdk.arm = arm →
      Runs (Method.program sdk backend.session.client method) trace (client, ok) →
      Along SdkStep backend.world trace world →
      BackendStep arm backend ⟨.method method, ok⟩
        ⟨{ backend.session with client, library := world.library }, world.history⟩
  | resetSdkSession {trace after released} :
      Runs (unloadSdkSession arm backend.session) trace (after, released) →
      BackendStep arm backend ⟨.resetSdkSession, released⟩
        ⟨after, backend.history ++ .reset :: trace.map .library⟩
  | setSdkRootPath {trace after changed} (path : String) :
      Runs (setSdkRootPath arm backend.session path) trace (after, changed) →
      BackendStep arm backend ⟨.setSdkRootPath path, ()⟩
        ⟨after, if changed then backend.history ++ .reset :: trace.map .library
          else backend.history⟩
  | setAutoDiscoverSdk {trace after changed} (enabled : Bool) :
      Runs (setAutoDiscoverSdk arm backend.session enabled) trace (after, changed) →
      BackendStep arm backend ⟨.setAutoDiscoverSdk enabled, ()⟩
        ⟨after, if changed then backend.history ++ .reset :: trace.map .library
          else backend.history⟩
  | isConnected :
      BackendStep arm backend ⟨.isConnected, backend.session.client.connected⟩ backend
  | lastError : BackendStep arm backend ⟨.lastError, backend.session.client.lastError⟩ backend
  | sdkRootPath : BackendStep arm backend ⟨.sdkRootPath, backend.session.sdkRootPath⟩ backend
  | autoDiscoverSdk :
      BackendStep arm backend ⟨.autoDiscoverSdk, backend.session.autoDiscoverSdk⟩ backend
  | printers : BackendStep arm backend ⟨.printers, backend.session.client.printers⟩ backend

/-- The backend of a server that has answered commands and printed jobs. A job of this process is
an operation on the session, unless it ends with an error before it calls the printer; one of a
worker hands the session over, step by step. -/
inductive Served (arm : Bool) : Backend → Prop where
  | start (sdkRootPath : String) (autoDiscoverSdk : Bool) :
      Served arm ⟨{ sdkRootPath, autoDiscoverSdk }, []⟩
  | command {backend trace response next} (printInProgress : Bool) (command : Command) :
      Served arm backend → Runs (command.handle printInProgress) trace response →
      Along (BackendStep arm) backend trace next → Served arm next
  | operation {backend session history} : Served arm backend →
      SessionStep arm backend.session backend.history session history →
      Served arm ⟨session, history⟩
  | handed {backend : Backend} {history session} : Served arm backend →
      Handed arm backend.session history session →
      Served arm ⟨session, backend.history ++ history⟩

/-- The backend claims no more than what its history leaves standing. -/
def Borne (arm : Bool) (backend : Backend) : Prop :=
  Tracked arm backend.session.client backend.world

/-- Only calls that keep the connection were added. -/
def Quiet (arm : Bool) (before after : List HistoryEvent) : Prop :=
  ∃ more, after = before ++ more ∧ ∀ event ∈ more, event.KeepsConnection arm

theorem Quiet.refl (arm : Bool) (history : List HistoryEvent) : Quiet arm history history :=
  ⟨[], (List.append_nil _).symm, fun _ hevent ↦ (List.not_mem_nil hevent).elim⟩

theorem Quiet.trans {arm : Bool} {before between after : List HistoryEvent}
    (first : Quiet arm before between) (second : Quiet arm between after) :
    Quiet arm before after := by
  obtain ⟨more, rfl, hmore⟩ := first
  obtain ⟨rest, rfl, hrest⟩ := second
  refine ⟨more ++ rest, List.append_assoc .., fun event hevent ↦ ?_⟩
  exact (List.mem_append.mp hevent).elim (hmore event) (hrest event)

/-- Any call may be made. -/
def Anytime {σ Call : Type} (_ : σ) (_ : Call) : Prop := True

section Methods

variable {arm : Bool} {client : Client} {world next : SdkWorld}

/-- A library that is resolved is not loaded again. -/
theorem ensure_loaded_resolved (h : Tracked arm client world)
    (hresolved : world.library.symbolsResolved = true) {answer : Option String}
    (hstep : SdkStep world ⟨.ensureLoaded, answer⟩ next) :
    next.library = world.library ∧ next.history = world.history := by
  obtain ⟨lastError, loading, library, hruns, rfl⟩ := hstep
  obtain ⟨_, _, hkept⟩ := ensure_loaded_meets h.sound lastError _ _ hruns
  obtain ⟨rfl, hlibrary⟩ := hkept hresolved
  exact ⟨hlibrary, List.append_nil _⟩

/-- Loading succeeds exactly when the library is resolved afterwards. -/
theorem ensure_loaded_answers (h : Tracked arm client world) {answer : Option String}
    (hstep : SdkStep world ⟨.ensureLoaded, answer⟩ next) :
    answer = none ↔ next.library.symbolsResolved = true := by
  obtain ⟨lastError, loading, library, hruns, rfl⟩ := hstep
  exact (ensure_loaded_meets h.sound lastError _ _ hruns).2.1

/-- What a method that only looks leaves. -/
structure Looked (arm : Bool) (client : Client) (world : SdkWorld) (result : Client × Bool)
    (final : SdkWorld) : Prop where
  session : result.1.session = client.session
  tracked : Tracked arm result.1 final
  quiet : world.library.symbolsResolved = true →
    final.library = world.library ∧ Quiet arm world.history final.history

/-- Only the loading of the library counts, and the error may be set after it. -/
theorem looked_after_loading (h : Tracked arm client world) {answer : Option String}
    (hstep : SdkStep world ⟨.ensureLoaded, answer⟩ next) {result : Client × Bool}
    (hsame : result.1.session = client.session) : Looked arm client world result next where
  session := hsame
  tracked := (h.ensure_loaded hstep).1.same hsame
  quiet hresolved := by
    obtain ⟨hlibrary, hhistory⟩ := ensure_loaded_resolved h hresolved hstep
    rw [hlibrary, hhistory]
    exact ⟨rfl, .refl arm world.history⟩

theorem is_available_safely (h : Tracked arm client world) :
    Safely SdkStep Anytime (NocaiDirectPrintClient.isAvailable client) (fun result final ↦
      Looked arm client world result final ∧ result.2 = final.library.symbolsResolved) world := by
  refine .call_bind trivial fun loaded found hstep ↦ ?_
  have hanswers := ensure_loaded_answers h hstep
  cases loaded with
  | some message =>
      refine .pure ⟨looked_after_loading h hstep rfl, ?_⟩
      have hnot := mt hanswers.mpr (Option.some_ne_none message)
      exact (Bool.not_eq_true _ ▸ hnot).symm
  | none => exact .pure ⟨looked_after_loading h hstep rfl, (hanswers.mp rfl).symm⟩

theorem get_printer_status_safely (sdk : Sdk) (h : Tracked arm client world) :
    Safely SdkStep Anytime (NocaiDirectPrintClient.getPrinterStatus sdk client)
      (Looked arm client world) world := by
  refine .call_bind trivial fun loaded found hstep ↦ ?_
  cases loaded with
  | some message => exact .pure (looked_after_loading h hstep rfl)
  | none =>
      have hsame := require_function_same client sdk.getPrinterStatus "GetPrinterStatus"
      dsimp only [whenExported]
      generalize client.requireFunction sdk.getPrinterStatus "GetPrinterStatus" = required at hsame
      obtain ⟨required, available⟩ := required
      refine .ite (fun _ ↦ .pure (looked_after_loading h hstep hsame)) fun _ ↦ ?_
      refine .call_bind trivial fun answer final hasked ↦ ?_
      obtain rfl : final = found.record ⟨.getPrinterStatus, answer⟩ := hasked
      obtain ⟨result, status⟩ := answer
      have hcalled := (call_succeeded_same required result "GetPrinterStatus").trans hsame
      have hlooked :
          Looked arm client world (required.callSucceeded result "GetPrinterStatus") found :=
        looked_after_loading h hstep hcalled
      have htracked := hlooked.tracked.record ⟨.getPrinterStatus, (result, status)⟩
        (link_after_lasts arm rfl)
      refine .pure ⟨hcalled, htracked, fun hresolved ↦ ?_⟩
      obtain ⟨hlibrary, hquiet⟩ := hlooked.quiet hresolved
      refine ⟨hlibrary, hquiet.trans ⟨[.sdk ⟨.getPrinterStatus, (result, status)⟩], rfl, ?_⟩⟩
      intro event hevent
      obtain rfl := List.mem_singleton.mp hevent
      exact ⟨⟨rfl, rfl, nofun⟩, fun _ ↦ rfl⟩

/-- Choosing a printer keeps the printers that were found. -/
theorem choose_printer_printers (client : Client) (index : Int32) :
    Meets (choosePrinter client index) fun _ result ↦ result.1.printers = client.printers := by
  refine .call_bind fun loaded ↦ ?_
  cases loaded with
  | some message => exact .pure rfl
  | none =>
      refine .ite (fun _ ↦ .pure rfl) fun _ ↦ .call_bind fun entered ↦ ?_
      cases entered with
      | some message => exact .pure rfl
      | none =>
          refine .call_bind fun result ↦ ?_
          have hsame := congrArg Prod.fst (call_succeeded_same client result "ChoosePrinter")
          exact .ite (fun _ ↦ .pure hsame) fun _ ↦ .pure hsame

/-- Connecting a printer keeps the printers that were found. -/
theorem connect_printer_printers (sdk : Sdk) (client : Client) :
    Meets (connectPrinter sdk client) fun _ result ↦ result.1.printers = client.printers := by
  refine .call_bind fun loaded ↦ ?_
  cases loaded with
  | some message => exact .pure rfl
  | none =>
      have hrequired := congrArg Prod.fst
        (require_function_same client sdk.connectPrinter "ConnectPrinter")
      dsimp only
      generalize client.requireFunction sdk.connectPrinter "ConnectPrinter" = required at hrequired
      obtain ⟨required, available⟩ := required
      refine .ite (fun _ ↦ .pure hrequired) fun _ ↦ .ite (fun _ ↦ .pure hrequired) fun _ ↦ ?_
      have hselect : Meets (selectKnownPrinter required) fun _ result ↦
          result.1.printers = required.printers := by
        refine .ite (fun _ ↦ .pure rfl) fun _ ↦ ?_
        split
        · exact choose_printer_printers required _
        · exact .pure rfl
        · exact .pure rfl
      refine .bind hselect fun _ selecting hselecting ↦ .ite (fun _ ↦ ?_) fun _ ↦ ?_
      · exact .pure (hselecting.trans hrequired)
      refine .bind (Meets.mono (prepare_arm_socket_lasting sdk selecting.1) fun _ _ h ↦ h.2) ?_
      intro _ prepared hprepared
      have hprinters := (congrArg Prod.fst hprepared).trans (hselecting.trans hrequired)
      refine .ite (fun _ ↦ .pure hprinters) fun _ ↦ ?_
      refine .bind (P := fun _ result ↦ result.1.printers = client.printers) ?_ ?_
      · refine .call_bind fun entered ↦ ?_
        cases entered with
        | some message => exact .pure hprinters
        | none =>
            refine .call_bind fun result ↦ .pure ?_
            exact (congrArg Prod.fst (call_succeeded_same prepared.1 result "ConnectPrinter")).trans
              hprinters
      · intro _ called hcalled
        refine .ite (fun _ ↦ .pure hcalled) fun _ ↦ .ite (fun _ ↦ ?_) fun _ ↦ .pure hcalled
        exact .call_bind fun _ ↦ .pure hcalled

end Methods

/-! ## Keeping track -/

/-- Every method keeps what is tracked. -/
theorem method_safely {client : Client} {world : SdkWorld} (sdk : Sdk) (method : Method)
    (h : Tracked sdk.arm client world) :
    Safely SdkStep Anytime (method.program sdk client)
      (fun result next ↦ Tracked sdk.arm result.1 next) world := by
  have hallowed : ∀ (world : SdkWorld) (call : SdkCall),
      (∀ property, call ≠ .startPrint property) → Anytime world call := fun _ _ _ ↦ trivial
  cases method with
  | isAvailable => exact (is_available_safely h).mono fun _ _ hend ↦ hend.1.tracked
  | getPrinterStatus => exact (get_printer_status_safely sdk h).mono fun _ _ hend ↦ hend.tracked
  | getPrinterInfo => exact call_function_safely sdk client hallowed _ h
  | refreshPrinters => exact refresh_printers_safely sdk client hallowed h
  | choosePrinter index =>
      exact (choose_printer_safely sdk client hallowed index h).mono fun _ _ hend ↦ hend.1
  | connectPrinter =>
      exact (connect_printer_safely sdk client hallowed h).mono fun _ _ hend ↦ hend.1
  | abortPrint marker => exact abort_printing_safely sdk client hallowed marker h
  | pausePrint => exact call_required_safely sdk client hallowed _ h
  | continuePrint => exact call_required_safely sdk client hallowed _ h
  | executeMaintenanceActionNow action arguments =>
      exact execute_maintenance_action_safely sdk client hallowed _ arguments h

/-- Every operation on the session keeps what is tracked. -/
theorem session_step_tracked {arm : Bool} {session after : SdkSession}
    {history next : List HistoryEvent} (hstep : SessionStep arm session history after next)
    (h : Borne arm ⟨session, history⟩) : Borne arm ⟨after, next⟩ := by
  cases hstep with
  | operation operation sdk harm hruns halong =>
      subst harm
      obtain ⟨_, hsafely⟩ := operation_safely sdk _ operation h rfl
      exact ((hsafely _ _ hruns).2 _ halong).finished
  | resetSdkSession hruns => exact (unload_sdk_session_released arm _ _ _ hruns).tracked _
  | setSdkRootPath path hruns =>
      rcases set_sdk_root_path_meets arm _ path _ _ hruns with ⟨_, hreleased⟩ | ⟨rfl, _, rfl⟩
      · exact hreleased.tracked _
      · exact h
  | setAutoDiscoverSdk enabled hruns =>
      rcases set_auto_discover_sdk_meets arm _ enabled _ _ hruns with ⟨_, hreleased⟩ | ⟨rfl, _, rfl⟩
      · exact hreleased.tracked _
      · exact h

/-- Every call of the backend keeps what is tracked. -/
theorem backend_step_borne {arm : Bool} {backend next : Backend} {event : BackendEvent}
    (hstep : BackendStep arm backend event next) (h : Borne arm backend) : Borne arm next := by
  cases hstep with
  | method harm hruns halong =>
      subst harm
      exact ((method_safely _ _ h _ _ hruns).2 _ halong).finished
  | resetSdkSession hruns => exact session_step_tracked (.resetSdkSession hruns) h
  | setSdkRootPath path hruns => exact session_step_tracked (.setSdkRootPath path hruns) h
  | setAutoDiscoverSdk enabled hruns =>
      exact session_step_tracked (.setAutoDiscoverSdk enabled hruns) h
  | isConnected => exact h
  | lastError => exact h
  | sdkRootPath => exact h
  | autoDiscoverSdk => exact h
  | printers => exact h

/-- Handing a session over keeps what is tracked. -/
theorem handed_borne {arm : Bool} {backend : Backend} {history : List HistoryEvent}
    {after : SdkSession} (hstep : Handed arm backend.session history after)
    (h : Borne arm backend) : Borne arm ⟨after, backend.history ++ history⟩ := by
  cases hstep with
  | failed message =>
      rw [List.append_nil]
      exact Tracked.same h rfl
  | released hruns => exact (unload_sdk_session_released arm _ _ _ hruns).tracked _
  | workerFailed =>
      rw [List.append_nil]
      exact ⟨h.sound, fun hunresolved ↦ ⟨(h.idle hunresolved).1, rfl⟩, h.selected, nofun, h.known⟩

/-- The backend of a server claims no more than what its history leaves standing. -/
theorem served_borne {arm : Bool} {backend : Backend} (h : Served arm backend) :
    Borne arm backend := by
  induction h with
  | start sdkRootPath autoDiscoverSdk =>
      exact .forgotten (fun h ↦ absurd h Bool.false_ne_true) rfl rfl nofun
  | command printInProgress command _ _ halong ih =>
      exact halong.invariant (fun _ _ _ _ hstep h ↦ backend_step_borne hstep h) ih
  | operation _ hstep ih => exact session_step_tracked hstep ih
  | handed _ hstep ih => exact handed_borne hstep ih

/-! ## Jobs -/

section Jobs

variable {backend : Backend} {trace : List SubmitEvent} {after : SdkSession}

/-- A session that is handed over step by step stays one of a server. -/
theorem Served.handed_over {arm : Bool} {session : SdkSession}
    {before history : List HistoryEvent} (h : Served arm ⟨session, before⟩)
    (hover : HandedOver arm session history after) : Served arm ⟨after, before ++ history⟩ := by
  induction hover generalizing before with
  | refl session =>
      rw [List.append_nil]
      exact h
  | step hstep _ ih =>
      rw [← List.append_assoc]
      exact ih (h.handed hstep)

/-- A job that hands the session over leaves the backend of a server. -/
theorem Served.hands_over {arm : Bool} {α : Type} {value : α}
    {job : SubmitProgram (SdkSession × α)} (h : Served arm backend)
    (hjob : HandsOver arm backend.session job) (hruns : Runs job trace (after, value)) :
    ∃ history, Served arm ⟨after, backend.history ++ history⟩ ∧
      libraryHistory history = libraryCalls trace := by
  obtain ⟨history, hover, hlibrary⟩ := hjob trace (after, value) hruns
  exact ⟨history, h.handed_over hover, hlibrary⟩

/-- So does a job that prints here. -/
theorem Served.prints_here {sdk : Sdk} {settings : DirectPrintSettings} {calls : List SdkEvent}
    {printed : Option Bool} {world : SdkWorld} (h : Served sdk.arm backend)
    (hprints : PrintsHere sdk backend.session settings calls (after, printed))
    (halong : Along SdkStep backend.world calls world) :
    Served sdk.arm ⟨{ after with library := world.library }, world.history⟩ := by
  rcases hprints with ⟨rfl, message, rfl⟩ | ⟨raster, opened, client, rfl, hruns⟩
  · cases halong
    have hfailed := h.handed (.failed message)
    rw [List.append_nil] at hfailed
    exact hfailed
  · refine h.operation (.operation (.printPackedJob raster settings opened) sdk rfl ?_ halong)
    exact runs_bind.mpr ⟨calls, [], _, (List.append_nil calls).symm, hruns, .done client⟩

variable {sdk : Sdk} {settings : DirectPrintSettings} {printed : Option Bool} {world : SdkWorld}

/-- Every spooled job leaves the backend of a server. -/
theorem Served.spooled_job {isolated progress : Bool} {spool : DirectPrintSpool}
    (h : Served sdk.arm backend)
    (hruns : Runs (submitSpooledJob isolated progress sdk backend.session spool settings) trace
      (after, printed))
    (halong : Along SdkStep backend.world (printerCalls trace) world) :
    ∃ next, Served sdk.arm next ∧ next.session.client = after.client := by
  cases isolated with
  | true =>
      have hover :=
        submit_spooled_job_hands_over backend.session settings progress sdk spool
      obtain ⟨history, hserved, _⟩ := h.hands_over hover hruns
      exact ⟨_, hserved, rfl⟩
  | false =>
      have hprints := submit_spooled_job_prints_here sdk backend.session settings progress spool
      exact ⟨_, h.prints_here (hprints trace _ hruns) halong, rfl⟩

/-- So does every job of packed lines, in a worker and here. -/
theorem Served.prepared_job_isolated {doubles : DataStream.Codec FloatFormat.Double}
    {strings : DataStream.Codec String} {arm submitted : Bool} {raster : DirectPrintRaster}
    (h : Served arm backend)
    (hruns : Runs (submitPreparedJobIsolated doubles strings arm backend.session raster settings)
      trace (after, submitted)) :
    ∃ next, Served arm next ∧ next.session.client = after.client := by
  have hover := submit_prepared_job_isolated_hands_over doubles strings arm backend.session settings
    raster
  obtain ⟨history, hserved, _⟩ := h.hands_over hover hruns
  exact ⟨_, hserved, rfl⟩

theorem Served.prepared_job {raster : DirectPrintRaster} (h : Served sdk.arm backend)
    (hruns : Runs (submitPreparedJob sdk backend.session raster settings) trace (after, printed))
    (halong : Along SdkStep backend.world (printerCalls trace) world) :
    ∃ next, Served sdk.arm next ∧ next.session.client = after.client := by
  have hprints := submit_prepared_job_prints_here sdk backend.session settings raster
  exact ⟨_, h.prints_here (hprints trace _ hruns) halong, rfl⟩

end Jobs

/-! ## What an answer says -/

/-- The state of the backend, as an answer has to report it. During a print the library counts as
available. -/
def Backend.state (backend : Backend) (printInProgress : Bool) : ServiceState where
  available := printInProgress || backend.session.library.symbolsResolved
  connected := backend.session.client.connected
  lastError := backend.session.client.lastError
  sdkRootPath := backend.session.sdkRootPath
  autoDiscoverSdk := backend.session.autoDiscoverSdk
  printers := backend.session.client.printers

/-- The session was only looked at. -/
structure Kept (arm : Bool) (before after : Backend) : Prop where
  session : after.session.client.session = before.session.client.session
  quiet : before.session.library.symbolsResolved = true →
    after.session.library = before.session.library ∧ Quiet arm before.history after.history

theorem Kept.refl (arm : Bool) (backend : Backend) : Kept arm backend backend :=
  ⟨rfl, fun _ ↦ ⟨rfl, .refl arm backend.history⟩⟩

theorem Kept.trans {arm : Bool} {before between after : Backend} (first : Kept arm before between)
    (second : Kept arm between after) : Kept arm before after := by
  refine ⟨second.session.trans first.session, fun hresolved ↦ ?_⟩
  obtain ⟨hlibrary, hquiet⟩ := first.quiet hresolved
  obtain ⟨hagain, hmore⟩ := second.quiet (hlibrary ▸ hresolved)
  exact ⟨hagain.trans hlibrary, hquiet.trans hmore⟩

section Answers

variable {arm : Bool} {backend : Backend}

/-- A method called on the backend does what it does on its client. -/
theorem method_ask_safely {method : Method} {post : Bool → Backend → Prop}
    (h : ∀ sdk : Sdk, sdk.arm = arm →
      Safely SdkStep Anytime (method.program sdk backend.session.client) (fun result world ↦
        post result.2 ⟨{ backend.session with client := result.1, library := world.library },
          world.history⟩) backend.world) :
    Safely (BackendStep arm) Anytime method.ask post backend := by
  refine .call trivial fun answer next hstep ↦ ?_
  cases hstep with
  | method harm hruns halong => exact (h _ harm _ _ hruns).2 _ halong

/-- Reading the backend leaves it as it is. -/
theorem read_safely {call : BackendCall} {post : call.Answer → Backend → Prop} (value : call.Answer)
    (hread : ∀ answer next, BackendStep arm backend ⟨call, answer⟩ next →
      answer = value ∧ next = backend)
    (h : post value backend) : Safely (BackendStep arm) Anytime call.ask post backend := by
  refine .call trivial fun answer next hstep ↦ ?_
  obtain ⟨rfl, rfl⟩ := hread answer next hstep
  exact h

theorem is_connected_safely : Safely (BackendStep arm) Anytime BackendCall.isConnected.ask
    (fun answer next ↦ answer = backend.session.client.connected ∧ next = backend) backend :=
  read_safely _ (fun _ _ hstep ↦ by cases hstep; exact ⟨rfl, rfl⟩) ⟨rfl, rfl⟩

theorem last_error_safely : Safely (BackendStep arm) Anytime BackendCall.lastError.ask
    (fun answer next ↦ answer = backend.session.client.lastError ∧ next = backend) backend :=
  read_safely _ (fun _ _ hstep ↦ by cases hstep; exact ⟨rfl, rfl⟩) ⟨rfl, rfl⟩

theorem sdk_root_path_safely : Safely (BackendStep arm) Anytime BackendCall.sdkRootPath.ask
    (fun answer next ↦ answer = backend.session.sdkRootPath ∧ next = backend) backend :=
  read_safely _ (fun _ _ hstep ↦ by cases hstep; exact ⟨rfl, rfl⟩) ⟨rfl, rfl⟩

theorem auto_discover_sdk_safely : Safely (BackendStep arm) Anytime BackendCall.autoDiscoverSdk.ask
    (fun answer next ↦ answer = backend.session.autoDiscoverSdk ∧ next = backend) backend :=
  read_safely _ (fun _ _ hstep ↦ by cases hstep; exact ⟨rfl, rfl⟩) ⟨rfl, rfl⟩

theorem printers_safely : Safely (BackendStep arm) Anytime BackendCall.printers.ask
    (fun answer next ↦ answer = backend.session.client.printers ∧ next = backend) backend :=
  read_safely _ (fun _ _ hstep ↦ by cases hstep; exact ⟨rfl, rfl⟩) ⟨rfl, rfl⟩

/-- The reported state is that of the backend in the end, and reporting only looks. -/
theorem service_state_safely (printInProgress : Bool) (h : Borne arm backend) :
    Safely (BackendStep arm) Anytime (serviceState printInProgress)
      (fun state final ↦ state = final.state printInProgress ∧ Kept arm backend final) backend := by
  refine .bind (P := fun available next ↦
    available = (next.state printInProgress).available ∧ Kept arm backend next) ?_ ?_
  · cases printInProgress with
    | true => exact .pure ⟨rfl, .refl arm backend⟩
    | false =>
        refine method_ask_safely ?_
        rintro sdk rfl
        refine (is_available_safely h).mono fun result world ⟨hlooked, havailable⟩ ↦ ?_
        exact ⟨havailable, hlooked.session, hlooked.quiet⟩
  · rintro _ next ⟨rfl, hkept⟩
    refine .bind is_connected_safely ?_
    rintro _ _ ⟨rfl, rfl⟩
    refine .bind last_error_safely ?_
    rintro _ _ ⟨rfl, rfl⟩
    refine .bind sdk_root_path_safely ?_
    rintro _ _ ⟨rfl, rfl⟩
    refine .bind auto_discover_sdk_safely ?_
    rintro _ _ ⟨rfl, rfl⟩
    refine .bind printers_safely ?_
    rintro _ final ⟨rfl, rfl⟩
    exact .pure ⟨rfl, hkept⟩

variable (printInProgress ok : Bool) (result : Result)

theorem response_safely (errorMessage : String) (h : Borne arm backend) :
    Safely (BackendStep arm) Anytime (response printInProgress ok result errorMessage)
      (fun response final ↦ response.ok = ok ∧ response.state = final.state printInProgress ∧
        Kept arm backend final) backend := by
  refine .bind (service_state_safely printInProgress h) ?_
  rintro state final ⟨hstate, hkept⟩
  exact .pure ⟨rfl, hstate, hkept⟩

theorem respond_safely (h : Borne arm backend) :
    Safely (BackendStep arm) Anytime (respond printInProgress ok result) (fun response final ↦
      response.ok = ok ∧ response.state = final.state printInProgress ∧ Kept arm backend final)
      backend := by
  refine .bind last_error_safely ?_
  rintro _ _ ⟨rfl, rfl⟩
  exact response_safely printInProgress ok result _ h

end Answers

/-- A program that answers with the state of the backend in the end. -/
def Answers (arm printInProgress : Bool) (p : BackendProgram Response) : Prop :=
  ∀ backend, Borne arm backend →
    Safely (BackendStep arm) Anytime p
      (fun response final ↦ response.state = final.state printInProgress) backend

namespace Answers

variable {arm printInProgress : Bool}

theorem response (ok : Bool) (result : Result) (errorMessage : String) :
    Answers arm printInProgress (response printInProgress ok result errorMessage) :=
  fun _ h ↦ (response_safely printInProgress ok result errorMessage h).mono fun _ _ hend ↦ hend.2.1

/-- Whatever comes before the answer keeps what is tracked. -/
protected theorem bind {α : Type} {p : BackendProgram α} {f : α → BackendProgram Response}
    (h : ∀ value, Answers arm printInProgress (f value)) :
    Answers arm printInProgress (p >>= f) := by
  intro backend hborne
  refine Safely.bind (P := fun _ next ↦ Borne arm next) ?_ fun value next hnext ↦ h value next hnext
  intro trace result _
  refine ⟨fun _ _ _ _ _ _ ↦ trivial, fun final halong ↦ ?_⟩
  exact halong.invariant (fun _ _ _ _ hstep h ↦ backend_step_borne hstep h) hborne

theorem respond (ok : Bool) (result : Result) :
    Answers arm printInProgress (respond printInProgress ok result) :=
  .bind fun _ ↦ .response ok result _

theorem method (method : Method) (result : Result) :
    Answers arm printInProgress (method.answer printInProgress result) :=
  .bind fun ok ↦ .respond ok result

protected theorem ite {c : Prop} [Decidable c] {p q : BackendProgram Response}
    (hp : Answers arm printInProgress p) (hq : Answers arm printInProgress q) :
    Answers arm printInProgress (if c then p else q) :=
  fun backend h ↦ .ite (fun _ ↦ hp backend h) fun _ ↦ hq backend h

/-- A command that is refused during a print. -/
theorem when_idle {serve : BackendProgram Response} (h : Answers arm false serve) :
    Answers arm printInProgress (whenIdle printInProgress serve) := by
  cases printInProgress with
  | true => exact .response _ _ _
  | false => exact h

end Answers

theorem choose_and_connect_answers (arm : Bool) (selectedIndex : Int32) :
    Answers arm false (chooseAndConnect selectedIndex) := by
  refine .bind fun printers ↦ ?_
  cases reconnectIndex printers selectedIndex with
  | error error => exact .response false .nothing error
  | ok index => exact .bind fun _ ↦ .ite (.method _ _) (.respond _ _)

theorem reconnect_printer_answers (arm : Bool) (selectedIndex : Int32) :
    Answers arm false (reconnectPrinter selectedIndex) := by
  refine .bind fun _ ↦ .ite (.response _ _ _) (.bind fun _ ↦ .ite ?_ (.respond _ _))
  exact .bind fun _ ↦ .ite (choose_and_connect_answers arm selectedIndex) (.respond _ _)

/-- Every command answers with the state of the backend in the end. -/
theorem handle_answers (arm printInProgress : Bool) (command : Command) :
    Answers arm printInProgress (command.handle printInProgress) := by
  cases command with
  | ping => exact .response _ _ _
  | configure path enabled errorFirst =>
      refine .when_idle (.bind fun _ ↦ .bind fun _ ↦ .bind fun _ ↦ ?_)
      exact .bind fun _ ↦ .bind fun _ ↦ .response _ _ _
  | refreshPrinters => exact .when_idle (.bind fun _ ↦ .bind fun _ ↦ .respond _ _)
  | choosePrinter index => exact .when_idle (.method _ _)
  | connectPrinter => exact .when_idle (.method _ _)
  | reconnectPrinter selectedIndex =>
      exact .when_idle (reconnect_printer_answers arm selectedIndex)
  | statusText resolvedSdkRoot =>
      exact .when_idle (.bind fun _ ↦ .bind fun _ ↦ .response _ _ _)
  | getPrinterStatus => exact .when_idle (.method _ _)
  | getPrinterInfo => exact .when_idle (.method _ _)
  | abortPrint marker => exact .method _ _
  | pausePrint => exact .when_idle (.method _ _)
  | continuePrint => exact .when_idle (.method _ _)
  | maintenance action arguments => exact .when_idle (.method _ _)
  | detached ok result errorMessage => exact .when_idle (.response _ _ _)
  | submitted ok => exact .respond _ _

/-- Every answer of a server reports the state that its backend is in, with the library as available
during a print; and it says that the printer is connected only when the library is loaded, and the
history of the backend has chosen the selected printer and connected it, with nothing since that
undoes either. -/
theorem service_reports_connection (arm printInProgress : Bool) (backend next : Backend)
    (h : Served arm backend) (command : Command) (trace : List BackendEvent) (response : Response)
    (hruns : Runs (command.handle printInProgress) trace response)
    (halong : Along (BackendStep arm) backend trace next) :
    response.state = next.state printInProgress ∧ (response.state.connected = true →
      response.state.available = true ∧ next.session.library.symbolsResolved = true ∧
      ConnectedIn arm next.session.client.selectedPrinterIndex next.history) := by
  have hborne : Borne arm next := served_borne (h.command printInProgress command hruns halong)
  have hstate := (handle_answers arm printInProgress command backend (served_borne h) trace response
    hruns).2 next halong
  refine ⟨hstate, fun hconnected ↦ ?_⟩
  rw [hstate] at hconnected ⊢
  obtain ⟨hselected, hlinked⟩ := hborne.connected hconnected
  have hresolved := hborne.resolved hconnected
  exact ⟨Bool.or_eq_true_iff.mpr (.inr hresolved), hresolved,
    connected_in_of_link next.history (hborne.selected hselected) hlinked⟩

/-! ## Reconnecting -/

/-- The answer of a printer that works. -/
def answersStatus : BackendEvent := ⟨.method .getPrinterStatus, true⟩

/-- The status of the printer is not asked for. -/
def Unasked {α : Type} (p : BackendProgram α) : Prop :=
  Meets p fun trace _ ↦ ∀ event ∈ trace, event.call ≠ .method .getPrinterStatus

namespace Unasked

variable {α β : Type}

protected theorem pure (value : α) : Unasked (pure value : BackendProgram α) :=
  Meets.pure fun _ hevent ↦ (List.not_mem_nil hevent).elim

protected theorem ask {call : BackendCall} (h : call ≠ .method .getPrinterStatus) :
    Unasked call.ask := by
  refine .call fun answer event hevent ↦ ?_
  obtain rfl := List.mem_singleton.mp hevent
  exact h

protected theorem bind {p : BackendProgram α} {f : α → BackendProgram β} (hp : Unasked p)
    (hf : ∀ value, Unasked (f value)) : Unasked (p >>= f) := by
  refine Meets.bind hp fun before value hbefore ↦ (hf value).mono ?_
  intro after _ hafter event hevent
  exact (List.mem_append.mp hevent).elim (hbefore event) (hafter event)

protected theorem ite {c : Prop} [Decidable c] {p q : BackendProgram α} (hp : Unasked p)
    (hq : Unasked q) : Unasked (if c then p else q) :=
  Meets.ite (fun _ ↦ hp) fun _ ↦ hq

theorem response (ok : Bool) (result : Result) (errorMessage : String) :
    Unasked (response false ok result errorMessage) := by
  refine .bind ?_ fun state ↦ .pure _
  exact .bind (.ask nofun) fun _ ↦ .bind (.ask nofun) fun _ ↦ .bind (.ask nofun) fun _ ↦
    .bind (.ask nofun) fun _ ↦ .bind (.ask nofun) fun _ ↦ .bind (.ask nofun) fun _ ↦ .pure _

theorem respond (ok : Bool) (result : Result) : Unasked (respond false ok result) :=
  .bind (.ask nofun) fun _ ↦ .response _ _ _

theorem rebuild (selectedIndex : Int32) : Unasked (rebuild selectedIndex) := by
  refine .bind (.ask nofun) fun _ ↦ .ite (.bind (.ask nofun) fun _ ↦ .ite ?_ (.respond _ _))
    (.respond _ _)
  refine .bind (.ask nofun) fun printers ↦ ?_
  cases reconnectIndex printers selectedIndex with
  | error error => exact .response _ _ _
  | ok index =>
      refine .bind (.ask nofun) fun _ ↦ .ite ?_ (.respond _ _)
      exact .bind (.ask nofun) fun ok ↦ .respond _ _

end Unasked

/-- The printer was connected anew: it is one of those that were found, and either the one that was
selected or the only one. -/
structure Reconnected (selectedIndex : Int32) (backend : Backend) : Prop where
  connected : backend.session.client.connected = true
  found : ∃ name,
    (backend.session.client.selectedPrinterIndex, name) ∈ backend.session.client.printers
  wanted : backend.session.client.selectedPrinterIndex = selectedIndex ∨
    backend.session.client.printers.length = 1

/-- The printer to choose is one that was found. -/
theorem reconnect_index_found {printers : List (Int32 × String)} {selectedIndex index : Int32}
    (h : reconnectIndex printers selectedIndex = .ok index) :
    (∃ name, (index, name) ∈ printers) ∧ (index = selectedIndex ∨ printers.length = 1) := by
  unfold reconnectIndex at h
  split at h
  · next hany =>
      obtain rfl := Except.ok.inj h
      obtain ⟨⟨number, name⟩, hmem, hnumber⟩ := List.any_eq_true.mp hany
      obtain rfl : number = selectedIndex := of_decide_eq_true hnumber
      exact ⟨⟨name, hmem⟩, .inl rfl⟩
  · match printers, h with
    | [only], h =>
        obtain rfl := Except.ok.inj h
        exact ⟨⟨only.2, List.mem_singleton.mpr rfl⟩, .inr rfl⟩

section Reconnecting

variable {arm : Bool} {backend : Backend}

/-- A session that was only looked at is as connected as before. -/
theorem Reconnected.kept {selectedIndex : Int32} {next : Backend}
    (h : Reconnected selectedIndex backend) (hkept : Kept arm backend next) :
    Reconnected selectedIndex next := by
  obtain ⟨hprinters, hselected, hconnected⟩ : _ ∧ _ ∧ _ := by
    simpa only [Client.session, Prod.mk.injEq] using hkept.session
  obtain ⟨connected, found, wanted⟩ := h
  exact ⟨hconnected.trans connected, hselected ▸ hprinters ▸ found, hselected ▸ hprinters ▸ wanted⟩

theorem choose_and_connect_safely (selectedIndex : Int32) (h : Borne arm backend) :
    Safely (BackendStep arm) Anytime (chooseAndConnect selectedIndex)
      (fun response final ↦ response.ok = true → Reconnected selectedIndex final) backend := by
  have hfails : ∀ {response : Response} {statement : Prop}, response.ok = false →
      response.ok = true → statement :=
    fun hfalse htrue ↦ Bool.noConfusion (hfalse.symm.trans htrue)
  have hallowed : ∀ (world : SdkWorld) (call : SdkCall),
      (∀ property, call ≠ .startPrint property) → Anytime world call := fun _ _ _ ↦ trivial
  refine .bind printers_safely ?_
  rintro _ same ⟨rfl, hsame⟩
  obtain rfl := hsame.symm
  cases hindex : reconnectIndex backend.session.client.printers selectedIndex with
  | error error =>
      exact (response_safely false false .nothing error h).mono fun _ _ hend ↦ hfails hend.1
  | ok index =>
      obtain ⟨hfound, hwanted⟩ := reconnect_index_found hindex
      have hnonneg : 0 ≤ index := hfound.elim fun name hmem ↦ h.known (index, name) hmem
      refine .bind (P := fun chosen next ↦ Borne arm next ∧
        next.session.client.printers = backend.session.client.printers ∧
        (chosen = true → next.session.client.selectedPrinterIndex = index))
        (method_ask_safely ?_) ?_
      · rintro sdk rfl
        refine (choose_printer_safely sdk _ hallowed index h).with_run.mono ?_
        rintro result world ⟨⟨htracked, hchosen⟩, trace, hruns, _⟩
        refine ⟨htracked.finished, ?_, fun hok ↦ (hchosen hok).1⟩
        exact choose_printer_printers _ index trace result hruns
      rintro chosen chosenNext ⟨hborne, hprinters, hchosen⟩
      refine .ite (fun hchoice ↦ ?_) fun _ ↦
        (respond_safely false false .nothing hborne).mono fun _ _ hend ↦ hfails hend.1
      refine .bind (P := fun connected next ↦ Borne arm next ∧
        (connected = true → Reconnected selectedIndex next)) (method_ask_safely ?_) ?_
      · rintro sdk rfl
        refine (connect_printer_safely sdk _ hallowed hborne).with_run.mono ?_
        rintro result world ⟨⟨htracked, hconnects⟩, trace, hruns, _⟩
        refine ⟨htracked.finished, fun hok ↦ ?_⟩
        obtain ⟨hconnected, hselected⟩ := hconnects hok
        have hindex : result.1.selectedPrinterIndex = index :=
          (hselected (hchosen hchoice ▸ hnonneg)).trans (hchosen hchoice)
        have hsame := (connect_printer_printers sdk _ trace result hruns).trans hprinters
        refine ⟨hconnected, ?_, ?_⟩
        · show ∃ name, (result.1.selectedPrinterIndex, name) ∈ result.1.printers
          rw [hindex, hsame]
          exact hfound
        · show result.1.selectedPrinterIndex = selectedIndex ∨ result.1.printers.length = 1
          rw [hindex, hsame]
          exact hwanted
      · rintro connected next ⟨hborne, hconnects⟩
        refine (respond_safely false connected .nothing hborne).mono ?_
        intro response final hend hok
        exact (hconnects (hend.1 ▸ hok)).kept hend.2.2

theorem rebuild_safely (selectedIndex : Int32) (h : Borne arm backend) :
    Safely (BackendStep arm) Anytime (rebuild selectedIndex)
      (fun response final ↦ response.ok = true → Reconnected selectedIndex final) backend := by
  have hstays {call : BackendCall} {before : Backend} (hbefore : Borne arm before) :
      Safely (BackendStep arm) Anytime call.ask (fun _ next ↦ Borne arm next) before :=
    .call trivial fun _ _ hstep ↦ backend_step_borne hstep hbefore
  have hfails {before : Backend} (hbefore : Borne arm before) :
      Safely (BackendStep arm) Anytime (respond false false .nothing)
        (fun response final ↦ response.ok = true → Reconnected selectedIndex final) before :=
    (respond_safely false false .nothing hbefore).mono fun _ _ hend hok ↦
      Bool.noConfusion (hend.1.symm.trans hok)
  refine .bind (hstays h) fun released reset hreset ↦ .ite (fun _ ↦ ?_) fun _ ↦ hfails hreset
  refine .bind (hstays hreset) fun refreshed found hfound ↦ .ite (fun _ ↦ ?_) fun _ ↦ hfails hfound
  exact choose_and_connect_safely selectedIndex hfound

/-- The session counts as healthy when it is connected and the printer answers. -/
theorem is_healthy_safely (h : Borne arm backend) :
    Safely (BackendStep arm) Anytime isHealthy (fun healthy next ↦ Kept arm backend next ∧
      (healthy = true → backend.session.client.connected = true)) backend := by
  refine .bind is_connected_safely ?_
  rintro _ same ⟨rfl, hsame⟩
  obtain rfl := hsame.symm
  refine .ite (fun hconnected ↦ method_ask_safely ?_) fun _ ↦
    .pure ⟨.refl arm backend, fun h ↦ absurd h Bool.false_ne_true⟩
  rintro sdk rfl
  refine (get_printer_status_safely sdk h).mono fun result world hlooked ↦ ?_
  exact ⟨⟨hlooked.session, hlooked.quiet⟩, fun _ ↦ hconnected⟩

theorem is_healthy_answers :
    Meets isHealthy fun trace healthy ↦ answersStatus ∈ trace ↔ healthy = true := by
  have hother {connected : Bool} :
      answersStatus ≠ (⟨.isConnected, connected⟩ : BackendEvent) := nofun
  refine .call_bind fun connected ↦ .ite (fun _ ↦ .call fun answered ↦ ?_) fun _ ↦ .pure ?_
  · rw [List.mem_cons, or_iff_right hother, List.mem_singleton]
    constructor
    · rintro ⟨⟩
      rfl
    · rintro rfl
      rfl
  · rw [List.mem_cons, or_iff_right hother]
    simp

/-- The history only grows. -/
theorem along_sdk_grows {world next : SdkWorld} {trace : List SdkEvent}
    (h : Along SdkStep world trace next) : world.history <+: next.history := by
  induction h with
  | nil world => exact List.prefix_rfl
  | @cons world event middle trace next hstep _ ih =>
      refine List.IsPrefix.trans ?_ ih
      obtain ⟨call, answer⟩ := event
      cases call with
      | ensureLoaded =>
          obtain ⟨_, _, _, _, rfl⟩ := hstep
          exact List.prefix_append ..
      | _ =>
          obtain rfl := hstep
          exact List.prefix_append ..

theorem backend_step_grows {next : Backend} {event : BackendEvent}
    (h : BackendStep arm backend event next) : backend.history <+: next.history := by
  cases h with
  | method harm hruns halong => exact along_sdk_grows halong
  | resetSdkSession hruns => exact List.prefix_append ..
  | setSdkRootPath path hruns =>
      dsimp only
      split
      · exact List.prefix_append ..
      · exact List.prefix_rfl
  | setAutoDiscoverSdk enabled hruns =>
      dsimp only
      split
      · exact List.prefix_append ..
      · exact List.prefix_rfl
  | isConnected => exact List.prefix_rfl
  | lastError => exact List.prefix_rfl
  | sdkRootPath => exact List.prefix_rfl
  | autoDiscoverSdk => exact List.prefix_rfl
  | printers => exact List.prefix_rfl

theorem along_grows {next : Backend} {trace : List BackendEvent}
    (h : Along (BackendStep arm) backend trace next) : backend.history <+: next.history := by
  induction h with
  | nil => exact List.prefix_rfl
  | cons hstep _ ih => exact (backend_step_grows hstep).trans ih

/-- The old session is let go before the new one is built. -/
theorem rebuild_resets {selectedIndex : Int32} {trace : List BackendEvent} {response : Response}
    {next : Backend} (hruns : Runs (rebuild selectedIndex) trace response)
    (halong : Along (BackendStep arm) backend trace next) :
    ∃ since, next.history = backend.history ++ .reset :: since := by
  cases hruns with
  | ask _ _ released rest _ _ =>
      cases halong with
      | cons hreset hrest =>
          cases hreset with
          | resetSdkSession _ =>
              obtain ⟨more, hmore⟩ := along_grows hrest
              exact ⟨_, hmore.symm.trans (List.append_assoc ..)⟩

/-- A reset leaves nothing standing. -/
theorem link_of_reset (arm : Bool) (before since : List HistoryEvent) :
    linkOf arm (before ++ .reset :: since) = linkOf arm since := by
  rw [linkOf, List.foldl_append, List.foldl_cons]
  rfl

end Reconnecting

/-- `reconnectPrinter` leaves a session alone when it is connected and the printer answers.
Otherwise it succeeds only when it has let the session go, and after that has chosen and connected
the printer that was selected or, when that one is not found, the only one that is. -/
theorem reconnect_printer_keeps_healthy_session (arm : Bool) (backend next : Backend)
    (h : Served arm backend) (selectedIndex : Int32) (trace : List BackendEvent)
    (response : Response) (hruns : Runs (reconnectPrinter selectedIndex) trace response)
    (halong : Along (BackendStep arm) backend trace next) :
    (answersStatus ∈ trace → response.ok = true ∧
      next.session.client.session = backend.session.client.session ∧
      next.session.library = backend.session.library ∧
      Quiet arm backend.history next.history) ∧
    (answersStatus ∉ trace → response.ok = true → Reconnected selectedIndex next ∧
      ∃ more since, next.history = backend.history ++ more ++ .reset :: since ∧
        ConnectedIn arm next.session.client.selectedPrinterIndex since) := by
  have hborne := served_borne h
  have hfinal : Borne arm next :=
    served_borne (h.command false (.reconnectPrinter selectedIndex) hruns halong)
  obtain ⟨first, second, healthy, rfl, htest, hrest⟩ := runs_bind.mp hruns
  obtain ⟨middle, htested, halong⟩ := along_append.mp halong
  obtain ⟨hkept, hconnected⟩ := (is_healthy_safely hborne first healthy htest).2 middle htested
  have hmiddle : Borne arm middle :=
    htested.invariant (fun _ _ _ _ hstep h ↦ backend_step_borne hstep h) hborne
  have hanswers := is_healthy_answers first healthy htest
  cases healthy with
  | true =>
      refine ⟨fun _ ↦ ?_, fun hnot ↦ ?_⟩
      · obtain ⟨hok, _, hagain⟩ :=
          (response_safely false true _ _ hmiddle second response hrest).2 next halong
        have hwhole := hkept.trans hagain
        exact ⟨hok, hwhole.session, hwhole.quiet (hborne.resolved (hconnected rfl))⟩
      · exact absurd (List.mem_append_left second (hanswers.mpr rfl)) hnot
  | false =>
      refine ⟨fun hanswered ↦ ?_, fun _ hok ↦ ?_⟩
      · rcases List.mem_append.mp hanswered with hanswered | hanswered
        · exact absurd (hanswers.mp hanswered) Bool.false_ne_true
        · exact absurd rfl (Unasked.rebuild selectedIndex second response hrest _ hanswered)
      · have hreconnected :=
          (rebuild_safely selectedIndex hmiddle second response hrest).2 next halong hok
        obtain ⟨since, hsince⟩ := rebuild_resets hrest halong
        obtain ⟨more, hmore⟩ := along_grows htested
        refine ⟨hreconnected, more, since, hmore ▸ hsince, ?_⟩
        obtain ⟨hselected, hlinked⟩ := hfinal.connected hreconnected.connected
        have hchosen := hfinal.selected hselected
        have hlink : linkOf arm next.history = linkOf arm since :=
          hsince ▸ link_of_reset arm middle.history since
        exact connected_in_of_link since (hlink ▸ hchosen) (hlink ▸ hlinked)

/-! ## A first connection -/

/-- The client after a method, on a library on which every call succeeds. -/
def obliged (client : Client) (method : Method) : Client :=
  ((method.program {} client).run obligingSdk []).2.1

theorem obliging_step (backend : Backend) (method : Method)
    (hlibrary : backend.session.library = {} ∨ backend.session.library = ⟨true, true, true⟩)
    (hok : ((method.program {} backend.session.client).run obligingSdk []).2.2 = true)
    (hloads :
      ((method.program {} backend.session.client).run obligingSdk []).1.all loadsWell = true) :
    ∃ next, BackendStep false backend ⟨.method method, true⟩ next ∧
      next.session.client = obliged backend.session.client method ∧
      (next.session.library = {} ∨ next.session.library = ⟨true, true, true⟩) := by
  obtain ⟨trace, htrace, hruns⟩ :=
    run_runs obligingSdk (method.program {} backend.session.client) []
  rw [htrace, List.nil_append] at hloads
  obtain ⟨world, halong, hworld⟩ := obliging_along hloads backend.world hlibrary
  have hresult : ((method.program {} backend.session.client).run obligingSdk []).2 =
      (obliged backend.session.client method, true) := Prod.ext rfl hok
  rw [hresult] at hruns
  exact ⟨_, .method rfl hruns halong, rfl, hworld⟩

/-- An answer can be given when `isAvailable` has one. -/
theorem respond_possibly {arm : Bool} {backend final : Backend} {available : Bool} (ok : Bool)
    (hlook : BackendStep arm backend ⟨.method .isAvailable, available⟩ final) :
    Possibly (BackendStep arm) (respond false ok .nothing)
      (fun response next ↦ response.ok = ok ∧ next = final) backend := by
  have hstate : Possibly (BackendStep arm) (serviceState false) (fun _ next ↦ next = final)
      backend :=
    .call_bind _ hlook <| .call_bind _ .isConnected <| .call_bind _ .lastError <|
      .call_bind _ .sdkRootPath <| .call_bind _ .autoDiscoverSdk <| .call_bind _ .printers <|
        .pure rfl
  refine .call_bind _ .lastError (hstate.bind ?_)
  exact fun state next hnext ↦ .pure ⟨rfl, hnext⟩

/-- On such a library `reconnectPrinter` connects the only printer. -/
theorem first_reconnect :
    Possibly (BackendStep false) (reconnectPrinter (-1)) (fun response final ↦
      response.ok = true ∧ final.session.client.connected = true ∧
        final.session.client.selectedPrinterIndex = 0) ⟨{}, [.reset]⟩ := by
  have hunload : Runs (unloadSdkSession false {}) [] (({} : SdkSession), true) := .done _
  obtain ⟨found, hfind, hfound, hlibrary⟩ := obliging_step
    ⟨{}, [.reset, .reset]⟩ .refreshPrinters (.inl rfl) (by decide +kernel) (by decide +kernel)
  obtain ⟨chosen, hchoose, hchosen, hlibrary⟩ := obliging_step found
    (.choosePrinter 0) hlibrary (by rw [hfound]; decide +kernel) (by rw [hfound]; decide +kernel)
  rw [hfound] at hchosen
  obtain ⟨connected, hconnect, hconnected, hlibrary⟩ := obliging_step chosen
    .connectPrinter hlibrary (by rw [hchosen]; decide +kernel) (by rw [hchosen]; decide +kernel)
  rw [hchosen] at hconnected
  obtain ⟨final, hlook, hfinal, hlibrary⟩ := obliging_step connected
    .isAvailable hlibrary (by rw [hconnected]; decide +kernel) (by rw [hconnected]; decide +kernel)
  rw [hconnected] at hfinal
  have hindex : reconnectIndex found.session.client.printers (-1) = .ok 0 := by
    rw [hfound]
    decide +kernel
  refine .call_bind _ .isConnected <| .call_bind _ (.resetSdkSession hunload) <|
    .call_bind _ hfind <| .call_bind _ .printers ?_
  rw [hindex]
  refine .call_bind _ hchoose <| .call_bind _ hconnect <| (respond_possibly true hlook).mono ?_
  rintro response _ ⟨hok, rfl⟩
  refine ⟨hok, ?_, ?_⟩
  · rw [hfinal]
    decide +kernel
  · rw [hfinal]
    decide +kernel

/-- The backend after a worker that failed. -/
theorem failed_worker_served : Served false ⟨{}, [.reset]⟩ := by
  have hunload : Runs (unloadSdkSession false {}) [] (({} : SdkSession), true) := .done _
  exact ((Served.start "" true).handed (.released hunload)).handed .workerFailed

theorem service_reports_connection_after_worker :
    ∃ trace response next, Served false ⟨{}, [.reset]⟩ ∧
      Runs ((Command.reconnectPrinter (-1)).handle false) trace response ∧
      Along (BackendStep false) ⟨{}, [.reset]⟩ trace next ∧ response.ok = true ∧
      response.state.connected = true ∧ response.state.available = true ∧
      next.session.library.symbolsResolved = true ∧ ConnectedIn false 0 next.history := by
  obtain ⟨trace, response, next, hruns, halong, hok, hconnected, hselected⟩ := first_reconnect
  obtain ⟨hstate, hclaims⟩ := service_reports_connection false false ⟨{}, [.reset]⟩ next
    failed_worker_served (.reconnectPrinter (-1)) trace response hruns halong
  have hreported : response.state.connected = true := by
    rw [hstate]
    exact hconnected
  obtain ⟨havailable, hresolved, hhistory⟩ := hclaims hreported
  rw [hselected] at hhistory
  exact ⟨trace, response, next, failed_worker_served, hruns, halong, hok, hreported, havailable,
    hresolved, hhistory⟩

theorem reconnect_printer_keeps_healthy_session_after_worker :
    ∃ trace response next, Served false ⟨{}, [.reset]⟩ ∧
      Runs (reconnectPrinter (-1)) trace response ∧
      Along (BackendStep false) ⟨{}, [.reset]⟩ trace next ∧ response.ok = true ∧
      Reconnected (-1) next ∧
      ∃ more since, next.history = [.reset] ++ more ++ .reset :: since ∧
        ConnectedIn false 0 since := by
  obtain ⟨trace, response, next, hruns, halong, hok, hconnected, hselected⟩ := first_reconnect
  obtain ⟨hhealthy, hrebuilds⟩ := reconnect_printer_keeps_healthy_session false ⟨{}, [.reset]⟩ next
    failed_worker_served (-1) trace response hruns halong
  have hunhealthy : answersStatus ∉ trace := by
    intro hanswered
    obtain ⟨_, hsession, _⟩ := hhealthy hanswered
    have hdisconnected := congrArg (fun known ↦ known.2.2) hsession
    exact Bool.false_ne_true (hdisconnected.symm.trans hconnected)
  obtain ⟨hreconnected, hhistory⟩ := hrebuilds hunhealthy hok
  rw [hselected] at hhistory
  exact ⟨trace, response, next, failed_worker_served, hruns, halong, hok, hreconnected, hhistory⟩

end PrintFlow.BackendCommands
