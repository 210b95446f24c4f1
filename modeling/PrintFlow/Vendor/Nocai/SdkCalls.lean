import PrintFlow.Vendor.Nocai.DirectPrintClient

/-!
# The calls of the parts of a job

Every part of a job stays within a few kinds of calls. What a part cannot do follows from the kinds
it stays within, whichever calls a question is about.
-/

namespace PrintFlow.NocaiDirectPrintClient

open Interaction

/-- A call succeeds when the library returns `sySucceeded`. -/
theorem call_succeeded_cases (client : Client) (result : Int32) (functionName : String) :
    (∃ after, client.callSucceeded result functionName = (after, true) ∧ result = sySucceeded) ∨
      ∃ after, client.callSucceeded result functionName = (after, false) ∧
      result ≠ sySucceeded := by
  unfold Client.callSucceeded
  split
  · next h => exact Or.inl ⟨_, rfl, h⟩
  · next h => exact Or.inr ⟨_, rfl, h⟩

/-- A function is required with success when the library exports it. -/
theorem require_function_cases (client : Client) (available : Bool) (functionName : String) :
    (client.requireFunction available functionName = (client, true) ∧ available = true) ∨
      ∃ after, client.requireFunction available functionName = (after, false) ∧
        available = false := by
  unfold Client.requireFunction
  cases available with
  | true => exact Or.inl ⟨rfl, rfl⟩
  | false => exact Or.inr ⟨_, rfl, rfl⟩

/-- The kinds of calls: finding and connecting the printer, setting up the job, the job origin, the
print session, polls, and calls that are no part of a job. -/
inductive CallKind where
  | lifecycle
  | setup
  | origin
  | session
  | poll
  | other
  deriving DecidableEq

/-- The kind of a call. -/
def SdkCall.kind : SdkCall → CallKind
  | ensureLoaded => .lifecycle
  | enterSdkDirectory => .lifecycle
  | discoveryPermission => .lifecycle
  | promiscuousReceive _ => .lifecycle
  | staleSocketLocks _ => .lifecycle
  | searchPrinter => .lifecycle
  | choosePrinter _ => .lifecycle
  | connectPrinter => .lifecycle
  | closeControlSocket => .lifecycle
  | getPrintHeight => .setup
  | setPrintHeight _ => .setup
  | setJobSettings _ => .setup
  | initPrinter => .setup
  | getPrintXYValue => .origin
  | setPrintXYValue _ _ => .origin
  | startPrint _ => .session
  | printALine _ _ => .session
  | endPrint => .session
  | abortPrint => .session
  | closePrint => .session
  | getPrinterStatus => .poll
  | cancelRequested => .poll
  | processEvents => .poll
  | readSpoolLine _ _ => .poll
  | function _ => .other

/-- A program whose calls are of these kinds. -/
def Stays {α : Type} (kinds : List CallKind) (p : SdkProgram α) : Prop :=
  Meets p fun trace _ ↦ ∀ event ∈ trace, event.call.kind ∈ kinds

namespace Stays

variable {α β : Type} {kinds : List CallKind}

protected theorem pure (value : α) : Stays kinds (pure value : SdkProgram α) :=
  Meets.pure fun _ hevent ↦ (List.not_mem_nil hevent).elim

protected theorem ask {call : SdkCall} (h : call.kind ∈ kinds) : Stays kinds (ask call) := by
  refine .call ?_
  intro answer event hevent
  obtain rfl := List.mem_singleton.mp hevent
  exact h

protected theorem bind {p : SdkProgram α} {f : α → SdkProgram β} (hp : Stays kinds p)
    (hf : ∀ value, Stays kinds (f value)) : Stays kinds (p >>= f) := by
  refine Meets.bind hp ?_
  intro before value hbefore
  refine (hf value).mono ?_
  intro after result hafter event hevent
  rcases List.mem_append.mp hevent with hfirst | hsecond
  · exact hbefore event hfirst
  · exact hafter event hsecond

protected theorem ite {c : Prop} [Decidable c] {p q : SdkProgram α} (hp : Stays kinds p)
    (hq : Stays kinds q) : Stays kinds (if c then p else q) :=
  Meets.ite (fun _ ↦ hp) fun _ ↦ hq

theorem mono {p : SdkProgram α} {more : List CallKind} (h : Stays kinds p)
    (hkinds : ∀ kind ∈ kinds, kind ∈ more) : Stays more p :=
  Meets.mono h fun _ _ htrace event hevent ↦ hkinds _ (htrace event hevent)

/-- What never shows calls of these kinds shows nothing of the program. -/
theorem ignored {ε : Type} {p : SdkProgram α} {project : SdkEvent → Option ε} (h : Stays kinds p)
    (hproject : ∀ event, event.call.kind ∈ kinds → project event = none) :
    Meets p fun trace _ ↦ trace.filterMap project = [] := by
  refine Meets.mono h ?_
  intro trace _ htrace
  refine List.filterMap_eq_nil_iff.mpr ?_
  intro event hevent
  exact hproject event (htrace event hevent)

end Stays

/-! ## Finding and connecting the printer -/

section Lifecycle

variable (sdk : Sdk) (client : Client)

theorem refresh_printers_stays : Stays [.lifecycle] (refreshPrinters sdk client) := by
  unfold refreshPrinters
  refine .bind (.ask (List.mem_singleton.mpr rfl)) ?_
  intro loaded
  cases loaded with
  | some message => exact .pure _
  | none =>
      refine .bind (.ask (List.mem_singleton.mpr rfl)) ?_
      intro permission
      cases permission with
      | some message => exact .pure _
      | none =>
          refine .ite (.pure _) (.bind (.ask (List.mem_singleton.mpr rfl)) ?_)
          intro entered
          cases entered with
          | some message => exact .pure _
          | none => exact .bind (.ask (List.mem_singleton.mpr rfl)) fun _ ↦ .pure _

theorem choose_printer_stays (index : Int32) : Stays [.lifecycle] (choosePrinter client index) := by
  unfold choosePrinter
  refine .bind (.ask (List.mem_singleton.mpr rfl)) ?_
  intro loaded
  cases loaded with
  | some message => exact .pure _
  | none =>
      refine .ite (.pure _) (.bind (.ask (List.mem_singleton.mpr rfl)) ?_)
      intro entered
      cases entered with
      | some message => exact .pure _
      | none =>
          exact .bind (.ask (List.mem_singleton.mpr rfl)) fun _ ↦ .ite (.pure _) (.pure _)

theorem select_known_printer_stays : Stays [.lifecycle] (selectKnownPrinter client) := by
  unfold selectKnownPrinter
  refine .ite (.pure _) ?_
  split
  · next index _ _ => exact choose_printer_stays client index
  · exact .pure _
  · exact .pure _

theorem prepare_arm_socket_stays : Stays [.lifecycle] (prepareArmSocket sdk client) := by
  unfold prepareArmSocket
  refine .ite (.bind (.ask (List.mem_singleton.mpr rfl)) ?_) (.pure _)
  intro promiscuous
  cases promiscuous with
  | some detail => exact .pure _
  | none =>
      refine .bind (.ask (List.mem_singleton.mpr rfl)) ?_
      intro locks
      cases locks with
      | some detail => exact .pure _
      | none => exact .pure _

theorem call_connect_printer_stays : Stays [.lifecycle] (callConnectPrinter client) := by
  unfold callConnectPrinter
  refine .bind (.ask (List.mem_singleton.mpr rfl)) ?_
  intro entered
  cases entered with
  | some message => exact .pure _
  | none => exact .bind (.ask (List.mem_singleton.mpr rfl)) fun _ ↦ .pure _

theorem open_session_stays : Stays [.lifecycle] (openSession sdk client) := by
  unfold openSession
  refine .bind (call_connect_printer_stays client) ?_
  intro ⟨client, ok⟩
  exact .ite (.pure _)
    (.ite (.bind (.ask (List.mem_singleton.mpr rfl)) fun _ ↦ .pure _) (.pure _))

theorem connect_printer_stays : Stays [.lifecycle] (connectPrinter sdk client) := by
  unfold connectPrinter
  refine .bind (.ask (List.mem_singleton.mpr rfl)) ?_
  intro loaded
  cases loaded with
  | some message => exact .pure _
  | none =>
      refine .ite (.pure _) (.ite (.pure _) (.bind (select_known_printer_stays _) ?_))
      intro ⟨client, selected⟩
      refine .ite (.pure _) (.bind (prepare_arm_socket_stays sdk client) ?_)
      intro ⟨client, prepared⟩
      exact .ite (.pure _) (open_session_stays sdk client)

theorem connect_job_printer_stays (settings : DirectPrintSettings) :
    Stays [.lifecycle] (connectJobPrinter sdk client settings) := by
  unfold connectJobPrinter
  refine .bind (.ite (refresh_printers_stays sdk client) (.pure _)) ?_
  intro ⟨client, found⟩
  refine .ite (.pure _) ?_
  simp only
  split
  · exact .pure _
  · next index _ =>
      refine .bind (.ite (choose_printer_stays client index) (.pure _)) ?_
      intro ⟨client, chosen⟩
      exact .ite (.pure _) (.ite (connect_printer_stays sdk client) (.pure _))

end Lifecycle

/-! ## Setting up the job -/

section Setup

variable (sdk : Sdk) (client : Client)

theorem wait_for_height_stays (target : UInt16) (attempts : Nat) (current : UInt16) :
    Stays [.setup] (waitForHeight target attempts current) := by
  induction attempts generalizing current with
  | zero => exact .pure _
  | succ attempts ih =>
      exact .bind (.ask (List.mem_singleton.mpr rfl)) fun _ ↦ .ite (.pure _) (ih _)

theorem prepare_media_height_stays (height : FloatFormat.Double) :
    Stays [.setup] (prepareMediaHeight sdk client height) := by
  unfold prepareMediaHeight
  refine .ite (.pure _) (.ite (.pure _) (.ite (.pure _) ?_))
  cases encodePrintHeightMm height with
  | none => exact .pure _
  | some encoded =>
      refine .bind (.ask (List.mem_singleton.mpr rfl)) fun _ ↦ .ite (.pure _)
        (.bind (.ask (List.mem_singleton.mpr rfl)) ?_)
      intro result
      exact .ite (.pure _) (.bind (wait_for_height_stays _ _ _) fun _ ↦ .ite (.pure _) (.pure _))

theorem store_settings_stays (jobSettings : JobSettings) (x33 : Bool) :
    Stays [.setup] (prepareJob.storeSettings sdk jobSettings client x33) :=
  .ite (.pure _) (.bind (.ask (List.mem_singleton.mpr rfl)) fun _ ↦ .pure _)

theorem prepare_x33_print_origin_stays (settings : DirectPrintSettings) :
    Stays [.origin] (prepareX33PrintOrigin sdk client settings) := by
  unfold prepareX33PrintOrigin
  refine .ite (.pure _) (.ite (.pure _) (.bind (.ask (List.mem_singleton.mpr rfl)) ?_))
  intro read
  refine .ite (.pure _) (.ite (.pure _) (.bind (.ask (List.mem_singleton.mpr rfl)) ?_))
  intro stored
  refine .ite (.pure _) (.bind (.ask (List.mem_singleton.mpr rfl)) ?_)
  intro again
  exact .ite (.pure _) (.ite (.pure _) (.pure _))

theorem reset_job_origin_stays (originActive preserve : Bool) :
    Stays [.origin] (resetJobOrigin sdk client originActive preserve) := by
  unfold resetJobOrigin
  refine .ite (.pure _) (.bind ?_ ?_)
  · exact .ite (.bind (.ask (List.mem_singleton.mpr rfl)) fun _ ↦ .pure _) (.pure _)
  · intro stored
    refine .bind (.ite (.ite (.bind (.ask (List.mem_singleton.mpr rfl)) fun _ ↦ .pure _)
      (.pure _)) (.pure _)) ?_
    intro reset
    exact .ite (.pure _) (.pure _)

theorem prepare_job_stays (raster : DirectPrintRaster) (settings : DirectPrintSettings)
    (jobSettings : JobSettings) :
    Stays [.setup, .origin] (prepareJob sdk client raster settings jobSettings) := by
  have hsetup : ∀ kind ∈ [CallKind.setup], kind ∈ [CallKind.setup, CallKind.origin] := by simp
  have horigin : ∀ client, Stays [.setup, .origin] (prepareX33PrintOrigin sdk client settings) :=
    fun client ↦ (prepare_x33_print_origin_stays sdk client settings).mono (by simp)
  unfold prepareJob
  refine .bind ((prepare_media_height_stays sdk client _).mono hsetup) ?_
  intro ⟨client, ready⟩
  refine .ite (.pure _) (.bind ((store_settings_stays sdk client jobSettings _).mono hsetup) ?_)
  intro ⟨client, stored⟩
  refine .ite (.pure _) (.bind (.ite (horigin client) (.pure _)) ?_)
  intro ⟨client, originActive, early⟩
  refine .ite (.pure _) (.bind (.ask (List.mem_cons_self ..)) ?_)
  intro result
  exact .ite (.pure _) (.ite (horigin _) (.pure _))

end Setup

/-! ## The print session -/

section Session

variable (sdk : Sdk) (client : Client) (source : LineSource) (size : UInt32)

theorem wait_for_cancellation_stays (attempts : Nat) :
    Stays [.poll] (waitForCancellation attempts) := by
  induction attempts with
  | zero => exact .pure _
  | succ attempts ih =>
      exact .bind (.ask (List.mem_singleton.mpr rfl)) fun _ ↦ .ite (.pure _) ih

theorem abort_stays : Stays [.session, .poll] (abortActivePrintAndWaitForController sdk) := by
  have hpolls : Stays [.session, .poll] (waitForCancellation 10) :=
    (wait_for_cancellation_stays 10).mono (by simp)
  unfold abortActivePrintAndWaitForController
  refine .bind (.ask (List.mem_cons_self ..)) ?_
  intro aborted
  refine .ite (.bind (.ask (List.mem_cons_self ..)) fun _ ↦ .pure _) ?_
  refine .bind (.ite hpolls (.pure _)) ?_
  intro acknowledged
  exact .bind (.ask (List.mem_cons_self ..)) fun _ ↦ .pure _

theorem read_plane_line_stays (logicalChannel row : Int32) :
    Stays [.session, .poll] (readPlaneLine source logicalChannel row) := by
  unfold readPlaneLine
  refine .ite (.pure _) (.bind (.ask (List.mem_cons_of_mem _ (List.mem_cons_self ..))) ?_)
  intro failed
  cases failed with
  | some message => exact .pure _
  | none => exact .pure _

theorem offer_line_stays (line : PlaneLine) :
    Stays [.session, .poll] (offerLine sdk client source size line) := by
  unfold offerLine
  refine .bind (read_plane_line_stays source line.logicalChannel _) ?_
  intro read
  cases read with
  | error message => exact .bind (abort_stays sdk) fun _ ↦ .pure _
  | ok data =>
      refine .ite (.bind (abort_stays sdk) fun _ ↦ .pure _)
        (.bind (.ask (List.mem_cons_self ..)) ?_)
      intro written
      exact .ite (.bind (abort_stays sdk) fun _ ↦ .pure _) (.pure _)

theorem send_line_stays (planes : Nat) (line : PlaneLine) :
    Stays [.session, .poll] (sendLine sdk client source size planes line) := by
  have hpoll : ∀ {call : SdkCall}, call.kind = .poll → Stays [.session, .poll] (ask call) :=
    fun hcall ↦ .ask (by rw [hcall]; simp)
  unfold sendLine
  refine .bind (hpoll rfl) ?_
  intro canceled
  refine .ite (.bind (abort_stays sdk) fun _ ↦ .pure _) ?_
  exact .ite (.bind (hpoll rfl) fun _ ↦ offer_line_stays sdk client source size line)
    (offer_line_stays sdk client source size line)

theorem send_lines_stays (planes : Nat) (lines : List PlaneLine) :
    Stays [.session, .poll] (sendLines sdk source size planes lines client) := by
  induction lines generalizing client with
  | nil => exact .pure _
  | cons line rest ih =>
      refine .bind (send_line_stays sdk client source size planes line) ?_
      intro ⟨client, accepted⟩
      exact .ite (ih client) (.pure _)

end Session

end PrintFlow.NocaiDirectPrintClient
