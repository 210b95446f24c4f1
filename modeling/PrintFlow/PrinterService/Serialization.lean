import PrintFlow.Core.RasterSpool.RoundTrip
import PrintFlow.PrinterService.Server

/-!
# One print at a time

`commitRasterUpload` sets `m_printInProgress` while its print executes, and `handleRequest` then
turns every request but `abortPrint` away before it reaches the backend. `submitJob` does not set
it. `Handled` says what handling one request does to the trace and to the executing prints;
`serialized_iff` says that no other request reaches the backend during a print exactly in the runs
where none is delivered while a print of `submitJob` executes.
-/

namespace PrintFlow.PrinterServiceServer

open FileStore PrinterServiceProtocol RasterSpool

variable {V : Type}

/-- No call was made during a print for another command than `abortPrint`. -/
def NoNestedCalls (trace : List TraceEntry) : Prop :=
  ∀ entry ∈ trace, 0 < entry.depth → entry.command = "abortPrint"

/-- Only `abortPrint` is delivered while a print of `submitJob` executes. -/
def Serial [QVariantApi V] (s : State) : Action V → Prop
  | .request request _ =>
      .job ∈ s.prints → trimmed (request.string "command" "") = "abortPrint"
  | .invalidFrame _ => .job ∉ s.prints
  | .expire _ => True
  | .printReturns _ _ => True

/-! ## What handling a request does -/

/-- Handling `command` from `s` calls the backend, at the depth of `s` and at least once unless a
print is in progress or the service crashes. Two commands may start one print. -/
structure Handled (s : State) (command : String) (s' : State) : Prop where
  calls : ∃ calls : List BackendCall,
    s'.trace = s.trace ++ calls.map (TraceEntry.mk command s.prints.length) ∧
      (s.printInProgress = false → s'.crashed = false → calls ≠ [])
  prints :
    (s'.prints = s.prints ∧ s'.printInProgress = s.printInProgress) ∨
    (command = "submitJob" ∧ s'.prints = .job :: s.prints ∧
      s'.printInProgress = s.printInProgress) ∨
    (command = "commitRasterUpload" ∧
      ∃ path, s'.prints = .upload path :: s.prints ∧ s'.printInProgress = true)

namespace Handled

variable {s t s' : State} {command : String}

/-- Handling continues after a call of the backend. -/
theorem after_call (c : BackendCall) (h : Handled (s.call command c) command s') :
    Handled s command s' := by
  obtain ⟨⟨calls, htrace, -⟩, hprints⟩ := h
  refine ⟨⟨c :: calls, ?_, fun _ _ ↦ List.cons_ne_nil _ _⟩, hprints⟩
  rw [htrace, State.call, List.map_cons, List.append_assoc]
  rfl

/-- Handling does not depend on the uploads, the files or the log. -/
theorem of_same (h : Handled t command s') (htrace : t.trace = s.trace)
    (hprints : t.prints = s.prints) (hflag : t.printInProgress = s.printInProgress) :
    Handled s command s' := by
  obtain ⟨hcalls, hprint⟩ := h
  rw [htrace, hprints, hflag] at hcalls
  rw [hprints, hflag] at hprint
  exact ⟨hcalls, hprint⟩

/-- A response asks the backend for its state unless a print is in progress. -/
theorem response (s : State) (command : String) (io : RequestIo V) (ok : Bool)
    (result : Result V) (error : String) :
    Handled s command (response s command io ok result error).1 := by
  unfold PrinterServiceServer.response
  cases hflag : s.printInProgress with
  | true =>
      refine ⟨⟨[], by simp, ?_⟩, Or.inl ⟨rfl, rfl⟩⟩
      intro hfalse
      rw [hflag] at hfalse
      exact absurd hfalse (by decide)
  | false =>
      exact ⟨⟨[.isAvailable], rfl, fun _ _ ↦ List.cons_ne_nil _ _⟩, Or.inl ⟨rfl, rfl⟩⟩

/-- Both branches of a command test are handled. -/
theorem ite {p : Prop} [Decidable p] {yes no : State × Option (Response V)}
    (hyes : p → Handled s command yes.1) (hno : Handled s command no.1) :
    Handled s command (if p then yes else no).1 := by
  split
  · next h => exact hyes h
  · exact hno

end Handled

section Handlers

variable [QVariantApi V] (sha256 : Sha256) (s : State) (command : String) (io : RequestIo V)
  (arguments : QVariantMap V)

theorem configure_handled : Handled s command (configure s command io arguments).1 :=
  .after_call _ (.after_call _ (.after_call _ (.response ..)))

theorem reconnect_handled : Handled s command (reconnect s command io arguments).1 := by
  apply Handled.after_call .resetSdkSession
  simp only [reconnect]
  split
  · exact .response ..
  · apply Handled.after_call .refreshPrinters
    split
    · exact .response ..
    · split
      · exact .response ..
      · next index _ =>
          apply Handled.after_call (.choosePrinter index)
          split
          · exact .response ..
          · exact .after_call .connectPrinter (.response ..)

theorem reconnect_printer_handled :
    Handled s command (reconnectPrinter s command io arguments).1 := by
  unfold reconnectPrinter
  split
  · apply Handled.after_call .getPrinterStatus
    simp only
    split
    · exact .response ..
    · exact reconnect_handled _ command io arguments
  · exact reconnect_handled s command io arguments

theorem begin_raster_upload_handled :
    Handled s command (beginRasterUpload s command io arguments).1 := by
  unfold beginRasterUpload
  split
  · exact .response ..
  · simp only
    split
    · exact .response ..
    · split
      · exact .response ..
      · exact .of_same (.response ..) rfl rfl rfl

theorem append_raster_chunk_handled (chunk : Bytes) :
    Handled s command (appendRasterChunk s command io arguments chunk).1 := by
  simp only [appendRasterChunk]
  split
  · exact .response ..
  · split
    · exact .response ..
    · split
      · exact .of_same (.response ..) rfl rfl rfl
      · exact .of_same (.response ..) rfl rfl rfl

theorem cancel_raster_upload_handled :
    Handled s command (cancelRasterUpload s command io arguments).1 := by
  simp only [cancelRasterUpload]
  split
  · exact .response ..
  · exact .of_same (.response ..) rfl rfl rfl

theorem commit_raster_upload_handled (hcommand : command = "commitRasterUpload") :
    Handled s command (commitRasterUpload sha256 s command io arguments).1 := by
  simp only [commitRasterUpload]
  split
  · exact .response ..
  · split
    · exact .of_same (.response ..) rfl rfl rfl
    · split
      · exact .of_same (.response ..) rfl rfl rfl
      · split
        · exact .of_same (.response ..) rfl rfl rfl
        · exact ⟨⟨[_], rfl, fun _ _ ↦ List.cons_ne_nil _ _⟩, Or.inr (Or.inr ⟨hcommand, _, rfl, rfl⟩)⟩

theorem submit_job_handled (hcommand : command = "submitJob") (payload : Bytes) :
    Handled s command (submitJob s command io arguments payload).1 := by
  unfold submitJob
  split
  · exact ⟨⟨[_], rfl, fun _ _ ↦ List.cons_ne_nil _ _⟩, Or.inr (Or.inl ⟨hcommand, rfl, rfl⟩)⟩
  · exact .response ..
  · exact ⟨⟨[], by simp, fun _ hcrashed ↦ absurd hcrashed (by simp)⟩, Or.inl ⟨rfl, rfl⟩⟩

/-- During a print of `commitRasterUpload` every request but `abortPrint` leaves the service as it
is. -/
theorem handle_request_busy {s : State} {request : QVariantMap V} (hflag : s.printInProgress = true)
    (hcommand : trimmed (request.string "command" "") ≠ "abortPrint") :
    (handleRequest sha256 s request io).1 = s := by
  simp only [handleRequest, response, hflag, hcommand, if_true, and_self, ne_eq, not_false_eq_true]
  split
  · rfl
  · rfl

/-- Every request is handled. -/
theorem handle_request_handled (request : QVariantMap V) :
    Handled s (trimmed (request.string "command" "")) (handleRequest sha256 s request io).1 := by
  unfold handleRequest
  refine .ite (fun _ ↦ .response ..) (.ite (fun _ ↦ .response ..) ?_)
  refine .ite (fun _ ↦ configure_handled s _ io _) ?_
  refine .ite (fun _ ↦ .after_call _ (.response ..)) ?_
  refine .ite (fun _ ↦ .after_call _ (.response ..)) ?_
  refine .ite (fun _ ↦ .after_call _ (.response ..)) ?_
  refine .ite (fun _ ↦ reconnect_printer_handled s _ io _) ?_
  refine .ite (fun _ ↦ .after_call _ (.response ..)) ?_
  refine .ite (fun _ ↦ .after_call _ (.response ..)) ?_
  refine .ite (fun _ ↦ .after_call _ (.response ..)) ?_
  refine .ite (fun _ ↦ .after_call _ (.response ..)) ?_
  refine .ite (fun _ ↦ .after_call _ (.response ..)) ?_
  refine .ite (fun _ ↦ .after_call _ (.response ..)) ?_
  refine .ite (fun _ ↦ .after_call _ (.response ..)) ?_
  refine .ite (fun _ ↦ begin_raster_upload_handled s _ io _) ?_
  refine .ite (fun _ ↦ append_raster_chunk_handled s _ io _ _) ?_
  refine .ite (fun _ ↦ cancel_raster_upload_handled s _ io _) ?_
  refine .ite (fun h ↦ commit_raster_upload_handled sha256 s _ io _ h) ?_
  refine .ite (fun h ↦ submit_job_handled s _ io _ h _) ?_
  exact .ite (fun _ ↦ .response ..) (.response ..)

end Handlers

/-! ## Steps -/

/-- No call was nested, and at most one print executes: of `submitJob` without the flag, or of
`commitRasterUpload` with it. -/
structure Serialized (s : State) : Prop where
  trace : NoNestedCalls s.trace
  prints :
    (s.prints = [] ∧ s.printInProgress = false) ∨
    (s.prints = [.job] ∧ s.printInProgress = false) ∨
    ∃ path, s.prints = [.upload path] ∧ s.printInProgress = true

/-- Calls made outside of prints, or for `abortPrint`, nest nothing. -/
theorem NoNestedCalls.append {trace : List TraceEntry} (h : NoNestedCalls trace) {command : String}
    {depth : Nat} (hdepth : 0 < depth → command = "abortPrint") (calls : List BackendCall) :
    NoNestedCalls (trace ++ calls.map (TraceEntry.mk command depth)) := by
  intro entry hentry hpos
  rcases List.mem_append.mp hentry with hold | hnew
  · exact h entry hold hpos
  · obtain ⟨c, -, rfl⟩ := List.mem_map.mp hnew
    exact hdepth hpos

/-- A handled request keeps the prints serialized, when nothing executes or it is `abortPrint`. -/
theorem Handled.serialized {s s' : State} {command : String} (hhandled : Handled s command s')
    (hcommand : s.prints = [] ∨ command = "abortPrint") (h : Serialized s) : Serialized s' := by
  obtain ⟨⟨calls, htrace, -⟩, hprints⟩ := hhandled
  refine ⟨?_, ?_⟩
  · rw [htrace]
    refine h.trace.append ?_ calls
    intro hdepth
    rcases hcommand with hnil | habort
    · rw [hnil] at hdepth
      exact absurd hdepth (by decide)
    · exact habort
  · rcases hprints with ⟨hsame, hflag⟩ | ⟨hjob, hpush, hflag⟩ | ⟨hcommit, path, hpush, hflag⟩
    · rw [hsame, hflag]
      exact h.prints
    · rcases hcommand with hnil | habort
      · rw [hpush, hflag, hnil]
        rcases h.prints with ⟨-, hfalse⟩ | ⟨hprints, -⟩ | ⟨path, hprints, -⟩
        · exact Or.inr (Or.inl ⟨rfl, hfalse⟩)
        · rw [hnil] at hprints
          exact absurd hprints (by simp)
        · rw [hnil] at hprints
          exact absurd hprints (by simp)
      · rw [hjob] at habort
        exact absurd habort (by decide)
    · rcases hcommand with hnil | habort
      · rw [hpush, hflag, hnil]
        exact Or.inr (Or.inr ⟨path, rfl, rfl⟩)
      · rw [hcommit] at habort
        exact absurd habort (by decide)

/-- The return of the only executing print keeps the prints serialized: the response to a print of
`commitRasterUpload` asks the backend nothing, and that of `submitJob` asks it after the print. -/
theorem finish_print_serialized {s : State} (h : Serialized s) {printing : Printing}
    {prints : List Printing} (hprints : s.prints = printing :: prints) (io : RequestIo V)
    (ok : Bool) : Serialized (finishPrint { s with prints } io printing ok).1 := by
  rcases h.prints with ⟨hnil, -⟩ | ⟨hjob, hflag⟩ | ⟨path, hupload, hflag⟩
  · rw [hnil] at hprints
    exact absurd hprints (by simp)
  · rw [hprints] at hjob
    obtain ⟨rfl, rfl⟩ := List.cons.inj hjob
    have hidle : Serialized { s with prints := [] } := ⟨h.trace, Or.inl ⟨rfl, hflag⟩⟩
    exact (Handled.response { s with prints := [] } "submitJob" io ok .none
      io.lastError).serialized (Or.inl rfl) hidle
  · rw [hprints] at hupload
    obtain ⟨rfl, rfl⟩ := List.cons.inj hupload
    simp only [finishPrint, response, State.removeFile, hflag, if_true]
    exact ⟨h.trace, Or.inl ⟨rfl, rfl⟩⟩

variable [QVariantApi V] {sha256 : Sha256}

/-- A step along the condition keeps the prints serialized. -/
theorem step_serialized (s : State) (action : Action V) (hserial : Serial s action)
    (h : Serialized s) : Serialized (step sha256 s action) := by
  unfold step
  split
  · exact h
  · cases action with
    | request request io =>
        have hhandled := handle_request_handled sha256 s io request
        rcases h.prints with ⟨hnil, -⟩ | ⟨hjob, -⟩ | ⟨path, hupload, hflag⟩
        · exact hhandled.serialized (Or.inl hnil) h
        · exact hhandled.serialized (Or.inr (hserial (by rw [hjob]; exact List.mem_singleton_self _))) h
        · by_cases hcommand : trimmed (request.string "command" "") = "abortPrint"
          · exact hhandled.serialized (Or.inr hcommand) h
          · simp only [handle_request_busy sha256 io hflag hcommand]
            exact h
    | invalidFrame io =>
        have hresponse := Handled.response s "" io false .none ""
        rcases h.prints with ⟨hnil, -⟩ | ⟨hjob, -⟩ | ⟨path, -, hflag⟩
        · exact hresponse.serialized (Or.inl hnil) h
        · exact absurd (by rw [hjob]; exact List.mem_singleton_self _) hserial
        · simp only [response, hflag, if_true]
          exact h
    | expire nowMs => exact ⟨h.trace, h.prints⟩
    | printReturns io ok =>
        simp only
        split
        · exact h
        · next printing prints hprints => exact finish_print_serialized h hprints io ok

/-- A step only adds to the trace. -/
theorem step_trace (s : State) (action : Action V) :
    s.trace <+: (step sha256 s action).trace := by
  unfold step
  split
  · exact List.prefix_rfl
  · cases action with
    | request request io =>
        obtain ⟨⟨calls, htrace, -⟩, -⟩ := handle_request_handled sha256 s io request
        exact ⟨_, htrace.symm⟩
    | invalidFrame io =>
        obtain ⟨⟨calls, htrace, -⟩, -⟩ := Handled.response s "" io false .none ""
        exact ⟨_, htrace.symm⟩
    | expire nowMs => exact List.prefix_rfl
    | printReturns io ok =>
        simp only
        split
        · exact List.prefix_rfl
        · next printing prints hprints =>
            cases printing with
            | job =>
                obtain ⟨⟨calls, htrace, -⟩, -⟩ :=
                  Handled.response { s with prints } "submitJob" io ok .none io.lastError
                exact ⟨_, htrace.symm⟩
            | upload finalPath =>
                obtain ⟨⟨calls, htrace, -⟩, -⟩ :=
                  Handled.response ({ s with prints }.removeFile finalPath) "commitRasterUpload" io
                    ok .none io.lastError
                exact ⟨_, htrace.symm⟩

/-- A run only adds to the trace. -/
theorem run_trace (s : State) (actions : List (Action V)) :
    s.trace <+: (Runs.run (step sha256) s actions).trace := by
  induction actions generalizing s with
  | nil => exact List.prefix_rfl
  | cons action actions ih => exact (step_trace s action).trans (ih (step sha256 s action))

/-- A crashed service stays as it is. -/
theorem run_crashed {s : State} (h : s.crashed = true) (actions : List (Action V)) :
    Runs.run (step sha256) s actions = s := by
  induction actions with
  | nil => rfl
  | cons action actions ih =>
      have hstep : step sha256 s action = s := by
        unfold step
        exact if_pos h
      rw [Runs.run_cons, hstep, ih]

/-- A service that runs at the end of a run ran at its start. -/
theorem running_of_run {s : State} {actions : List (Action V)}
    (h : (Runs.run (step sha256) s actions).crashed = false) : s.crashed = false := by
  cases hcrashed : s.crashed with
  | false => rfl
  | true =>
      rw [run_crashed hcrashed] at h
      exact hcrashed.symm.trans h

/-- A step that delivers another request during a print of `submitJob` nests a call, or crashes. -/
theorem step_nests {s : State} {action : Action V} (h : Serialized s) (hrunning : s.crashed = false)
    (hserial : ¬ Serial s action) (hcrashed : (step sha256 s action).crashed = false) :
    ¬ NoNestedCalls (step sha256 s action).trace := by
  have hnested : ∀ {command : String} {s' : State}, Handled s command s' → s'.crashed = false →
      Printing.job ∈ s.prints → command ≠ "abortPrint" → ¬ NoNestedCalls s'.trace := by
    intro command s' hhandled hrun hjob hcommand hnone
    obtain ⟨⟨calls, htrace, hcalls⟩, -⟩ := hhandled
    have hflag : s.printInProgress = false ∧ 0 < s.prints.length := by
      rcases h.prints with ⟨hnil, -⟩ | ⟨hprints, hflag⟩ | ⟨path, hprints, -⟩
      · rw [hnil] at hjob
        exact absurd hjob (by simp)
      · exact ⟨hflag, by rw [hprints]; decide⟩
      · rw [hprints] at hjob
        exact absurd hjob (by simp)
    obtain ⟨c, hc⟩ := List.exists_mem_of_ne_nil calls (hcalls hflag.1 hrun)
    have hentry : TraceEntry.mk command s.prints.length c ∈ s'.trace := by
      rw [htrace]
      exact List.mem_append_right _ (List.mem_map_of_mem hc)
    exact hcommand (hnone _ hentry hflag.2)
  unfold step at hcrashed ⊢
  rw [hrunning] at hcrashed ⊢
  cases action with
  | request request io =>
      have hother : .job ∈ s.prints ∧ trimmed (request.string "command" "") ≠ "abortPrint" :=
        Classical.not_imp.mp hserial
      exact hnested (handle_request_handled sha256 s io request) hcrashed hother.1 hother.2
  | invalidFrame io =>
      have hjob : .job ∈ s.prints := Classical.not_not.mp hserial
      exact hnested (.response s "" io false .none "") hcrashed hjob (by decide)
  | expire nowMs => exact absurd trivial hserial
  | printReturns io ok => exact absurd trivial hserial

/-- In a run whose steps deliver nothing but `abortPrint` during a print of `submitJob`, no request
other than `abortPrint` reaches the backend during a print; in a run that does not crash this is
the only way. -/
theorem serialized_iff (sha256 : Sha256) (files : Store String) (actions : List (Action V)) :
    (Runs.Along (step sha256) Serial { files } actions →
      NoNestedCalls (run sha256 files actions).trace) ∧
    ((run sha256 files actions).crashed = false →
      NoNestedCalls (run sha256 files actions).trace →
      Runs.Along (step sha256) Serial { files } actions) := by
  have hinit : Serialized { files } := ⟨fun _ h ↦ absurd h (by simp), Or.inl ⟨rfl, rfl⟩⟩
  refine ⟨fun halong ↦ (Runs.invariant step_serialized halong hinit).trace, ?_⟩
  intro hcrashed hnone
  by_contra hbreak
  -- The first step that is not serial makes its call inside of another, and the trace keeps it.
  obtain ⟨before, action, after, rfl, halong, hserial⟩ := Runs.first_break hbreak
  have hbefore := Runs.invariant step_serialized halong hinit
  have hsplit : run sha256 files (before ++ action :: after) =
      Runs.run (step sha256) (step sha256 (Runs.run (step sha256) { files } before) action) after :=
    Runs.run_append ..
  rw [hsplit] at hcrashed hnone
  have hstep := running_of_run hcrashed
  have hrunning : (Runs.run (step sha256) { files } before).crashed = false :=
    running_of_run (show (Runs.run (step sha256) _ [action]).crashed = false from hstep)
  refine step_nests hbefore hrunning hserial hstep ?_
  intro entry hentry
  exact hnone entry ((run_trace _ after).subset hentry)

/-- A request to print one line of one byte. -/
def oneLineJob : QVariantMap Variant :=
  variantMap
    [("command", .string "submitJob"), ("payload", .byteArray [0]),
      ("arguments", .map
        [("raster", .map
          [("width", .int 4), ("height", .int 1), ("xdpi", .int 720), ("ydpi", .int 600),
            ("bytesPerLine", .int 1), ("format", .int 1), ("channels", .list [.int 0]),
            ("canonicalHeader", .list (List.replicate 12 (.ulonglong 0)))])])]

/-- The answers of a backend that has nothing to report. -/
def quietIo : RequestIo Variant :=
  { printerStatus := variantMap [], printerInfo := variantMap [], completion := variantMap [] }

/-- The second of two such requests is delivered while the first one prints, and prints too. -/
theorem submit_job_nests_print :
    ¬ NoNestedCalls
      (run zeroDigest (fun _ ↦ none)
        [.request oneLineJob quietIo, .request oneLineJob quietIo]).trace := by
  intro hnone
  have hnested := hnone _ (List.mem_of_getElem? (i := 1) rfl)
  revert hnested
  decide

end PrintFlow.PrinterServiceServer
