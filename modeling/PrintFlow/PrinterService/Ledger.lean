import PrintFlow.PrinterService.Server

/-!
# What a step does to the uploads

A `Ledger` is the part of a service state that uploads live in: the table, the files, the record of
what clients declared and sent, the spools the backend got and the ones it is printing. `Change`
lists what a step can do to a ledger and which upload ids that concerns; `step_change` says that
every step is one of these.
-/

namespace PrintFlow.PrinterServiceServer

open FileStore PrinterServiceProtocol RasterSpool

variable {V : Type}

/-! ## Paths -/

/-- A complete upload is named after its id. -/
theorem final_path_of (id : String) :
    finalPathOf (partialPathOf id) = uploadDirectory ++ "/" ++ (id ++ ".pfrs") := by
  have hname : (partialPathOf id).toList =
      (uploadDirectory ++ "/" ++ id).toList ++ ".upload.partial".toList := by
    simp [partialPathOf, String.toList_append]
  have hlength : (partialPathOf id).length - ".upload.partial".length =
      (uploadDirectory ++ "/" ++ id).toList.length := by
    rw [← String.length_toList, hname, List.length_append]
    exact Nat.add_sub_cancel ..
  rw [finalPathOf, chop, hlength, hname, List.take_left, String.ofList_toList]
  simp only [String.append_assoc]

theorem partial_path_inj {first second : String} (h : partialPathOf first = partialPathOf second) :
    first = second := by
  simpa [partialPathOf] using h

theorem final_path_inj {first second : String}
    (h : finalPathOf (partialPathOf first) = finalPathOf (partialPathOf second)) :
    first = second := by
  rw [final_path_of, final_path_of] at h
  simpa using h

/-- No upload collects its chunks where another is printed from. -/
theorem partial_ne_final (first second : String) :
    partialPathOf first ≠ finalPathOf (partialPathOf second) := by
  rw [final_path_of]
  intro h
  have hlast := congrArg (fun path : String ↦ path.toList.reverse.head?) h
  simp [partialPathOf, String.toList_append] at hlast

/-! ## Ledgers -/

/-- The id an entry is about. -/
def LogEntry.id : LogEntry → String
  | .began id _ _ _ => id
  | .accepted id _ => id
  | .submitted id _ _ => id

/-- The entries about one id, in order. -/
def history (id : String) (log : List LogEntry) : List LogEntry :=
  log.filter fun entry ↦ entry.id = id

@[simp] theorem history_append_same {id : String} (log : List LogEntry) {entry : LogEntry}
    (h : entry.id = id) : history id (log ++ [entry]) = history id log ++ [entry] := by
  simp [history, h]

/-- The submission an entry records. -/
def LogEntry.submission : LogEntry → Option (DirectPrintSpool × DirectPrintSettings)
  | .submitted _ spool settings => some (spool, settings)
  | _ => none

/-- The spools submitted, with their settings. -/
def submissions (log : List LogEntry) : List (DirectPrintSpool × DirectPrintSettings) :=
  log.filterMap LogEntry.submission

/-- The spool a call submits. -/
def BackendCall.spooled : BackendCall → Option (DirectPrintSpool × DirectPrintSettings)
  | .submitSpooledJob spool settings => some (spool, settings)
  | _ => none

/-- The `submitSpooledJob` calls of a trace. -/
def spooledCalls (trace : List TraceEntry) : List (DirectPrintSpool × DirectPrintSettings) :=
  trace.filterMap fun entry ↦ entry.call.spooled

/-- The file a print reads. -/
def Printing.path : Printing → Option String
  | .job => none
  | .upload finalPath => some finalPath

/-- The part of a state that uploads live in. -/
structure Ledger where
  uploads : List (String × UploadState)
  files : Store String
  log : List LogEntry
  calls : List (DirectPrintSpool × DirectPrintSettings)
  printing : List String

/-- The ledger of a state. -/
def State.ledger (s : State) : Ledger where
  uploads := s.uploads
  files := s.files
  log := s.log
  calls := spooledCalls s.trace
  printing := s.prints.filterMap Printing.path

/-- Only `submitSpooledJob` shows in the ledger. -/
@[simp] theorem State.ledger_call (s : State) (command : String) (c : BackendCall) :
    (s.call command c).ledger =
      { s.ledger with calls := s.ledger.calls ++ c.spooled.toList } := by
  cases h : c.spooled <;> simp [State.ledger, State.call, spooledCalls, h]

/-- A response does not show in the ledger. -/
@[simp] theorem response_ledger (s : State) (command : String) (io : RequestIo V) (ok : Bool)
    (result : Result V) (error : String) :
    (response s command io ok result error).1.ledger = s.ledger := by
  unfold response
  split
  · rfl
  · simp [BackendCall.spooled]

/-- A table without the entry of an id. -/
def without (id : String) (uploads : List (String × UploadState)) : List (String × UploadState) :=
  uploads.filter fun entry ↦ entry.1 != id

theorem mem_without {id other : String} {upload : UploadState}
    {uploads : List (String × UploadState)} :
    (other, upload) ∈ without id uploads ↔ (other, upload) ∈ uploads ∧ other ≠ id := by
  simp [without]

/-- A filter that keeps the entries of an id keeps what is looked up for it. -/
theorem lookup_filter {id : String} {keep : String × UploadState → Bool}
    {uploads : List (String × UploadState)}
    (h : ∀ entry ∈ uploads, entry.1 = id → keep entry = true) :
    (uploads.filter keep).lookup id = uploads.lookup id := by
  induction uploads with
  | nil => rfl
  | cons entry uploads ih =>
      have hrest := ih fun other hother ↦ h other (List.mem_cons_of_mem _ hother)
      obtain ⟨key, upload⟩ := entry
      by_cases hkey : key = id
      · rw [List.filter_cons_of_pos (h _ List.mem_cons_self hkey), hkey, List.lookup_cons_self,
          List.lookup_cons_self]
      · have hne : (id == key) = false := by simpa using Ne.symm hkey
        rw [List.lookup_cons, hne]
        by_cases hkeep : keep (key, upload) = true
        · rw [List.filter_cons_of_pos hkeep, List.lookup_cons, hne]
          exact hrest
        · rw [List.filter_cons_of_neg hkeep]
          exact hrest

/-- What is looked up is in the table. -/
theorem mem_of_lookup {id : String} {upload : UploadState} {uploads : List (String × UploadState)}
    (h : uploads.lookup id = some upload) : (id, upload) ∈ uploads := by
  obtain ⟨before, after, rfl, -⟩ := List.lookup_eq_some_iff.mp h
  exact List.mem_append_right _ List.mem_cons_self

/-! ## Changes -/

/-- What a step can do to a ledger; `concerns` holds of the ids it is about. -/
inductive Change (sha256 : Sha256) (concerns : String → Prop) (l : Ledger) : Ledger → Prop where
  | same : Change sha256 concerns l l
  | began (id fileBytes spool settings nowMs) :
      concerns id →
      (∀ bytes other values, .began id bytes other values ∉ l.log) →
      fileBytes.toNat < 2 ^ 63 → spool.bodyOffset = UInt64.ofNat headerBytes →
      Change sha256 concerns l
        { l with
          uploads :=
            (id, { partialPath := partialPathOf id, expectedBytes := fileBytes,
                   expectedSpool := spool, settings, lastActivityMs := nowMs }) ::
              without id l.uploads
          files := l.files.set (partialPathOf id) []
          log := l.log ++ [.began id fileBytes spool settings] }
  | accepted (id upload chunk nowMs) :
      concerns id → (id, upload) ∈ l.uploads → chunk.length ≤ uploadChunkBytes →
      upload.receivedBytes + UInt64.ofNat chunk.length ≤ upload.expectedBytes →
      Change sha256 concerns l
        { l with
          uploads :=
            (id, { upload with
                   receivedBytes := upload.receivedBytes + UInt64.ofNat chunk.length
                   lastActivityMs := nowMs }) :: without id l.uploads
          files := l.files.set upload.partialPath
            ((l.files upload.partialPath).getD [] ++ chunk)
          log := l.log ++ [.accepted id chunk] }
  | dropped (id upload) :
      concerns id → (id, upload) ∈ l.uploads →
      Change sha256 concerns l
        { l with
          uploads := without id l.uploads
          files := l.files.remove upload.partialPath }
  | refused (id upload files) :
      concerns id → (id, upload) ∈ l.uploads →
      l.files.rename upload.partialPath (finalPathOf upload.partialPath) = some files →
      Change sha256 concerns l
        { l with
          uploads := without id l.uploads
          files := files.remove (finalPathOf upload.partialPath) }
  | submitted (id upload files io spool) :
      concerns id → (id, upload) ∈ l.uploads →
      upload.receivedBytes = upload.expectedBytes →
      l.files.rename upload.partialPath (finalPathOf upload.partialPath) = some files →
      uploadedSpool sha256 io files (finalPathOf upload.partialPath) upload.expectedSpool =
        .ok spool →
      Change sha256 concerns l
        { uploads := without id l.uploads
          files
          log := l.log ++ [.submitted id spool upload.settings]
          calls := l.calls ++ [(spool, upload.settings)]
          printing := finalPathOf upload.partialPath :: l.printing }
  | expired (cutoff : Int) :
      (∀ id upload, (id, upload) ∈ l.uploads → upload.lastActivityMs ≤ cutoff → concerns id) →
      Change sha256 concerns l
        { l with
          uploads := l.uploads.filter fun entry ↦ ¬ entry.2.lastActivityMs ≤ cutoff
          files := (l.uploads.filter fun entry ↦ entry.2.lastActivityMs ≤ cutoff).foldl
            (fun files entry ↦ files.remove entry.2.partialPath) l.files }
  | finished (path rest) :
      l.printing = path :: rest → (∀ id, path = finalPathOf (partialPathOf id) → concerns id) →
      Change sha256 concerns l
        { l with files := l.files.remove path, printing := rest }

/-- Only one of the branches of a command test changes the ledger. -/
theorem Change.ite {sha256 : Sha256} {concerns : String → Prop} {l : Ledger} {p : Prop}
    [Decidable p] {yes no : State × Option (Response V)}
    (hyes : p → Change sha256 concerns l yes.1.ledger)
    (hno : Change sha256 concerns l no.1.ledger) :
    Change sha256 concerns l (if p then yes else no).1.ledger := by
  split
  · next h => exact hyes h
  · exact hno

/-- Handling that leaves the ledger as it is changes nothing. -/
theorem Change.of_eq {sha256 : Sha256} {concerns : String → Prop} {l l' : Ledger} (h : l' = l) :
    Change sha256 concerns l l' := by
  rw [h]
  exact .same

variable [QVariantApi V]

/-! ## Steps -/

/-- The id the arguments of a request name. -/
def uploadIdOf (request : QVariantMap V) : String := (request.map "arguments").string "uploadId" ""

/-- Whether an action concerns an upload id: a request that begins it or names it, the clean-up
timer once it has expired, or the return of its print. -/
def Concerns (s : State) (id : String) : Action V → Prop
  | .request request io =>
      let command := trimmed (request.string "command" "")
      (command = "beginRasterUpload" ∧ io.uploadId = id) ∨
        ((command = "appendRasterChunk" ∨ command = "cancelRasterUpload" ∨
          command = "commitRasterUpload") ∧ uploadIdOf request = id)
  | .invalidFrame _ => False
  | .expire nowMs =>
      ∃ upload, (id, upload) ∈ s.uploads ∧ upload.lastActivityMs ≤ nowMs - uploadExpiryMs
  | .printReturns _ _ => ∃ prints, s.prints = .upload (finalPathOf (partialPathOf id)) :: prints

/-- The random source does not repeat an upload id. -/
def Fresh (s : State) : Action V → Prop
  | .request request io =>
      trimmed (request.string "command" "") = "beginRasterUpload" →
        ∀ fileBytes spool settings, .began io.uploadId fileBytes spool settings ∉ s.log
  | .invalidFrame _ => True
  | .expire _ => True
  | .printReturns _ _ => True

/-- The entry begins an upload with this id. -/
def LogEntry.Begins (id : String) : LogEntry → Prop
  | .began other _ _ _ => other = id
  | _ => False

instance (id : String) : DecidablePred (LogEntry.Begins id)
  | .began .. => inferInstanceAs (Decidable (_ = _))
  | .accepted .. => isFalse fun h ↦ h
  | .submitted .. => isFalse fun h ↦ h

theorem LogEntry.begins_iff {id : String} {entries : List LogEntry} :
    (∀ entry ∈ entries, ¬ entry.Begins id) ↔
      ∀ fileBytes spool settings, .began id fileBytes spool settings ∉ entries := by
  constructor
  · exact fun h fileBytes spool settings hmem ↦ h _ hmem rfl
  · intro h entry hmem hbegins
    cases entry with
    | began other fileBytes spool settings =>
        obtain rfl : other = id := hbegins
        exact h fileBytes spool settings hmem
    | accepted | submitted => exact hbegins

instance (s : State) : DecidablePred (Fresh (V := V) s)
  | .request request io =>
    decidable_of_iff
      (trimmed (request.string "command" "") = "beginRasterUpload" →
        ∀ entry ∈ s.log, ¬ entry.Begins io.uploadId)
      (imp_congr_right fun _ ↦ LogEntry.begins_iff)
  | .invalidFrame _ => isTrue trivial
  | .expire _ => isTrue trivial
  | .printReturns _ _ => isTrue trivial

/-- The declared length of an upload is that of its header and its body. -/
theorem declared_upload_sound {arguments : QVariantMap V} {fileBytes : UInt64}
    {spool : DirectPrintSpool} {settings : DirectPrintSettings}
    (h : declaredUpload arguments = .ok (fileBytes, spool, settings)) :
    fileBytes.toNat < 2 ^ 63 ∧ spool.bodyOffset = UInt64.ofNat headerBytes := by
  simp only [declaredUpload] at h
  split at h
  · exact absurd h (by simp)
  · next expected _ =>
      split at h
      · exact absurd h (by simp)
      · next hvalid =>
          split_ifs at h with hlength
          simp only [not_or, not_not, Except.ok.injEq, Prod.mk.injEq] at hlength h
          obtain ⟨hoffset, -, hbytes⟩ := hlength
          obtain ⟨rfl, rfl, -⟩ := h
          have hbody := (metadata_is_valid_iff.mp hvalid).body_lt
          refine ⟨?_, hoffset⟩
          rw [hbytes, hoffset, (metadata_is_valid_iff.mp hvalid).file_length]
          have hheader : headerBytes = 4096 := rfl
          omega

section Handlers

variable (sha256 : Sha256) {concerns : String → Prop} (s : State) (command : String)
  (io : RequestIo V) (arguments : QVariantMap V)

theorem configure_ledger : (configure s command io arguments).1.ledger = s.ledger := by
  simp [configure, BackendCall.spooled]

theorem reconnect_ledger : (reconnect s command io arguments).1.ledger = s.ledger := by
  simp only [reconnect]
  split
  · simp [BackendCall.spooled]
  · split
    · simp [BackendCall.spooled]
    · split
      · simp [BackendCall.spooled]
      · split
        · simp [BackendCall.spooled]
        · simp [BackendCall.spooled]

theorem reconnect_printer_ledger :
    (reconnectPrinter s command io arguments).1.ledger = s.ledger := by
  simp only [reconnectPrinter]
  split
  · split
    · simp [BackendCall.spooled]
    · rw [reconnect_ledger]
      simp [BackendCall.spooled]
  · exact reconnect_ledger s command io arguments

theorem submit_job_ledger (payload : Bytes) :
    (submitJob s command io arguments payload).1.ledger = s.ledger := by
  unfold submitJob
  split
  · simp [State.ledger, State.call, spooledCalls, BackendCall.spooled, Printing.path,
      List.filterMap_cons]
  · exact response_ledger ..
  · rfl

theorem begin_raster_upload_change (hid : concerns io.uploadId)
    (hfresh : ∀ fileBytes spool settings,
      .began io.uploadId fileBytes spool settings ∉ s.log) :
    Change sha256 concerns s.ledger (beginRasterUpload s command io arguments).1.ledger := by
  unfold beginRasterUpload
  split
  · exact .of_eq (response_ledger ..)
  · next fileBytes spool settings hdeclared =>
      simp only
      split
      · exact .of_eq (response_ledger ..)
      · split
        · exact .of_eq (response_ledger ..)
        · obtain ⟨hlength, hoffset⟩ := declared_upload_sound hdeclared
          rw [response_ledger]
          exact .began io.uploadId fileBytes spool settings io.nowMs hid hfresh hlength hoffset

theorem append_raster_chunk_change (chunk : Bytes)
    (hid : concerns (arguments.string "uploadId" "")) :
    Change sha256 concerns s.ledger
      (appendRasterChunk s command io arguments chunk).1.ledger := by
  simp only [appendRasterChunk]
  split
  · exact .of_eq (response_ledger ..)
  · next upload hupload =>
      have hmem := mem_of_lookup hupload
      split
      · exact .of_eq (response_ledger ..)
      · next hchecks =>
          simp only [not_or, gt_iff_lt, UInt64.not_lt, not_lt] at hchecks
          rw [apply_ite Prod.fst, apply_ite State.ledger, response_ledger, response_ledger]
          split
          · exact .dropped _ upload hid hmem
          · exact .accepted _ upload chunk io.nowMs hid hmem hchecks.2.2.1 hchecks.2.2.2

theorem cancel_raster_upload_change (hid : concerns (arguments.string "uploadId" "")) :
    Change sha256 concerns s.ledger (cancelRasterUpload s command io arguments).1.ledger := by
  simp only [cancelRasterUpload]
  split
  · exact .of_eq (response_ledger ..)
  · next upload hupload =>
      rw [response_ledger]
      exact .dropped _ upload hid (mem_of_lookup hupload)

theorem commit_raster_upload_change (hid : concerns (arguments.string "uploadId" "")) :
    Change sha256 concerns s.ledger
      (commitRasterUpload sha256 s command io arguments).1.ledger := by
  simp only [commitRasterUpload]
  split
  · exact .of_eq (response_ledger ..)
  · next upload hupload =>
      have hmem := mem_of_lookup hupload
      split
      · rw [response_ledger]
        exact .dropped _ upload hid hmem
      · next hcomplete =>
          split
          · rw [response_ledger]
            exact .dropped _ upload hid hmem
          · next files hrename =>
              have hmoved : s.files.rename upload.partialPath (finalPathOf upload.partialPath) =
                  some files := by
                split at hrename
                · exact hrename
                · exact absurd hrename (by simp)
              split
              · rw [response_ledger]
                exact .refused _ upload files hid hmem hmoved
              · next spool hspool =>
                  have hcall : s.ledger.calls ++ [(spool, upload.settings)] =
                      spooledCalls (s.trace ++ [TraceEntry.mk command s.prints.length
                        (.submitSpooledJob spool upload.settings)]) := by
                    simp [State.ledger, spooledCalls, BackendCall.spooled]
                  have hchange := Change.submitted (l := s.ledger) _ upload files io.checksum spool
                    hid hmem (not_not.mp hcomplete) hmoved hspool
                  rw [hcall] at hchange
                  exact hchange

/-- Handling a request changes the ledger only for the id the request concerns. -/
theorem handle_request_change (request : QVariantMap V) (hfresh : Fresh s (.request request io)) :
    Change sha256 (fun id ↦ Concerns s id (.request request io)) s.ledger
      (handleRequest sha256 s request io).1.ledger := by
  unfold handleRequest
  refine .ite (fun _ ↦ .of_eq (response_ledger ..)) (.ite (fun _ ↦ .of_eq (response_ledger ..)) ?_)
  refine .ite (fun _ ↦ .of_eq (configure_ledger s _ io _)) ?_
  refine .ite (fun _ ↦ .of_eq (by simp [BackendCall.spooled])) ?_
  refine .ite (fun _ ↦ .of_eq (by simp [BackendCall.spooled])) ?_
  refine .ite (fun _ ↦ .of_eq (by simp [BackendCall.spooled])) ?_
  refine .ite (fun _ ↦ .of_eq (reconnect_printer_ledger s _ io _)) ?_
  refine .ite (fun _ ↦ .of_eq (by simp [BackendCall.spooled])) ?_
  refine .ite (fun _ ↦ .of_eq (by simp [BackendCall.spooled])) ?_
  refine .ite (fun _ ↦ .of_eq (by simp [BackendCall.spooled])) ?_
  refine .ite (fun _ ↦ .of_eq (by simp [BackendCall.spooled])) ?_
  refine .ite (fun _ ↦ .of_eq (by simp [BackendCall.spooled])) ?_
  refine .ite (fun _ ↦ .of_eq (by simp [BackendCall.spooled])) ?_
  refine .ite (fun _ ↦ .of_eq (by simp [BackendCall.spooled])) ?_
  refine .ite (fun hcommand ↦ ?_) ?_
  · exact begin_raster_upload_change sha256 s _ io _ (Or.inl ⟨hcommand, rfl⟩) (hfresh hcommand)
  refine .ite (fun hcommand ↦ ?_) ?_
  · exact append_raster_chunk_change sha256 s _ io _ _ (Or.inr ⟨Or.inl hcommand, rfl⟩)
  refine .ite (fun hcommand ↦ ?_) ?_
  · exact cancel_raster_upload_change sha256 s _ io _ (Or.inr ⟨Or.inr (Or.inl hcommand), rfl⟩)
  refine .ite (fun hcommand ↦ ?_) ?_
  · exact commit_raster_upload_change sha256 s _ io _ (Or.inr ⟨Or.inr (Or.inr hcommand), rfl⟩)
  refine .ite (fun _ ↦ .of_eq (submit_job_ledger s _ io _ _)) ?_
  exact .ite (fun _ ↦ .of_eq (response_ledger ..)) (.of_eq (response_ledger ..))

/-- The return of the innermost print changes the ledger only for the id it printed. -/
theorem finish_print_change {prints : List Printing} {printing : Printing}
    (hprints : s.prints = printing :: prints) (ok : Bool) :
    Change sha256 (fun id ↦ Concerns s id (.printReturns io ok)) s.ledger
      (finishPrint { s with prints } io printing ok).1.ledger := by
  cases printing with
  | job =>
      refine .of_eq ?_
      rw [finishPrint, response_ledger]
      simp [State.ledger, hprints, Printing.path, List.filterMap_cons]
  | upload path =>
      have hprinting : s.ledger.printing = path :: prints.filterMap Printing.path := by
        simp [State.ledger, hprints, Printing.path]
      have hledger : (finishPrint { s with prints } io (.upload path) ok).1.ledger =
          { s.ledger with
            files := s.files.remove path
            printing := prints.filterMap Printing.path } := by
        have hresponse := response_ledger (State.removeFile { s with prints } path)
          "commitRasterUpload" io ok .none io.lastError
        exact hresponse
      rw [hledger]
      refine .finished path _ hprinting ?_
      intro id hid
      exact ⟨prints, by rw [hprints, hid]⟩

end Handlers

/-- Every step changes the ledger only for the ids it concerns. -/
theorem step_change (sha256 : Sha256) (s : State) (action : Action V) (hfresh : Fresh s action) :
    Change sha256 (fun id ↦ Concerns s id action) s.ledger (step sha256 s action).ledger := by
  unfold step
  split
  · exact .same
  · cases action with
    | request request io => exact handle_request_change sha256 s io request hfresh
    | invalidFrame io => exact .of_eq (response_ledger ..)
    | expire nowMs =>
        exact .expired (nowMs - uploadExpiryMs) fun id upload hmem hold ↦ ⟨upload, hmem, hold⟩
    | printReturns io ok =>
        simp only
        split
        · exact .same
        · next printing prints hprints => exact finish_print_change sha256 s io hprints ok

end PrintFlow.PrinterServiceServer
