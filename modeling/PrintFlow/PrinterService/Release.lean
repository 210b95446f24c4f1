import PrintFlow.PrinterService.Accounting

/-!
# Releasing an upload

`cancelRasterUpload` passes the gate that refuses every command but `ping` and `abortPrint` while a
committed upload prints. `cancel_upload`: behind the gate it releases the upload and nothing else;
at the gate it changes nothing, and the upload stays until it expires.
-/

namespace PrintFlow.PrinterServiceServer

open FileStore PrinterServiceProtocol RasterSpool

/-- The upload with this id and its file are gone; the other uploads, their files, every other file
and the prints are as before. -/
structure Released (id : String) (upload : UploadState) (before after : State) : Prop where
  entry : after.upload id = none
  file : after.files upload.partialPath = none
  others : ∀ other, other ≠ id → after.upload other = before.upload other ∧
    ∀ found, before.upload other = some found →
      after.files found.partialPath = before.files found.partialPath
  files : ∀ path, path ≠ upload.partialPath → after.files path = before.files path
  prints : after.prints = before.prints
  flag : after.printInProgress = before.printInProgress

variable {V : Type} [QVariantApi V] {s : State} {request : QVariantMap V} {io : RequestIo V}

omit [QVariantApi V] in
/-- A response changes nothing but the trace. -/
theorem response_state (command : String) (ok : Bool) (result : Result V) (error : String) :
    (response s command io ok result error).1 =
      { s with trace := (response s command io ok result error).1.trace } := by
  unfold response
  split
  · rfl
  · rfl

omit [QVariantApi V] in
/-- Nothing is found for an id that was erased. -/
theorem lookup_erase (s : State) (id : String) : (s.erase id).upload id = none := by
  rw [State.upload, List.lookup_eq_none_iff]
  intro entry hentry
  have hkey := (List.mem_filter.mp hentry).2
  rw [bne_iff_ne] at hkey ⊢
  exact Ne.symm hkey

/-- Without a print in progress, a cancel request releases its upload. -/
theorem cancel_released {start : Store String} (h : Accounted start s.ledger)
    (hflag : s.printInProgress = false)
    (hcommand : trimmed (request.string "command" "") = "cancelRasterUpload") {upload : UploadState}
    (hupload : s.upload (uploadIdOf request) = some upload) (sha256 : Sha256) :
    Released (uploadIdOf request) upload s (handleRequest sha256 s request io).1 ∧
      ∃ reply, (handleRequest sha256 s request io).2 = some reply ∧ reply.ok = true := by
  have hfound : s.upload ((request.map "arguments").string "uploadId" "") = some upload := hupload
  have hhandle : handleRequest sha256 s request io =
      response ((s.removeFile upload.partialPath).erase (uploadIdOf request))
        "cancelRasterUpload" io true .none "" := by
    simp [handleRequest, hcommand, hflag, cancelRasterUpload, hfound, uploadIdOf]
  have hentry := h.entries _ _ (mem_of_lookup hupload)
  rw [hhandle, response_state]
  refine ⟨⟨lookup_erase .., Store.remove_same .., ?_, ?_, rfl, rfl⟩, _, rfl, rfl⟩
  · intro other hother
    refine ⟨?_, ?_⟩
    · exact lookup_filter fun entry _ hkey ↦ by simpa [hkey] using hother
    · intro found hlookup
      have hpath := (h.entries _ _ (mem_of_lookup hlookup)).path
      refine Store.remove_other _ ?_
      rw [hpath, hentry.path]
      intro heq
      exact hother (partial_path_inj heq)
  · intro path hpath
    exact Store.remove_other _ hpath

/-- In every state of a run a cancel request for an upload in progress is answered `ok` and releases
the upload and nothing else, unless a committed upload is printing: then it is refused and changes
nothing. -/
theorem cancel_upload (sha256 : Sha256) (files : Store String) (actions : List (Action V))
    {request : QVariantMap V} (io : RequestIo V)
    (hcommand : trimmed (request.string "command" "") = "cancelRasterUpload") {upload : UploadState}
    (hupload : (run sha256 files actions).upload (uploadIdOf request) = some upload) :
    ((∀ path, .upload path ∉ (run sha256 files actions).prints) →
      Released (uploadIdOf request) upload (run sha256 files actions)
        (handleRequest sha256 (run sha256 files actions) request io).1 ∧
      ∃ reply, (handleRequest sha256 (run sha256 files actions) request io).2 = some reply ∧
        reply.ok = true) ∧
    ((∃ path, .upload path ∈ (run sha256 files actions).prints) →
      (handleRequest sha256 (run sha256 files actions) request io).1 = run sha256 files actions ∧
      ∃ reply, (handleRequest sha256 (run sha256 files actions) request io).2 = some reply ∧
        reply.ok = false ∧ reply.error = "A print job is already in progress.") := by
  have hflagged := run_flagged sha256 files actions
  have haccounted := run_accounted sha256 files actions
  refine ⟨?_, ?_⟩
  · intro hnone
    -- The flag is set exactly while the print of an upload is executing.
    rcases hflagged with ⟨hflag, -⟩ | ⟨-, path, rest, hprints, -⟩
    · exact cancel_released haccounted hflag hcommand hupload sha256
    · exact absurd (by rw [hprints]; exact List.mem_cons_self) (hnone path)
  · intro ⟨path, hprinting⟩
    rcases hflagged with ⟨-, hnone⟩ | ⟨hflag, -⟩
    · exact absurd hprinting (hnone path)
    · refine ⟨handle_request_busy sha256 io hflag (by rw [hcommand]; decide), ?_⟩
      simp [handleRequest, hcommand, hflag, response]

/-- The request that cancels the upload "v". -/
def cancelSecond : QVariantMap Variant :=
  variantMap
    [("command", .string "cancelRasterUpload"), ("arguments", .map [("uploadId", .string "v")])]

/-- An upload "v" begins before the upload "u". -/
def secondUpload : List (Action Variant) :=
  (oneLineUpload.take 1).map fun action ↦
    match action with
    | .request request io => .request request { io with uploadId := "v" }
    | other => other

/-- While "u" prints, "v" is canceled, but its entry and its file stay. -/
theorem printing_upload_keeps_canceled :
    (run zeroDigest (fun _ ↦ none) (secondUpload ++ oneLineUpload)).prints.length = 1 ∧
    ((run zeroDigest (fun _ ↦ none) (secondUpload ++ oneLineUpload)).upload "v").isSome ∧
    ((handleRequest zeroDigest (run zeroDigest (fun _ ↦ none) (secondUpload ++ oneLineUpload))
      cancelSecond quietIo).1.upload "v").isSome ∧
    ((handleRequest zeroDigest (run zeroDigest (fun _ ↦ none) (secondUpload ++ oneLineUpload))
      cancelSecond quietIo).1.files (partialPathOf "v")).isSome := by
  decide +kernel

/-- Before anything prints, the cancel releases it. -/
theorem cancel_upload_second :
    ((handleRequest zeroDigest (run zeroDigest (fun _ ↦ none) secondUpload) cancelSecond
      quietIo).1.upload "v") = none ∧
    ((handleRequest zeroDigest (run zeroDigest (fun _ ↦ none) secondUpload) cancelSecond
      quietIo).1.files (partialPathOf "v")) = none := by
  obtain ⟨hreleased, -⟩ := (cancel_upload zeroDigest (fun _ ↦ none) secondUpload quietIo
    (rfl : trimmed (cancelSecond.string "command" "") = "cancelRasterUpload") rfl).1
    (fun path ↦ List.not_mem_nil)
  exact ⟨hreleased.entry, hreleased.file⟩

end PrintFlow.PrinterServiceServer
