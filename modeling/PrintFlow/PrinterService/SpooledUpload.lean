import PrintFlow.Library.World
import PrintFlow.PrinterService.Accounting
import PrintFlow.PrinterService.ClientUpload
import PrintFlow.PrinterService.Messages
import PrintFlow.PrinterService.Uploads

/-!
# A spool on its way to the printer

`submitSpooledJob` sends a spool file to the service in chunks and commits it. Between its requests
and during its print the service does other things, and it may be replaced; requests and replies may
be lost. `spool_delivered`: when the client returns true, the service has printed this spool with
these settings from a file with the same bytes, once, and that print succeeded.
-/

namespace PrintFlow.PrinterServiceClient

open FileStore Interaction PrinterServiceProtocol PrinterServiceServer QVariantMessage RasterSpool

variable {V : Type} [QVariantApi V] [QVariantMessage V]

/-- What `submitSpooledJob` asks: for the checksum of the spool, for a service that can stream, for
the size of the file when it opens, for `m_cancelUpload`, for a part of the file, and for the reply
to a request. -/
inductive UploadCall (V : Type) where
  | verify
  | service
  | openFile
  | canceled
  | read (count : Nat)
  | request (command : String) (arguments : QVariantMap V) (payload : Bytes)

/-- The answers. -/
abbrev UploadCall.Answer : UploadCall V → Type
  | .verify => Bool
  | .service => Bool
  | .openFile => Option Nat
  | .canceled => Bool
  | .read _ => Bytes
  | .request _ _ _ => QVariantMap V

/-- A part of `submitSpooledJob`. -/
abbrev Upload (V : Type) := Program (UploadCall V) UploadCall.Answer

/-- `request`. -/
def request (command : String) (arguments : QVariantMap V) (payload : Bytes) :
    Upload V (QVariantMap V) :=
  Program.call (UploadCall.request command arguments payload)

/-- The arguments that name an upload. -/
def uploadArguments (uploadId : String) : QVariantMap V := .ofEntries [("uploadId", ofString uploadId)]

/-- The arguments of `beginRasterUpload`. -/
def beginArguments (spool : DirectPrintSpool) (settings : DirectPrintSettings) : QVariantMap V :=
  .ofEntries
    [("spool", ofMap (spoolMetadata spool)), ("settings", ofMap (settingsToMap settings)),
      ("fileBytes", QVariantOf.ofULongLong (expectedBytes spool))]

/-- The arguments of `appendRasterChunk`. -/
def appendArguments (uploadId : String) (offset : Nat) : QVariantMap V :=
  .ofEntries
    [("uploadId", ofString uploadId), ("offset", QVariantOf.ofULongLong (UInt64.ofNat offset))]

/-- The upload is given up. -/
def giveUp (uploadId : String) : Upload V Bool := do
  let _ ← request "cancelRasterUpload" (uploadArguments uploadId) []
  return false

/-- The loop that sends the chunks, and whether it has sent them all. -/
def sendChunks (uploadId : String) (chunkBytes expected offset : Nat) : Upload V Bool :=
  if offset < expected then
    .ask .canceled fun canceled ↦
      if canceled then giveUp uploadId
      else
        .ask (.read chunkBytes) fun chunk ↦
          match chunk with
          | [] => giveUp uploadId
          | byte :: rest =>
            request "appendRasterChunk" (appendArguments uploadId offset) (byte :: rest) >>=
              fun reply ↦
                if responseOk reply then
                  sendChunks uploadId chunkBytes expected (offset + (byte :: rest).length)
                else giveUp uploadId
  else return true
termination_by expected - offset
decreasing_by
  simp only [List.length_cons]
  omega

/-- The end of `submitSpooledJob`, once all chunks are sent. -/
def commitUpload (uploadId : String) : Upload V Bool := do
  if ← .call .canceled then giveUp uploadId
  else
    let committed ← request "commitRasterUpload" (uploadArguments uploadId) []
    return responseOk committed

/-- `submitSpooledJob` with an open file. -/
def uploadFile (spool : DirectPrintSpool) (settings : DirectPrintSettings) : Upload V Bool := do
  let begun ← request "beginRasterUpload" (beginArguments spool settings) []
  if !responseOk begun then return false
  let result := begun.map "result"
  let uploadId := result.string "uploadId" ""
  let chunkBytes := clampChunkBytes (result.longLong "chunkBytes" (1024 * 1024))
  if uploadId = "" then return false
  if ← sendChunks uploadId chunkBytes (expectedBytes spool).toNat 0 then commitUpload uploadId
  else return false

/-- `submitSpooledJob`. -/
def submitSpooledJob (spool : DirectPrintSpool) (settings : DirectPrintSettings) :
    Upload V Bool := do
  if !(← .call .verify) then return false
  if !(← .call .service) then return false
  let some size ← Program.call (UploadCall.openFile (V := V)) | return false
  if UInt64.ofNat size ≠ expectedBytes spool then return false
  uploadFile spool settings

/-! ## What the service does with each request -/

section Requests

variable [LawfulQVariantMessage V] {sha256 : Sha256} {id : String} {spool : DirectPrintSpool}
  {settings : DirectPrintSettings} {s s' : PrinterServiceServer.State} {io : RequestIo V}
  {response : Response V} {reply : Option (Response V)}

omit [QVariantApi V] [QVariantMessage V] [LawfulQVariantMessage V] in
/-- What a response says and leaves. -/
theorem response_eq {command error : String} {ok : Bool} {result : Result V}
    (h : PrinterServiceServer.response s command io ok result error = (s', some response)) :
    s'.ledger = s.ledger ∧ response.ok = ok ∧ response.result = result := by
  have hstate := congrArg Prod.fst h
  have hreply := Option.some.inj (congrArg Prod.snd h)
  dsimp only at hstate
  rw [← hstate, ← hreply]
  exact ⟨response_ledger .., rfl, rfl⟩

omit [QVariantApi V] [QVariantMessage V] [LawfulQVariantMessage V] in
/-- A refusal is not a success. -/
theorem not_refused {command error : String} {result : Result V} (hok : response.ok = true) :
    PrinterServiceServer.response s command io false result error ≠ (s', some response) := by
  intro h
  rw [(response_eq h).2.1] at hok
  exact Bool.false_ne_true hok

/-- A stored format that passes the check is the one whose number was sent. -/
theorem raster_format_value {format read : DirectPrintRasterFormat}
    (h : rasterFormat (Int32.ofNat format.value.toNat) = some read) : read = format := by
  have hword : (Int32.ofNat format.value.toNat).toInt = format.value.toNat :=
    Int32.toInt_ofNat_of_lt (by have := format.value.toNat_lt; omega)
  unfold rasterFormat at h
  split_ifs at h
  rw [hword, Int.toNat_natCast] at h
  simpa using (Option.some.inj h).symm

/-- Metadata that the service accepts is what was sent, less the path. -/
theorem spool_metadata_accepted {declared : DirectPrintSpool}
    (h : spoolMetadataFromMap (spoolMetadata spool : QVariantMap V) = .ok declared) :
    declared = { spool with path := "" } := by
  simp only [spoolMetadataFromMap, spoolMetadata, QVariantMap.ofEntries, QVariantMap.int,
    QVariantMap.list, QVariantMap.uint64, QVariantMap.byteArray, List.lookup_cons, String.reduceBEq,
    beq_self_eq_true, Option.elim_some, LawfulQVariant.to_int, LawfulQVariant.to_list,
    LawfulQVariant.to_ulonglong, LawfulQVariant.to_byte_array, header_list_to_header,
    channel_list_to_int] at h
  split at h
  · cases h
  · next format hformat =>
      split_ifs at h
      rw [← Except.ok.inj h, raster_format_value hformat]

/-- What the service takes from the arguments of `beginRasterUpload`. -/
theorem declared_begin {fileBytes : UInt64} {declared : DirectPrintSpool}
    {values : DirectPrintSettings}
    (h : declaredUpload (beginArguments spool settings : QVariantMap V) =
      .ok (fileBytes, declared, values)) :
    fileBytes = expectedBytes spool ∧ declared = { spool with path := "" } ∧ values = settings := by
  have hmap : (beginArguments spool settings : QVariantMap V).map "spool" = spoolMetadata spool := by
    simp [beginArguments, QVariantMap.ofEntries, QVariantMap.map]
  have hsettings : (beginArguments spool settings : QVariantMap V).map "settings" =
      settingsToMap settings := by
    simp [beginArguments, QVariantMap.ofEntries, QVariantMap.map, List.lookup_cons]
  have hbytes : (beginArguments spool settings : QVariantMap V).uint64 "fileBytes" =
      expectedBytes spool := by
    simp [beginArguments, QVariantMap.ofEntries, QVariantMap.uint64, List.lookup_cons]
  simp only [declaredUpload, hmap, hsettings, hbytes, settings_from_map_to_map] at h
  split at h
  · cases h
  · next expected hexpected =>
      split at h
      · cases h
      · split_ifs at h
        obtain ⟨rfl, rfl, rfl⟩ : expectedBytes spool = fileBytes ∧ expected = declared ∧
            settings = values := by simpa using h
        exact ⟨rfl, spool_metadata_accepted hexpected, rfl⟩

/-- A begin that is answered with success begins the upload that was declared. -/
theorem begin_ok (h : handleRequest sha256 s
      (requestMessage "beginRasterUpload" (beginArguments spool settings) []) io =
        (s', some response)) (hok : response.ok = true) :
    history io.uploadId s'.log = history io.uploadId s.log ++
        [.began io.uploadId (expectedBytes spool) { spool with path := "" } settings] ∧
      response.result = .upload io.uploadId uploadChunkBytes := by
  rw [handle_begin sha256 s io (by rw [request_command]; decide), request_arguments] at h
  split_ifs at h
  · exact absurd h (not_refused hok)
  · unfold beginRasterUpload at h
    split at h
    · exact absurd h (not_refused hok)
    · next fileBytes declared values hdeclared =>
        obtain ⟨rfl, rfl, rfl⟩ := declared_begin hdeclared
        dsimp only at h
        split_ifs at h
        · exact absurd h (not_refused hok)
        · exact absurd h (not_refused hok)
        · obtain ⟨hledger, -, hresult⟩ := response_eq h
          refine ⟨?_, hresult⟩
          rw [show s'.log = s.log ++ [.began io.uploadId (expectedBytes spool)
            { spool with path := "" } values] from congrArg Ledger.log hledger]
          exact history_append_same _ rfl

/-- A chunk that is answered with success is accepted. -/
theorem append_ok {offset : Nat} {chunk : Bytes} (h : handleRequest sha256 s
      (requestMessage "appendRasterChunk" (appendArguments id offset) chunk) io =
        (s', some response)) (hok : response.ok = true) :
    (∃ upload, s.upload id = some upload) ∧
      history id s'.log = history id s.log ++ [.accepted id chunk] := by
  have hid : (appendArguments id offset : QVariantMap V).string "uploadId" "" = id := by
    simp [appendArguments, QVariantMap.ofEntries, QVariantMap.string]
  have hcommand : trimmed "appendRasterChunk" = "appendRasterChunk" := by decide
  simp only [handleRequest, request_command, request_arguments, request_payload, hcommand] at h
  simp only [String.reduceEq, if_false, if_true, ne_eq, not_false_eq_true, and_true] at h
  split_ifs at h
  · exact absurd h (not_refused hok)
  · unfold appendRasterChunk at h
    rw [hid] at h
    dsimp only at h
    split at h
    · exact absurd h (not_refused hok)
    · next upload hupload =>
        refine ⟨⟨upload, hupload⟩, ?_⟩
        split_ifs at h
        · exact absurd h (not_refused hok)
        · exact absurd h (not_refused hok)
        · rw [show s'.log = s.log ++ [.accepted id chunk] from
            congrArg Ledger.log (response_eq h).1]
          exact history_append_same _ rfl

/-- What a commit does: it is refused, or the print of the uploaded spool begins. -/
theorem commit_cases (h : handleRequest sha256 s
      (requestMessage "commitRasterUpload" (uploadArguments id : QVariantMap V) []) io =
        (s', reply)) :
    (∃ response, reply = some response ∧ response.ok = false) ∨
      (reply = none ∧ ∃ upload uploaded, s.upload id = some upload ∧
        s'.prints = .upload (finalPathOf upload.partialPath) :: s.prints ∧
        spooledCalls s'.trace = spooledCalls s.trace ++ [(uploaded, upload.settings)] ∧
        history id s'.log = history id s.log ++ [.submitted id uploaded upload.settings]) := by
  have hid : (uploadArguments id : QVariantMap V).string "uploadId" "" = id := by
    simp [uploadArguments, QVariantMap.ofEntries, QVariantMap.string]
  have hcommand : trimmed "commitRasterUpload" = "commitRasterUpload" := by decide
  simp only [handleRequest, request_command, request_arguments, request_payload, hcommand] at h
  simp only [String.reduceEq, if_false, if_true, ne_eq, not_false_eq_true, and_true] at h
  have hrefused : ∀ {t : PrinterServiceServer.State} {error : String},
      PrinterServiceServer.response t "commitRasterUpload" io false .none error = (s', reply) →
        ∃ response, reply = some response ∧ response.ok = false := by
    intro t error heq
    exact ⟨_, (congrArg Prod.snd heq).symm, rfl⟩
  split_ifs at h
  · exact Or.inl (hrefused h)
  · unfold commitRasterUpload at h
    rw [hid] at h
    dsimp only at h
    split at h
    · exact Or.inl (hrefused h)
    · next upload hupload =>
        split_ifs at h
        · exact Or.inl (hrefused h)
        · split at h
          · exact Or.inl (hrefused h)
          · split at h
            · exact Or.inl (hrefused h)
            · next uploaded _ =>
                obtain ⟨rfl, rfl⟩ := Prod.mk.inj h
                refine Or.inr ⟨rfl, upload, uploaded, hupload, rfl, ?_, ?_⟩
                · simp [spooledCalls, BackendCall.spooled, State.call, State.erase]
                · exact history_append_same _ rfl
        · exact Or.inl (hrefused h)

end Requests

/-! ## The service meanwhile -/

/-- What happens in a service that does not concern an upload id. -/
inductive Others (V : Type) [QVariantApi V] (sha256 : Sha256) (id : String)
    (s : PrinterServiceServer.State) : PrinterServiceServer.State → Prop where
  | refl : Others V sha256 id s s
  | act {s'} (action : PrinterServiceServer.Action V) :
      Others V sha256 id s s' → Fresh s' action → ¬ Concerns s' id action →
      Others V sha256 id s (PrinterServiceServer.step sha256 s' action)

/-- The same, or a new service took the place of this one. -/
inductive Meanwhile (V : Type) [QVariantApi V] (sha256 : Sha256) (id : String)
    (s : PrinterServiceServer.State) : PrinterServiceServer.State → Prop where
  | same {s'} : Others V sha256 id s s' → Meanwhile V sha256 id s s'
  | replaced {s'} (files) : Others V sha256 id { files } s' → Meanwhile V sha256 id s s'

/-- A print of an uploaded spool: what the backend was given, the file when the print returns, and
whether it succeeded. -/
structure Print where
  spool : DirectPrintSpool
  settings : DirectPrintSettings
  content : Option Bytes
  ok : Bool

/-- What comes of a request: it is lost; it is answered at once; its print begins and is not waited
for; or its print returns. A reply that does not arrive is a failure for the client. -/
inductive Serves (sha256 : Sha256) (id : String) (message : QVariantMap V)
    (s : PrinterServiceServer.State) :
    PrinterServiceServer.State → List Print → QVariantMap V → Prop where
  | lost {s' reply} :
      Meanwhile V sha256 id s s' → responseOk reply = false → Serves sha256 id message s s' [] reply
  | answered {found after s' io response state reply} :
      Meanwhile V sha256 id s found → found.crashed = false → Fresh found (.request message io) →
      (trimmed (message.string "command" "") = "beginRasterUpload" → io.uploadId = id) →
      handleRequest sha256 found message io = (after, some response) →
      Meanwhile V sha256 id after s' →
      (reply = responseMessage state response ∨ responseOk reply = false) →
      Serves sha256 id message s s' [] reply
  | unanswered {found after s' io reply} :
      Meanwhile V sha256 id s found → found.crashed = false → Fresh found (.request message io) →
      handleRequest sha256 found message io = (after, none) →
      Meanwhile V sha256 id after s' → responseOk reply = false →
      Serves sha256 id message s s' [] reply
  | printed {found after before returned s' io spool settings path rest ok returnIo response state
      reply} :
      Meanwhile V sha256 id s found → found.crashed = false → Fresh found (.request message io) →
      handleRequest sha256 found message io = (after, none) →
      spooledCalls after.trace = spooledCalls found.trace ++ [(spool, settings)] →
      Others V sha256 id after before → before.prints = .upload path :: rest →
      after.prints = .upload path :: rest →
      finishPrint { before with prints := rest } returnIo (.upload path) ok =
        (returned, some response) →
      Meanwhile V sha256 id returned s' →
      (reply = responseMessage state response ∨ responseOk reply = false) →
      Serves sha256 id message s s' [{ spool, settings, content := before.files path, ok }] reply

/-- The service, the position in the open file, and what was printed for the client. -/
structure World where
  service : PrinterServiceServer.State
  position : Nat := 0
  prints : List Print := []

/-- How the world answers `submitSpooledJob`, whose spool file holds these bytes. The size of a file
is a `qint64`. -/
inductive WorldStep (sha256 : Sha256) (id : String) (file : Bytes) (w : World) :
    Event (UploadCall V) UploadCall.Answer → World → Prop where
  | verify {service ok} :
      Meanwhile V sha256 id w.service service →
      WorldStep sha256 id file w ⟨.verify, ok⟩ { w with service }
  | service {service ok} :
      Meanwhile V sha256 id w.service service →
      WorldStep sha256 id file w ⟨.service, ok⟩ { w with service }
  | openFile {service size} :
      Meanwhile V sha256 id w.service service →
      (∀ found, size = some found → found = file.length ∧ found < 2 ^ 63) →
      WorldStep sha256 id file w ⟨.openFile, size⟩ { w with service, position := 0 }
  | canceled {service canceled} :
      Meanwhile V sha256 id w.service service →
      WorldStep sha256 id file w ⟨.canceled, canceled⟩ { w with service }
  | read {service count} {chunk : Bytes} :
      Meanwhile V sha256 id w.service service → chunk <+: file.drop w.position →
      chunk.length ≤ count →
      WorldStep sha256 id file w ⟨.read count, chunk⟩
        { w with service, position := w.position + chunk.length }
  | request {service prints command arguments payload reply} :
      Serves sha256 id (requestMessage command arguments payload) w.service service prints reply →
      WorldStep sha256 id file w ⟨.request command arguments payload, reply⟩
        { w with service, prints := w.prints ++ prints }

section Stages

variable {sha256 : Sha256} {id : String} {s s' : PrinterServiceServer.State}

omit [QVariantApi V] [QVariantMessage V] in
theorem untouched_trans {l middle l' : Ledger} (first : Untouched id l middle)
    (second : Untouched id middle l') : Untouched id l l' where
  uploads upload := (second.uploads upload).trans (first.uploads upload)
  lookup := second.lookup.trans first.lookup
  history := second.history.trans first.history
  chunks := second.chunks.trans first.chunks
  spool := second.spool.trans first.spool

omit [QVariantMessage V] in
/-- Others keep the uploads intact and leave the id alone. -/
theorem Others.kept (h : Others V sha256 id s s') (hs : Intact sha256 s.ledger) :
    Intact sha256 s'.ledger ∧ Untouched id s.ledger s'.ledger := by
  induction h with
  | refl => exact ⟨hs, fun _ ↦ Iff.rfl, rfl, rfl, rfl, rfl⟩
  | act action _ hfresh hconcerns ih =>
      have hstep := step_preserved _ action hfresh ih.1
      exact ⟨hstep.intact, untouched_trans ih.2 (hstep.others id hconcerns)⟩

/-- The uploads are intact, and the id has this history, unless a new service has forgotten it. -/
def Reached (sha256 : Sha256) (id : String) (past : List LogEntry)
    (s : PrinterServiceServer.State) : Prop :=
  Intact sha256 s.ledger ∧ (history id s.log = past ∨ history id s.log = [])

omit [QVariantMessage V] in
theorem Meanwhile.reached {past : List LogEntry} (h : Meanwhile V sha256 id s s')
    (hs : Reached sha256 id past s) : Reached sha256 id past s' := by
  cases h with
  | same hothers =>
      obtain ⟨hintact, huntouched⟩ := hothers.kept hs.1
      refine ⟨hintact, ?_⟩
      rw [show history id s'.log = history id s.log from huntouched.history]
      exact hs.2
  | replaced files hothers =>
      obtain ⟨hintact, huntouched⟩ := hothers.kept (Intact.init files)
      exact ⟨hintact, Or.inr huntouched.history⟩

variable {spool : DirectPrintSpool} {settings : DirectPrintSettings} {prints : List Print}
  {reply : QVariantMap V} {sent : List Bytes}

/-- What happened to an upload whose chunks so far are these. -/
def past (id : String) (spool : DirectPrintSpool) (settings : DirectPrintSettings)
    (sent : List Bytes) : List LogEntry :=
  .began id (expectedBytes spool) { spool with path := "" } settings :: sent.map (.accepted id)

omit [QVariantMessage V] in
/-- A request that is handled keeps the uploads intact. -/
theorem handled_intact {message : QVariantMap V} {io : RequestIo V}
    (hs : Intact sha256 s.ledger) (hrunning : s.crashed = false)
    (hfresh : Fresh s (.request message io)) :
    Intact sha256 (handleRequest sha256 s message io).1.ledger := by
  have hstep := (step_preserved s (.request message io) hfresh hs).intact
  rwa [PrinterServiceServer.step, hrunning, if_neg Bool.false_ne_true] at hstep

omit [QVariantMessage V] in
/-- An upload in progress has a history. -/
theorem history_of_upload {upload : UploadState} (hs : Intact sha256 s.ledger)
    (h : s.upload id = some upload) :
    upload.partialPath = PrinterServiceServer.partialPathOf id ∧ history id s.log ≠ [] := by
  have huploading := hs.uploads id upload (mem_of_lookup h)
  refine ⟨huploading.path, fun hnone ↦ ?_⟩
  obtain ⟨chunks, hhistory, -⟩ := huploading.chunks
  rw [show history id s.ledger.log = [] from hnone] at hhistory
  exact absurd hhistory nofun

variable [LawfulQVariantMessage V]

theorem begin_answered {io : RequestIo V} (h : handleRequest sha256 s
      (requestMessage "beginRasterUpload" (beginArguments spool settings) []) io = (s', none)) :
    False := by
  rw [handle_begin sha256 s io (by rw [request_command]; decide)] at h
  have hsome := congrArg Prod.snd h
  split_ifs at hsome
  · exact Option.some_ne_none _ hsome
  · unfold beginRasterUpload at hsome
    split at hsome
    · exact Option.some_ne_none _ hsome
    · dsimp only at hsome
      split_ifs at hsome
      all_goals exact Option.some_ne_none _ hsome

/-- A begin that succeeds begins the upload that was declared, under the id the client gets. -/
theorem serves_begin (h : Serves sha256 id
      (requestMessage "beginRasterUpload" (beginArguments spool settings) []) s s' prints reply)
    (hs : Reached sha256 id [] s) :
    prints = [] ∧ (responseOk reply = true → (reply.map "result").string "uploadId" "" = id ∧
      Reached sha256 id (past id spool settings []) s') := by
  cases h with
  | lost _ hlost => exact ⟨rfl, fun hok ↦ absurd (hlost.symm.trans hok) nofun⟩
  | unanswered _ _ _ hnone => exact (begin_answered hnone).elim
  | printed _ _ _ hnone => exact (begin_answered hnone).elim
  | @answered found after s' io response state reply hfound hrunning hfresh hid hhandled hafter
      hreply =>
      refine ⟨rfl, fun hok ↦ ?_⟩
      obtain rfl : reply = responseMessage state response :=
        hreply.resolve_right fun hlost ↦ absurd (hlost.symm.trans hok) nofun
      rw [response_ok] at hok
      obtain rfl := hid (by rw [request_command]; decide)
      obtain ⟨hintact, hpast⟩ := hfound.reached hs
      have hnew : history io.uploadId found.log = [] := hpast.elim id id
      obtain ⟨hbegan, hresult⟩ := begin_ok hhandled hok
      rw [hnew, List.nil_append] at hbegan
      have hkept := handled_intact hintact hrunning hfresh
      rw [hhandled] at hkept
      exact ⟨(response_upload state hresult).1, hafter.reached ⟨hkept, Or.inl hbegan⟩⟩

theorem append_answered {io : RequestIo V} {offset : Nat} {chunk : Bytes}
    (h : handleRequest sha256 s
      (requestMessage "appendRasterChunk" (appendArguments id offset) chunk) io = (s', none)) :
    False := by
  have hcommand : trimmed "appendRasterChunk" = "appendRasterChunk" := by decide
  simp only [handleRequest, request_command, hcommand] at h
  simp only [String.reduceEq, if_false, if_true, ne_eq, not_false_eq_true, and_true] at h
  have hsome := congrArg Prod.snd h
  split_ifs at hsome
  · exact Option.some_ne_none _ hsome
  · unfold appendRasterChunk at hsome
    dsimp only at hsome
    split at hsome
    · exact Option.some_ne_none _ hsome
    · split_ifs at hsome
      all_goals exact Option.some_ne_none _ hsome

/-- A chunk that succeeds is the next one of the upload. -/
theorem serves_append {offset : Nat} {chunk : Bytes} (h : Serves sha256 id
      (requestMessage "appendRasterChunk" (appendArguments id offset) chunk) s s' prints reply)
    (hs : Reached sha256 id (past id spool settings sent) s) :
    prints = [] ∧ (responseOk reply = true →
      Reached sha256 id (past id spool settings (sent ++ [chunk])) s') := by
  cases h with
  | lost _ hlost => exact ⟨rfl, fun hok ↦ absurd (hlost.symm.trans hok) nofun⟩
  | unanswered _ _ _ hnone => exact (append_answered hnone).elim
  | printed _ _ _ hnone => exact (append_answered hnone).elim
  | @answered found after s' io response state reply hfound hrunning hfresh _ hhandled hafter
      hreply =>
      refine ⟨rfl, fun hok ↦ ?_⟩
      obtain rfl : reply = responseMessage state response :=
        hreply.resolve_right fun hlost ↦ absurd (hlost.symm.trans hok) nofun
      rw [response_ok] at hok
      obtain ⟨hintact, hpast⟩ := hfound.reached hs
      obtain ⟨⟨upload, hupload⟩, haccepted⟩ := append_ok hhandled hok
      -- An upload that accepts a chunk was not forgotten.
      have hhistory := hpast.resolve_right (history_of_upload hintact hupload).2
      have hkept := handled_intact hintact hrunning hfresh
      rw [hhandled] at hkept
      refine hafter.reached ⟨hkept, Or.inl ?_⟩
      rw [haccepted, hhistory, past, past, List.map_append, List.map_singleton, List.cons_append]

theorem cancel_answered {io : RequestIo V} (h : handleRequest sha256 s
      (requestMessage "cancelRasterUpload" (uploadArguments id) []) io = (s', none)) : False := by
  have hcommand : trimmed "cancelRasterUpload" = "cancelRasterUpload" := by decide
  simp only [handleRequest, request_command, hcommand] at h
  simp only [String.reduceEq, if_false, if_true, ne_eq, not_false_eq_true, and_true] at h
  have hsome := congrArg Prod.snd h
  split_ifs at hsome
  · exact Option.some_ne_none _ hsome
  · unfold cancelRasterUpload at hsome
    dsimp only at hsome
    split at hsome
    all_goals exact Option.some_ne_none _ hsome

/-- A request to cancel prints nothing. -/
theorem serves_cancel (h : Serves sha256 id
    (requestMessage "cancelRasterUpload" (uploadArguments id) []) s s' prints reply) :
    prints = [] := by
  cases h with
  | lost _ _ => rfl
  | answered _ _ _ _ _ _ _ => rfl
  | unanswered _ _ _ hnone => exact (cancel_answered hnone).elim
  | printed _ _ _ hnone => exact (cancel_answered hnone).elim

/-- A commit prints nothing, or the declared spool from the chunks; it succeeds only with the
print. -/
theorem serves_commit (h : Serves sha256 id
      (requestMessage "commitRasterUpload" (uploadArguments id) []) s s' prints reply)
    (hs : Reached sha256 id (past id spool settings sent) s) :
    (prints = [] ∧ responseOk reply = false) ∨
      ∃ ok, (responseOk reply = true → ok = true) ∧ prints = [
        { spool := { spool with
            path := PrinterServiceServer.finalPathOf (PrinterServiceServer.partialPathOf id) }
          settings
          content := some sent.flatten
          ok }] := by
  cases h with
  | lost _ hlost => exact Or.inl ⟨rfl, hlost⟩
  | unanswered _ _ _ _ _ hlost => exact Or.inl ⟨rfl, hlost⟩
  | answered _ _ _ _ hhandled _ hreply =>
      refine Or.inl ⟨rfl, ?_⟩
      rcases hreply with rfl | hlost
      · rw [response_ok]
        rcases commit_cases hhandled with ⟨_, heq, hrefused⟩ | ⟨hnone, -⟩
        · rw [Option.some.inj heq]
          exact hrefused
        · exact absurd hnone (Option.some_ne_none _)
      · exact hlost
  | @printed found after before returned s' io submitted values path rest ok returnIo response state
      reply hfound hrunning hfresh hhandled hcall hothers hbefore hafter hreturned _ hreply =>
      have hresult : responseOk reply = true → ok = true := by
        intro hok
        rw [hreply.resolve_right fun hlost ↦ absurd (hlost.symm.trans hok) nofun, response_ok] at hok
        simp only [finishPrint] at hreturned
        have hanswer := Option.some.inj (congrArg Prod.snd hreturned)
        rwa [← hanswer] at hok
      obtain ⟨hintact, hpast⟩ := hfound.reached hs
      have hkept := handled_intact hintact hrunning hfresh
      rw [hhandled] at hkept
      rcases commit_cases hhandled with ⟨_, heq, -⟩ |
        ⟨-, upload, uploaded, hupload, hprints, hcalls, hsubmitted⟩
      · exact absurd heq (Option.some_ne_none _).symm
      obtain ⟨hnamed, hsome⟩ := history_of_upload hintact hupload
      rw [hpast.resolve_right hsome] at hsubmitted
      -- What the backend was given, and the file it reads.
      obtain ⟨rfl, rfl⟩ : submitted = uploaded ∧ values = upload.settings := by
        have hlast := List.append_cancel_left (hcall.symm.trans hcalls)
        simpa using hlast
      obtain rfl : path = PrinterServiceServer.finalPathOf (PrinterServiceServer.partialPathOf id) := by
        rw [hafter, hnamed] at hprints
        simpa using (List.cons.inj hprints).1
      obtain ⟨other, printed, used, hpath, hintact'⟩ := hkept.printing
        (PrinterServiceServer.finalPathOf (PrinterServiceServer.partialPathOf id))
        (List.mem_filterMap.mpr ⟨_, by rw [hafter]; exact List.mem_cons_self, rfl⟩)
      obtain rfl : other = id := final_path_inj (hintact'.path.symm.trans hpath)
      obtain ⟨-, fileBytes, declared, chunks, hhistory, hfile, -, -, hdeclared, -⟩ := hintact'
      -- There is one history of the id.
      have hboth : past other spool settings sent ++ [.submitted other submitted upload.settings] =
          .began other fileBytes declared used ::
            (chunks.map (.accepted other) ++ [.submitted other printed used]) :=
        hsubmitted.symm.trans hhistory
      rw [past, List.cons_append] at hboth
      obtain ⟨hbegan, htail⟩ := List.cons.inj hboth
      obtain ⟨hchunks, hlast⟩ := List.append_inj' htail rfl
      obtain ⟨-, -, rfl, rfl⟩ : other = other ∧ expectedBytes spool = fileBytes ∧
          { spool with path := "" } = declared ∧ settings = used := by simpa using hbegan
      obtain ⟨-, rfl, hsettings⟩ : other = other ∧ submitted = printed ∧
          upload.settings = settings := by simpa using hlast
      obtain rfl : sent = chunks :=
        List.map_injective_iff.mpr (fun _ _ heq ↦ (LogEntry.accepted.inj heq).2) hchunks
      have hcontent := (hothers.kept hkept).2.spool
      have hread : before.files (PrinterServiceServer.finalPathOf
          (PrinterServiceServer.partialPathOf other)) = some sent.flatten := by
        rw [hpath] at hfile
        exact hcontent.trans hfile
      rw [hpath] at hdeclared
      refine Or.inr ⟨ok, hresult, ?_⟩
      rw [hread, hsettings, hdeclared]

/-- Only complete uploads are committed. -/
def Allowed (id : String) (w : World) (call : UploadCall V) : Prop :=
  ∀ arguments payload, call = .request "commitRasterUpload" arguments payload →
    ∀ upload, w.service.upload id = some upload → upload.receivedBytes = upload.expectedBytes

/-- The first bytes of the file are sent. -/
def Sending (sha256 : Sha256) (id : String) (file : Bytes) (spool : DirectPrintSpool)
    (settings : DirectPrintSettings) (offset : Nat) (w : World) : Prop :=
  ∃ sent : List Bytes, Reached sha256 id (past id spool settings sent) w.service ∧
    sent.flatten = file.take offset ∧ w.position = offset ∧ w.prints = [] ∧ offset ≤ file.length

variable {file : Bytes} {w : World} {offset : Nat}

omit [QVariantApi V] [QVariantMessage V] [LawfulQVariantMessage V] in
theorem allowed_request {command : String} {arguments : QVariantMap V} {payload : Bytes}
    (h : command ≠ "commitRasterUpload") :
    Allowed id w (.request command arguments payload) :=
  fun _ _ heq ↦ absurd (UploadCall.request.inj heq).1 h

/-- Giving up prints nothing. -/
theorem give_up_safely (hprints : w.prints = []) :
    Safely (WorldStep (V := V) sha256 id file) (Allowed id) (giveUp id)
      (fun result final ↦ result = false ∧ final.prints = []) w := by
  refine .call_bind (allowed_request (by decide)) fun _ next hstep ↦ .pure ⟨rfl, ?_⟩
  cases hstep with
  | request hserves =>
      show w.prints ++ _ = []
      rw [hprints, serves_cancel hserves, List.append_nil]

/-- The loop sends the whole file unless it gives up. -/
theorem send_chunks_safely (hsize : file.length = (expectedBytes spool).toNat) (chunkBytes : Nat)
    (h : Sending sha256 id file spool settings offset w) :
    Safely (WorldStep (V := V) sha256 id file) (Allowed id)
      (sendChunks id chunkBytes (expectedBytes spool).toNat offset)
      (fun all final ↦ final.prints = [] ∧ (all = true →
        Sending sha256 id file spool settings (expectedBytes spool).toNat final)) w := by
  have hgiven : ∀ {result : Bool} {final : World}, result = false ∧ final.prints = [] →
      final.prints = [] ∧ (result = true →
        Sending sha256 id file spool settings (expectedBytes spool).toNat final) := by
    rintro result final ⟨rfl, hnone⟩
    exact ⟨hnone, nofun⟩
  -- On what is left of the file.
  induction hleft : (expectedBytes spool).toNat - offset using Nat.strong_induction_on
    generalizing offset w with
  | _ left ih =>
      obtain ⟨sent, hreached, hsent, hposition, hprints, hoffset⟩ := h
      rw [sendChunks]
      refine .ite (fun hmore ↦ ?_) fun hdone ↦ ?_
      · refine .ask nofun fun canceled w' hstep ↦ ?_
        cases hstep with
        | @canceled service canceled hservice =>
        refine .ite (fun _ ↦ Safely.mono (give_up_safely hprints) fun _ _ ↦ hgiven) fun _ ↦ ?_
        refine .ask nofun fun chunk w' hstep ↦ ?_
        cases hstep with
        | @read later count chunk hlater hchunk hcount =>
        have hnow := hlater.reached (hservice.reached hreached)
        cases chunk with
        | nil => exact Safely.mono (give_up_safely hprints) fun _ _ ↦ hgiven
        | cons byte rest =>
        refine .call_bind (allowed_request (by decide)) fun reply w' hstep ↦ ?_
        cases hstep with
        | @request final prints command arguments payload reply hserves =>
        obtain ⟨hnone, hnext⟩ := serves_append hserves hnow
        have hquiet : w.prints ++ prints = [] := by rw [hprints, hnone, List.append_nil]
        refine .ite (fun hok ↦ ?_) fun _ ↦ Safely.mono (give_up_safely hquiet) fun _ _ ↦ hgiven
        -- The chunk is the next part of the file.
        dsimp only at hchunk
        rw [hposition] at hchunk
        have hfits := hchunk.length_le
        rw [List.length_drop] at hfits
        have htake : file.take (offset + (byte :: rest).length) =
            file.take offset ++ (byte :: rest) := by
          rw [List.take_add, ← List.prefix_iff_eq_take.mp hchunk]
        refine ih _ ?_ ⟨sent ++ [byte :: rest], hnext hok, ?_, ?_, hquiet, ?_⟩ rfl
        · simp only [List.length_cons]
          omega
        · rw [List.flatten_append, hsent, htake, List.flatten_singleton]
        · rw [hposition]
        · omega
      · refine .pure ⟨hprints, fun _ ↦ ⟨sent, hreached, ?_, ?_, hprints, ?_⟩⟩
        all_goals obtain rfl : offset = (expectedBytes spool).toNat := by omega
        · exact hsent
        · exact hposition
        · exact hoffset

/-- What the client may be told and what was printed: nothing, and the client is not told of a
success; or the spool from a file with its bytes, and the client is told of a success only if that
print succeeded. -/
def Delivered (id : String) (file : Bytes) (spool : DirectPrintSpool)
    (settings : DirectPrintSettings) (result : Bool) (final : World) : Prop :=
  (final.prints = [] ∧ result = false) ∨
    ∃ ok, (result = true → ok = true) ∧ final.prints = [
      { spool := { spool with
          path := PrinterServiceServer.finalPathOf (PrinterServiceServer.partialPathOf id) }
        settings
        content := some file
        ok }]

omit [QVariantApi V] [QVariantMessage V] [LawfulQVariantMessage V] in
/-- An upload whose history is the whole file is complete. -/
theorem upload_complete (hsize : file.length = (expectedBytes spool).toNat)
    (hs : Reached sha256 id (past id spool settings sent) s) (hsent : sent.flatten = file)
    {upload : UploadState} (h : s.upload id = some upload) :
    upload.receivedBytes = upload.expectedBytes := by
  have huploading := hs.1.uploads id upload (mem_of_lookup h)
  have hhistory := hs.2.resolve_right (history_of_upload hs.1 h).2
  obtain ⟨chunks, hchunks, -, hreceived⟩ := huploading.chunks
  obtain ⟨hbegan, hrest⟩ := List.cons.inj (hhistory.symm.trans hchunks)
  obtain rfl : sent = chunks :=
    List.map_injective_iff.mpr (fun _ _ heq ↦ (LogEntry.accepted.inj heq).2) hrest
  refine UInt64.toNat_inj.mp ?_
  rw [hreceived, hsent, hsize, (LogEntry.began.inj hbegan).2.1]

/-- The commit of a whole file. -/
theorem commit_upload_safely (hsize : file.length = (expectedBytes spool).toNat)
    (h : Sending sha256 id file spool settings (expectedBytes spool).toNat w) :
    Safely (WorldStep (V := V) sha256 id file) (Allowed id) (commitUpload id)
      (Delivered id file spool settings) w := by
  obtain ⟨sent, hreached, hsent, -, hprints, -⟩ := h
  rw [← hsize, List.take_length] at hsent
  refine .call_bind nofun fun canceled w' hstep ↦ ?_
  cases hstep with
  | @canceled service canceled hservice =>
  have hnow := hservice.reached hreached
  refine .ite (fun _ ↦ ?_) fun _ ↦ ?_
  · exact Safely.mono (give_up_safely hprints) fun _ _ hgiven ↦ Or.inl ⟨hgiven.2, hgiven.1⟩
  · refine .call_bind ?_ fun reply w' hstep ↦ .pure ?_
    · exact fun _ _ _ upload hupload ↦ upload_complete hsize hnow hsent hupload
    · cases hstep with
      | @request final prints command arguments payload reply hserves =>
      have hserved := serves_commit hserves hnow
      rw [hsent] at hserved
      show (w.prints ++ prints = [] ∧ _) ∨ ∃ ok, _ ∧ w.prints ++ prints = _
      rw [hprints, List.nil_append]
      exact hserved

/-- The upload of an open file. -/
theorem upload_file_safely (hsize : file.length = (expectedBytes spool).toNat)
    (hs : Reached sha256 id [] w.service) (hprints : w.prints = []) (hposition : w.position = 0) :
    Safely (WorldStep (V := V) sha256 id file) (Allowed id) (uploadFile spool settings)
      (Delivered id file spool settings) w := by
  refine .call_bind (allowed_request (by decide)) fun begun w' hstep ↦ ?_
  cases hstep with
  | @request service prints command arguments payload reply hserves =>
  obtain ⟨hnone, hbegun⟩ := serves_begin hserves hs
  have hquiet : w.prints ++ prints = [] := by rw [hprints, hnone, List.append_nil]
  refine .ite (fun _ ↦ .pure (Or.inl ⟨hquiet, rfl⟩)) fun hok ↦ ?_
  obtain ⟨hid, hreached⟩ := hbegun (by simpa using hok)
  refine .ite (fun _ ↦ .pure (Or.inl ⟨hquiet, rfl⟩)) fun _ ↦ ?_
  rw [hid]
  have hsending : Sending sha256 id file spool settings 0
      { w with service, prints := w.prints ++ prints } :=
    ⟨[], hreached, by simp, hposition, hquiet, Nat.zero_le _⟩
  refine .bind (send_chunks_safely hsize _ hsending) fun all next hall ↦ ?_
  refine .ite (fun htrue ↦ commit_upload_safely hsize (hall.2 htrue)) fun _ ↦ ?_
  exact .pure (Or.inl ⟨hall.1, rfl⟩)

/-- In a service that any run has reached, whatever it does between the requests of the client and
during its print, also when it is replaced or requests and replies are lost: what is printed for
the client is its spool, with its settings and from a file with the same bytes, once at most; the
client returns true only if that print succeeded; and it commits no upload that is not complete. -/
theorem spool_delivered (sha256 : Sha256) (files : Store String)
    (actions : List (PrinterServiceServer.Action V)) (id : String) (file : Bytes)
    (spool : DirectPrintSpool) (settings : DirectPrintSettings)
    (hfresh : Runs.Along (PrinterServiceServer.step sha256) Fresh { files } actions)
    (hid : history id (PrinterServiceServer.run sha256 files actions).log = []) :
    Safely (WorldStep (V := V) sha256 id file) (Allowed id) (submitSpooledJob spool settings)
      (Delivered id file spool settings)
      { service := PrinterServiceServer.run sha256 files actions } := by
  have hstart : Reached sha256 id [] (PrinterServiceServer.run sha256 files actions) :=
    ⟨run_intact hfresh, Or.inl hid⟩
  have hnothing : ∀ {w : World}, w.prints = [] →
      Safely (WorldStep (V := V) sha256 id file) (Allowed id) (pure false)
        (Delivered id file spool settings) w := fun hprints ↦ .pure (Or.inl ⟨hprints, rfl⟩)
  refine .call_bind nofun fun verified w hstep ↦ ?_
  cases hstep with
  | @verify service ok hservice =>
  refine .ite (fun _ ↦ hnothing rfl) fun _ ↦ ?_
  refine .call_bind nofun fun ready w hstep ↦ ?_
  cases hstep with
  | @service later ok hlater =>
  refine .ite (fun _ ↦ hnothing rfl) fun _ ↦ ?_
  refine .call_bind nofun fun size w hstep ↦ ?_
  cases hstep with
  | @openFile last size hlast hsize =>
  cases size with
  | none => exact hnothing rfl
  | some size =>
  refine .ite (fun _ ↦ hnothing rfl) fun hbytes ↦ ?_
  obtain ⟨rfl, hlength⟩ := hsize size rfl
  refine upload_file_safely ?_ (hlast.reached (hlater.reached (hservice.reached hstart))) rfl rfl
  rw [← not_not.mp hbytes]
  exact (UInt64.toNat_ofNat_of_lt' (by simp only [UInt64.size]; omega)).symm

end Stages

/-- An upload "u" that was committed and printed, and an upload "v" that has begun. -/
def earlierUploads : List (PrinterServiceServer.Action MapVariant) :=
  let io (id : String) : PrinterServiceServer.RequestIo MapVariant :=
    { printerStatus := fun _ ↦ none, printerInfo := fun _ ↦ none, completion := fun _ ↦ none,
      uploadId := id }
  [.request (messageOf PrinterServiceServer.beginMessage) (io "u"),
    .request (messageOf PrinterServiceServer.appendMessage) (io "u"),
    .request (messageOf PrinterServiceServer.commitMessage) (io "u"), .printReturns (io "u") true,
    .request (messageOf PrinterServiceServer.beginMessage) (io "v")]

/-- The upload of a spool of one line to a service that has had these uploads. -/
theorem spool_delivered_one_line :
    let spool := { oneLineMetadata with bodyOffset := 4096, bodyBytes := 4 }
    let s := PrinterServiceServer.run zeroDigest (fun _ ↦ none) earlierUploads
    (submissions s.log).length = 1 ∧ (s.upload "v").isSome ∧
      Safely (WorldStep (V := MapVariant) zeroDigest "w" PrinterServiceServer.oneLineFile)
        (Allowed "w") (submitSpooledJob spool {})
        (Delivered "w" PrinterServiceServer.oneLineFile spool {}) { service := s } := by
  refine ⟨by decide +kernel, by decide +kernel, spool_delivered zeroDigest (fun _ ↦ none)
    earlierUploads "w" PrinterServiceServer.oneLineFile _ {} (by decide +kernel) ?_⟩
  exact List.isEmpty_iff.mp (by decide +kernel)

end PrintFlow.PrinterServiceClient
