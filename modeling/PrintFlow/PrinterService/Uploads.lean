import Mathlib.Data.List.Nodup
import PrintFlow.Core.RasterSpool.RoundTrip
import PrintFlow.PrinterService.Ledger

/-!
# Uploads

A client declares a spool, sends its file in chunks and commits it; many uploads may be under way,
requests may be delivered during a print, and uploads expire. `Intact` is what holds of the ledger
throughout: the file of an upload in progress holds the accepted chunks in order, and the file of a
print holds what was declared for it. `upload_integrity` follows for every step of every run.
-/

namespace PrintFlow.PrinterServiceServer

open FileStore PrinterServiceProtocol RasterSpool

variable {V : Type} {sha256 : Sha256} {concerns : String → Prop} {l l' : Ledger} {id : String}

/-- An upload in progress: all that happened to it is its declaration and the accepted chunks, and
its file holds these. -/
structure Uploading (l : Ledger) (id : String) (upload : UploadState) : Prop where
  path : upload.partialPath = partialPathOf id
  declared : upload.expectedBytes.toNat < 2 ^ 63
  offset : upload.expectedSpool.bodyOffset = UInt64.ofNat headerBytes
  received : upload.receivedBytes ≤ upload.expectedBytes
  chunks : ∃ chunks : List Bytes,
    history id l.log =
      .began id upload.expectedBytes upload.expectedSpool upload.settings ::
        chunks.map (.accepted id) ∧
    l.files (partialPathOf id) = some chunks.flatten ∧
    upload.receivedBytes.toNat = chunks.flatten.length

/-- A spool as it may be submitted with these settings: it was declared so once, its file is the
concatenation of the chunks accepted since, of the declared length, and decodes to the declared
metadata, whose checksum is that of the file; it is submitted for the first time. -/
structure Submitted (sha256 : Sha256) (l : Ledger) (id : String) (spool : DirectPrintSpool)
    (settings : DirectPrintSettings) : Prop where
  path : spool.path = finalPathOf (partialPathOf id)
  intact : ∃ (fileBytes : UInt64) (declared : DirectPrintSpool) (chunks : List Bytes),
    history id l.log =
      .began id fileBytes declared settings ::
        (chunks.map (.accepted id) ++ [.submitted id spool settings]) ∧
    l.files spool.path = some chunks.flatten ∧
    chunks.flatten.length = fileBytes.toNat ∧
    readMetadata l.files spool.path = .ok spool ∧
    spool = { declared with path := spool.path } ∧
    sha256.digest (hashedBytes chunks.flatten spool) = declared.sha256

/-- What can have happened to an id: nothing, a declaration and chunks, or also a submission. -/
inductive Recorded (id : String) : List LogEntry → Prop where
  | nothing : Recorded id []
  | begun (fileBytes spool settings) (chunks : List Bytes) :
      Recorded id (.began id fileBytes spool settings :: chunks.map (.accepted id))
  | submitted (fileBytes declared settings) (chunks : List Bytes) (spool) :
      Recorded id
        (.began id fileBytes declared settings ::
          (chunks.map (.accepted id) ++ [.submitted id spool settings]))

/-- The invariant of the uploads. -/
structure Intact (sha256 : Sha256) (l : Ledger) : Prop where
  keys : (l.uploads.map Prod.fst).Nodup
  uploads : ∀ id upload, (id, upload) ∈ l.uploads → Uploading l id upload
  records : ∀ id, Recorded id (history id l.log)
  calls : l.calls = submissions l.log
  printing_nodup : l.printing.Nodup
  printing : ∀ path ∈ l.printing, ∃ id spool settings,
    spool.path = path ∧ Submitted sha256 l id spool settings

/-- Nothing about an id changed. -/
structure Untouched (id : String) (l l' : Ledger) : Prop where
  uploads : ∀ upload, (id, upload) ∈ l'.uploads ↔ (id, upload) ∈ l.uploads
  lookup : l'.uploads.lookup id = l.uploads.lookup id
  history : history id l'.log = history id l.log
  chunks : l'.files (partialPathOf id) = l.files (partialPathOf id)
  spool : l'.files (finalPathOf (partialPathOf id)) = l.files (finalPathOf (partialPathOf id))

/-! ## What is kept -/

/-- A record of an upload in progress holds no submission. -/
theorem begun_ne_submitted {fileBytes other : UInt64} {spool declared uploaded : DirectPrintSpool}
    {settings values : DirectPrintSettings} {chunks more : List Bytes} :
    (LogEntry.began id fileBytes spool settings :: chunks.map (.accepted id)) ≠
      .began id other declared values ::
        (more.map (.accepted id) ++ [.submitted id uploaded values]) := by
  intro h
  have hmem : LogEntry.submitted id uploaded values ∈ chunks.map (LogEntry.accepted id) := by
    rw [(List.cons.inj h).2]
    exact List.mem_append_right _ (List.mem_singleton_self _)
  obtain ⟨chunk, -, hchunk⟩ := List.mem_map.mp hmem
  exact absurd hchunk (by simp)

theorem Untouched.uploading (h : Untouched id l l') {upload : UploadState}
    (hupload : Uploading l id upload) : Uploading l' id upload := by
  obtain ⟨hpath, hdeclared, hoffset, hreceived, chunks, hhistory, hfile, hlength⟩ := hupload
  exact ⟨hpath, hdeclared, hoffset, hreceived, chunks, h.history.trans hhistory,
    h.chunks.trans hfile, hlength⟩

/-- A submission depends on the record of its id and on its file. -/
theorem Submitted.congr {spool : DirectPrintSpool} {settings : DirectPrintSettings}
    (h : Submitted sha256 l id spool settings) (hhistory : history id l'.log = history id l.log)
    (hfile : l'.files spool.path = l.files spool.path) : Submitted sha256 l' id spool settings := by
  obtain ⟨hpath, fileBytes, declared, chunks, hrecord, hchunks, hlength, hread, hspool, hdigest⟩ :=
    h
  refine ⟨hpath, fileBytes, declared, chunks, hhistory.trans hrecord, hfile.trans hchunks, hlength,
    ?_, hspool, hdigest⟩
  rw [← hread, readMetadata, readMetadata, hfile]

theorem Untouched.submitted (h : Untouched id l l') {spool : DirectPrintSpool}
    {settings : DirectPrintSettings} (hspool : Submitted sha256 l id spool settings) :
    Submitted sha256 l' id spool settings := by
  refine hspool.congr h.history ?_
  rw [hspool.path]
  exact h.spool

/-- What is printed was submitted, so an upload in progress is not printed. -/
theorem Intact.not_printing (hl : Intact sha256 l)
    (h : ∀ spool settings, ¬ Submitted sha256 l id spool settings) :
    finalPathOf (partialPathOf id) ∉ l.printing := by
  intro hmem
  obtain ⟨other, spool, settings, hpath, hspool⟩ := hl.printing _ hmem
  obtain rfl := final_path_inj (hspool.path.symm.trans hpath)
  exact h spool settings hspool

theorem Uploading.not_submitted {upload : UploadState} (h : Uploading l id upload)
    (spool : DirectPrintSpool) (settings : DirectPrintSettings) :
    ¬ Submitted sha256 l id spool settings := by
  intro ⟨_, fileBytes, declared, more, hsubmitted, _⟩
  obtain ⟨chunks, hbegun, -⟩ := h.chunks
  exact begun_ne_submitted (hbegun.symm.trans hsubmitted)

/-- Removing the files of uploads leaves other paths alone. -/
theorem foldl_remove_other {entries : List (String × UploadState)} {files : Store String}
    {path : String} (h : ∀ entry ∈ entries, path ≠ entry.2.partialPath) :
    entries.foldl (fun files entry ↦ files.remove entry.2.partialPath) files path = files path := by
  induction entries generalizing files with
  | nil => rfl
  | cons entry entries ih =>
      rw [List.foldl_cons, ih fun other hother ↦ h other (List.mem_cons_of_mem _ hother)]
      exact Store.remove_other _ (h entry List.mem_cons_self)

/-! ## One change -/

/-- A change at one id: of its entry of the table, its record and its two files. -/
structure About (id : String) (l l' : Ledger) : Prop where
  uploads : l'.uploads = without id l.uploads ∨
    ∃ upload, l'.uploads = (id, upload) :: without id l.uploads
  log : ∃ entries, l'.log = l.log ++ entries ∧ ∀ entry ∈ entries, entry.id = id
  files : ∀ path, path ≠ partialPathOf id → path ≠ finalPathOf (partialPathOf id) →
    l'.files path = l.files path

/-- A change at one id leaves every other id alone. -/
theorem About.untouched (h : About id l l') {other : String} (hne : other ≠ id) :
    Untouched other l l' := by
  have hkeep : ∀ entry ∈ l.uploads, entry.1 = other → (entry.1 != id) = true := by
    intro entry _ hkey
    simpa [hkey] using hne
  have hhead : (other == id) = false := by simpa using hne
  refine ⟨?_, ?_, ?_, ?_, ?_⟩
  · intro found
    rcases h.uploads with hdrop | ⟨upload, hinsert⟩
    · rw [hdrop, mem_without]
      exact and_iff_left hne
    · rw [hinsert, List.mem_cons, mem_without]
      constructor
      · intro hmem
        rcases hmem with hnew | hold
        · exact absurd (congrArg Prod.fst hnew) hne
        · exact hold.1
      · intro hmem
        exact Or.inr ⟨hmem, hne⟩
  · rcases h.uploads with hdrop | ⟨upload, hinsert⟩
    · rw [hdrop]
      exact lookup_filter hkeep
    · rw [hinsert, List.lookup_cons, hhead]
      exact lookup_filter hkeep
  · obtain ⟨entries, hlog, hentries⟩ := h.log
    have hnone : history other entries = [] := by
      refine List.filter_eq_nil_iff.mpr ?_
      intro entry hentry
      simpa [hentries entry hentry] using Ne.symm hne
    rw [hlog, history, List.filter_append]
    exact (congrArg _ hnone).trans (List.append_nil _)
  · refine h.files _ ?_ (partial_ne_final other id)
    intro hpath
    exact hne (partial_path_inj hpath)
  · refine h.files _ (Ne.symm (partial_ne_final id other)) ?_
    intro hpath
    exact hne (final_path_inj hpath)

/-- The table keeps one entry for each id. -/
theorem About.keys (h : About id l l') (hkeys : (l.uploads.map Prod.fst).Nodup) :
    (l'.uploads.map Prod.fst).Nodup := by
  have hsub : ((without id l.uploads).map Prod.fst).Nodup :=
    hkeys.sublist (List.filter_sublist.map _)
  rcases h.uploads with hdrop | ⟨upload, hinsert⟩
  · rw [hdrop]
    exact hsub
  · rw [hinsert, List.map_cons, List.nodup_cons]
    refine ⟨?_, hsub⟩
    intro hmem
    obtain ⟨⟨key, found⟩, hfound, hkey⟩ := List.mem_map.mp hmem
    exact (mem_without.mp hfound).2 hkey

/-- A change at one id keeps the invariant when it keeps what the invariant says of this id. -/
theorem About.intact (h : About id l l') (hl : Intact sha256 l)
    (huploads : ∀ upload, (id, upload) ∈ l'.uploads → Uploading l' id upload)
    (hrecord : Recorded id (history id l'.log)) (hcalls : l'.calls = submissions l'.log)
    (hnodup : l'.printing.Nodup)
    (hprinting : ∀ path ∈ l'.printing,
      (path ∈ l.printing ∧ path ≠ finalPathOf (partialPathOf id)) ∨
        ∃ spool settings, spool.path = path ∧ Submitted sha256 l' id spool settings) :
    Intact sha256 l' := by
  refine ⟨h.keys hl.keys, ?_, ?_, hcalls, hnodup, ?_⟩
  · intro other upload hmem
    by_cases hother : other = id
    · rw [hother] at hmem ⊢
      exact huploads upload hmem
    · have hsame := h.untouched hother
      exact hsame.uploading (hl.uploads other upload ((hsame.uploads upload).mp hmem))
  · intro other
    by_cases hother : other = id
    · rw [hother]
      exact hrecord
    · rw [(h.untouched hother).history]
      exact hl.records other
  · intro path hpath
    rcases hprinting path hpath with ⟨hold, hne⟩ | ⟨spool, settings, hspool, hsubmitted⟩
    · obtain ⟨other, spool, settings, hspool, hsubmitted⟩ := hl.printing path hold
      have hother : other ≠ id := by
        intro heq
        rw [← hspool, hsubmitted.path, heq] at hne
        exact hne rfl
      exact ⟨other, spool, settings, hspool, (h.untouched hother).submitted hsubmitted⟩
    · exact ⟨id, spool, settings, hspool, hsubmitted⟩

/-- An id that was not begun has no record. -/
theorem Recorded.eq_nil {entries : List LogEntry} (h : Recorded id entries)
    (hfresh : ∀ fileBytes spool settings, .began id fileBytes spool settings ∉ entries) :
    entries = [] := by
  cases h with
  | nothing => rfl
  | begun fileBytes spool settings chunks =>
      exact absurd List.mem_cons_self (hfresh fileBytes spool settings)
  | submitted fileBytes declared settings chunks spool =>
      exact absurd List.mem_cons_self (hfresh fileBytes declared settings)

/-- Paths of prints other than the one of `id`. -/
theorem Intact.printing_others (hl : Intact sha256 l)
    (h : ∀ spool settings, ¬ Submitted sha256 l id spool settings) :
    ∀ path ∈ l.printing, (path ∈ l.printing ∧ path ≠ finalPathOf (partialPathOf id)) ∨
      ∃ spool settings, spool.path = path ∧ Submitted sha256 l' id spool settings := by
  intro path hpath
  refine Or.inl ⟨hpath, ?_⟩
  intro heq
  rw [heq] at hpath
  exact hl.not_printing h hpath

/-- The entry of a table without the entry of an id is of another id. -/
theorem not_mem_without {upload : UploadState} {uploads : List (String × UploadState)} :
    (id, upload) ∉ without id uploads := by
  intro hmem
  exact (mem_without.mp hmem).2 rfl

/-- The only entry of an id just inserted. -/
theorem eq_of_mem_insert {found upload : UploadState} {uploads : List (String × UploadState)}
    (h : (id, found) ∈ (id, upload) :: without id uploads) : found = upload := by
  rcases List.mem_cons.mp h with hnew | hold
  · exact (Prod.mk.inj hnew).2
  · exact absurd hold not_mem_without

/-- Beginning an upload under a new id keeps the invariant. -/
theorem Intact.began (hl : Intact sha256 l) {fileBytes : UInt64} {spool : DirectPrintSpool}
    {settings : DirectPrintSettings} (upload : UploadState)
    (hfresh : ∀ bytes other values, .began id bytes other values ∉ l.log)
    (hlength : fileBytes.toNat < 2 ^ 63) (hoffset : spool.bodyOffset = UInt64.ofNat headerBytes)
    (hupload : upload.partialPath = partialPathOf id ∧ upload.expectedBytes = fileBytes ∧
      upload.expectedSpool = spool ∧ upload.settings = settings ∧ upload.receivedBytes = 0)
    (hafter : l' = { l with
      uploads := (id, upload) :: without id l.uploads
      files := l.files.set (partialPathOf id) []
      log := l.log ++ [.began id fileBytes spool settings] }) :
    About id l l' ∧ Intact sha256 l' := by
  obtain ⟨hpath, rfl, rfl, rfl, hreceived⟩ := hupload
  have hnil : history id l.log = [] := by
    refine (hl.records id).eq_nil ?_
    intro bytes other values hmem
    exact hfresh bytes other values (List.mem_of_mem_filter hmem)
  have hone : history id
      (l.log ++ [.began id upload.expectedBytes upload.expectedSpool upload.settings]) =
        [.began id upload.expectedBytes upload.expectedSpool upload.settings] := by
    rw [history_append_same _ (show LogEntry.id (.began id _ _ _) = id from rfl), hnil]
    rfl
  have habout : About id l l' := by
    subst hafter
    refine ⟨Or.inr ⟨upload, rfl⟩, ⟨_, rfl, ?_⟩, ?_⟩
    · intro entry hentry
      rw [List.mem_singleton.mp hentry]
      rfl
    · intro path hne _
      exact Store.set_other _ _ hne
  subst hafter
  refine ⟨habout, habout.intact hl ?_ ?_ ?_ hl.printing_nodup ?_⟩
  · intro found hmem
    obtain rfl := eq_of_mem_insert hmem
    refine ⟨hpath, hlength, hoffset, ?_, [], hone, Store.set_same .., ?_⟩
    · rw [hreceived]
      exact UInt64.zero_le
    · rw [hreceived]
      rfl
  · show Recorded id (history id (l.log ++ _))
    rw [hone]
    exact .begun _ _ _ []
  · simp [submissions, LogEntry.submission, hl.calls]
  · refine hl.printing_others ?_
    intro other values hsubmitted
    obtain ⟨_, _, _, _, hrecord, _⟩ := hsubmitted
    exact absurd (hnil.symm.trans hrecord) (by simp)

/-- An accepted chunk is counted without a wrap. -/
theorem received_add {upload : UploadState} {chunk : Bytes}
    (hdeclared : upload.expectedBytes.toNat < 2 ^ 63)
    (hreceived : upload.receivedBytes ≤ upload.expectedBytes)
    (hchunk : chunk.length ≤ uploadChunkBytes) :
    (upload.receivedBytes + UInt64.ofNat chunk.length).toNat =
      upload.receivedBytes.toNat + chunk.length := by
  have hreceived := UInt64.le_iff_toNat_le.mp hreceived
  have hsize : uploadChunkBytes = 1048576 := rfl
  rw [UInt64.toNat_add, UInt64.toNat_ofNat', Nat.mod_eq_of_lt (a := chunk.length) (by omega)]
  exact Nat.mod_eq_of_lt (by omega)

/-- Accepting a chunk keeps the invariant. -/
theorem Intact.accepted (hl : Intact sha256 l) {upload : UploadState} {chunk : Bytes} {nowMs : Int}
    (hmem : (id, upload) ∈ l.uploads) (hchunk : chunk.length ≤ uploadChunkBytes)
    (hfits : upload.receivedBytes + UInt64.ofNat chunk.length ≤ upload.expectedBytes)
    (hafter : l' = { l with
      uploads :=
        (id, { upload with
               receivedBytes := upload.receivedBytes + UInt64.ofNat chunk.length
               lastActivityMs := nowMs }) :: without id l.uploads
      files := l.files.set upload.partialPath ((l.files upload.partialPath).getD [] ++ chunk)
      log := l.log ++ [.accepted id chunk] }) :
    About id l l' ∧ Intact sha256 l' := by
  have hupload := hl.uploads id upload hmem
  obtain ⟨chunks, hhistory, hfile, hlength⟩ := hupload.chunks
  rw [hupload.path, hfile, Option.getD_some] at hafter
  have hmore : history id (l.log ++ [.accepted id chunk]) =
      .began id upload.expectedBytes upload.expectedSpool upload.settings ::
        (chunks ++ [chunk]).map (.accepted id) := by
    rw [history_append_same _ (show LogEntry.id (.accepted id _) = id from rfl), hhistory,
      List.map_append]
    rfl
  have hflat : (chunks ++ [chunk]).flatten = chunks.flatten ++ chunk := by
    rw [List.flatten_append, List.flatten_singleton]
  have habout : About id l l' := by
    subst hafter
    refine ⟨Or.inr ⟨_, rfl⟩, ⟨_, rfl, ?_⟩, ?_⟩
    · intro entry hentry
      rw [List.mem_singleton.mp hentry]
      rfl
    · intro path hne _
      exact Store.set_other _ _ hne
  subst hafter
  refine ⟨habout, habout.intact hl ?_ ?_ ?_ hl.printing_nodup ?_⟩
  · intro found hfound
    obtain rfl := eq_of_mem_insert hfound
    refine ⟨rfl, hupload.declared, hupload.offset, hfits, chunks ++ [chunk], hmore, ?_, ?_⟩
    · rw [hflat]
      exact Store.set_same ..
    · rw [hflat, List.length_append, ← hlength]
      exact received_add hupload.declared hupload.received hchunk
  · show Recorded id (history id (l.log ++ _))
    rw [hmore]
    exact .begun _ _ _ _
  · simp [submissions, LogEntry.submission, hl.calls]
  · exact hl.printing_others hupload.not_submitted

/-- Giving an upload up keeps the invariant. -/
theorem Intact.dropped (hl : Intact sha256 l) {upload : UploadState} {files : Store String}
    (hmem : (id, upload) ∈ l.uploads)
    (hfiles : ∀ path, path ≠ partialPathOf id → path ≠ finalPathOf (partialPathOf id) →
      files path = l.files path)
    (hafter : l' = { l with uploads := without id l.uploads, files }) :
    About id l l' ∧ Intact sha256 l' := by
  subst hafter
  have habout : About id l { l with uploads := without id l.uploads, files } :=
    ⟨Or.inl rfl, ⟨[], (List.append_nil _).symm, by simp⟩, hfiles⟩
  refine ⟨habout, habout.intact hl ?_ (hl.records id) hl.calls hl.printing_nodup ?_⟩
  · intro found hfound
    exact absurd hfound not_mem_without
  · exact hl.printing_others (hl.uploads id upload hmem).not_submitted

/-- A spool that is the same as another but for its path. -/
theorem eq_of_same_spool {uploaded expected : DirectPrintSpool}
    (h : sameSpool uploaded expected = true) (hoffset : uploaded.bodyOffset = expected.bodyOffset) :
    uploaded = { expected with path := uploaded.path } := by
  cases uploaded with
  | mk =>
      cases expected with
      | mk =>
          simp only [sameSpool, decide_eq_true_eq] at h hoffset
          obtain ⟨rfl, rfl, rfl, rfl, rfl, rfl, rfl, rfl, rfl, rfl, rfl⟩ := h
          subst hoffset
          rfl

/-- A spool that passes the checks of `commitRasterUpload` is the declared one, stored in a file
that holds its checksum. -/
theorem uploaded_spool_sound {io : ChecksumIo} {files : Store String} {path : String}
    {expected spool : DirectPrintSpool} {content : Bytes}
    (h : uploadedSpool sha256 io files path expected = .ok spool)
    (hcontent : files path = some content)
    (hoffset : expected.bodyOffset = UInt64.ofNat headerBytes) :
    readMetadata files path = .ok spool ∧ spool = { expected with path := path } ∧
      sha256.digest (hashedBytes content spool) = expected.sha256 := by
  unfold uploadedSpool at h
  split at h
  · exact absurd h (by simp)
  · next uploaded hread =>
      split at h
      · exact absurd h (by simp)
      · next hverify =>
          split_ifs at h with hsame
          obtain rfl := Except.ok.inj h
          obtain ⟨hpath, hbody⟩ : uploaded.path = path ∧
              uploaded.bodyOffset = UInt64.ofNat headerBytes := by
            obtain ⟨_, _, _, hdecode⟩ := read_metadata_eq_ok.mp hread
            obtain ⟨_, record, _, _, _, rfl, _⟩ := decode_header_eq_ok.mp hdecode
            exact ⟨rfl, rfl⟩
          obtain ⟨disk, stored, hdisk, hstored, hdigest, -⟩ := verify_sound hverify
          rw [hpath] at hdisk hstored
          obtain rfl := Except.ok.inj (hread.symm.trans hdisk)
          obtain rfl := Option.some.inj (hcontent.symm.trans hstored)
          have hequal := eq_of_same_spool hsame (hbody.trans hoffset.symm)
          have hsha : uploaded.sha256 = expected.sha256 := by rw [hequal]
          rw [hpath] at hequal
          exact ⟨hread, hequal, hdigest.symm.trans hsha⟩

/-- Submitting a complete upload keeps the invariant, and submits what was declared. -/
theorem Intact.submitted (hl : Intact sha256 l) {upload : UploadState} {files : Store String}
    {io : ChecksumIo} {spool : DirectPrintSpool} (hmem : (id, upload) ∈ l.uploads)
    (hcomplete : upload.receivedBytes = upload.expectedBytes)
    (hrename : l.files.rename upload.partialPath (finalPathOf upload.partialPath) = some files)
    (hspool : uploadedSpool sha256 io files (finalPathOf upload.partialPath)
      upload.expectedSpool = .ok spool)
    (hafter : l' =
      { uploads := without id l.uploads
        files
        log := l.log ++ [.submitted id spool upload.settings]
        calls := l.calls ++ [(spool, upload.settings)]
        printing := finalPathOf upload.partialPath :: l.printing }) :
    About id l l' ∧ Intact sha256 l' ∧ Submitted sha256 l' id spool upload.settings := by
  have hupload := hl.uploads id upload hmem
  obtain ⟨chunks, hhistory, hfile, hlength⟩ := hupload.chunks
  rw [hupload.path] at hrename hspool hafter
  obtain ⟨content, hsource, -, hfiles⟩ := Store.rename_eq_some hrename
  obtain rfl := Option.some.inj (hfile.symm.trans hsource)
  have hmoved : files (finalPathOf (partialPathOf id)) = some chunks.flatten := by
    rw [hfiles]
    exact Store.set_same ..
  obtain ⟨hread, hdeclared, hdigest⟩ := uploaded_spool_sound hspool hmoved hupload.offset
  have hpath : spool.path = finalPathOf (partialPathOf id) := by
    rw [hdeclared]
  have hrecord : history id (l.log ++ [.submitted id spool upload.settings]) =
      .began id upload.expectedBytes upload.expectedSpool upload.settings ::
        (chunks.map (.accepted id) ++ [.submitted id spool upload.settings]) := by
    rw [history_append_same _ (show LogEntry.id (.submitted id _ _) = id from rfl), hhistory]
    rfl
  have habout : About id l l' := by
    subst hafter
    refine ⟨Or.inl rfl, ⟨_, rfl, ?_⟩, ?_⟩
    · intro entry hentry
      rw [List.mem_singleton.mp hentry]
      rfl
    · intro path hpartialPath hfinalPath
      show files path = l.files path
      rw [hfiles, Store.set_other _ _ hfinalPath, Store.remove_other _ hpartialPath]
  have hsubmitted : Submitted sha256 l' id spool upload.settings := by
    subst hafter
    refine ⟨hpath, upload.expectedBytes, upload.expectedSpool, chunks, hrecord, ?_, ?_, ?_, ?_,
      hdigest⟩
    · rw [hpath]
      exact hmoved
    · rw [← hlength, hcomplete]
    · rw [hpath]
      exact hread
    · rw [hpath]
      exact hdeclared
  subst hafter
  refine ⟨habout, habout.intact hl ?_ ?_ ?_ ?_ ?_, hsubmitted⟩
  · intro found hfound
    exact absurd hfound not_mem_without
  · show Recorded id (history id (l.log ++ _))
    rw [hrecord]
    exact .submitted _ _ _ _ _
  · simp [submissions, LogEntry.submission, hl.calls]
  · exact List.nodup_cons.mpr ⟨hl.not_printing hupload.not_submitted, hl.printing_nodup⟩
  · intro path hprinting
    rcases List.mem_cons.mp hprinting with hnew | hold
    · exact Or.inr ⟨spool, upload.settings, hpath.trans hnew.symm, hsubmitted⟩
    · exact hl.printing_others hupload.not_submitted path hold

/-- Expiry removes the files and the entries of old uploads only. -/
theorem Intact.expired (hl : Intact sha256 l) {cutoff : Int}
    (hafter : l' = { l with
      uploads := l.uploads.filter fun entry ↦ ¬ entry.2.lastActivityMs ≤ cutoff
      files := (l.uploads.filter fun entry ↦ entry.2.lastActivityMs ≤ cutoff).foldl
        (fun files entry ↦ files.remove entry.2.partialPath) l.files }) :
    (∀ id, (∀ upload, (id, upload) ∈ l.uploads → ¬ upload.lastActivityMs ≤ cutoff) →
      Untouched id l l') ∧ Intact sha256 l' := by
  have hfile : ∀ path, (∀ id upload, (id, upload) ∈ l.uploads →
      upload.lastActivityMs ≤ cutoff → path ≠ partialPathOf id) →
      (l.uploads.filter fun entry ↦ entry.2.lastActivityMs ≤ cutoff).foldl
        (fun files entry ↦ files.remove entry.2.partialPath) l.files path = l.files path := by
    intro path hpath
    refine foldl_remove_other ?_
    intro entry hentry
    obtain ⟨hmem, hold⟩ := List.mem_filter.mp hentry
    rw [(hl.uploads entry.1 entry.2 hmem).path]
    exact hpath entry.1 entry.2 hmem (by simpa using hold)
  have hspool := fun id ↦ hfile (finalPathOf (partialPathOf id)) fun other _ _ _ ↦
    Ne.symm (partial_ne_final other id)
  have huntouched : ∀ id, (∀ upload, (id, upload) ∈ l.uploads → ¬ upload.lastActivityMs ≤ cutoff) →
      Untouched id l l' := by
    intro id hrecent
    subst hafter
    refine ⟨?_, lookup_filter ?_, rfl, hfile _ ?_, hspool id⟩
    · intro upload
      rw [List.mem_filter]
      refine and_iff_left_of_imp ?_
      intro hmem
      simpa using hrecent upload hmem
    · intro entry hentry hkey
      simpa using hrecent entry.2 (hkey ▸ hentry)
    · intro other upload hmem hold hpath
      rw [← partial_path_inj hpath] at hmem
      exact hrecent upload hmem hold
  subst hafter
  refine ⟨huntouched, hl.keys.sublist (List.filter_sublist.map _), ?_, hl.records, hl.calls,
    hl.printing_nodup, ?_⟩
  · intro id upload hupload
    obtain ⟨hmem, hrecent⟩ := List.mem_filter.mp hupload
    refine (huntouched id ?_).uploading (hl.uploads id upload hmem)
    intro found hfound
    obtain rfl := (Prod.mk.inj (List.inj_on_of_nodup_map hl.keys hmem hfound rfl)).2
    simpa using hrecent
  · intro path hpath
    obtain ⟨id, spool, settings, hname, hsubmitted⟩ := hl.printing path hpath
    refine ⟨id, spool, settings, hname, hsubmitted.congr rfl ?_⟩
    rw [hsubmitted.path]
    exact hspool id

/-- The return of a print removes its file only. -/
theorem Intact.finished (hl : Intact sha256 l) {path : String} {rest : List String}
    (hprinting : l.printing = path :: rest)
    (hafter : l' = { l with files := l.files.remove path, printing := rest }) :
    (∀ id, path ≠ finalPathOf (partialPathOf id) → Untouched id l l') ∧ Intact sha256 l' := by
  subst hafter
  obtain ⟨printed, spool, settings, hname, hsubmitted⟩ :=
    hl.printing path (by rw [hprinting]; exact List.mem_cons_self)
  have hfinal : path = finalPathOf (partialPathOf printed) := hname.symm.trans hsubmitted.path
  have hchunks : ∀ id, l.files.remove path (partialPathOf id) = l.files (partialPathOf id) := by
    intro id
    rw [hfinal]
    exact Store.remove_other _ (partial_ne_final id printed)
  obtain ⟨hfirst, hrest⟩ := List.nodup_cons.mp (hprinting ▸ hl.printing_nodup)
  refine ⟨?_, hl.keys, ?_, hl.records, hl.calls, hrest, ?_⟩
  · intro id hne
    have hspool : l.files.remove path (finalPathOf (partialPathOf id)) =
        l.files (finalPathOf (partialPathOf id)) := Store.remove_other _ (Ne.symm hne)
    refine ⟨fun _ ↦ Iff.rfl, rfl, rfl, hchunks id, ?_⟩
    simp only [hspool]
  · intro id upload hmem
    obtain ⟨hpath, hdeclared, hoffset, hreceived, chunks, hhistory, hfile, hlength⟩ :=
      hl.uploads id upload hmem
    exact ⟨hpath, hdeclared, hoffset, hreceived, chunks, hhistory, (hchunks id).trans hfile,
      hlength⟩
  · intro other hother
    obtain ⟨id, spool, settings, hname, hsubmitted⟩ :=
      hl.printing other (by rw [hprinting]; exact List.mem_cons_of_mem _ hother)
    have hne : other ≠ path := by
      intro heq
      exact hfirst (heq ▸ hother)
    have hsame : l.files.remove path spool.path = l.files spool.path := by
      rw [hname]
      exact Store.remove_other _ hne
    exact ⟨id, spool, settings, hname, hsubmitted.congr rfl hsame⟩

/-! ## Every change -/

/-- What a change does, from a ledger with the invariant. -/
structure Preserved (sha256 : Sha256) (concerns : String → Prop) (l l' : Ledger) : Prop where
  intact : Intact sha256 l'
  others : ∀ id, ¬ concerns id → Untouched id l l'
  call : l'.calls = l.calls ∨
    ∃ id spool settings, l'.calls = l.calls ++ [(spool, settings)] ∧
      Submitted sha256 l' id spool settings

theorem About.others (h : About id l l') (hid : concerns id) :
    ∀ other, ¬ concerns other → Untouched other l l' := by
  intro other hother
  refine h.untouched ?_
  intro heq
  exact hother (heq ▸ hid)

/-- Every change keeps the invariant, concerns only its ids and submits at most one spool. -/
theorem Change.preserved (h : Change sha256 concerns l l') (hl : Intact sha256 l) :
    Preserved sha256 concerns l l' := by
  cases h with
  | same => exact ⟨hl, fun _ _ ↦ ⟨fun _ ↦ Iff.rfl, rfl, rfl, rfl, rfl⟩, Or.inl rfl⟩
  | began id fileBytes spool settings nowMs hid hfresh hlength hoffset =>
      obtain ⟨habout, hintact⟩ :=
        hl.began
          { partialPath := partialPathOf id, expectedBytes := fileBytes, expectedSpool := spool,
            settings, lastActivityMs := nowMs }
          hfresh hlength hoffset ⟨rfl, rfl, rfl, rfl, rfl⟩ rfl
      exact ⟨hintact, habout.others hid, Or.inl rfl⟩
  | accepted id upload chunk nowMs hid hmem hchunk hfits =>
      obtain ⟨habout, hintact⟩ := hl.accepted hmem hchunk hfits rfl
      exact ⟨hintact, habout.others hid, Or.inl rfl⟩
  | dropped id upload hid hmem =>
      have hpath := (hl.uploads id upload hmem).path
      have hfiles : ∀ path, path ≠ partialPathOf id → path ≠ finalPathOf (partialPathOf id) →
          l.files.remove upload.partialPath path = l.files path := by
        intro path hne _
        rw [hpath, Store.remove_other _ hne]
      obtain ⟨habout, hintact⟩ := hl.dropped hmem hfiles rfl
      exact ⟨hintact, habout.others hid, Or.inl rfl⟩
  | refused id upload files hid hmem hrename =>
      have hpath := (hl.uploads id upload hmem).path
      obtain ⟨content, -, -, hmoved⟩ := Store.rename_eq_some hrename
      have hfiles : ∀ path, path ≠ partialPathOf id → path ≠ finalPathOf (partialPathOf id) →
          files.remove (finalPathOf upload.partialPath) path = l.files path := by
        intro path hne hother
        rw [hmoved, hpath, Store.remove_other _ hother, Store.set_other _ _ hother,
          Store.remove_other _ hne]
      obtain ⟨habout, hintact⟩ := hl.dropped hmem hfiles rfl
      exact ⟨hintact, habout.others hid, Or.inl rfl⟩
  | submitted id upload files io spool hid hmem hcomplete hrename hspool =>
      obtain ⟨habout, hintact, hsubmitted⟩ := hl.submitted hmem hcomplete hrename hspool rfl
      exact ⟨hintact, habout.others hid, Or.inr ⟨id, spool, upload.settings, rfl, hsubmitted⟩⟩
  | expired cutoff hconcerns =>
      obtain ⟨huntouched, hintact⟩ := hl.expired rfl
      refine ⟨hintact, ?_, Or.inl rfl⟩
      intro id hid
      refine huntouched id ?_
      intro upload hmem hold
      exact hid (hconcerns id upload hmem hold)
  | finished path rest hprinting hconcerns =>
      obtain ⟨huntouched, hintact⟩ := hl.finished hprinting rfl
      refine ⟨hintact, ?_, Or.inl rfl⟩
      intro id hid
      refine huntouched id ?_
      intro hpath
      exact hid (hconcerns id hpath)

/-! ## Every run -/

variable [QVariantApi V]

/-- A service without uploads keeps nothing to hold. -/
theorem Intact.init (files : Store String) : Intact sha256 (State.ledger { files }) :=
  ⟨List.nodup_nil, fun _ _ h ↦ absurd h (by simp [State.ledger]), fun _ ↦ .nothing, rfl,
    List.nodup_nil, fun _ h ↦ absurd h (by simp [State.ledger])⟩

/-- A step under a fresh id keeps the invariant. -/
theorem step_preserved (s : State) (action : Action V) (hfresh : Fresh s action)
    (hs : Intact sha256 s.ledger) :
    Preserved sha256 (fun id ↦ Concerns s id action) s.ledger (step sha256 s action).ledger :=
  (step_change sha256 s action hfresh).preserved hs

/-- A run under fresh ids keeps the invariant. -/
theorem run_intact {files : Store String} {actions : List (Action V)}
    (hfresh : Runs.Along (step sha256) Fresh { files } actions) :
    Intact sha256 (run sha256 files actions).ledger := by
  have hstep : ∀ (s : State) (action : Action V), Fresh s action → Intact sha256 s.ledger →
      Intact sha256 (step sha256 s action).ledger := by
    intro s action hguard hs
    exact (step_preserved s action hguard hs).intact
  exact Runs.invariant hstep hfresh (Intact.init files)

/-- An id is submitted at most once. -/
theorem Recorded.submitted_once {entries : List LogEntry} (h : Recorded id entries) :
    (submissions entries).length ≤ 1 := by
  have haccepted : ∀ chunks : List Bytes,
      (chunks.map (LogEntry.accepted id)).filterMap LogEntry.submission = [] := by
    intro chunks
    rw [List.filterMap_map]
    exact List.filterMap_eq_nil_iff.mpr fun _ _ ↦ rfl
  cases h with
  | nothing => exact Nat.zero_le _
  | begun fileBytes spool settings chunks =>
      rw [submissions, List.filterMap_cons_none rfl, haccepted]
      exact Nat.zero_le _
  | submitted fileBytes declared settings chunks spool =>
      rw [submissions, List.filterMap_cons_none rfl, List.filterMap_append, haccepted]
      exact Nat.le_refl _

/-- What the service promises of a step: it submits at most one spool, which is intact; no id is
submitted twice; the spools that are printing stay intact; and nothing changes about an id the step
does not concern. -/
structure UploadIntegrity (sha256 : Sha256) (s : State) (action : Action V) (s' : State) : Prop where
  call : spooledCalls s'.trace = spooledCalls s.trace ∨
    ∃ id spool settings, spooledCalls s'.trace = spooledCalls s.trace ++ [(spool, settings)] ∧
      Submitted sha256 s'.ledger id spool settings
  calls : spooledCalls s'.trace = submissions s'.log
  once : ∀ id, (submissions (history id s'.log)).length ≤ 1
  printing : ∀ path, .upload path ∈ s'.prints → ∃ id spool settings,
    spool.path = path ∧ Submitted sha256 s'.ledger id spool settings
  others : ∀ id, ¬ Concerns s id action → Untouched id s.ledger s'.ledger

/-- Every step of every run under fresh upload ids keeps the promise. -/
theorem upload_integrity (sha256 : Sha256) (files : Store String) (actions : List (Action V))
    (hfresh : Runs.Along (step sha256) Fresh { files } actions) :
    ∀ before action after, actions = before ++ action :: after →
      UploadIntegrity sha256 (run sha256 files before) action
        (run sha256 files (before ++ [action])) := by
  intro before action after hsplit
  have hstep : run sha256 files (before ++ [action]) =
      step sha256 (run sha256 files before) action := Runs.run_append ..
  have hguard : Fresh (run sha256 files before) action :=
    Runs.along_iff.mp hfresh before action after hsplit
  rw [hsplit] at hfresh
  have hbefore : Intact sha256 (run sha256 files before).ledger := run_intact hfresh.before
  -- The run before keeps the records intact; the step adds what its call says.
  have hpreserved := step_preserved (run sha256 files before) action hguard hbefore
  rw [← hstep] at hpreserved
  have hintact := hpreserved.intact
  refine ⟨hpreserved.call, hintact.calls, ?_, ?_, hpreserved.others⟩
  · intro id
    exact (hintact.records id).submitted_once
  · intro path hpath
    exact hintact.printing path (List.mem_filterMap.mpr ⟨_, hpath, rfl⟩)

/-- The metadata of a spool of one line, as the client declares it. -/
def oneLineSpool : Variant :=
  .map
    [("bodyBytes", .ulonglong 4), ("bodyOffset", .ulonglong 4096), ("bytesPerLine", .int 4),
      ("canonicalHeader", .list (List.replicate 12 (.uint 0))), ("channels", .list [.int 0]),
      ("format", .int 1), ("height", .int 1), ("logicalChannelCount", .int 1),
      ("sha256", .byteArray (List.replicate 32 0)), ("width", .int 4), ("xdpi", .int 720),
      ("ydpi", .int 600)]

/-- The file of this spool. -/
def oneLineFile : Bytes :=
  encodeHeader { oneLineMetadata with bodyOffset := 4096, bodyBytes := 4 }
    (some (List.replicate 32 0)) ++ [0xe4, 0, 0, 0]

/-- The messages that upload it under the id "u" and commit it, in the order of their keys. -/
def beginMessage : List (String × Variant) :=
  [("arguments", .map [("fileBytes", .ulonglong 4100), ("spool", oneLineSpool)]),
    ("command", .string "beginRasterUpload")]

def appendMessage : List (String × Variant) :=
  [("arguments", .map [("offset", .ulonglong 0), ("uploadId", .string "u")]),
    ("command", .string "appendRasterChunk"), ("payload", .byteArray oneLineFile)]

def commitMessage : List (String × Variant) :=
  [("arguments", .map [("uploadId", .string "u")]), ("command", .string "commitRasterUpload")]

/-- The requests of these messages. -/
def oneLineUpload : List (Action Variant) :=
  let io : RequestIo Variant :=
    { printerStatus := variantMap [], printerInfo := variantMap [], completion := variantMap [],
      uploadId := "u" }
  [.request (variantMap beginMessage) io, .request (variantMap appendMessage) io,
    .request (variantMap commitMessage) io]

/-- The id is fresh, and the upload is committed last. -/
theorem upload_integrity_one_line :
    ∃ commit, oneLineUpload = oneLineUpload.take 2 ++ [commit] ∧
      UploadIntegrity zeroDigest (run zeroDigest (fun _ ↦ none) (oneLineUpload.take 2)) commit
        (run zeroDigest (fun _ ↦ none) (oneLineUpload.take 2 ++ [commit])) := by
  refine ⟨_, rfl, upload_integrity zeroDigest (fun _ ↦ none) oneLineUpload ⟨?_, ?_, ?_, trivial⟩
    (oneLineUpload.take 2) _ [] rfl⟩
  · intro _ fileBytes spool settings hmem
    exact absurd hmem (by simp)
  · intro hcommand
    exact absurd hcommand (by decide)
  · intro hcommand
    exact absurd hcommand (by decide)

end PrintFlow.PrinterServiceServer
