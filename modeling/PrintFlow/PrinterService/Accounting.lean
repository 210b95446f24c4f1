import Mathlib.Data.Bool.AllAny
import PrintFlow.PrinterService.Serialization
import PrintFlow.PrinterService.Uploads

/-!
# The files of the uploads

An upload in progress owns one file, and a print of `commitRasterUpload` another. `Accounted` says
that the service has left no other file behind; every change to a ledger keeps it, whatever ids the
random source gives, and so it holds in every state and after the service is destroyed.
-/

namespace PrintFlow.PrinterServiceServer

open FileStore RasterSpool

variable {V : Type} {sha256 : Sha256} {concerns : String → Prop} {l l' : Ledger} {id : String}
  {start : Store String}

/-! ## The service from its construction to its destruction -/

/-- What the constructor removes: the files `*.upload.partial` of the upload directory. -/
def isStalePartial (path : String) : Bool :=
  let folder := (uploadDirectory ++ "/").toList
  let name := path.toList.drop folder.length
  folder.isPrefixOf path.toList && !name.contains '/' && name.head? != some '.' &&
    ".upload.partial".toList.isSuffixOf (name.map Char.toLower)

/-- The files after the constructor. -/
def constructed (files : Store String) : Store String :=
  fun path ↦ if isStalePartial path then none else files path

/-- `~PrinterServiceServer`. -/
def destroy (s : State) : State :=
  { s with
    files := s.uploads.foldl (fun files entry ↦ files.remove entry.2.partialPath) s.files
    uploads := [] }

/-- The text of a `QUuid` without braces and dashes. -/
def IsUploadId (id : String) : Prop :=
  id ≠ "" ∧ ∀ c ∈ id.toList, c ∈ "0123456789abcdef".toList

/-- The constructor leaves no file where an upload collects its chunks. -/
theorem constructed_removes_partials (files : Store String) (hid : IsUploadId id) :
    constructed files (partialPathOf id) = none := by
  obtain ⟨hne, hhex⟩ := hid
  have hpath : (partialPathOf id).toList =
      (uploadDirectory ++ "/").toList ++ (id.toList ++ ".upload.partial".toList) := by
    simp [partialPathOf, String.toList_append]
  have hslash : (id.toList ++ ".upload.partial".toList).contains '/' = false := by
    have hnot : '/' ∉ id.toList := fun hmem ↦ absurd (hhex _ hmem) (by decide)
    simp [hnot]
  have hdot : (id.toList ++ ".upload.partial".toList).head? ≠ some '.' := by
    cases hlist : id.toList with
    | nil => exact absurd (String.toList_eq_nil_iff.mp hlist) hne
    | cons c rest =>
        have hhead : c ∈ "0123456789abcdef".toList := hhex c (by rw [hlist]; exact List.mem_cons_self)
        intro heq
        rw [List.cons_append, List.head?_cons, Option.some.injEq] at heq
        rw [heq] at hhead
        exact absurd hhead (by decide)
  have hsuffix : ".upload.partial".toList.isSuffixOf
      ((id.toList ++ ".upload.partial".toList).map Char.toLower) = true := by
    rw [List.map_append, List.isSuffixOf_iff_suffix]
    exact List.suffix_append _ _
  have hstale : isStalePartial (partialPathOf id) = true := by
    simp only [isStalePartial, hpath, List.drop_left, hslash, hsuffix, Bool.not_false,
      Bool.and_true, Bool.and_eq_true, bne_iff_ne, ne_eq, hdot, not_false_eq_true, and_true]
    exact List.isPrefixOf_iff_prefix.mpr (List.prefix_append _ _)
  rw [constructed, if_pos hstale]

/-! ## The files of a ledger -/

/-- An upload in progress has received no more than it declared, and its file has the size it
received. -/
structure Filed (files : Store String) (id : String) (upload : UploadState) : Prop where
  path : upload.partialPath = partialPathOf id
  declared : upload.expectedBytes.toNat < 2 ^ 63
  received : upload.receivedBytes ≤ upload.expectedBytes
  file : ∃ content, files (partialPathOf id) = some content ∧
    content.length = upload.receivedBytes.toNat

/-- Every file that was not there at the start belongs to an upload in progress or to a print. -/
structure Accounted (start : Store String) (l : Ledger) : Prop where
  keys : (l.uploads.map Prod.fst).Nodup
  entries : ∀ id upload, (id, upload) ∈ l.uploads → Filed l.files id upload
  printing : ∀ path ∈ l.printing, ∃ id, path = finalPathOf (partialPathOf id)
  created : ∀ path, start path = none → l.files path ≠ none →
    (∃ id upload, (id, upload) ∈ l.uploads ∧ path = partialPathOf id) ∨ path ∈ l.printing

/-- A change at one id keeps the account when it keeps the account of this id. -/
theorem About.accounted (h : About id l l') (hl : Accounted start l)
    (hentry : ∀ upload, (id, upload) ∈ l'.uploads → Filed l'.files id upload)
    (hgone : (∀ upload, (id, upload) ∉ l'.uploads) → l'.files (partialPathOf id) = none)
    (hfinal : l'.files (finalPathOf (partialPathOf id)) ≠ none →
      l.files (finalPathOf (partialPathOf id)) ≠ none ∨
        finalPathOf (partialPathOf id) ∈ l'.printing)
    (hold : ∀ path ∈ l.printing, path ∈ l'.printing)
    (hnew : ∀ path ∈ l'.printing, path ∈ l.printing ∨ path = finalPathOf (partialPathOf id)) :
    Accounted start l' := by
  refine ⟨h.keys hl.keys, ?_, ?_, ?_⟩
  · intro other upload hmem
    by_cases hother : other = id
    · subst hother
      exact hentry upload hmem
    · have hsame := h.untouched hother
      obtain ⟨hpath, hdeclared, hreceived, hfile⟩ :=
        hl.entries other upload ((hsame.uploads upload).mp hmem)
      exact ⟨hpath, hdeclared, hreceived, by rw [hsame.chunks]; exact hfile⟩
  · intro path hpath
    rcases hnew path hpath with hprinting | hlast
    · exact hl.printing path hprinting
    · exact ⟨id, hlast⟩
  · intro path hstart hexists
    -- a file is the one of the changed upload, the one it is printed from, or an older one
    by_cases hcollects : path = partialPathOf id
    · refine Or.inl ?_
      by_contra hnone
      refine hexists ?_
      rw [hcollects]
      refine hgone ?_
      intro upload hmem
      exact hnone ⟨id, upload, hmem, hcollects⟩
    · by_cases hprinted : path = finalPathOf (partialPathOf id)
      · subst hprinted
        rcases hfinal hexists with hbefore | hnow
        · rcases hl.created _ hstart hbefore with ⟨other, _, _, hother⟩ | hprinting
          · exact absurd hother.symm (partial_ne_final other id)
          · exact Or.inr (hold _ hprinting)
        · exact Or.inr hnow
      · rw [h.files path hcollects hprinted] at hexists
        rcases hl.created path hstart hexists with ⟨other, upload, hmem, hother⟩ | hprinting
        · have hne : other ≠ id := fun heq ↦ hcollects (heq ▸ hother)
          exact Or.inl ⟨other, upload, ((h.untouched hne).uploads upload).mpr hmem, hother⟩
        · exact Or.inr (hold path hprinting)

/-- Ending an upload keeps the account, when its files are gone. -/
theorem Accounted.ended (hl : Accounted start l) {files : Store String}
    (hfiles : ∀ path, path ≠ partialPathOf id → path ≠ finalPathOf (partialPathOf id) →
      files path = l.files path)
    (hcollects : files (partialPathOf id) = none)
    (hfinal : files (finalPathOf (partialPathOf id)) ≠ none →
      l.files (finalPathOf (partialPathOf id)) ≠ none) :
    Accounted start { l with uploads := without id l.uploads, files } := by
  have habout : About id l { l with uploads := without id l.uploads, files } :=
    ⟨Or.inl rfl, ⟨[], (List.append_nil _).symm, fun _ h ↦ absurd h List.not_mem_nil⟩, hfiles⟩
  refine habout.accounted hl ?_ (fun _ ↦ hcollects) (fun h ↦ Or.inl (hfinal h)) (fun _ h ↦ h)
    (fun _ h ↦ Or.inl h)
  intro upload hmem
  exact absurd hmem not_mem_without

/-- Removing the files of uploads leaves the files of none of them. -/
theorem foldl_remove_ne_none {entries : List (String × UploadState)} {files : Store String}
    {path : String}
    (h : entries.foldl (fun files entry ↦ files.remove entry.2.partialPath) files path ≠ none) :
    files path ≠ none ∧ ∀ entry ∈ entries, path ≠ entry.2.partialPath := by
  have hnot : ∀ entry ∈ entries, path ≠ entry.2.partialPath := by
    induction entries generalizing files with
    | nil => exact fun _ hentry ↦ absurd hentry List.not_mem_nil
    | cons head rest ih =>
        rw [List.foldl_cons] at h
        have hrest := ih h
        refine List.forall_mem_cons.mpr ⟨?_, hrest⟩
        intro hpath
        rw [foldl_remove_other hrest, hpath, Store.remove_same] at h
        exact h rfl
  rw [foldl_remove_other hnot] at h
  exact ⟨h, hnot⟩

/-- Filing an upload under an id, new or not, keeps the account. -/
theorem Accounted.received (hl : Accounted start l) {upload : UploadState} {files : Store String}
    {entry : LogEntry} (hupload : Filed files id upload) (hid : entry.id = id)
    (hfiles : ∀ path, path ≠ partialPathOf id → files path = l.files path) :
    Accounted start { l with
      uploads := (id, upload) :: without id l.uploads, files, log := l.log ++ [entry] } := by
  have habout : About id l { l with
      uploads := (id, upload) :: without id l.uploads, files, log := l.log ++ [entry] } := by
    refine ⟨Or.inr ⟨upload, rfl⟩, ⟨[entry], rfl, ?_⟩, fun path hne _ ↦ hfiles path hne⟩
    intro other hother
    rw [List.mem_singleton.mp hother, hid]
  refine habout.accounted hl ?_ ?_ ?_ (fun _ h ↦ h) (fun _ h ↦ Or.inl h)
  · intro found hfound
    rw [eq_of_mem_insert hfound]
    exact hupload
  · intro hnone
    exact absurd List.mem_cons_self (hnone upload)
  · intro hexists
    exact Or.inl (hfiles _ (Ne.symm (partial_ne_final id id)) ▸ hexists)

/-- Expiry removes the files of the uploads it drops. -/
theorem Accounted.expired (hl : Accounted start l) (cutoff : Int) :
    Accounted start { l with
      uploads := l.uploads.filter fun entry ↦ ¬ entry.2.lastActivityMs ≤ cutoff
      files := (l.uploads.filter fun entry ↦ entry.2.lastActivityMs ≤ cutoff).foldl
        (fun files entry ↦ files.remove entry.2.partialPath) l.files } := by
  refine ⟨hl.keys.sublist (List.filter_sublist.map _), ?_, hl.printing, ?_⟩
  · intro id upload hmem
    obtain ⟨hmem, hrecent⟩ := List.mem_filter.mp hmem
    obtain ⟨hpath, hdeclared, hreceived, hfile⟩ := hl.entries id upload hmem
    refine ⟨hpath, hdeclared, hreceived, ?_⟩
    dsimp only
    rw [foldl_remove_other]
    · exact hfile
    · intro ⟨other, found⟩ hexpired hsame
      obtain ⟨hfound, hold⟩ := List.mem_filter.mp hexpired
      rw [(hl.entries other found hfound).path] at hsame
      obtain rfl := partial_path_inj hsame
      obtain rfl := (Prod.mk.inj (List.inj_on_of_nodup_map hl.keys hmem hfound rfl)).2
      simp only [decide_eq_true_eq, decide_not, Bool.not_eq_true'] at hrecent hold
      exact absurd hold (by simpa using hrecent)
  · intro path hstart hexists
    obtain ⟨hbefore, hkept⟩ := foldl_remove_ne_none hexists
    rcases hl.created path hstart hbefore with ⟨id, upload, hmem, hpath⟩ | hprinting
    · refine Or.inl ⟨id, upload, List.mem_filter.mpr ⟨hmem, ?_⟩, hpath⟩
      have hnot : (id, upload) ∉ l.uploads.filter fun entry ↦ entry.2.lastActivityMs ≤ cutoff := by
        intro hexpired
        exact hkept _ hexpired (hpath.trans (hl.entries id upload hmem).path.symm)
      simpa [hmem] using hnot
    · exact Or.inr hprinting

/-- The return of a print removes the file it printed. -/
theorem Accounted.finished (hl : Accounted start l) {path : String} {rest : List String}
    (hprinting : l.printing = path :: rest) :
    Accounted start { l with files := l.files.remove path, printing := rest } := by
  obtain ⟨printed, hprinted⟩ := hl.printing path (by rw [hprinting]; exact List.mem_cons_self)
  refine ⟨hl.keys, ?_, ?_, ?_⟩
  · intro id upload hmem
    obtain ⟨hpath, hdeclared, hreceived, hfile⟩ := hl.entries id upload hmem
    refine ⟨hpath, hdeclared, hreceived, ?_⟩
    dsimp only
    rw [hprinted, Store.remove_other _ (partial_ne_final id printed)]
    exact hfile
  · intro other hother
    exact hl.printing other (by rw [hprinting]; exact List.mem_cons_of_mem _ hother)
  · intro other hstart hexists
    have hne : other ≠ path := by
      intro heq
      exact hexists (heq ▸ Store.remove_same _ _)
    dsimp only at hexists
    rw [Store.remove_other _ hne] at hexists
    rcases hl.created other hstart hexists with hupload | hmem
    · exact Or.inl hupload
    · rw [hprinting] at hmem
      exact Or.inr ((List.mem_cons.mp hmem).resolve_left hne)

/-- Every change keeps the account. -/
theorem Change.accounted (h : Change sha256 concerns l l') (hl : Accounted start l) :
    Accounted start l' := by
  cases h with
  | same => exact hl
  | began id fileBytes spool settings nowMs hid hfresh hlength hoffset =>
      refine hl.received ?_ rfl fun path hne ↦ Store.set_other _ _ hne
      exact ⟨rfl, hlength, UInt64.zero_le, [], Store.set_same _ _ _, rfl⟩
  | accepted id upload chunk nowMs hid hmem hchunk hfits =>
      obtain ⟨hpath, hdeclared, hreceived, content, hfile, hlength⟩ := hl.entries id upload hmem
      rw [hpath, hfile, Option.getD_some]
      refine hl.received ?_ rfl fun path hne ↦ Store.set_other _ _ hne
      refine ⟨rfl, hdeclared, hfits, content ++ chunk, Store.set_same _ _ _, ?_⟩
      rw [List.length_append, hlength]
      exact (received_add hdeclared hreceived hchunk).symm
  | dropped id upload hid hmem =>
      have hpath := (hl.entries id upload hmem).path
      refine hl.ended ?_ ?_ ?_
      · intro path hne _
        rw [hpath, Store.remove_other _ hne]
      · rw [hpath, Store.remove_same]
      · rw [hpath, Store.remove_other _ (Ne.symm (partial_ne_final id id))]
        exact fun h ↦ h
  | refused id upload files hid hmem hrename =>
      have hpath := (hl.entries id upload hmem).path
      obtain ⟨content, -, -, hmoved⟩ := Store.rename_eq_some hrename
      rw [hpath] at hmoved ⊢
      refine hl.ended ?_ ?_ ?_
      · intro path hne hother
        rw [hmoved, Store.remove_other _ hother, Store.set_other _ _ hother,
          Store.remove_other _ hne]
      · rw [hmoved, Store.remove_other _ (partial_ne_final id id),
          Store.set_other _ _ (partial_ne_final id id), Store.remove_same]
      · intro hexists
        exact absurd (Store.remove_same _ _) hexists
  | submitted id upload files io spool hid hmem hcomplete hrename hspool =>
      have hpath := (hl.entries id upload hmem).path
      obtain ⟨content, -, -, hmoved⟩ := Store.rename_eq_some hrename
      rw [hpath] at hmoved ⊢
      have habout : About id l
          { uploads := without id l.uploads
            files
            log := l.log ++ [.submitted id spool upload.settings]
            calls := l.calls ++ [(spool, upload.settings)]
            printing := finalPathOf (partialPathOf id) :: l.printing } := by
        refine ⟨Or.inl rfl, ⟨_, rfl, ?_⟩, ?_⟩
        · intro entry hentry
          rw [List.mem_singleton.mp hentry]
          rfl
        · intro path hne hother
          show files path = l.files path
          rw [hmoved, Store.set_other _ _ hother, Store.remove_other _ hne]
      refine habout.accounted hl ?_ ?_ ?_ ?_ ?_
      · intro upload hupload
        exact absurd hupload not_mem_without
      · intro _
        show files (partialPathOf id) = none
        rw [hmoved, Store.set_other _ _ (partial_ne_final id id), Store.remove_same]
      · exact fun _ ↦ Or.inr List.mem_cons_self
      · exact fun path h ↦ List.mem_cons_of_mem _ h
      · exact fun path h ↦ (List.mem_cons.mp h).symm
  | expired cutoff hconcerns => exact hl.expired cutoff
  | finished path rest hprinting hconcerns => exact hl.finished hprinting

/-! ## Every step -/

variable [QVariantApi V]

theorem begin_raster_upload_accounted {s : State} (hs : Accounted start s.ledger) (command : String)
    (io : RequestIo V) (arguments : QVariantMap V) :
    Accounted start (beginRasterUpload s command io arguments).1.ledger := by
  unfold beginRasterUpload
  split
  · rw [response_ledger]
    exact hs
  · next fileBytes spool settings hdeclared =>
      obtain ⟨hlength, -⟩ := declared_upload_sound hdeclared
      simp only
      split_ifs
      · rw [response_ledger]
        exact hs
      · rw [response_ledger]
        exact hs
      · rw [response_ledger]
        refine hs.received ?_ rfl fun path hne ↦ Store.set_other _ _ hne
        exact ⟨rfl, hlength, UInt64.zero_le, [], Store.set_same _ _ _, rfl⟩

/-- The handler of `beginRasterUpload` runs unless a print is in progress. -/
theorem handle_begin (sha256 : Sha256) (s : State) {request : QVariantMap V} (io : RequestIo V)
    (hcommand : trimmed (request.string "command" "") = "beginRasterUpload") :
    handleRequest sha256 s request io =
      if s.printInProgress then
        response s "beginRasterUpload" io false .none "A print job is already in progress."
      else beginRasterUpload s "beginRasterUpload" io (request.map "arguments") := by
  simp [handleRequest, hcommand]

/-- Every step keeps the account, also when an id repeats. -/
theorem step_accounted (sha256 : Sha256) (s : State) (action : Action V)
    (hs : Accounted start s.ledger) : Accounted start (step sha256 s action).ledger := by
  by_cases hfresh : Fresh s action
  · exact (step_change sha256 s action hfresh).accounted hs
  -- the id of an upload that begins was used before
  · cases action with
    | request request io =>
        obtain ⟨hcommand, -⟩ := Classical.not_imp.mp hfresh
        unfold step
        split
        · exact hs
        · dsimp only
          rw [handle_begin sha256 s io hcommand]
          split
          · rw [response_ledger]
            exact hs
          · exact begin_raster_upload_accounted hs _ io _
    | invalidFrame io => exact absurd trivial hfresh
    | expire nowMs => exact absurd trivial hfresh
    | printReturns io ok => exact absurd trivial hfresh

theorem run_accounted (sha256 : Sha256) (start : Store String) (actions : List (Action V)) :
    Accounted start (run sha256 start actions).ledger := by
  have hinit : Accounted start (State.ledger { files := start }) := by
    refine ⟨List.nodup_nil, fun _ _ h ↦ absurd h List.not_mem_nil,
      fun _ h ↦ absurd h List.not_mem_nil, ?_⟩
    intro path hnone hexists
    exact absurd hnone hexists
  have hstep : ∀ (s : State) (action : Action V), Accounted start s.ledger →
      Accounted start (step sha256 s action).ledger := step_accounted sha256
  exact Runs.invariant_of_step hstep hinit

/-! ## The print of a commit -/

/-- `m_printInProgress` is set while the innermost print is one of `commitRasterUpload`; the prints
around it are of `submitJob`. -/
def Flagged (s : State) : Prop :=
  (s.printInProgress = false ∧ ∀ path, .upload path ∉ s.prints) ∨
    (s.printInProgress = true ∧ ∃ path rest, s.prints = .upload path :: rest ∧
      ∀ other, .upload other ∉ rest)

/-- Handling a request while no commit prints keeps the flag. -/
theorem Handled.flagged {s s' : State} {command : String} (h : Handled s command s')
    (hflag : s.printInProgress = false) (hs : Flagged s) : Flagged s' := by
  have hnone : ∀ path, .upload path ∉ s.prints := by
    rcases hs with ⟨-, hnone⟩ | ⟨htrue, -⟩
    · exact hnone
    · rw [hflag] at htrue
      exact absurd htrue (by decide)
  rcases h.prints with ⟨hsame, hkept⟩ | ⟨-, hjob, hkept⟩ | ⟨-, path, hupload, hset⟩
  · exact Or.inl ⟨hkept.trans hflag, by rw [hsame]; exact hnone⟩
  · refine Or.inl ⟨hkept.trans hflag, ?_⟩
    intro path hmem
    rw [hjob] at hmem
    rcases List.mem_cons.mp hmem with hhead | hrest
    · exact absurd hhead (by simp)
    · exact hnone path hrest
  · exact Or.inr ⟨hset, path, s.prints, hupload, hnone⟩

theorem step_flagged (sha256 : Sha256) (s : State) (action : Action V) (hs : Flagged s) :
    Flagged (step sha256 s action) := by
  have hkeep : ∀ {s' : State}, s'.prints = s.prints → s'.printInProgress = s.printInProgress →
      Flagged s' := by
    intro s' hprints hflag
    rw [Flagged, hprints, hflag]
    exact hs
  unfold step
  split
  · exact hs
  · cases action with
    | request request io =>
        have hhandled := handle_request_handled sha256 s io request
        cases hflag : s.printInProgress with
        | false => exact hhandled.flagged hflag hs
        | true =>
            by_cases hcommand : trimmed (request.string "command" "") = "abortPrint"
            · rcases hhandled.prints with ⟨hprints, hkept⟩ | ⟨hjob, -⟩ | ⟨hcommit, -⟩
              · exact hkeep hprints hkept
              · exact absurd (hcommand.symm.trans hjob) (by decide)
              · exact absurd (hcommand.symm.trans hcommit) (by decide)
            · dsimp only
              rw [handle_request_busy sha256 io hflag hcommand]
              exact hs
    | invalidFrame io =>
        rcases (Handled.response s "" io false .none "").prints with
          ⟨hprints, hkept⟩ | ⟨hjob, -⟩ | ⟨hcommit, -⟩
        · exact hkeep hprints hkept
        · exact absurd hjob (by decide)
        · exact absurd hcommit (by decide)
    | expire nowMs => exact hs
    | printReturns io ok =>
        dsimp only
        split
        · exact hs
        · next printing prints hprints =>
            rcases hs with ⟨hflag, hnone⟩ | ⟨hflag, path, rest, hupload, hnone⟩
            · cases printing with
              | job =>
                  have hidle : Flagged { s with prints } := by
                    refine Or.inl ⟨hflag, fun path hmem ↦ hnone path ?_⟩
                    rw [hprints]
                    exact List.mem_cons_of_mem _ hmem
                  exact (Handled.response { s with prints } "submitJob" io ok .none
                    io.lastError).flagged hflag hidle
              | upload path =>
                  exact absurd (by rw [hprints]; exact List.mem_cons_self) (hnone path)
            · obtain ⟨rfl, rfl⟩ := List.cons.inj (hprints.symm.trans hupload)
              simp only [finishPrint, response, State.removeFile, hflag, if_true]
              exact Or.inl ⟨rfl, hnone⟩

theorem run_flagged (sha256 : Sha256) (start : Store String) (actions : List (Action V)) :
    Flagged (run sha256 start actions) :=
  Runs.invariant_of_step (step_flagged sha256) (Or.inl ⟨rfl, fun _ ↦ List.not_mem_nil⟩)

omit [QVariantApi V] in
theorem response_prints (s : State) (command : String) (io : RequestIo V) (ok : Bool)
    (result : Result V) (error : String) :
    (response s command io ok result error).1.prints = s.prints := by
  unfold response
  split <;> rfl

/-- A commit that is answered at once prints nothing. -/
theorem commit_answered (sha256 : Sha256) (s : State) (command : String) (io : RequestIo V)
    (arguments : QVariantMap V) (h : (commitRasterUpload sha256 s command io arguments).2 ≠ none) :
    (commitRasterUpload sha256 s command io arguments).1.prints = s.prints := by
  simp only [commitRasterUpload] at h ⊢
  split
  · exact response_prints ..
  · next upload hupload =>
      rw [hupload] at h
      dsimp only at h
      split_ifs at h ⊢ with hcomplete hrename
      · rw [response_prints]
        rfl
      · split
        · rw [response_prints]
          rfl
        · next files hfiles =>
            simp only [hfiles] at h
            split
            · rw [response_prints]
              rfl
            · next spool hspool =>
                simp only [hspool] at h
                exact absurd rfl h
      · rw [response_prints]
        rfl

/-- The handler of `commitRasterUpload` returns in this step: it answers at once, or its print
returns. -/
def CommitReturns (sha256 : Sha256) (s : State) : Action V → Prop
  | .request request io =>
      s.crashed = false ∧ s.printInProgress = false ∧
        trimmed (request.string "command" "") = "commitRasterUpload" ∧
        (handleRequest sha256 s request io).2 ≠ none
  | .invalidFrame _ => False
  | .expire _ => False
  | .printReturns _ _ => s.crashed = false ∧ ∃ path rest, s.prints = .upload path :: rest

/-- When a commit has returned, no upload is printing. -/
theorem commit_returned {sha256 : Sha256} {s : State} {action : Action V} (hs : Flagged s)
    (h : CommitReturns sha256 s action) : ∀ path, .upload path ∉ (step sha256 s action).prints := by
  cases action with
  | request request io =>
      obtain ⟨hrunning, hflag, hcommand, hanswer⟩ := h
      have hnone : ∀ path, .upload path ∉ s.prints := by
        rcases hs with ⟨-, hnone⟩ | ⟨htrue, -⟩
        · exact hnone
        · rw [hflag] at htrue
          exact absurd htrue (by decide)
      have hcommit : handleRequest sha256 s request io =
          commitRasterUpload sha256 s "commitRasterUpload" io (request.map "arguments") := by
        simp [handleRequest, hcommand, hflag]
      rw [hcommit] at hanswer
      have hstep : (step sha256 s (.request request io)).prints = s.prints := by
        rw [step, hrunning, if_neg Bool.false_ne_true, hcommit]
        exact commit_answered sha256 s _ io _ hanswer
      rw [hstep]
      exact hnone
  | invalidFrame io => exact absurd h id
  | expire nowMs => exact absurd h id
  | printReturns io ok =>
      obtain ⟨hrunning, path, rest, hprints⟩ := h
      have hrest : ∀ other, .upload other ∉ rest := by
        rcases hs with ⟨-, hnone⟩ | ⟨-, printed, others, hupload, hnone⟩
        · exact absurd (by rw [hprints]; exact List.mem_cons_self) (hnone path)
        · obtain ⟨-, rfl⟩ := List.cons.inj (hprints.symm.trans hupload)
          exact hnone
      have hstep : (step sha256 s (.printReturns io ok)).prints = rest := by
        rw [step, hrunning, if_neg Bool.false_ne_true]
        simp only [hprints, finishPrint, response_prints, State.removeFile]
      rw [hstep]
      exact hrest

/-! ## Chunks that are rejected -/

/-- The check of `appendRasterChunk` fails: the offset is wrong, or the chunk is empty or too
large. -/
def ChunkRejected (upload : UploadState) (arguments : QVariantMap V) (chunk : Bytes) : Prop :=
  arguments.uint64 "offset" ≠ upload.receivedBytes ∨ chunk = [] ∨
    chunk.length > uploadChunkBytes ∨
    upload.receivedBytes + UInt64.ofNat chunk.length > upload.expectedBytes

/-- A rejected chunk changes no upload and no file. -/
theorem rejected_chunk (sha256 : Sha256) {s : State} {request : QVariantMap V} (io : RequestIo V)
    {upload : UploadState} (hcommand : trimmed (request.string "command" "") = "appendRasterChunk")
    (hupload : s.upload (uploadIdOf request) = some upload)
    (hrejected : ChunkRejected upload (request.map "arguments") (request.byteArray "payload")) :
    (step sha256 s (.request request io)).ledger = s.ledger := by
  have happend : handleRequest sha256 s request io =
      if s.printInProgress then
        response s "appendRasterChunk" io false .none "A print job is already in progress."
      else appendRasterChunk s "appendRasterChunk" io (request.map "arguments")
        (request.byteArray "payload") := by
    simp [handleRequest, hcommand]
  have hfound : s.upload ((request.map "arguments").string "uploadId" "") = some upload := hupload
  unfold step
  split
  · rfl
  · dsimp only
    rw [happend]
    split
    · exact response_ledger ..
    · simp only [appendRasterChunk, hfound]
      rw [ChunkRejected] at hrejected
      rw [if_pos hrejected]
      exact response_ledger ..

/-! ## Every run -/

/-- The account of a state: every upload in progress has its file, with what it received and no
more than it declared; the files where uploads collect their chunks are those of the uploads in
progress; and any other file that was not there at the start is being printed. -/
structure UploadAccount (start : Store String) (s : State) : Prop where
  entries : ∀ id upload, (id, upload) ∈ s.uploads → upload.receivedBytes ≤ upload.expectedBytes ∧
    ∃ content, s.files upload.partialPath = some content ∧
      content.length = upload.receivedBytes.toNat
  partials : ∀ id, start (partialPathOf id) = none →
    ((s.files (partialPathOf id)).isSome ↔ ∃ upload, (id, upload) ∈ s.uploads)
  others : ∀ path, start path = none → (s.files path).isSome →
    (∃ id upload, (id, upload) ∈ s.uploads ∧ path = upload.partialPath) ∨ .upload path ∈ s.prints

theorem Accounted.account {s : State} (h : Accounted start s.ledger) : UploadAccount start s where
  entries id upload hmem := by
    obtain ⟨hpath, -, hreceived, hfile⟩ := h.entries id upload hmem
    exact ⟨hreceived, by rw [hpath]; exact hfile⟩
  partials id hstart := by
    constructor
    · intro hexists
      rcases h.created _ hstart (Option.isSome_iff_ne_none.mp hexists) with
        ⟨other, upload, hmem, hpath⟩ | hprinting
      · exact ⟨upload, partial_path_inj hpath ▸ hmem⟩
      · obtain ⟨other, hpath⟩ := h.printing _ hprinting
        exact absurd hpath (partial_ne_final id other)
    · intro ⟨upload, hmem⟩
      obtain ⟨content, hcontent, -⟩ := (h.entries id upload hmem).file
      exact Option.isSome_iff_exists.mpr ⟨content, hcontent⟩
  others path hstart hexists := by
    rcases h.created path hstart (Option.isSome_iff_ne_none.mp hexists) with
      ⟨id, upload, hmem, hpath⟩ | hprinting
    · exact Or.inl ⟨id, upload, hmem, hpath.trans (h.entries id upload hmem).path.symm⟩
    · obtain ⟨printing, hmem, hpath⟩ := List.mem_filterMap.mp hprinting
      cases printing with
      | job => exact absurd hpath (by simp [Printing.path])
      | upload printed =>
          obtain rfl := Option.some.inj hpath
          exact Or.inr hmem

/-- When nothing prints, the destructor removes every file the service left. -/
theorem destroyed {s : State} (h : UploadAccount start s) (hidle : s.prints = []) {path : String}
    (hstart : start path = none) : (destroy s).files path = none := by
  by_contra hexists
  obtain ⟨hbefore, hkept⟩ := foldl_remove_ne_none hexists
  rcases h.others path hstart (Option.isSome_iff_ne_none.mpr hbefore) with
    ⟨id, upload, hmem, hpath⟩ | hprinting
  · exact hkept _ hmem hpath
  · rw [hidle] at hprinting
    exact List.not_mem_nil hprinting

/-- In every state of a run the files of the uploads are accounted for; a commit that has returned
leaves no file but those of uploads in progress, a rejected chunk changes nothing, and the
destructor leaves nothing behind. -/
theorem upload_accounting (sha256 : Sha256) (files : Store String) (actions : List (Action V)) :
    UploadAccount (constructed files) (run sha256 (constructed files) actions) ∧
    (∀ id, IsUploadId id →
      (((run sha256 (constructed files) actions).files (partialPathOf id)).isSome ↔
        ∃ upload, (id, upload) ∈ (run sha256 (constructed files) actions).uploads)) ∧
    (∀ action, CommitReturns sha256 (run sha256 (constructed files) actions) action →
      ∀ path, constructed files path = none →
        ((run sha256 (constructed files) (actions ++ [action])).files path).isSome →
        ∃ id upload,
          (id, upload) ∈ (run sha256 (constructed files) (actions ++ [action])).uploads ∧
            path = upload.partialPath) ∧
    (∀ request io upload,
      trimmed (request.string "command" "") = "appendRasterChunk" →
      (run sha256 (constructed files) actions).upload (uploadIdOf request) = some upload →
      ChunkRejected upload (request.map "arguments") (request.byteArray "payload") →
      (run sha256 (constructed files) (actions ++ [.request request io])).uploads =
          (run sha256 (constructed files) actions).uploads ∧
        (run sha256 (constructed files) (actions ++ [.request request io])).files =
          (run sha256 (constructed files) actions).files) ∧
    ((run sha256 (constructed files) actions).prints = [] →
      ∀ path, constructed files path = none →
        (destroy (run sha256 (constructed files) actions)).files path = none) := by
  have haccount := (run_accounted sha256 (constructed files) actions).account
  have hstep : ∀ action, run sha256 (constructed files) (actions ++ [action]) =
      step sha256 (run sha256 (constructed files) actions) action :=
    fun action ↦ Runs.run_append ..
  refine ⟨haccount, ?_, ?_, ?_, ?_⟩
  · intro id hid
    exact haccount.partials id (constructed_removes_partials files hid)
  -- Of the two kinds of files that a run may leave, a commit that returned leaves no spool.
  · intro action hreturns path hstart hexists
    have hnone := commit_returned (run_flagged sha256 (constructed files) actions) hreturns
    rw [← hstep] at hnone
    exact ((run_accounted sha256 (constructed files) (actions ++ [action])).account.others path
      hstart hexists).resolve_right (hnone path)
  · intro request io upload hcommand hupload hrejected
    have hsame := rejected_chunk sha256 io hcommand hupload hrejected
    rw [hstep]
    exact ⟨congrArg Ledger.uploads hsame, congrArg Ledger.files hsame⟩
  · intro hidle path hstart
    exact destroyed haccount hidle hstart

/-- A chunk at a wrong offset, and the commit of an upload that is not complete. -/
def wrongOffset : QVariantMap Variant :=
  variantMap
    [("command", .string "appendRasterChunk"), ("payload", .byteArray [1]),
      ("arguments", .map [("uploadId", .string "u"), ("offset", .ulonglong 7)])]

def earlyCommit : QVariantMap Variant :=
  variantMap
    [("command", .string "commitRasterUpload"),
      ("arguments", .map [("uploadId", .string "u")])]

/-- An upload begins; a chunk is rejected, the upload is committed too early, or the service is
destroyed. -/
theorem upload_accounting_one_line :
    let start := constructed fun _ ↦ none
    let begun := oneLineUpload.take 1
    ((run zeroDigest start begun).files (partialPathOf "0a")).isSome = false ∧
      (run zeroDigest start (begun ++ [.request wrongOffset quietIo])).files =
        (run zeroDigest start begun).files ∧
      (run zeroDigest start (begun ++ [.request earlyCommit quietIo])).files
        (finalPathOf (partialPathOf "u")) = none ∧
      (destroy (run zeroDigest start begun)).files (partialPathOf "u") = none := by
  obtain ⟨-, hpartials, hcommits, hrejects, hdestroyed⟩ :=
    upload_accounting zeroDigest (fun _ ↦ none) (oneLineUpload.take 1)
  have hnew : ∀ path, constructed (fun _ ↦ none) path = none := fun path ↦ ite_self _
  have hreturns : CommitReturns zeroDigest
      (run zeroDigest (constructed fun _ ↦ none) (oneLineUpload.take 1))
      (.request earlyCommit quietIo) := ⟨rfl, rfl, rfl, Option.some_ne_none _⟩
  have hchunk : ∀ upload : UploadState, upload.receivedBytes = 0 →
      ChunkRejected upload (wrongOffset.map "arguments") (wrongOffset.byteArray "payload") := by
    intro upload hreceived
    refine Or.inl ?_
    rw [hreceived]
    decide
  refine ⟨?_, ?_, ?_, hdestroyed rfl _ (hnew _)⟩
  · rw [Bool.eq_false_iff, ne_eq, hpartials "0a" ⟨by decide, List.all_iff_forall_prop.mp (by decide)⟩]
    intro ⟨upload, hmem⟩
    exact absurd (List.mem_singleton.mp hmem) (by simp)
  · exact (hrejects wrongOffset quietIo _ rfl rfl (hchunk _ rfl)).2
  · rw [← Option.not_isSome_iff_eq_none]
    intro hexists
    obtain ⟨id, upload, hmem, -⟩ := hcommits _ hreturns _ (hnew _) hexists
    exact List.not_mem_nil hmem

end PrintFlow.PrinterServiceServer
