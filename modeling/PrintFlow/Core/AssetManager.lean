import PrintFlow.Core.Qt
import PrintFlow.Library.FileStore
import PrintFlow.Library.World

/-!
# Runtime assets

`AssetManager` stages files of the program's resources in a directory. A file that differs from its
resource is written anew, one that is only missing is copied, and `cleanup` removes the directory.
Any call of the file system may fail. `Refreshed` is what staging can do to the directory, whatever
fails, and composes; `sync_resources_safely` says what a staging that succeeds has achieved.
-/

namespace PrintFlow.AssetManager

open FileStore Interaction

/-! ## The calls of the file system -/

/-- A call: whether there is a location for data; `mkpath` of the asset directory there; whether it
exists; whether a file of it, or a resource, exists; whether the two have one size; the digests of
both, which are empty where they cannot be read; the resource opened and read; the `QSaveFile`
opened, written and committed; `QFile::copy`; and `removeRecursively`. -/
inductive FileCall where
  | location
  | mkpath
  | directoryExists
  | exists (fileName : String)
  | resourceExists (resourcePath : String)
  | sameSize (resourcePath fileName : String)
  | resourceHash (resourcePath : String)
  | fileHash (fileName : String)
  | openResource (resourcePath : String)
  | resourceSize (resourcePath : String)
  | read (resourcePath : String) (position : Nat)
  | openOutput (fileName : String)
  | write (chunk : Bytes)
  | commit (fileName : String)
  | copy (resourcePath fileName : String)
  | removeRecursively

/-- Its answer; no chunk where reading fails. -/
abbrev FileCall.Answer : FileCall → Type
  | .resourceHash _ => Bytes
  | .fileHash _ => Bytes
  | .resourceSize _ => Nat
  | .read .. => Option Bytes
  | _ => Bool

abbrev FileProgram (α : Type) := Program FileCall FileCall.Answer α

/-- Make one call. -/
abbrev FileCall.ask (call : FileCall) : FileProgram call.Answer := Program.call call

abbrev FileEvent := Event FileCall FileCall.Answer

/-! ## The manager -/

/-- A resource and the name of its file. -/
abbrev Asset := String × String

/-- `initialize`, under another name: whether the manager has a root path, and the result. -/
def initializeRoot : FileProgram (Bool × Bool) := do
  if ← FileCall.ask .location then return (true, ← FileCall.ask .mkpath) else return (false, false)

/-- `cleanup`, of a manager with a root path or without one. -/
def cleanup (rooted : Bool) : FileProgram Bool := do
  if rooted then
    if ← FileCall.ask .directoryExists then FileCall.ask .removeRecursively else return true
  else return true

/-- `copyResourceIfMissing`, in a manager that is initialized. -/
def copyResourceIfMissing (asset : Asset) : FileProgram Bool := do
  if ← FileCall.ask (.exists asset.2) then return true
  else if ← FileCall.ask (.resourceExists asset.1) then FileCall.ask (.copy asset.1 asset.2)
  else return false

/-- The digests are compared: both could be had, and they are equal. -/
def sameHash (asset : Asset) : FileProgram Bool := do
  let sourceHash ← FileCall.ask (.resourceHash asset.1)
  let destinationHash ← FileCall.ask (.fileHash asset.2)
  return decide (sourceHash.length = 32 ∧ destinationHash.length = 32 ∧
    sourceHash = destinationHash)

/-- Whether the file is the resource, by its size and digest. -/
def upToDate (asset : Asset) : FileProgram Bool := do
  if ← FileCall.ask (.exists asset.2) then
    if ← FileCall.ask (.sameSize asset.1 asset.2) then sameHash asset else return false
  else return false

/-- The loop that writes the resource, from a position on, and the commit behind it. -/
def copyChunks (asset : Asset) (size position : Nat) : FileProgram Bool :=
  if position < size then
    .ask (.read asset.1 position) fun answer ↦
      match answer with
      | some (byte :: rest) => .ask (.write (byte :: rest)) fun written ↦
        if written then copyChunks asset size (position + (byte :: rest).length) else pure false
      | _ => pure false
  else FileCall.ask (.commit asset.2)
termination_by size - position
decreasing_by
  simp only [List.length_cons]
  omega

/-- The file is written anew. -/
def rewrite (asset : Asset) : FileProgram Bool := do
  if ← FileCall.ask (.openResource asset.1) then
    if ← FileCall.ask (.openOutput asset.2) then
      let size ← FileCall.ask (.resourceSize asset.1)
      copyChunks asset size 0
    else return false
  else return false

/-- `syncResource`, in a manager that is initialized. -/
def syncResource (asset : Asset) : FileProgram Bool := do
  if ← FileCall.ask (.resourceExists asset.1) then
    if ← upToDate asset then return true else rewrite asset
  else return false

def syncResources : List Asset → FileProgram Bool
  | [] => pure true
  | asset :: rest => do
    if ← syncResource asset then syncResources rest else return false

/-! ## The directory -/

/-- The asset directory, and what was written to the open `QSaveFile`. -/
structure Directory where
  present : Bool := false
  files : Store String := fun _ ↦ none
  output : Bytes := []

/-- What the file system does. A file comes into being as a whole, by a commit or a copy, in a
directory that is there; a failed call changes no file, but for `removeRecursively`, which has
removed some of them. -/
inductive FileStep (resources : Store String) (sha256 : Bytes → Bytes) (directory : Directory) :
    FileEvent → Directory → Prop where
  | location (found) : FileStep resources sha256 directory ⟨.location, found⟩ directory
  | mkpath (made : Bool) :
      FileStep resources sha256 directory ⟨.mkpath, made⟩
        { directory with present := directory.present || made }
  | directoryExists :
      FileStep resources sha256 directory ⟨.directoryExists, directory.present⟩ directory
  | fileExists (fileName) :
      FileStep resources sha256 directory ⟨.exists fileName, directory.files.exists fileName⟩
        directory
  | resourceExists (resourcePath) :
      FileStep resources sha256 directory ⟨.resourceExists resourcePath,
        resources.exists resourcePath⟩ directory
  | sameSize (resourcePath fileName resource content) : resources resourcePath = some resource →
      directory.files fileName = some content →
        FileStep resources sha256 directory ⟨.sameSize resourcePath fileName,
          decide (resource.length = content.length)⟩ directory
  | resourceHash (resourcePath resource) : resources resourcePath = some resource →
      FileStep resources sha256 directory ⟨.resourceHash resourcePath, sha256 resource⟩ directory
  | noResourceHash (resourcePath) :
      FileStep resources sha256 directory ⟨.resourceHash resourcePath, []⟩ directory
  | fileHash (fileName content) : directory.files fileName = some content →
      FileStep resources sha256 directory ⟨.fileHash fileName, sha256 content⟩ directory
  | noFileHash (fileName) : FileStep resources sha256 directory ⟨.fileHash fileName, []⟩ directory
  | openResource (resourcePath opened) :
      FileStep resources sha256 directory ⟨.openResource resourcePath, opened⟩ directory
  | resourceSize (resourcePath resource) : resources resourcePath = some resource →
      FileStep resources sha256 directory ⟨.resourceSize resourcePath, resource.length⟩ directory
  | read (resourcePath position resource count) : resources resourcePath = some resource →
      0 < count →
      FileStep resources sha256 directory ⟨.read resourcePath position,
        some ((resource.drop position).take count)⟩ directory
  | notRead (resourcePath position) :
      FileStep resources sha256 directory ⟨.read resourcePath position, none⟩ directory
  | openOutput (fileName) :
      FileStep resources sha256 directory ⟨.openOutput fileName, true⟩
        { directory with output := [] }
  | notOpened (fileName) :
      FileStep resources sha256 directory ⟨.openOutput fileName, false⟩ directory
  | write (chunk) :
      FileStep resources sha256 directory ⟨.write chunk, true⟩
        { directory with output := directory.output ++ chunk }
  | notWritten (chunk output) :
      FileStep resources sha256 directory ⟨.write chunk, false⟩ { directory with output }
  | commit (fileName) : directory.present = true →
      FileStep resources sha256 directory ⟨.commit fileName, true⟩
        { directory with files := directory.files.set fileName directory.output }
  | notCommitted (fileName) :
      FileStep resources sha256 directory ⟨.commit fileName, false⟩ directory
  | copy (resourcePath fileName resource) : resources resourcePath = some resource →
      directory.files fileName = none → directory.present = true →
        FileStep resources sha256 directory ⟨.copy resourcePath fileName, true⟩
          { directory with files := directory.files.set fileName resource }
  | notCopied (resourcePath fileName) :
      FileStep resources sha256 directory ⟨.copy resourcePath fileName, false⟩ directory
  | removeRecursively :
      FileStep resources sha256 directory ⟨.removeRecursively, true⟩ {}
  | notRemoved (files) : (∀ name, files name = directory.files name ∨ files name = none) →
      FileStep resources sha256 directory ⟨.removeRecursively, false⟩ { directory with files }

/-! ## What staging does -/

/-- The file has the size and the digest of its resource. -/
def Staged (resources : Store String) (sha256 : Bytes → Bytes) (asset : Asset)
    (directory : Directory) : Prop :=
  ∃ resource content, resources asset.1 = some resource ∧ directory.files asset.2 = some content ∧
    content.length = resource.length ∧ sha256 content = sha256 resource

/-- Every file is as it was, or a whole resource: one of the files that are kept in step, or of those
that are copied where they are missing. -/
def Refreshed (resources : Store String) (synced missing : List Asset) (before after : Directory) :
    Prop :=
  ∀ name, after.files name = before.files name ∨
    ∃ path resource, resources path = some resource ∧ after.files name = some resource ∧
      ((path, name) ∈ synced ∨ (path, name) ∈ missing ∧ before.files name = none)

/-- Two assets with one name have one resource. -/
def Consistent (assets : List Asset) : Prop :=
  ∀ first ∈ assets, ∀ second ∈ assets, first.2 = second.2 → first.1 = second.1

/-- A directory that is not there has no files. -/
def Directory.Sound (directory : Directory) : Prop :=
  directory.present = false → ∀ name, directory.files name = none

theorem FileStep.sound {resources : Store String} {sha256 : Bytes → Bytes}
    {directory next : Directory} {event : FileEvent}
    (h : FileStep resources sha256 directory event next) (hsound : directory.Sound) :
    next.Sound := by
  cases h with
  | mkpath made => exact fun habsent ↦ hsound (Bool.or_eq_false_iff.mp habsent).1
  | commit _ hpresent | copy _ _ _ _ _ hpresent =>
      intro habsent
      cases hpresent.symm.trans habsent
  | removeRecursively => exact fun _ _ ↦ rfl
  | notRemoved files hfiles =>
      intro habsent name
      exact (hfiles name).elim (fun hsame ↦ hsame.trans (hsound habsent name)) id
  | location | directoryExists | fileExists | resourceExists | sameSize | resourceHash
  | noResourceHash | fileHash | noFileHash | openResource | resourceSize | read | notRead
  | openOutput | notOpened | write | notWritten | notCommitted | notCopied => exact hsound

section Refreshed

variable {resources : Store String} {sha256 : Bytes → Bytes} {synced missing : List Asset}
  {before between after : Directory} {asset : Asset}

theorem Refreshed.of_files (h : after.files = before.files) :
    Refreshed resources synced missing before after :=
  fun name ↦ .inl (congrFun h name)

theorem Refreshed.trans (first : Refreshed resources synced missing before between)
    (second : Refreshed resources synced missing between after) :
    Refreshed resources synced missing before after := by
  intro name
  rcases second name with hsame | ⟨path, resource, hresource, hafter, hwhere⟩
  · rw [hsame]
    exact first name
  · refine .inr ⟨path, resource, hresource, hafter, hwhere.imp_right fun hmissing ↦ ?_⟩
    refine ⟨hmissing.1, ?_⟩
    rcases first name with hsame | ⟨_, _, _, hbetween, _⟩
    · exact hsame.symm.trans hmissing.2
    · cases hmissing.2.symm.trans hbetween

theorem Refreshed.mono {moreSynced moreMissing : List Asset}
    (h : Refreshed resources synced missing before after) (hsynced : synced ⊆ moreSynced)
    (hmissing : missing ⊆ moreMissing) :
    Refreshed resources moreSynced moreMissing before after := by
  intro name
  refine (h name).imp_right fun ⟨path, resource, hresource, hafter, hwhere⟩ ↦ ?_
  exact ⟨path, resource, hresource, hafter,
    hwhere.imp (hsynced ·) fun hmiss ↦ ⟨hmissing hmiss.1, hmiss.2⟩⟩

/-- A file that is staged stays so, unless another resource has its name. -/
theorem Refreshed.staged (h : Refreshed resources synced missing before after)
    (hstaged : Staged resources sha256 asset before)
    (hname : ∀ path, (path, asset.2) ∈ synced → path = asset.1) :
    Staged resources sha256 asset after := by
  obtain ⟨resource, content, hresource, hcontent, hlength, hdigest⟩ := hstaged
  rcases h asset.2 with hsame | ⟨path, other, hother, hafter, hsynced | ⟨_, hnone⟩⟩
  · exact ⟨resource, content, hresource, hsame.trans hcontent, hlength, hdigest⟩
  · obtain rfl := hname path hsynced
    exact ⟨other, other, hother, hafter, rfl, rfl⟩
  · cases hnone.symm.trans hcontent

/-- A file that is there and not kept in step is left alone. -/
theorem Refreshed.kept {name : String} {content : Bytes}
    (h : Refreshed resources synced missing before after)
    (hcontent : before.files name = some content) (hname : ∀ path, (path, name) ∉ synced) :
    after.files name = some content := by
  rcases h name with hsame | ⟨path, _, _, _, hsynced | ⟨_, hnone⟩⟩
  · exact hsame.trans hcontent
  · exact absurd hsynced (hname path)
  · cases hnone.symm.trans hcontent

end Refreshed

/-! ## The manager in the directory -/

section Programs

variable {resources : Store String} {sha256 : Bytes → Bytes} {directory : Directory} {asset : Asset}

/-- Every call may be made. -/
def Anytime (_ : Directory) (_ : FileCall) : Prop := True

/-- Digests that are equal are those of the two files. -/
theorem same_hash_safely {resource content : Bytes} (hresource : resources asset.1 = some resource)
    (hcontent : directory.files asset.2 = some content) :
    Safely (FileStep resources sha256) Anytime (sameHash asset)
      (fun same final ↦ final = directory ∧ (same = true → sha256 content = sha256 resource))
      directory := by
  refine .call_bind trivial fun source found hstep ↦ ?_
  have hsource : found = directory ∧ (source.length = 32 → source = sha256 resource) := by
    cases hstep with
    | resourceHash _ other hother =>
        obtain rfl := Option.some.inj (hother.symm.trans hresource)
        exact ⟨rfl, fun _ ↦ rfl⟩
    | noResourceHash => exact ⟨rfl, nofun⟩
  obtain ⟨rfl, hsource⟩ := hsource
  refine .call_bind trivial fun destination next hstep ↦ .pure ?_
  have hdestination : next = found ∧ (destination.length = 32 → destination = sha256 content) := by
    cases hstep with
    | fileHash _ other hother =>
        obtain rfl := Option.some.inj (hother.symm.trans hcontent)
        exact ⟨rfl, fun _ ↦ rfl⟩
    | noFileHash => exact ⟨rfl, nofun⟩
  refine ⟨hdestination.1, fun hsame ↦ ?_⟩
  obtain ⟨hfirst, hsecond, heq⟩ := of_decide_eq_true hsame
  rw [← hsource hfirst, ← hdestination.2 hsecond, heq]

/-- A file that is taken for the resource is staged. -/
theorem up_to_date_safely :
    Safely (FileStep resources sha256) Anytime (upToDate asset)
      (fun same final ↦ final = directory ∧ (same = true → Staged resources sha256 asset directory))
      directory := by
  refine .call_bind trivial fun found next hstep ↦ ?_
  cases hstep
  refine .ite (fun _ ↦ ?_) fun _ ↦ .pure ⟨rfl, nofun⟩
  refine .call_bind trivial fun same next hstep ↦ ?_
  cases hstep with
  | sameSize _ _ resource content hresource hcontent =>
      refine .ite (fun hsize ↦ ?_) fun _ ↦ .pure ⟨rfl, nofun⟩
      refine (same_hash_safely hresource hcontent).mono fun equal final hequal ↦ ?_
      exact ⟨hequal.1, fun htrue ↦ ⟨resource, content, hresource, hcontent,
        (of_decide_eq_true hsize).symm, hequal.2 htrue⟩⟩

/-- What writing a file leaves: the resource where it succeeds, and no change where it does not. -/
def Rewritten (asset : Asset) (resource : Bytes) (directory : Directory) (ok : Bool)
    (final : Directory) : Prop :=
  final.files = if ok then directory.files.set asset.2 resource else directory.files

/-- The output grows by the next part of the resource. -/
theorem take_append_chunk (resource : Bytes) (position count : Nat) :
    resource.take position ++ (resource.drop position).take count =
      resource.take (position + ((resource.drop position).take count).length) := by
  rw [List.take_add, List.append_cancel_left_eq, List.take_eq_take_iff, List.length_take]
  omega

/-- The loop has written the resource up to its position. -/
theorem copy_chunks_safely {resource : Bytes} (hresource : resources asset.1 = some resource)
    (position : Nat) (houtput : directory.output = resource.take position) :
    Safely (FileStep resources sha256) Anytime (copyChunks asset resource.length position)
      (Rewritten asset resource directory) directory := by
  induction hleft : resource.length - position using Nat.strong_induction_on
    generalizing position directory with
  | _ left ih =>
      rw [copyChunks]
      refine .ite (fun hposition ↦ ?_) fun hend ↦ ?_
      · refine .ask trivial fun answer next hstep ↦ ?_
        cases hstep with
        | notRead => exact .pure rfl
        | read _ _ other count hother hcount =>
            obtain rfl := Option.some.inj (hother.symm.trans hresource)
            have hgrows := take_append_chunk other position count
            cases hchunk : (other.drop position).take count with
            | nil =>
                have hempty := congrArg List.length hchunk
                rw [List.length_take, List.length_drop, List.length_nil] at hempty
                omega
            | cons byte rest =>
                rw [hchunk] at hgrows
                refine .ask trivial fun written next hstep ↦ ?_
                cases hstep with
                | notWritten => exact .pure rfl
                | write =>
                    refine ih _ ?_ (position + (byte :: rest).length) ?_ rfl
                    · simp only [List.length_cons]
                      omega
                    · rw [← hgrows, ← houtput]
      · refine .call trivial fun ok final hstep ↦ ?_
        have hwhole : directory.output = resource := by
          rw [houtput, List.take_of_length_le (by omega)]
        cases hstep with
        | commit => rw [Rewritten, if_pos rfl, hwhole]
        | notCommitted => rfl

theorem rewrite_safely {resource : Bytes} (hresource : resources asset.1 = some resource) :
    Safely (FileStep resources sha256) Anytime (rewrite asset)
      (Rewritten asset resource directory) directory := by
  refine .call_bind trivial fun opened next hstep ↦ ?_
  cases hstep
  refine .ite (fun _ ↦ ?_) fun _ ↦ .pure rfl
  refine .call_bind trivial fun opened next hstep ↦ ?_
  cases hstep with
  | notOpened => exact .pure rfl
  | openOutput =>
      refine .call_bind trivial fun size next hstep ↦ ?_
      cases hstep with
      | resourceSize _ other hother =>
          obtain rfl := Option.some.inj (hother.symm.trans hresource)
          exact copy_chunks_safely hresource 0 rfl

/-- `syncResource` leaves the file as it is or writes the whole resource, and reports success if it
is staged. -/
theorem sync_resource_safely :
    Safely (FileStep resources sha256) Anytime (syncResource asset)
      (fun ok final ↦ Refreshed resources [asset] [] directory final ∧
        (ok = true → Staged resources sha256 asset final)) directory := by
  refine .call_bind trivial fun found next hstep ↦ ?_
  cases hstep
  refine .ite (fun hexists ↦ ?_) fun _ ↦ .pure ⟨.of_files rfl, nofun⟩
  obtain ⟨resource, hresource⟩ := Option.isSome_iff_exists.mp hexists
  refine .bind up_to_date_safely fun same next hsame ↦ ?_
  obtain ⟨rfl, hstaged⟩ := hsame
  refine .ite (fun htrue ↦ .pure ⟨.of_files rfl, fun _ ↦ hstaged htrue⟩) fun _ ↦ ?_
  refine (rewrite_safely hresource).mono fun ok final hfinal ↦ ?_
  cases ok with
  | false => exact ⟨.of_files hfinal, nofun⟩
  | true =>
      have hfiles : final.files = next.files.set asset.2 resource := hfinal
      have hwritten : final.files asset.2 = some resource := by
        rw [hfiles, Store.set_same]
      refine ⟨fun name ↦ ?_, fun _ ↦ ⟨resource, resource, hresource, hwritten, rfl, rfl⟩⟩
      by_cases hname : name = asset.2
      · rw [hname]
        exact .inr ⟨asset.1, resource, hresource, hwritten, .inl List.mem_cons_self⟩
      · rw [hfiles, Store.set_other _ _ hname]
        exact .inl rfl

/-- `syncResources` reports success if all files are staged, and whatever fails, each is as it was
or a whole resource. -/
theorem sync_resources_safely {assets : List Asset} (hconsistent : Consistent assets) :
    Safely (FileStep resources sha256) Anytime (syncResources assets)
      (fun ok final ↦ Refreshed resources assets [] directory final ∧
        (ok = true → ∀ asset ∈ assets, Staged resources sha256 asset final)) directory := by
  induction assets generalizing directory with
  | nil => exact .pure ⟨.of_files rfl, fun _ _ hmem ↦ (List.not_mem_nil hmem).elim⟩
  | cons asset rest ih =>
      have hrest : Consistent rest := fun first hfirst second hsecond ↦
        hconsistent first (List.mem_cons_of_mem _ hfirst) second (List.mem_cons_of_mem _ hsecond)
      have hsubset : [asset] ⊆ asset :: rest := List.cons_subset_cons _ (List.nil_subset _)
      refine .bind sync_resource_safely fun ok between hsync ↦ ?_
      have hfirst := hsync.1.mono hsubset (List.Subset.refl [])
      refine .ite (fun hok ↦ ?_) fun _ ↦ .pure ⟨hfirst, nofun⟩
      refine (ih hrest).mono fun ok final hfinal ↦ ?_
      have hsecond := hfinal.1.mono (List.subset_cons_self asset rest) (List.Subset.refl [])
      refine ⟨hfirst.trans hsecond, fun htrue other hother ↦ ?_⟩
      rcases List.mem_cons.mp hother with rfl | hmem
      · refine hfinal.1.staged (hsync.2 hok) fun path hpath ↦ ?_
        exact hconsistent _ (List.mem_cons_of_mem _ hpath) _ List.mem_cons_self rfl
      · exact hfinal.2 htrue other hmem

/-- `copyResourceIfMissing` changes no file that is there. -/
theorem copy_resource_if_missing_safely :
    Safely (FileStep resources sha256) Anytime (copyResourceIfMissing asset)
      (fun ok final ↦ Refreshed resources [] [asset] directory final ∧
        (ok = true → final.files.exists asset.2 = true)) directory := by
  refine .call_bind trivial fun found next hstep ↦ ?_
  cases hstep
  refine .ite (fun hexists ↦ .pure ⟨.of_files rfl, fun _ ↦ hexists⟩) fun _ ↦ ?_
  refine .call_bind trivial fun found next hstep ↦ ?_
  cases hstep
  refine .ite (fun _ ↦ ?_) fun _ ↦ .pure ⟨.of_files rfl, nofun⟩
  refine .call trivial fun ok final hstep ↦ ?_
  cases hstep with
  | notCopied => exact ⟨.of_files rfl, nofun⟩
  | copy _ _ resource hresource hnone =>
      refine ⟨fun name ↦ ?_, fun _ ↦ by simp [Store.exists]⟩
      by_cases hname : name = asset.2
      · rw [hname]
        exact .inr ⟨asset.1, resource, hresource, Store.set_same _ _ _,
          .inr ⟨List.mem_cons_self, hnone⟩⟩
      · exact .inl (Store.set_other _ _ hname)

/-- `cleanup` removes files and changes none; if it succeeds with a root path, none is left. -/
theorem cleanup_safely (rooted : Bool) (hsound : directory.Sound) :
    Safely (FileStep resources sha256) Anytime (cleanup rooted)
      (fun ok final ↦ (∀ name, final.files name = directory.files name ∨ final.files name = none) ∧
        (ok = true → rooted = true → ∀ name, final.files name = none)) directory := by
  unfold cleanup
  refine .ite (fun hrooted ↦ ?_) fun hrooted ↦
    .pure ⟨fun _ ↦ .inl rfl, fun _ htrue ↦ absurd htrue hrooted⟩
  refine .call_bind trivial fun found next hstep ↦ ?_
  cases hstep
  refine .ite (fun _ ↦ ?_) fun habsent ↦
    .pure ⟨fun _ ↦ .inl rfl, fun _ _ ↦ hsound ((Bool.not_eq_true _).mp habsent)⟩
  refine .call trivial fun ok final hstep ↦ ?_
  cases hstep with
  | removeRecursively => exact ⟨fun _ ↦ .inr rfl, fun _ _ _ ↦ rfl⟩
  | notRemoved files hfiles => exact ⟨hfiles, nofun⟩

end Programs

/-! ## A staging that succeeds -/

section Possibly

variable {resources : Store String} {sha256 : Bytes → Bytes} {directory : Directory} {asset : Asset}

/-- A result that is success, in a directory that is still there. -/
def Succeeds (ok : Bool) (final : Directory) : Prop := ok = true ∧ final.present = true

theorem up_to_date_possibly {resource : Bytes} (hresource : resources asset.1 = some resource)
    (hpresent : directory.present = true) :
    Possibly (FileStep resources sha256) (upToDate asset) (fun _ final ↦ final.present = true)
      directory := by
  refine .call_bind _ (.fileExists asset.2) ?_
  cases hcontent : directory.files asset.2 with
  | none =>
      rw [if_neg (by rw [Store.exists, hcontent]; nofun)]
      exact .pure hpresent
  | some content =>
      rw [if_pos (by rw [Store.exists, hcontent]; rfl)]
      refine .call_bind _ (.sameSize asset.1 asset.2 resource content hresource hcontent) ?_
      split
      · exact .call_bind _ (.noResourceHash asset.1)
          (.call_bind _ (.noFileHash asset.2) (.pure hpresent))
      · exact .pure hpresent

/-- A resource is written at once. -/
theorem copy_chunks_possibly {resource : Bytes} (hresource : resources asset.1 = some resource)
    (hpresent : directory.present = true) :
    Possibly (FileStep resources sha256) (copyChunks asset resource.length 0) Succeeds
      directory := by
  cases resource with
  | nil =>
      rw [copyChunks]
      exact .call true (.commit asset.2 hpresent) ⟨rfl, hpresent⟩
  | cons byte rest =>
      have hread : FileStep resources sha256 directory ⟨.read asset.1 0, some (byte :: rest)⟩
          directory := by
        simpa using FileStep.read asset.1 0 (byte :: rest) (rest.length + 1) hresource (by omega)
      rw [copyChunks, if_pos (by simp)]
      refine .ask _ hread (.ask true (.write _) ?_)
      rw [if_pos rfl, copyChunks, if_neg (by omega)]
      exact .call true (.commit asset.2 hpresent) ⟨rfl, hpresent⟩

theorem sync_resource_possibly {resource : Bytes} (hresource : resources asset.1 = some resource)
    (hpresent : directory.present = true) :
    Possibly (FileStep resources sha256) (syncResource asset) Succeeds directory := by
  refine .call_bind _ (.resourceExists asset.1) ?_
  rw [if_pos (by rw [Store.exists, hresource]; rfl)]
  refine .bind (up_to_date_possibly hresource hpresent) fun same found hfound ↦ ?_
  split
  · exact .pure ⟨rfl, hfound⟩
  · exact .call_bind true (.openResource asset.1 true) (.call_bind true (.openOutput asset.2)
      (.call_bind _ (.resourceSize asset.1 resource hresource)
        (copy_chunks_possibly hresource hfound)))

/-- Resources that are all there can be staged. -/
theorem sync_resources_possibly {assets : List Asset}
    (hresources : ∀ asset ∈ assets, resources.exists asset.1 = true)
    (hpresent : directory.present = true) :
    Possibly (FileStep resources sha256) (syncResources assets) Succeeds directory := by
  induction assets generalizing directory with
  | nil => exact .pure ⟨rfl, hpresent⟩
  | cons asset rest ih =>
      obtain ⟨resource, hresource⟩ :=
        Option.isSome_iff_exists.mp (hresources asset List.mem_cons_self)
      refine .bind (sync_resource_possibly hresource hpresent) fun ok found hfound ↦ ?_
      rw [if_pos hfound.1]
      exact ih (fun other hother ↦ hresources other (List.mem_cons_of_mem _ hother)) hfound.2

/-- A copy may fail. -/
theorem copy_resource_if_missing_possibly (hpresent : directory.present = true) :
    Possibly (FileStep resources sha256) (copyResourceIfMissing asset)
      (fun _ final ↦ final.present = true) directory := by
  refine .call_bind _ (.fileExists asset.2) ?_
  split
  · exact .pure hpresent
  · refine .call_bind _ (.resourceExists asset.1) ?_
    split
    · exact .call false (.notCopied asset.1 asset.2) hpresent
    · exact .pure hpresent

end Possibly

end PrintFlow.AssetManager
