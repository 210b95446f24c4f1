import PrintFlow.Core.RasterSpool.Reader
import PrintFlow.Library.Runs

/-!
# Canceling an upload from another thread

`PrinterServiceClient::submitSpooledJob` runs on one thread and `cancelCurrentOutput` on another;
they share `m_cancelUpload` and `m_uploadActive`, each read or written in a step of its own. A
cancel call that saw the upload active is promised to the caller, yet the upload looks at the flag a
last time before it gives up being active. `cancel_prevents_commit`: the promise is kept exactly
when no such call writes the flag after that last look.
-/

namespace PrintFlow.PrinterServiceClient

open RasterSpool

/-- The requests of the two functions. -/
inductive Command where
  | ping
  | restartService
  | beginRasterUpload (spool : DirectPrintSpool) (settings : DirectPrintSettings)
      (fileBytes : UInt64)
  | appendRasterChunk (uploadId : String) (offset : UInt64) (size : Nat)
  | cancelRasterUpload (uploadId : String)
  | commitRasterUpload (uploadId : String)
  | abortPrint

/-- What `submitSpooledJob` does next. `verify` reads the metadata and hashes chunk by chunk;
`leave` is the guard that clears `m_uploadActive`. -/
inductive Control where
  | resetCancel
  | setActive
  | readMetadata
  | hash (remaining : Nat)
  | checkService
  | openFile
  | beginUpload
  | checkCancel (uploadId : String) (chunkBytes : Nat) (offset : UInt64)
  | appendChunk (uploadId : String) (chunkBytes : Nat) (offset : UInt64)
  | cancelUpload (uploadId : String) (message : Option String)
  | lastCheck (uploadId : String)
  | clearActive (uploadId : String)
  | commit (uploadId : String)
  | leave (committed : Bool)
  | returned (committed : Bool)

/-- What the thread of `cancelCurrentOutput` does next: call it, or finish a call that has read
`m_uploadActive`, in this job or before it. -/
inductive Canceler where
  | call
  | setCancel (thisJob : Bool)
  | abortPrint
  deriving DecidableEq

/-- The shared members, the two threads, and what was sent. `cancels` counts the calls that saw
`m_uploadActive` in this job and have set `m_cancelUpload`. -/
structure State where
  cancelUpload : Bool
  uploadActive : Bool
  control : Control
  canceler : Canceler
  lastError : String := ""
  sent : List Command := []
  cancels : Nat := 0

/-- The outcome of whatever a step of the upload asks for: the body size on disk when the metadata
reads, the chunk to hash, the checksum, the service, the size of the file when it opens, the reply
to a request and the number of bytes read; `error` is the text of the failure, or what
`applyResponse` leaves in `m_lastError`. -/
structure JobIo where
  metadata : Option UInt64 := none
  hashed : Bool := true
  checksum : Bool := true
  service : Bool := true
  streaming : Bool := true
  restarted : Bool := true
  replaced : Bool := true
  fileSize : Option UInt64 := none
  reply : Bool := true
  uploadId : String := ""
  chunkBytes : Int64 := 1024 * 1024
  chunk : Nat := 0
  error : String := ""

namespace State

/-- Send a request. -/
def send (s : State) (command : Command) : State := { s with sent := s.sent ++ [command] }

/-- Go on there. -/
def goto (s : State) (control : Control) : State := { s with control }

/-- `failWithError`. -/
def fail (s : State) (message : String) : State :=
  { s with lastError := message, control := .leave false }

/-- `request`, which first makes sure of the service, and then `responseOk`. -/
def request (s : State) (io : JobIo) (command : Command) (ok failed : State → State) : State :=
  if !io.service then failed { s with lastError := io.error }
  else if !io.reply then failed { s.send command with lastError := io.error }
  else ok { s.send command with lastError := io.error }

end State

/-- `std::clamp` of the chunk size the service asks for. -/
def clampChunkBytes (chunkBytes : Int64) : Nat :=
  (max 1 (min chunkBytes.toInt (1024 * 1024))).toNat

/-- `expectedBytes`. -/
def expectedBytes (spool : DirectPrintSpool) : UInt64 := spool.bodyOffset + spool.bodyBytes

/-- The check for a service that can stream, which replaces one that cannot. -/
def checkService (s : State) (io : JobIo) : State :=
  if !io.service then s.fail io.error
  else
    let s := { s.send .ping with lastError := io.error }
    if io.streaming then s.goto .openFile
    else
      let s := s.send .restartService
      if !io.restarted then s.goto (.leave false)
      else
        let s := s.send .ping
        if io.replaced then s.goto .openFile
        else
          s.fail ("The printer service does not support streaming raster uploads. " ++
            "Update or restart the printer service.")

/-- The next step of `submitSpooledJob`. -/
def jobStep (spool : DirectPrintSpool) (settings : DirectPrintSettings) (s : State) (io : JobIo) :
    State :=
  match s.control with
  | .resetCancel => { s with cancelUpload := false, control := .setActive }
  | .setActive => { s with uploadActive := true, control := .readMetadata }
  | .readMetadata =>
    match io.metadata with
    | none => s.fail io.error
    | some bodyBytes => s.goto (.hash bodyBytes.toNat)
  | .hash remaining =>
    if remaining = 0 then
      if io.checksum then s.goto .checkService
      else s.fail "Raster spool checksum does not match."
    else if s.cancelUpload then s.fail "Raster spool hashing was canceled."
    else if !io.hashed then s.fail "Raster spool data is truncated."
    else s.goto (.hash (remaining - min remaining hashChunkBytes))
  | .checkService => checkService s io
  | .openFile =>
    match io.fileSize with
    | none => s.fail io.error
    | some size =>
      if size ≠ expectedBytes spool then
        s.fail "Raster spool file length does not match its metadata."
      else s.goto .beginUpload
  | .beginUpload =>
    s.request io (.beginRasterUpload spool settings (expectedBytes spool))
      (fun s ↦
        if io.uploadId = "" then s.fail "Printer service did not create a raster upload."
        else s.goto (.checkCancel io.uploadId (clampChunkBytes io.chunkBytes) 0))
      (fun s ↦ s.goto (.leave false))
  -- The flag is read before every chunk and once more behind the last one.
  | .checkCancel uploadId chunkBytes offset =>
    if offset < expectedBytes spool then
      if s.cancelUpload then s.goto (.cancelUpload uploadId (some "Raster upload canceled."))
      else s.goto (.appendChunk uploadId chunkBytes offset)
    else s.goto (.lastCheck uploadId)
  | .appendChunk uploadId chunkBytes offset =>
    let size := min io.chunk chunkBytes
    if size = 0 then
      s.goto (.cancelUpload uploadId (some "Raster spool became truncated during upload."))
    else
      s.request io (.appendRasterChunk uploadId offset size)
        (fun s ↦ s.goto (.checkCancel uploadId chunkBytes (offset + UInt64.ofNat size)))
        (fun s ↦ s.goto (.cancelUpload uploadId none))
  | .cancelUpload uploadId message =>
    let finish (s : State) : State :=
      { s with lastError := message.getD s.lastError, control := .leave false }
    s.request io (.cancelRasterUpload uploadId) finish finish
  | .lastCheck uploadId =>
    s.goto (if s.cancelUpload then .cancelUpload uploadId none else .clearActive uploadId)
  -- From here on a cancel call finds no active upload.
  | .clearActive uploadId => { s with uploadActive := false, control := .commit uploadId }
  | .commit uploadId =>
    s.request io (.commitRasterUpload uploadId)
      (fun s ↦ s.goto (.leave true)) (fun s ↦ s.goto (.leave false))
  | .leave committed => { s with uploadActive := false, control := .returned committed }
  | .returned _ => s

/-- The next step of `cancelCurrentOutput`; `error` is what `applyResponse` leaves. -/
def cancelStep (s : State) (error : String) : State :=
  match s.canceler with
  | .call =>
    { s with canceler := if s.uploadActive then .setCancel true else .abortPrint }
  | .setCancel thisJob =>
    { s with
      cancelUpload := true
      canceler := .call
      cancels := s.cancels + thisJob.toNat }
  | .abortPrint => { s.send .abortPrint with lastError := error, canceler := .call }

/-- A step of one of the threads. -/
inductive Action where
  | job (io : JobIo)
  | cancel (error : String)

/-- One step. -/
def step (spool : DirectPrintSpool) (settings : DirectPrintSettings) (s : State) : Action → State
  | .job io => jobStep spool settings s io
  | .cancel error => cancelStep s error

/-! ## What a step does -/

/-- The job has sent its commit. -/
def CommitSent (s : State) : Prop := ∃ uploadId, Command.commitRasterUpload uploadId ∈ s.sent

/-- The upload has looked at `m_cancelUpload` for the last time, and goes on to its commit. -/
def Passed (s : State) : Prop :=
  (∃ uploadId, s.control = .clearActive uploadId) ∨ (∃ uploadId, s.control = .commit uploadId) ∨
    CommitSent s

/-- Neither at its start nor past the last look. -/
def Control.Between : Control → Prop
  | .resetCancel => False
  | .setActive => False
  | .clearActive _ => False
  | .commit _ => False
  | _ => True

/-- A step that leaves the flag and the cancel calls alone and does not pass the last look. -/
structure Ordinary (s s' : State) : Prop where
  cancels : s'.cancels = s.cancels
  canceler : s'.canceler = s.canceler
  cancelUpload : s'.cancelUpload = s.cancelUpload
  started : s'.control ≠ .resetCancel ∧ s'.control ≠ .setActive
  passed : Passed s' → Passed s

variable {spool : DirectPrintSpool} {settings : DirectPrintSettings} {s : State}

/-- A step between the start and the last look that sends no commit is ordinary. -/
theorem ordinary_of {active : Bool} {control : Control} {message : String} {sent : List Command}
    (hcontrol : control.Between)
    (hsent : (∃ uploadId, Command.commitRasterUpload uploadId ∈ sent) → Passed s) :
    Ordinary s
      { s with uploadActive := active, control, lastError := message, sent } where
  cancels := rfl
  canceler := rfl
  cancelUpload := rfl
  started := by
    refine ⟨fun heq ↦ ?_, fun heq ↦ ?_⟩
    · obtain rfl : control = .resetCancel := heq
      exact hcontrol
    · obtain rfl : control = .setActive := heq
      exact hcontrol
  passed hpassed := by
    rcases hpassed with ⟨uploadId, heq⟩ | ⟨uploadId, heq⟩ | hcommit
    · obtain rfl : control = .clearActive uploadId := heq
      exact absurd hcontrol id
    · obtain rfl : control = .commit uploadId := heq
      exact absurd hcontrol id
    · exact hsent hcommit

/-- The commit is among the requests only if it was before another request. -/
theorem commit_sent_append {command : Command} (hcommand : ∀ id, command ≠ .commitRasterUpload id)
    (h : ∃ uploadId, Command.commitRasterUpload uploadId ∈ s.sent ++ [command]) : Passed s := by
  obtain ⟨uploadId, hmem⟩ := h
  rcases List.mem_append.mp hmem with hold | hnew
  · exact Or.inr (Or.inr ⟨uploadId, hold⟩)
  · exact absurd (List.mem_singleton.mp hnew).symm (hcommand uploadId)

/-- A request that is not the commit is ordinary when both ways on are. -/
theorem request_ordinary {io : JobIo} {command : Command} {ok failed : State → State}
    (hcommand : ∀ id, command ≠ .commitRasterUpload id)
    (hok : ∀ message sent,
      ((∃ uploadId, Command.commitRasterUpload uploadId ∈ sent) → Passed s) →
      Ordinary s (ok { s with lastError := message, sent }))
    (hfailed : ∀ message sent,
      ((∃ uploadId, Command.commitRasterUpload uploadId ∈ sent) → Passed s) →
      Ordinary s (failed { s with lastError := message, sent })) :
    Ordinary s (s.request io command ok failed) := by
  unfold State.request
  split_ifs
  · exact hfailed _ _ fun hsent ↦ Or.inr (Or.inr hsent)
  · exact hfailed _ _ (commit_sent_append hcommand)
  · exact hok _ _ (commit_sent_append hcommand)

/-- Asking for a service that can stream is ordinary. -/
theorem check_service_ordinary (io : JobIo) : Ordinary s (checkService s io) := by
  have hping : (∃ uploadId, Command.commitRasterUpload uploadId ∈ s.sent ++ [.ping]) → Passed s :=
    commit_sent_append nofun
  have hrestart : (∃ uploadId, Command.commitRasterUpload uploadId ∈
      s.sent ++ [.ping] ++ [.restartService]) → Passed s :=
    fun ⟨uploadId, hmem⟩ ↦ Or.inr (Or.inr ⟨uploadId, by simpa using hmem⟩)
  have hagain : (∃ uploadId, Command.commitRasterUpload uploadId ∈
      s.sent ++ [.ping] ++ [.restartService] ++ [.ping]) → Passed s :=
    fun ⟨uploadId, hmem⟩ ↦ Or.inr (Or.inr ⟨uploadId, by simpa using hmem⟩)
  simp only [checkService]
  split_ifs
  · exact ordinary_of trivial fun hsent ↦ Or.inr (Or.inr hsent)
  · exact ordinary_of trivial hping
  · exact ordinary_of trivial hrestart
  · exact ordinary_of trivial hagain
  · exact ordinary_of trivial hagain

/-- What one step of the upload does: it starts, it looks at the flag for the last time, or it is
ordinary. -/
theorem job_step_cases (spool : DirectPrintSpool) (settings : DirectPrintSettings) (s : State)
    (io : JobIo) :
    (s.control = .resetCancel ∧
        jobStep spool settings s io = { s with cancelUpload := false, control := .setActive }) ∨
      (s.control = .setActive ∧
        jobStep spool settings s io = { s with uploadActive := true, control := .readMetadata }) ∨
      (∃ uploadId, s.control = .lastCheck uploadId ∧ s.cancelUpload = false ∧
        jobStep spool settings s io = { s with control := .clearActive uploadId }) ∨
      Ordinary s (jobStep spool settings s io) := by
  have hsame : (∃ uploadId, Command.commitRasterUpload uploadId ∈ s.sent) → Passed s :=
    fun hsent ↦ Or.inr (Or.inr hsent)
  have hgoto : ∀ control, control.Between → Ordinary s (s.goto control) :=
    fun control hcontrol ↦ ordinary_of hcontrol hsame
  have hfail : ∀ message, Ordinary s (s.fail message) :=
    fun message ↦ ordinary_of trivial hsame
  cases hcontrol : s.control with
  | resetCancel => exact Or.inl ⟨rfl, by rw [jobStep, hcontrol]⟩
  | setActive => exact Or.inr (Or.inl ⟨rfl, by rw [jobStep, hcontrol]⟩)
  | lastCheck uploadId =>
      right; right
      rw [jobStep, hcontrol]
      dsimp only
      split_ifs with hcancel
      · exact Or.inr (hgoto _ trivial)
      · exact Or.inl ⟨uploadId, rfl, Bool.eq_false_iff.mpr hcancel, rfl⟩
  | readMetadata =>
      right; right; right
      rw [jobStep, hcontrol]
      dsimp only
      split
      · exact hfail _
      · exact hgoto _ trivial
  | hash remaining =>
      right; right; right
      rw [jobStep, hcontrol]
      dsimp only
      split_ifs
      · exact hgoto _ trivial
      · exact hfail _
      · exact hfail _
      · exact hfail _
      · exact hgoto _ trivial
  | checkService =>
      right; right; right
      rw [jobStep, hcontrol]
      exact check_service_ordinary io
  | openFile =>
      right; right; right
      rw [jobStep, hcontrol]
      dsimp only
      split
      · exact hfail _
      · split_ifs
        · exact hfail _
        · exact hgoto _ trivial
  | beginUpload =>
      right; right; right
      rw [jobStep, hcontrol]
      refine request_ordinary nofun ?_ fun _ _ hsent ↦ ordinary_of trivial hsent
      intro message sent hsent
      split_ifs
      · exact ordinary_of trivial hsent
      · exact ordinary_of trivial hsent
  | checkCancel uploadId chunkBytes offset =>
      right; right; right
      rw [jobStep, hcontrol]
      dsimp only
      split_ifs
      · exact hgoto _ trivial
      · exact hgoto _ trivial
      · exact hgoto _ trivial
  | appendChunk uploadId chunkBytes offset =>
      right; right; right
      rw [jobStep, hcontrol]
      dsimp only
      split_ifs
      · exact hgoto _ trivial
      · exact request_ordinary nofun (fun _ _ hsent ↦ ordinary_of trivial hsent)
          fun _ _ hsent ↦ ordinary_of trivial hsent
  | cancelUpload uploadId message =>
      right; right; right
      rw [jobStep, hcontrol]
      exact request_ordinary nofun (fun _ _ hsent ↦ ordinary_of trivial hsent)
        fun _ _ hsent ↦ ordinary_of trivial hsent
  | clearActive uploadId =>
      have hpassed : Passed s := Or.inl ⟨uploadId, hcontrol⟩
      right; right; right
      rw [jobStep, hcontrol]
      exact ⟨rfl, rfl, rfl, ⟨nofun, nofun⟩, fun _ ↦ hpassed⟩
  | commit uploadId =>
      have hpassed : Passed s := Or.inr (Or.inl ⟨uploadId, hcontrol⟩)
      right; right; right
      rw [jobStep, hcontrol]
      dsimp only [State.request]
      split_ifs
      · exact ordinary_of trivial fun _ ↦ hpassed
      · exact ordinary_of trivial fun _ ↦ hpassed
      · exact ordinary_of trivial fun _ ↦ hpassed
  | leave committed =>
      right; right; right
      rw [jobStep, hcontrol]
      exact ordinary_of trivial hsame
  | returned committed =>
      right; right; right
      rw [jobStep, hcontrol]
      exact ⟨rfl, rfl, rfl, by rw [hcontrol]; exact ⟨nofun, nofun⟩, id⟩

/-! ## Runs -/

/-- The state in which `submitSpooledJob` is called: no upload is active, whatever the last job left
in `m_cancelUpload`, and a cancel call of before may still be about to write it. -/
structure Starting (s : State) : Prop where
  control : s.control = .resetCancel
  uploadActive : s.uploadActive = false
  canceler : s.canceler ≠ .setCancel true
  sent : s.sent = []
  cancels : s.cancels = 0

/-- A cancel call that saw the upload active has set `m_cancelUpload`, so the upload is not
committed. -/
def CancelPreventsCommit (s : State) : Prop := 0 < s.cancels → ¬ CommitSent s

/-- A cancel call that saw the upload active in this job writes `m_cancelUpload` only before the
upload looks at it for the last time. -/
def InTime (s : State) : Action → Prop
  | .job _ => True
  | .cancel _ => s.canceler = .setCancel true → ¬ Passed s

/-- The invariant of a run in time: past the last look there is no cancel call of this job; before
the upload is active there is none under way; and a cancel call stays visible. -/
structure Visible (s : State) : Prop where
  passed : Passed s → s.cancels = 0
  starting : s.control = .resetCancel ∨ s.control = .setActive →
    s.uploadActive = false ∧ s.canceler ≠ .setCancel true ∧ s.cancels = 0
  canceled : 0 < s.cancels → s.cancelUpload = true

theorem Starting.visible (h : Starting s) : Visible s where
  passed _ := h.cancels
  starting _ := ⟨h.uploadActive, h.canceler, h.cancels⟩
  canceled hpos := absurd h.cancels (Nat.ne_of_gt hpos)

/-- A step of the upload keeps the cancel calls visible. -/
theorem Visible.job (h : Visible s) (spool : DirectPrintSpool) (settings : DirectPrintSettings)
    (io : JobIo) : Visible (jobStep spool settings s io) := by
  rcases job_step_cases spool settings s io with
    ⟨hcontrol, hstep⟩ | ⟨hcontrol, hstep⟩ | ⟨uploadId, hcontrol, hclear, hstep⟩ | hordinary
  · obtain ⟨hactive, hcanceler, hnone⟩ := h.starting (Or.inl hcontrol)
    rw [hstep]
    exact ⟨fun _ ↦ hnone, fun _ ↦ ⟨hactive, hcanceler, hnone⟩,
      fun hpos ↦ absurd hnone (Nat.ne_of_gt hpos)⟩
  · obtain ⟨-, -, hnone⟩ := h.starting (Or.inr hcontrol)
    rw [hstep]
    exact ⟨fun _ ↦ hnone, fun hstart ↦ hstart.elim nofun nofun,
      fun hpos ↦ absurd hnone (Nat.ne_of_gt hpos)⟩
  · -- The flag is clear, so no cancel call of this job has set it.
    have hnone : s.cancels = 0 := by
      by_contra hsome
      exact absurd (hclear.symm.trans (h.canceled (Nat.pos_of_ne_zero hsome))) Bool.false_ne_true
    rw [hstep]
    exact ⟨fun _ ↦ hnone, fun hstart ↦ hstart.elim nofun nofun,
      fun hpos ↦ absurd hnone (Nat.ne_of_gt hpos)⟩
  · refine ⟨?_, ?_, ?_⟩
    · intro hpassed
      rw [hordinary.cancels]
      exact h.passed (hordinary.passed hpassed)
    · intro hstart
      exact absurd hstart (not_or.mpr hordinary.started)
    · rw [hordinary.cancels, hordinary.cancelUpload]
      exact h.canceled

/-- A step of a cancel call in time stays visible. -/
theorem Visible.cancel (h : Visible s) {error : String} (hguard : InTime s (.cancel error)) :
    Visible (cancelStep s error) := by
  unfold cancelStep
  split
  · refine ⟨h.passed, ?_, h.canceled⟩
    intro hstart
    obtain ⟨hactive, -, hnone⟩ := h.starting hstart
    refine ⟨hactive, ?_, hnone⟩
    simp [hactive]
  · next thisJob hcanceler =>
      cases thisJob with
      | false =>
          refine ⟨h.passed, ?_, fun _ ↦ rfl⟩
          intro hstart
          obtain ⟨hactive, -, hnone⟩ := h.starting hstart
          exact ⟨hactive, nofun, hnone⟩
      | true =>
          refine ⟨fun hpassed ↦ absurd hpassed (hguard hcanceler), ?_, fun _ ↦ rfl⟩
          intro hstart
          exact absurd hcanceler (h.starting hstart).2.1
  · have hsent : CommitSent { s.send .abortPrint with lastError := error, canceler := .call } →
        CommitSent s := by
      intro ⟨uploadId, hmem⟩
      exact ⟨uploadId, by simpa [State.send] using hmem⟩
    refine ⟨?_, ?_, h.canceled⟩
    · rintro (hclear | hcommit | hcommit)
      · exact h.passed (Or.inl hclear)
      · exact h.passed (Or.inr (Or.inl hcommit))
      · exact h.passed (Or.inr (Or.inr (hsent hcommit)))
    · intro hstart
      obtain ⟨hactive, -, hnone⟩ := h.starting hstart
      exact ⟨hactive, nofun, hnone⟩

/-- In a run in time every cancel call stays visible. -/
theorem Starting.run_visible (h : Starting s) {actions : List Action}
    (halong : Runs.Along (step spool settings) InTime s actions) :
    Visible (Runs.run (step spool settings) s actions) := by
  refine Runs.invariant ?_ halong h.visible
  intro before action hguard hbefore
  cases action with
  | job io => exact hbefore.job spool settings io
  | cancel error => exact hbefore.cancel hguard

/-- Cancel calls are not forgotten. -/
theorem cancels_le (action : Action) : s.cancels ≤ (step spool settings s action).cancels := by
  cases action with
  | job io =>
      rcases job_step_cases spool settings s io with
        ⟨-, hstep⟩ | ⟨-, hstep⟩ | ⟨_, -, -, hstep⟩ | hordinary
      · exact Nat.le_of_eq (congrArg State.cancels hstep).symm
      · exact Nat.le_of_eq (congrArg State.cancels hstep).symm
      · exact Nat.le_of_eq (congrArg State.cancels hstep).symm
      · exact Nat.le_of_eq hordinary.cancels.symm
  | cancel error =>
      show s.cancels ≤ (cancelStep s error).cancels
      unfold cancelStep
      split
      · exact Nat.le_refl _
      · exact Nat.le_add_right _ _
      · exact Nat.le_refl _

/-- In a run whose cancel calls write their flag in time no canceled upload is committed; in a run
where one comes late, a commit is one of a canceled upload. -/
theorem cancel_prevents_commit (spool : DirectPrintSpool) (settings : DirectPrintSettings)
    {s : State} (hstart : Starting s) (actions : List Action) :
    (Runs.Along (step spool settings) InTime s actions →
      CancelPreventsCommit (Runs.run (step spool settings) s actions)) ∧
    (¬ Runs.Along (step spool settings) InTime s actions →
      CommitSent (Runs.run (step spool settings) s actions) →
      ¬ CancelPreventsCommit (Runs.run (step spool settings) s actions)) := by
  refine ⟨?_, ?_⟩
  · intro halong hpos hcommit
    have hnone := (hstart.run_visible halong).passed (Or.inr (Or.inr hcommit))
    exact absurd hnone (Nat.ne_of_gt hpos)
  · intro hbroken hcommit hprevents
    refine hprevents ?_ hcommit
    -- The first action that is not in time is a cancel call behind the last look at the flag.
    obtain ⟨before, action, after, rfl, -, hbreak⟩ := Runs.first_break hbroken
    have hlate : 0 < (step spool settings (Runs.run (step spool settings) s before) action).cancels := by
      cases action with
      | job io => exact absurd trivial hbreak
      | cancel error =>
          obtain ⟨hcanceler, -⟩ := Classical.not_imp.mp hbreak
          show 0 < (cancelStep _ error).cancels
          rw [cancelStep, hcanceler]
          exact Nat.succ_pos _
    have hkept : ∀ (t : State) (action : Action), 0 < t.cancels →
        0 < (step spool settings t action).cancels :=
      fun t action hpos ↦ Nat.lt_of_lt_of_le hpos (cancels_le action)
    rw [Runs.run_append, Runs.run_cons]
    exact Runs.invariant_of_step hkept hlate

/-- A spool of one line. -/
def oneLineSpool : DirectPrintSpool := { bodyOffset := 4096, bodyBytes := 4 }

/-- The client before a job. -/
def idle : State where
  cancelUpload := false
  uploadActive := false
  control := .resetCancel
  canceler := .call

theorem idle_starting : Starting idle := ⟨rfl, rfl, nofun, rfl, rfl⟩

/-- The upload of one line up to its last look at the flag, with replies that accept it. -/
def uploadOneLine : List Action :=
  [.job {}, .job {}, .job { metadata := some 4 }, .job {}, .job {}, .job {},
    .job { fileSize := some 4100 }, .job { uploadId := "u" }, .job {}, .job { chunk := 4100 },
    .job {}]

/-- A cancel call during the last chunk is seen, and the upload is given up. -/
theorem cancel_prevents_commit_last_chunk :
    (Runs.run (step oneLineSpool {}) idle
      (uploadOneLine ++ [.cancel "", .cancel "", .job {}, .job {}, .job {}])).cancels = 1 ∧
    CancelPreventsCommit (Runs.run (step oneLineSpool {}) idle
      (uploadOneLine ++ [.cancel "", .cancel "", .job {}, .job {}, .job {}])) := by
  refine ⟨rfl, (cancel_prevents_commit oneLineSpool {} idle_starting _).1 ?_⟩
  refine ⟨trivial, trivial, trivial, trivial, trivial, trivial, trivial, trivial, trivial, trivial,
    trivial, nofun, fun _ ↦ ?_, trivial, trivial, trivial, trivial⟩
  rintro (⟨uploadId, hclear⟩ | ⟨uploadId, hcommit⟩ | ⟨uploadId, hcommit⟩)
  · exact absurd hclear nofun
  · exact absurd hcommit nofun
  · have hsent : (Runs.run (step oneLineSpool {}) idle uploadOneLine).sent =
        [.ping, .beginRasterUpload oneLineSpool {} 4100, .appendRasterChunk "u" 0 4100] := rfl
    have hmem : Command.commitRasterUpload uploadId ∈
        (Runs.run (step oneLineSpool {}) idle uploadOneLine).sent := hcommit
    rw [hsent] at hmem
    exact absurd hmem (by simp)

/-- A cancel call that reads `m_uploadActive` before the last look and writes `m_cancelUpload` after
it is dropped: the upload is committed. -/
theorem late_cancel_committed :
    Starting idle ∧
    ¬ CancelPreventsCommit (Runs.run (step oneLineSpool {}) idle
      (uploadOneLine ++ [.cancel "", .job {}, .cancel "", .job {}, .job {}])) := by
  have hsent : (Runs.run (step oneLineSpool {}) idle
      (uploadOneLine ++ [.cancel "", .job {}, .cancel "", .job {}, .job {}])).sent =
      [.ping, .beginRasterUpload oneLineSpool {} 4100, .appendRasterChunk "u" 0 4100,
        .commitRasterUpload "u"] := rfl
  refine ⟨idle_starting, fun hprevents ↦ hprevents Nat.one_pos ⟨"u", ?_⟩⟩
  rw [hsent]
  simp

end PrintFlow.PrinterServiceClient
