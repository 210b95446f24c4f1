import PrintFlow.Vendor.Nocai.CancelExit
import PrintFlow.Vendor.Nocai.PrintSession

/-!
# Requests to cancel a job

`m_cancelRequested` is set by every request and cleared by `submitSpooledJob` only. A job that
prints in this process stops for a request made while it runs, and also for one that is pending when
it is submitted; a worker stops for a request that finds its cancel file registered.
-/

namespace PrintFlow.NocaiDirectPrintClient

open Interaction RasterSpool FileStore

/-! ## Replays -/

namespace Shared

variable {shared final : Shared}

theorem replay_append {first second : List ThreadEvent} :
    shared.replay (first ++ second) = some final ↔
      ∃ middle, shared.replay first = some middle ∧ middle.replay second = some final := by
  rw [replay, List.foldlM_append]
  exact Option.bind_eq_some_iff

theorem replay_cons {event : ThreadEvent} {rest : List ThreadEvent} :
    shared.replay (event :: rest) = some final ↔
      ∃ next, shared.step event = some next ∧ next.replay rest = some final := by
  rw [replay, List.foldlM_cons]
  exact Option.bind_eq_some_iff

/-- The state in which an event of a replay happens. -/
theorem replay_at {before after : List ThreadEvent} {event : ThreadEvent}
    (h : shared.replay (before ++ event :: after) = some final) :
    ∃ found next, shared.replay before = some found ∧ found.step event = some next ∧
      next.replay after = some final := by
  obtain ⟨found, hfound, hrest⟩ := replay_append.mp h
  obtain ⟨next, hnext, hafter⟩ := replay_cons.mp hrest
  exact ⟨found, next, hfound, hnext, hafter⟩

end Shared

/-- The pending request after an event. -/
def pendingAfter (pending : Bool) : ThreadEvent → Bool
  | .cancel _ ⟨.storeCancelRequested, _⟩ => true
  | .job ⟨.resetCancelRequested, _⟩ => false
  | _ => pending

/-- Whether a request is pending after these events. -/
def pendingFrom (pending : Bool) (events : List ThreadEvent) : Bool :=
  events.foldl pendingAfter pending

/-! ## What the steps can do -/

/-- What an event of the job can do to the state, and what it needs of it. -/
structure JobStep (shared : Shared) (event : SubmitEvent) (next : Shared) : Prop where
  pending : next.cancelRequested = pendingAfter shared.cancelRequested (.job event)
  polled : ∀ path answer, event = ⟨.sdk path .cancelRequested, answer⟩ →
    answer = shared.canceled shared.cancelRequested path
  cancelFile : next.isolatedCancelFile = shared.isolatedCancelFile ∨ next.isolatedCancelFile = "" ∨
    event.call = .registerCancelFile next.isolatedCancelFile
  files : ∀ file ∈ next.files, file ∈ shared.files
  kept : (∃ path, event.call = .removeFile path) ∨ next.files = shared.files
  descriptor : next.descriptor = shared.descriptor ∨
    ∃ descriptor, event.call = .writeDescriptor descriptor ∧ next.descriptor = some descriptor
  started : next.workerStarted = shared.workerStarted ∨ ∃ path, event = ⟨.startWorker path, none⟩
  ended : next.workerExit = shared.workerExit ∨
    (shared.workerExit = none ∧ next.workerExit = some none)
  waited : ∀ exitCode, event = ⟨.waitForWorker, exitCode⟩ → next.workerExit = some exitCode

/-- A step that leaves the state alone, of a call that neither polls nor waits for the worker. -/
theorem JobStep.still {shared : Shared} {event : SubmitEvent}
    (hpending : shared.cancelRequested = pendingAfter shared.cancelRequested (.job event))
    (hpoll : ∀ path, event.call ≠ .sdk path .cancelRequested)
    (hwait : event.call ≠ .waitForWorker) : JobStep shared event shared where
  pending := hpending
  polled path _ hevent := absurd (congrArg Interaction.Event.call hevent) (hpoll path)
  cancelFile := .inl rfl
  files _ hfile := hfile
  kept := .inr rfl
  descriptor := .inl rfl
  started := .inl rfl
  ended := .inl rfl
  waited _ hevent := absurd (congrArg Interaction.Event.call hevent) hwait

/-- A step with a test is taken when the test holds. -/
theorem step_of_test {test : Prop} [Decidable test] {stepped next : Shared}
    (h : (if test then some stepped else none) = some next) : test ∧ stepped = next := by
  obtain ⟨htest, hsame⟩ := Option.ite_none_right_eq_some.mp h
  exact ⟨htest, Option.some.inj hsame⟩

theorem job_step {shared next : Shared} {event : SubmitEvent}
    (h : shared.jobStep event = some next) : JobStep shared event next := by
  obtain ⟨call, answer⟩ := event
  cases call with
  | sdk path call =>
      cases call with
      | cancelRequested =>
          have hstep : (if answer = shared.canceled shared.cancelRequested path then some shared
              else none) = some next := h
          obtain ⟨hanswer, rfl⟩ := step_of_test hstep
          refine ⟨rfl, ?_, .inl rfl, fun _ hfile ↦ hfile, .inr rfl, .inl rfl, .inl rfl, .inl rfl,
            by rintro _ ⟨⟩⟩
          intro other again hevent
          obtain ⟨hcall, hagain⟩ := Event.mk.inj hevent
          obtain ⟨rfl, -⟩ := SubmitCall.sdk.inj hcall
          exact eq_of_heq hagain ▸ hanswer
      | _ =>
          obtain rfl := Option.some.inj h
          exact .still rfl (by rintro _ ⟨⟩) (by rintro ⟨⟩)
  | loadCancelRequested =>
      have hstep : (if answer = shared.cancelRequested then some shared else none) = some next := h
      obtain ⟨-, rfl⟩ := step_of_test hstep
      exact .still rfl (by rintro _ ⟨⟩) (by rintro ⟨⟩)
  | resetCancelRequested =>
      obtain rfl := Option.some.inj h
      exact ⟨rfl, by rintro _ _ ⟨⟩, .inl rfl, fun _ hfile ↦ hfile, .inr rfl, .inl rfl, .inl rfl,
        .inl rfl, by rintro _ ⟨⟩⟩
  | registerCancelFile path =>
      obtain rfl := Option.some.inj h
      exact ⟨rfl, by rintro _ _ ⟨⟩, .inr (.inr rfl), fun _ hfile ↦ hfile, .inr rfl, .inl rfl,
        .inl rfl, .inl rfl, by rintro _ ⟨⟩⟩
  | clearCancelFile =>
      obtain rfl := Option.some.inj h
      exact ⟨rfl, by rintro _ _ ⟨⟩, .inr (.inl rfl), fun _ hfile ↦ hfile, .inr rfl, .inl rfl,
        .inl rfl, .inl rfl, by rintro _ ⟨⟩⟩
  | removeFile path =>
      cases answer with
      | true =>
          obtain rfl := Option.some.inj h
          exact ⟨rfl, by rintro _ _ ⟨⟩, .inl rfl, fun _ hfile ↦ List.mem_of_mem_filter hfile,
            .inl ⟨path, rfl⟩, .inl rfl, .inl rfl, .inl rfl, by rintro _ ⟨⟩⟩
      | false =>
          obtain rfl := Option.some.inj h
          exact .still rfl (by rintro _ ⟨⟩) (by rintro ⟨⟩)
  | writeDescriptor descriptor =>
      cases answer with
      | true =>
          obtain rfl := Option.some.inj h
          exact ⟨rfl, by rintro _ _ ⟨⟩, .inl rfl, fun _ hfile ↦ hfile, .inr rfl,
            .inr ⟨descriptor, rfl, rfl⟩, .inl rfl, .inl rfl, by rintro _ ⟨⟩⟩
      | false =>
          obtain rfl := Option.some.inj h
          exact .still rfl (by rintro _ ⟨⟩) (by rintro ⟨⟩)
  | startWorker path =>
      cases answer with
      | none =>
          obtain rfl := Option.some.inj h
          exact ⟨rfl, by rintro _ _ ⟨⟩, .inl rfl, fun _ hfile ↦ hfile, .inr rfl, .inl rfl,
            .inr ⟨path, rfl⟩, .inl rfl, by rintro _ ⟨⟩⟩
      | some message =>
          obtain rfl := Option.some.inj h
          exact .still rfl (by rintro _ ⟨⟩) (by rintro ⟨⟩)
  | waitForWorker =>
      have hwaited : ∀ exitCode, (⟨.waitForWorker, answer⟩ : SubmitEvent) =
          ⟨.waitForWorker, exitCode⟩ → answer = exitCode :=
        fun exitCode hevent ↦ eq_of_heq (Event.mk.inj hevent).2
      cases hexit : shared.workerExit with
      | some ended =>
          have hstep : (if answer = ended then some shared else none) = some next := by
            rwa [Shared.jobStep, hexit] at h
          obtain ⟨hanswer, rfl⟩ := step_of_test hstep
          refine ⟨rfl, by rintro _ _ ⟨⟩, .inl rfl, fun _ hfile ↦ hfile, .inr rfl, .inl rfl,
            .inl rfl, .inl rfl, ?_⟩
          exact fun exitCode hevent ↦ hexit.trans (hanswer ▸ hwaited exitCode hevent ▸ rfl)
      | none =>
          have hstep : (if answer = none then some { shared with workerExit := some none }
              else none) = some next := by
            rwa [Shared.jobStep, hexit] at h
          obtain ⟨hanswer, rfl⟩ := step_of_test hstep
          refine ⟨rfl, by rintro _ _ ⟨⟩, .inl rfl, fun _ hfile ↦ hfile, .inr rfl, .inl rfl,
            .inl rfl, .inr ⟨hexit, rfl⟩, ?_⟩
          exact fun exitCode hevent ↦ hanswer ▸ hwaited exitCode hevent ▸ rfl
  | _ =>
      obtain rfl := Option.some.inj h
      exact .still rfl (by rintro _ ⟨⟩) (by rintro ⟨⟩)

/-- What an event of the worker can do to the state, and what it needs of it. -/
structure WorkerStep (shared : Shared) (event : SubmitEvent) (next : Shared) : Prop where
  started : shared.workerStarted = true
  running : shared.workerExit = none
  polled : ∀ path answer, event = ⟨.sdk path .cancelRequested, answer⟩ →
    answer = shared.canceled false path
  read : ∀ path descriptor, event = ⟨.readDescriptor path, some descriptor⟩ →
    shared.descriptor = some descriptor
  others : next = { shared with workerExit := next.workerExit }
  ended : next.workerExit = none ∨
    ∃ code, event.call = .exitWorker code ∧ next.workerExit = some (some code)

theorem worker_step {shared next : Shared} {event : SubmitEvent}
    (h : shared.workerStep event = some next) : WorkerStep shared event next := by
  unfold Shared.workerStep at h
  split at h
  · exact absurd h (Option.some_ne_none next).symm
  · next hruns =>
      rw [Bool.or_eq_true, not_or, Bool.not_eq_true, Bool.not_eq_true, Bool.not_eq_false',
        Option.isSome_eq_false_iff, Option.isNone_iff_eq_none] at hruns
      obtain ⟨hstarted, hrunning⟩ := hruns
      have hsame : shared = { shared with workerExit := shared.workerExit } := rfl
      split at h
      · next path answer =>
          obtain ⟨hanswer, rfl⟩ := step_of_test h
          refine ⟨hstarted, hrunning, ?_, nofun, hsame, .inl hrunning⟩
          intro other again hevent
          obtain ⟨hcall, hagain⟩ := Event.mk.inj hevent
          obtain ⟨rfl, -⟩ := SubmitCall.sdk.inj hcall
          exact eq_of_heq hagain ▸ hanswer
      · next path descriptor =>
          obtain ⟨hdescriptor, rfl⟩ := step_of_test h
          refine ⟨hstarted, hrunning, nofun, ?_, hsame, .inl hrunning⟩
          intro other again hevent
          have hagain := (Event.mk.inj hevent).2
          exact hdescriptor.trans (eq_of_heq hagain)
      · next code _ =>
          obtain rfl := Option.some.inj h
          exact ⟨hstarted, hrunning, nofun, nofun, rfl, .inr ⟨code, rfl, rfl⟩⟩
      · next hpoll hread _ =>
          obtain rfl := Option.some.inj h
          refine ⟨hstarted, hrunning, ?_, ?_, hsame, .inl hrunning⟩
          · exact fun path answer hevent ↦ absurd hevent (hpoll path answer)
          · exact fun path descriptor hevent ↦ absurd hevent (hread path descriptor)

/-- What an event of a request can do to the state, and what it needs of it. -/
structure CancelStep (shared : Shared) (event : CancelEvent) (next : Shared) : Prop where
  others : next = { shared with cancelRequested := next.cancelRequested, files := next.files }
  pending : ∀ request, next.cancelRequested =
    pendingAfter shared.cancelRequested (.cancel request event)
  loaded : ∀ answer, event = ⟨.loadCancelFile, answer⟩ → answer = shared.isolatedCancelFile
  files : ∀ file ∈ shared.files, file ∈ next.files
  created : ∀ path, event = ⟨.createFile path, true⟩ → path ∈ next.files
  others_files : ∀ file ∈ next.files, file ∈ shared.files ∨ event = ⟨.createFile file, true⟩

theorem cancel_step {shared next : Shared} {event : CancelEvent}
    (h : shared.cancelStep event = some next) : CancelStep shared event next := by
  obtain ⟨call, answer⟩ := event
  cases call with
  | storeCancelRequested =>
      obtain rfl := Option.some.inj h
      exact ⟨rfl, fun _ ↦ rfl, nofun, fun _ hfile ↦ hfile, nofun, fun _ ↦ .inl⟩
  | loadCancelFile =>
      have hstep : (if answer = shared.isolatedCancelFile then some shared else none) =
          some next := h
      obtain ⟨hanswer, rfl⟩ := step_of_test hstep
      refine ⟨rfl, fun _ ↦ rfl, ?_, fun _ hfile ↦ hfile, nofun, fun _ ↦ .inl⟩
      exact fun other hevent ↦ eq_of_heq (Event.mk.inj hevent).2 ▸ hanswer
  | createFile path =>
      cases answer with
      | true =>
          obtain rfl := Option.some.inj h
          refine ⟨rfl, fun _ ↦ rfl, nofun, fun _ hfile ↦ List.mem_cons_of_mem _ hfile, ?_, ?_⟩
          · intro other hevent
            have hpath := CancelCall.createFile.inj (Event.mk.inj hevent).1
            exact hpath ▸ List.mem_cons_self
          · intro file hfile
            rcases List.mem_cons.mp hfile with rfl | hfile
            · exact .inr rfl
            · exact .inl hfile
      | false =>
          obtain rfl := Option.some.inj h
          refine ⟨rfl, fun _ ↦ rfl, nofun, fun _ hfile ↦ hfile, ?_, fun _ ↦ .inl⟩
          intro other hevent
          obtain ⟨hcall, hanswer⟩ := Event.mk.inj hevent
          obtain rfl := CancelCall.createFile.inj hcall
          exact absurd (eq_of_heq hanswer) Bool.false_ne_true
  | abortPrint =>
      obtain rfl := Option.some.inj h
      exact ⟨rfl, fun _ ↦ rfl, nofun, fun _ hfile ↦ hfile, nofun, fun _ ↦ .inl⟩

/-- The pending request is what the events say it is. -/
theorem step_pending {shared next : Shared} {event : ThreadEvent}
    (h : shared.step event = some next) :
    next.cancelRequested = pendingAfter shared.cancelRequested event := by
  cases event with
  | job event => exact (job_step h).pending
  | worker event =>
      rw [(worker_step h).others]
      rfl
  | cancel request event => exact (cancel_step h).pending request

theorem replay_pending {shared final : Shared} {events : List ThreadEvent}
    (h : shared.replay events = some final) :
    final.cancelRequested = pendingFrom shared.cancelRequested events := by
  induction events generalizing shared with
  | nil => exact Option.some.inj h ▸ rfl
  | cons event events ih =>
      obtain ⟨next, hnext, hrest⟩ := Shared.replay_cons.mp h
      rw [ih hrest, step_pending hnext]
      rfl

/-- The event makes a request. -/
def ThreadEvent.requests : ThreadEvent → Bool
  | .cancel _ ⟨.storeCancelRequested, _⟩ => true
  | _ => false

/-- The event clears the pending request. -/
def ThreadEvent.resets : ThreadEvent → Bool
  | .job ⟨.resetCancelRequested, _⟩ => true
  | _ => false

/-- An event that makes no request leaves at most the one that is pending. -/
theorem pending_after_quiet {pending : Bool} {event : ThreadEvent} (hquiet : event.requests = false)
    (h : pendingAfter pending event = true) : pending = true ∧ event.resets = false := by
  unfold pendingAfter at h
  split at h
  · exact absurd hquiet Bool.noConfusion
  · exact absurd h Bool.false_ne_true
  · next hreset =>
      refine ⟨h, ?_⟩
      unfold ThreadEvent.resets
      split
      · exact (hreset _ rfl).elim
      · rfl

/-- Without a new request, one that is pending was pending all along. -/
theorem pending_from_quiet {pending : Bool} {events : List ThreadEvent}
    (hquiet : ∀ event ∈ events, event.requests = false) (h : pendingFrom pending events = true) :
    pending = true ∧ ∀ event ∈ events, event.resets = false := by
  induction events generalizing pending with
  | nil => exact ⟨h, fun _ hevent ↦ (List.not_mem_nil hevent).elim⟩
  | cons event events ih =>
      obtain ⟨hnext, hrest⟩ := ih (fun other hother ↦ hquiet other (List.mem_cons_of_mem _ hother)) h
      obtain ⟨hpending, hevent⟩ := pending_after_quiet (hquiet event List.mem_cons_self) hnext
      refine ⟨hpending, fun other hother ↦ ?_⟩
      rcases List.mem_cons.mp hother with rfl | hother
      · exact hevent
      · exact hrest other hother

/-- A pending request stays until it is cleared. -/
theorem pending_from_pending {events : List ThreadEvent}
    (h : ∀ event ∈ events, event.resets = false) : pendingFrom true events = true := by
  induction events with
  | nil => rfl
  | cons event events ih =>
      have hnext : pendingAfter true event = true := by
        unfold pendingAfter
        split
        · rfl
        · exact absurd (h _ List.mem_cons_self) Bool.noConfusion
        · rfl
      rw [pendingFrom, List.foldl_cons, hnext]
      exact ih fun other hother ↦ h other (List.mem_cons_of_mem _ hother)

/-! ## Jobs one after the other -/

/-- A job that prints in this process. -/
inductive Job where
  | prepared (raster : DirectPrintRaster) (settings : DirectPrintSettings)
  | spooled (spool : DirectPrintSpool) (settings : DirectPrintSettings) (progress : Bool)

/-- Submitting it. -/
def Job.submit (sdk : Sdk) (session : SdkSession) : Job → SubmitProgram (SdkSession × Option Bool)
  | .prepared raster settings => submitPreparedJob sdk session raster settings
  | .spooled spool settings progress => submitSpooledJob false progress sdk session spool settings

/-- A part of the life of a client: an event of a request while no job runs, or a job with the
events from its submission to its return. -/
inductive Segment where
  | request (number : Nat) (event : CancelEvent)
  | job (job : Job) (events : List ThreadEvent)

/-- The events of a part. -/
def Segment.events : Segment → List ThreadEvent
  | .request number event => [.cancel number event]
  | .job _ events => events

/-- A life of a client from one state to another. Every job may find other library functions. -/
inductive ClientRun : SdkSession → Shared → List Segment → Shared → Prop where
  | nil (session shared) : ClientRun session shared [] shared
  | request {session shared next segments final} (number : Nat) (event : CancelEvent) :
      shared.cancelStep event = some next → ClientRun session next segments final →
      ClientRun session shared (.request number event :: segments) final
  | job {session shared next after result segments final} (sdk : Sdk) (job : Job)
      (events : List ThreadEvent) :
      Runs (job.submit sdk session) (jobEvents events) (after, result) →
      workerEvents events = [] → shared.replay events = some next →
      ClientRun after next segments final → ClientRun session shared (.job job events :: segments) final

/-- The events of one request run `cancelCurrentOutput` or `abortPrint`, perhaps not to its end. -/
def IsRequest (events : List CancelEvent) : Prop :=
  ∃ rest, Runs cancelCurrentOutput (events ++ rest) () ∨
    ∃ aborted, Runs abortPrint (events ++ rest) aborted

/-- A life of a new client. -/
structure ClientHistory (session : SdkSession) (segments : List Segment) : Prop where
  runs : ∃ final, ClientRun session {} segments final
  requests : ∀ request, IsRequest (cancelEvents request (segments.flatMap Segment.events))

/-- No request is made during a job. -/
def Uninterrupted (events : List ThreadEvent) : Prop := ∀ event ∈ events, event.requests = false

/-- The job takes the cancel exit of `printPackedJob`: one of its polls finds a request. -/
def TakesCancelExit (events : List ThreadEvent) : Prop :=
  ∃ path, .job ⟨.sdk path .cancelRequested, true⟩ ∈ events

/-- The job polls for a request. -/
def Polls (events : List ThreadEvent) : Prop :=
  ∃ path answer, .job ⟨.sdk path .cancelRequested, answer⟩ ∈ events

/-- The state in which a job of a life is submitted, and its run. -/
theorem ClientRun.at_job {session : SdkSession} {shared final : Shared}
    {before after : List Segment} {job : Job} {events : List ThreadEvent}
    (h : ClientRun session shared (before ++ .job job events :: after) final) :
    ∃ sdk found result, ∃ start next : Shared,
      Runs (job.submit sdk found) (jobEvents events) result ∧
      start.cancelRequested =
        pendingFrom shared.cancelRequested (before.flatMap Segment.events) ∧
      start.replay events = some next := by
  -- What is pending is handed from segment to segment, by a request or by the events of a job.
  induction before generalizing session shared with
  | nil =>
      cases h with
      | job sdk _ _ hruns _ hreplay _ =>
          exact ⟨sdk, session, _, shared, _, hruns, rfl, hreplay⟩
  | cons segment before ih =>
      cases h with
      | request number event hstep hrest =>
          obtain ⟨sdk, found, result, start, next, hruns, hstart, hreplay⟩ := ih hrest
          refine ⟨sdk, found, result, start, next, hruns, ?_, hreplay⟩
          rw [hstart, (cancel_step hstep).pending number]
          rfl
      | job sdk _ _ _ _ hfirst hrest =>
          obtain ⟨sdk, found, result, start, next, hruns, hstart, hreplay⟩ := ih hrest
          refine ⟨sdk, found, result, start, next, hruns, ?_, hreplay⟩
          rw [hstart, replay_pending hfirst, List.flatMap_cons, pendingFrom, pendingFrom,
            pendingFrom, List.foldl_append]
          rfl

/-- Where a job in this process polls, it finds what is pending. -/
theorem poll_finds {start next : Shared} {before after : List ThreadEvent} {path : String}
    {answer : Bool} (hpath : path = "")
    (h : start.replay (before ++ .job ⟨.sdk path .cancelRequested, answer⟩ :: after) = some next) :
    answer = pendingFrom start.cancelRequested before := by
  obtain ⟨found, polled, hbefore, hstep, _⟩ := Shared.replay_at h
  have hstep : found.jobStep ⟨.sdk path .cancelRequested, answer⟩ = some polled := hstep
  have hpoll := (job_step hstep).polled path answer rfl
  rw [hpoll, ← replay_pending hbefore, hpath]
  exact Bool.or_false _

/-- The events of a program of a client in this process are its library calls, which carry no
cancel file. -/
theorem on_sdk_events {α : Type} (p : SdkProgram α) :
    Meets (onSdk "" p) fun trace _ ↦ ∀ event ∈ trace, ∃ call, event.call = .sdk "" call := by
  have hany : Meets p fun _ _ ↦ True := fun _ _ _ ↦ trivial
  refine Meets.within _ _ hany ?_
  intro trace result _ event hevent
  obtain ⟨inner, _, rfl⟩ := List.mem_map.mp hevent
  exact ⟨inner.call, rfl⟩

theorem submit_prepared_job_events (sdk : Sdk) (session : SdkSession) (raster : DirectPrintRaster)
    (settings : DirectPrintSettings) :
    Meets (submitPreparedJob sdk session raster settings) fun trace _ ↦
      ∀ event ∈ trace, ∃ call, event.call = .sdk "" call := by
  refine Meets.bind (on_sdk_events _) ?_
  intro trace result htrace
  refine .pure ?_
  rw [List.append_nil]
  exact htrace

/-- A call that neither clears the pending request, nor starts a worker, nor concerns the vendor
library. -/
def SubmitCall.plain : SubmitCall → Bool
  | .resetCancelRequested | .startWorker _ | .sdk _ _ => false
  | _ => true

/-- An event that neither clears the pending request, nor starts a worker, nor polls for a cancel
file. -/
def Plain (event : SubmitEvent) : Prop :=
  event.call ≠ .resetCancelRequested ∧ (∀ path, event.call ≠ .startWorker path) ∧
    ∀ path call, event.call = .sdk path call → path = ""

/-- The programs whose events are all plain. -/
def AllPlain {α : Type} (p : SubmitProgram α) : Prop :=
  Meets p fun trace _ ↦ ∀ event ∈ trace, Plain event

namespace AllPlain

variable {α β : Type}

protected theorem pure (value : α) : AllPlain (pure value : SubmitProgram α) :=
  Meets.pure fun _ hevent ↦ (List.not_mem_nil hevent).elim

protected theorem ask {call : SubmitCall} (h : call.plain = true) : AllPlain call.ask := by
  refine .call fun answer event hevent ↦ ?_
  obtain rfl := List.mem_singleton.mp hevent
  refine ⟨?_, fun path ↦ ?_, fun path other ↦ ?_⟩
  all_goals
    rintro rfl
    exact absurd h Bool.false_ne_true

protected theorem bind {p : SubmitProgram α} {f : α → SubmitProgram β} (hp : AllPlain p)
    (hf : ∀ value, AllPlain (f value)) : AllPlain (p >>= f) := by
  refine Meets.bind hp fun before value hbefore ↦ ?_
  refine (hf value).mono fun after result hafter event hevent ↦ ?_
  exact (List.mem_append.mp hevent).elim (hbefore event) (hafter event)

protected theorem ite {c : Prop} [Decidable c] {p q : SubmitProgram α} (hp : AllPlain p)
    (hq : AllPlain q) : AllPlain (if c then p else q) :=
  Meets.ite (fun _ ↦ hp) fun _ ↦ hq

theorem on_sdk (p : SdkProgram α) : AllPlain (onSdk "" p) := by
  refine Meets.mono (on_sdk_events p) fun trace _ htrace event hevent ↦ ?_
  obtain ⟨call, hcall⟩ := htrace event hevent
  refine ⟨fun hreset ↦ absurd (hcall.symm.trans hreset) nofun, fun path hstart ↦ ?_,
    fun path other hother ↦ ?_⟩
  · exact absurd (hcall.symm.trans hstart) nofun
  · exact (SubmitCall.sdk.inj (hcall.symm.trans hother)).1.symm

end AllPlain

/-- A spooled job clears the pending request first. -/
theorem submit_spooled_job_events (progress : Bool) (sdk : Sdk) (session : SdkSession)
    (spool : DirectPrintSpool) (settings : DirectPrintSettings) :
    Meets (submitSpooledJob false progress sdk session spool settings) fun trace _ ↦
      ∃ rest, trace = ⟨.resetCancelRequested, ()⟩ :: rest ∧ ∀ event ∈ rest, Plain event := by
  have hreport : ∀ completed total, AllPlain (SubmitCall.reportProgress completed total).ask :=
    fun _ _ ↦ .ask rfl
  have hprint : AllPlain (submitSpooledJob.print false sdk session spool settings) := by
    refine Meets.ite (fun hyes ↦ absurd hyes Bool.false_ne_true) fun _ ↦ ?_
    refine AllPlain.bind (.bind (.ask rfl) fun opened ↦ ?_) fun _ ↦ .pure _
    cases opened with
    | error message => exact .pure _
    | ok opened => exact .on_sdk _
  refine Meets.call_bind fun _ ↦ Meets.mono (?_ : AllPlain _) fun trace _ htrace ↦
    ⟨trace, rfl, htrace⟩
  refine .bind (.ask rfl) fun failed ↦ ?_
  cases failed with
  | some message => exact .pure _
  | none =>
      have hend : AllPlain (do
          let printed ← submitSpooledJob.print false sdk session spool settings
          if printed.2 = some true && progress then
            (SubmitCall.reportProgress (totalLines spool) (totalLines spool)).ask
          return (printed.1, printed.2)) :=
        .bind hprint fun _ ↦ .ite (.bind (hreport _ _) fun _ ↦ .pure _) (.pure _)
      exact .ite (.bind (hreport _ _) fun _ ↦ hend) hend

/-- The events of the job keep their places among those of all threads. -/
theorem mem_job_events {events : List ThreadEvent} {event : SubmitEvent} :
    event ∈ jobEvents events ↔ .job event ∈ events := by
  unfold jobEvents
  rw [List.mem_filterMap]
  constructor
  · rintro ⟨other, hother, hevent⟩
    cases other with
    | job other => exact Option.some.inj hevent ▸ hother
    | worker other => exact absurd hevent (Option.some_ne_none event).symm
    | cancel request other => exact absurd hevent (Option.some_ne_none event).symm
  · exact fun hevent ↦ ⟨_, hevent, rfl⟩

/-- The events of the job before and after one of them. -/
theorem job_events_split (before after : List ThreadEvent) (event : SubmitEvent) :
    jobEvents (before ++ .job event :: after) = jobEvents before ++ event :: jobEvents after := by
  unfold jobEvents
  rw [List.filterMap_append]
  rfl

/-- In a life of a client no job takes the cancel exit without a request made while it runs, exactly
when each prepared job without such a request that polls at all is submitted with no request
pending. -/
theorem no_stale_cancellation_iff (session : SdkSession) (segments : List Segment)
    (hlife : ClientHistory session segments) :
    (∀ before job events after, segments = before ++ .job job events :: after →
      Uninterrupted events → ¬ TakesCancelExit events) ↔
    ∀ before raster settings events after,
      segments = before ++ .job (.prepared raster settings) events :: after →
      Uninterrupted events → Polls events →
      pendingFrom false (before.flatMap Segment.events) = false := by
  obtain ⟨final, hrun⟩ := hlife.runs
  constructor
  -- A poll that finds a pending request takes the exit: nothing in a prepared job resets it before.
  · rintro hnone before raster settings events after rfl hquiet ⟨path, answer, hpoll⟩
    by_contra hpending
    rw [Bool.not_eq_false] at hpending
    refine hnone before _ events after rfl hquiet ?_
    obtain ⟨sdk, found, result, start, next, hruns, hstart, hreplay⟩ := hrun.at_job
    obtain ⟨first, rest, rfl⟩ := List.append_of_mem hpoll
    have hevents := submit_prepared_job_events sdk found raster settings _ _ hruns
    have hpath : path = "" := by
      obtain ⟨call, hcall⟩ := hevents _ (mem_job_events.mpr hpoll)
      exact (SubmitCall.sdk.inj hcall).1
    have hkeeps : ∀ event ∈ first, event.resets = false := by
      intro event hevent
      unfold ThreadEvent.resets
      split
      · next answer =>
          obtain ⟨call, hcall⟩ := hevents _ (mem_job_events.mpr (List.mem_append_left _ hevent))
          exact absurd hcall nofun
      · rfl
    have hfound := poll_finds hpath hreplay
    rw [hstart, hpending, pending_from_pending hkeeps] at hfound
    exact ⟨path, hfound ▸ hpoll⟩
  -- An exit was taken at a poll that found a request. Without one during the job it was pending
  -- before, and in a spooled job the reset that comes first would have cleared it.
  · rintro hclear before job events after rfl hquiet ⟨path, hexit⟩
    obtain ⟨sdk, found, result, start, next, hruns, hstart, hreplay⟩ := hrun.at_job
    obtain ⟨first, rest, rfl⟩ := List.append_of_mem hexit
    have hfirst : ∀ event ∈ first, event.requests = false :=
      fun event hevent ↦ hquiet event (List.mem_append_left _ hevent)
    cases job with
    | prepared raster settings =>
        have hpath : path = "" := by
          obtain ⟨call, hcall⟩ := submit_prepared_job_events sdk found raster settings _ _ hruns _
            (mem_job_events.mpr hexit)
          exact (SubmitCall.sdk.inj hcall).1
        have hpending := (pending_from_quiet hfirst (poll_finds hpath hreplay).symm).1
        rw [hstart, hclear before raster settings _ after rfl hquiet ⟨path, true, hexit⟩] at hpending
        exact Bool.false_ne_true hpending
    | spooled spool settings progress =>
        obtain ⟨plain, hevents, hplain⟩ :=
          submit_spooled_job_events progress sdk found spool settings _ _ hruns
        have hpath : path = "" := by
          have hpoll := mem_job_events.mpr hexit
          rw [hevents] at hpoll
          rcases List.mem_cons.mp hpoll with hreset | hpoll
          · exact absurd (Event.mk.inj hreset).1 nofun
          · exact (hplain _ hpoll).2.2 path _ rfl
        obtain ⟨_, hnone⟩ := pending_from_quiet hfirst (poll_finds hpath hreplay).symm
        -- the reset that comes first among the events of the job comes before the poll
        have hreset : (ThreadEvent.job ⟨.resetCancelRequested, ()⟩) ∈ first := by
          rw [job_events_split] at hevents
          cases hjob : jobEvents first with
          | nil =>
              rw [hjob, List.nil_append] at hevents
              exact absurd (Event.mk.inj (List.cons.inj hevents).1).1 nofun
          | cons event others =>
              rw [hjob, List.cons_append] at hevents
              obtain rfl := (List.cons.inj hevents).1
              exact mem_job_events.mp (hjob ▸ List.mem_cons_self)
        exact Bool.noConfusion (hnone _ hreset)

/-- A library on which every call succeeds, with these answers to the polls. -/
def pollingSdk (canceled : Bool) (history : List SdkEvent) : (call : SdkCall) → call.Answer
  | .cancelRequested => canceled
  | call => obligingSdk history call

/-- The calls of a prepared job on such a library. -/
def preparedCalls (canceled : Bool) : List ThreadEvent :=
  ((printPackedJob {} {} twoPlaneRaster {} none).run (pollingSdk canceled) []).1.map fun event ↦
    .job ⟨.sdk "" event.call, event.answer⟩

/-- A prepared job runs with these calls. -/
theorem prepared_calls_run (canceled : Bool) :
    ∃ after result, Runs (submitPreparedJob {} {} twoPlaneRaster {})
      (jobEvents (preparedCalls canceled)) (after, result) := by
  let job := printPackedJob {} {} twoPlaneRaster {} none
  obtain ⟨trace, htrace, hruns⟩ := run_runs (pollingSdk canceled) job []
  have hevents : jobEvents (preparedCalls canceled) =
      trace.map (Event.within (.sdk "") fun _ ↦ rfl) := by
    have hcalls : preparedCalls canceled =
        (trace.map (Event.within (.sdk "") fun _ ↦ rfl)).map .job := by
      rw [List.map_map]
      exact congrArg (List.map _) htrace
    rw [hcalls]
    exact List.filterMap_map.trans (List.filterMap_some)
  refine ⟨{ client := (job.run (pollingSdk canceled) []).2.1 }, (job.run (pollingSdk canceled) []).2.2,
    ?_⟩
  rw [hevents]
  refine runs_bind.mpr ⟨_, [], (job.run (pollingSdk canceled) []).2, (List.append_nil _).symm, ?_,
    .done _⟩
  exact (runs_within _ _).mpr ⟨trace, rfl, hruns⟩

/-- A request that finds no cancel file. -/
theorem idle_request_runs :
    Runs cancelCurrentOutput [⟨.storeCancelRequested, ()⟩, ⟨.loadCancelFile, ""⟩] () := by
  refine .call_bind (.call_bind ?_)
  exact .done ()

/-- A client that prints a prepared job, after its output was canceled while it was idle or not. -/
def preparedLife : Bool → List Segment
  | true =>
    [.request 0 ⟨.storeCancelRequested, ()⟩, .request 0 ⟨.loadCancelFile, ""⟩,
      .job (.prepared twoPlaneRaster {}) (preparedCalls true)]
  | false => [.job (.prepared twoPlaneRaster {}) (preparedCalls false)]

/-- A client can live like this. -/
theorem prepared_life_history (canceled : Bool) : ClientHistory {} (preparedLife canceled) := by
  obtain ⟨after, result, hjob⟩ := prepared_calls_run canceled
  have hreplay : ∀ canceled, (Shared.replay { cancelRequested := canceled }
      (preparedCalls canceled)).isSome := by decide +kernel
  obtain ⟨final, hfinal⟩ := Option.isSome_iff_exists.mp (hreplay canceled)
  have hworker : workerEvents (preparedCalls canceled) = [] :=
    List.filterMap_map.trans (List.filterMap_none _)
  have hnone : ∀ request, cancelEvents request (preparedCalls canceled) = [] :=
    fun _ ↦ List.filterMap_map.trans (List.filterMap_none _)
  have hidle : IsRequest [] := ⟨_, .inl idle_request_runs⟩
  cases canceled with
  | true =>
      refine ⟨⟨final, .request 0 _ rfl (.request 0 _ rfl ?_)⟩, fun request ↦ ?_⟩
      · exact .job {} _ _ hjob hworker hfinal (.nil _ _)
      · have hevents : cancelEvents request ((preparedLife true).flatMap Segment.events) =
            cancelEvents request [.cancel 0 ⟨.storeCancelRequested, ()⟩,
              .cancel 0 ⟨.loadCancelFile, ""⟩] ++ cancelEvents request (preparedCalls true) := by
          rw [cancelEvents, cancelEvents, cancelEvents, ← List.filterMap_append]
          exact congrArg (fun calls ↦ List.filterMap _ (_ :: _ :: calls)) (List.append_nil _)
        rw [hevents, hnone request, List.append_nil]
        by_cases hzero : request = 0
        · subst hzero
          exact ⟨[], .inl idle_request_runs⟩
        · have hother : cancelEvents request [.cancel 0 ⟨.storeCancelRequested, ()⟩,
              .cancel 0 ⟨.loadCancelFile, ""⟩] = [] := by
            simp [cancelEvents, Ne.symm hzero]
          exact hother ▸ hidle
  | false =>
      refine ⟨⟨final, .job {} _ _ hjob hworker hfinal (.nil _ _)⟩, fun request ↦ ?_⟩
      have hevents : (preparedLife false).flatMap Segment.events = preparedCalls false :=
        List.append_nil _
      rw [hevents, hnone request]
      exact hidle

/-- A prepared job on a client that was not canceled prints to its end. -/
theorem no_stale_cancellation_iff_uncanceled :
    ClientHistory {} (preparedLife false) ∧
      ∀ before job events after, preparedLife false = before ++ .job job events :: after →
        Uninterrupted events → ¬ TakesCancelExit events := by
  refine ⟨prepared_life_history false,
    (no_stale_cancellation_iff {} (preparedLife false) (prepared_life_history false)).mpr ?_⟩
  intro before raster settings events after hsplit _ _
  cases before with
  | nil => rfl
  | cons segment before =>
      have hrest := (List.cons.inj hsplit).2
      exact absurd hrest (by simp)

/-- A poll of the job that answers true. -/
def ThreadEvent.pollsTrue : ThreadEvent → Bool
  | .job ⟨.sdk _ .cancelRequested, answer⟩ => answer
  | _ => false

theorem polls_true_iff {event : ThreadEvent} :
    event.pollsTrue = true ↔ ∃ path, event = .job ⟨.sdk path .cancelRequested, true⟩ := by
  constructor
  · intro hpoll
    unfold ThreadEvent.pollsTrue at hpoll
    split at hpoll
    · next path answer => exact ⟨path, (show answer = true from hpoll) ▸ rfl⟩
    · exact absurd hpoll Bool.false_ne_true
  · rintro ⟨path, rfl⟩
    rfl

/-- A prepared job takes the cancel exit, with no request made while it runs. -/
theorem stale_cancellation_stops_prepared_job :
    ¬ ∀ session segments, ClientHistory session segments →
      ∀ before job events after, segments = before ++ .job job events :: after →
        Uninterrupted events → ¬ TakesCancelExit events := by
  intro hclaim
  have hstopped : TakesCancelExit (preparedCalls true) := by
    have hpolled : (preparedCalls true).any ThreadEvent.pollsTrue = true := by decide +kernel
    obtain ⟨event, hmem, hpoll⟩ := List.any_eq_true.mp hpolled
    obtain ⟨path, rfl⟩ := polls_true_iff.mp hpoll
    exact ⟨path, hmem⟩
  refine hclaim {} (preparedLife true) (prepared_life_history true)
    [.request 0 ⟨.storeCancelRequested, ()⟩, .request 0 ⟨.loadCancelFile, ""⟩] _ _ [] rfl ?_ hstopped
  intro event hevent
  obtain ⟨_, _, rfl⟩ := List.mem_map.mp hevent
  rfl

end PrintFlow.NocaiDirectPrintClient
