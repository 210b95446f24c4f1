import PrintFlow.Vendor.Nocai.Cancellation

/-!
# Requests during a spooled job

A request that is made while a spooled job is submitted sets `m_cancelRequested` and creates the
cancel file when it finds one registered. A print in this process polls the flag, and a worker the
file, so that a request that comes before the file is registered is lost on the worker.
-/

namespace PrintFlow.NocaiDirectPrintClient

open Interaction RasterSpool FileStore

/-! ## What the past says about the state -/

/-- What the events so far say about the state they lead to. -/
structure Recorded (past : List ThreadEvent) (shared : Shared) : Prop where
  registered : shared.isolatedCancelFile = "" ∨
    ∃ event, .job event ∈ past ∧ event.call = .registerCancelFile shared.isolatedCancelFile
  described : ∀ descriptor, shared.descriptor = some descriptor →
    ∃ event, .job event ∈ past ∧ event.call = .writeDescriptor descriptor
  started : shared.workerStarted = true → ∃ path, .job ⟨.startWorker path, none⟩ ∈ past
  ended : ∀ exitCode, .job ⟨.waitForWorker, exitCode⟩ ∈ past → shared.workerExit = some exitCode
  exited : ∀ code, shared.workerExit = some (some code) →
    ∃ event, .worker event ∈ past ∧ event.call = .exitWorker code
  created : ∀ file ∈ shared.files, ∃ request, .cancel request ⟨.createFile file, true⟩ ∈ past
  kept : ∀ request file, .cancel request ⟨.createFile file, true⟩ ∈ past →
    (∃ event path, .job event ∈ past ∧ event.call = .removeFile path) ∨ file ∈ shared.files

theorem recorded_start (pending : Bool) : Recorded [] { cancelRequested := pending } where
  registered := .inl rfl
  described := nofun
  started := nofun
  ended := nofun
  exited := nofun
  created := nofun
  kept := nofun

section Step

variable {past : List ThreadEvent} {shared next : Shared}

theorem recorded_job {event : SubmitEvent} (h : shared.jobStep event = some next)
    (hpast : Recorded past shared) : Recorded (past ++ [.job event]) next := by
  have hstep := job_step h
  have hbefore : ∀ {other : ThreadEvent}, other ∈ past → other ∈ past ++ [.job event] :=
    fun hother ↦ List.mem_append_left _ hother
  have hlast : (ThreadEvent.job event) ∈ past ++ [.job event] :=
    List.mem_append_right _ (List.mem_singleton.mpr rfl)
  refine ⟨?_, ?_, ?_, ?_, ?_, ?_, ?_⟩
  · rcases hstep.cancelFile with hsame | hnone | hregister
    · rw [hsame]
      exact hpast.registered.imp id fun ⟨other, hother, hcall⟩ ↦ ⟨other, hbefore hother, hcall⟩
    · exact .inl hnone
    · exact .inr ⟨event, hlast, hregister⟩
  · intro descriptor hdescriptor
    rcases hstep.descriptor with hsame | ⟨written, hwrite, hwritten⟩
    · obtain ⟨other, hother, hcall⟩ := hpast.described descriptor (hsame ▸ hdescriptor)
      exact ⟨other, hbefore hother, hcall⟩
    · obtain rfl := Option.some.inj (hwritten.symm.trans hdescriptor)
      exact ⟨event, hlast, hwrite⟩
  · intro hstarted
    rcases hstep.started with hsame | ⟨path, rfl⟩
    · obtain ⟨path, hpath⟩ := hpast.started (hsame ▸ hstarted)
      exact ⟨path, hbefore hpath⟩
    · exact ⟨path, hlast⟩
  · intro exitCode hwait
    rcases List.mem_append.mp hwait with hwait | hwait
    · have hended := hpast.ended exitCode hwait
      rcases hstep.ended with hsame | ⟨hnone, -⟩
      · exact hsame.trans hended
      · exact absurd (hnone.symm.trans hended) nofun
    · exact hstep.waited exitCode (ThreadEvent.job.inj (List.mem_singleton.mp hwait)).symm
  · intro code hexit
    rcases hstep.ended with hsame | ⟨-, hcrash⟩
    · obtain ⟨other, hother, hcall⟩ := hpast.exited code (hsame ▸ hexit)
      exact ⟨other, hbefore hother, hcall⟩
    · exact absurd (Option.some.inj (hcrash.symm.trans hexit)) nofun
  · intro file hfile
    obtain ⟨request, hcreated⟩ := hpast.created file (hstep.files file hfile)
    exact ⟨request, hbefore hcreated⟩
  · intro request file hcreate
    rcases List.mem_append.mp hcreate with hcreate | hcreate
    · rcases hstep.kept with ⟨path, hremove⟩ | hsame
      · exact .inl ⟨event, path, hlast, hremove⟩
      · rw [hsame]
        refine (hpast.kept request file hcreate).imp ?_ id
        exact fun ⟨other, path, hother, hcall⟩ ↦ ⟨other, path, hbefore hother, hcall⟩
    · exact absurd (List.mem_singleton.mp hcreate) nofun

theorem recorded_worker {event : SubmitEvent} (h : shared.workerStep event = some next)
    (hpast : Recorded past shared) : Recorded (past ++ [.worker event]) next := by
  have hstep := worker_step h
  have hbefore : ∀ {other : ThreadEvent}, other ∈ past → other ∈ past ++ [.worker event] :=
    fun hother ↦ List.mem_append_left _ hother
  rw [hstep.others]
  refine ⟨?_, ?_, ?_, ?_, ?_, ?_, ?_⟩
  · exact hpast.registered.imp id fun ⟨other, hother, hcall⟩ ↦ ⟨other, hbefore hother, hcall⟩
  · intro descriptor hdescriptor
    obtain ⟨other, hother, hcall⟩ := hpast.described descriptor hdescriptor
    exact ⟨other, hbefore hother, hcall⟩
  · intro hstarted
    obtain ⟨path, hpath⟩ := hpast.started hstarted
    exact ⟨path, hbefore hpath⟩
  · intro exitCode hwait
    rcases List.mem_append.mp hwait with hwait | hwait
    -- nobody has waited for a worker that still runs
    · exact absurd (hstep.running.symm.trans (hpast.ended exitCode hwait)) nofun
    · exact absurd (List.mem_singleton.mp hwait) nofun
  · intro code hexit
    rcases hstep.ended with hnone | ⟨exit, hcall, hexited⟩
    · exact absurd (hnone.symm.trans hexit) nofun
    · obtain rfl := Option.some.inj (Option.some.inj (hexited.symm.trans hexit))
      exact ⟨event, List.mem_append_right _ (List.mem_singleton.mpr rfl), hcall⟩
  · intro file hfile
    obtain ⟨request, hcreated⟩ := hpast.created file hfile
    exact ⟨request, hbefore hcreated⟩
  · intro request file hcreate
    rcases List.mem_append.mp hcreate with hcreate | hcreate
    · refine (hpast.kept request file hcreate).imp ?_ id
      exact fun ⟨other, path, hother, hcall⟩ ↦ ⟨other, path, hbefore hother, hcall⟩
    · exact absurd (List.mem_singleton.mp hcreate) nofun

theorem recorded_cancel {number : Nat} {event : CancelEvent}
    (h : shared.cancelStep event = some next) (hpast : Recorded past shared) :
    Recorded (past ++ [.cancel number event]) next := by
  have hstep := cancel_step h
  have hbefore : ∀ {other : ThreadEvent}, other ∈ past → other ∈ past ++ [.cancel number event] :=
    fun hother ↦ List.mem_append_left _ hother
  rw [hstep.others]
  refine ⟨?_, ?_, ?_, ?_, ?_, ?_, ?_⟩
  · exact hpast.registered.imp id fun ⟨other, hother, hcall⟩ ↦ ⟨other, hbefore hother, hcall⟩
  · intro descriptor hdescriptor
    obtain ⟨other, hother, hcall⟩ := hpast.described descriptor hdescriptor
    exact ⟨other, hbefore hother, hcall⟩
  · intro hstarted
    obtain ⟨path, hpath⟩ := hpast.started hstarted
    exact ⟨path, hbefore hpath⟩
  · intro exitCode hwait
    rcases List.mem_append.mp hwait with hwait | hwait
    · exact hpast.ended exitCode hwait
    · exact absurd (List.mem_singleton.mp hwait) nofun
  · intro code hexit
    obtain ⟨other, hother, hcall⟩ := hpast.exited code hexit
    exact ⟨other, hbefore hother, hcall⟩
  · intro file hfile
    rcases hstep.others_files file hfile with hfile | rfl
    · obtain ⟨request, hcreated⟩ := hpast.created file hfile
      exact ⟨request, hbefore hcreated⟩
    · exact ⟨number, List.mem_append_right _ (List.mem_singleton.mpr rfl)⟩
  · intro request file hcreate
    rcases List.mem_append.mp hcreate with hcreate | hcreate
    · refine (hpast.kept request file hcreate).imp ?_ (hstep.files file)
      exact fun ⟨other, path, hother, hcall⟩ ↦ ⟨other, path, hbefore hother, hcall⟩
    · obtain ⟨-, rfl⟩ := ThreadEvent.cancel.inj (List.mem_singleton.mp hcreate)
      exact .inr (hstep.created file rfl)

theorem recorded_step {event : ThreadEvent} (h : shared.step event = some next)
    (hpast : Recorded past shared) : Recorded (past ++ [event]) next := by
  cases event with
  | job event => exact recorded_job h hpast
  | worker event => exact recorded_worker h hpast
  | cancel number event => exact recorded_cancel h hpast

/-- The state that events lead to is the one they record. -/
theorem recorded_replay {events : List ThreadEvent} (h : shared.replay events = some next)
    (hpast : Recorded past shared) : Recorded (past ++ events) next := by
  induction events generalizing past shared with
  | nil =>
      obtain rfl := Option.some.inj h
      rw [List.append_nil]
      exact hpast
  | cons event events ih =>
      obtain ⟨middle, hmiddle, hrest⟩ := Shared.replay_cons.mp h
      have hall := ih hrest (recorded_step hmiddle hpast)
      rw [List.append_assoc] at hall
      exact hall

end Step

/-! ## What a request does -/

/-- The events of a request that found this cancel file. -/
def RequestEvents (trace : List CancelEvent) : Prop :=
  ∃ found tail, trace = ⟨.storeCancelRequested, ()⟩ :: ⟨.loadCancelFile, found⟩ :: tail ∧
    ∀ path created, ⟨.createFile path, created⟩ ∈ tail → path = found ∧ found ≠ ""

theorem cancel_current_output_events :
    Meets cancelCurrentOutput fun trace _ ↦ RequestEvents trace := by
  refine .call_bind fun _ ↦ .call_bind fun found ↦ .ite (fun hfound ↦ ?_) fun _ ↦ ?_
  · refine .call_bind fun created ↦ .pure ⟨found, _, rfl, ?_⟩
    intro path again hevent
    obtain rfl := CancelCall.createFile.inj (Event.mk.inj (List.mem_singleton.mp hevent)).1
    exact ⟨rfl, fun hnone ↦ absurd hfound (by simp [hnone])⟩
  · exact .pure ⟨found, [], rfl, fun _ _ hevent ↦ absurd hevent List.not_mem_nil⟩

theorem abort_print_events : Meets abortPrint fun trace _ ↦ RequestEvents trace := by
  refine .call_bind fun _ ↦ .call_bind fun found ↦ .ite (fun hfound ↦ ?_) fun _ ↦ ?_
  · refine .call fun created ↦ ⟨found, _, rfl, ?_⟩
    intro path again hevent
    obtain rfl := CancelCall.createFile.inj (Event.mk.inj (List.mem_singleton.mp hevent)).1
    exact ⟨rfl, fun hnone ↦ absurd hfound (by simp [hnone])⟩
  · refine .call fun aborted ↦ ⟨found, _, rfl, fun path created hevent ↦ ?_⟩
    exact absurd (Event.mk.inj (List.mem_singleton.mp hevent)).1 nofun

/-- A request creates the file it found registered, if it found one. -/
theorem request_creates {events before after : List CancelEvent} {path : String} {created : Bool}
    (h : IsRequest events) (hsplit : events = before ++ ⟨.createFile path, created⟩ :: after) :
    path ≠ "" ∧ ⟨.loadCancelFile, path⟩ ∈ before := by
  have hrequest : ∃ rest, RequestEvents (events ++ rest) := by
    obtain ⟨rest, hruns | ⟨aborted, hruns⟩⟩ := h
    · exact ⟨rest, cancel_current_output_events _ _ hruns⟩
    · exact ⟨rest, abort_print_events _ _ hruns⟩
  obtain ⟨rest, found, tail, hevents, htail⟩ := hrequest
  rw [hsplit, List.append_assoc] at hevents
  -- a request stores the flag and looks for a cancel file before it creates one
  match before, hevents with
  | [], hevents => exact absurd (Event.mk.inj (List.cons.inj hevents).1).1 nofun
  | [_], hevents => exact absurd (Event.mk.inj (List.cons.inj (List.cons.inj hevents).2).1).1 nofun
  | _ :: event :: others, hevents =>
      obtain ⟨-, hevents⟩ := List.cons.inj hevents
      obtain ⟨rfl, hothers⟩ := List.cons.inj hevents
      have hcreate : ⟨.createFile path, created⟩ ∈ tail :=
        hothers ▸ List.mem_append_right _ List.mem_cons_self
      obtain ⟨rfl, hsome⟩ := htail path created hcreate
      exact ⟨hsome, List.mem_cons_of_mem _ List.mem_cons_self⟩

/-! ## What a worker does -/

/-- A poll found a request. -/
def FoundIn (trace : List SubmitEvent) : Prop :=
  ∃ path, ⟨.sdk path .cancelRequested, true⟩ ∈ trace

theorem found_in_append {first second : List SubmitEvent} :
    FoundIn (first ++ second) ↔ FoundIn first ∨ FoundIn second := by
  constructor
  · intro ⟨path, hpath⟩
    exact (List.mem_append.mp hpath).imp (fun h ↦ ⟨path, h⟩) fun h ↦ ⟨path, h⟩
  · rintro (⟨path, hpath⟩ | ⟨path, hpath⟩)
    · exact ⟨path, List.mem_append_left _ hpath⟩
    · exact ⟨path, List.mem_append_right _ hpath⟩

/-- A call of the vendor library, which may poll, or one that ends the worker. -/
def SubmitCall.polls : SubmitCall → Bool
  | .sdk _ _ | .exitWorker _ => true
  | _ => false

/-- A part of a job or of a worker that polls with this cancel file only, ends like this when a poll
found a request, and does not end the process. -/
structure Polling {α : Type} (cancelPath : String) (stopped : α → Prop) (trace : List SubmitEvent)
    (result : α) : Prop where
  paths : ∀ event ∈ trace, ∀ path call, event.call = .sdk path call → path = cancelPath
  stays : ∀ event ∈ trace, ∀ code, event.call ≠ .exitWorker code
  stops : FoundIn trace → stopped result

namespace Polling

variable {α β : Type} {cancelPath : String} {stopped : α → Prop}

/-- A call outside the vendor library polls for nothing. -/
theorem call {call : SubmitCall} {stopped : call.Answer → Prop} (hpolls : call.polls = false) :
    Meets (Program.call call : SubmitProgram call.Answer) (Polling cancelPath stopped) := by
  have h : ∀ path other, call ≠ .sdk path other := by
    rintro _ _ rfl
    exact absurd hpolls.symm Bool.false_ne_true
  have hexit : ∀ code, call ≠ .exitWorker code := by
    rintro _ rfl
    exact absurd hpolls.symm Bool.false_ne_true
  refine .call fun answer ↦ ⟨?_, ?_, ?_⟩
  · intro event hevent path other hcall
    obtain rfl := List.mem_singleton.mp hevent
    exact absurd hcall (h path other)
  · intro event hevent
    obtain rfl := List.mem_singleton.mp hevent
    exact hexit
  · intro ⟨path, hfound⟩
    exact absurd (Event.mk.inj (List.mem_singleton.mp hfound)).1.symm (h path _)

theorem pure (value : α) :
    Meets (pure value : SubmitProgram α) (Polling cancelPath stopped) :=
  Meets.pure ⟨fun _ hevent ↦ (List.not_mem_nil hevent).elim,
    fun _ hevent ↦ (List.not_mem_nil hevent).elim,
    fun ⟨_, hfound⟩ ↦ (List.not_mem_nil hfound).elim⟩

theorem ite {c : Prop} [Decidable c] {p q : SubmitProgram α}
    (hp : c → Meets p (Polling cancelPath stopped))
    (hq : ¬ c → Meets q (Polling cancelPath stopped)) :
    Meets (if c then p else q) (Polling cancelPath stopped) :=
  Meets.ite hp hq

theorem bind {P : α → Prop} {stoppedBind : β → Prop} {p : SubmitProgram α} {f : α → SubmitProgram β}
    (hp : Meets p (Polling cancelPath P))
    (hf : ∀ value, Meets (f value) (Polling cancelPath stoppedBind))
    (hstop : ∀ value, P value → Meets (f value) fun _ result ↦ stoppedBind result) :
    Meets (p >>= f) (Polling cancelPath stoppedBind) := by
  intro trace result hruns
  obtain ⟨first, second, value, rfl, hfirst, hsecond⟩ := runs_bind.mp hruns
  have hbefore := hp first value hfirst
  have hafter := hf value second result hsecond
  refine ⟨fun event hevent ↦ ?_, fun event hevent ↦ ?_, fun hfound ↦ ?_⟩
  · exact (List.mem_append.mp hevent).elim (hbefore.paths event) (hafter.paths event)
  · exact (List.mem_append.mp hevent).elim (hbefore.stays event) (hafter.stays event)
  · rcases found_in_append.mp hfound with hfound | hfound
    · exact hstop value (hbefore.stops hfound) second result hsecond
    · exact hafter.stops hfound

/-- A sequence whose first part makes no poll. -/
theorem after {stoppedBind : β → Prop} {p : SubmitProgram α} {f : α → SubmitProgram β}
    (hp : Meets p (Polling cancelPath fun _ ↦ False))
    (hf : ∀ value, Meets (f value) (Polling cancelPath stoppedBind)) :
    Meets (p >>= f) (Polling cancelPath stoppedBind) :=
  bind hp hf fun _ hno ↦ hno.elim

/-- A program of a client polls with the cancel file of that client. -/
theorem on_sdk {p : SdkProgram α} (h : Stops stopped p) :
    Meets (onSdk cancelPath p) (Polling cancelPath stopped) := by
  refine Meets.within _ _ h fun trace result hstops ↦ ⟨?_, ?_, ?_⟩
  · intro event hevent path call hcall
    obtain ⟨inner, _, rfl⟩ := List.mem_map.mp hevent
    exact (SubmitCall.sdk.inj hcall).1.symm
  · intro event hevent code
    obtain ⟨inner, _, rfl⟩ := List.mem_map.mp hevent
    exact nofun
  · intro ⟨path, hfound⟩
    obtain ⟨inner, hinner, hevent⟩ := List.mem_map.mp hfound
    obtain ⟨call, answer⟩ := inner
    obtain ⟨hcall, hanswer⟩ := Event.mk.inj hevent
    obtain ⟨rfl, rfl⟩ := SubmitCall.sdk.inj hcall
    obtain rfl := eq_of_heq hanswer
    exact hstops hinner

end Polling

theorem print_spooled_job_polling (sdk : Sdk) (cancelPath : String) (client : Client)
    (spool : DirectPrintSpool) (settings : DirectPrintSettings) :
    Meets (printSpooledJob sdk cancelPath client spool settings)
      (Polling cancelPath fun result ↦ result.2 = some false) := by
  refine Polling.after (Polling.call rfl) fun opened ↦ ?_
  cases opened with
  | error message => exact Polling.pure _
  | ok opened => exact Polling.on_sdk (print_packed_job_stops sdk client _ settings _)

/-- A part of a worker that ends the process with its result, which is no success when a poll found
a request. -/
structure Exiting (cancelPath : String) (trace : List SubmitEvent) (result : Option Int32) : Prop where
  paths : ∀ event ∈ trace, ∀ path call, event.call = .sdk path call → path = cancelPath
  code : ∀ event ∈ trace, ∀ code, event.call = .exitWorker code → result = some code
  stops : FoundIn trace → result ≠ some 0

theorem exiting_exit (cancelPath : String) (code : Int32) :
    Meets (runSpoolWorker.exit code) (Exiting cancelPath) := by
  refine Meets.call_bind fun _ ↦ .pure ⟨?_, ?_, ?_⟩
  · intro event hevent path call hcall
    obtain rfl := List.mem_singleton.mp hevent
    exact absurd hcall nofun
  · intro event hevent again hcall
    obtain rfl := List.mem_singleton.mp hevent
    exact congrArg some (SubmitCall.exitWorker.inj hcall)
  · intro ⟨path, hfound⟩
    exact absurd (Event.mk.inj (List.mem_singleton.mp hfound)).1 nofun

theorem exiting_none (cancelPath : String) :
    Meets (pure none : SubmitProgram (Option Int32)) (Exiting cancelPath) :=
  Meets.pure ⟨fun _ hevent ↦ (List.not_mem_nil hevent).elim,
    fun _ hevent ↦ (List.not_mem_nil hevent).elim,
    fun ⟨_, hfound⟩ ↦ (List.not_mem_nil hfound).elim⟩

/-- A worker goes on to its end after a part that does not end it. -/
theorem exiting_bind {α : Type} {cancelPath : String} {P : α → Prop} {p : SubmitProgram α}
    {f : α → SubmitProgram (Option Int32)} (hp : Meets p (Polling cancelPath P))
    (hf : ∀ value, Meets (f value) (Exiting cancelPath))
    (hstop : ∀ value, P value → Meets (f value) fun _ result ↦ result ≠ some 0) :
    Meets (p >>= f) (Exiting cancelPath) := by
  intro trace result hruns
  obtain ⟨first, second, value, rfl, hfirst, hsecond⟩ := runs_bind.mp hruns
  have hbefore := hp first value hfirst
  have hafter := hf value second result hsecond
  refine ⟨fun event hevent ↦ ?_, fun event hevent code hcall ↦ ?_, fun hfound ↦ ?_⟩
  · exact (List.mem_append.mp hevent).elim (hbefore.paths event) (hafter.paths event)
  · rcases List.mem_append.mp hevent with hevent | hevent
    · exact absurd hcall (hbefore.stays event hevent code)
    · exact hafter.code event hevent code hcall
  · rcases found_in_append.mp hfound with hfound | hfound
    · exact hstop value (hbefore.stops hfound) second result hsecond
    · exact hafter.stops hfound

/-- The part of a worker after it has read its descriptor. -/
theorem worker_body_exits (sdk : Sdk) (descriptor : Descriptor) :
    Meets (if descriptor.spoolPath.isEmpty then runSpoolWorker.exit 2
      else do
        match ← (SubmitCall.readMetadata descriptor.spoolPath).ask with
        | .error _ => runSpoolWorker.exit 2
        | .ok spool =>
          match ← (SubmitCall.verifySpool spool).ask with
          | some _ => runSpoolWorker.exit 2
          | none =>
            let (client, found) ← onSdk descriptor.cancelPath (refreshPrinters sdk {})
            if !found then runSpoolWorker.exit 3
            else
              let (_, printed) ←
                printSpooledJob sdk descriptor.cancelPath client spool descriptor.settings
              match printed with
              | some true => runSpoolWorker.exit 0
              | some false => runSpoolWorker.exit 4
              | none => return none) (Exiting descriptor.cancelPath) := by
  have hfails : Meets (runSpoolWorker.exit 2) (Exiting descriptor.cancelPath) := exiting_exit _ 2
  refine Meets.ite (fun _ ↦ hfails) fun _ ↦ ?_
  refine exiting_bind (P := fun _ ↦ False) (Polling.call rfl) (fun read ↦ ?_) fun _ ↦ False.elim
  cases read with
  | error message => exact hfails
  | ok spool =>
      refine exiting_bind (P := fun _ ↦ False) (Polling.call rfl) ?_ fun _ ↦ False.elim
      intro failed
      cases failed with
      | some message => exact hfails
      | none =>
          refine exiting_bind (P := fun _ ↦ False) (Polling.on_sdk ?_) ?_ fun _ ↦ False.elim
          · exact (Unpolled.of_stays (refresh_printers_stays sdk {}) (by decide)).stops
          · intro found
            refine Meets.ite (fun _ ↦ exiting_exit _ 3) fun _ ↦ ?_
            refine exiting_bind (print_spooled_job_polling sdk _ found.1 spool _) ?_ ?_
            · rintro ⟨_, printed⟩
              cases printed with
              | none => exact exiting_none _
              | some ok =>
                  cases ok with
                  | true => exact exiting_exit _ 0
                  | false => exact exiting_exit _ 4
            · rintro ⟨_, _⟩ hprinted
              obtain rfl := hprinted
              exact Meets.call_bind fun _ ↦ .pure (by decide)

/-- A worker polls with the cancel file of its descriptor, and does not exit with success after a
poll that found a request. -/
theorem run_spool_worker_events (sdk : Sdk) (jobPath : String) :
    Meets (runSpoolWorker sdk jobPath) fun trace _ ↦
      ∃ descriptor rest, trace = ⟨.readDescriptor jobPath, descriptor⟩ :: rest ∧
        (∀ event ∈ rest, ∀ path call, event.call = .sdk path call →
          ∃ read, descriptor = some read ∧ path = read.cancelPath) ∧
        (FoundIn rest → ∀ event ∈ rest, event.call ≠ .exitWorker 0) := by
  refine .call_bind fun descriptor ↦ ?_
  cases descriptor with
  | none =>
      refine Meets.call_bind fun _ ↦ .pure ⟨none, _, rfl, ?_, ?_⟩
      · intro event hevent path call hcall
        obtain rfl := List.mem_singleton.mp hevent
        cases hcall
      · rintro ⟨path, hfound⟩
        cases (Event.mk.inj (List.mem_singleton.mp hfound)).1
  | some descriptor =>
      refine .mono (worker_body_exits sdk descriptor) fun trace result hexit ↦
        ⟨some descriptor, trace, rfl, ?_, ?_⟩
      · exact fun event hevent path call hcall ↦
          ⟨descriptor, rfl, hexit.paths event hevent path call hcall⟩
      · intro hfound event hevent hcall
        exact hexit.stops hfound (hexit.code event hevent 0 hcall)

/-! ## What a job does -/

/-- A job that prints in this process returns false when a poll found a request. -/
theorem submit_spooled_job_stops (progress : Bool) (sdk : Sdk) (session : SdkSession)
    (spool : DirectPrintSpool) (settings : DirectPrintSettings) :
    Meets (submitSpooledJob false progress sdk session spool settings)
      (Polling "" fun result ↦ result.2 = some false) := by
  have hprint : Meets (submitSpooledJob.print false sdk session spool settings)
      (Polling "" fun result ↦ result.2 = some false) := by
    refine Meets.ite (fun hyes ↦ absurd hyes Bool.false_ne_true) fun _ ↦ ?_
    refine Polling.bind (print_spooled_job_polling sdk "" session.client spool settings) ?_ ?_
    · exact fun _ ↦ Polling.pure _
    · exact fun _ hstopped ↦ .pure hstopped
  have hend : Meets (do
      let printed ← submitSpooledJob.print false sdk session spool settings
      if printed.2 = some true && progress then
        (SubmitCall.reportProgress (totalLines spool) (totalLines spool)).ask
      return (printed.1, printed.2)) (Polling "" fun result ↦ result.2 = some false) := by
    refine Polling.bind hprint ?_ ?_
    · rintro ⟨session, printed⟩
      refine Polling.ite (fun _ ↦ ?_) fun _ ↦ Polling.pure _
      exact Polling.after (Polling.call rfl) fun _ ↦ Polling.pure _
    · rintro ⟨session, printed⟩ hstopped
      obtain rfl := hstopped
      exact .pure rfl
  refine Polling.after (Polling.call rfl) fun _ ↦ ?_
  refine Polling.after (Polling.call rfl) fun failed ↦ ?_
  cases failed with
  | some message => exact Polling.pure _
  | none =>
      refine Polling.ite (fun _ ↦ ?_) fun _ ↦ hend
      exact Polling.after (Polling.call rfl) fun _ ↦ hend

/-- A call that concerns neither the vendor library, nor the cancel file, the descriptor or the
worker. -/
def SubmitCall.calm : SubmitCall → Bool
  | .sdk _ _ | .registerCancelFile _ | .removeFile _ | .writeDescriptor _ | .startWorker _
  | .waitForWorker => false
  | _ => true

/-- What a job does while its cancel file is registered: it describes that file to the worker, waits
for a worker it starts, and is printed when that worker exits with success. -/
structure WorkerCalls (cancelPath : String) (trace : List SubmitEvent) (printed : Bool) : Prop where
  calls : ∀ event ∈ trace, event.call.calm = true ∨
    (∃ descriptor, event.call = .writeDescriptor descriptor ∧ descriptor.cancelPath = cancelPath) ∨
    (∃ path, event.call = .startWorker path) ∨ event.call = .waitForWorker
  waits : ∀ path, ⟨.startWorker path, none⟩ ∈ trace → ∃ exitCode, ⟨.waitForWorker, exitCode⟩ ∈ trace
  printed : printed = true → ⟨.waitForWorker, some 0⟩ ∈ trace

namespace WorkerCalls

variable {cancelPath : String} {trace : List SubmitEvent} {printed : Bool}

theorem nil : WorkerCalls cancelPath [] false where
  calls _ hevent := (List.not_mem_nil hevent).elim
  waits _ hstart := (List.not_mem_nil hstart).elim
  printed hyes := absurd hyes Bool.false_ne_true

theorem cons {event : SubmitEvent} (h : WorkerCalls cancelPath trace printed)
    (hevent : event.call.calm = true ∨
      (∃ descriptor, event.call = .writeDescriptor descriptor ∧ descriptor.cancelPath = cancelPath) ∨
      (∃ path, event.call = .startWorker path) ∨ event.call = .waitForWorker)
    (hwaits : ∀ path, event = ⟨.startWorker path, none⟩ →
      ∃ exitCode, ⟨.waitForWorker, exitCode⟩ ∈ trace) :
    WorkerCalls cancelPath (event :: trace) printed where
  calls other hother := by
    rcases List.mem_cons.mp hother with rfl | hother
    · exact hevent
    · exact h.calls other hother
  waits path hstart := by
    have hwait : ∃ exitCode, ⟨.waitForWorker, exitCode⟩ ∈ trace := by
      rcases List.mem_cons.mp hstart with hstart | hstart
      · exact hwaits path hstart.symm
      · exact h.waits path hstart
    exact hwait.imp fun _ hmem ↦ List.mem_cons_of_mem _ hmem
  printed hyes := List.mem_cons_of_mem _ (h.printed hyes)

theorem calm {call : SubmitCall} {answer : call.Answer} (h : WorkerCalls cancelPath trace printed)
    (hcalm : call.calm = true) : WorkerCalls cancelPath (⟨call, answer⟩ :: trace) printed := by
  refine h.cons (.inl hcalm) fun path hstart ↦ ?_
  obtain rfl := (Event.mk.inj hstart).1
  exact absurd hcalm Bool.false_ne_true

theorem calm_append {first : List SubmitEvent} (h : WorkerCalls cancelPath trace printed)
    (hcalm : ∀ event ∈ first, event.call.calm = true) :
    WorkerCalls cancelPath (first ++ trace) printed := by
  induction first with
  | nil => exact h
  | cons event first ih =>
      obtain ⟨call, answer⟩ := event
      refine (ih fun other hother ↦ hcalm other (List.mem_cons_of_mem _ hother)).calm ?_
      exact hcalm _ List.mem_cons_self

end WorkerCalls

/-- The events that concern the library are calm. -/
theorem on_library_calm {α : Type} (p : LibraryProgram α) :
    Meets (onLibrary p) fun trace _ ↦ ∀ event ∈ trace, event.call.calm = true := by
  have hany : Meets p fun _ _ ↦ True := fun _ _ _ ↦ trivial
  refine Meets.within _ _ hany fun trace _ _ event hevent ↦ ?_
  obtain ⟨inner, _, rfl⟩ := List.mem_map.mp hevent
  rfl

theorem print_in_worker_calls (arm : Bool) (session : SdkSession) (descriptorPath : String)
    (descriptor : Descriptor) :
    Meets (printInWorker arm session descriptorPath descriptor) fun trace result ↦
      WorkerCalls descriptor.cancelPath trace result.2 := by
  refine Meets.call_bind fun opened ↦ ?_
  cases opened with
  | some message => exact .pure (WorkerCalls.nil.calm rfl)
  | none =>
      refine Meets.call_bind fun written ↦ ?_
      have hwrite : ∀ {trace printed}, WorkerCalls descriptor.cancelPath trace printed →
          WorkerCalls descriptor.cancelPath (⟨.openDescriptor descriptorPath, none⟩ ::
            ⟨.writeDescriptor descriptor, written⟩ :: trace) printed := by
        intro trace printed hrest
        refine (hrest.cons (.inr (.inl ⟨descriptor, rfl, rfl⟩)) ?_).calm rfl
        exact fun path hstart ↦ absurd (Event.mk.inj hstart).1 nofun
      refine .ite (fun _ ↦ .pure (hwrite .nil)) fun _ ↦ .bind (on_library_calm _) ?_
      intro unloading ⟨session, unloaded⟩ hcalm
      refine .ite (fun _ ↦ .pure (hwrite (WorkerCalls.nil.calm_append hcalm))) fun _ ↦ ?_
      refine Meets.call_bind fun started ↦ ?_
      cases started with
      | some message =>
          refine .pure (hwrite (.calm_append ?_ hcalm))
          refine WorkerCalls.nil.cons (.inr (.inr (.inl ⟨_, rfl⟩))) fun path hstart ↦ ?_
          obtain ⟨hcall, hanswer⟩ := Event.mk.inj hstart
          obtain rfl := SubmitCall.startWorker.inj hcall
          exact absurd (eq_of_heq hanswer) nofun
      | none =>
          refine Meets.call_bind fun exitCode ↦ ?_
          have hstart : ∀ {trace printed},
              WorkerCalls descriptor.cancelPath (⟨.waitForWorker, exitCode⟩ :: trace) printed →
              WorkerCalls descriptor.cancelPath (⟨.openDescriptor descriptorPath, none⟩ ::
                ⟨.writeDescriptor descriptor, written⟩ :: (unloading ++
                  ⟨.startWorker descriptorPath, none⟩ :: ⟨.waitForWorker, exitCode⟩ :: trace))
                printed := by
            intro trace printed hrest
            refine hwrite (.calm_append ?_ hcalm)
            refine hrest.cons (.inr (.inr (.inl ⟨_, rfl⟩))) fun _ _ ↦ ⟨exitCode, ?_⟩
            exact List.mem_cons_self
          have hwait : WorkerCalls descriptor.cancelPath [⟨.waitForWorker, exitCode⟩] false :=
            WorkerCalls.nil.cons (.inr (.inr (.inr rfl))) fun path hstart ↦
              absurd (Event.mk.inj hstart).1 nofun
          refine .ite (fun hzero ↦ .pure (hstart ⟨hwait.calls, hwait.waits, fun _ ↦ ?_⟩)) fun _ ↦ ?_
          · exact List.mem_singleton.mpr (by rw [hzero])
          · have hfailed : ∀ canceled, WorkerCalls descriptor.cancelPath
                [⟨.waitForWorker, exitCode⟩, ⟨.loadCancelRequested, canceled⟩] false :=
              fun canceled ↦ (WorkerCalls.nil.calm rfl).cons (.inr (.inr (.inr rfl)))
                fun path hstart ↦ absurd (Event.mk.inj hstart).1 nofun
            refine Meets.call_bind fun canceled ↦ .ite (fun _ ↦ .pure (hstart (hfailed _))) fun _ ↦ ?_
            cases exitCode with
            | none => exact .pure (hstart (hfailed _))
            | some code => exact .pure (hstart (hfailed _))

/-- What submitting a job to a worker does: it registers one cancel file, has the worker print, and
then removes the file. -/
def IsolatedCalls (trace : List SubmitEvent) (result : Option Bool) : Prop :=
  ∃ cancelPath before inner after printed, trace = before ++ inner ++ after ∧
    result = some printed ∧
    (∀ event ∈ before, event.call.calm = true ∨ event.call = .registerCancelFile cancelPath) ∧
    WorkerCalls cancelPath inner printed ∧
    ∀ event ∈ after, event.call.calm = true ∨ ∃ path, event.call = .removeFile path

namespace IsolatedCalls

variable {trace : List SubmitEvent} {result : Option Bool}

theorem nil : IsolatedCalls [] (some false) :=
  ⟨"", [], [], [], false, rfl, rfl, fun _ hevent ↦ (List.not_mem_nil hevent).elim, .nil,
    fun _ hevent ↦ (List.not_mem_nil hevent).elim⟩

theorem calm {call : SubmitCall} {answer : call.Answer} (h : IsolatedCalls trace result)
    (hcalm : call.calm = true) : IsolatedCalls (⟨call, answer⟩ :: trace) result := by
  obtain ⟨cancelPath, before, inner, after, printed, rfl, hresult, hbefore, hinner, hafter⟩ := h
  refine ⟨cancelPath, ⟨call, answer⟩ :: before, inner, after, printed, rfl, hresult, ?_, hinner, hafter⟩
  intro event hevent
  rcases List.mem_cons.mp hevent with rfl | hevent
  · exact .inl hcalm
  · exact hbefore event hevent

theorem calm_last {call : SubmitCall} {answer : call.Answer} (h : IsolatedCalls trace result)
    (hcalm : call.calm = true) : IsolatedCalls (trace ++ [⟨call, answer⟩]) result := by
  obtain ⟨cancelPath, before, inner, after, printed, rfl, hresult, hbefore, hinner, hafter⟩ := h
  refine ⟨cancelPath, before, inner, after ++ [⟨call, answer⟩], printed,
    List.append_assoc _ _ _, hresult, hbefore, hinner, ?_⟩
  intro event hevent
  rcases List.mem_append.mp hevent with hevent | hevent
  · exact hafter event hevent
  · obtain rfl := List.mem_singleton.mp hevent
    exact .inl hcalm

end IsolatedCalls

theorem submit_spooled_job_isolated_calls (arm : Bool) (session : SdkSession)
    (spool : DirectPrintSpool) (settings : DirectPrintSettings) :
    Meets (submitSpooledJobIsolated arm session spool settings) fun trace result ↦
      IsolatedCalls trace (some result.2) := by
  refine Meets.call_bind fun sdkRoot ↦ .ite (fun _ ↦ .pure (IsolatedCalls.nil.calm rfl)) fun _ ↦ ?_
  refine Meets.call_bind fun temporaryDir ↦ ?_
  cases temporaryDir with
  | none => exact .pure ((IsolatedCalls.nil.calm rfl).calm rfl)
  | some temporaryDir =>
      refine Meets.call_bind fun _ ↦ .bind (print_in_worker_calls arm session _ _) ?_
      intro inner ⟨session, printed⟩ hinner
      refine Meets.call_bind fun removed ↦ .call_bind fun _ ↦ .pure ?_
      refine ⟨temporaryDir ++ "/cancel.request", [⟨.resolveSdkRoot, sdkRoot⟩,
        ⟨.createTemporaryDir, some temporaryDir⟩, ⟨.registerCancelFile _, ()⟩], inner,
        [⟨.removeFile _, removed⟩, ⟨.clearCancelFile, ()⟩], printed, rfl, rfl, ?_, hinner, ?_⟩
      · intro event hevent
        simp only [List.mem_cons, List.not_mem_nil, or_false] at hevent
        rcases hevent with rfl | rfl | rfl
        · exact .inl rfl
        · exact .inl rfl
        · exact .inr rfl
      · intro event hevent
        simp only [List.mem_cons, List.not_mem_nil, or_false] at hevent
        rcases hevent with rfl | rfl
        · exact .inr ⟨_, rfl⟩
        · exact .inl rfl

theorem submit_isolated_calls (progress : Bool) (sdk : Sdk) (session : SdkSession)
    (spool : DirectPrintSpool) (settings : DirectPrintSettings) :
    Meets (submitSpooledJob true progress sdk session spool settings) fun trace result ↦
      IsolatedCalls trace result.2 := by
  have hprint : Meets (submitSpooledJob.print true sdk session spool settings) fun trace result ↦
      IsolatedCalls trace result.2 := by
    refine Meets.ite (fun _ ↦ ?_) fun hnot ↦ absurd rfl hnot
    refine .bind (submit_spooled_job_isolated_calls sdk.arm session spool settings) ?_
    rintro before ⟨session, printed⟩ hcalls
    refine .pure ?_
    rw [List.append_nil]
    exact hcalls
  have hend : Meets (do
      let printed ← submitSpooledJob.print true sdk session spool settings
      if printed.2 = some true && progress then
        (SubmitCall.reportProgress (totalLines spool) (totalLines spool)).ask
      return (printed.1, printed.2)) fun trace result ↦ IsolatedCalls trace result.2 := by
    refine .bind hprint ?_
    rintro before ⟨session, printed⟩ hcalls
    refine .ite (fun _ ↦ .call_bind fun _ ↦ .pure (hcalls.calm_last rfl)) fun _ ↦ .pure ?_
    rw [List.append_nil]
    exact hcalls
  refine Meets.call_bind fun _ ↦ .call_bind fun failed ↦ ?_
  cases failed with
  | some message => exact .pure ((IsolatedCalls.nil.calm rfl).calm rfl)
  | none =>
      refine .ite (fun _ ↦ .call_bind fun _ ↦ ?_) fun _ ↦ ?_
      · exact .mono hend fun _ _ hcalls ↦ ((hcalls.calm rfl).calm rfl).calm rfl
      · exact .mono hend fun _ _ hcalls ↦ (hcalls.calm rfl).calm rfl

/-- The calls of a job that submits to a worker, as far as its cancel file is concerned. -/
structure IsolatedJob (cancelPath : String) (trace : List SubmitEvent) (result : Option Bool) : Prop
    where
  unpolled : ∀ event ∈ trace, ∀ path call, event.call ≠ .sdk path call
  registered : ∀ event ∈ trace, ∀ path, event.call = .registerCancelFile path → path = cancelPath
  described : ∀ event ∈ trace, ∀ descriptor, event.call = .writeDescriptor descriptor →
    descriptor.cancelPath = cancelPath
  waits : ∀ past future, trace = past ++ future →
    (∃ event path, event ∈ past ∧ event.call = .removeFile path) →
    (∃ path, ⟨.startWorker path, none⟩ ∈ past) → ∃ exitCode, ⟨.waitForWorker, exitCode⟩ ∈ past
  printed : result = some true → ⟨.waitForWorker, some 0⟩ ∈ trace
  returns : ∃ printed, result = some printed

theorem isolated_calls_job {trace : List SubmitEvent} {result : Option Bool}
    (h : IsolatedCalls trace result) : ∃ cancelPath, IsolatedJob cancelPath trace result := by
  obtain ⟨cancelPath, before, inner, after, printed, rfl, rfl, hbefore, hinner, hafter⟩ := h
  have hcalls : ∀ event ∈ before ++ inner ++ after, event.call.calm = true ∨
      event.call = .registerCancelFile cancelPath ∨
      (∃ descriptor, event.call = .writeDescriptor descriptor ∧ descriptor.cancelPath = cancelPath) ∨
      (∃ path, event.call = .startWorker path) ∨ event.call = .waitForWorker ∨
      ∃ path, event.call = .removeFile path := by
    intro event hevent
    rcases List.mem_append.mp hevent with hevent | hevent
    · rcases List.mem_append.mp hevent with hevent | hevent
      · exact (hbefore event hevent).imp id .inl
      · rcases hinner.calls event hevent with hcall | hcall | hcall | hcall
        · exact .inl hcall
        · exact .inr (.inr (.inl hcall))
        · exact .inr (.inr (.inr (.inl hcall)))
        · exact .inr (.inr (.inr (.inr (.inl hcall))))
    · exact (hafter event hevent).imp id fun hcall ↦ .inr (.inr (.inr (.inr hcall)))
  have honly : ∀ event ∈ before ++ inner ++ after, ∀ call, event.call = call → call.calm = false →
      call = .registerCancelFile cancelPath ∨
      (∃ descriptor, call = .writeDescriptor descriptor ∧ descriptor.cancelPath = cancelPath) ∨
      (∃ path, call = .startWorker path) ∨ call = .waitForWorker ∨ ∃ path, call = .removeFile path := by
    intro event hevent call hcall hnot
    subst hcall
    exact (hcalls event hevent).resolve_left fun hcalm ↦ Bool.noConfusion (hcalm.symm.trans hnot)
  refine ⟨cancelPath, ?_, ?_, ?_, ?_, ?_, printed, rfl⟩
  · intro event hevent path call hcall
    rcases honly event hevent _ hcall rfl with h | ⟨_, h, _⟩ | ⟨_, h⟩ | h | ⟨_, h⟩
    all_goals exact absurd h nofun
  · intro event hevent path hcall
    rcases honly event hevent _ hcall rfl with h | ⟨_, h, _⟩ | ⟨_, h⟩ | h | ⟨_, h⟩
    · exact SubmitCall.registerCancelFile.inj h
    all_goals exact absurd h nofun
  · intro event hevent descriptor hcall
    rcases honly event hevent _ hcall rfl with h | ⟨other, h, hpath⟩ | ⟨_, h⟩ | h | ⟨_, h⟩
    · exact absurd h nofun
    · exact SubmitCall.writeDescriptor.inj h ▸ hpath
    all_goals exact absurd h nofun
  · intro past future hsplit ⟨event, path, hevent, hremove⟩ ⟨descriptorPath, hstart⟩
    rcases List.append_eq_append_iff.mp hsplit with ⟨rest, rfl, hlate⟩ | ⟨rest, hearly, -⟩
    · rcases List.mem_append.mp hstart with hstart | hstart
      · rcases List.mem_append.mp hstart with hstart | hstart
        · exact absurd (hbefore _ hstart) (by simp [SubmitCall.calm])
        · obtain ⟨exitCode, hwait⟩ := hinner.waits descriptorPath hstart
          exact ⟨exitCode, List.mem_append_left _ (List.mem_append_right _ hwait)⟩
      · have hmem := hlate ▸ List.mem_append_left future hstart
        exact absurd (hafter _ hmem) (by simp [SubmitCall.calm])
    -- the file is removed after the worker
    · have hmem : event ∈ before ++ inner := hearly ▸ List.mem_append_left _ hevent
      rcases List.mem_append.mp hmem with hmem | hmem
      · exact absurd (hbefore event hmem) (by simp [hremove, SubmitCall.calm])
      · exact absurd (hinner.calls event hmem) (by simp [hremove, SubmitCall.calm])
  · intro hyes
    have hmem := hinner.printed (Option.some.inj hyes)
    exact List.mem_append_left _ (List.mem_append_right _ hmem)

/-! ## Spooled jobs -/

/-- What a poll of the job or of its worker was answered. -/
def ThreadEvent.poll : ThreadEvent → Option Bool
  | .job ⟨.sdk _ .cancelRequested, found⟩ => some found
  | .worker ⟨.sdk _ .cancelRequested, found⟩ => some found
  | _ => none

/-- The events of a spooled job from its submission to its return, those of its worker, which may
end at any point, and those of the requests made meanwhile. -/
structure SpooledRun (isolated : Bool) (events : List ThreadEvent) (result : Option Bool) : Prop where
  replays : ∃ pending final, Shared.replay { cancelRequested := pending } events = some final
  job : ∃ progress sdk session spool settings after,
    Runs (submitSpooledJob isolated progress sdk session spool settings) (jobEvents events)
      (after, result)
  worker : ∃ sdk jobPath rest code,
    Runs (runSpoolWorker sdk jobPath) (workerEvents events ++ rest) code
  requests : ∀ request, IsRequest (cancelEvents request events)

/-- A request is made after the job has cleared the pending one and before the last poll. -/
def RequestedInTime (events : List ThreadEvent) : Prop :=
  ∃ before request after, events = before ++ .cancel request ⟨.storeCancelRequested, ()⟩ :: after ∧
    .job ⟨.resetCancelRequested, ()⟩ ∈ before ∧ ∃ event ∈ after, event.poll.isSome = true

/-- The print takes the cancel exit, and the job returns false. -/
def Canceled (events : List ThreadEvent) (result : Option Bool) : Prop :=
  (∃ event ∈ events, event.poll = some true) ∧ result = some false

/-- A request finds a cancel file registered, and creates it before the last poll. -/
def MarkedInTime (events : List ThreadEvent) : Prop :=
  ∃ before request path between after, events =
      before ++ .cancel request ⟨.loadCancelFile, path⟩ :: between ++
        .cancel request ⟨.createFile path, true⟩ :: after ∧
    path ≠ "" ∧ ∃ event ∈ after, event.poll.isSome = true

/-- The events of the worker keep their places among those of all threads. -/
theorem mem_worker_events {events : List ThreadEvent} {event : SubmitEvent} :
    event ∈ workerEvents events ↔ .worker event ∈ events := by
  unfold workerEvents
  rw [List.mem_filterMap]
  constructor
  · intro ⟨other, hother, hevent⟩
    cases other with
    | worker other => exact Option.some.inj hevent ▸ hother
    | job other => exact absurd hevent (Option.some_ne_none event).symm
    | cancel request other => exact absurd hevent (Option.some_ne_none event).symm
  · exact fun hevent ↦ ⟨_, hevent, rfl⟩

/-- The events of a request before one of them. -/
theorem cancel_events_split (request : Nat) (before after : List ThreadEvent)
    (event : CancelEvent) :
    cancelEvents request (before ++ .cancel request event :: after) =
      cancelEvents request before ++ event :: cancelEvents request after := by
  unfold cancelEvents
  rw [List.filterMap_append]
  exact congrArg _ (List.filterMap_cons_some (if_pos rfl))

theorem mem_cancel_events {request : Nat} {events : List ThreadEvent} {event : CancelEvent}
    (h : event ∈ cancelEvents request events) : .cancel request event ∈ events := by
  obtain ⟨other, hother, hevent⟩ := List.mem_filterMap.mp h
  cases other with
  | cancel number other =>
      have hevent : (if number = request then some other else none) = some event := hevent
      split at hevent
      · next hnumber => exact hnumber ▸ Option.some.inj hevent ▸ hother
      · exact absurd hevent (Option.some_ne_none event).symm
  | job other => exact absurd hevent (Option.some_ne_none event).symm
  | worker other => exact absurd hevent (Option.some_ne_none event).symm

namespace SpooledRun

variable {isolated : Bool} {events before after : List ThreadEvent} {result : Option Bool}

/-- The state in which an event of the run happens. -/
theorem state_at {event : ThreadEvent} (h : SpooledRun isolated events result)
    (hsplit : events = before ++ event :: after) :
    ∃ pending found next, Recorded before found ∧ found.step event = some next ∧
      found.cancelRequested = pendingFrom pending before ∧ Recorded (before ++ [event]) next := by
  obtain ⟨pending, final, hreplay⟩ := h.replays
  rw [hsplit] at hreplay
  obtain ⟨found, next, hfound, hnext, -⟩ := Shared.replay_at hreplay
  have hpast : Recorded before found := recorded_replay hfound (recorded_start pending)
  exact ⟨pending, found, next, hpast, hnext, replay_pending hfound, recorded_step hnext hpast⟩

/-- A worker runs when the job has started it. -/
theorem worker_started {event : SubmitEvent} (h : SpooledRun isolated events result)
    (hsplit : events = before ++ .worker event :: after) :
    ∃ path, .job ⟨.startWorker path, none⟩ ∈ before := by
  obtain ⟨_, found, next, hpast, hstep, -⟩ := h.state_at hsplit
  exact hpast.started (worker_step hstep).started

end SpooledRun

section InProcess

variable {events : List ThreadEvent} {result : Option Bool}

/-- A job that prints in this process has no worker. -/
theorem in_process_no_worker (h : SpooledRun false events result) (event : SubmitEvent) :
    .worker event ∉ events := by
  intro hevent
  obtain ⟨before, after, hsplit⟩ := List.append_of_mem hevent
  obtain ⟨path, hstart⟩ := h.worker_started hsplit
  obtain ⟨progress, sdk, session, spool, settings, returned, hruns⟩ := h.job
  obtain ⟨rest, hevents, hplain⟩ :=
    submit_spooled_job_events progress sdk session spool settings _ _ hruns
  have hmem : ⟨.startWorker path, none⟩ ∈ jobEvents events :=
    mem_job_events.mpr (hsplit ▸ List.mem_append_left _ hstart)
  rw [hevents] at hmem
  rcases List.mem_cons.mp hmem with hreset | hmem
  · exact absurd (Event.mk.inj hreset).1 nofun
  · exact absurd rfl ((hplain _ hmem).2.1 path)

/-- A spooled job clears the pending request once. -/
theorem in_process_reset_once {progress : Bool} {sdk : Sdk} {session : SdkSession}
    {spool : DirectPrintSpool} {settings : DirectPrintSettings}
    {before between rest : List ThreadEvent}
    {event : ThreadEvent} {returned : SdkSession × Option Bool}
    (hruns : Runs (submitSpooledJob false progress sdk session spool settings) (jobEvents events)
      returned)
    (hsplit : events = before ++ event :: (between ++ rest))
    (hreset : .job ⟨.resetCancelRequested, ()⟩ ∈ before) (answer : Unit) :
    .job ⟨.resetCancelRequested, answer⟩ ∉ between := by
  intro hagain
  obtain ⟨plain, hevents, hplain⟩ :=
    submit_spooled_job_events progress sdk session spool settings _ _ hruns
  have hmem : ⟨.resetCancelRequested, answer⟩ ∈ jobEvents (event :: (between ++ rest)) :=
    mem_job_events.mpr (List.mem_cons_of_mem _ (List.mem_append_left _ hagain))
  have hsplit : jobEvents before ++ jobEvents (event :: (between ++ rest)) =
      ⟨.resetCancelRequested, ()⟩ :: plain := by
    rw [← hevents, hsplit]
    exact List.filterMap_append.symm
  cases hbefore : jobEvents before with
  | nil => exact absurd (hbefore ▸ mem_job_events.mpr hreset) List.not_mem_nil
  | cons first others =>
      rw [hbefore, List.cons_append] at hsplit
      have hlater := (List.cons.inj hsplit).2 ▸ List.mem_append_right others hmem
      exact absurd rfl (hplain _ hlater).1

/-- A request finds a job that prints in this process. -/
theorem in_process_canceled (h : SpooledRun false events result)
    (hrequest : RequestedInTime events) :
    Canceled events result := by
  obtain ⟨before, request, after, hsplit, hreset, event, hevent, hpoll⟩ := hrequest
  obtain ⟨between, rest, rfl⟩ := List.append_of_mem hevent
  obtain ⟨progress, sdk, session, spool, settings, returned, hruns⟩ := h.job
  have hjob : ∃ path found, event = .job ⟨.sdk path .cancelRequested, found⟩ := by
    unfold ThreadEvent.poll at hpoll
    split at hpoll
    · exact ⟨_, _, rfl⟩
    · have hmem := List.mem_append_right before (List.mem_cons_of_mem
        (ThreadEvent.cancel request ⟨.storeCancelRequested, ()⟩) hevent)
      exact absurd (hsplit ▸ hmem) (in_process_no_worker h _)
    · exact absurd hpoll Bool.false_ne_true
  obtain ⟨path, found, rfl⟩ := hjob
  have hpolled : ⟨.sdk path .cancelRequested, found⟩ ∈ jobEvents events := by
    refine mem_job_events.mpr (hsplit ▸ List.mem_append_right _ ?_)
    exact List.mem_cons_of_mem _ (List.mem_append_right _ List.mem_cons_self)
  have hstops := submit_spooled_job_stops progress sdk session spool settings _ _ hruns
  have hpath : path = "" := hstops.paths _ hpolled path _ rfl
  have hkeeps : ∀ event ∈ between, event.resets = false := by
    intro event hevent
    unfold ThreadEvent.resets
    split
    · next answer =>
        exact absurd hevent (in_process_reset_once hruns hsplit hreset _)
    · rfl
  have hat : events = (before ++ .cancel request ⟨.storeCancelRequested, ()⟩ :: between) ++
      .job ⟨.sdk path .cancelRequested, found⟩ :: rest := by
    rw [hsplit, List.append_assoc, List.cons_append]
  obtain ⟨pending, state, next, -, hstep, hpending, -⟩ := h.state_at hat
  have hstep : state.jobStep ⟨.sdk path .cancelRequested, found⟩ = some next := hstep
  have hfound : found = true := by
    rw [(job_step hstep).polled path found rfl, Shared.canceled, hpending, pendingFrom,
      List.foldl_append, List.foldl_cons]
    exact congrArg (· || _) (pending_from_pending hkeeps)
  subst hfound
  exact ⟨⟨_, hsplit ▸ List.mem_append_right _ (List.mem_cons_of_mem _ hevent), rfl⟩,
    hstops.stops ⟨path, hpolled⟩⟩

end InProcess

section InWorker

variable {events before after : List ThreadEvent} {result : Option Bool} {cancelPath : String}

theorem isolated_job (h : SpooledRun true events result) :
    ∃ cancelPath, IsolatedJob cancelPath (jobEvents events) result := by
  obtain ⟨progress, sdk, session, spool, settings, returned, hruns⟩ := h.job
  exact isolated_calls_job (submit_isolated_calls progress sdk session spool settings _ _ hruns)

/-- A worker polls with the cancel file its job registers. -/
theorem worker_poll_path (h : SpooledRun true events result)
    (hjob : IsolatedJob cancelPath (jobEvents events) result) {path : String} {call : SdkCall}
    {answer : call.Answer} (hevent : .worker ⟨.sdk path call, answer⟩ ∈ events) :
    path = cancelPath := by
  obtain ⟨sdk, jobPath, rest, code, hruns⟩ := h.worker
  obtain ⟨descriptor, tail, htrace, hpaths, -⟩ := run_spool_worker_events sdk jobPath _ _ hruns
  have hmem := mem_worker_events.mpr hevent
  cases hworker : workerEvents events with
  | nil => exact absurd (hworker ▸ hmem) List.not_mem_nil
  | cons first others =>
      rw [hworker, List.cons_append] at htrace
      obtain ⟨rfl, htail⟩ := List.cons.inj htrace
      have hlater : ⟨.sdk path call, answer⟩ ∈ others := by
        rcases List.mem_cons.mp (hworker ▸ hmem) with hfirst | hlater
        · exact absurd (Event.mk.inj hfirst).1 nofun
        · exact hlater
      obtain ⟨read, rfl, rfl⟩ := hpaths _ (htail ▸ List.mem_append_left rest hlater) path call rfl
      -- the descriptor it reads is the one the job wrote
      have hread : .worker ⟨.readDescriptor jobPath, some read⟩ ∈ events :=
        mem_worker_events.mp (hworker ▸ List.mem_cons_self)
      obtain ⟨before, after, hsplit⟩ := List.append_of_mem hread
      obtain ⟨_, found, next, hpast, hstep, -⟩ := h.state_at hsplit
      have hworker : WorkerStep found ⟨.readDescriptor jobPath, some read⟩ next := worker_step hstep
      obtain ⟨event, hmem, hwrite⟩ := hpast.described read (hworker.read jobPath read rfl)
      have hwritten : event ∈ jobEvents events :=
        mem_job_events.mpr (hsplit ▸ List.mem_append_left _ hmem)
      exact hjob.described event hwritten read hwrite

/-- The polls of an isolated job are those of its worker. -/
theorem isolated_poll (h : SpooledRun true events result)
    (hjob : IsolatedJob cancelPath (jobEvents events) result) {event : ThreadEvent}
    (hevent : event ∈ events) (hpoll : event.poll.isSome = true) :
    ∃ found, event = .worker ⟨.sdk cancelPath .cancelRequested, found⟩ := by
  unfold ThreadEvent.poll at hpoll
  split at hpoll
  · exact absurd rfl (hjob.unpolled _ (mem_job_events.mpr hevent) _ _)
  · next path found => exact ⟨found, worker_poll_path h hjob hevent ▸ rfl⟩
  · exact absurd hpoll Bool.false_ne_true

/-- A poll of the worker finds the cancel file when a request has created it. -/
theorem worker_poll_iff (h : SpooledRun true events result)
    (hjob : IsolatedJob cancelPath (jobEvents events) result) {found : Bool}
    (hsplit : events = before ++ .worker ⟨.sdk cancelPath .cancelRequested, found⟩ :: after) :
    found = true ↔ ∃ request, .cancel request ⟨.createFile cancelPath, true⟩ ∈ before := by
  obtain ⟨_, state, next, hpast, hstep, -⟩ := h.state_at hsplit
  have hworker : WorkerStep state ⟨.sdk cancelPath .cancelRequested, found⟩ next :=
    worker_step hstep
  have hfound : found = (cancelPath != "" && state.files.contains cancelPath) :=
    hworker.polled cancelPath found rfl
  constructor
  · intro hyes
    rw [hyes] at hfound
    have hfile := (Bool.and_eq_true_iff.mp hfound.symm).2
    exact hpast.created cancelPath (List.contains_iff_mem.mp hfile)
  · intro ⟨request, hcreate⟩
    have hsome : cancelPath ≠ "" := by
      obtain ⟨first, second, hbefore⟩ := List.append_of_mem hcreate
      have hevents := h.requests request
      rw [hsplit, hbefore, List.append_assoc, List.cons_append] at hevents
      exact (request_creates hevents (cancel_events_split request first _ _)).1
    rcases hpast.kept request cancelPath hcreate with ⟨event, path, hmem, hremove⟩ | hfile
    · -- the file would be removed after the worker ended
      obtain ⟨start, hstart⟩ := hpast.started hworker.started
      have hjobs : jobEvents events = jobEvents before ++ jobEvents after := by
        rw [hsplit]
        exact List.filterMap_append
      obtain ⟨exitCode, hwait⟩ := hjob.waits _ _ hjobs
        ⟨event, path, mem_job_events.mpr hmem, hremove⟩ ⟨start, mem_job_events.mpr hstart⟩
      have hended := hpast.ended exitCode (mem_job_events.mp hwait)
      exact absurd (hworker.running.symm.trans hended) nofun
    · rw [hfound, List.contains_iff_mem.mpr hfile, Bool.and_true]
      exact bne_iff_ne.mpr hsome

/-- A job whose worker found a request returns false. -/
theorem worker_found_returns (h : SpooledRun true events result)
    (hjob : IsolatedJob cancelPath (jobEvents events) result)
    (hfound : .worker ⟨.sdk cancelPath .cancelRequested, true⟩ ∈ events) : result = some false := by
  obtain ⟨printed, rfl⟩ := hjob.returns
  cases printed with
  | false => rfl
  | true =>
      have hwait := mem_job_events.mp (hjob.printed rfl)
      obtain ⟨before, after, hsplit⟩ := List.append_of_mem hwait
      obtain ⟨_, found, next, _, _, _, hnext⟩ := h.state_at hsplit
      have hended := hnext.ended (some 0) (List.mem_append_right _ (List.mem_singleton.mpr rfl))
      obtain ⟨event, hmem, hexit⟩ := hnext.exited 0 hended
      have hexited : event ∈ workerEvents events := by
        rcases List.mem_append.mp hmem with hmem | hmem
        · exact mem_worker_events.mpr (hsplit ▸ List.mem_append_left _ hmem)
        · exact absurd (List.mem_singleton.mp hmem) nofun
      obtain ⟨sdk, jobPath, rest, code, hruns⟩ := h.worker
      obtain ⟨descriptor, tail, htrace, -, hstops⟩ := run_spool_worker_events sdk jobPath _ _ hruns
      have htail : ∀ {other : SubmitEvent}, other ∈ workerEvents events →
          (∀ path, other.call ≠ .readDescriptor path) → other ∈ tail := by
        intro other hother hread
        have hmem := htrace ▸ List.mem_append_left rest hother
        rcases List.mem_cons.mp hmem with rfl | hmem
        · exact absurd rfl (hread jobPath)
        · exact hmem
      refine absurd hexit (hstops ⟨cancelPath, ?_⟩ event (htail hexited ?_))
      · exact htail (mem_worker_events.mpr hfound) nofun
      · exact fun path hread ↦ absurd (hexit.symm.trans hread) nofun

end InWorker

/-- A request that is made while a spooled job is submitted and before its last poll cancels the
job, exactly when the job prints in this process or a request creates the registered cancel file
before that poll. -/
theorem spooled_cancellation_iff (isolated : Bool) (events : List ThreadEvent)
    (result : Option Bool) (hrun : SpooledRun isolated events result)
    (hrequest : RequestedInTime events) :
    Canceled events result ↔ (isolated = true → MarkedInTime events) := by
  cases isolated with
  | false => exact ⟨fun _ hno ↦ absurd hno Bool.false_ne_true, fun _ ↦ in_process_canceled hrun hrequest⟩
  | true =>
      obtain ⟨cancelPath, hjob⟩ := isolated_job hrun
      constructor
      -- The worker finds the file that a request created, and that request had loaded its path.
      · intro ⟨⟨event, hevent, hpoll⟩, _⟩ _
        obtain ⟨found, rfl⟩ := isolated_poll hrun hjob hevent (Option.isSome_of_eq_some hpoll)
        obtain rfl : found = true := Option.some.inj hpoll
        obtain ⟨past, future, rfl⟩ := List.append_of_mem hevent
        obtain ⟨request, hcreate⟩ := (worker_poll_iff hrun hjob rfl).mp rfl
        obtain ⟨first, second, rfl⟩ := List.append_of_mem hcreate
        have hevents := hrun.requests request
        rw [List.append_assoc, List.cons_append] at hevents
        obtain ⟨hsome, hload⟩ := request_creates hevents (cancel_events_split request first _ _)
        obtain ⟨before, between, rfl⟩ := List.append_of_mem (mem_cancel_events hload)
        refine ⟨before, request, cancelPath, between, second ++ _ :: future, ?_, hsome,
          .worker ⟨.sdk cancelPath .cancelRequested, true⟩,
          List.mem_append_right _ List.mem_cons_self, rfl⟩
        rw [List.append_assoc _ (_ :: second), List.cons_append]
      -- The path that the request loaded is the one that was registered for the worker.
      · intro hmarked
        obtain ⟨before, request, path, between, after, rfl, hsome, event, hevent, hpoll⟩ :=
          hmarked rfl
        have hpath : path = cancelPath := by
          obtain ⟨_, state, next, hpast, hstep, -⟩ := hrun.state_at (List.append_assoc before _ _)
          have hcancel : CancelStep state ⟨.loadCancelFile, path⟩ next := cancel_step hstep
          have hloaded := hcancel.loaded path rfl
          rcases hpast.registered with hnone | ⟨register, hmem, hregister⟩
          · exact absurd (hloaded.trans hnone) hsome
          · refine hjob.registered register ?_ path (hloaded ▸ hregister)
            exact mem_job_events.mpr (List.mem_append_left _ (List.mem_append_left _ hmem))
        subst hpath
        have hmem := List.mem_append_right (before ++ .cancel request ⟨.loadCancelFile, path⟩ :: between)
          (List.mem_cons_of_mem (.cancel request ⟨.createFile path, true⟩) hevent)
        obtain ⟨found, rfl⟩ := isolated_poll hrun hjob hmem hpoll
        obtain ⟨first, second, rfl⟩ := List.append_of_mem hevent
        have hfound : found = true := by
          have hsplit := (List.append_assoc
            (before ++ .cancel request ⟨.loadCancelFile, path⟩ :: between)
            (.cancel request ⟨.createFile path, true⟩ :: first)
            (.worker ⟨.sdk path .cancelRequested, found⟩ :: second)).symm
          refine (worker_poll_iff hrun hjob hsplit).mpr ⟨request, ?_⟩
          exact List.mem_append_right _ List.mem_cons_self
        subst hfound
        exact ⟨⟨_, hmem, rfl⟩, worker_found_returns hrun hjob hmem⟩

/-! ## A request that is lost -/

/-- A spool of one row of two planes. -/
def twoPlaneSpool : DirectPrintSpool where
  path := "/tmp/job.pfrs"
  channelOrder := [1, 0]
  logicalChannelCount := 2
  width := 4
  height := 1
  xdpi := 720
  ydpi := 600
  bytesPerLine := 4
  format := .nocaiMultiInk
  bodyOffset := UInt64.ofNat headerBytes
  bodyBytes := 8
  sha256 := List.replicate 32 0

/-- The descriptor of its job. -/
def twoPlaneDescriptor : Descriptor where
  sdkRoot := "/opt/sdk"
  spoolPath := "/tmp/job.pfrs"
  cancelPath := "/tmp/worker/cancel.request"
  settings := {}

/-- A process in which every call succeeds and a library on which every call does. -/
def obligingProcess (_ : List SubmitEvent) : (call : SubmitCall) → call.Answer
  | .sdk _ call => obligingSdk [] call
  | .library .resolveSdkRoot => "/opt/sdk"
  | .library (.libraryExists _) => true
  | .library (.enterDirectory _) => true
  | .library .load => none
  | .library .installCompatibility => none
  | .library .resolveSymbols => (none, true)
  | .library .unload => (none, false)
  | .library .closeControlSocket => ()
  | .resetCancelRequested => ()
  | .loadCancelRequested => false
  | .verifySpool _ => none
  | .openSpool path => .ok ({ path, metadata := twoPlaneSpool }, fun _ ↦
      some (encodeHeader twoPlaneSpool (some twoPlaneSpool.sha256) ++
        [0x1b, 0, 0, 0, 0xe4, 0, 0, 0]))
  | .reportProgress _ _ => ()
  | .resolveSdkRoot => "/opt/sdk"
  | .createTemporaryDir => some "/tmp/worker"
  | .registerCancelFile _ => ()
  | .clearCancelFile => ()
  | .removeFile _ => false
  | .openDescriptor _ => none
  | .writeDescriptor _ => true
  | .writeJob _ => true
  | .startWorker _ => none
  | .waitForWorker => some 0
  | .readDescriptor _ => some twoPlaneDescriptor
  | .readMetadata _ => .ok twoPlaneSpool
  | .exitWorker _ => ()

/-- The calls of the job and of its worker in such a process. -/
def jobCalls : List SubmitEvent :=
  ((submitSpooledJob true false {} {} twoPlaneSpool {}).run obligingProcess []).1

def workerCalls : List SubmitEvent :=
  ((runSpoolWorker {} "/tmp/worker/job.pfsw").run obligingProcess []).1

/-- A request that finds no cancel file, between the calls of a job before it and after it and
before the worker of that job runs. -/
def earlyRequest (before after worker last : List SubmitEvent) : List ThreadEvent :=
  before.map .job ++ (.cancel 0 ⟨.storeCancelRequested, ()⟩ :: .cancel 0 ⟨.loadCancelFile, ""⟩ ::
    (after.map .job ++ (worker.map .worker ++ last.map .job)))

theorem early_request_job (before after worker last : List SubmitEvent) :
    jobEvents (earlyRequest before after worker last) = before ++ (after ++ last) := by
  simp [earlyRequest, jobEvents]

theorem early_request_worker (before after worker last : List SubmitEvent) :
    workerEvents (earlyRequest before after worker last) = worker := by
  simp [earlyRequest, workerEvents]

theorem early_request_cancel (before after worker last : List SubmitEvent) (request : Nat) :
    cancelEvents request (earlyRequest before after worker last) =
      if request = 0 then [⟨.storeCancelRequested, ()⟩, ⟨.loadCancelFile, ""⟩] else [] := by
  split
  · next hzero => simp [earlyRequest, cancelEvents, hzero]
  · next hother => simp [earlyRequest, cancelEvents, Ne.symm hother]

/-- A request that comes while the job verifies the spool: the worker, which starts later, prints to
its end. -/
def lostRequest : List ThreadEvent :=
  earlyRequest (jobCalls.take 1) ((jobCalls.drop 1).take 7) workerCalls ((jobCalls.drop 1).drop 7)

theorem lost_request_run : SpooledRun true lostRequest (some true) := by
  have hreplay : (Shared.replay {} lostRequest).isSome := by decide +kernel
  obtain ⟨final, hfinal⟩ := Option.isSome_iff_exists.mp hreplay
  refine ⟨⟨false, final, hfinal⟩, ?_, ?_, ?_⟩
  · let job := submitSpooledJob true false {} {} twoPlaneSpool {}
    have hjob : jobEvents lostRequest = jobCalls := by
      rw [lostRequest, early_request_job, List.take_append_drop, List.take_append_drop]
    have hprinted : (job.run obligingProcess []).2.2 = some true := by decide +kernel
    obtain ⟨trace, htrace, hruns⟩ := run_runs obligingProcess job []
    have hcalls : jobCalls = trace := htrace
    generalize (job.run obligingProcess []).2 = outcome at hruns hprinted
    obtain ⟨after, result⟩ := outcome
    obtain rfl : result = some true := hprinted
    refine ⟨false, {}, {}, twoPlaneSpool, {}, after, ?_⟩
    rw [hjob, hcalls]
    exact hruns
  · obtain ⟨trace, htrace, hruns⟩ :=
      run_runs obligingProcess (runSpoolWorker {} "/tmp/worker/job.pfsw") []
    have hcalls : workerCalls = trace := htrace
    generalize ((runSpoolWorker {} "/tmp/worker/job.pfsw").run obligingProcess []).2 = code at hruns
    refine ⟨{}, "/tmp/worker/job.pfsw", [], code, ?_⟩
    rw [lostRequest, early_request_worker, List.append_nil, hcalls]
    exact hruns
  · intro request
    rw [lostRequest, early_request_cancel]
    split
    · exact ⟨[], .inl idle_request_runs⟩
    · exact ⟨_, .inl idle_request_runs⟩

theorem lost_request_in_time : RequestedInTime lostRequest := by
  have hreset : (jobCalls.take 1).map ThreadEvent.job = [.job ⟨.resetCancelRequested, ()⟩] := rfl
  have hpolled : (workerCalls.map ThreadEvent.worker).any (fun event ↦ event.poll.isSome) = true := by
    decide +kernel
  obtain ⟨event, hevent, hpoll⟩ := List.any_eq_true.mp hpolled
  refine ⟨_, 0, _, rfl, hreset ▸ List.mem_singleton.mpr rfl, event, ?_, hpoll⟩
  refine List.mem_cons_of_mem _ (List.mem_append_right _ ?_)
  exact List.mem_append_left _ hevent

/-- A worker prints although a request was made in time. -/
theorem spooled_cancellation_lost :
    ¬ ∀ isolated events result, SpooledRun isolated events result → RequestedInTime events →
      Canceled events result :=
  fun hclaim ↦
    absurd (hclaim true lostRequest (some true) lost_request_run lost_request_in_time).2 nofun

/-- The request of that run creates no cancel file. -/
theorem spooled_cancellation_iff_lost_request :
    RequestedInTime lostRequest ∧ ¬ Canceled lostRequest (some true) ∧
      ¬ MarkedInTime lostRequest := by
  have hlost := spooled_cancellation_iff true lostRequest (some true) lost_request_run
    lost_request_in_time
  have hprinted : ¬ Canceled lostRequest (some true) := fun hcanceled ↦ absurd hcanceled.2 nofun
  exact ⟨lost_request_in_time, hprinted, fun hmarked ↦ hprinted (hlost.mpr fun _ ↦ hmarked)⟩

end PrintFlow.NocaiDirectPrintClient
