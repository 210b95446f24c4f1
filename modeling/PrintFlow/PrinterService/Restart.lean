import PrintFlow.Library.World
import PrintFlow.PrinterService.Instances

/-!
# Restarting the printer service

`restartService` asks the service to shut down, waits until its process is gone, ends it by signals
if it stays, starts another one and connects the printer again. All this goes on among the processes
of `Instances`, which move between any two calls of the client. `restart_replaces` says which
signals the client sends, and to whom, and what a restart that reports success has done.
-/

namespace PrintFlow.PrinterServiceRestart

open Interaction PrinterServiceMain

/-! ## The calls of the client -/

/-- The requests of a restart. -/
inductive ServiceCommand where
  | ping
  | shutdown
  | configure (sdkRootPath : String) (autoDiscoverSdk : Bool)
  | refreshPrinters
  | choosePrinter (index : Int32)
  | connectPrinter
  deriving DecidableEq

/-- What is read of an answer: its error, and the index of each printer of its state that has
one. -/
structure Reply where
  ok : Bool
  error : String := ""
  printers : List (Option Int32) := []

inductive Signal where
  | term
  | kill

/-- A call of the system: an `exchange` with the service; `kill` with no signal; the target of
`/proc/<pid>/exe`; `kill` with a signal; the comparison of a timer with its limit; the test for the
service's executable; `startDetached`. -/
inductive HostCall where
  | exchange (command : ServiceCommand)
  | probe (pid : Int)
  | executable (pid : Int)
  | kill (pid : Int) (signal : Signal)
  | timeLeft
  | executableExists
  | startDetached

/-- Its answer. A signal that finds no process counts as sent. -/
abbrev HostCall.Answer : HostCall → Type
  | .exchange _ => Reply
  | .probe _ => Bool
  | .executable _ => Path
  | .kill .. => Bool
  | .timeLeft => Bool
  | .executableExists => Bool
  | .startDetached => Bool

abbrev HostProgram (α : Type) := Program HostCall HostCall.Answer α

/-- Make one call. -/
abbrev HostCall.ask (call : HostCall) : HostProgram call.Answer := Program.call call

abbrev HostEvent := Event HostCall HostCall.Answer

/-! ## Ending a service -/

def serviceProcessIsRunning (pid : Int) : HostProgram Bool :=
  if pid ≤ 0 then pure false else HostCall.ask (.probe pid)

def deletedSuffix : Path := " (deleted)".toList

/-- The target of the link without the suffix. -/
def chopDeleted (link : Path) : Path :=
  if deletedSuffix <:+ link then link.take (link.length - deletedSuffix.length) else link

def isExpectedServiceProcess (serviceExecutable : Path) (pid : Int) : HostProgram Bool := do
  if ← serviceProcessIsRunning pid then
    let link ← HostCall.ask (.executable pid)
    return decide (chopDeleted link = serviceExecutable)
  else return false

/-- The loops of `terminateExpectedService`. Each turn sleeps for a tenth of a second, so that only
so many find time left. -/
def waitWhileRunning (pid : Int) : Nat → HostProgram Unit
  | 0 => pure ()
  | turns + 1 => do
    if ← HostCall.ask .timeLeft then
      if ← serviceProcessIsRunning pid then waitWhileRunning pid turns else return ()
    else return ()

/-- `terminateExpectedService`, with its error if it fails. -/
def terminateExpectedService (serviceExecutable : Path) (pid : Int) :
    HostProgram (Option String) := do
  if ← isExpectedServiceProcess serviceExecutable pid then
    if ← HostCall.ask (.kill pid .term) then
      waitWhileRunning pid 30
      if ← serviceProcessIsRunning pid then
        if ← HostCall.ask (.kill pid .kill) then
          waitWhileRunning pid 20
          if ← serviceProcessIsRunning pid then
            return some s!"Printer service PID {pid} could not be stopped."
          else return none
        else return some s!"Printer service PID {pid} ignored its stop request."
      else return none
    else return some s!"Could not terminate printer service PID {pid}."
  else
    return some (s!"Refused to terminate PID {pid} because it is not the configured PrintFlow " ++
      "printer service.")

/-! ## Starting a service -/

def waitUntilReady : Nat → HostProgram Bool
  | 0 => pure false
  | turns + 1 => do
    if ← HostCall.ask .timeLeft then
      let hello ← HostCall.ask (.exchange .ping)
      if hello.ok then return true else waitUntilReady turns
    else return false

/-- `ensureService`, with its error if it fails. -/
def ensureService (serviceExecutable : Path) : HostProgram (Option String) := do
  let existing ← HostCall.ask (.exchange .ping)
  if existing.ok then return none
  else if ← HostCall.ask .executableExists then
    if ← HostCall.ask .startDetached then
      if ← waitUntilReady 100 then return none
      else return some "PrintFlow printer service did not become ready within 10 seconds."
    else return some "Could not start PrintFlow printer service."
  else
    return some ("PrintFlow printer service executable is missing: " ++
      String.ofList serviceExecutable)

/-! ## `restartService` -/

/-- The client's members that a restart reads. -/
structure Client where
  servicePid : Int
  sdkRootPath : String
  autoDiscoverSdk : Bool

def waitStopped (previousPid : Int) : Nat → HostProgram Bool
  | 0 => pure false
  | turns + 1 => do
    if ← HostCall.ask .timeLeft then
      if ← serviceProcessIsRunning previousPid then waitStopped previousPid turns else return true
    else return false

/-- The printer to choose: the one that was selected, or the only one. -/
def restartIndex (printers : List (Option Int32)) (printerIndex : Int32) : Except String Int32 :=
  if printers.any fun printer ↦ printer.getD (-1) = printerIndex then .ok printerIndex
  else match printers with
    | [] => .error "The restarted service did not discover a printer."
    | [only] => .ok (only.getD 0)
    | _ => .error "Select a printer before restarting its service."

/-- The part behind `refreshPrinters`. -/
def reconnect (printers : List (Option Int32)) (printerIndex : Int32) : HostProgram Reply := do
  match restartIndex printers printerIndex with
  | .error error => return { ok := false, error }
  | .ok index =>
    let chosen ← HostCall.ask (.exchange (.choosePrinter index))
    if chosen.ok then HostCall.ask (.exchange .connectPrinter) else return chosen

/-- The part behind the end of the old service. -/
def startAgain (serviceExecutable : Path) (client : Client) (printerIndex : Int32) :
    HostProgram Reply := do
  match ← ensureService serviceExecutable with
  | some error => return { ok := false, error }
  | none =>
    let configured ←
      HostCall.ask (.exchange (.configure client.sdkRootPath client.autoDiscoverSdk))
    if configured.ok then
      let refreshed ← HostCall.ask (.exchange .refreshPrinters)
      if refreshed.ok then reconnect refreshed.printers printerIndex else return refreshed
    else return configured

/-- The old service is asked to stop, and ended if it does not. -/
def stopService (serviceExecutable : Path) (previousPid : Int) : HostProgram (Option String) := do
  let _ ← HostCall.ask (.exchange .shutdown)
  if ← waitStopped previousPid 100 then return none
  else terminateExpectedService serviceExecutable previousPid

def restartService (serviceExecutable : Path) (client : Client) (printerIndex : Int32) :
    HostProgram Reply := do
  match ← stopService serviceExecutable client.servicePid with
  | some error => return { ok := false, error }
  | none => startAgain serviceExecutable client printerIndex

/-! ## The client among the processes -/

/-- The host and its processes, and what the client has done: whether it asked a service to shut
down, the process whose executable it read last with the link it read, and the printers of the last
answer. -/
structure World where
  host : Host
  locals : Nat → Process
  asked : Bool := false
  checked : Option (Nat × Path) := none
  offered : List (Option Int32) := []

/-- The world after a step of a process. -/
def World.move (world : World) (mover : Nat) (next : Host) (after : Process) : World :=
  { world with host := next, locals := Function.update world.locals mover after }

@[simp] theorem World.move_self (world : World) (mover : Nat) (next : Host) (after : Process) :
    (world.move mover next after).locals mover = after := Function.update_self ..

theorem World.move_other (world : World) {process mover : Nat} (h : process ≠ mover) (next : Host)
    (after : Process) : (world.move mover next after).locals process = world.locals process :=
  Function.update_of_ne h ..

/-- The processes take any number of steps. -/
inductive Moves (world : World) : World → Prop where
  | stay : Moves world world
  | step {found : World} {mover : Nat} {next : Host} {after : Process} :
      Moves world found → ProcessStep mover found.host (found.locals mover) next after →
        Moves world (found.move mover next after)

/-- The process with a number. -/
def World.process (world : World) (pid : Int) : Option Nat := world.host.table pid.toNat

/-- What the client notes of an answer. -/
def World.after (world : World) (command : ServiceCommand) (reply : Reply) : World :=
  { world with
    asked := world.asked || decide (command = .shutdown)
    offered := reply.printers }

/-- The path, as the link to the executable of a process gives it. -/
def IsLink (link executable : Path) : Prop :=
  link = executable ∨ link = executable ++ deletedSuffix

/-- The answers. A request that succeeds was answered by a service; a link can always be
unreadable. What a signal and `startDetached` do are steps of the processes. -/
inductive Answered (world : World) : HostEvent → World → Prop where
  | failed (command reply) : reply.ok = false →
      Answered world ⟨.exchange command, reply⟩ (world.after command reply)
  | served (command reply process) : (world.locals process).Serves →
      Answered world ⟨.exchange command, reply⟩ (world.after command reply)
  | probe (pid) : Answered world ⟨.probe pid, (world.process pid).isSome⟩ world
  | unreadable (pid) :
      Answered world ⟨.executable pid, []⟩ { world with checked := (world.process pid).map (·, []) }
  | executable (pid link process number executable stage) : world.process pid = some process →
      world.locals process = .running number executable stage → IsLink link executable →
        Answered world ⟨.executable pid, link⟩ { world with checked := some (process, link) }
  | kill (pid signal sent) : Answered world ⟨.kill pid signal, sent⟩ world
  | timeLeft (left) : Answered world ⟨.timeLeft, left⟩ world
  | executableExists (found) : Answered world ⟨.executableExists, found⟩ world
  | startDetached (started) : Answered world ⟨.startDetached, started⟩ world

/-- The processes move before every answer. -/
def ClientStep (world : World) (event : HostEvent) (next : World) : Prop :=
  ∃ found, Moves world found ∧ Answered found event next

/-- The process runs the executable of the service. -/
def RunsService (serviceExecutable : Path) (process : Process) : Prop :=
  ∃ pid executable stage link, process = .running pid executable stage ∧ IsLink link executable ∧
    chopDeleted link = serviceExecutable

/-- A signal to the number finds the process, however the processes move until it comes, unless this
one has ended by then: its number may be free or another's. -/
def Finds (pid : Int) (process : Nat) (world : World) : Prop :=
  ∀ found, Moves world found →
    found.process pid = some process ∨ found.locals process = .reaped

/-- The calls that may be made. A signal is sent after a service was asked to shut down, and to a
process whose executable was read and is the service's. The first one is sent while it still runs
that; the link is not read again for the second one. A printer is chosen that the last answer
offered. -/
def Allowed (serviceExecutable : Path) (printerIndex : Int32) (world : World) : HostCall → Prop
  | .kill pid signal => world.asked = true ∧ ∃ process link,
      world.checked = some (process, link) ∧ chopDeleted link = serviceExecutable ∧
      (signal = .term → RunsService serviceExecutable (world.locals process)) ∧
      Finds pid process world
  | .exchange (.choosePrinter index) => restartIndex world.offered printerIndex = .ok index
  | _ => True

section Moves

variable {world found : World}

/-- What every step of a process keeps is kept. -/
theorem Moves.keeps (h : Moves world found) (holds : World → Prop)
    (hstep : ∀ world mover next after, holds world →
      ProcessStep mover world.host (world.locals mover) next after →
        holds (world.move mover next after))
    (hstart : holds world) : holds found := by
  induction h with
  | stay => exact hstart
  | step _ hprocess ih => exact hstep _ _ _ _ ih hprocess

/-- The process has the number, or it had it and is gone. -/
def Had (process number : Nat) (world : World) : Prop :=
  (world.locals process).pid = some number ∨ world.locals process = .reaped

theorem Moves.had {process number : Nat} (h : Moves world found) (hhad : Had process number world) :
    Had process number found := by
  refine h.keeps (Had process number) ?_ hhad
  intro world mover next after hhad hstep
  by_cases hmover : process = mover
  · subst hmover
    rw [Had, World.move_self]
    cases hstep.numbered with
    | kept hsame hreaped =>
        rw [hsame]
        exact .inl (hhad.resolve_right hreaped)
    | given _ hnone =>
        rcases hhad with hpid | hreaped
        · cases hnone.symm.trans hpid
        · rw [hreaped] at hstep
          cases hstep
    | taken _ _ hreaped => exact .inr hreaped
  · rw [Had, world.move_other hmover]
    exact hhad

theorem Moves.reaped {process : Nat} (h : Moves world found)
    (hreaped : world.locals process = .reaped) : found.locals process = .reaped := by
  refine h.keeps (fun world ↦ world.locals process = .reaped) ?_ hreaped
  intro world mover next after hreaped hstep
  by_cases hmover : process = mover
  · subst hmover
    rw [hreaped] at hstep
    cases hstep
  · rw [world.move_other hmover]
    exact hreaped

theorem Moves.reached (h : Moves world found)
    (hreached : Threads.Reached processes world.host world.locals) :
    Threads.Reached processes found.host found.locals :=
  h.keeps (fun world ↦ Threads.Reached processes world.host world.locals)
    (fun _ _ _ _ hreached hstep ↦ .step hreached hstep) hreached

/-- The client itself notes nothing while the processes move. -/
theorem Moves.notes (h : Moves world found) :
    found.asked = world.asked ∧ found.checked = world.checked := by
  refine h.keeps (fun found ↦ found.asked = world.asked ∧ found.checked = world.checked)
    ?_ ⟨rfl, rfl⟩
  intro _ _ _ _ hnotes _
  exact hnotes

end Moves

/-! ## Waiting for a process -/

/-- The client has asked a service to shut down, and waits for processes that have a number. -/
structure During (old : Nat → Prop) (number : Nat) (world : World) : Prop where
  reached : Threads.Reached processes world.host world.locals
  had (process : Nat) : old process → Had process number world
  asked : world.asked = true

/-- The processes are gone. -/
def Gone (old : Nat → Prop) (world : World) : Prop :=
  ∀ process, old process → world.locals process = .reaped

section Waiting

variable {old : Nat → Prop} {number : Nat} {world found next : World} {event : HostEvent}
  {serviceExecutable : Path} {printerIndex : Int32}

theorem Answered.same (h : Answered world event next) :
    next.host = world.host ∧ next.locals = world.locals := by
  cases h with
  | failed | served | probe | unreadable | executable | kill | timeLeft | executableExists
  | startDetached => exact ⟨rfl, rfl⟩

theorem Answered.asked (h : Answered world event next) (hasked : world.asked = true) :
    next.asked = true := by
  cases h with
  | failed | served => rw [World.after, hasked, Bool.true_or]
  | probe | unreadable | executable | kill | timeLeft | executableExists | startDetached =>
      exact hasked

theorem During.moves (h : During old number world) (hmoves : Moves world found) :
    During old number found :=
  ⟨hmoves.reached h.reached, fun process hold ↦ hmoves.had (h.had process hold),
    hmoves.notes.1.trans h.asked⟩

theorem ClientStep.during (hstep : ClientStep world event next) (h : During old number world) :
    During old number next := by
  obtain ⟨found, hmoves, hanswered⟩ := hstep
  obtain ⟨hhost, hlocals⟩ := hanswered.same
  have hfound := h.moves hmoves
  refine ⟨?_, ?_, hanswered.asked hfound.asked⟩
  · rw [hhost, hlocals]
    exact hfound.reached
  · intro process hold
    rw [Had, hlocals]
    exact hfound.had process hold

theorem ClientStep.gone (hstep : ClientStep world event next) (h : Gone old world) :
    Gone old next := by
  obtain ⟨found, hmoves, hanswered⟩ := hstep
  intro process hold
  rw [hanswered.same.2]
  exact hmoves.reaped (h process hold)

/-- A number that nobody has is one that nobody has any more. -/
theorem During.gone (h : During old number world) (hnone : world.host.table number = none) :
    Gone old world := by
  intro process hold
  refine (h.had process hold).resolve_left fun hpid ↦ ?_
  cases hnone.symm.trans ((reached_table h.reached number process).mpr hpid)

/-- What a look at the process leaves. -/
def Polled (old : Nat → Prop) (number : Nat) (world : World) (running : Bool) (final : World) :
    Prop :=
  During old number final ∧ final.checked = world.checked ∧ (running = false → Gone old final)

theorem service_process_is_running_safely (pid : Int) (h : During old pid.toNat world) :
    Safely ClientStep (Allowed serviceExecutable printerIndex) (serviceProcessIsRunning pid)
      (Polled old pid.toNat world) world := by
  unfold serviceProcessIsRunning
  refine .ite (fun hnonpositive ↦ .pure ⟨h, rfl, fun _ process hold ↦ ?_⟩) fun _ ↦ ?_
  · refine (h.had process hold).resolve_left fun hpid ↦ ?_
    have hpositive := reached_positive h.reached hpid
    omega
  · refine .call trivial fun running final hstep ↦ ?_
    have hduring := hstep.during h
    obtain ⟨found, hmoves, hanswered⟩ := hstep
    cases hanswered with
    | probe => exact ⟨hduring, hmoves.notes.2, fun hnone ↦
        hduring.gone (Option.isNone_iff_eq_none.mp (Option.isSome_eq_false_iff.mp hnone))⟩

/-- A timer is looked at. -/
theorem time_left_safely {α : Type} {post : α → World → Prop} {f : Bool → HostProgram α}
    (h : During old number world)
    (hnext : ∀ left final, During old number final → final.checked = world.checked →
      Safely ClientStep (Allowed serviceExecutable printerIndex) (f left) post final) :
    Safely ClientStep (Allowed serviceExecutable printerIndex) (HostCall.ask .timeLeft >>= f) post
      world := by
  refine .call_bind trivial fun left final hstep ↦ ?_
  have hduring := hstep.during h
  obtain ⟨found, hmoves, hanswered⟩ := hstep
  cases hanswered
  exact hnext left _ hduring hmoves.notes.2

theorem wait_while_running_safely (pid : Int) (turns : Nat) (h : During old pid.toNat world) :
    Safely ClientStep (Allowed serviceExecutable printerIndex) (waitWhileRunning pid turns)
      (fun _ final ↦ During old pid.toNat final ∧ final.checked = world.checked) world := by
  induction turns generalizing world with
  | zero => exact .pure ⟨h, rfl⟩
  | succ turns ih =>
      refine time_left_safely h fun left found hfound hchecked ↦ ?_
      refine .ite (fun _ ↦ ?_) fun _ ↦ .pure ⟨hfound, hchecked⟩
      refine .bind (service_process_is_running_safely pid hfound) fun running next hpolled ↦ ?_
      have hnext := hpolled.2.1.trans hchecked
      refine .ite (fun _ ↦ ?_) fun _ ↦ .pure ⟨hpolled.1, hnext⟩
      exact (ih hpolled.1).mono fun _ final hfinal ↦ ⟨hfinal.1, hfinal.2.trans hnext⟩

theorem wait_stopped_safely (pid : Int) (turns : Nat) (h : During old pid.toNat world) :
    Safely ClientStep (Allowed serviceExecutable printerIndex) (waitStopped pid turns)
      (fun stopped final ↦ During old pid.toNat final ∧ (stopped = true → Gone old final))
      world := by
  induction turns generalizing world with
  | zero => exact .pure ⟨h, nofun⟩
  | succ turns ih =>
      refine time_left_safely h fun left found hfound _ ↦ ?_
      refine .ite (fun _ ↦ ?_) fun _ ↦ .pure ⟨hfound, nofun⟩
      refine .bind (service_process_is_running_safely pid hfound) fun running next hpolled ↦ ?_
      refine .ite (fun _ ↦ ih hpolled.1) fun hrunning ↦ .pure ⟨hpolled.1, fun _ ↦ ?_⟩
      exact hpolled.2.2 ((Bool.not_eq_true running).mp hrunning)

end Waiting

/-! ## Ending the old service -/

section Ending

variable {old : Nat → Prop} {world : World} {serviceExecutable : Path} {printerIndex : Int32}

theorem chop_deleted_nil : chopDeleted [] = [] := by decide

/-- A process that is taken for the service has the number and runs its executable. -/
theorem is_expected_service_process_safely (hpath : serviceExecutable ≠ []) (pid : Int)
    (h : During old pid.toNat world) :
    Safely ClientStep (Allowed serviceExecutable printerIndex)
      (isExpectedServiceProcess serviceExecutable pid)
      (fun expected final ↦ During old pid.toNat final ∧ (expected = true →
        ∃ process link, final.checked = some (process, link) ∧
          chopDeleted link = serviceExecutable ∧ final.process pid = some process ∧
          RunsService serviceExecutable (final.locals process))) world := by
  refine .bind (service_process_is_running_safely pid h) fun running found hpolled ↦ ?_
  refine .ite (fun _ ↦ ?_) fun _ ↦ .pure ⟨hpolled.1, nofun⟩
  refine .call_bind trivial fun link final hstep ↦ .pure ⟨hstep.during hpolled.1, fun hlink ↦ ?_⟩
  have hchopped : chopDeleted link = serviceExecutable := of_decide_eq_true hlink
  obtain ⟨between, _, hanswered⟩ := hstep
  cases hanswered with
  | unreadable => exact absurd (hchopped.symm.trans chop_deleted_nil) hpath
  | executable _ _ process number executable stage hprocess hrunning hislink =>
      exact ⟨process, link, rfl, hchopped, hprocess, number, executable, stage, link, hrunning,
        hislink, hchopped⟩

/-- A signal finds a process that is waited for. -/
theorem During.finds {pid : Int} {process : Nat} (h : During old pid.toNat world)
    (hold : old process) : Finds pid process world := by
  intro found hmoves
  have hfound := h.moves hmoves
  exact (hfound.had process hold).imp_left (reached_table hfound.reached pid.toNat process).mpr

/-- `terminateExpectedService` reports success when the process is gone, and sends no other signals
than those allowed. -/
theorem terminate_expected_service_safely (hpath : serviceExecutable ≠ []) (pid : Int)
    (h : During old pid.toNat world) :
    Safely ClientStep (Allowed serviceExecutable printerIndex)
      (terminateExpectedService serviceExecutable pid)
      (fun error final ↦ During old pid.toNat final ∧ (error = none → Gone old final)) world := by
  refine .bind (is_expected_service_process_safely hpath pid h) fun expected found hchecks ↦ ?_
  obtain ⟨hfound, hexpected⟩ := hchecks
  refine .ite (fun htrue ↦ ?_) fun _ ↦ .pure ⟨hfound, nofun⟩
  obtain ⟨process, link, hchecked, hchopped, hprocess, hruns⟩ := hexpected htrue
  -- From here on the process that was checked is waited for as well.
  have hboth : During (fun other ↦ old other ∨ other = process) pid.toNat found := by
    refine ⟨hfound.reached, ?_, hfound.asked⟩
    rintro other (hold | rfl)
    · exact hfound.had other hold
    · exact .inl ((reached_table hfound.reached pid.toNat other).mp hprocess)
  have hterm : Allowed serviceExecutable printerIndex found (.kill pid .term) :=
    ⟨hfound.asked, process, link, hchecked, hchopped, fun _ ↦ hruns, hboth.finds (.inr rfl)⟩
  refine .call_bind hterm fun sent next hstep ↦ ?_
  refine .ite (fun _ ↦ ?_) fun _ ↦ .pure ⟨hstep.during hfound, nofun⟩
  have hsame : next.checked = some (process, link) := by
    obtain ⟨between, hmoves, hanswered⟩ := hstep
    cases hanswered
    exact hmoves.notes.2.trans hchecked
  have hends {final : World} {running : Bool} {before : World}
      (hpolled : Polled (fun other ↦ old other ∨ other = process) pid.toNat before running final) :
      During old pid.toNat final ∧ (running = false → Gone old final) :=
    ⟨⟨hpolled.1.reached, fun other hold ↦ hpolled.1.had other (.inl hold), hpolled.1.asked⟩,
      fun hrunning other hold ↦ hpolled.2.2 hrunning other (.inl hold)⟩
  refine .bind (wait_while_running_safely pid 30 (hstep.during hboth)) fun _ waited hwaited ↦ ?_
  refine .bind (service_process_is_running_safely pid hwaited.1) fun running polled hpolled ↦ ?_
  refine .ite (fun _ ↦ ?_) fun hstopped ↦
    .pure ⟨(hends hpolled).1, fun _ ↦ (hends hpolled).2 ((Bool.not_eq_true _).mp hstopped)⟩
  have hkill : Allowed serviceExecutable printerIndex polled (.kill pid .kill) :=
    ⟨hpolled.1.asked, process, link, hpolled.2.1.trans (hwaited.2.trans hsame), hchopped, nofun,
      hpolled.1.finds (.inr rfl)⟩
  refine .call_bind hkill fun sent killed hstep ↦ ?_
  have hkilled := hstep.during hpolled.1
  refine .ite (fun _ ↦ ?_) fun _ ↦ .pure
    ⟨⟨hkilled.reached, fun other hold ↦ hkilled.had other (.inl hold), hkilled.asked⟩, nofun⟩
  refine .bind (wait_while_running_safely pid 20 hkilled) fun _ waited hwaited ↦ ?_
  refine .bind (service_process_is_running_safely pid hwaited.1) fun running polled hpolled ↦ ?_
  refine .ite (fun _ ↦ .pure ⟨(hends hpolled).1, nofun⟩) fun hstopped ↦
    .pure ⟨(hends hpolled).1, fun _ ↦ (hends hpolled).2 ((Bool.not_eq_true _).mp hstopped)⟩

end Ending

/-! ## Starting the new one -/

/-- The old service is gone. -/
def Settled (old : Nat → Prop) (world : World) : Prop :=
  Threads.Reached processes world.host world.locals ∧ Gone old world

/-- A reply that reports success was given by a service. -/
def Replied (old : Nat → Prop) (reply : Reply) (final : World) : Prop :=
  Settled old final ∧ (reply.ok = true → ∃ service, (final.locals service).Serves)

section Starting

variable {old : Nat → Prop} {world next : World} {event : HostEvent} {serviceExecutable : Path}
  {printerIndex : Int32}

theorem ClientStep.settled (hstep : ClientStep world event next) (h : Settled old world) :
    Settled old next := by
  refine ⟨?_, hstep.gone h.2⟩
  obtain ⟨found, hmoves, hanswered⟩ := hstep
  rw [hanswered.same.1, hanswered.same.2]
  exact hmoves.reached h.1

/-- A request, and what was offered in its answer. -/
theorem exchange_safely {command : ServiceCommand} (h : Settled old world)
    (hallowed : Allowed serviceExecutable printerIndex world (.exchange command)) :
    Safely ClientStep (Allowed serviceExecutable printerIndex) (HostCall.ask (.exchange command))
      (fun reply final ↦ Replied old reply final ∧ final.offered = reply.printers) world := by
  refine .call hallowed fun reply final hstep ↦ ?_
  have hsettled := hstep.settled h
  obtain ⟨found, _, hanswered⟩ := hstep
  cases hanswered with
  | failed _ _ hfailed =>
      refine ⟨⟨hsettled, fun hok ↦ ?_⟩, rfl⟩
      rw [hfailed] at hok
      cases hok
  | served _ _ service hserves => exact ⟨⟨hsettled, fun _ ↦ ⟨service, hserves⟩⟩, rfl⟩

theorem wait_until_ready_safely (turns : Nat) (h : Settled old world) :
    Safely ClientStep (Allowed serviceExecutable printerIndex) (waitUntilReady turns)
      (fun _ ↦ Settled old) world := by
  induction turns generalizing world with
  | zero => exact .pure h
  | succ turns ih =>
      refine .call_bind trivial fun left found hstep ↦ ?_
      have hfound := hstep.settled h
      refine .ite (fun _ ↦ ?_) fun _ ↦ .pure hfound
      refine .bind (exchange_safely hfound trivial) fun hello final hreplied ↦ ?_
      exact .ite (fun _ ↦ .pure hreplied.1.1) fun _ ↦ ih hreplied.1.1

theorem ensure_service_safely (h : Settled old world) :
    Safely ClientStep (Allowed serviceExecutable printerIndex) (ensureService serviceExecutable)
      (fun _ ↦ Settled old) world := by
  refine .bind (exchange_safely h trivial) fun existing found hreplied ↦ ?_
  refine .ite (fun _ ↦ .pure hreplied.1.1) fun _ ↦ ?_
  refine .call_bind trivial fun exists_ found hstep ↦ ?_
  have hfound := hstep.settled hreplied.1.1
  refine .ite (fun _ ↦ ?_) fun _ ↦ .pure hfound
  refine .call_bind trivial fun started next hstep ↦ ?_
  have hnext := hstep.settled hfound
  refine .ite (fun _ ↦ ?_) fun _ ↦ .pure hnext
  refine .bind (wait_until_ready_safely 100 hnext) fun ready final hfinal ↦ ?_
  exact .ite (fun _ ↦ .pure hfinal) fun _ ↦ .pure hfinal

theorem reconnect_safely (h : Settled old world) :
    Safely ClientStep (Allowed serviceExecutable printerIndex)
      (reconnect world.offered printerIndex) (Replied old) world := by
  unfold reconnect
  cases hindex : restartIndex world.offered printerIndex with
  | error error => exact .pure ⟨h, nofun⟩
  | ok index =>
      refine .bind (exchange_safely h hindex) fun chosen found hchosen ↦ ?_
      refine .ite (fun _ ↦ ?_) fun _ ↦ .pure hchosen.1
      refine .mono (exchange_safely hchosen.1.1 ?_) fun _ _ hreplied ↦ hreplied.1
      exact trivial

theorem start_again_safely (client : Client) (h : Settled old world) :
    Safely ClientStep (Allowed serviceExecutable printerIndex)
      (startAgain serviceExecutable client printerIndex) (Replied old) world := by
  refine .bind (ensure_service_safely h) fun error found hfound ↦ ?_
  cases error with
  | some error => exact .pure ⟨hfound, nofun⟩
  | none =>
      refine .bind (exchange_safely hfound trivial) fun configured found hconfigured ↦ ?_
      refine .ite (fun _ ↦ ?_) fun _ ↦ .pure hconfigured.1
      refine .bind (exchange_safely hconfigured.1.1 trivial) fun refreshed found hrefreshed ↦ ?_
      refine .ite (fun _ ↦ ?_) fun _ ↦ .pure hrefreshed.1
      rw [← hrefreshed.2]
      exact reconnect_safely hrefreshed.1.1

end Starting

/-! ## The restart -/

section Restart

variable {host : Host} {locals : Nat → Process} {serviceExecutable : Path}

/-- A client restarts the service among any other processes. It sends signals only after it asked
for a shutdown, and only to a process that it found to run the service, unless this one ends before
the signal comes; it chooses a printer that the new service offered. If it reports success, the
process that had the number of the old service is gone, and another one that listens on the socket
file has answered. -/
theorem restart_replaces (h : Threads.Reached processes host locals)
    (hpath : serviceExecutable ≠ []) (client : Client) (printerIndex : Int32) :
    Safely ClientStep (Allowed serviceExecutable printerIndex)
      (restartService serviceExecutable client printerIndex)
      (fun reply final ↦ Threads.Reached processes final.host final.locals ∧ (reply.ok = true →
        ∃ service, final.host.socket = some service ∧ (final.locals service).Serves ∧
          ∀ process, host.table client.servicePid.toNat = some process →
            final.locals process = .reaped ∧ process ≠ service)) { host, locals } := by
  let old : Nat → Prop := fun process ↦ host.table client.servicePid.toNat = some process
  have hhad (process : Nat) (hold : old process) :
      Had process client.servicePid.toNat { host, locals } :=
    .inl ((reached_table h _ process).mp hold)
  unfold restartService stopService
  refine .bind (P := fun error final ↦
    Threads.Reached processes final.host final.locals ∧ (error = none → Gone old final)) ?_ ?_
  · refine .call_bind trivial fun reply asked hstep ↦ ?_
    have hasked : During old client.servicePid.toNat asked := by
      obtain ⟨found, hmoves, hanswered⟩ := hstep
      refine ⟨?_, ?_, ?_⟩
      · rw [hanswered.same.1, hanswered.same.2]
        exact hmoves.reached h
      · intro process hold
        rw [Had, hanswered.same.2]
        exact hmoves.had (hhad process hold)
      · cases hanswered with
        | failed | served => rw [World.after, decide_eq_true rfl, Bool.or_true]
    refine .bind (wait_stopped_safely _ 100 hasked) fun stopped waited hwaited ↦ ?_
    refine .ite (fun htrue ↦ .pure ⟨hwaited.1.reached, fun _ ↦ hwaited.2 htrue⟩) fun _ ↦ ?_
    exact (terminate_expected_service_safely hpath _ hwaited.1).mono fun _ _ hended ↦
      ⟨hended.1.reached, hended.2⟩
  · intro error stopped hstopped
    cases error with
    | some error => exact .pure ⟨hstopped.1, nofun⟩
    | none =>
        refine (start_again_safely client ⟨hstopped.1, hstopped.2 rfl⟩).mono ?_
        intro reply final hreplied
        refine ⟨hreplied.1.1, fun hok ↦ ?_⟩
        obtain ⟨service, hserves⟩ := hreplied.2 hok
        refine ⟨service, reached_socket hreplied.1.1 hserves, hserves, fun process hold ↦ ?_⟩
        have hreaped := hreplied.1.2 process hold
        refine ⟨hreaped, fun heq ↦ ?_⟩
        rw [← heq, hreaped] at hserves
        exact hserves

end Restart

/-! ## A restart -/

/-- Two steps of one process. -/
theorem Moves.again {world found : World} {process : Nat} {host next : Host}
    {before after : Process} (h : Moves world (found.move process host before))
    (hstep : ProcessStep process host before next after) :
    Moves world (found.move process next after) := by
  have hmoves : Moves world ((found.move process host before).move process next after) := by
    refine .step h ?_
    rw [World.move_self]
    exact hstep
  rwa [World.move, World.move, Function.update_idem] at hmoves

/-- A process is started, takes the lock that is free, and listens. -/
theorem Moves.starts {world found : World} (process pid : Nat) (executable : Path)
    (h : Moves world found) (hunborn : found.locals process = .unborn) (hpid : 0 < pid)
    (hfree : found.host.table pid = none) (hlock : found.host.lock = none) :
    Moves world (found.move process
      { table := Function.update found.host.table pid (some process)
        lock := some process
        socket := some process } (.running pid executable (some .listening))) := by
  have hforks := Moves.step h (by rw [hunborn]; exact .forks pid executable hpid hfree)
  have hexecutes := hforks.again (.executes pid executable executable _ (.inr rfl))
  have hlocks := hexecutes.again (.locks pid executable hlock)
  exact hlocks.again (.listens pid executable _ (.inl rfl))

/-- A service that listens is killed, and its number is free again. -/
theorem Moves.dies {world found : World} {process pid : Nat} {executable : Path}
    (h : Moves world found)
    (hlistens : found.locals process = .running pid executable (some .listening)) :
    Moves world (found.move process
      { found.host with
        table := Function.update found.host.table pid none
        lock := none } .reaped) := by
  have hkilled := Moves.step h (by rw [hlistens]; exact .killed pid executable .listening trivial)
  exact hkilled.again (.reaps pid)

/-- The path of the service. -/
def servicePath : Path := "/usr/libexec/printflow/PrintFlowPrinterService".toList

/-- A host on which one service listens. -/
def oneService : World :=
  World.move { host := {}, locals := fun _ ↦ .unborn } 0
    { table := Function.update (fun _ ↦ none) 7 (some 0)
      lock := some 0
      socket := some 0 } (.running 7 servicePath (some .listening))

theorem one_service_reached : Threads.Reached processes oneService.host oneService.locals :=
  Moves.reached (.starts 0 7 servicePath .stay rfl (by decide) rfl rfl) .start

/-- The service does not quit when it is asked to and is ended, the next one is started, and offers
one printer. -/
def restartTrace : List HostEvent :=
  [⟨.exchange .shutdown, { ok := false }⟩, ⟨.timeLeft, false⟩, ⟨.probe 7, true⟩,
    ⟨.executable 7, servicePath⟩, ⟨.kill 7 .term, true⟩, ⟨.timeLeft, true⟩, ⟨.probe 7, false⟩,
    ⟨.probe 7, false⟩, ⟨.exchange .ping, { ok := false }⟩, ⟨.executableExists, true⟩,
    ⟨.startDetached, true⟩, ⟨.timeLeft, true⟩, ⟨.exchange .ping, { ok := true }⟩,
    ⟨.exchange (.configure "" true), { ok := true }⟩,
    ⟨.exchange .refreshPrinters, { ok := true, printers := [some 0] }⟩,
    ⟨.exchange (.choosePrinter 0), { ok := true }⟩,
    ⟨.exchange .connectPrinter, { ok := true }⟩]

theorem restart_runs :
    Runs (restartService servicePath ⟨7, "", true⟩ 0) restartTrace { ok := true } := by
  refine .ask _ _ _ _ _ (.ask _ _ _ _ _ (.ask _ _ _ _ _ (.ask _ _ _ _ _ (.ask _ _ _ _ _
    (.ask _ _ _ _ _ (.ask _ _ _ _ _ (.ask _ _ _ _ _ (.ask _ _ _ _ _ (.ask _ _ _ _ _
    (.ask _ _ _ _ _ (.ask _ _ _ _ _ (.ask _ _ _ _ _ (.ask _ _ _ _ _ (.ask _ _ _ _ _
    (.ask _ _ _ _ _ (.ask _ _ _ _ _ (.done _)))))))))))))))))

theorem ClientStep.of_answered {world next : World} {event : HostEvent}
    (h : Answered world event next) : ClientStep world event next :=
  ⟨world, .stay, h⟩

theorem restart_along : ∃ final, Along ClientStep oneService restartTrace final := by
  have hdies : Moves
      { oneService.after .shutdown { ok := false } with checked := some (0, servicePath) }
      (World.move
        { oneService.after .shutdown { ok := false } with checked := some (0, servicePath) } 0
        { oneService.host with
          table := Function.update oneService.host.table 7 none
          lock := none } .reaped) :=
    .dies .stay rfl
  exact ⟨_, .cons (.of_answered (.failed _ _ rfl)) (.cons (.of_answered (.timeLeft false))
    (.cons (.of_answered (.probe 7))
    (.cons (.of_answered (.executable 7 servicePath 0 7 servicePath _ rfl rfl (.inl rfl)))
    (.cons (.of_answered (.kill 7 .term true)) (.cons (.of_answered (.timeLeft true))
    (.cons ⟨_, hdies, .probe 7⟩ (.cons (.of_answered (.probe 7))
    (.cons (.of_answered (.failed _ _ rfl)) (.cons (.of_answered (.executableExists true))
    (.cons (.of_answered (.startDetached true)) (.cons (.of_answered (.timeLeft true))
    (.cons ⟨_, .starts 1 8 servicePath .stay rfl (by decide) rfl rfl, .served _ _ 1 trivial⟩
    (.cons (.of_answered (.served _ _ 1 trivial)) (.cons (.of_answered (.served _ _ 1 trivial))
    (.cons (.of_answered (.served _ _ 1 trivial)) (.cons (.of_answered (.served _ _ 1 trivial))
    (.nil _)))))))))))))))))⟩

/-- The old service may get its signal, and the new one is another process. -/
theorem restart_replaces_ending : ∃ reply final,
    Runs (restartService servicePath ⟨7, "", true⟩ 0) restartTrace reply ∧
      Along ClientStep oneService restartTrace final ∧
      (∀ found, Along ClientStep oneService (restartTrace.take 4) found →
        Allowed servicePath 0 found (.kill 7 .term)) ∧
      ∃ service, final.host.socket = some service ∧ (final.locals service).Serves ∧
        ∀ process, oneService.host.table 7 = some process →
          final.locals process = .reaped ∧ process ≠ service := by
  obtain ⟨final, halong⟩ := restart_along
  have hpath : servicePath ≠ [] := by decide
  have hsafe := restart_replaces one_service_reached hpath ⟨7, "", true⟩ 0
  obtain ⟨hallowed, hends⟩ := hsafe _ _ restart_runs
  exact ⟨_, final, restart_runs, halong, hallowed (restartTrace.take 4) ⟨.kill 7 .term, true⟩ _ rfl,
    (hends final halong).2 rfl⟩

end PrintFlow.PrinterServiceRestart
