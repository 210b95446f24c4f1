import PrintFlow.Library.Threads

/-!
# Instances of the printer service

Any number of processes run `main` of the printer service, next to other programs, and each of them
may end at any moment. The service lock lets one at a time past `tryLock`. A server that is closed,
and `removeServer`, remove the socket file whoever bound it, so it depends on the lock and on the
order of the destructors in `main` that no listening service loses its socket. `service_instances`
says that none does, and that what a killed service leaves behind does not keep the next from
starting.
-/

namespace PrintFlow.PrinterServiceMain

open Threads

/-- The text of a path. -/
abbrev Path := List Char

/-- How far a process is in `main`: before `tryLock`; with the lock and its server; after a first
`listen` that failed and `removeServer`; in `exec`; behind `exec`; with the lock but without its
server. -/
inductive Stage where
  | starting
  | locked
  | retrying
  | listening
  | quitting
  | closed

/-- The stages behind `tryLock`. -/
def Stage.HoldsLock : Stage → Prop
  | .starting => False
  | _ => True

/-- The stages in which requests can be answered. -/
def Stage.Serves : Stage → Prop
  | .listening => True
  | .quitting => True
  | _ => False

theorem Stage.Serves.holds_lock {stage : Stage} (h : stage.Serves) : stage.HoldsLock := by
  cases stage with
  | starting => exact h
  | locked | retrying | listening | quitting | closed => trivial

/-- A process: its number, its executable and, if it runs the service, its stage. A process that
has ended keeps its number until its parent has taken notice. -/
inductive Process where
  | unborn
  | running (pid : Nat) (executable : Path) (stage : Option Stage)
  | ended (pid : Nat)
  | reaped

namespace Process

def Inside : Process → Prop
  | .running _ _ (some stage) => stage.HoldsLock
  | _ => False

def Serves : Process → Prop
  | .running _ _ (some stage) => stage.Serves
  | _ => False

def pid : Process → Option Nat
  | .running pid _ _ => some pid
  | .ended pid => some pid
  | _ => none

theorem Serves.inside {process : Process} (h : process.Serves) : process.Inside := by
  match process, h with
  | .running _ _ (some _), h => exact Stage.Serves.holds_lock h

end Process

/-- What the processes share: the table of process numbers, the holder of the service lock, and the
process that bound the socket file, if there is one. -/
structure Host where
  table : Nat → Option Nat := fun _ ↦ none
  lock : Option Nat := none
  socket : Option Nat := none

/-- The steps of one process. A new process has a number that is not in use. The lock is given back
by a process that ends in whatever way; the socket file stays where the server was not closed. -/
inductive ProcessStep (process : Nat) (host : Host) : Process → Host → Process → Prop where
  | forks (pid executable) : 0 < pid → host.table pid = none →
      ProcessStep process host .unborn
        { host with table := Function.update host.table pid (some process) }
        (.running pid executable none)
  | executes (pid executable program stage) : stage = none ∨ stage = some .starting →
      ProcessStep process host (.running pid executable none) host (.running pid program stage)
  | locks (pid executable) : host.lock = none →
      ProcessStep process host (.running pid executable (some .starting))
        { host with lock := some process } (.running pid executable (some .locked))
  | refused (pid executable) :
      ProcessStep process host (.running pid executable (some .starting)) host (.ended pid)
  | listens (pid executable stage) : stage = .locked ∨ stage = .retrying →
      ProcessStep process host (.running pid executable (some stage))
        { host with socket := some process } (.running pid executable (some .listening))
  | removes (pid executable) :
      ProcessStep process host (.running pid executable (some .locked))
        { host with socket := none } (.running pid executable (some .retrying))
  | fails (pid executable) :
      ProcessStep process host (.running pid executable (some .retrying)) host
        (.running pid executable (some .closed))
  | quits (pid executable) :
      ProcessStep process host (.running pid executable (some .listening)) host
        (.running pid executable (some .quitting))
  | closes (pid executable) :
      ProcessStep process host (.running pid executable (some .quitting))
        { host with socket := none } (.running pid executable (some .closed))
  | unlocks (pid executable) :
      ProcessStep process host (.running pid executable (some .closed)) { host with lock := none }
        (.ended pid)
  | killed (pid executable stage) : stage.HoldsLock →
      ProcessStep process host (.running pid executable (some stage)) { host with lock := none }
        (.ended pid)
  | ends (pid executable stage) : (∀ inside ∈ stage, ¬ inside.HoldsLock) →
      ProcessStep process host (.running pid executable stage) host (.ended pid)
  | reaps (pid) :
      ProcessStep process host (.ended pid)
        { host with table := Function.update host.table pid none } .reaped

/-- The processes of a host on which none runs yet. -/
def processes : System Nat Host Process where
  start := {}
  idle := .unborn
  step := ProcessStep

/-- The lock names the process behind `tryLock`. -/
theorem service_lock : Locking processes Host.lock Process.Inside where
  free := rfl
  outside := id
  step hstep := by
    cases hstep with
    | locks _ _ hfree => exact .takes hfree id trivial rfl
    | unlocks => exact .returns trivial id rfl
    | killed _ _ _ hinside => exact .returns hinside id rfl
    | forks => exact .keeps Iff.rfl rfl
    | executes _ _ _ _ hstage =>
        rcases hstage with rfl | rfl
        · exact .keeps Iff.rfl rfl
        · exact .keeps Iff.rfl rfl
    | refused => exact .keeps Iff.rfl rfl
    | listens _ _ _ hstage =>
        rcases hstage with rfl | rfl
        · exact .keeps Iff.rfl rfl
        · exact .keeps Iff.rfl rfl
    | removes | fails | quits | closes => exact .keeps Iff.rfl rfl
    | ends _ _ stage houtside =>
        refine .keeps (iff_of_false id fun hinside ↦ ?_) rfl
        cases stage with
        | none => exact hinside
        | some stage => exact houtside stage rfl hinside
    | reaps => exact .keeps Iff.rfl rfl

section Step

variable {process : Nat} {host next : Host} {before after : Process}

/-- Only a process that holds the lock changes the socket file, and only `listen` starts to
serve. -/
theorem ProcessStep.socket (h : ProcessStep process host before next after) :
    next.socket = host.socket ∧ (after.Serves → before.Serves) ∨
      before.Inside ∧ (after.Serves → next.socket = some process) := by
  cases h with
  | forks | locks | refused | fails | unlocks | killed | ends | reaps => exact .inl ⟨rfl, False.elim⟩
  | executes _ _ _ _ hstage =>
      rcases hstage with rfl | rfl
      · exact .inl ⟨rfl, id⟩
      · exact .inl ⟨rfl, id⟩
  | listens _ _ _ hstage =>
      rcases hstage with rfl | rfl
      · exact .inr ⟨trivial, fun _ ↦ rfl⟩
      · exact .inr ⟨trivial, fun _ ↦ rfl⟩
  | removes | closes => exact .inr ⟨trivial, False.elim⟩
  | quits => exact .inl ⟨rfl, id⟩

/-- Numbers are given to new processes and taken from reaped ones. -/
inductive Numbered (process : Nat) (host : Host) (before : Process) (next : Host)
    (after : Process) : Prop
  | given (pid : Nat) (hnone : before.pid = none) (hpositive : 0 < pid)
      (hfree : host.table pid = none) (hsome : after.pid = some pid)
      (htable : next.table = Function.update host.table pid (some process))
  | taken (pid : Nat) (hsome : before.pid = some pid) (hreaped : after = .reaped)
      (htable : next.table = Function.update host.table pid none)
  | kept (hsame : after.pid = before.pid) (hreaped : before ≠ .reaped)
      (htable : next.table = host.table)

theorem ProcessStep.numbered (h : ProcessStep process host before next after) :
    Numbered process host before next after := by
  cases h with
  | forks pid _ hpositive hfree => exact .given pid rfl hpositive hfree rfl rfl
  | reaps pid => exact .taken pid rfl rfl rfl
  | executes | locks | refused | listens | removes | fails | quits | closes | unlocks | killed
  | ends => exact .kept rfl nofun rfl

end Step

section Reached

variable {host : Host} {locals : Nat → Process}

theorem reached_table (h : Reached processes host locals) (pid process : Nat) :
    host.table pid = some process ↔ (locals process).pid = some pid := by
  induction h generalizing pid process with
  | start => exact iff_of_false nofun nofun
  | @step host next locals mover after hreached hstep ih =>
      have hother {other : Nat} (hne : other ≠ mover) :
          Function.update locals mover after other = locals other := Function.update_of_ne hne ..
      cases ProcessStep.numbered hstep with
      | kept hsame _ htable =>
          rw [htable, ih]
          by_cases hmover : process = mover
          · rw [hmover, Function.update_self, hsame]
          · rw [hother hmover]
      | given number hnone _ hfree hsome htable =>
          rw [htable]
          by_cases hmover : process = mover
          · rw [hmover, Function.update_self, hsome]
            by_cases hpid : pid = number
            · rw [hpid, Function.update_self]
              exact iff_of_true rfl rfl
            · rw [Function.update_of_ne hpid, ih, hnone]
              exact iff_of_false nofun fun heq ↦ hpid (Option.some.inj heq).symm
          · rw [hother hmover]
            by_cases hpid : pid = number
            · rw [hpid, Function.update_self, ← ih, hfree]
              exact iff_of_false (fun heq ↦ hmover (Option.some.inj heq).symm) nofun
            · rw [Function.update_of_ne hpid, ih]
      | taken number hsome hreaped htable =>
          rw [htable]
          by_cases hmover : process = mover
          · rw [hmover, Function.update_self, hreaped]
            refine iff_of_false (fun heq ↦ ?_) nofun
            by_cases hpid : pid = number
            · rw [hpid, Function.update_self] at heq
              cases heq
            · rw [Function.update_of_ne hpid, ih, hsome] at heq
              exact hpid (Option.some.inj heq).symm
          · rw [hother hmover]
            by_cases hpid : pid = number
            · rw [hpid, Function.update_self, ← ih, (ih number mover).mpr hsome]
              exact iff_of_false nofun fun heq ↦ hmover (Option.some.inj heq).symm
            · rw [Function.update_of_ne hpid, ih]

theorem reached_positive (h : Reached processes host locals) {process pid : Nat}
    (hpid : (locals process).pid = some pid) : 0 < pid := by
  induction h generalizing process pid with
  | start => cases hpid
  | @step host next locals mover after _ hstep ih =>
      by_cases hmover : process = mover
      · rw [hmover, Function.update_self] at hpid
        cases ProcessStep.numbered hstep with
        | kept hsame => exact ih (hsame.symm.trans hpid)
        | given _ _ hpositive _ hsome =>
            obtain rfl := Option.some.inj (hsome.symm.trans hpid)
            exact hpositive
        | taken _ _ hreaped =>
            rw [hreaped] at hpid
            cases hpid
      · rw [Function.update_of_ne hmover] at hpid
        exact ih hpid

/-- A service that can be asked is bound to the socket file. -/
theorem reached_socket (h : Reached processes host locals) {process : Nat}
    (hserves : (locals process).Serves) : host.socket = some process := by
  induction h generalizing process with
  | start => exact hserves.elim
  | @step host next locals mover after hreached hstep ih =>
      rcases ProcessStep.socket hstep with ⟨hsame, hbefore⟩ | ⟨hinside, hbound⟩
      · rw [hsame]
        by_cases hmover : process = mover
        · rw [hmover, Function.update_self] at hserves
          rw [hmover]
          exact ih (hbefore hserves)
        · rw [Function.update_of_ne hmover] at hserves
          exact ih hserves
      · by_cases hmover : process = mover
        · rw [hmover, Function.update_self] at hserves
          rw [hmover]
          exact hbound hserves
        · rw [Function.update_of_ne hmover] at hserves
          exact absurd (service_lock.exclusive hreached hserves.inside hinside) hmover

/-- A service finds the lock free when no process is behind `tryLock`, and listens two steps later,
whatever socket file was left. -/
theorem service_recovers (h : Reached processes host locals)
    (hfree : ∀ process, ¬ (locals process).Inside) {process pid : Nat} {executable : Path}
    (hstarting : locals process = .running pid executable (some .starting)) :
    ∃ next, Reached processes next
      (Function.update locals process (.running pid executable (some .listening))) ∧
        next.socket = some process := by
  have hlock : host.lock = none := (service_lock.free_iff h).mpr hfree
  have hlocks : ProcessStep process host (locals process) { host with lock := some process }
      (.running pid executable (some .locked)) := by
    rw [hstarting]
    exact .locks pid executable hlock
  have hlocked := Reached.step h hlocks
  have hlistens : ProcessStep process { host with lock := some process }
      (Function.update locals process (.running pid executable (some .locked)) process)
      { host with lock := some process, socket := some process }
      (.running pid executable (some .listening)) := by
    rw [Function.update_self]
    exact .listens pid executable .locked (.inl rfl)
  have hlistening := Reached.step hlocked hlistens
  rw [Function.update_idem] at hlistening
  exact ⟨_, hlistening, rfl⟩

/-- However the processes of a host are started, killed and interleaved: at most one of them is
behind `tryLock` in the service's `main`; a service that can be asked is bound to the socket file;
no step of another process takes the socket file from it; and when no service is behind `tryLock`, a
starting one can take the lock and listen, whatever the ones before left. -/
theorem service_instances (h : Reached processes host locals) :
    (∀ first second, (locals first).Inside → (locals second).Inside → first = second) ∧
    (∀ process, (locals process).Serves → host.socket = some process) ∧
    (∀ mover next after, ProcessStep mover host (locals mover) next after →
      ∀ process, (locals process).Serves → process ≠ mover → next.socket = some process) ∧
    ((∀ process, ¬ (locals process).Inside) → ∀ process pid executable,
      locals process = .running pid executable (some .starting) →
        ∃ next, Reached processes next
          (Function.update locals process (.running pid executable (some .listening))) ∧
            next.socket = some process) := by
  refine ⟨fun _ _ ↦ service_lock.exclusive h, fun _ ↦ reached_socket h, ?_, ?_⟩
  · intro mover next after hstep process hserves hne
    refine reached_socket (.step h hstep) ?_
    rw [Function.update_of_ne hne]
    exact hserves
  · intro hfree process pid executable
    exact service_recovers h hfree

end Reached

/-- A step of one process from a reached state. -/
theorem reached_step {host next : Host} {locals : Nat → Process} (process : Nat) {after : Process}
    (h : Reached processes host locals)
    (hstep : ProcessStep process host (locals process) next after) :
    Reached processes next (Function.update locals process after) :=
  .step h hstep

/-- The second service listens although the first one was killed and left its socket file. -/
theorem service_instances_killed : ∃ host locals next, Reached processes host locals ∧
    host.socket = some 0 ∧ locals 0 = .ended 7 ∧
    Reached processes next (Function.update locals 1 (.running 8 [] (some .listening))) ∧
    next.socket = some 1 := by
  have hfirst := reached_step 0 .start (.forks 7 [] (by decide) rfl)
  have hstarted := reached_step 0 hfirst (.executes 7 [] [] (some .starting) (.inr rfl))
  have hlocked := reached_step 0 hstarted (.locks 7 [] rfl)
  have hlistens := reached_step 0 hlocked (.listens 7 [] .locked (.inl rfl))
  have hkilled := reached_step 0 hlistens (.killed 7 [] .listening trivial)
  have hsecond := reached_step 1 hkilled (.forks 8 [] (by decide) rfl)
  have hstarting := reached_step 1 hsecond (.executes 8 [] [] (some .starting) (.inr rfl))
  obtain ⟨next, hnext, hsocket⟩ := (service_instances hstarting).2.2.2
    ((service_lock.free_iff hstarting).mp rfl) 1 8 [] rfl
  exact ⟨_, _, next, hstarting, rfl, rfl, hnext, hsocket⟩

end PrintFlow.PrinterServiceMain
