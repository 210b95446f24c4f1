import Mathlib.Logic.Function.Basic

/-!
# Threads that share a state

Threads take turns, in any order, at steps that change the state they share and their own. `Reached`
is said of the states of all such runs. A lock is a part of the shared state that names the thread
inside. Under `Locking` no two threads are inside together, and `Guarding.reached` is the rule for
what the lock protects: one property holds whenever nobody is inside, another one is kept by the
thread inside while it works.
-/

namespace Threads

variable {Thread Shared Local : Type}

/-- Threads, by the steps of each. -/
structure System (Thread Shared Local : Type) where
  start : Shared
  idle : Local
  step : Thread → Shared → Local → Shared → Local → Prop

variable [DecidableEq Thread]

/-- The states of the runs of some threads. -/
inductive Reached (system : System Thread Shared Local) : Shared → (Thread → Local) → Prop
  | start : Reached system system.start fun _ ↦ system.idle
  | step {shared next : Shared} {locals : Thread → Local} {thread : Thread} {after : Local} :
      Reached system shared locals → system.step thread shared (locals thread) next after →
        Reached system next (Function.update locals thread after)

variable {system : System Thread Shared Local} {holder : Shared → Option Thread}
  {inside : Local → Prop}

/-- What a step does to a lock: it takes the lock, gives it back or leaves it alone. -/
inductive Handover (holder : Shared → Option Thread) (inside : Local → Prop) (thread : Thread)
    (shared : Shared) (before : Local) (next : Shared) (after : Local) : Prop
  | takes (hfree : holder shared = none) (hbefore : ¬ inside before) (hafter : inside after)
      (hheld : holder next = some thread)
  | returns (hbefore : inside before) (hafter : ¬ inside after) (hfree : holder next = none)
  | keeps (hsame : inside after ↔ inside before) (hheld : holder next = holder shared)

/-- The shared state names the thread that is inside. -/
structure Locking (system : System Thread Shared Local) (holder : Shared → Option Thread)
    (inside : Local → Prop) : Prop where
  free : holder system.start = none
  outside : ¬ inside system.idle
  step {thread : Thread} {shared next : Shared} {before after : Local} :
    system.step thread shared before next after →
      Handover holder inside thread shared before next after

namespace Locking

variable {shared : Shared} {locals : Thread → Local}

/-- In every reached state the lock is held by the thread inside, and free when there is none. -/
theorem inside_iff (h : Locking system holder inside) (hreached : Reached system shared locals)
    (thread : Thread) : inside (locals thread) ↔ holder shared = some thread := by
  induction hreached generalizing thread with
  | start =>
      rw [h.free]
      exact iff_of_false h.outside nofun
  | @step shared next locals mover after _ hstep ih =>
      by_cases hmover : thread = mover
      · subst hmover
        rw [Function.update_self]
        cases h.step hstep with
        | takes _ _ hafter hheld => exact iff_of_true hafter hheld
        | returns _ hafter hfree => exact iff_of_false hafter (by simp [hfree])
        | keeps hsame hheld => rw [hsame, hheld, ih]
      · rw [Function.update_of_ne hmover]
        cases h.step hstep with
        | takes hfree _ _ hheld =>
            rw [ih, hfree, hheld]
            exact iff_of_false nofun fun hsame ↦ hmover (Option.some.inj hsame).symm
        | returns hbefore _ hfree =>
            rw [ih, (ih mover).mp hbefore, hfree]
            exact iff_of_false (fun hsame ↦ hmover (Option.some.inj hsame).symm) nofun
        | keeps _ hheld => rw [hheld, ih]

/-- No two threads are inside. -/
theorem exclusive (h : Locking system holder inside) (hreached : Reached system shared locals)
    {first second : Thread} (hfirst : inside (locals first)) (hsecond : inside (locals second)) :
    first = second :=
  Option.some.inj
    (((h.inside_iff hreached first).mp hfirst).symm.trans
      ((h.inside_iff hreached second).mp hsecond))

/-- Nobody is inside exactly when the lock is free. -/
theorem free_iff (h : Locking system holder inside) (hreached : Reached system shared locals) :
    holder shared = none ↔ ∀ thread, ¬ inside (locals thread) := by
  simp only [h.inside_iff hreached, Option.eq_none_iff_forall_ne_some, ne_eq]

end Locking

/-- What a lock protects: `rest` of the shared state while nobody is inside, and `within` of it and
of each thread. -/
structure Guarding (system : System Thread Shared Local) (inside : Local → Prop)
    (rest : Shared → Prop) (within : Shared → Local → Prop) : Prop where
  start : rest system.start
  idle : within system.start system.idle
  enters {thread : Thread} {shared next : Shared} {before after : Local} :
    system.step thread shared before next after → ¬ inside before → inside after →
      rest shared → within shared before → within next after
  works {thread : Thread} {shared next : Shared} {before after : Local} :
    system.step thread shared before next after → inside before → inside after →
      within shared before → within next after
  leaves {thread : Thread} {shared next : Shared} {before after : Local} :
    system.step thread shared before next after → inside before → ¬ inside after →
      within shared before → rest next ∧ within next after
  passes {thread : Thread} {shared next : Shared} {before after : Local} :
    system.step thread shared before next after → ¬ inside before → ¬ inside after →
      (rest shared → rest next) ∧ (within shared before → within next after)
  frame {thread : Thread} {shared next : Shared} {before after other : Local} :
    system.step thread shared before next after → (inside before ∨ inside after → ¬ inside other) →
      within shared other → within next other

/-- In every reached state the lock protects it. -/
theorem Guarding.reached {rest : Shared → Prop} {within : Shared → Local → Prop}
    (h : Guarding system inside rest within) (hlock : Locking system holder inside)
    {shared : Shared} {locals : Thread → Local} (hreached : Reached system shared locals) :
    (holder shared = none → rest shared) ∧ ∀ thread, within shared (locals thread) := by
  induction hreached with
  | start => exact ⟨fun _ ↦ h.start, fun _ ↦ h.idle⟩
  | @step shared next locals mover after hreached hstep ih =>
      have hbefore := hlock.inside_iff hreached mover
      have hnext := hlock.inside_iff (.step hreached hstep)
      have hafter := hnext mover
      rw [Function.update_self] at hafter
      have hmover : (holder next = none → rest next) ∧ within next after := by
        by_cases hin : inside after
        · refine ⟨fun hfree ↦ by simp [hafter.mp hin] at hfree, ?_⟩
          by_cases hwas : inside (locals mover)
          · exact h.works hstep hwas hin (ih.2 mover)
          · cases hlock.step hstep with
            | takes hfree => exact h.enters hstep hwas hin (ih.1 hfree) (ih.2 mover)
            | returns hwas' => exact absurd hwas' hwas
            | keeps hsame => exact absurd (hsame.mp hin) hwas
        · by_cases hwas : inside (locals mover)
          · exact ⟨fun _ ↦ (h.leaves hstep hwas hin (ih.2 mover)).1,
              (h.leaves hstep hwas hin (ih.2 mover)).2⟩
          · obtain ⟨hrest, hwithin⟩ := h.passes hstep hwas hin
            refine ⟨fun hfree ↦ hrest (ih.1 ?_), hwithin (ih.2 mover)⟩
            cases hlock.step hstep with
            | takes _ _ hnow => exact absurd hnow hin
            | returns hwas' => exact absurd hwas' hwas
            | keeps _ hheld => exact hheld ▸ hfree
      refine ⟨hmover.1, fun thread ↦ ?_⟩
      by_cases hsame : thread = mover
      · subst hsame
        rw [Function.update_self]
        exact hmover.2
      · rw [Function.update_of_ne hsame]
        refine h.frame hstep (fun hinside hother ↦ hsame ?_) (ih.2 thread)
        rcases hinside with hwas | hin
        · exact hlock.exclusive hreached hother hwas
        · have hupdated := hnext thread
          rw [Function.update_of_ne hsame] at hupdated
          exact Option.some.inj ((hupdated.mp hother).symm.trans (hafter.mp hin))

end Threads
