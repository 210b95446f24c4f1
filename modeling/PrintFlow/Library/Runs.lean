import Mathlib.Data.List.Basic

/-!
# Runs of a deterministic machine

A machine is a step function over a list of actions. `Along` says that every step of a run meets a
condition on the state it starts from; an invariant that such steps preserve holds at the end of
the run, and a run that is not along a condition has a first step that breaks it.
-/

namespace Runs

variable {State Action : Type*} {step : State → Action → State}
  {guard : State → Action → Prop} {s : State} {actions : List Action}

/-- The state after the actions. -/
def run (step : State → Action → State) (s : State) (actions : List Action) : State :=
  actions.foldl step s

/-- Every step of the run meets the condition. -/
def Along (step : State → Action → State) (guard : State → Action → Prop) :
    State → List Action → Prop
  | _, [] => True
  | s, action :: rest => guard s action ∧ Along step guard (step s action) rest

instance Along.decidable [∀ s action, Decidable (guard s action)] :
    ∀ s actions, Decidable (Along step guard s actions)
  | _, [] => isTrue trivial
  | s, action :: rest =>
    have := Along.decidable (step s action) rest
    inferInstanceAs (Decidable (guard s action ∧ _))

@[simp] theorem run_nil : run step s [] = s := rfl

@[simp] theorem run_cons (action : Action) :
    run step s (action :: actions) = run step (step s action) actions := rfl

theorem run_append (first second : List Action) :
    run step s (first ++ second) = run step (run step s first) second :=
  List.foldl_append

/-- What every step that meets the condition preserves holds at the end of the run. -/
theorem invariant {Inv : State → Prop}
    (hstep : ∀ s action, guard s action → Inv s → Inv (step s action))
    (halong : Along step guard s actions) (hinit : Inv s) : Inv (run step s actions) := by
  induction actions generalizing s with
  | nil => exact hinit
  | cons action actions ih => exact ih halong.2 (hstep s action halong.1 hinit)

/-- What every step preserves holds at the end of the run. -/
theorem invariant_of_step {Inv : State → Prop}
    (hstep : ∀ s action, Inv s → Inv (step s action)) (hinit : Inv s) :
    Inv (run step s actions) := by
  induction actions generalizing s with
  | nil => exact hinit
  | cons action actions ih => exact ih (hstep s action hinit)

/-- A run is along a condition exactly when each of its steps, from the state before it, is. -/
theorem along_iff :
    Along step guard s actions ↔
      ∀ before action after, actions = before ++ action :: after →
        guard (run step s before) action := by
  induction actions generalizing s with
  | nil => simp [Along]
  | cons first rest ih =>
      rw [Along, ih]
      constructor
      · intro ⟨hfirst, hrest⟩ before action after hsplit
        cases before with
        | nil =>
            obtain ⟨rfl, -⟩ := List.cons.inj hsplit
            exact hfirst
        | cons head before =>
            obtain ⟨rfl, htail⟩ := List.cons.inj hsplit
            exact hrest before action after htail
      · intro h
        refine ⟨h [] first rest rfl, ?_⟩
        intro before action after hsplit
        exact h (first :: before) action after (by rw [hsplit]; rfl)

/-- A run along a condition is along it up to every point. -/
theorem Along.before {before after : List Action} (h : Along step guard s (before ++ after)) :
    Along step guard s before := by
  refine along_iff.mpr ?_
  intro first action rest hsplit
  exact along_iff.mp h first action (rest ++ after) (by rw [hsplit, List.append_assoc]; rfl)

/-- Conditions that are the same while an invariant holds are met by the same runs. -/
theorem along_congr {Inv : State → Prop} {other : State → Action → Prop}
    (hstep : ∀ s action, Inv s → Inv (step s action))
    (hguard : ∀ s action, Inv s → (guard s action ↔ other s action)) (hinit : Inv s) :
    Along step guard s actions ↔ Along step other s actions := by
  induction actions generalizing s with
  | nil => exact Iff.rfl
  | cons action actions ih => exact and_congr (hguard s action hinit) (ih (hstep s action hinit))

/-- A run that is not along a condition has a first step that breaks it. -/
theorem first_break (h : ¬ Along step guard s actions) :
    ∃ before action after, actions = before ++ action :: after ∧
      Along step guard s before ∧ ¬ guard (run step s before) action := by
  induction actions generalizing s with
  | nil => exact absurd trivial h
  | cons first rest ih =>
      by_cases hfirst : guard s first
      · obtain ⟨before, action, after, rfl, halong, hbreak⟩ :=
          ih fun hrest ↦ h ⟨hfirst, hrest⟩
        exact ⟨first :: before, action, after, rfl, ⟨hfirst, halong⟩, hbreak⟩
      · exact ⟨[], first, rest, rfl, trivial, hfirst⟩

end Runs
