import Mathlib.Data.List.Basic

/-!
# Undo histories

A history has a present state, the states before it and the states that were undone, the nearest
first. Each is kept with a tag. Undo goes back to the state before an edit, redo forward to the
state after it; both commute with a map of the states.
-/

/-- A history of states with tags. -/
structure History (T S : Type*) where
  past : List (T × S)
  present : S
  future : List (T × S)

namespace History

variable {T S : Type*}

/-- A new state after the present one. What was undone is lost. -/
def edit (tag : T) (state : S) (h : History T S) : History T S where
  past := (tag, h.present) :: h.past
  present := state
  future := []

/-- Back to the last state before the present one. -/
def undo (h : History T S) : Option (History T S) :=
  match h.past with
  | [] => none
  | (tag, state) :: past => some ⟨past, state, (tag, h.present) :: h.future⟩

/-- Forward to the state that was undone last. -/
def redo (h : History T S) : Option (History T S) :=
  match h.future with
  | [] => none
  | (tag, state) :: future => some ⟨(tag, h.present) :: h.past, state, future⟩

/-- What functions give of the tags and the states. -/
def map {U R : Type*} (g : T → U) (f : S → R) (h : History T S) : History U R where
  past := h.past.map fun entry ↦ (g entry.1, f entry.2)
  present := f h.present
  future := h.future.map fun entry ↦ (g entry.1, f entry.2)

/-- The history with another present state. -/
def replace (state : S) (h : History T S) : History T S := { h with present := state }

variable {U R : Type*} (g : T → U) (f : S → R)

theorem map_edit (tag : T) (state : S) (h : History T S) :
    (h.edit tag state).map g f = (h.map g f).edit (g tag) (f state) := rfl

theorem map_undo (h : History T S) : (h.map g f).undo = h.undo.map (map g f) := by
  obtain ⟨past, present, future⟩ := h
  cases past <;> rfl

theorem map_redo (h : History T S) : (h.map g f).redo = h.redo.map (map g f) := by
  obtain ⟨past, present, future⟩ := h
  cases future <;> rfl

/-- Another present state that a function maps to the same value. -/
theorem map_replace {state : S} {h : History T S} (hstate : f state = f h.present) :
    (h.replace state).map g f = h.map g f := by
  rw [map, map, replace, hstate]

end History
