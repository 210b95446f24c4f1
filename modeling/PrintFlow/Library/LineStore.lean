import Mathlib.Data.List.Basic

/-!
# Lines stored by plane and row

`planes[channel][row]` is filled one line at a time, in any order and with repeats. When the line at
each position is a function of the position, the store holds that line wherever one was stored.
-/

namespace LineStore

variable {α : Type}

/-- The line of a plane at a row. -/
def find (planes : List (List α)) (channel row : Nat) : Option α := planes[channel]?.bind (·[row]?)

/-- Put a line at a row of a plane. -/
def store (planes : List (List α)) (channel row : Nat) (line : α) : List (List α) :=
  planes.modify channel (·.set row line)

/-- The lines at some positions one after the other. -/
def storeAll (line : Nat → Nat → α) (planes : List (List α)) (positions : List (Nat × Nat)) :
    List (List α) :=
  positions.foldl (fun planes (channel, row) ↦ store planes channel row (line channel row)) planes

/-- So many planes of so many rows. -/
structure Shaped (planes : List (List α)) (channels rows : Nat) : Prop where
  count : planes.length = channels
  rows : ∀ plane ∈ planes, plane.length = rows

theorem replicate_shaped (channels rows : Nat) (line : α) :
    Shaped (List.replicate channels (List.replicate rows line)) channels rows where
  count := List.length_replicate
  rows plane hplane := by rw [List.eq_of_mem_replicate hplane, List.length_replicate]

variable {planes : List (List α)} {channels rows channel row : Nat}

theorem Shaped.store (h : Shaped planes channels rows) (channel row : Nat) (line : α) :
    Shaped (store planes channel row line) channels rows where
  count := by rw [LineStore.store, List.length_modify, h.count]
  rows plane hplane := by
    obtain ⟨index, hindex, rfl⟩ := List.getElem_of_mem hplane
    simp only [LineStore.store, List.getElem_modify]
    split
    · rw [List.length_set]
      exact h.rows _ (List.getElem_mem _)
    · exact h.rows _ (List.getElem_mem _)

/-- A stored line is found at its position; every other position is as before. -/
theorem find_store (h : Shaped planes channels rows) (hchannel : channel < channels)
    (hrow : row < rows) (line : α) (otherChannel otherRow : Nat) :
    find (store planes channel row line) otherChannel otherRow =
      if (otherChannel, otherRow) = (channel, row) then some line
      else find planes otherChannel otherRow := by
  have hplanes : channel < planes.length := h.count ▸ hchannel
  have hplane : planes[channel].length = rows := h.rows _ (List.getElem_mem hplanes)
  by_cases hsame : otherChannel = channel
  · subst hsame
    rw [find, find, store, List.getElem?_modify_eq, List.getElem?_eq_getElem hplanes,
      Option.map_eq_map, Option.map_some, Option.bind_some, Option.bind_some, List.getElem?_set]
    by_cases hposition : otherRow = row
    · rw [if_pos hposition.symm, if_pos (hplane ▸ hrow), if_pos (by rw [hposition])]
    · rw [if_neg (Ne.symm hposition), if_neg (by simp [hposition])]
  · rw [find, find, store, List.getElem?_modify_ne _ _ (Ne.symm hsame), if_neg (by simp [hsame])]

/-- After storing the lines of some positions, they are found there. -/
theorem find_store_all (line : Nat → Nat → α) (h : Shaped planes channels rows)
    {positions : List (Nat × Nat)}
    (hpositions : ∀ position ∈ positions, position.1 < channels ∧ position.2 < rows) :
    find (storeAll line planes positions) channel row =
      if (channel, row) ∈ positions then some (line channel row) else find planes channel row := by
  induction positions generalizing planes with
  | nil => rw [if_neg List.not_mem_nil]; rfl
  | cons position positions ih =>
      obtain ⟨hchannel, hrow⟩ := hpositions position List.mem_cons_self
      have hrest := fun other hother ↦ hpositions other (List.mem_cons_of_mem position hother)
      rw [storeAll, List.foldl_cons, ← storeAll, ih (h.store _ _ _) hrest,
        find_store h hchannel hrow]
      by_cases hhead : (channel, row) = position
      · subst hhead
        rw [if_pos rfl, if_pos List.mem_cons_self, ite_self]
      · rw [if_neg hhead]
        simp only [List.mem_cons, hhead, false_or]

end LineStore
