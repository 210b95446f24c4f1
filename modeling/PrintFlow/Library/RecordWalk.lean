import Mathlib.Logic.Basic

/-!
# Records one behind the other

A region holds records that say themselves where the next one begins. A search goes from one record
to the next until it meets one that it picks. `Finds` says which record that is: a record that fits
into the region and is reached over records that fit and are not picked. There is at most one.
-/

namespace RecordWalk

/-- What can be read at a place, and where the next record begins. -/
structure Layout (Record : Type) where
  read : Nat → Option Record
  next : Nat → Record → Nat

variable {Record : Type}

/-- Going from one place to another over records that end before `stop` and are not picked. -/
inductive Walk (layout : Layout Record) (stop : Nat) (pick : Nat → Record → Prop) :
    Nat → Nat → Prop where
  | here (start : Nat) : Walk layout stop pick start start
  | step {start last : Nat} {record : Record} (hread : layout.read start = some record)
      (hfits : layout.next start record ≤ stop) (hskip : ¬ pick start record)
      (hwalk : Walk layout stop pick (layout.next start record) last) :
      Walk layout stop pick start last

/-- The record that a search from a place finds. -/
structure Finds (layout : Layout Record) (stop : Nat) (pick : Nat → Record → Prop)
    (start last : Nat) (record : Record) : Prop where
  walk : Walk layout stop pick start last
  read : layout.read last = some record
  fits : layout.next last record ≤ stop
  picked : pick last record

variable {layout : Layout Record} {stop : Nat} {pick : Nat → Record → Prop} {start last : Nat}
  {record : Record}

/-- A search that is over at once. -/
theorem Finds.here (hread : layout.read start = some record)
    (hfits : layout.next start record ≤ stop) (hpick : pick start record) :
    Finds layout stop pick start start record :=
  ⟨.here start, hread, hfits, hpick⟩

/-- A search that goes on behind a record. -/
theorem Finds.step {found : Record} (hread : layout.read start = some record)
    (hfits : layout.next start record ≤ stop) (hskip : ¬ pick start record)
    (h : Finds layout stop pick (layout.next start record) last found) :
    Finds layout stop pick start last found :=
  ⟨.step hread hfits hskip h.walk, h.read, h.fits, h.picked⟩

/-- The first record of a search fits into the region, and is found or skipped. -/
theorem Finds.cases {found : Record} (h : Finds layout stop pick start last found) :
    ∃ record, layout.read start = some record ∧ layout.next start record ≤ stop ∧
      (pick start record ∧ start = last ∧ record = found ∨
        ¬ pick start record ∧ Finds layout stop pick (layout.next start record) last found) := by
  obtain ⟨hwalk, hread, hfits, hpicked⟩ := h
  cases hwalk with
  | here => exact ⟨found, hread, hfits, .inl ⟨hpicked, rfl, rfl⟩⟩
  | step hfirst hnext hskip hrest =>
      exact ⟨_, hfirst, hnext, .inr ⟨hskip, hrest, hread, hfits, hpicked⟩⟩

/-- A search that skips its first record finds what the search behind that record finds. -/
theorem Finds.behind {found : Record} (hread : layout.read start = some record)
    (hskip : ¬ pick start record) (h : Finds layout stop pick start last found) :
    Finds layout stop pick (layout.next start record) last found := by
  obtain ⟨first, hfirst, -, hcases⟩ := h.cases
  obtain rfl := Option.some.inj (hread.symm.trans hfirst)
  rcases hcases with ⟨hpick, -, -⟩ | ⟨-, hrest⟩
  · exact absurd hpick hskip
  · exact hrest

/-- A search finds one record at most. -/
theorem Finds.unique {other : Nat} {found : Record} (h : Finds layout stop pick start last record)
    (h' : Finds layout stop pick start other found) : last = other ∧ record = found := by
  obtain ⟨hwalk, hread, hfits, hpicked⟩ := h
  induction hwalk with
  | here start =>
      obtain ⟨first, hfirst, -, hcases⟩ := h'.cases
      obtain rfl := Option.some.inj (hread.symm.trans hfirst)
      rcases hcases with ⟨-, hplace, hrecord⟩ | ⟨hskip, -⟩
      · exact ⟨hplace, hrecord⟩
      · exact absurd hpicked hskip
  | step hfirst _ hskip _ ih => exact ih (h'.behind hfirst hskip) hread hfits hpicked

/-- Where every record ends behind its beginning, a search goes forward. -/
theorem Walk.le (hforward : ∀ place record, place ≤ layout.next place record)
    (h : Walk layout stop pick start last) : start ≤ last := by
  induction h with
  | here start => exact Nat.le_refl start
  | step _ _ _ _ ih => exact Nat.le_trans (hforward _ _) ih

/-- Where each record ends one place behind its beginning, a walk leads over every place between. -/
theorem Walk.of_each (hnext : ∀ place record, layout.next place record = place + 1)
    (hlast : last ≤ stop) (hstart : start ≤ last)
    (heach : ∀ place, start ≤ place → place < last →
      ∃ record, layout.read place = some record ∧ ¬ pick place record) :
    Walk layout stop pick start last := by
  induction hcount : last - start generalizing start with
  | zero =>
      obtain rfl : start = last := Nat.le_antisymm hstart (Nat.sub_eq_zero_iff_le.mp hcount)
      exact .here start
  | succ count ih =>
      have hlt : start < last := Nat.lt_of_sub_eq_succ hcount
      obtain ⟨record, hread, hskip⟩ := heach start (Nat.le_refl start) hlt
      have hbehind : layout.next start record = start + 1 := hnext start record
      refine .step hread (hbehind ▸ Nat.le_trans hlt hlast) hskip ?_
      rw [hbehind]
      exact ih hlt (fun place hle ↦ heach place (Nat.le_of_succ_le hle))
        (by rw [Nat.sub_succ, hcount, Nat.pred_succ])

/-- Two layouts that agree on the places of a kind, which no record leads out of, have the same
searches from there. -/
theorem Finds.congr {other : Layout Record} {kind : Nat → Prop} (hread : layout.read = other.read)
    (hnext : ∀ place record, kind place → layout.next place record = other.next place record)
    (hkind : ∀ place record, kind place → kind (layout.next place record)) (hstart : kind start)
    (h : Finds layout stop pick start last record) :
    Finds other stop pick start last record ∧ kind last := by
  obtain ⟨hwalk, hlast, hfits, hpicked⟩ := h
  induction hwalk with
  | here start => exact ⟨.here (hread ▸ hlast) (hnext start record hstart ▸ hfits) hpicked, hstart⟩
  | step hfirst hbelow hskip _ ih =>
      obtain ⟨hrest, hend⟩ := ih (hkind _ _ hstart) hlast hfits hpicked
      rw [hnext _ _ hstart] at hbelow hrest
      exact ⟨.step (hread ▸ hfirst) hbelow hskip hrest, hend⟩

end RecordWalk
