import Mathlib.Data.List.Forall2

/-!
# Row filters that read what they have written

A filter replaces an inner row of an image from the row above it, itself and the two rows below it.
Run in place from top to bottom it reads the row above as already replaced and the rows below as
they were. `inPlace` is the loop over a stored image, `scan` the recursion it computes, and `push`
one step of a filter that holds at most three rows: what it has emitted, with what it holds, is
always the filtered image of the rows it was given.
-/

namespace RowScan

variable {ρ : Type*} (f : ρ → ρ → ρ → ρ → ρ)

/-- The rows below `above`, filtered from top to bottom. -/
def scan (above : ρ) : List ρ → List ρ
  | center :: below :: further :: rest =>
    f above center below further :: scan (f above center below further) (below :: further :: rest)
  | rows => rows

/-- The filtered image. The first row and the last two stay as they are. -/
def scanAll : List ρ → List ρ
  | [] => []
  | first :: rest => first :: scan f first rest

@[simp] theorem scan_length (above : ρ) (rows : List ρ) :
    (scan f above rows).length = rows.length := by
  fun_induction scan f above rows with
  | case1 above center below further rest ih => simp [ih]
  | case2 => rfl

@[simp] theorem scan_all_length (rows : List ρ) : (scanAll f rows).length = rows.length := by
  cases rows with
  | nil => rfl
  | cons first rest => simp [scanAll]

/-- What the filter does to a row it does to every row of the image. -/
theorem scan_all_forall₂ {R : ρ → ρ → Prop} (hsame : ∀ row, R row row)
    (hfilter : ∀ above center below further, R center (f above center below further))
    (rows : List ρ) : List.Forall₂ R rows (scanAll f rows) := by
  have hscan : ∀ above rows, List.Forall₂ R rows (scan f above rows) := by
    intro above rows
    fun_induction scan f above rows with
    | case1 above center below further rest ih => exact .cons (hfilter ..) ih
    | case2 above rows => exact List.forall₂_same.mpr fun row _ ↦ hsame row
  cases rows with
  | nil => exact .nil
  | cons first rest => exact .cons (hsame first) (hscan first rest)

/-! ## In place -/

section InPlace

variable [Inhabited ρ]

/-- Replace row `y` of a stored image. -/
def replaceRow (rows : List ρ) (y : Nat) : List ρ :=
  rows.set y (f rows[y - 1]! rows[y]! rows[y + 1]! rows[y + 2]!)

/-- Writing a row changes that row only. -/
theorem get_set {rows : List ρ} {y : Nat} (hy : y < rows.length) (row : ρ) (i : Nat) :
    (rows.set y row)[i]! = if y = i then row else rows[i]! := by
  rw [List.getElem!_eq_getElem?_getD, List.getElem!_eq_getElem?_getD, List.getElem?_set, if_pos hy]
  split <;> rfl

/-- The loop over the inner rows of a stored image. -/
def inPlace (rows : List ρ) : List ρ :=
  (List.range' 1 (rows.length - 3)).foldl (replaceRow f) rows

/-- Replacing a row reads the row above it as the loop left it. -/
theorem replace_row_append (done : List ρ) (above center below further : ρ) (rest : List ρ) :
    replaceRow f (done ++ above :: center :: below :: further :: rest) (done.length + 1) =
      done ++ above :: f above center below further :: below :: further :: rest := by
  simp [replaceRow, Nat.add_assoc]

/-- The loop from a row on is the scan from that row on. -/
theorem foldl_replace_row (done : List ρ) (above : ρ) (rows : List ρ) :
    (List.range' (done.length + 1) (rows.length - 2)).foldl (replaceRow f) (done ++ above :: rows) =
      done ++ above :: scan f above rows := by
  fun_induction scan f above rows generalizing done with
  | case1 above center below further rest ih =>
      have hnext := ih (done ++ [above])
      simp only [List.length_append, List.length_cons, List.length_nil, List.append_assoc,
        List.cons_append, List.nil_append, Nat.zero_add] at hnext
      rw [show (center :: below :: further :: rest).length - 2 = rest.length + 1 from rfl,
        List.range'_succ, List.foldl_cons, replace_row_append]
      exact hnext
  | case2 above rows hshort =>
      have hlen : rows.length - 2 = 0 := by
        match rows, hshort with
        | [], _ => rfl
        | [_], _ => rfl
        | [_, _], _ => rfl
        | center :: below :: further :: rest, hshort => exact (hshort center below further rest rfl).elim
      rw [hlen]
      rfl

/-- The loop in place computes the filtered image. -/
theorem in_place_eq_scan_all (rows : List ρ) : inPlace f rows = scanAll f rows := by
  cases rows with
  | nil => rfl
  | cons first rest => exact foldl_replace_row f [] first rest

end InPlace

/-! ## Row by row -/

/-- Take one more row: the row that leaves, if one does, and the rows held from now on. -/
def push (held : List ρ) (row : ρ) : List ρ × List ρ :=
  match held with
  | [above, center, below] => ([above], [f above center below row, below, row])
  | held => ([], held ++ [row])

/-- One more row changes only the last row but one of those below the first. -/
theorem scan_snoc {above b c : ρ} {rows done : List ρ} (row : ρ)
    (h : scan f above rows = done ++ [b, c]) :
    scan f above (rows ++ [row]) = done ++ [f ((above :: done).getLast (by simp)) b c row, c, row] := by
  -- Only the last two windows see the new row, and they are at the end of the scan.
  fun_induction scan f above rows generalizing done with
  | case1 above center below further rest ih =>
      cases done with
      | nil =>
          have hlen := congrArg List.length h
          simp at hlen
      | cons head done =>
          obtain ⟨rfl, htail⟩ := List.cons.inj h
          exact congrArg (f above center below further :: ·) (ih htail)
  | case2 above rows hshort =>
      match rows, hshort, h with
      | [center, below], _, h =>
          obtain ⟨rfl, rfl, rfl⟩ : [] = done ∧ center = b ∧ below = c := by
            match done, h with
            | [], h => simpa using h
            | [_], h => simp at h
            | _ :: _ :: _, h => simp at h
          rfl
      | [], _, h => simp at h
      | [_], _, h =>
          have hlen := congrArg List.length h
          simp at hlen
      | center :: below :: further :: rest, hshort, _ =>
          exact (hshort center below further rest rfl).elim

/-- One more row changes only the last row but one of the filtered image. -/
theorem scan_all_snoc {a b c : ρ} {rows done : List ρ} (row : ρ)
    (h : scanAll f rows = done ++ [a, b, c]) :
    scanAll f (rows ++ [row]) = done ++ [a, f a b c row, c, row] := by
  cases rows with
  | nil => simp [scanAll] at h
  | cons first rest =>
      cases done with
      | nil =>
          obtain ⟨rfl, htail⟩ := List.cons.inj h
          have hsplit : scan f first rest = [] ++ [b, c] := htail
          have hnext := scan_snoc f row hsplit
          exact congrArg (first :: ·) hnext
      | cons head done =>
          obtain ⟨rfl, htail⟩ := List.cons.inj h
          have hsplit : scan f first rest = (done ++ [a]) ++ [b, c] := by
            rw [htail, List.append_assoc]
            rfl
          have hnext := scan_snoc f row hsplit
          rw [List.cons_append, scanAll, hnext, List.getLast_cons (by simp)]
          simp

/-- Fewer than four rows are not filtered. -/
theorem scan_all_short {rows : List ρ} (h : rows.length ≤ 3) : scanAll f rows = rows := by
  match rows, h with
  | [], _ => rfl
  | [_], _ => rfl
  | [_, _], _ => rfl
  | [_, _, _], _ => rfl

/-- A window that is not full takes the row. -/
theorem push_of_not_full {held : List ρ} (h : held.length ≠ 3) (row : ρ) :
    push f held row = ([], held ++ [row]) := by
  match held, h with
  | [], _ => rfl
  | [_], _ => rfl
  | [_, _], _ => rfl
  | [_, _, _], h => exact (h rfl).elim
  | _ :: _ :: _ :: _ :: _, _ => rfl

/-- What was emitted and what is held make up the filtered image of the rows so far. -/
structure Holds (rows emitted held : List ρ) : Prop where
  image : emitted ++ held = scanAll f rows
  held_length : held.length = min 3 rows.length

theorem Holds.nil : Holds f [] [] [] := ⟨rfl, rfl⟩

/-- Taking a row keeps the invariant. -/
theorem Holds.push {rows emitted held : List ρ} (h : Holds f rows emitted held) (row : ρ) :
    Holds f (rows ++ [row]) (emitted ++ (push f held row).1) (push f held row).2 := by
  obtain ⟨himage, hlength⟩ := h
  by_cases hfull : held.length = 3
  · obtain ⟨a, b, c, rfl⟩ := List.length_eq_three.mp hfull
    refine ⟨?_, ?_⟩
    · rw [scan_all_snoc f row himage.symm, RowScan.push]
      simp
    · simp only [RowScan.push, List.length_append, List.length_cons, List.length_nil] at hlength ⊢
      omega
  · have hpush := push_of_not_full f hfull row
    have hrows : rows.length < 3 := by omega
    have hemitted : emitted = [] := by
      have hlen := congrArg List.length himage
      simp only [List.length_append, scan_all_length] at hlen
      exact List.length_eq_zero_iff.mp (by omega)
    rw [hpush, hemitted]
    rw [hemitted, scan_all_short f (by omega)] at himage
    refine ⟨?_, ?_⟩
    · rw [scan_all_short f (by simp; omega), ← himage]
      simp
    · simp only [List.length_append, List.length_cons, List.length_nil]
      omega

/-- What was emitted is never changed by the rows that follow. -/
theorem Holds.emitted_prefix {rows emitted held : List ρ} (h : Holds f rows emitted held)
    (more : List ρ) : emitted <+: scanAll f (rows ++ more) := by
  induction more generalizing rows emitted held with
  | nil =>
      rw [List.append_nil, ← h.image]
      exact List.prefix_append emitted held
  | cons row more ih =>
      have hnext := ih (h.push f row)
      rw [List.append_assoc] at hnext
      exact (List.prefix_append _ _).trans hnext

end RowScan
