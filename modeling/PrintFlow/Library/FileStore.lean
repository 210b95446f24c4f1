import Mathlib.Data.List.Basic
import Mathlib.Logic.Function.Basic

/-!
# Files as byte strings

The contents of one file under positioned reads and writes, and a store of files by path. A write
may fail after having stored a prefix of its data; renaming fails when the source is missing or
the target exists. The lemmas say what a positioned write changes and what it leaves alone.
-/

namespace FileStore

/-! ## Contents of one file -/

/-- The contents after writing `data` at `offset`. A gap before the offset is filled with zeros. -/
def overwrite (content : List UInt8) (offset : Nat) (data : List UInt8) : List UInt8 :=
  (content ++ List.replicate (offset - content.length) 0).take offset ++
    (data ++ content.drop (offset + data.length))

/-- At most `count` bytes of the contents from `offset` on. -/
def readAt (content : List UInt8) (offset count : Nat) : List UInt8 :=
  (content.drop offset).take count

/-- The contents cut or zero-extended to `size` bytes. -/
def resize (content : List UInt8) (size : Nat) : List UInt8 :=
  content.take size ++ List.replicate (size - content.length) 0

/-- A resized file has the requested size. -/
@[simp] theorem resize_length (content : List UInt8) (size : Nat) :
    (resize content size).length = size := by
  simp only [resize, List.length_append, List.length_take, List.length_replicate]
  omega

/-- A write inside the file splits it into the part before, the data and the part after. -/
theorem overwrite_inside {content data : List UInt8} {offset : Nat}
    (h : offset ≤ content.length) :
    overwrite content offset data =
      content.take offset ++ (data ++ content.drop (offset + data.length)) := by
  rw [overwrite, Nat.sub_eq_zero_of_le h, List.replicate_zero, List.append_nil]

/-- A write inside the file keeps its length. -/
theorem overwrite_length {content data : List UInt8} {offset : Nat}
    (h : offset + data.length ≤ content.length) :
    (overwrite content offset data).length = content.length := by
  rw [overwrite_inside (by omega)]
  simp only [List.length_append, List.length_take, List.length_drop]
  omega

/-- A read inside the file returns as many bytes as requested. -/
theorem read_at_length {content : List UInt8} {offset count : Nat}
    (h : offset + count ≤ content.length) : (readAt content offset count).length = count := by
  simp only [readAt, List.length_take, List.length_drop]
  omega

/-- Reading back exactly what was written. -/
theorem read_at_overwrite_same {content data : List UInt8} {offset : Nat}
    (h : offset ≤ content.length) :
    readAt (overwrite content offset data) offset data.length = data := by
  have htake : (content.take offset).length = offset := List.length_take_of_le h
  rw [overwrite_inside h, readAt, List.drop_append, htake, Nat.sub_self, List.drop_zero,
    List.drop_of_length_le (by omega), List.nil_append, List.take_left]

/-- A read that ends before the written range sees the old contents. -/
theorem read_at_overwrite_before {content data : List UInt8} {offset start count : Nat}
    (h : offset ≤ content.length) (hbefore : start + count ≤ offset) :
    readAt (overwrite content offset data) start count = readAt content start count := by
  have htake : (content.take offset).length = offset := List.length_take_of_le h
  rw [overwrite_inside h, readAt, List.drop_append_of_le_length (by omega),
    List.take_append_of_le_length (by rw [List.length_drop]; omega), readAt, List.drop_take,
    List.take_take, Nat.min_eq_left (by omega)]

/-- A read that starts after the written range sees the old contents. -/
theorem read_at_overwrite_after {content data : List UInt8} {offset start count : Nat}
    (h : offset ≤ content.length) (hafter : offset + data.length ≤ start) :
    readAt (overwrite content offset data) start count = readAt content start count := by
  have htake : (content.take offset).length = offset := List.length_take_of_le h
  have hdrop : (overwrite content offset data).drop start = content.drop start := by
    rw [overwrite_inside h, List.drop_append, List.drop_of_length_le (by omega), List.nil_append,
      List.drop_append, List.drop_of_length_le (by omega), List.nil_append, List.drop_drop, htake]
    congr 1
    omega
  rw [readAt, readAt, hdrop]

/-- A read splits at any point. -/
theorem read_at_add (content : List UInt8) (offset first second : Nat) :
    readAt content offset (first + second) =
      readAt content offset first ++ readAt content (offset + first) second := by
  rw [readAt, readAt, readAt, List.take_add, List.drop_drop]

/-! ## Tables of cells of equal size -/

/-- Cell `index` of a table of cells of `size` bytes that starts at `base`. -/
def cell (content : List UInt8) (base size index : Nat) : List UInt8 :=
  readAt content (base + index * size) size

/-- A cell reads back what was written to it. -/
theorem cell_overwrite_same {content data : List UInt8} {base size index : Nat}
    (h : base + index * size ≤ content.length) (hdata : data.length = size) :
    cell (overwrite content (base + index * size) data) base size index = data := by
  subst hdata
  exact read_at_overwrite_same h

/-- Writing at most one cell leaves every other cell alone. -/
theorem cell_overwrite_other {content data : List UInt8} {base size index other : Nat}
    (h : base + index * size ≤ content.length) (hdata : data.length ≤ size)
    (hother : other ≠ index) :
    cell (overwrite content (base + index * size) data) base size other =
      cell content base size other := by
  rcases Nat.lt_or_gt_of_ne hother with hlt | hgt
  · have hle : (other + 1) * size ≤ index * size := Nat.mul_le_mul_right size hlt
    rw [Nat.succ_mul] at hle
    exact read_at_overwrite_before h (by omega)
  · have hle : (index + 1) * size ≤ other * size := Nat.mul_le_mul_right size hgt
    rw [Nat.succ_mul] at hle
    exact read_at_overwrite_after h (by omega)

/-- A write before the table leaves its cells alone. -/
theorem cell_overwrite_before {content data : List UInt8} {base size index offset : Nat}
    (h : offset ≤ content.length) (hbefore : offset + data.length ≤ base) :
    cell (overwrite content offset data) base size index = cell content base size index :=
  read_at_overwrite_after h (by omega)

/-- The bytes of a table are its cells in order. -/
theorem read_at_cells (content : List UInt8) (base size count : Nat) :
    readAt content base (count * size) = (List.range count).flatMap (cell content base size) := by
  induction count with
  | zero => simp [readAt]
  | succ count ih =>
      rw [Nat.succ_mul, read_at_add, ih, List.range_succ, List.flatMap_append,
        List.flatMap_singleton, cell]

/-- The length of pieces of equal size put together. -/
theorem flatten_length {pieces : List (List UInt8)} {size : Nat}
    (h : ∀ piece ∈ pieces, piece.length = size) : pieces.flatten.length = pieces.length * size := by
  induction pieces with
  | nil => simp
  | cons piece pieces ih =>
      rw [List.flatten_cons, List.length_append, h piece List.mem_cons_self, List.length_cons,
        ih fun other hother ↦ h other (List.mem_cons_of_mem piece hother), Nat.succ_mul]
      omega

/-- A piece is found at its place among pieces of equal size. -/
theorem read_at_flatten {pieces : List (List UInt8)} {size index : Nat} {piece : List UInt8}
    (h : ∀ piece ∈ pieces, piece.length = size) (hpiece : pieces[index]? = some piece) :
    readAt pieces.flatten (index * size) size = piece := by
  induction pieces generalizing index with
  | nil => exact absurd hpiece (by simp)
  | cons first pieces ih =>
      have hfirst := h first List.mem_cons_self
      rw [List.flatten_cons, readAt]
      cases index with
      | zero =>
          obtain rfl := Option.some.inj hpiece
          rw [Nat.zero_mul, List.drop_zero, List.take_left' hfirst]
      | succ index =>
          rw [Nat.succ_mul, Nat.add_comm, ← List.drop_drop, List.drop_left' hfirst]
          exact ih (fun other hother ↦ h other (List.mem_cons_of_mem first hother)) hpiece

/-! ## Files by path -/

/-- The outcome of a write: all bytes stored, or a failure that stored a prefix of them. -/
inductive Io where
  | done
  | failed (stored : Nat)
  deriving DecidableEq, Repr

/-- The bytes of `data` that a write with this outcome stores. -/
def Io.stored (io : Io) (data : List UInt8) : List UInt8 :=
  match io with
  | .done => data
  | .failed stored => data.take stored

/-- Whether the write reported success. -/
def Io.ok : Io → Bool
  | .done => true
  | .failed _ => false

/-- A write stores at most its data. -/
theorem Io.stored_length_le (io : Io) (data : List UInt8) :
    (io.stored data).length ≤ data.length := by
  cases io with
  | done => exact Nat.le_refl _
  | failed stored => exact List.length_take_le' ..

/-- A write that reports success stored its data. -/
theorem Io.stored_of_ok {io : Io} (h : io.ok = true) (data : List UInt8) :
    io.stored data = data := by
  cases io with
  | done => rfl
  | failed stored => exact absurd h (by simp [Io.ok])

/-- The regular files, by path. -/
abbrev Store (Path : Type) := Path → Option (List UInt8)

variable {Path : Type} [DecidableEq Path]

/-- Give `path` the contents `content`. -/
def Store.set (files : Store Path) (path : Path) (content : List UInt8) : Store Path :=
  Function.update files path (some content)

/-- Change the contents of the file at `path`, if there is one. -/
def Store.modify (files : Store Path) (path : Path) (change : List UInt8 → List UInt8) : Store Path :=
  match files path with
  | some content => files.set path (change content)
  | none => files

/-- Remove the file at `path`, if there is one. -/
def Store.remove (files : Store Path) (path : Path) : Store Path :=
  Function.update files path none

/-- Whether there is a file at `path`. -/
def Store.exists (files : Store Path) (path : Path) : Bool := (files path).isSome

/-- Move a file to a path where no file is. -/
def Store.rename (files : Store Path) (source target : Path) : Option (Store Path) :=
  match files source, files target with
  | some content, none => some ((files.remove source).set target content)
  | _, _ => none

@[simp] theorem Store.set_same (files : Store Path) (path : Path) (content : List UInt8) :
    files.set path content path = some content := by
  simp [Store.set]

@[simp] theorem Store.set_other (files : Store Path) {path other : Path} (content : List UInt8)
    (h : other ≠ path) : files.set path content other = files other := by
  simp [Store.set, h]

@[simp] theorem Store.remove_same (files : Store Path) (path : Path) :
    files.remove path path = none := by
  simp [Store.remove]

@[simp] theorem Store.remove_other (files : Store Path) {path other : Path} (h : other ≠ path) :
    files.remove path other = files other := by
  simp [Store.remove, h]

/-- Changing a file that exists sets its new contents. -/
theorem Store.modify_eq_set {files : Store Path} {path : Path} {content : List UInt8}
    (h : files path = some content) (change : List UInt8 → List UInt8) :
    files.modify path change = files.set path (change content) := by
  rw [Store.modify, h]

/-- Changing a file leaves every other path alone. -/
theorem Store.modify_other {files : Store Path} {path other : Path}
    (change : List UInt8 → List UInt8) (h : other ≠ path) :
    files.modify path change other = files other := by
  unfold Store.modify
  cases files path with
  | none => rfl
  | some content => exact Store.set_other _ _ h

/-- Setting a path twice keeps the second contents. -/
@[simp] theorem Store.set_set (files : Store Path) (path : Path) (first second : List UInt8) :
    (files.set path first).set path second = files.set path second := by
  simp [Store.set]

/-- Removing a file that was just set leaves no trace of it. -/
@[simp] theorem Store.remove_set (files : Store Path) (path : Path) (content : List UInt8) :
    (files.set path content).remove path = files.remove path := by
  simp [Store.set, Store.remove]

/-- A rename that succeeds moves the contents and nothing else. -/
theorem Store.rename_eq_some {files result : Store Path} {source target : Path}
    (h : files.rename source target = some result) :
    ∃ content, files source = some content ∧ files target = none ∧
      result = (files.remove source).set target content := by
  unfold Store.rename at h
  split at h
  · next content hsource htarget =>
      exact ⟨content, hsource, htarget, (Option.some.inj h).symm⟩
  · exact absurd h (by simp)

/-- Write these contents one after the other. -/
def Store.setAll (files : Store Path) (writes : List (Path × List UInt8)) : Store Path :=
  writes.foldl (fun files write ↦ files.set write.1 write.2) files

/-- A file holds what the last of the writes to it wrote. -/
theorem Store.set_all_apply (files : Store Path) (writes : List (Path × List UInt8)) (path : Path) :
    files.setAll writes path =
      ((writes.filter fun write ↦ write.1 = path).getLast?).elim (files path)
        fun write ↦ some write.2 := by
  induction writes generalizing files with
  | nil => rfl
  | cons write writes ih =>
      rw [setAll, List.foldl_cons, ← setAll, ih]
      by_cases hpath : write.1 = path
      · subst hpath
        rw [List.filter_cons_of_pos (by simp), List.getLast?_cons, set_same]
        cases (writes.filter fun other ↦ other.1 = write.1).getLast? with
        | none => rfl
        | some other => rfl
      · rw [List.filter_cons_of_neg (by simpa using hpath), set_other _ _ (Ne.symm hpath)]

end FileStore
