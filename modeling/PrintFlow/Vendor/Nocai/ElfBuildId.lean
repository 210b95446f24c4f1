import PrintFlow.Core.RasterSpool.Header
import PrintFlow.Library.RecordWalk

/-!
# The build id of the ARM library

`elfBuildId` looks for the build id of a library in the note segments of its file. Every offset,
count and size comes from the file, and the arithmetic is that of 64 bits. The notes of a segment
are the records of a `RecordWalk`; `elf_build_id_scan` says which note the result is from.
-/

namespace PrintFlow.NocaiArmCommandTag

open RecordWalk

/-! ## Reading -/

/-- A `QByteArray`, whose size is a `qsizetype`. -/
structure QByteArray where
  bytes : Bytes
  length_lt : bytes.length < 2 ^ 63

/-- `size()`. -/
def QByteArray.size (content : QByteArray) : UInt64 := .ofNat content.bytes.length

/-- These bytes of a file. -/
def QByteArray.slice (content : QByteArray) (start size : Nat) : Bytes :=
  (content.bytes.drop start).take size

/-- A range that is copied or extracted; `none` is a range that is not in the file. -/
def QByteArray.range (content : QByteArray) (start : UInt64) (size : Nat) : Option Bytes :=
  if start.toNat + size ≤ content.bytes.length then some (content.slice start.toNat size) else none

/-- `copyObject`. The outer option says that what was copied is in the file. -/
def copyObject (content : QByteArray) (offset size : UInt64) : Option (Option Bytes) :=
  if content.size < offset ∨ content.size - offset < size then some none
  else (content.range offset size.toNat).map some

/-- `align4`. -/
def align4 (value : UInt64) : UInt64 := (value + 3) &&& ~~~(3 : UInt64)

/-- The number that bytes stand for, the lowest byte first. -/
def littleEndian : Bytes → Nat
  | [] => 0
  | byte :: rest => byte.toNat + 256 * littleEndian rest

/-- A field of an object. -/
def field (object : Bytes) (offset size : Nat) : Nat :=
  littleEndian ((object.drop offset).take size)

/-- The fields of an `Elf64_Ehdr` that are read. -/
structure Elf64Ehdr where
  e_ident : Bytes
  e_phoff : UInt64
  e_phentsize : UInt16
  e_phnum : UInt16
  deriving DecidableEq

/-- `sizeof(Elf64_Ehdr)`. -/
def ehdrSize : UInt64 := 64

def Elf64Ehdr.ofBytes (object : Bytes) : Elf64Ehdr where
  e_ident := object.take 16
  e_phoff := .ofNat (field object 32 8)
  e_phentsize := .ofNat (field object 54 2)
  e_phnum := .ofNat (field object 56 2)

/-- The fields of an `Elf64_Phdr` that are read. -/
structure Elf64Phdr where
  p_type : UInt32
  p_offset : UInt64
  p_filesz : UInt64
  deriving DecidableEq

/-- `sizeof(Elf64_Phdr)`. -/
def phdrSize : UInt64 := 56

def Elf64Phdr.ofBytes (object : Bytes) : Elf64Phdr where
  p_type := .ofNat (field object 0 4)
  p_offset := .ofNat (field object 8 8)
  p_filesz := .ofNat (field object 32 8)

/-- An `Elf64_Nhdr`. -/
structure Elf64Nhdr where
  n_namesz : UInt32
  n_descsz : UInt32
  n_type : UInt32
  deriving DecidableEq

/-- `sizeof(Elf64_Nhdr)`. -/
def nhdrSize : UInt64 := 12

def Elf64Nhdr.ofBytes (object : Bytes) : Elf64Nhdr where
  n_namesz := .ofNat (field object 0 4)
  n_descsz := .ofNat (field object 4 4)
  n_type := .ofNat (field object 8 4)

/-- `PT_NOTE`. -/
def noteSegment : UInt32 := 4

/-- `NT_GNU_BUILD_ID`. -/
def gnuBuildId : UInt32 := 3

/-- "GNU". -/
def gnu : Bytes := [0x47, 0x4e, 0x55]

/-- `toHex`. -/
def toHex (bytes : Bytes) : String :=
  String.ofList (bytes.flatMap fun byte ↦
    [Nat.digitChar (byte.toNat / 16), Nat.digitChar (byte.toNat % 16)])

/-! ## The scan -/

/-- How a loop ends: with a range outside of the file, without enough fuel, or with a result. -/
inductive Outcome (A : Type) where
  | outside
  | running
  | done (result : A)
  deriving DecidableEq

/-- The loop over the notes of a segment. It ends with the build id, or with none when no note is
left or one does not fit. -/
def scanNotes (content : QByteArray) (stop : UInt64) :
    (fuel : Nat) → (cursor : UInt64) → Outcome (Option String)
  | 0, _ => .running
  | fuel + 1, cursor =>
    if stop < cursor + nhdrSize then .done none
    else
      match copyObject content cursor nhdrSize with
      | none => .outside
      | some none => .done none
      | some (some object) =>
        let note := Elf64Nhdr.ofBytes object
        let nameOffset := cursor + nhdrSize
        let descriptorOffset := align4 (nameOffset + note.n_namesz.toUInt64)
        let next := align4 (descriptorOffset + note.n_descsz.toUInt64)
        if stop < nameOffset ∨ stop - nameOffset < note.n_namesz.toUInt64 ∨
            stop < descriptorOffset ∨ stop - descriptorOffset < note.n_descsz.toUInt64 ∨
            stop < next then
          .done none
        else
          match content.range nameOffset note.n_namesz.toNat with
          | none => .outside
          | some name =>
            if note.n_type = gnuBuildId ∧ gnu <+: name then
              match content.range descriptorOffset note.n_descsz.toNat with
              | none => .outside
              | some id => .done (some (toHex id))
            else scanNotes content stop fuel next

/-- The loop over the program headers. -/
def scanSegments (content : QByteArray) (header : Elf64Ehdr) (fuel : Nat) :
    (left index : Nat) → Outcome String
  | 0, _ => .done ""
  | left + 1, index =>
    -- The sum is that of 64 bits, so it wraps where the table is far behind the file.
    let programOffset := header.e_phoff + UInt64.ofNat index * header.e_phentsize.toUInt64
    match copyObject content programOffset phdrSize with
    | none => .outside
    | some none => .done ""
    | some (some object) =>
      let segment := Elf64Phdr.ofBytes object
      if segment.p_type ≠ noteSegment ∨ content.size < segment.p_offset ∨
          content.size - segment.p_offset < segment.p_filesz then
        scanSegments content header fuel left (index + 1)
      else
        match scanNotes content (segment.p_offset + segment.p_filesz) fuel segment.p_offset with
        | .outside => .outside
        | .running => .running
        | .done (some id) => .done id
        | .done none => scanSegments content header fuel left (index + 1)

/-- The header of a 64-bit little-endian ELF file with program headers of the known size or more. -/
def Elf64Ehdr.accepted (header : Elf64Ehdr) : Bool :=
  header.e_ident.take 4 == [0x7f, 0x45, 0x4c, 0x46] && header.e_ident[4]! == 2 &&
    header.e_ident[5]! == 1 && decide (phdrSize ≤ header.e_phentsize.toUInt64)

/-- `elfBuildId` on the content of a file that was opened. -/
def elfBuildId (fuel : Nat) (content : QByteArray) : Outcome String :=
  match copyObject content 0 ehdrSize with
  | none => .outside
  | some none => .done ""
  | some (some object) =>
    let header := Elf64Ehdr.ofBytes object
    if header.accepted then scanSegments content header fuel header.e_phnum.toNat 0
    else .done ""

/-! ## Notes and segments -/

/-- A number filled up to a multiple of four. -/
def up4 (value : Nat) : Nat := (value + 3) / 4 * 4

section Notes

variable (content : QByteArray)

/-- The note header at a place. -/
def noteAt (place : Nat) : Option Elf64Nhdr :=
  if place + 12 ≤ content.bytes.length then some (.ofBytes (content.slice place 12)) else none

/-- Where the descriptor of a note begins: at a multiple of four behind its name. -/
def descriptorStart (place : Nat) (note : Elf64Nhdr) : Nat := up4 (place + 12 + note.n_namesz.toNat)

/-- The notes of a file, each up to a multiple of four behind its descriptor. -/
def fileLayout : Layout Elf64Nhdr where
  read := noteAt content
  next place note := up4 (descriptorStart place note + note.n_descsz.toNat)

/-- The notes of a file with the name and the descriptor of each filled up to a multiple of four. -/
def paddedLayout : Layout Elf64Nhdr where
  read := noteAt content
  next place note := place + 12 + up4 note.n_namesz.toNat + up4 note.n_descsz.toNat

/-- A note with the type of a build id and a name that starts with "GNU". -/
def IsBuildId (place : Nat) (note : Elf64Nhdr) : Prop :=
  note.n_type = gnuBuildId ∧ gnu <+: content.slice (place + 12) note.n_namesz.toNat

/-- `IsBuildId` compares a number and a few bytes. -/
instance (place : Nat) (note : Elf64Nhdr) : Decidable (IsBuildId content place note) :=
  inferInstanceAs (Decidable (_ ∧ _))

/-- The descriptor of a note. -/
def descriptor (place : Nat) (note : Elf64Nhdr) : Bytes :=
  content.slice (descriptorStart place note) note.n_descsz.toNat

/-- The header of a file. -/
def fileHeader : Option Elf64Ehdr :=
  if 64 ≤ content.bytes.length then some (.ofBytes (content.slice 0 64)) else none

/-- The program header of an index. -/
def programHeader (header : Elf64Ehdr) (index : Nat) : Option Elf64Phdr :=
  let place := header.e_phoff.toNat + index * header.e_phentsize.toNat
  if place + 56 ≤ content.bytes.length then some (.ofBytes (content.slice place 56)) else none

/-- A note segment whose range is in the file. -/
structure NoteSegment (segment : Elf64Phdr) : Prop where
  note : segment.p_type = noteSegment
  inside : segment.p_offset.toNat + segment.p_filesz.toNat ≤ content.bytes.length

/-- The build-id note that a segment yields. -/
structure Yields (segment : Elf64Phdr) (place : Nat) (note : Elf64Nhdr) : Prop where
  isNote : NoteSegment content segment
  finds : Finds (fileLayout content) (segment.p_offset.toNat + segment.p_filesz.toNat)
    (IsBuildId content) segment.p_offset.toNat place note

/-- A segment with a build-id note that the search comes to. -/
def HasBuildId (_index : Nat) (segment : Elf64Phdr) : Prop :=
  ∃ place note, Yields content segment place note

/-- The program headers, each at its index. -/
def headerLayout (header : Elf64Ehdr) : Layout Elf64Phdr where
  read := programHeader content header
  next index _ := index + 1

/-- A program header that can be read and whose segment yields no build-id note. -/
def Silent (header : Elf64Ehdr) (index : Nat) : Prop :=
  ∃ segment, programHeader content header index = some segment ∧ ¬ HasBuildId content index segment

/-- The build-id note that the search of a file comes to. -/
def FileYields (place : Nat) (note : Elf64Nhdr) : Prop :=
  ∃ header index segment, fileHeader content = some header ∧ header.accepted = true ∧
    Finds (headerLayout content header) header.e_phnum.toNat (HasBuildId content) 0 index segment ∧
    Yields content segment place note

/-- A note that lies in the range of a segment, with the whole of its name and its descriptor. -/
structure LiesIn (segment : Elf64Phdr) (place : Nat) (note : Elf64Nhdr) : Prop where
  read : noteAt content place = some note
  begins : segment.p_offset.toNat ≤ place
  named : place + 12 + note.n_namesz.toNat ≤ descriptorStart place note
  ends : descriptorStart place note + note.n_descsz.toNat ≤
    segment.p_offset.toNat + segment.p_filesz.toNat

end Notes

/-! ## Arithmetic -/

section Arithmetic

variable {content : QByteArray}

theorem size_to_nat : content.size.toNat = content.bytes.length := by
  have hlt := content.length_lt
  rw [QByteArray.size, UInt64.toNat_ofNat']
  exact Nat.mod_eq_of_lt (by omega)

theorem le_up4 (value : Nat) : value ≤ up4 value := by
  unfold up4
  omega

theorem align4_to_nat {value : UInt64} (h : value.toNat + 3 < 2 ^ 64) :
    (align4 value).toNat = up4 value.toNat := by
  have hthree : (3 : UInt64).toNat = 3 := rfl
  rw [align4, RasterSpool.and_not_three, UInt64.toNat_add, hthree, Nat.mod_eq_of_lt h]
  rfl

/-- A range of the file. -/
theorem range_eq {start : UInt64} {size : Nat} (h : start.toNat + size ≤ content.bytes.length) :
    content.range start size = some (content.slice start.toNat size) := if_pos h

/-- What is copied is in the file; an object that is not wholly in the file is not copied. -/
theorem copy_object_eq (content : QByteArray) (offset size : UInt64) :
    copyObject content offset size =
      some (if offset.toNat + size.toNat ≤ content.bytes.length then
        some (content.slice offset.toNat size.toNat) else none) := by
  have hsize := @size_to_nat content
  unfold copyObject
  by_cases hpast : content.size < offset
  · rw [if_pos (.inl hpast), if_neg]
    rw [UInt64.lt_iff_toNat_lt] at hpast
    omega
  have hle : offset ≤ content.size := UInt64.not_lt.mp hpast
  have hrest : (content.size - offset).toNat = content.bytes.length - offset.toNat := by
    rw [UInt64.toNat_sub_of_le _ _ hle, hsize]
  rw [UInt64.le_iff_toNat_le, hsize] at hle
  by_cases hlong : content.size - offset < size
  · rw [if_pos (.inr hlong), if_neg]
    rw [UInt64.lt_iff_toNat_lt, hrest] at hlong
    omega
  · rw [if_neg (not_or.mpr ⟨hpast, hlong⟩)]
    rw [UInt64.lt_iff_toNat_lt, hrest] at hlong
    rw [range_eq (by omega), if_pos (by omega)]
    rfl

theorem up4_le {value bound : Nat} (h : value ≤ bound) : up4 value ≤ bound + 3 := by
  unfold up4
  omega

/-- `sizeof(Elf64_Nhdr)` as a number. -/
theorem nhdr_size_to_nat : nhdrSize.toNat = 12 := rfl

/-- The three offsets of a note. Nothing wraps while the note begins in the file. -/
theorem note_offsets (content : QByteArray) {cursor : UInt64} (note : Elf64Nhdr)
    (hcursor : cursor.toNat ≤ content.bytes.length) :
    (cursor + nhdrSize).toNat = cursor.toNat + 12 ∧
    (align4 (cursor + nhdrSize + note.n_namesz.toUInt64)).toNat =
      descriptorStart cursor.toNat note ∧
    (align4 (align4 (cursor + nhdrSize + note.n_namesz.toUInt64) +
      note.n_descsz.toUInt64)).toNat = (fileLayout content).next cursor.toNat note := by
  have hlength := content.length_lt
  have hnamesz := note.n_namesz.toNat_lt
  have hdescsz := note.n_descsz.toNat_lt
  have hname : (cursor + nhdrSize).toNat = cursor.toNat + 12 := by
    rw [UInt64.toNat_add, nhdr_size_to_nat]
    exact Nat.mod_eq_of_lt (by omega)
  have hbehind : (cursor + nhdrSize + note.n_namesz.toUInt64).toNat =
      cursor.toNat + 12 + note.n_namesz.toNat := by
    rw [UInt64.toNat_add, hname, UInt32.toNat_toUInt64]
    exact Nat.mod_eq_of_lt (by omega)
  have hdescriptor : (align4 (cursor + nhdrSize + note.n_namesz.toUInt64)).toNat =
      descriptorStart cursor.toNat note := by
    rw [align4_to_nat (by omega), hbehind]
    rfl
  have hstart : descriptorStart cursor.toNat note ≤ 2 ^ 63 + 2 ^ 33 := by
    have := @up4_le (cursor.toNat + 12 + note.n_namesz.toNat) _ (Nat.le_refl _)
    unfold descriptorStart
    omega
  have hend : (align4 (cursor + nhdrSize + note.n_namesz.toUInt64) +
      note.n_descsz.toUInt64).toNat =
      descriptorStart cursor.toNat note + note.n_descsz.toNat := by
    rw [UInt64.toNat_add, hdescriptor, UInt32.toNat_toUInt64]
    exact Nat.mod_eq_of_lt (by omega)
  refine ⟨hname, hdescriptor, ?_⟩
  rw [align4_to_nat (by omega), hend]
  rfl

/-- A note lies behind its beginning, its name behind its header and its descriptor behind that. -/
theorem note_order (content : QByteArray) (place : Nat) (note : Elf64Nhdr) :
    place + 12 + note.n_namesz.toNat ≤ descriptorStart place note ∧
    descriptorStart place note + note.n_descsz.toNat ≤ (fileLayout content).next place note :=
  ⟨le_up4 _, le_up4 _⟩

/-- The tests on a note say that it does not end before the end of the segment. -/
theorem note_tests {cursor : UInt64} (stop : UInt64) (note : Elf64Nhdr)
    (hcursor : cursor.toNat ≤ content.bytes.length) :
    (stop < cursor + nhdrSize ∨ stop - (cursor + nhdrSize) < note.n_namesz.toUInt64 ∨
      stop < align4 (cursor + nhdrSize + note.n_namesz.toUInt64) ∨
      stop - align4 (cursor + nhdrSize + note.n_namesz.toUInt64) < note.n_descsz.toUInt64 ∨
      stop < align4 (align4 (cursor + nhdrSize + note.n_namesz.toUInt64) +
        note.n_descsz.toUInt64)) ↔
    stop.toNat < (fileLayout content).next cursor.toNat note := by
  obtain ⟨hname, hdescriptor, hnext⟩ := note_offsets content note hcursor
  obtain ⟨hfirst, hsecond⟩ := note_order content cursor.toNat note
  simp only [UInt64.lt_iff_toNat_lt, hname, hdescriptor, hnext, UInt32.toNat_toUInt64]
  -- The last test implies the others, as the places are in order and none wraps.
  constructor
  · intro htest
    by_contra hfits
    have hsub : (stop - (cursor + nhdrSize)).toNat = stop.toNat - (cursor.toNat + 12) := by
      rw [UInt64.toNat_sub_of_le _ _ (by rw [UInt64.le_iff_toNat_le]; omega), hname]
    have hsub' : (stop - align4 (cursor + nhdrSize + note.n_namesz.toUInt64)).toNat =
        stop.toNat - descriptorStart cursor.toNat note := by
      rw [UInt64.toNat_sub_of_le _ _ (by rw [UInt64.le_iff_toNat_le]; omega), hdescriptor]
    rw [hsub, hsub'] at htest
    omega
  · exact fun h ↦ .inr (.inr (.inr (.inr h)))

end Arithmetic

/-! ## The notes of a segment -/

section NotesOfASegment

variable {content : QByteArray} {stop cursor : UInt64}

/-- The place behind a note. -/
def nextCursor (cursor : UInt64) (note : Elf64Nhdr) : UInt64 :=
  align4 (align4 (cursor + nhdrSize + note.n_namesz.toUInt64) + note.n_descsz.toUInt64)

/-- The header of a note that ends in the segment can be read. -/
theorem note_at_eq (hcursor : cursor.toNat + 12 ≤ content.bytes.length) :
    noteAt content cursor.toNat = some (.ofBytes (content.slice cursor.toNat 12)) := if_pos hcursor

/-- The loop goes past a note that does not end in the segment with no result. -/
theorem scan_notes_end (fuel : Nat) (hstop : stop.toNat ≤ content.bytes.length)
    (hcursor : cursor.toNat ≤ content.bytes.length)
    (hpast : ∀ note, noteAt content cursor.toNat = some note →
      stop.toNat < (fileLayout content).next cursor.toNat note) :
    scanNotes content stop (fuel + 1) cursor = .done none := by
  have hname := (note_offsets content (.ofBytes []) hcursor).1
  unfold scanNotes
  by_cases hshort : stop < cursor + nhdrSize
  · exact if_pos hshort
  have hheader : cursor.toNat + 12 ≤ content.bytes.length := by
    rw [UInt64.lt_iff_toNat_lt, hname] at hshort
    omega
  rw [if_neg hshort, copy_object_eq, nhdr_size_to_nat, if_pos hheader]
  exact if_pos ((note_tests stop _ hcursor).mpr (hpast _ (note_at_eq hheader)))

/-- The loop yields a note that ends in the segment, or goes on behind it. -/
theorem scan_notes_whole (fuel : Nat) {note : Elf64Nhdr} (hstop : stop.toNat ≤ content.bytes.length)
    (hread : noteAt content cursor.toNat = some note)
    (hfits : (fileLayout content).next cursor.toNat note ≤ stop.toNat) :
    scanNotes content stop (fuel + 1) cursor =
      if IsBuildId content cursor.toNat note then
        .done (some (toHex (descriptor content cursor.toNat note)))
      else scanNotes content stop fuel (nextCursor cursor note) := by
  have horder := note_order content cursor.toNat note
  have hheader : cursor.toNat + 12 ≤ content.bytes.length := by omega
  have hcursor : cursor.toNat ≤ content.bytes.length := by omega
  rw [note_at_eq hheader, Option.some.injEq] at hread
  obtain ⟨hname, hdescriptor, -⟩ := note_offsets content note hcursor
  have hshort : ¬ stop < cursor + nhdrSize := by
    rw [UInt64.lt_iff_toNat_lt, hname]
    omega
  have htests := (note_tests stop note hcursor).not.mpr (Nat.not_lt.mpr hfits)
  conv_lhs => unfold scanNotes
  rw [if_neg hshort, copy_object_eq, nhdr_size_to_nat, if_pos hheader]
  dsimp only
  rw [hread, if_neg htests, range_eq (by omega), hname, range_eq (by omega), hdescriptor]
  rfl

/-- The loop over the notes of a segment finds the first build-id note of it that is reached. -/
theorem scan_notes_spec (hstop : stop.toNat ≤ content.bytes.length) {fuel : Nat}
    (hfuel : stop.toNat < cursor.toNat + fuel) (hcursor : cursor.toNat ≤ stop.toNat) :
    (∃ place note,
      Finds (fileLayout content) stop.toNat (IsBuildId content) cursor.toNat place note ∧
      scanNotes content stop fuel cursor = .done (some (toHex (descriptor content place note)))) ∨
    (∀ place note,
      ¬ Finds (fileLayout content) stop.toNat (IsBuildId content) cursor.toNat place note) ∧
      scanNotes content stop fuel cursor = .done none := by
  -- Each round goes forward by a note header at least.
  induction fuel generalizing cursor with
  | zero => omega
  | succ fuel ih =>
      have hinside : cursor.toNat ≤ content.bytes.length := Nat.le_trans hcursor hstop
      by_cases hwhole : ∃ note, noteAt content cursor.toNat = some note ∧
        (fileLayout content).next cursor.toNat note ≤ stop.toNat
      · obtain ⟨note, hread, hfits⟩ := hwhole
        rw [scan_notes_whole fuel hstop hread hfits]
        by_cases hpick : IsBuildId content cursor.toNat note
        · rw [if_pos hpick]
          exact .inl ⟨_, note, .here hread hfits hpick, rfl⟩
        have hplace : (nextCursor cursor note).toNat =
            (fileLayout content).next cursor.toNat note := (note_offsets content note hinside).2.2
        have horder := note_order content cursor.toNat note
        rw [if_neg hpick]
        rcases @ih (nextCursor cursor note) (by omega) (by omega) with
          ⟨place, found, hfinds, hresult⟩ | ⟨hnone, hresult⟩
        · rw [hplace] at hfinds
          exact .inl ⟨place, found, .step hread hfits hpick hfinds, hresult⟩
        · refine .inr ⟨fun place found hfinds ↦ hnone place found ?_, hresult⟩
          rw [hplace]
          exact hfinds.behind hread hpick
      · refine .inr ⟨fun place note hfinds ↦ ?_, ?_⟩
        · obtain ⟨first, hfirst, hfits, -⟩ := hfinds.cases
          exact hwhole ⟨first, hfirst, hfits⟩
        · exact scan_notes_end fuel hstop hinside fun note hread ↦
            Nat.lt_of_not_le fun hfits ↦ hwhole ⟨note, hread, hfits⟩

end NotesOfASegment

/-! ## The segments of a file -/

section SegmentsOfAFile

variable {content : QByteArray} {header : Elf64Ehdr} {index fuel : Nat}

/-- The offset of a program header does not wrap where it is the first one or the table begins in
the file. -/
theorem program_offset_to_nat (hindex : index < 2 ^ 16)
    (hstart : index = 0 ∨ header.e_phoff.toNat ≤ content.bytes.length) :
    (header.e_phoff + UInt64.ofNat index * header.e_phentsize.toUInt64).toNat =
      header.e_phoff.toNat + index * header.e_phentsize.toNat := by
  have hlength := content.length_lt
  have hoffset := header.e_phoff.toNat_lt
  have hentry := header.e_phentsize.toNat_lt
  have hproduct : index * header.e_phentsize.toNat < 2 ^ 16 * 2 ^ 16 :=
    Nat.mul_lt_mul'' hindex hentry
  have hcast : (UInt64.ofNat index).toNat = index := by
    rw [UInt64.toNat_ofNat']
    exact Nat.mod_eq_of_lt (by omega)
  have hmul : (UInt64.ofNat index * header.e_phentsize.toUInt64).toNat =
      index * header.e_phentsize.toNat := by
    rw [UInt64.toNat_mul, hcast, UInt16.toNat_toUInt64]
    exact Nat.mod_eq_of_lt (by omega)
  rw [UInt64.toNat_add, hmul]
  rcases hstart with rfl | hinside
  · rw [Nat.zero_mul, Nat.add_zero]
    exact Nat.mod_eq_of_lt hoffset
  · exact Nat.mod_eq_of_lt (by omega)

/-- The copy of a program header is the one in the file, when the file has it. -/
theorem copy_program_header (hindex : index < 2 ^ 16)
    (hstart : index = 0 ∨ header.e_phoff.toNat ≤ content.bytes.length) :
    (∃ object, copyObject content
        (header.e_phoff + UInt64.ofNat index * header.e_phentsize.toUInt64) phdrSize =
          some (some object) ∧
      programHeader content header index = some (.ofBytes object)) ∨
    copyObject content (header.e_phoff + UInt64.ofNat index * header.e_phentsize.toUInt64)
        phdrSize = some none ∧
      programHeader content header index = none := by
  have hsize : phdrSize.toNat = 56 := rfl
  rw [copy_object_eq, program_offset_to_nat hindex hstart, hsize, programHeader]
  by_cases hinside : header.e_phoff.toNat + index * header.e_phentsize.toNat + 56 ≤
    content.bytes.length
  · rw [if_pos hinside]
    exact .inl ⟨_, rfl, if_pos hinside⟩
  · rw [if_neg hinside]
    exact .inr ⟨rfl, if_neg hinside⟩

/-- The tests on a segment say that it is a note segment in the file. -/
theorem segment_tests (segment : Elf64Phdr) :
    (segment.p_type ≠ noteSegment ∨ content.size < segment.p_offset ∨
      content.size - segment.p_offset < segment.p_filesz) ↔ ¬ NoteSegment content segment := by
  have hsize := @size_to_nat content
  constructor
  · rintro htests ⟨hnote, hinside⟩
    have hle : segment.p_offset ≤ content.size := by
      rw [UInt64.le_iff_toNat_le, hsize]
      omega
    rw [UInt64.lt_iff_toNat_lt, UInt64.lt_iff_toNat_lt, UInt64.toNat_sub_of_le _ _ hle, hsize]
      at htests
    rcases htests with hother | hpast | hlong
    · exact hother hnote
    · omega
    · omega
  · intro hno
    by_contra htests
    obtain ⟨hnote, hrest⟩ := not_or.mp htests
    obtain ⟨hpast, hlong⟩ := not_or.mp hrest
    have hle : segment.p_offset ≤ content.size := UInt64.not_lt.mp hpast
    rw [UInt64.lt_iff_toNat_lt, UInt64.toNat_sub_of_le _ _ hle, hsize] at hlong
    rw [UInt64.le_iff_toNat_le, hsize] at hle
    exact hno ⟨not_not.mp hnote, by omega⟩

/-- The loop over the notes, in a note segment of the file. -/
theorem scan_notes_of_segment (index : Nat) {segment : Elf64Phdr}
    (hfuel : content.bytes.length < fuel)
    (hsegment : NoteSegment content segment) :
    (∃ place note, Yields content segment place note ∧
      scanNotes content (segment.p_offset + segment.p_filesz) fuel segment.p_offset =
        .done (some (toHex (descriptor content place note)))) ∨
    ¬ HasBuildId content index segment ∧
      scanNotes content (segment.p_offset + segment.p_filesz) fuel segment.p_offset =
        .done none := by
  have hlength := content.length_lt
  have hinside := hsegment.inside
  have hstop : (segment.p_offset + segment.p_filesz).toNat =
      segment.p_offset.toNat + segment.p_filesz.toNat := by
    rw [UInt64.toNat_add]
    exact Nat.mod_eq_of_lt (by omega)
  rcases @scan_notes_spec content (segment.p_offset + segment.p_filesz) segment.p_offset
    (by omega) fuel (by omega) (by omega) with ⟨place, note, hfinds, hresult⟩ | ⟨hnone, hresult⟩
  · rw [hstop] at hfinds
    exact .inl ⟨place, note, ⟨hsegment, hfinds⟩, hresult⟩
  · refine .inr ⟨fun ⟨place, note, hyields⟩ ↦ hnone place note ?_, hresult⟩
    rw [hstop]
    exact hyields.finds

/-- The loop over the program headers ends without a result where one is not in the file. -/
theorem scan_segments_end {left : Nat} (hindex : index < 2 ^ 16)
    (hstart : index = 0 ∨ header.e_phoff.toNat ≤ content.bytes.length)
    (hread : programHeader content header index = none) :
    scanSegments content header fuel (left + 1) index = .done "" := by
  unfold scanSegments
  dsimp only
  rcases copy_program_header hindex hstart with ⟨object, -, hother⟩ | ⟨hcopy, -⟩
  · exact nomatch hread.symm.trans hother
  · rw [hcopy]

/-- The loop yields the build id of a segment that has one, and goes on behind one that has none. -/
theorem scan_segments_round (left : Nat) {segment : Elf64Phdr}
    (hfuel : content.bytes.length < fuel) (hindex : index < 2 ^ 16)
    (hstart : index = 0 ∨ header.e_phoff.toNat ≤ content.bytes.length)
    (hread : programHeader content header index = some segment) :
    (∃ place note, Yields content segment place note ∧
      scanSegments content header fuel (left + 1) index =
        .done (toHex (descriptor content place note))) ∨
    ¬ HasBuildId content index segment ∧
      scanSegments content header fuel (left + 1) index =
        scanSegments content header fuel left (index + 1) := by
  rcases copy_program_header hindex hstart with ⟨object, hcopy, hother⟩ | ⟨-, hother⟩
  · obtain rfl := Option.some.inj (hread.symm.trans hother)
    rw [scanSegments]
    dsimp only
    rw [hcopy]
    dsimp only
    by_cases hsegment : NoteSegment content (.ofBytes object)
    · rw [if_neg ((segment_tests _).not.mpr (not_not_intro hsegment))]
      rcases scan_notes_of_segment index hfuel hsegment with
        ⟨place, note, hyields, hscan⟩ | ⟨hnone, hscan⟩
      · rw [hscan]
        exact .inl ⟨place, note, hyields, rfl⟩
      · rw [hscan]
        exact .inr ⟨hnone, rfl⟩
    · rw [if_pos ((segment_tests _).mpr hsegment)]
      exact .inr ⟨fun ⟨_, _, hyields⟩ ↦ hsegment hyields.isNote, rfl⟩
  · exact nomatch hread.symm.trans hother

/-- A table with a program header in the file begins in the file. -/
theorem table_start {segment : Elf64Phdr}
    (hread : programHeader content header index = some segment) :
    header.e_phoff.toNat ≤ content.bytes.length := by
  unfold programHeader at hread
  dsimp only at hread
  split at hread
  · omega
  · exact nomatch hread

/-- The loop over the program headers finds the first one whose segment yields a build-id note. -/
theorem scan_segments_spec (hfuel : content.bytes.length < fuel) {left : Nat}
    (hcount : index + left < 2 ^ 16)
    (hstart : index = 0 ∨ header.e_phoff.toNat ≤ content.bytes.length) :
    (∃ last segment place note,
      Finds (headerLayout content header) (index + left) (HasBuildId content) index last segment ∧
      Yields content segment place note ∧
      scanSegments content header fuel left index =
        .done (toHex (descriptor content place note))) ∨
    (∀ last segment,
      ¬ Finds (headerLayout content header) (index + left) (HasBuildId content) index last
        segment) ∧
      scanSegments content header fuel left index = .done "" := by
  -- On the program headers that are left: each is found, passed over, or not in the file.
  induction left generalizing index with
  | zero =>
      refine .inr ⟨fun last segment hfinds ↦ ?_, rfl⟩
      obtain ⟨first, -, hfits, -⟩ := hfinds.cases
      exact absurd hfits (Nat.not_succ_le_self index)
  | succ left ih =>
      have hindex : index < 2 ^ 16 := by omega
      cases hread : programHeader content header index with
      | none =>
          refine .inr ⟨fun last segment hfinds ↦ ?_, scan_segments_end hindex hstart hread⟩
          obtain ⟨first, hfirst, -, -⟩ := hfinds.cases
          exact nomatch hread.symm.trans hfirst
      | some segment =>
          have hfits : (headerLayout content header).next index segment ≤ index + (left + 1) :=
            Nat.add_le_add_left (Nat.le_add_left 1 left) index
          rcases scan_segments_round left hfuel hindex hstart hread with
            ⟨place, note, hyields, hscan⟩ | ⟨hsilent, hscan⟩
          · exact .inl ⟨index, segment, place, note, .here hread hfits ⟨place, note, hyields⟩,
              hyields, hscan⟩
          -- The table begins in the file, so that the offsets behind do not wrap either.
          have hnext := @ih (index + 1) (by omega) (.inr (table_start hread))
          rw [show index + 1 + left = index + (left + 1) by omega] at hnext
          rw [hscan]
          rcases hnext with ⟨last, found, place, note, hfinds, hyields, hresult⟩ | ⟨hnone, hresult⟩
          · exact .inl ⟨last, found, place, note, .step hread hfits hsilent hfinds, hyields,
              hresult⟩
          · exact .inr ⟨fun last found hfinds ↦ hnone last found (hfinds.behind hread hsilent),
              hresult⟩

end SegmentsOfAFile

/-! ## The build id of a file -/

section BuildIdOfAFile

variable {content : QByteArray} {header : Elf64Ehdr} {segment : Elf64Phdr} {place : Nat}
  {note : Elf64Nhdr} {fuel : Nat}

/-- A note that a segment yields lies in it. -/
theorem Yields.lies_in (h : Yields content segment place note) :
    LiesIn content segment place note := by
  have horder := note_order content
  have hforward : ∀ place note, place ≤ (fileLayout content).next place note := fun place note ↦ by
    have := horder place note
    omega
  have hfits := h.finds.fits
  exact ⟨h.finds.read, h.finds.walk.le hforward, (horder place note).1,
    Nat.le_trans (horder place note).2 hfits⟩

/-- A segment yields one note at most. -/
theorem Yields.unique {other : Nat} {found : Elf64Nhdr} (h : Yields content segment place note)
    (h' : Yields content segment other found) : place = other ∧ note = found :=
  h.finds.unique h'.finds

/-- The copy of the header is the one in the file, when the file has it. -/
theorem copy_header (content : QByteArray) :
    copyObject content 0 ehdrSize =
      some (if 64 ≤ content.bytes.length then some (content.slice 0 64) else none) := by
  have hzero : (0 : UInt64).toNat = 0 := rfl
  have hsize : ehdrSize.toNat = 64 := rfl
  rw [copy_object_eq, hzero, hsize, Nat.zero_add]

/-- The build id is looked for in the program headers of an accepted header. -/
theorem elf_build_id_accepted (hheader : fileHeader content = some header)
    (haccepted : header.accepted = true) :
    elfBuildId fuel content = scanSegments content header fuel header.e_phnum.toNat 0 := by
  unfold fileHeader at hheader
  rw [elfBuildId, copy_header]
  by_cases hlength : 64 ≤ content.bytes.length
  · rw [if_pos hlength, Option.some.injEq] at hheader
    rw [if_pos hlength]
    dsimp only
    rw [hheader, if_pos haccepted]
  · rw [if_neg hlength] at hheader
    exact nomatch hheader

/-- Without an accepted header there is no build id. -/
theorem elf_build_id_refused
    (h : ∀ header, fileHeader content = some header → header.accepted ≠ true) :
    elfBuildId fuel content = .done "" := by
  rw [elfBuildId, copy_header]
  by_cases hlength : 64 ≤ content.bytes.length
  · rw [if_pos hlength]
    exact if_neg (h _ (if_pos hlength))
  · rw [if_neg hlength]

/-- The result is from the note that the search comes to. -/
theorem elf_build_id_found (hfuel : content.bytes.length < fuel)
    (h : FileYields content place note) :
    elfBuildId fuel content = .done (toHex (descriptor content place note)) := by
  obtain ⟨header, index, segment, hheader, haccepted, hfinds, hyields⟩ := h
  have hnumber := header.e_phnum.toNat_lt
  rw [elf_build_id_accepted hheader haccepted]
  rcases @scan_segments_spec content header 0 fuel hfuel header.e_phnum.toNat (by omega) (.inl rfl)
    with ⟨last, other, place', note', hother, hyields', hscan⟩ | ⟨hnone, -⟩
  · rw [Nat.zero_add] at hother
    obtain ⟨-, rfl⟩ := hfinds.unique hother
    obtain ⟨rfl, rfl⟩ := hyields.unique hyields'
    exact hscan
  · rw [Nat.zero_add] at hnone
    exact absurd hfinds (hnone index segment)

/-- Where the search comes to no note, there is no build id. -/
theorem elf_build_id_none (hfuel : content.bytes.length < fuel)
    (h : ∀ place note, ¬ FileYields content place note) :
    elfBuildId fuel content = .done "" := by
  by_cases haccepted : ∃ header, fileHeader content = some header ∧ header.accepted = true
  · obtain ⟨header, hheader, haccepted⟩ := haccepted
    have hnumber := header.e_phnum.toNat_lt
    rw [elf_build_id_accepted hheader haccepted]
    rcases @scan_segments_spec content header 0 fuel hfuel header.e_phnum.toNat (by omega)
      (.inl rfl) with ⟨last, segment, place, note, hfinds, hyields, -⟩ | ⟨-, hscan⟩
    · rw [Nat.zero_add] at hfinds
      exact absurd ⟨header, last, segment, hheader, haccepted, hfinds, hyields⟩ (h place note)
    · exact hscan
  · exact elf_build_id_refused fun header hheader htrue ↦ haccepted ⟨header, hheader, htrue⟩

/-- Behind a multiple of four, a sum is filled up by filling up its other part. -/
theorem up4_add {start : Nat} (value : Nat) (h : 4 ∣ start) :
    up4 (start + value) = start + up4 value := by
  unfold up4
  omega

/-- At a multiple of four, the descriptor of a note is behind its name, filled up. -/
theorem descriptor_start_eq (note : Elf64Nhdr) (h : 4 ∣ place) :
    descriptorStart place note = place + 12 + up4 note.n_namesz.toNat :=
  up4_add _ (by omega)

/-- From a multiple of four, the two layouts have the same next place, a multiple of four again. -/
theorem padded_next (content : QByteArray) (note : Elf64Nhdr) (h : 4 ∣ place) :
    (paddedLayout content).next place note = (fileLayout content).next place note ∧
    4 ∣ (paddedLayout content).next place note := by
  have hname : 4 ∣ up4 note.n_namesz.toNat := Nat.dvd_mul_left 4 _
  have hdesc : 4 ∣ up4 note.n_descsz.toNat := Nat.dvd_mul_left 4 _
  show place + 12 + up4 note.n_namesz.toNat + up4 note.n_descsz.toNat =
      up4 (descriptorStart place note + note.n_descsz.toNat) ∧
    4 ∣ place + 12 + up4 note.n_namesz.toNat + up4 note.n_descsz.toNat
  rw [descriptor_start_eq note h, up4_add _ (by omega)]
  exact ⟨rfl, by omega⟩

/-- In a segment at a multiple of four, the code goes over the filled-up notes. -/
theorem finds_padded {start stop : Nat} (hstart : 4 ∣ start)
    (h : Finds (paddedLayout content) stop (IsBuildId content) start place note) :
    Finds (fileLayout content) stop (IsBuildId content) start place note ∧ 4 ∣ place :=
  @Finds.congr _ (paddedLayout content) stop _ start place note (fileLayout content) (4 ∣ ·) rfl
    (fun _ note hplace ↦ (padded_next content note hplace).1)
    (fun _ note hplace ↦ (padded_next content note hplace).2) hstart h

/-- The search comes to the note that the first segment with one yields. -/
theorem file_yields {index : Nat} (hheader : fileHeader content = some header)
    (haccepted : header.accepted = true) (hindex : index < header.e_phnum.toNat)
    (hearlier : ∀ earlier < index, Silent content header earlier)
    (hread : programHeader content header index = some segment)
    (hyields : Yields content segment place note) : FileYields content place note := by
  have hwalk : Walk (headerLayout content header) header.e_phnum.toNat (HasBuildId content) 0
      index :=
    .of_each (fun _ _ ↦ rfl) (Nat.le_of_lt hindex) (Nat.zero_le index)
      fun earlier _ hlt ↦ hearlier earlier hlt
  exact ⟨header, index, segment, hheader, haccepted,
    ⟨hwalk, hread, hindex, ⟨place, note, hyields⟩⟩, hyields⟩

/-- The build id of a file: the scan of every content ends, without going out of the content, with
one result. What is not empty is the whole descriptor of a build-id note in the range of a note
segment. The first build-id note that is reached in a segment at a multiple of four is the result
when every program header before can be read and none yielded one. -/
theorem elf_build_id_scan (content : QByteArray) :
    ∃ id, (∀ fuel, content.bytes.length < fuel → elfBuildId fuel content = .done id) ∧
      (id ≠ "" → ∃ header index segment place note,
        fileHeader content = some header ∧ index < header.e_phnum.toNat ∧
        programHeader content header index = some segment ∧ NoteSegment content segment ∧
        LiesIn content segment place note ∧ IsBuildId content place note ∧
        id = toHex (descriptor content place note)) ∧
      ∀ header index segment place note,
        fileHeader content = some header → header.accepted = true →
        index < header.e_phnum.toNat → (∀ earlier < index, Silent content header earlier) →
        programHeader content header index = some segment → NoteSegment content segment →
        4 ∣ segment.p_offset.toNat →
        Finds (paddedLayout content) (segment.p_offset.toNat + segment.p_filesz.toNat)
          (IsBuildId content) segment.p_offset.toNat place note →
        id = toHex (content.slice (place + 12 + up4 note.n_namesz.toNat) note.n_descsz.toNat) := by
  -- The search of a file comes to one note or to none, whatever the fuel.
  by_cases hyields : ∃ place note, FileYields content place note
  · obtain ⟨place, note, hyields⟩ := hyields
    refine ⟨toHex (descriptor content place note), fun fuel hfuel ↦ elf_build_id_found hfuel hyields,
      fun _ ↦ ?_, ?_⟩
    · obtain ⟨header, index, segment, hheader, -, hfinds, hsegment⟩ := hyields
      exact ⟨header, index, segment, place, note, hheader, hfinds.fits, hfinds.read,
        hsegment.isNote, hsegment.lies_in, hsegment.finds.picked, rfl⟩
    · intro header index segment other found hheader haccepted hindex hearlier hread hsegment
        haligned hpadded
      obtain ⟨hfinds, hplace⟩ := finds_padded haligned hpadded
      have hother := file_yields hheader haccepted hindex hearlier hread ⟨hsegment, hfinds⟩
      have hfuel := Nat.lt_succ_self content.bytes.length
      have hsame := (elf_build_id_found hfuel hyields).symm.trans (elf_build_id_found hfuel hother)
      rw [Outcome.done.inj hsame, descriptor, descriptor_start_eq found hplace]
  · have hnone : ∀ place note, ¬ FileYields content place note :=
      fun place note h ↦ hyields ⟨place, note, h⟩
    refine ⟨"", fun fuel hfuel ↦ elf_build_id_none hfuel hnone, fun h ↦ absurd rfl h, ?_⟩
    intro header index segment place note hheader haccepted hindex hearlier hread hsegment haligned
      hpadded
    obtain ⟨hfinds, -⟩ := finds_padded haligned hpadded
    exact absurd (file_yields hheader haccepted hindex hearlier hread ⟨hsegment, hfinds⟩)
      (hnone place note)

/-- A library with two build-id notes in its note segment, the first of them without a
descriptor. -/
def twoBuildIds : QByteArray where
  bytes :=
    [0x7f, 0x45, 0x4c, 0x46, 2, 1] ++ List.replicate 26 0 ++ [64, 0, 0, 0, 0, 0, 0, 0] ++
      List.replicate 14 0 ++ [56, 0, 1, 0] ++ List.replicate 6 0 ++
    [4, 0, 0, 0, 0, 0, 0, 0, 120, 0, 0, 0, 0, 0, 0, 0] ++ List.replicate 16 0 ++
      [36, 0, 0, 0, 0, 0, 0, 0] ++ List.replicate 16 0 ++
    [4, 0, 0, 0, 0, 0, 0, 0, 3, 0, 0, 0, 0x47, 0x4e, 0x55, 0] ++
    [4, 0, 0, 0, 4, 0, 0, 0, 3, 0, 0, 0, 0x47, 0x4e, 0x55, 0, 0xde, 0xad, 0xbe, 0xef]
  length_lt := by decide +kernel

/-- A build-id note without a descriptor ends the search, so the first build-id note with one is not
found behind it. -/
theorem empty_build_id_first :
    ¬ ∀ content header index segment place note,
      fileHeader content = some header → header.accepted = true →
      index < header.e_phnum.toNat → (∀ earlier < index, Silent content header earlier) →
      programHeader content header index = some segment → NoteSegment content segment →
      4 ∣ segment.p_offset.toNat →
      Finds (paddedLayout content) (segment.p_offset.toNat + segment.p_filesz.toNat)
        (fun place note ↦ IsBuildId content place note ∧ 0 < note.n_descsz.toNat)
        segment.p_offset.toNat place note →
      ∀ fuel, content.bytes.length < fuel → elfBuildId fuel content =
        .done (toHex (content.slice (place + 12 + up4 note.n_namesz.toNat)
          note.n_descsz.toNat)) := by
  intro h
  have hfinds : Finds (paddedLayout twoBuildIds) 156
      (fun place note ↦ IsBuildId twoBuildIds place note ∧ 0 < note.n_descsz.toNat) 120 136
      ⟨4, 4, 3⟩ := by
    have hempty : (paddedLayout twoBuildIds).read 120 = some ⟨4, 0, 3⟩ := by decide +kernel
    refine .step hempty (by decide) (by decide +kernel) (.here ?_ ?_ ?_)
    · decide +kernel
    · decide
    · decide +kernel
  have hfound := h twoBuildIds (.ofBytes (twoBuildIds.slice 0 64)) 0 ⟨4, 120, 36⟩ 136 ⟨4, 4, 3⟩
    (by decide +kernel) (by decide +kernel) (by decide +kernel) (by simp) (by decide +kernel)
    ⟨rfl, by decide +kernel⟩ (by decide) hfinds 157 (by decide +kernel)
  have hresult : elfBuildId 157 twoBuildIds = .done "" := by decide +kernel
  rw [hresult] at hfound
  have hne : (Outcome.done "" : Outcome String) ≠ .done (toHex (twoBuildIds.slice 152 4)) := by
    decide +kernel
  exact hne hfound

end BuildIdOfAFile

end PrintFlow.NocaiArmCommandTag
