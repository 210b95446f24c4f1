import Mathlib.Data.Bool.AllAny
import Mathlib.Data.List.Induction
import PrintFlow.Core.RasterSpool.Writer

/-!
# What is written is what is read

Abstractly a spool under construction is a table of lines: each plane-line either has not been
written or has the bytes last written to it. `Holds` ties a writer to its table, `write_line_holds`
is the refinement of one call and `write_lines_holds` of any sequence of calls. A finalized spool
then reads back as its table.
-/

namespace PrintFlow.RasterSpool

open DataStream FileStore

/-- One call of `writeLine`. -/
structure WriteCall where
  logicalChannel : Int32
  row : Int32
  bytes : Bytes

/-- The calls one after the other, without I/O failures. -/
def writeLines (s : State) (calls : List WriteCall) : State :=
  calls.foldl
    (fun s call ↦ (Writer.writeLine s .done "" call.logicalChannel call.row call.bytes).1) s

/-- A call that is accepted and writes this plane-line. -/
def WriteCall.Writes (call : WriteCall) (metadata : DirectPrintSpool)
    (logicalChannel row : Int32) : Prop :=
  call.logicalChannel = logicalChannel ∧ call.row = row ∧
    Writer.Accepts metadata logicalChannel row call.bytes

instance (call : WriteCall) (metadata : DirectPrintSpool) (logicalChannel row : Int32) :
    Decidable (call.Writes metadata logicalChannel row) :=
  inferInstanceAs (Decidable (_ ∧ _ ∧ _))

/-- The bytes last written to a plane-line. -/
def lastWritten (metadata : DirectPrintSpool) (calls : List WriteCall)
    (logicalChannel row : Int32) : Option Bytes :=
  calls.foldl
    (fun last call ↦ if call.Writes metadata logicalChannel row then some call.bytes else last) none

/-! ## The table of lines -/

/-- The lines written so far, by index. -/
abbrev LineTable := Nat → Option Bytes

/-- What a call does to the table. -/
def LineTable.record (metadata : DirectPrintSpool) (table : LineTable) (call : WriteCall) :
    LineTable :=
  if Writer.Accepts metadata call.logicalChannel call.row call.bytes then
    Function.update table (lineIndex metadata call.logicalChannel call.row) (some call.bytes)
  else table

/-- The table after a sequence of calls. -/
def tableOf (metadata : DirectPrintSpool) (calls : List WriteCall) : LineTable :=
  calls.foldl (LineTable.record metadata) fun _ ↦ none

variable {metadata : DirectPrintSpool} {calls : List WriteCall} {logicalChannel row : Int32}

/-- The table holds the bytes last written to each plane-line. -/
theorem table_of_line_index (hvalid : Valid metadata)
    (hrange : InRange metadata logicalChannel row) :
    tableOf metadata calls (lineIndex metadata logicalChannel row) =
      lastWritten metadata calls logicalChannel row := by
  induction calls using List.reverseRecOn with
  | nil => rfl
  | append_singleton calls call ih =>
      simp only [tableOf, lastWritten, List.foldl_append, List.foldl_cons, List.foldl_nil] at ih ⊢
      rw [LineTable.record, ← ih]
      by_cases hwrites : call.Writes metadata logicalChannel row
      · obtain ⟨rfl, rfl, haccept⟩ := hwrites
        rw [if_pos haccept, if_pos ⟨rfl, rfl, haccept⟩, Function.update_self]
      · rw [if_neg hwrites]
        split_ifs with haccept
        · obtain ⟨hcall, -⟩ := (Writer.accepts_iff hvalid).mp haccept
          rw [Function.update_of_ne]
          intro hindex
          obtain ⟨rfl, rfl⟩ := hrange.index_inj hcall hindex
          exact hwrites ⟨rfl, rfl, haccept⟩
        · rfl

/-- A plane-line has been written exactly when some call wrote it. -/
theorem last_written_is_some :
    (lastWritten metadata calls logicalChannel row).isSome ↔
      ∃ call ∈ calls, call.Writes metadata logicalChannel row := by
  induction calls using List.reverseRecOn with
  | nil => simp [lastWritten]
  | append_singleton calls call ih =>
      simp only [lastWritten, List.foldl_append, List.foldl_cons, List.foldl_nil] at ih ⊢
      by_cases hwrites : call.Writes metadata logicalChannel row
      · rw [if_pos hwrites]
        exact iff_of_true rfl ⟨call, by simp, hwrites⟩
      · rw [if_neg hwrites, ih]
        constructor
        · intro ⟨other, hmem, hother⟩
          exact ⟨other, List.mem_append_left _ hmem, hother⟩
        · intro ⟨other, hmem, hother⟩
          rcases List.mem_append.mp hmem with hmem | hmem
          · exact ⟨other, hmem, hother⟩
          · rw [List.mem_singleton.mp hmem] at hother
            exact absurd hother hwrites

/-- The bytes last written to a plane-line, when all calls that write it have the same. -/
theorem last_written_eq {bytes : Bytes}
    (hsome : ∃ call ∈ calls, call.Writes metadata logicalChannel row)
    (hall : ∀ call ∈ calls, call.Writes metadata logicalChannel row → call.bytes = bytes) :
    lastWritten metadata calls logicalChannel row = some bytes := by
  induction calls using List.reverseRecOn with
  | nil => exact absurd hsome (by simp)
  | append_singleton calls call ih =>
      simp only [lastWritten, List.foldl_append, List.foldl_cons, List.foldl_nil] at ih ⊢
      by_cases hwrites : call.Writes metadata logicalChannel row
      · rw [if_pos hwrites, hall call (by simp) hwrites]
      · rw [if_neg hwrites]
        refine ih ?_ fun other hother ↦ hall other (List.mem_append_left _ hother)
        obtain ⟨other, hmem, hother⟩ := hsome
        rcases List.mem_append.mp hmem with hmem | hmem
        · exact ⟨other, hmem, hother⟩
        · rw [List.mem_singleton.mp hmem] at hother
          exact absurd hother hwrites

/-! ## The writer refines the table -/

/-- An open writer whose file and line bits hold a table of lines. -/
structure Holds (s : State) (content : Bytes) (table : LineTable) : Prop
    extends Writer.Opened s content where
  bit : ∀ index < lineCount s.writer.metadata,
    s.writer.linesWritten[index]? = some (table index).isSome
  line : ∀ index < lineCount s.writer.metadata, ∀ bytes, table index = some bytes →
    cell content headerBytes (lineBytes s.writer.metadata) index = bytes

variable {s s' : State} {content : Bytes} {table : LineTable}

/-- A file that `create` returns with holds the empty table. -/
theorem create_holds {io : CreateIo} {directory : String}
    (h : Writer.create s io directory metadata = (s', .ok ())) :
    ∃ content, Holds s' content fun _ ↦ none := by
  obtain ⟨⟨content, hopen, -⟩, hmetadata, -, -, hbits⟩ := Writer.create_sound h
  refine ⟨content, hopen, ?_, ?_⟩
  · intro index hindex
    rw [hmetadata] at hindex
    rw [hbits, List.getElem?_replicate]
    exact if_pos hindex
  · intro index hindex bytes hbytes
    exact absurd hbytes (by simp)

/-- The writer after `bytes` went to the cell `index` of its file. -/
def written (s : State) (content : Bytes) (index : Nat) (bytes : Bytes) : State where
  files := s.files.set s.writer.partialPath
    (overwrite content (headerBytes + index * lineBytes s.writer.metadata) bytes)
  writer := { s.writer with linesWritten := s.writer.linesWritten.set index true }

/-- An accepted call without I/O failures. -/
theorem write_lines_accepted (h : Writer.Opened s content) {call : WriteCall}
    (hrange : InRange s.writer.metadata call.logicalChannel call.row)
    (hlength : call.bytes.length = lineBytes s.writer.metadata) :
    writeLines s [call] =
      written s content (lineIndex s.writer.metadata call.logicalChannel call.row) call.bytes := by
  rw [writeLines, List.foldl_cons, List.foldl_nil, Writer.write_line_accepted h hrange hlength]
  rfl

/-- Writing a cell of a file that holds a table updates the table. -/
theorem Holds.written (h : Holds s content table) {index : Nat} {bytes : Bytes}
    (hindex : index < lineCount s.writer.metadata)
    (hlength : bytes.length = lineBytes s.writer.metadata)
    (hopen : Writer.Opened (written s content index bytes)
      (overwrite content (headerBytes + index * lineBytes s.writer.metadata) bytes)) :
    Holds (written s content index bytes)
      (overwrite content (headerBytes + index * lineBytes s.writer.metadata) bytes)
      (Function.update table index (some bytes)) := by
  have hinside : headerBytes + index * lineBytes s.writer.metadata ≤ content.length := by
    have hle : index * lineBytes s.writer.metadata ≤
        lineCount s.writer.metadata * lineBytes s.writer.metadata :=
      Nat.mul_le_mul_right _ hindex.le
    rw [h.length, h.body, h.valid.expected_to_nat]
    exact Nat.add_le_add_left hle _
  refine ⟨hopen, ?_, ?_⟩
  · intro other hlt
    by_cases hsame : other = index
    · subst hsame
      have hset : (s.writer.linesWritten.set other true)[other]? = some true :=
        List.getElem?_set_self (by rw [h.bits]; exact hindex)
      rw [Function.update_self]
      exact hset
    · have hset : (s.writer.linesWritten.set index true)[other]? =
          s.writer.linesWritten[other]? := List.getElem?_set_ne (Ne.symm hsame)
      rw [Function.update_of_ne hsame]
      exact hset.trans (h.bit other hlt)
  · intro other hlt stored hstored
    by_cases hsame : other = index
    · subst hsame
      rw [Function.update_self] at hstored
      exact (cell_overwrite_same hinside hlength).trans (Option.some.inj hstored)
    · rw [Function.update_of_ne hsame] at hstored
      exact (cell_overwrite_other hinside (Nat.le_of_eq hlength) hsame).trans
        (h.line other hlt stored hstored)

/-- One call without I/O failures does to the writer what it does to the table. It changes neither
the metadata nor the paths, and no file but the temporary one. -/
theorem write_line_holds (h : Holds s content table) (call : WriteCall) :
    ∃ content', Holds (writeLines s [call]) content' (table.record s.writer.metadata call) ∧
      (writeLines s [call]).writer.metadata = s.writer.metadata ∧
      (writeLines s [call]).writer.partialPath = s.writer.partialPath ∧
      (writeLines s [call]).writer.finalPath = s.writer.finalPath ∧
      ∀ path, path ≠ s.writer.partialPath → (writeLines s [call]).files path = s.files path := by
  by_cases haccept : Writer.Accepts s.writer.metadata call.logicalChannel call.row call.bytes
  · obtain ⟨hrange, hlength⟩ := (Writer.accepts_iff h.valid).mp haccept
    have hcall := write_lines_accepted h.toOpened hrange hlength
    obtain ⟨content', hopen⟩ := h.toOpened.write_line .done "" call.logicalChannel call.row
      call.bytes
    change Writer.Opened (writeLines s [call]) content' at hopen
    rw [hcall] at hopen ⊢
    have hcontent := hopen.stored
    simp only [written, Store.set_same, Option.some.injEq] at hcontent
    subst hcontent
    rw [LineTable.record, if_pos haccept]
    refine ⟨_, h.written hrange.index_lt hlength hopen, rfl, rfl, rfl, ?_⟩
    intro path hpath
    exact Store.set_other _ _ hpath
  · rw [writeLines, List.foldl_cons, List.foldl_nil, Writer.write_line_rejected haccept,
      LineTable.record, if_neg haccept]
    exact ⟨content, h, rfl, rfl, rfl, fun _ _ ↦ rfl⟩

/-- Any sequence of calls does to the writer what it does to the table. -/
theorem write_lines_holds (h : Holds s content table) (calls : List WriteCall) :
    ∃ content',
      Holds (writeLines s calls) content' (calls.foldl (LineTable.record s.writer.metadata) table) ∧
      (writeLines s calls).writer.metadata = s.writer.metadata ∧
      (writeLines s calls).writer.partialPath = s.writer.partialPath ∧
      (writeLines s calls).writer.finalPath = s.writer.finalPath ∧
      ∀ path, path ≠ s.writer.partialPath → (writeLines s calls).files path = s.files path := by
  induction calls generalizing s content table with
  | nil => exact ⟨content, h, rfl, rfl, rfl, fun _ _ ↦ rfl⟩
  | cons call calls ih =>
      obtain ⟨middle, hmiddle, hmetadata, hpart, hfinal, hfiles⟩ := write_line_holds h call
      obtain ⟨content', hlast, hmetadata', hpart', hfinal', hfiles'⟩ := ih hmiddle
      rw [hmetadata] at hlast
      refine ⟨content', hlast, hmetadata'.trans hmetadata, hpart'.trans hpart,
        hfinal'.trans hfinal, ?_⟩
      intro path hpath
      exact (hfiles' path (by rw [hpart]; exact hpath)).trans (hfiles path hpath)

/-- The line bits are all set exactly when the table is full. -/
theorem Holds.count_eq_iff (h : Holds s content table) :
    s.writer.linesWritten.count true = s.writer.linesWritten.length ↔
      ∀ index < lineCount s.writer.metadata, (table index).isSome := by
  rw [List.count_eq_length]
  constructor
  · intro hall index hindex
    have hbit := h.bit index hindex
    exact (hall _ (List.mem_of_getElem? hbit)).symm
  · intro hfull bit hbit
    obtain ⟨index, hindex, rfl⟩ := List.getElem_of_mem hbit
    have hlt : index < lineCount s.writer.metadata := by
      rw [← h.bits]
      exact hindex
    have hget := h.bit index hlt
    rw [List.getElem?_eq_getElem hindex, Option.some.injEq, hfull index hlt] at hget
    exact hget.symm

/-! ## The round trip -/

/-- The lines last written, channel by channel and row by row. -/
def channelMajor (metadata : DirectPrintSpool) (calls : List WriteCall) : Bytes :=
  (List.range metadata.logicalChannelCount.toInt.toNat).flatMap fun logicalChannel ↦
    (List.range metadata.height.toInt.toNat).flatMap fun row ↦
      (lastWritten metadata calls (Int32.ofNat logicalChannel) (Int32.ofNat row)).getD []

/-- The size and offset arithmetic of a spool agrees with unbounded integers, and every offset is
a position in a file. -/
structure NoOverflow (metadata : DirectPrintSpool) : Prop where
  lines : (metadata.logicalChannelCount * metadata.height).toInt =
    metadata.logicalChannelCount.toInt * metadata.height.toInt
  body : ((expectedBodyBytes metadata).toNat : Int) =
    metadata.logicalChannelCount.toInt * metadata.height.toInt * metadata.bytesPerLine.toInt
  file : headerBytes + (expectedBodyBytes metadata).toNat < 2 ^ 63
  bit : ∀ logicalChannel row, InRange metadata logicalChannel row →
    (Writer.lineBit metadata logicalChannel row).toInt =
      logicalChannel.toInt * metadata.height.toInt + row.toInt
  offset : ∀ logicalChannel row, InRange metadata logicalChannel row →
    ((lineOffset (UInt64.ofNat headerBytes) metadata logicalChannel row).toNat : Int) =
      headerBytes + (logicalChannel.toInt * metadata.height.toInt + row.toInt) *
        metadata.bytesPerLine.toInt

/-- The index of a plane-line over unbounded integers. -/
theorem line_index_to_int (hvalid : Valid metadata)
    (hrange : InRange metadata logicalChannel row) :
    (lineIndex metadata logicalChannel row : Int) =
      logicalChannel.toInt * metadata.height.toInt + row.toInt := by
  rw [lineIndex, Nat.cast_add, Nat.cast_mul, Int.toNat_of_nonneg hrange.channel_nonneg,
    Int.toNat_of_nonneg hvalid.height_pos.le, Int.toNat_of_nonneg hrange.row_nonneg]

/-- Nothing overflows for valid metadata. -/
theorem Valid.no_overflow (hvalid : Valid metadata) : NoOverflow metadata := by
  have hchannels := hvalid.channels_pos
  have hheight := hvalid.height_pos
  have hline := hvalid.line_pos
  have hexpected := hvalid.expected_lt
  refine ⟨?_, ?_, by simp only [headerBytes]; omega, ?_, ?_⟩
  · rw [Writer.line_count_to_int hvalid, lineCount, Nat.cast_mul, Int.toNat_of_nonneg hchannels.le,
      Int.toNat_of_nonneg hheight.le]
  · rw [hvalid.expected_to_nat, Nat.cast_mul, Nat.cast_mul, Int.toNat_of_nonneg hchannels.le,
      Int.toNat_of_nonneg hheight.le, Int.toNat_of_nonneg hline.le]
  · intro logicalChannel row hrange
    rw [Writer.line_bit_to_int hvalid hrange, line_index_to_int hvalid hrange]
  · intro logicalChannel row hrange
    rw [(hrange.offset_to_nat hvalid).1, Nat.cast_add, Nat.cast_mul,
      line_index_to_int hvalid hrange, lineBytes, Int.toNat_of_nonneg hline.le]

/-- A range of products is a range of ranges. -/
theorem flat_map_range_mul {α : Type} (f : Nat → List α) (rows columns : Nat) :
    (List.range (rows * columns)).flatMap f =
      (List.range rows).flatMap fun row ↦
        (List.range columns).flatMap fun column ↦ f (row * columns + column) := by
  induction rows with
  | zero => simp
  | succ rows ih =>
      rw [Nat.succ_mul, List.range_add, List.flatMap_append, ih, List.range_succ,
        List.flatMap_append, List.flatMap_singleton, List.flatMap_map]

/-- The body of a file that holds a full table is the table in channel-major order. -/
theorem Holds.body_eq (h : Holds s content (tableOf s.writer.metadata calls))
    (hfull : ∀ index < lineCount s.writer.metadata,
      (tableOf s.writer.metadata calls index).isSome) :
    readAt content headerBytes s.writer.metadata.bodyBytes.toNat =
      channelMajor s.writer.metadata calls := by
  have hbody : s.writer.metadata.bodyBytes.toNat =
      s.writer.metadata.logicalChannelCount.toInt.toNat * s.writer.metadata.height.toInt.toNat *
        lineBytes s.writer.metadata := by
    rw [h.body, h.valid.expected_to_nat]
    rfl
  have hheight_lt := s.writer.metadata.height.toInt_lt
  have hchannels_le := h.valid.channels_le
  rw [hbody, read_at_cells, flat_map_range_mul]
  apply List.flatMap_congr
  intro logicalChannel hchannel
  apply List.flatMap_congr
  intro row hrow
  rw [List.mem_range] at hchannel hrow
  have hchannel_int : (Int32.ofNat logicalChannel).toInt = logicalChannel :=
    Int32.toInt_ofNat_of_lt (by omega)
  have hrow_int : (Int32.ofNat row).toInt = row := Int32.toInt_ofNat_of_lt (by omega)
  have hrange : InRange s.writer.metadata (Int32.ofNat logicalChannel) (Int32.ofNat row) :=
    ⟨by omega, by omega, by omega, by omega⟩
  have hindex : lineIndex s.writer.metadata (Int32.ofNat logicalChannel) (Int32.ofNat row) =
      logicalChannel * s.writer.metadata.height.toInt.toNat + row := by
    rw [lineIndex, hchannel_int, hrow_int, Int.toNat_natCast, Int.toNat_natCast]
  obtain ⟨bytes, hbytes⟩ := Option.isSome_iff_exists.mp (hfull _ hrange.index_lt)
  rw [← hindex, h.line _ hrange.index_lt bytes hbytes, ← table_of_line_index h.valid hrange,
    hbytes, Option.getD_some]

/-- The table of a complete sequence of calls is full. -/
theorem table_of_full_iff (hvalid : Valid metadata) :
    (∀ index < lineCount metadata, (tableOf metadata calls index).isSome) ↔
      ∀ logicalChannel row, InRange metadata logicalChannel row →
        ∃ call ∈ calls, call.Writes metadata logicalChannel row := by
  constructor
  · intro hfull logicalChannel row hrange
    rw [← last_written_is_some, ← table_of_line_index hvalid hrange]
    exact hfull _ hrange.index_lt
  · intro hall index hindex
    obtain ⟨logicalChannel, row, hrange, rfl⟩ := InRange.exists_of_lt hvalid hindex
    rw [table_of_line_index hvalid hrange, last_written_is_some]
    exact hall logicalChannel row hrange

/-- After `create` and any calls without failures the writer holds the table of the calls. -/
theorem session_table {created : State} {io : CreateIo} {directory : String}
    (hcreate : Writer.create s io directory metadata = (created, .ok ())) (calls : List WriteCall) :
    (∃ content, Holds (writeLines created calls) content
      (tableOf (writeLines created calls).writer.metadata calls)) ∧
      (writeLines created calls).writer.metadata = Writer.createMetadata metadata := by
  obtain ⟨content, hcreated⟩ := create_holds hcreate
  obtain ⟨-, hmetadata, -⟩ := Writer.create_sound hcreate
  obtain ⟨content', hholds, hmetadata', -⟩ := write_lines_holds hcreated calls
  refine ⟨⟨content', ?_⟩, hmetadata'.trans hmetadata⟩
  rw [hmetadata']
  exact hholds

/-- Its final name stays free until it is finalized. -/
theorem session_final_path {created : State} {io : CreateIo} {directory : String}
    (hcreate : Writer.create s io directory metadata = (created, .ok ()))
    (hfree : s.files (finalPathOf directory io.token) = none) (calls : List WriteCall) :
    (writeLines created calls).files (writeLines created calls).writer.finalPath = none := by
  obtain ⟨⟨allocated, -, hfiles⟩, -, hpart, hfinal, -⟩ := Writer.create_sound hcreate
  obtain ⟨content, hcreated⟩ := create_holds hcreate
  obtain ⟨content', -, -, -, hfinal', hfiles'⟩ := write_lines_holds hcreated calls
  have hne := final_path_ne_temporary directory io.token
  rw [hfinal', hfinal, hfiles' _ (by rw [hpart]; exact hne), hfiles, Store.set_other _ _ hne]
  simp only [Writer.cancel]
  split_ifs
  · exact hfree
  · by_cases hold : finalPathOf directory io.token = s.writer.partialPath
    · rw [hold, Store.remove_same]
    · rw [Store.remove_other _ hold, hfree]

/-- A writer that holds the table of its calls is finalized exactly when they wrote every
plane-line. -/
theorem Holds.finalize_iff {sha256 : Sha256} (h : Holds s content (tableOf s.writer.metadata calls))
    (hfree : s.files s.writer.finalPath = none) {finalIo : FinalizeIo} (hfinal : finalIo.Ok) :
    (∃ finished result, Writer.finalize sha256 s finalIo = (finished, .ok result)) ↔
      ∀ logicalChannel row, InRange s.writer.metadata logicalChannel row →
        ∃ call ∈ calls, call.Writes s.writer.metadata logicalChannel row := by
  rw [← table_of_full_iff h.valid, ← h.count_eq_iff]
  constructor
  · intro ⟨finished, result, hfinalize⟩
    exact (Writer.finalize_sound h.toOpened hfinalize).1
  · intro hcount
    obtain ⟨finished, hfinalize⟩ := Writer.finalize_complete h.toOpened hfinal hcount hfree
    exact ⟨finished, _, hfinalize⟩

/-- Without failures a new spool whose plane-lines are all written is finalized. -/
theorem exists_finalized (sha256 : Sha256) (hvalid : Valid (Writer.createMetadata metadata))
    (hall : ∀ logicalChannel row, InRange metadata logicalChannel row →
      ∃ call ∈ calls, call.Writes metadata logicalChannel row) :
    ∃ (s created finished : State) (result : DirectPrintSpool),
      Writer.create s { token := 7 } "/tmp" metadata = (created, .ok ()) ∧
      Writer.finalize sha256 (writeLines created calls) {} = (finished, .ok result) := by
  obtain ⟨created, hcreate⟩ : ∃ created, Writer.create ⟨fun _ ↦ none, {}⟩ { token := 7 } "/tmp"
      metadata = (created, .ok ()) := Writer.create_complete ⟨rfl, rfl, rfl, rfl⟩ hvalid
  obtain ⟨⟨content, hholds⟩, hmetadata⟩ := session_table hcreate calls
  have hfree := session_final_path hcreate rfl calls
  have hwritten : ∀ logicalChannel row,
      InRange (writeLines created calls).writer.metadata logicalChannel row →
      ∃ call ∈ calls,
        call.Writes (writeLines created calls).writer.metadata logicalChannel row := by
    rw [hmetadata]
    intro logicalChannel row hrange
    exact hall logicalChannel row ⟨hrange.1, hrange.2, hrange.3, hrange.4⟩
  obtain ⟨finished, result, hfinalize⟩ := (hholds.finalize_iff hfree .default).mpr hwritten
  exact ⟨_, created, finished, result, hcreate, hfinalize⟩

/-- A finalized spool has the metadata of its writer, less the path and the checksum. -/
theorem Holds.finalized_metadata {sha256 : Sha256} {table : LineTable} (h : Holds s content table)
    {finalIo : FinalizeIo} {finished : State} {result : DirectPrintSpool}
    (hfinalize : Writer.finalize sha256 s finalIo = (finished, .ok result)) :
    result = { s.writer.metadata with path := result.path, sha256 := result.sha256 } := by
  obtain ⟨-, -, rfl, -⟩ := Writer.finalize_sound h.toOpened hfinalize
  rfl

/-- A finalized spool is verified, opens with its metadata and reads back the table. -/
theorem Holds.reads_back {sha256 : Sha256} (h : Holds s content (tableOf s.writer.metadata calls))
    {finalIo : FinalizeIo} {finished : State} {result : DirectPrintSpool}
    (hfinalize : Writer.finalize sha256 s finalIo = (finished, .ok result))
    {files : Store String} (hsame : files result.path = finished.files result.path)
    {checksumIo : ChecksumIo} (hchecksum : checksumIo.Ok) (verifyChecksum : Bool)
    {sizes : Nat → Int64} (hsizes : ∀ index, 0 < sizes index) :
    result = { s.writer.metadata with path := result.path, sha256 := result.sha256 } ∧
      verify sha256 checksumIo files result = .ok () ∧
      ∃ reader,
        Reader.open sha256 checksumIo files result.path verifyChecksum = .ok reader ∧
        reader.metadata = result ∧
        (∀ logicalChannel row, InRange s.writer.metadata logicalChannel row →
          ∃ bytes, lastWritten s.writer.metadata calls logicalChannel row = some bytes ∧
            reader.readLine files logicalChannel row = .ok bytes) ∧
        reader.readBody files sizes result.bodyBytes.toNat 0 0 =
          .ok (channelMajor s.writer.metadata calls) := by
  obtain ⟨hcount, -, rfl, hfiles⟩ := Writer.finalize_sound h.toOpened hfinalize
  have hfull := h.count_eq_iff.mp hcount
  have hfile : files s.writer.finalPath =
      some (Writer.published sha256 content s.writer.metadata) := by
    rw [Writer.final_metadata_path, hfiles, Store.set_same] at hsame
    exact hsame
  obtain ⟨hreader, hcomplete⟩ := Writer.published_opens h.toOpened hfile hchecksum verifyChecksum
  have hcontent : Reader.content
      { path := s.writer.finalPath, metadata := Writer.finalMetadata sha256 content s.writer }
      files = Writer.published sha256 content s.writer.metadata := by
    rw [Reader.content, hfile, Option.getD_some]
  refine ⟨rfl, Writer.published_verified h.toOpened hfile hchecksum, _, hreader, rfl, ?_, ?_⟩
  · intro logicalChannel row hrange
    have hindex := hrange.index_lt
    obtain ⟨bytes, hbytes⟩ := Option.isSome_iff_exists.mp (hfull _ hindex)
    have hread := Reader.read_line_eq hcomplete
      (InRange.mk hrange.1 hrange.2 hrange.3 hrange.4 :
        InRange (Writer.finalMetadata sha256 content s.writer) logicalChannel row)
    have hcell : cell (Writer.published sha256 content s.writer.metadata) headerBytes
        (lineBytes s.writer.metadata) (lineIndex s.writer.metadata logicalChannel row) = bytes :=
      (Writer.published_body h.toOpened (Nat.le_add_right ..)).trans (h.line _ hindex bytes hbytes)
    refine ⟨bytes, (table_of_line_index h.valid hrange).symm.trans hbytes, ?_⟩
    rw [hread, hcontent]
    exact congrArg Except.ok hcell
  · have hread := Reader.read_body_eq hcomplete hsizes 0 UInt64.zero_le (Nat.sub_le ..)
    rw [hread, hcontent]
    exact congrArg Except.ok
      ((Writer.published_body h.toOpened (Nat.le_add_right ..)).trans (h.body_eq hfull))

/-- After `create` and any calls without failures, `finalize` succeeds exactly when every plane-line
was written. The published spool is then verified and reads back, by line and by chunk, the bytes
last written. -/
theorem spool_round_trip (sha256 : Sha256) {created : State} {io : CreateIo} {directory : String}
    (hcreate : Writer.create s io directory metadata = (created, .ok ())) (calls : List WriteCall)
    {finalIo : FinalizeIo} (hfinal : finalIo.Ok)
    (hfree : s.files (finalPathOf directory io.token) = none)
    {checksumIo : ChecksumIo} (hchecksum : checksumIo.Ok) (verifyChecksum : Bool)
    {sizes : Nat → Int64} (hsizes : ∀ index, 0 < sizes index) :
    ((∃ finished result,
        Writer.finalize sha256 (writeLines created calls) finalIo = (finished, .ok result)) ↔
      ∀ logicalChannel row, InRange metadata logicalChannel row →
        ∃ call ∈ calls, call.Writes metadata logicalChannel row) ∧
    ∀ finished result,
      Writer.finalize sha256 (writeLines created calls) finalIo = (finished, .ok result) →
      NoOverflow metadata ∧
      verify sha256 checksumIo finished.files result = .ok () ∧
      ∃ reader,
        Reader.open sha256 checksumIo finished.files result.path verifyChecksum = .ok reader ∧
        reader.metadata =
          { metadata with
            path := result.path
            bodyOffset := UInt64.ofNat headerBytes
            bodyBytes := expectedBodyBytes metadata
            sha256 := result.sha256 } ∧
        (∀ logicalChannel row, InRange metadata logicalChannel row →
          ∃ bytes, lastWritten metadata calls logicalChannel row = some bytes ∧
            reader.readLine finished.files logicalChannel row = .ok bytes) ∧
        reader.readBody finished.files sizes (expectedBodyBytes metadata).toNat 0 0 =
          .ok (channelMajor metadata calls) := by
  obtain ⟨⟨content, hholds⟩, hmetadata⟩ := session_table hcreate calls
  have hfree' := session_final_path hcreate hfree calls
  -- The metadata that is kept differs in the path, the sizes and the checksum only, so the lines in
  -- range and their table are those of `metadata`.
  have hrange : ∀ logicalChannel row, InRange metadata logicalChannel row ↔
      InRange (Writer.createMetadata metadata) logicalChannel row :=
    fun logicalChannel row ↦ ⟨fun h ↦ ⟨h.1, h.2, h.3, h.4⟩, fun h ↦ ⟨h.1, h.2, h.3, h.4⟩⟩
  simp only [hrange]
  refine ⟨?_, ?_⟩
  · have hiff : (∃ finished result,
        Writer.finalize sha256 (writeLines created calls) finalIo = (finished, .ok result)) ↔ _ :=
      hholds.finalize_iff hfree' hfinal
    rw [hmetadata] at hiff
    exact hiff
  · intro finished result hfinalize
    have hvalid := hholds.valid
    obtain ⟨hresult, hverify, reader, hopen, hreader, hlines, hbody⟩ :=
      hholds.reads_back hfinalize rfl hchecksum verifyChecksum hsizes
    rw [hmetadata] at hresult hlines hbody hvalid
    have hoverflow := hvalid.no_overflow
    refine ⟨⟨hoverflow.1, hoverflow.2, hoverflow.3, ?_, ?_⟩, hverify, reader, hopen, ?_, hlines, ?_⟩
    · intro logicalChannel row h
      exact hoverflow.bit logicalChannel row ((hrange logicalChannel row).mp h)
    · intro logicalChannel row h
      exact hoverflow.offset logicalChannel row ((hrange logicalChannel row).mp h)
    · rw [hreader]
      exact hresult
    · rw [hresult] at hbody
      exact hbody

/-- The metadata of a spool with one plane-line of four dots. -/
def oneLineMetadata : DirectPrintSpool where
  channelOrder := [0]
  logicalChannelCount := 1
  width := 4
  height := 1
  xdpi := 720
  ydpi := 600
  bytesPerLine := 4
  format := .nocaiX33Standard

/-- It is valid. -/
theorem one_line_valid : Valid (Writer.createMetadata oneLineMetadata) :=
  ⟨by decide, by decide, by decide, by decide, by decide, by decide, by decide, by decide,
    by decide, by decide, by decide, List.all_iff_forall_prop.mp (by decide), Or.inr rfl⟩

/-- Its only line is written, another one is rejected, and it is rewritten. -/
def oneLineCalls : List WriteCall :=
  [⟨0, 0, [0x1b, 0, 0, 0]⟩, ⟨1, 0, [1, 1, 1, 1]⟩, ⟨0, 0, [0xe4, 0, 0, 0]⟩]

/-- These calls write every plane-line. -/
theorem one_line_full (logicalChannel row : Int32)
    (h : InRange oneLineMetadata logicalChannel row) :
    ∃ call ∈ oneLineCalls, call.Writes oneLineMetadata logicalChannel row := by
  obtain ⟨hchannel, hchannel_lt, hrow, hrow_lt⟩ := h
  have hone : Int32.toInt 1 = 1 := rfl
  simp only [oneLineMetadata, hone] at hchannel_lt hrow_lt
  obtain rfl : logicalChannel = 0 := Int32.toInt_inj.mp (by rw [Int32.toInt_zero]; omega)
  obtain rfl : row = 0 := Int32.toInt_inj.mp (by rw [Int32.toInt_zero]; omega)
  exact ⟨⟨0, 0, [0xe4, 0, 0, 0]⟩, by simp [oneLineCalls], by decide⟩

/-- A digest for the examples. -/
def zeroDigest : Sha256 := ⟨fun _ ↦ List.replicate 32 0, fun _ ↦ List.length_replicate⟩

/-- The spool is created where there are no files. -/
theorem one_line_created :
    ∃ created, Writer.create ⟨fun _ ↦ none, {}⟩ { token := 7 } "/tmp" oneLineMetadata =
      (created, .ok ()) :=
  Writer.create_complete ⟨rfl, rfl, rfl, rfl⟩ one_line_valid

/-- Its line reads back as last written. -/
theorem spool_round_trip_one_line :
    ∃ created finished result reader,
      Writer.create ⟨fun _ ↦ none, {}⟩ { token := 7 } "/tmp" oneLineMetadata = (created, .ok ()) ∧
      Writer.finalize zeroDigest (writeLines created oneLineCalls) {} = (finished, .ok result) ∧
      Reader.open zeroDigest {} finished.files result.path true = .ok reader ∧
      reader.readLine finished.files 0 0 = .ok [0xe4, 0, 0, 0] := by
  have hsize : (0 : Int64) < 3 := by decide
  have hsizes : ∀ index : Nat, (0 : Int64) < (fun _ ↦ 3) index := fun _ ↦ hsize
  obtain ⟨created, hcreate⟩ := one_line_created
  obtain ⟨hiff, hreads⟩ :=
    spool_round_trip zeroDigest hcreate oneLineCalls .default rfl .default true hsizes
  obtain ⟨finished, result, hfinalize⟩ := hiff.mpr one_line_full
  obtain ⟨-, -, reader, hopen, -, hlines, -⟩ := hreads finished result hfinalize
  obtain ⟨bytes, hlast, hread⟩ := hlines 0 0 ⟨by decide, by decide, by decide, by decide⟩
  have hbytes : lastWritten oneLineMetadata oneLineCalls 0 0 = some [0xe4, 0, 0, 0] := by decide
  rw [hbytes, Option.some.injEq] at hlast
  exact ⟨created, finished, result, reader, hcreate, hfinalize, hopen, hlast ▸ hread⟩

end PrintFlow.RasterSpool
