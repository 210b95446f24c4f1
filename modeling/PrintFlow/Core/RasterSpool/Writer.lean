import PrintFlow.Core.RasterSpool.Reader

/-!
# Writing spool files

A `Writer` allocates the whole file under a temporary name, accepts lines in any order, and
`finalize` publishes the file under its final name. Every operation of the environment (creating,
writing, flushing, renaming) answers through an `...Io` record, so that each failure path of the
source is a path of the model.
-/

namespace PrintFlow.RasterSpool

open DataStream FileStore

/-- `m_file`: no file object, or one that is closed or open. -/
inductive FileHandle where
  | absent
  | closed
  | opened
  deriving DecidableEq, Repr

/-- The members of `Writer`. -/
structure Writer where
  file : FileHandle := .absent
  metadata : DirectPrintSpool := {}
  partialPath : String := ""
  finalPath : String := ""
  linesWritten : List Bool := []
  finalized : Bool := false

/-- A writer and the files around it. -/
structure State where
  files : Store String
  writer : Writer

/-- The answers to `Writer::create`: whether the directory is there or could be made, the random
token, the opening, the header write, the allocation, and the text of a failed file operation. -/
structure CreateIo where
  directory : Bool := true
  token : UInt64
  opened : Bool := true
  header : Io := .done
  resize : Bool := true
  errorString : String := ""

/-- The answers to `Writer::finalize`. -/
structure FinalizeIo where
  flush : Bool := true
  checksum : ChecksumIo := {}
  header : Io := .done
  flushHeader : Bool := true
  rename : Bool := true
  errorString : String := ""

/-- Nothing fails and nothing is canceled. -/
structure FinalizeIo.Ok (io : FinalizeIo) : Prop where
  flush : io.flush = true
  checksum : io.checksum.Ok
  header : io.header.ok = true
  flushHeader : io.flushHeader = true
  rename : io.rename = true

/-- By default nothing fails and nothing is canceled. -/
theorem FinalizeIo.Ok.default : ({} : FinalizeIo).Ok := ⟨rfl, .default, rfl, rfl, rfl⟩

/-- `QString::number(token, 16)`. -/
def hexToken (token : UInt64) : String := String.ofList (Nat.toDigits 16 token.toNat)

/-- `QDir::filePath` for a plain file name. -/
def filePath (directory name : String) : String :=
  if directory.endsWith "/" then directory ++ name else directory ++ "/" ++ name

/-- The path while the spool is written. -/
def partialPathOf (directory : String) (token : UInt64) : String :=
  filePath directory ("printflow-" ++ hexToken token ++ ".pfrs.partial")

/-- The path of the finished spool. -/
def finalPathOf (directory : String) (token : UInt64) : String :=
  filePath directory ("printflow-" ++ hexToken token ++ ".pfrs")

/-- The two names of a spool differ. -/
theorem final_path_ne_temporary (directory : String) (token : UInt64) :
    finalPathOf directory token ≠ partialPathOf directory token := by
  intro heq
  have hlength := congrArg String.length heq
  have hsuffix : (".pfrs".length = 5) ∧ (".pfrs.partial".length = 13) := ⟨rfl, rfl⟩
  unfold finalPathOf partialPathOf filePath at hlength
  split_ifs at hlength <;> simp only [String.length_append] at hlength <;> omega

namespace Writer

/-- `Writer::cancel`. -/
def cancel (s : State) : State where
  files := if s.writer.partialPath = "" then s.files else s.files.remove s.writer.partialPath
  writer := { metadata := s.writer.metadata }

/-- Write `data` at `offset` of the temporary file, with the outcome `io`. -/
def writeAt (s : State) (io : Io) (offset : Nat) (data : Bytes) : State :=
  { s with files := s.files.modify s.writer.partialPath (overwrite · offset (io.stored data)) }

/-- `Writer::writeHeader`. -/
def writeHeader (s : State) (io : Io) (checksum : Option Bytes) : State × Except String Unit :=
  let header := encodeHeader s.writer.metadata checksum
  if header = [] ∨ s.writer.file ≠ .opened then
    (s, .error "Could not write raster spool header.")
  else
    (writeAt s io 0 header,
      if io.ok then .ok () else .error "Could not write raster spool header.")

/-- The metadata that `create` keeps. -/
def createMetadata (metadata : DirectPrintSpool) : DirectPrintSpool :=
  { metadata with
    bodyOffset := UInt64.ofNat headerBytes
    bodyBytes := expectedBodyBytes metadata
    sha256 := [] }

/-- The end of `create`, once the file is open: the header, the storage and the line bits. -/
def allocate (s : State) (io : CreateIo) : State × Except String Unit :=
  match writeHeader s io.header none with
  | (s, .error message) => (cancel s, .error message)
  | (s, .ok ()) =>
    if !io.resize then
      (cancel s, .error ("Could not allocate raster spool storage: " ++ io.errorString))
    else
      ({ files := s.files.modify s.writer.partialPath
          (resize · (UInt64.ofNat headerBytes + s.writer.metadata.bodyBytes).toNat)
         writer := { s.writer with
          linesWritten := List.replicate
            (s.writer.metadata.logicalChannelCount * s.writer.metadata.height).toInt.toNat false } },
        .ok ())

/-- `Writer::create`. -/
def create (s : State) (io : CreateIo) (directory : String) (metadata : DirectPrintSpool) :
    State × Except String Unit :=
  let s := cancel s
  let s := { s with writer := { s.writer with metadata := createMetadata metadata } }
  match metadataIsValid s.writer.metadata with
  | .error message => (s, .error message)
  | .ok () =>
    if !io.directory then (s, .error "Could not create the raster spool directory.")
    else
      let s := { s with writer := { s.writer with
        partialPath := partialPathOf directory io.token
        finalPath := finalPathOf directory io.token
        file := .closed } }
      if !io.opened then
        (cancel s, .error ("Could not create raster spool: " ++ io.errorString))
      else
        allocate { files := s.files.set s.writer.partialPath [],
                   writer := { s.writer with file := .opened } } io

/-- `Writer::lineOffset`. -/
def lineOffset (writer : Writer) (logicalChannel row : Int32) : UInt64 :=
  RasterSpool.lineOffset (UInt64.ofNat headerBytes) writer.metadata logicalChannel row

/-- The bit of a plane-line in `m_linesWritten`. -/
def lineBit (metadata : DirectPrintSpool) (logicalChannel row : Int32) : Int32 :=
  logicalChannel * metadata.height + row

/-- The arguments `writeLine` accepts. -/
def Accepts (metadata : DirectPrintSpool) (logicalChannel row : Int32) (bytes : Bytes) : Prop :=
  ¬ (logicalChannel < 0 ∨ logicalChannel ≥ metadata.logicalChannelCount ∨
    row < 0 ∨ row ≥ metadata.height ∨ (bytes.length : Int) ≠ metadata.bytesPerLine.toInt)

instance (metadata : DirectPrintSpool) (logicalChannel row : Int32) (bytes : Bytes) :
    Decidable (Accepts metadata logicalChannel row bytes) :=
  inferInstanceAs (Decidable (¬ _))

/-- `Writer::writeLine`, where a failed seek is a write that stores nothing. -/
def writeLine (s : State) (io : Io) (errorString : String) (logicalChannel row : Int32)
    (bytes : Bytes) : State × Except String Unit :=
  if s.writer.file ≠ .opened ∨ ¬ Accepts s.writer.metadata logicalChannel row bytes then
    (s, .error "Raster spool line write is invalid.")
  else
    let offset := s.writer.lineOffset logicalChannel row
    if ¬ seekable offset then
      (s, .error ("Could not write raster spool line: " ++ errorString))
    else
      let s := writeAt s io offset.toNat bytes
      if !io.ok then (s, .error ("Could not write raster spool line: " ++ errorString))
      else
        ({ s with writer := { s.writer with
            linesWritten := s.writer.linesWritten.set
              (lineBit s.writer.metadata logicalChannel row).toInt.toNat true } }, .ok ())

/-- The end of `finalize`: the header with the checksum, and the final name. -/
def publish (s : State) (io : FinalizeIo) (checksum : Bytes) :
    State × Except String DirectPrintSpool :=
  match writeHeader s io.header (some checksum) with
  | (s, .error message) => (s, .error message)
  | (s, .ok ()) =>
    if !io.flushHeader then (s, .error "")
    else
      let s := { s with writer := { s.writer with file := .closed } }
      match (if io.rename then s.files.rename s.writer.partialPath s.writer.finalPath else none) with
      | none => (s, .error "Could not finalize raster spool.")
      | some files =>
        let metadata := { s.writer.metadata with path := s.writer.finalPath, sha256 := checksum }
        ({ files, writer := { s.writer with metadata, finalized := true } }, .ok metadata)

/-- `Writer::finalize`. -/
def finalize (sha256 : Sha256) (s : State) (io : FinalizeIo) :
    State × Except String DirectPrintSpool :=
  if s.writer.file ≠ .opened then (s, .error "Raster spool is not open.")
  else if s.writer.linesWritten.count true ≠ s.writer.linesWritten.length then
    (s, .error "Raster spool is incomplete; one or more plane-lines were not written.")
  else if !io.flush then
    (s, .error ("Could not flush raster spool: " ++ io.errorString))
  else
    match spoolChecksum sha256 io.checksum ((s.files s.writer.partialPath).getD [])
        s.writer.metadata with
    | .error message => (s, .error message)
    | .ok checksum =>
      if checksum.length ≠ 32 then (s, .error "") else publish s io checksum

/-- `~Writer`. -/
def destroy (s : State) : State := if s.writer.finalized then s else cancel s

/-- The operations on a writer with the answers of their environment. -/
inductive Op where
  | create (io : CreateIo) (directory : String) (metadata : DirectPrintSpool)
  | writeLine (io : Io) (errorString : String) (logicalChannel row : Int32) (bytes : Bytes)
  | finalize (io : FinalizeIo)
  | cancel

/-- One operation. -/
def Op.apply (sha256 : Sha256) (s : State) : Op → State
  | .create io directory metadata => (Writer.create s io directory metadata).1
  | .writeLine io errorString logicalChannel row bytes =>
      (Writer.writeLine s io errorString logicalChannel row bytes).1
  | .finalize io => (Writer.finalize sha256 s io).1
  | .cancel => Writer.cancel s

/-- The states of a writer that starts without a file, after any operations. -/
def run (sha256 : Sha256) (files : Store String) (ops : List Op) : State :=
  ops.foldl (Op.apply sha256) { files, writer := {} }

/-! ## What the operations do -/

/-- A writer with an open file: its metadata is valid, its temporary file `content` has the full
length, and there is one bit for each plane-line. -/
structure Opened (s : State) (content : Bytes) : Prop where
  file : s.writer.file = .opened
  finalized : s.writer.finalized = false
  stored : s.files s.writer.partialPath = some content
  valid : Valid s.writer.metadata
  offset : s.writer.metadata.bodyOffset = UInt64.ofNat headerBytes
  body : s.writer.metadata.bodyBytes = expectedBodyBytes s.writer.metadata
  checksum : s.writer.metadata.sha256 = []
  length : content.length = headerBytes + s.writer.metadata.bodyBytes.toNat
  bits : s.writer.linesWritten.length = lineCount s.writer.metadata

variable {sha256 : Sha256} {s s' : State}

/-- Writing to the temporary file changes its contents and no other file. -/
theorem write_at_stored {io : Io} {offset : Nat} {data content : Bytes}
    (h : s.files s.writer.partialPath = some content) :
    (writeAt s io offset data).files =
      s.files.set s.writer.partialPath (overwrite content offset (io.stored data)) := by
  rw [writeAt, Store.modify_eq_set h]

@[simp] theorem write_at_writer (s : State) (io : Io) (offset : Nat) (data : Bytes) :
    (writeAt s io offset data).writer = s.writer := rfl

/-- Writing the header of valid metadata succeeds when the write does. -/
theorem write_header_eq {io : Io} {checksum : Option Bytes} (hfile : s.writer.file = .opened)
    (hvalid : Valid s.writer.metadata) (hchecksum : IsChecksum checksum) :
    writeHeader s io checksum =
      (writeAt s io 0 (encodeHeader s.writer.metadata checksum),
        if io.ok then .ok () else .error "Could not write raster spool header.") := by
  have hlength := encode_header_length hvalid.order_length hchecksum
  have hnil : encodeHeader s.writer.metadata checksum ≠ [] := by
    intro hnil
    rw [hnil] at hlength
    exact absurd hlength (by decide)
  simp only [writeHeader, hnil, hfile, ne_eq, not_true_eq_false, or_self, if_false]

/-- Nothing that `create` asks for fails. -/
structure CreateIo.Ok (io : CreateIo) : Prop where
  directory : io.directory = true
  opened : io.opened = true
  header : io.header.ok = true
  resize : io.resize = true

/-- Without failures the allocation succeeds. -/
theorem allocate_complete {io : CreateIo} (hio : CreateIo.Ok io)
    (hfile : s.writer.file = .opened) (hvalid : Valid s.writer.metadata) :
    ∃ created, allocate s io = (created, .ok ()) := by
  rw [allocate, write_header_eq hfile hvalid is_checksum_none, hio.header, if_pos rfl]
  simp only [hio.resize, Bool.not_true, Bool.false_eq_true, if_false]
  exact ⟨_, rfl⟩

/-- Without failures `create` accepts what the checks accept. -/
theorem create_complete {io : CreateIo} (hio : CreateIo.Ok io) {directory : String}
    {metadata : DirectPrintSpool} (hvalid : Valid (createMetadata metadata)) :
    ∃ created, create s io directory metadata = (created, .ok ()) := by
  simp only [create, metadata_is_valid_iff.mpr hvalid, hio.directory, hio.opened, Bool.not_true,
    Bool.false_eq_true, if_false]
  exact allocate_complete hio rfl hvalid

/-- The product that sizes the line bits does not wrap. -/
theorem line_count_to_int {metadata : DirectPrintSpool} (h : Valid metadata) :
    (metadata.logicalChannelCount * metadata.height).toInt = lineCount metadata := by
  have hchannels := h.channels_pos
  have hheight := h.height_pos
  have hlines := h.lines_le
  have hnonneg : 0 ≤ metadata.logicalChannelCount.toInt * metadata.height.toInt :=
    Int.mul_nonneg hchannels.le hheight.le
  rw [Int32.toInt_mul, Int.bmod_eq_of_le (by omega) (by omega), lineCount, Nat.cast_mul,
    Int.toNat_of_nonneg hchannels.le, Int.toNat_of_nonneg hheight.le]

/-- An allocation that succeeds leaves an open file of full length without lines. -/
theorem allocate_sound {io : CreateIo} (hfile : s.writer.file = .opened)
    (hfinalized : s.writer.finalized = false)
    (hstored : s.files s.writer.partialPath = some []) (hvalid : Valid s.writer.metadata)
    (hoffset : s.writer.metadata.bodyOffset = UInt64.ofNat headerBytes)
    (hbody : s.writer.metadata.bodyBytes = expectedBodyBytes s.writer.metadata)
    (hchecksum : s.writer.metadata.sha256 = [])
    (h : allocate s io = (s', .ok ())) :
    (∃ content, Opened s' content ∧ s'.files = s.files.set s.writer.partialPath content) ∧
      s'.writer = { s.writer with
        linesWritten := List.replicate (lineCount s.writer.metadata) false } := by
  rw [allocate, write_header_eq hfile hvalid is_checksum_none] at h
  cases hheader : io.header.ok with
  | false =>
      rw [hheader] at h
      exact absurd (congrArg Prod.snd h) (by simp)
  | true =>
      simp only [hheader, if_true, write_at_writer, write_at_stored hstored] at h
      cases hresize : io.resize with
      | false =>
          rw [hresize] at h
          exact absurd (congrArg Prod.snd h) (by simp)
      | true =>
          simp only [hresize, Bool.not_true, Bool.false_eq_true, if_false] at h
          obtain ⟨rfl, -⟩ := Prod.mk.inj h
          have hlines := line_count_to_int hvalid
          have hsize := hvalid.file_length
          rw [Store.modify_eq_set (Store.set_same ..), Store.set_set, hlines, Int.toNat_natCast,
            hsize]
          refine ⟨⟨_, ?_, rfl⟩, rfl⟩
          exact ⟨hfile, hfinalized, Store.set_same .., hvalid, hoffset, hbody, hchecksum,
            resize_length .., List.length_replicate⟩

/-- A file `create` returns with is open, allocated and has no line yet. -/
theorem create_sound {io : CreateIo} {directory : String} {metadata : DirectPrintSpool}
    (h : create s io directory metadata = (s', .ok ())) :
    (∃ content, Opened s' content ∧
      s'.files = (cancel s).files.set (partialPathOf directory io.token) content) ∧
      s'.writer.metadata = createMetadata metadata ∧
      s'.writer.partialPath = partialPathOf directory io.token ∧
      s'.writer.finalPath = finalPathOf directory io.token ∧
      s'.writer.linesWritten = List.replicate (lineCount metadata) false := by
  simp only [create] at h
  split at h
  · exact absurd (congrArg Prod.snd h) (by simp)
  · next hmetadata =>
      split_ifs at h with hdirectory hopened
      · exact absurd (congrArg Prod.snd h) (by simp)
      · exact absurd (congrArg Prod.snd h) (by simp)
      · have hvalid : Valid (createMetadata metadata) := metadata_is_valid_iff.mp hmetadata
        obtain ⟨⟨content, hopen, hfiles⟩, hwriter⟩ :=
          allocate_sound rfl rfl (Store.set_same ..) hvalid rfl rfl rfl h
        refine ⟨⟨content, hopen, ?_⟩, ?_⟩
        · rw [hfiles, Store.set_set]
        · rw [hwriter]
          exact ⟨rfl, rfl, rfl, rfl⟩

/-- The bit of a plane-line does not wrap either. -/
theorem line_bit_to_int {metadata : DirectPrintSpool} (h : Valid metadata)
    {logicalChannel row : Int32} (hrange : InRange metadata logicalChannel row) :
    (lineBit metadata logicalChannel row).toInt = lineIndex metadata logicalChannel row := by
  have hindex := hrange.index_lt
  have hlines := h.lines_to_nat_le
  have hcast : logicalChannel.toInt * metadata.height.toInt + row.toInt =
      lineIndex metadata logicalChannel row := by
    rw [lineIndex, Nat.cast_add, Nat.cast_mul, Int.toNat_of_nonneg hrange.channel_nonneg,
      Int.toNat_of_nonneg h.height_pos.le, Int.toNat_of_nonneg hrange.row_nonneg]
  have hproduct : 0 ≤ logicalChannel.toInt * metadata.height.toInt :=
    Int.mul_nonneg hrange.channel_nonneg h.height_pos.le
  have hrow := hrange.row_nonneg
  have hlt : lineIndex metadata logicalChannel row < 2147483647 := by
    simp only [lineCount] at hindex
    omega
  have hmul : (logicalChannel * metadata.height).toInt =
      logicalChannel.toInt * metadata.height.toInt := by
    rw [Int32.toInt_mul, Int.bmod_eq_of_le (by omega) (by omega)]
  rw [lineBit, Int32.toInt_add, hmul, Int.bmod_eq_of_le (by omega) (by omega), hcast]

/-- The accepted arguments: a plane-line of the spool and as many bytes as it has. -/
theorem accepts_iff {metadata : DirectPrintSpool} (h : Valid metadata)
    {logicalChannel row : Int32} {bytes : Bytes} :
    Accepts metadata logicalChannel row bytes ↔
      InRange metadata logicalChannel row ∧ bytes.length = lineBytes metadata := by
  have hline := h.line_pos
  simp only [Accepts, not_or, not_not, Int32.lt_iff_toInt_lt, ge_iff_le, Int32.le_iff_toInt_le,
    Int32.toInt_zero, not_lt, not_le, lineBytes]
  constructor
  · rintro ⟨hchannel, hchannel_lt, hrow, hrow_lt, hlength⟩
    exact ⟨⟨hchannel, hchannel_lt, hrow, hrow_lt⟩, by omega⟩
  · rintro ⟨⟨hchannel, hchannel_lt, hrow, hrow_lt⟩, hlength⟩
    exact ⟨hchannel, hchannel_lt, hrow, hrow_lt, by omega⟩

/-- A call that is not accepted changes nothing. -/
theorem write_line_rejected {io : Io} {errorString : String} {logicalChannel row : Int32}
    {bytes : Bytes} (h : ¬ Accepts s.writer.metadata logicalChannel row bytes) :
    writeLine s io errorString logicalChannel row bytes =
      (s, .error "Raster spool line write is invalid.") := by
  rw [writeLine, if_pos (Or.inr h)]

variable {content : Bytes}

/-- An accepted call writes the cell of its plane-line, and sets its bit when the write succeeds. -/
theorem write_line_accepted (hopen : Opened s content) {io : Io} {errorString : String}
    {logicalChannel row : Int32} {bytes : Bytes}
    (hrange : InRange s.writer.metadata logicalChannel row)
    (hlength : bytes.length = lineBytes s.writer.metadata) :
    writeLine s io errorString logicalChannel row bytes =
      ({ files := s.files.set s.writer.partialPath
          (overwrite content
            (headerBytes + lineIndex s.writer.metadata logicalChannel row *
              lineBytes s.writer.metadata) (io.stored bytes))
         writer :=
          if io.ok then
            { s.writer with
              linesWritten := s.writer.linesWritten.set
                (lineIndex s.writer.metadata logicalChannel row) true }
          else s.writer },
        if io.ok then .ok ()
        else .error ("Could not write raster spool line: " ++ errorString)) := by
  have haccept := (accepts_iff hopen.valid).mpr ⟨hrange, hlength⟩
  obtain ⟨hoffset, hend⟩ := hrange.offset_to_nat hopen.valid
  have hexpected := hopen.valid.expected_lt
  have hbit := line_bit_to_int hopen.valid hrange
  have hseek : seekable (s.writer.lineOffset logicalChannel row) = true := by
    rw [Nat.succ_mul] at hend
    simp only [seekable, Writer.lineOffset, hoffset, decide_eq_true_eq]
    simp only [headerBytes] at hend ⊢
    omega
  have hguard : ¬ (s.writer.file ≠ .opened ∨
      ¬ Accepts s.writer.metadata logicalChannel row bytes) := by
    rw [not_or, not_not, not_not]
    exact ⟨hopen.file, haccept⟩
  rw [writeLine, if_neg hguard, if_neg (not_not.mpr hseek)]
  have hwrite : writeAt s io (s.writer.lineOffset logicalChannel row).toNat bytes =
      { files := s.files.set s.writer.partialPath
          (overwrite content
            (headerBytes + lineIndex s.writer.metadata logicalChannel row *
              lineBytes s.writer.metadata) (io.stored bytes))
        writer := s.writer } := by
    rw [Writer.lineOffset, hoffset, writeAt, Store.modify_eq_set hopen.stored]
  simp only [hwrite, hbit, Int.toNat_natCast]
  cases io.ok with
  | false => rfl
  | true => rfl

/-- An accepted call keeps the file open and allocated, whether or not the write succeeds. -/
theorem Opened.write_line (hopen : Opened s content) (io : Io) (errorString : String)
    (logicalChannel row : Int32) (bytes : Bytes) :
    ∃ content', Opened (writeLine s io errorString logicalChannel row bytes).1 content' := by
  by_cases haccept : Accepts s.writer.metadata logicalChannel row bytes
  · obtain ⟨hrange, hlength⟩ := (accepts_iff hopen.valid).mp haccept
    obtain ⟨-, hend⟩ := hrange.offset_to_nat hopen.valid
    rw [write_line_accepted hopen hrange hlength]
    have hstored := io.stored_length_le bytes
    have hfits := hopen.length
    rw [hopen.body] at hfits
    rw [Nat.succ_mul] at hend
    have hnew : (overwrite content (headerBytes + lineIndex s.writer.metadata logicalChannel row *
        lineBytes s.writer.metadata) (io.stored bytes)).length = content.length :=
      overwrite_length (by omega)
    refine ⟨overwrite content (headerBytes + lineIndex s.writer.metadata logicalChannel row *
      lineBytes s.writer.metadata) (io.stored bytes), ?_⟩
    cases io.ok with
    | false =>
        exact ⟨hopen.file, hopen.finalized, Store.set_same .., hopen.valid, hopen.offset,
          hopen.body, hopen.checksum, hnew.trans hopen.length, hopen.bits⟩
    | true =>
        exact ⟨hopen.file, hopen.finalized, Store.set_same .., hopen.valid, hopen.offset,
          hopen.body, hopen.checksum, hnew.trans hopen.length, by simpa using hopen.bits⟩
  · rw [write_line_rejected haccept]
    exact ⟨content, hopen⟩

/-- What `finalize` writes over the header before it publishes the file. -/
def published (sha256 : Sha256) (content : Bytes) (metadata : DirectPrintSpool) : Bytes :=
  overwrite content 0 (encodeHeader metadata (some (sha256.digest (hashedBytes content metadata))))

/-- The metadata of a finalized spool. -/
def finalMetadata (sha256 : Sha256) (content : Bytes) (writer : Writer) : DirectPrintSpool :=
  { writer.metadata with
    path := writer.finalPath
    sha256 := sha256.digest (hashedBytes content writer.metadata) }

/-- A spool that is published moves to its final name, which was free. -/
theorem publish_sound (hopen : Opened s content) {io : FinalizeIo} {checksum : Bytes}
    {result : DirectPrintSpool} (hlength : checksum.length = 32)
    (h : publish s io checksum = (s', .ok result)) :
    s.files s.writer.finalPath = none ∧
      result = { s.writer.metadata with path := s.writer.finalPath, sha256 := checksum } ∧
      s'.files = (s.files.remove s.writer.partialPath).set s.writer.finalPath
        (overwrite content 0 (encodeHeader s.writer.metadata (some checksum))) := by
  have hchecksum : IsChecksum (some checksum) := is_checksum_some hlength
  rw [publish, write_header_eq hopen.file hopen.valid hchecksum] at h
  cases hheader : io.header.ok with
  | false =>
      rw [hheader] at h
      exact absurd (congrArg Prod.snd h) (by simp)
  | true =>
      simp only [hheader, if_true, write_at_writer, write_at_stored hopen.stored,
        Io.stored_of_ok hheader] at h
      split_ifs at h with hflush hrename
      · exact absurd (congrArg Prod.snd h) (by simp)
      · split at h
        · exact absurd (congrArg Prod.snd h) (by simp)
        · next files hfiles =>
            obtain ⟨rfl, hresult⟩ := Prod.mk.inj h
            obtain ⟨stored, hstored, hfree, rfl⟩ := Store.rename_eq_some hfiles
            obtain rfl := Except.ok.inj hresult
            rw [Store.set_same] at hstored
            have hother : s.writer.finalPath ≠ s.writer.partialPath := by
              intro heq
              rw [heq, Store.set_same] at hfree
              exact absurd hfree (by simp)
            rw [Store.set_other _ _ hother] at hfree
            refine ⟨hfree, rfl, ?_⟩
            rw [← Option.some.inj hstored, Store.remove_set]
      · exact absurd (congrArg Prod.snd h) (by simp)

/-- Only an open file is finalized. -/
theorem finalize_opened {io : FinalizeIo} {result : DirectPrintSpool}
    (h : finalize sha256 s io = (s', .ok result)) : s.writer.file = .opened := by
  by_contra hfile
  rw [finalize, if_pos hfile] at h
  exact absurd (congrArg Prod.snd h) (by simp)

/-- A file is published only when every line bit is set, under a name that was free, with the
checksum of its own contents. -/
theorem finalize_sound (hopen : Opened s content) {io : FinalizeIo} {result : DirectPrintSpool}
    (h : finalize sha256 s io = (s', .ok result)) :
    s.writer.linesWritten.count true = s.writer.linesWritten.length ∧
      s.files s.writer.finalPath = none ∧
      result = finalMetadata sha256 content s.writer ∧
      s'.files = (s.files.remove s.writer.partialPath).set s.writer.finalPath
        (published sha256 content s.writer.metadata) := by
  rw [finalize, if_neg (not_not.mpr hopen.file), hopen.stored, Option.getD_some] at h
  split_ifs at h with hcount hflush
  · exact absurd (congrArg Prod.snd h) (by simp)
  · exact absurd (congrArg Prod.snd h) (by simp)
  · split at h
    · exact absurd (congrArg Prod.snd h) (by simp)
    · next checksum hchecksum =>
        split_ifs at h with hlength
        · exact absurd (congrArg Prod.snd h) (by simp)
        · obtain ⟨rfl, -⟩ := spool_checksum_sound hchecksum
          exact ⟨not_not.mp hcount, publish_sound hopen (not_not.mp hlength) h⟩

/-- Without failures or cancellation a file whose line bits are all set is published, when its
final name is free. -/
theorem finalize_complete (hopen : Opened s content) {io : FinalizeIo} (hio : io.Ok)
    (hcount : s.writer.linesWritten.count true = s.writer.linesWritten.length)
    (hfree : s.files s.writer.finalPath = none) :
    ∃ s', finalize sha256 s io = (s', .ok (finalMetadata sha256 content s.writer)) := by
  have hchecksum : spoolChecksum sha256 io.checksum content s.writer.metadata =
      .ok (sha256.digest (hashedBytes content s.writer.metadata)) :=
    spool_checksum_complete hio.checksum hopen.valid.order_length (Nat.le_of_eq hopen.length.symm)
  have hlength := sha256.digest_length (hashedBytes content s.writer.metadata)
  have hdigest := is_checksum_some hlength
  have hother : s.writer.finalPath ≠ s.writer.partialPath := by
    intro heq
    rw [heq, hopen.stored] at hfree
    exact absurd hfree (by simp)
  rw [finalize, if_neg (not_not.mpr hopen.file), if_neg (not_not.mpr hcount), hopen.stored,
    Option.getD_some, hchecksum]
  simp only [hio.flush, hlength, publish, write_header_eq hopen.file hopen.valid hdigest,
    hio.header, hio.flushHeader, hio.rename, write_at_stored hopen.stored, write_at_writer,
    Store.rename, Store.set_same, Store.set_other _ _ hother, hfree, Bool.not_true, if_true,
    Bool.false_eq_true, if_false, ne_eq, not_true_eq_false, finalMetadata]
  exact ⟨_, rfl⟩

/-! ## Every run keeps an open file allocated -/

/-- An open writer has an allocated file. -/
def Allocated (s : State) : Prop := s.writer.file = .opened → ∃ content, Opened s content

/-- A failed `create` leaves no file. -/
theorem create_error {io : CreateIo} {directory message : String} {metadata : DirectPrintSpool}
    (h : create s io directory metadata = (s', .error message)) : s'.writer.file = .absent := by
  simp only [create] at h
  split at h
  · rw [← (Prod.mk.inj h).1]
    rfl
  · split_ifs at h
    · rw [← (Prod.mk.inj h).1]
      rfl
    · rw [← (Prod.mk.inj h).1]
      rfl
    · unfold allocate at h
      split at h
      · rw [← (Prod.mk.inj h).1]
        rfl
      · split_ifs at h
        · rw [← (Prod.mk.inj h).1]
          rfl
        · exact absurd (congrArg Prod.snd h) (by simp)

/-- A header write keeps the file allocated. -/
theorem Opened.write_header (hopen : Opened s content) (io : Io) {checksum : Option Bytes}
    (hchecksum : IsChecksum checksum) :
    ∃ content', Opened (writeHeader s io checksum).1 content' := by
  have hheader := encode_header_length hopen.valid.order_length hchecksum
  have hstored := io.stored_length_le (encodeHeader s.writer.metadata checksum)
  have hlength := hopen.length
  rw [write_header_eq hopen.file hopen.valid hchecksum]
  refine ⟨overwrite content 0 (io.stored (encodeHeader s.writer.metadata checksum)), hopen.file,
    hopen.finalized, ?_, hopen.valid, hopen.offset, hopen.body, hopen.checksum, ?_, hopen.bits⟩
  · rw [write_at_stored hopen.stored]
    exact Store.set_same ..
  · rw [overwrite_length (by omega)]
    exact hlength

/-- After `publish` the file is closed or still allocated. -/
theorem Opened.publish (hopen : Opened s content) (io : FinalizeIo) {checksum : Bytes}
    (hlength : checksum.length = 32) : Allocated (publish s io checksum).1 := by
  intro hfile
  have hchecksum : IsChecksum (some checksum) := is_checksum_some hlength
  obtain ⟨content', hheader⟩ := hopen.write_header io.header hchecksum
  unfold Writer.publish at hfile ⊢
  split at hfile
  · next written message hwritten =>
      rw [hwritten] at hheader
      exact ⟨content', hheader⟩
  · next written hwritten =>
      rw [hwritten] at hheader
      cases hflush : io.flushHeader with
      | false =>
          simp only [Bool.not_false, if_true]
          exact ⟨content', hheader⟩
      | true =>
          simp only [hflush, Bool.not_true, Bool.false_eq_true, if_false] at hfile
          split at hfile
          · exact absurd hfile (by simp)
          · exact absurd hfile (by simp)

/-- `finalize` keeps an open file allocated. -/
theorem Opened.finalize (hopen : Opened s content) (sha256 : Sha256) (io : FinalizeIo) :
    Allocated (finalize sha256 s io).1 := by
  have hkeep : Allocated s := fun _ ↦ ⟨content, hopen⟩
  unfold Writer.finalize
  split_ifs
  · exact hkeep
  · exact hkeep
  · exact hkeep
  · split
    · exact hkeep
    · split_ifs with hlength
      · exact hkeep
      · exact hopen.publish io (not_not.mp hlength)

/-- One operation keeps an open file allocated, whatever fails. -/
theorem Allocated.apply (h : Allocated s) (sha256 : Sha256) (op : Op) :
    Allocated (op.apply sha256 s) := by
  intro hfile
  cases op with
  | create io directory metadata =>
      simp only [Op.apply] at hfile ⊢
      rcases hcreate : Writer.create s io directory metadata with ⟨created, outcome⟩
      rw [hcreate] at hfile
      cases outcome with
      | error message =>
          rw [create_error hcreate] at hfile
          exact absurd hfile (by decide)
      | ok _ =>
          obtain ⟨⟨content, hopen, -⟩, -⟩ := create_sound hcreate
          exact ⟨content, hopen⟩
  | writeLine io errorString logicalChannel row bytes =>
      simp only [Op.apply] at hfile ⊢
      by_cases hopen : s.writer.file = .opened
      · obtain ⟨content, hopen⟩ := h hopen
        exact hopen.write_line io errorString logicalChannel row bytes
      · rw [Writer.writeLine, if_pos (Or.inl hopen)] at hfile
        exact absurd hfile hopen
  | finalize io =>
      simp only [Op.apply] at hfile ⊢
      by_cases hopen : s.writer.file = .opened
      · obtain ⟨content, hopen⟩ := h hopen
        exact hopen.finalize sha256 io hfile
      · rw [Writer.finalize, if_pos hopen] at hfile
        exact absurd hfile hopen
  | cancel => exact absurd hfile (by simp [Op.apply, Writer.cancel])

/-- In every run an open file is allocated. -/
theorem run_allocated (sha256 : Sha256) (files : Store String) (ops : List Op) :
    Allocated (run sha256 files ops) := by
  have hfold : ∀ start, Allocated start → Allocated (ops.foldl (Op.apply sha256) start) := by
    induction ops with
    | nil => exact fun _ h ↦ h
    | cons op ops ih => exact fun start h ↦ ih _ (h.apply sha256 op)
  exact hfold _ fun hfile ↦ absurd hfile (by simp)

/-! ## A published file -/

/-- The header that is written over the old one has the size of the header area. -/
theorem final_header_length (sha256 : Sha256) (content : Bytes) (hvalid : Valid s.writer.metadata) :
    (encodeHeader s.writer.metadata
      (some (sha256.digest (hashedBytes content s.writer.metadata)))).length = headerBytes :=
  encode_header_length hvalid.order_length (is_checksum_some (sha256.digest_length _))

/-- A published file has the length of the temporary one. -/
theorem published_length (hopen : Opened s content) :
    (published sha256 content s.writer.metadata).length = content.length := by
  have hheader := final_header_length sha256 content hopen.valid
  have hlength := hopen.length
  exact overwrite_length (by omega)

/-- A published file starts with the header of its checksum. -/
theorem published_header (hopen : Opened s content) :
    readAt (published sha256 content s.writer.metadata) 0 headerBytes =
      encodeHeader s.writer.metadata
        (some (sha256.digest (hashedBytes content s.writer.metadata))) := by
  rw [published, ← final_header_length sha256 content hopen.valid]
  exact read_at_overwrite_same (Nat.zero_le _)

/-- A published file has the body of the temporary one. -/
theorem published_body (hopen : Opened s content) {offset count : Nat}
    (h : headerBytes ≤ offset) :
    readAt (published sha256 content s.writer.metadata) offset count =
      readAt content offset count := by
  have hheader := final_header_length sha256 content hopen.valid
  exact read_at_overwrite_after (Nat.zero_le _) (by omega)

/-- The final metadata is as valid as the metadata it completes. -/
theorem final_metadata_valid {writer : Writer} (h : Valid writer.metadata) :
    Valid (finalMetadata sha256 content writer) :=
  ⟨h.1, h.2, h.3, h.4, h.5, h.6, h.7, h.8, h.9, h.10, h.11, h.12, h.13⟩

@[simp] theorem final_metadata_path (sha256 : Sha256) (content : Bytes) (writer : Writer) :
    (finalMetadata sha256 content writer).path = writer.finalPath := rfl

/-- The checksum does not depend on the path or the checksum in the metadata. -/
theorem published_hashed_bytes (hopen : Opened s content) :
    hashedBytes (published sha256 content s.writer.metadata)
        (finalMetadata sha256 content s.writer) =
      hashedBytes content s.writer.metadata := by
  rw [hashedBytes, published_body hopen (Nat.le_refl _)]
  rfl

variable {files : Store String}

/-- A published file decodes to the metadata that `finalize` returned. -/
theorem published_metadata (hopen : Opened s content)
    (hfile : files s.writer.finalPath = some (published sha256 content s.writer.metadata)) :
    readMetadata files s.writer.finalPath = .ok (finalMetadata sha256 content s.writer) := by
  have hchecksum : IsChecksum
      (some (sha256.digest (hashedBytes content s.writer.metadata))) :=
    is_checksum_some (sha256.digest_length _)
  have hspool : spoolOf s.writer.finalPath (recordOf s.writer.metadata
      (some (sha256.digest (hashedBytes content s.writer.metadata)))) =
      finalMetadata sha256 content s.writer := by
    rw [finalMetadata, spoolOf, ← hopen.offset]
    rfl
  refine read_metadata_eq_ok.mpr ⟨_, hfile, ?_, ?_⟩
  · rw [published_length hopen]
    exact hopen.length
  · rw [published_header hopen, decode_encode_header hopen.valid hchecksum, hspool]

/-- A published file is verified. -/
theorem published_verified (hopen : Opened s content)
    (hfile : files s.writer.finalPath = some (published sha256 content s.writer.metadata))
    {io : ChecksumIo} (hio : io.Ok) :
    verify sha256 io files (finalMetadata sha256 content s.writer) = .ok () := by
  have hdigest : (finalMetadata sha256 content s.writer).sha256 =
      sha256.digest (hashedBytes (published sha256 content s.writer.metadata)
        (finalMetadata sha256 content s.writer)) := by
    rw [published_hashed_bytes hopen, finalMetadata]
  exact verify_complete hio (published_metadata hopen hfile) hfile hdigest (Or.inr rfl)

/-- A published file opens, checked or not, and is complete. -/
theorem published_opens (hopen : Opened s content)
    (hfile : files s.writer.finalPath = some (published sha256 content s.writer.metadata))
    {io : ChecksumIo} (hio : io.Ok) (verifyChecksum : Bool) :
    Reader.open sha256 io files s.writer.finalPath verifyChecksum =
        .ok { path := s.writer.finalPath, metadata := finalMetadata sha256 content s.writer } ∧
      Reader.Complete
        { path := s.writer.finalPath, metadata := finalMetadata sha256 content s.writer } files := by
  refine ⟨?_, ?_⟩
  · rw [Reader.open, published_metadata hopen hfile]
    cases verifyChecksum with
    | false => rfl
    | true => simp only [if_true, published_verified hopen hfile hio]
  · refine ⟨final_metadata_valid hopen.valid, hopen.offset, hopen.body, ?_⟩
    rw [Reader.content, hfile, Option.getD_some, published_length hopen]
    exact hopen.length

end Writer

end PrintFlow.RasterSpool
