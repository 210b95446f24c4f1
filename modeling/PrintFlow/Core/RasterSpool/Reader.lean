import PrintFlow.Core.RasterSpool.Header
import PrintFlow.Library.FileStore

/-!
# Reading and verifying spool files

`spoolChecksum` hashes the header with no checksum and the body; `verify` compares it with the
checksum in the file and with the one the caller holds. `Reader` reads lines and chunks of an
opened spool. The lemmas say what a successful check means for the bytes of the file.
-/

namespace PrintFlow.RasterSpool

open DataStream FileStore

/-- SHA-256 as `QCryptographicHash` computes it: a digest of 32 bytes. -/
structure Sha256 where
  digest : Bytes → Bytes
  digest_length : ∀ data, (digest data).length = 32

/-- What the environment answers while a checksum is calculated: the seek, the read of each
chunk and the cancellation check before each chunk. -/
structure ChecksumIo where
  seek : Bool := true
  read : Nat → Io := fun _ ↦ .done
  canceled : Nat → Bool := fun _ ↦ false

/-- Nothing fails and nothing is canceled. -/
structure ChecksumIo.Ok (io : ChecksumIo) : Prop where
  seek : io.seek = true
  read : ∀ index, (io.read index).ok = true
  canceled : ∀ index, io.canceled index = false

/-- By default nothing fails and nothing is canceled. -/
theorem ChecksumIo.Ok.default : ({} : ChecksumIo).Ok := ⟨rfl, fun _ ↦ rfl, fun _ ↦ rfl⟩

/-- The chunk size of `spoolChecksum`. -/
def hashChunkBytes : Nat := 1024 * 1024

/-- The loop of `spoolChecksum`: the hashed bytes. Each pass takes at least one of the `remaining`
bytes, so they are fuel enough. -/
def hashBody (io : ChecksumIo) (content : Bytes) :
    (fuel index offset remaining : Nat) → (hashed : Bytes) → Except String Bytes
  | 0, _, _, _, hashed => .ok hashed
  | fuel + 1, index, offset, remaining, hashed =>
    if remaining = 0 then .ok hashed
    else if io.canceled index then .error "Raster spool hashing was canceled."
    else
      let requested := min remaining hashChunkBytes
      let chunk := (io.read index).stored (readAt content offset requested)
      if chunk.length ≠ requested then .error "Raster spool data is truncated."
      else
        hashBody io content fuel (index + 1) (offset + requested) (remaining - requested)
          (hashed ++ chunk)

/-- `spoolChecksum`. -/
def spoolChecksum (sha256 : Sha256) (io : ChecksumIo) (content : Bytes)
    (spool : DirectPrintSpool) : Except String Bytes :=
  let canonicalHeader := encodeHeader spool none
  if !io.seek then .error "Could not seek to raster spool data."
  else if canonicalHeader.length ≠ headerBytes then
    .error "Raster spool metadata could not be hashed."
  else
    match hashBody io content spool.bodyBytes.toNat 0 headerBytes spool.bodyBytes.toNat
        canonicalHeader with
    | .error message => .error message
    | .ok hashed => .ok (sha256.digest hashed)

/-- `QFile::errorString` for a missing file. -/
def noSuchFile : String := "No such file or directory"

/-- `readMetadata`. -/
def readMetadata (files : Store String) (path : String) : Except String DirectPrintSpool :=
  match files path with
  | none => .error ("Could not open raster spool: " ++ noSuchFile)
  | some content =>
    match decodeHeader (readAt content 0 headerBytes) path with
    | .error message => .error message
    | .ok metadata =>
      if content.length ≠ (UInt64.ofNat headerBytes + metadata.bodyBytes).toNat then
        .error "Raster spool file length is invalid."
      else .ok metadata

/-- `verify`. -/
def verify (sha256 : Sha256) (io : ChecksumIo) (files : Store String)
    (spool : DirectPrintSpool) : Except String Unit :=
  match readMetadata files spool.path with
  | .error message => .error message
  | .ok diskMetadata =>
    match files spool.path with
    | none => .error noSuchFile
    | some content =>
      match spoolChecksum sha256 io content diskMetadata with
      | .error message => .error message
      | .ok checksum =>
        if checksum.length ≠ 32 then .error "Raster spool checksum could not be calculated."
        else if checksum ≠ diskMetadata.sha256 ∨
            (spool.sha256 ≠ [] ∧ checksum ≠ spool.sha256) then
          .error "Raster spool checksum does not match."
        else .ok ()

/-- A seek takes a `qint64` and refuses negative positions. -/
def seekable (offset : UInt64) : Bool := offset.toNat < 2 ^ 63

/-- The position of a plane-line in a body that starts at `base`. -/
def lineOffset (base : UInt64) (metadata : DirectPrintSpool) (logicalChannel row : Int32) :
    UInt64 :=
  base + (quint64 logicalChannel * quint64 metadata.height + quint64 row) *
    quint64 metadata.bytesPerLine

/-- An open `Reader`; a reader whose `open` failed reads nothing. -/
structure Reader where
  path : String
  metadata : DirectPrintSpool

namespace Reader

/-- `Reader::open`. -/
def «open» (sha256 : Sha256) (io : ChecksumIo) (files : Store String) (path : String)
    (verifyChecksum : Bool) : Except String Reader :=
  match readMetadata files path with
  | .error message => .error message
  | .ok metadata =>
    if verifyChecksum then
      match verify sha256 io files metadata with
      | .error message => .error message
      | .ok () => .ok { path, metadata }
    else .ok { path, metadata }

/-- The bytes the reader sees at its path. -/
def content (reader : Reader) (files : Store String) : Bytes := (files reader.path).getD []

/-- `Reader::lineOffset`. -/
def lineOffset (reader : Reader) (logicalChannel row : Int32) : UInt64 :=
  RasterSpool.lineOffset reader.metadata.bodyOffset reader.metadata logicalChannel row

/-- `Reader::readLine`. -/
def readLine (reader : Reader) (files : Store String) (logicalChannel row : Int32) :
    Except String Bytes :=
  let offset := reader.lineOffset logicalChannel row
  if logicalChannel < 0 ∨ logicalChannel ≥ reader.metadata.logicalChannelCount ∨ row < 0 ∨
      row ≥ reader.metadata.height ∨ ¬ seekable offset then
    .error "Raster spool line read is invalid."
  else
    let line := readAt (reader.content files) offset.toNat
      reader.metadata.bytesPerLine.toInt.toNat
    if (line.length : Int) ≠ reader.metadata.bytesPerLine.toInt then
      .error "Raster spool line is truncated."
    else .ok line

/-- `Reader::readBodyChunk`. -/
def readBodyChunk (reader : Reader) (files : Store String) (offset : UInt64)
    (maximumBytes : Int64) : Except String Bytes :=
  if maximumBytes ≤ 0 ∨ offset > reader.metadata.bodyBytes then
    .error "Raster spool chunk read is invalid."
  else
    let remaining := reader.metadata.bodyBytes - offset
    let size := min remaining.toNat maximumBytes.toInt.toNat
    if ¬ seekable (reader.metadata.bodyOffset + offset) then
      .error "Could not seek within raster spool."
    else
      let data := readAt (reader.content files) (reader.metadata.bodyOffset + offset).toNat size
      if data.length ≠ size then .error "Raster spool chunk is truncated."
      else .ok data

/-- The body read chunk by chunk from `offset` on, the pass `index` asking for `sizes index`
bytes. -/
def readBody (reader : Reader) (files : Store String) (sizes : Nat → Int64) :
    (fuel index : Nat) → (offset : UInt64) → Except String Bytes
  | 0, _, _ => .ok []
  | fuel + 1, index, offset =>
    if offset ≥ reader.metadata.bodyBytes then .ok []
    else
      match reader.readBodyChunk files offset (sizes index) with
      | .error message => .error message
      | .ok data =>
        match readBody reader files sizes fuel (index + 1) (offset + UInt64.ofNat data.length) with
        | .error message => .error message
        | .ok rest => .ok (data ++ rest)

end Reader

/-! ## Checksums -/

variable {sha256 : Sha256} {io : ChecksumIo} {content : Bytes} {files : Store String}

/-- The bytes a checksum covers: the header with no checksum and the body. -/
def hashedBytes (content : Bytes) (spool : DirectPrintSpool) : Bytes :=
  encodeHeader spool none ++ readAt content headerBytes spool.bodyBytes.toNat

/-- A hashing loop that succeeds has read all of the remaining bytes. -/
theorem hash_body_sound {fuel index offset remaining : Nat} {hashed result : Bytes}
    (hfuel : remaining ≤ fuel)
    (h : hashBody io content fuel index offset remaining hashed = .ok result) :
    result = hashed ++ readAt content offset remaining ∧
      (readAt content offset remaining).length = remaining := by
  -- Each round hashes one chunk, at least a byte of what remains, so fuel for the bytes is enough.
  induction fuel generalizing index offset remaining hashed with
  | zero =>
      obtain rfl : remaining = 0 := by omega
      obtain rfl := Except.ok.inj h
      simp [readAt]
  | succ fuel ih =>
      simp only [hashBody] at h
      split_ifs at h with hzero hcanceled hlength
      · subst hzero
        obtain rfl := Except.ok.inj h
        simp [readAt]
      · rw [not_not] at hlength
        have hpos : 0 < min remaining hashChunkBytes := by
          simp only [hashChunkBytes]
          omega
        -- A read that gave as many bytes as it was asked for gave the bytes of the file.
        have hchunk : (io.read index).stored (readAt content offset (min remaining hashChunkBytes)) =
            readAt content offset (min remaining hashChunkBytes) := by
          cases hio : io.read index with
          | done => rfl
          | failed stored =>
              rw [hio] at hlength
              simp only [Io.stored, List.length_take] at hlength
              have hle : (readAt content offset (min remaining hashChunkBytes)).length ≤
                  min remaining hashChunkBytes := List.length_take_le ..
              exact List.take_of_length_le (by omega)
        obtain ⟨hresult, hrest⟩ := ih (by omega) h
        rw [hchunk] at hlength hresult
        have hsplit := read_at_add content offset (min remaining hashChunkBytes)
          (remaining - min remaining hashChunkBytes)
        rw [Nat.add_sub_cancel' (Nat.min_le_left ..)] at hsplit
        refine ⟨by rw [hresult, hsplit, List.append_assoc], ?_⟩
        rw [hsplit, List.length_append, hlength, hrest]
        omega

/-- Without failures or cancellation the loop succeeds when the file is long enough. -/
theorem hash_body_complete (hio : io.Ok) {fuel index offset remaining : Nat} {hashed : Bytes}
    (hfuel : remaining ≤ fuel) (hlength : offset + remaining ≤ content.length) :
    hashBody io content fuel index offset remaining hashed =
      .ok (hashed ++ readAt content offset remaining) := by
  induction fuel generalizing index offset remaining hashed with
  | zero =>
      obtain rfl : remaining = 0 := by omega
      simp [hashBody, readAt]
  | succ fuel ih =>
      simp only [hashBody]
      by_cases hzero : remaining = 0
      · subst hzero
        simp [readAt]
      · have hpos : 0 < min remaining hashChunkBytes := by
          simp only [hashChunkBytes]
          omega
        have hread : (readAt content offset (min remaining hashChunkBytes)).length =
            min remaining hashChunkBytes := read_at_length (by omega)
        have hsplit := read_at_add content offset (min remaining hashChunkBytes)
          (remaining - min remaining hashChunkBytes)
        rw [Nat.add_sub_cancel' (Nat.min_le_left ..)] at hsplit
        simp only [hzero, if_false, hio.canceled, Io.stored_of_ok (hio.read index), hread,
          ne_eq, not_true_eq_false, Bool.false_eq_true]
        rw [ih (by omega) (by omega), hsplit, List.append_assoc]

/-- A calculated checksum is the digest of the hashed bytes, all of which the file has. -/
theorem spool_checksum_sound {spool : DirectPrintSpool} {checksum : Bytes}
    (h : spoolChecksum sha256 io content spool = .ok checksum) :
    checksum = sha256.digest (hashedBytes content spool) ∧
      (readAt content headerBytes spool.bodyBytes.toNat).length = spool.bodyBytes.toNat := by
  simp only [spoolChecksum] at h
  split_ifs at h
  split at h
  · exact absurd h (by simp)
  · next hashed hbody =>
      obtain ⟨hhashed, hlength⟩ := hash_body_sound (Nat.le_refl _) hbody
      obtain rfl := Except.ok.inj h
      exact ⟨by rw [hhashed, hashedBytes], hlength⟩

/-- Without failures or cancellation the checksum of a long enough file is calculated. -/
theorem spool_checksum_complete (hio : io.Ok) {spool : DirectPrintSpool}
    (hspool : spool.channelOrder.length ≤ 16)
    (hlength : headerBytes + spool.bodyBytes.toNat ≤ content.length) :
    spoolChecksum sha256 io content spool = .ok (sha256.digest (hashedBytes content spool)) := by
  simp only [spoolChecksum, hio.seek, encode_header_length hspool is_checksum_none,
    hash_body_complete hio (Nat.le_refl _) hlength, hashedBytes, Bool.not_true,
    Bool.false_eq_true, if_false, ne_eq, not_true_eq_false]

/-! ## Metadata and verification -/

/-- The body size stored in valid metadata is none or the expected one, so it is below `2 ^ 62`. -/
theorem Valid.body_lt {spool : DirectPrintSpool} (h : Valid spool) :
    spool.bodyBytes.toNat < 2 ^ 62 := by
  have hexpected := h.expected_lt
  rcases h.body_bytes with hzero | heq
  · rw [hzero]
    decide
  · rwa [heq]

/-- The file length that valid metadata asks for does not wrap. -/
theorem Valid.file_length {spool : DirectPrintSpool} (h : Valid spool) :
    (UInt64.ofNat headerBytes + spool.bodyBytes).toNat = headerBytes + spool.bodyBytes.toNat := by
  have hbody := h.body_lt
  have hheader : (UInt64.ofNat headerBytes).toNat = headerBytes := rfl
  rw [UInt64.toNat_add, hheader]
  exact Nat.mod_eq_of_lt (by simp only [headerBytes]; omega)

/-- Metadata is read exactly from a file that starts with its record and has its length. -/
theorem read_metadata_eq_ok {path : String} {metadata : DirectPrintSpool} :
    readMetadata files path = .ok metadata ↔
      ∃ content, files path = some content ∧
        content.length = headerBytes + metadata.bodyBytes.toNat ∧
        decodeHeader (readAt content 0 headerBytes) path = .ok metadata := by
  unfold readMetadata
  constructor
  · intro h
    split at h
    · exact absurd h (by simp)
    · next content hcontent =>
        split at h
        · exact absurd h (by simp)
        · next decoded hdecode =>
            split_ifs at h with hlength
            obtain rfl := Except.ok.inj h
            obtain ⟨-, -, -, -, -, -, hvalid⟩ := decode_header_eq_ok.mp hdecode
            rw [not_not, hvalid.file_length] at hlength
            exact ⟨content, hcontent, hlength, hdecode⟩
  · rintro ⟨content, hcontent, hlength, hdecode⟩
    obtain ⟨-, -, -, -, -, -, hvalid⟩ := decode_header_eq_ok.mp hdecode
    simp only [hcontent, hdecode, hvalid.file_length, hlength, ne_eq, not_true_eq_false, if_false]

/-- A verified spool is one whose file holds its own checksum, which the caller's checksum, if
there is one, equals. -/
theorem verify_sound {spool : DirectPrintSpool} (h : verify sha256 io files spool = .ok ()) :
    ∃ disk content, readMetadata files spool.path = .ok disk ∧ files spool.path = some content ∧
      disk.sha256 = sha256.digest (hashedBytes content disk) ∧
      (spool.sha256 = [] ∨ spool.sha256 = sha256.digest (hashedBytes content disk)) := by
  unfold verify at h
  split at h
  · exact absurd h (by simp)
  · next disk hdisk =>
      split at h
      · exact absurd h (by simp)
      · next content hcontent =>
          split at h
          · exact absurd h (by simp)
          · next checksum hchecksum =>
              split_ifs at h with hlength hmatch
              obtain ⟨rfl, -⟩ := spool_checksum_sound hchecksum
              simp only [not_or, not_and_or, not_not] at hmatch
              exact ⟨disk, content, hdisk, hcontent, hmatch.1.symm,
                hmatch.2.imp id Eq.symm⟩

/-- Without failures or cancellation such a spool is verified. -/
theorem verify_complete (hio : io.Ok) {spool disk : DirectPrintSpool}
    (hdisk : readMetadata files spool.path = .ok disk) (hcontent : files spool.path = some content)
    (hstored : disk.sha256 = sha256.digest (hashedBytes content disk))
    (hheld : spool.sha256 = [] ∨ spool.sha256 = disk.sha256) :
    verify sha256 io files spool = .ok () := by
  obtain ⟨_, hcontent', hlength, hdecode⟩ := read_metadata_eq_ok.mp hdisk
  obtain rfl := Option.some.inj (hcontent.symm.trans hcontent')
  obtain ⟨-, -, -, -, -, -, hvalid⟩ := decode_header_eq_ok.mp hdecode
  have hchecksum : spoolChecksum sha256 io content disk =
      .ok (sha256.digest (hashedBytes content disk)) :=
    spool_checksum_complete hio hvalid.order_length (Nat.le_of_eq hlength.symm)
  have hmatch : ¬ (sha256.digest (hashedBytes content disk) ≠ disk.sha256 ∨
      (spool.sha256 ≠ [] ∧ sha256.digest (hashedBytes content disk) ≠ spool.sha256)) := by
    rw [← hstored]
    simp only [not_or, not_and_or, not_not]
    exact ⟨trivial, hheld.imp id Eq.symm⟩
  simp only [verify, hdisk, hcontent, hchecksum, sha256.digest_length, hmatch, if_false, ne_eq,
    not_true_eq_false]

/-! ## The layout of the body -/

/-- The number of plane-lines of the body. -/
def lineCount (metadata : DirectPrintSpool) : Nat :=
  metadata.logicalChannelCount.toInt.toNat * metadata.height.toInt.toNat

/-- The size of a plane-line. -/
def lineBytes (metadata : DirectPrintSpool) : Nat := metadata.bytesPerLine.toInt.toNat

/-- The number of plane-lines before the one of `logicalChannel` and `row`. -/
def lineIndex (metadata : DirectPrintSpool) (logicalChannel row : Int32) : Nat :=
  logicalChannel.toInt.toNat * metadata.height.toInt.toNat + row.toInt.toNat

/-- The plane-lines a spool has. -/
structure InRange (metadata : DirectPrintSpool) (logicalChannel row : Int32) : Prop where
  channel_nonneg : 0 ≤ logicalChannel.toInt
  channel_lt : logicalChannel.toInt < metadata.logicalChannelCount.toInt
  row_nonneg : 0 ≤ row.toInt
  row_lt : row.toInt < metadata.height.toInt

namespace InRange

variable {metadata : DirectPrintSpool} {logicalChannel row : Int32}

/-- The index of a plane-line is below their number. -/
theorem index_lt (h : InRange metadata logicalChannel row) :
    lineIndex metadata logicalChannel row < lineCount metadata := by
  have hchannel := h.channel_lt
  have hrow := h.row_lt
  have hnonneg := h.channel_nonneg
  have hrow_nonneg := h.row_nonneg
  have hle : (logicalChannel.toInt.toNat + 1) * metadata.height.toInt.toNat ≤ lineCount metadata :=
    Nat.mul_le_mul_right _ (by omega)
  rw [Nat.succ_mul] at hle
  simp only [lineIndex]
  omega

/-- Distinct plane-lines have distinct indices. -/
theorem index_inj {otherChannel otherRow : Int32} (h : InRange metadata logicalChannel row)
    (hother : InRange metadata otherChannel otherRow)
    (hindex : lineIndex metadata logicalChannel row = lineIndex metadata otherChannel otherRow) :
    logicalChannel = otherChannel ∧ row = otherRow := by
  obtain ⟨hchannel, -, hrow, hlt⟩ := h
  obtain ⟨hchannel', -, hrow', hlt'⟩ := hother
  simp only [lineIndex] at hindex
  have hpos : 0 < metadata.height.toInt.toNat := by omega
  have hdiv := congrArg (· / metadata.height.toInt.toNat) hindex
  have hmod := congrArg (· % metadata.height.toInt.toNat) hindex
  simp only [Nat.mul_comm _ metadata.height.toInt.toNat] at hdiv hmod
  rw [Nat.mul_add_div hpos, Nat.mul_add_div hpos, Nat.div_eq_of_lt (by omega),
    Nat.div_eq_of_lt (by omega)] at hdiv
  rw [Nat.mul_add_mod, Nat.mul_add_mod, Nat.mod_eq_of_lt (by omega),
    Nat.mod_eq_of_lt (by omega)] at hmod
  exact ⟨Int32.toInt_inj.mp (by omega), Int32.toInt_inj.mp (by omega)⟩

/-- Every index below the number of plane-lines is the index of one. -/
theorem exists_of_lt (hvalid : Valid metadata) {index : Nat} (h : index < lineCount metadata) :
    ∃ logicalChannel row, InRange metadata logicalChannel row ∧
      lineIndex metadata logicalChannel row = index := by
  have hheight := hvalid.height_pos
  have hheight_lt := metadata.height.toInt_lt
  have hchannels := hvalid.channels_pos
  have hchannels_le := hvalid.channels_le
  have hpos : 0 < metadata.height.toInt.toNat := by omega
  have hdiv : index / metadata.height.toInt.toNat < metadata.logicalChannelCount.toInt.toNat :=
    Nat.div_lt_of_lt_mul (by rw [Nat.mul_comm]; exact h)
  have hmod : index % metadata.height.toInt.toNat < metadata.height.toInt.toNat :=
    Nat.mod_lt _ hpos
  have hchannel : (Int32.ofNat (index / metadata.height.toInt.toNat)).toInt =
      (index / metadata.height.toInt.toNat : ℕ) := Int32.toInt_ofNat_of_lt (by omega)
  have hrow : (Int32.ofNat (index % metadata.height.toInt.toNat)).toInt =
      (index % metadata.height.toInt.toNat : ℕ) := Int32.toInt_ofNat_of_lt (by omega)
  refine ⟨Int32.ofNat (index / metadata.height.toInt.toNat),
    Int32.ofNat (index % metadata.height.toInt.toNat), ?_, ?_⟩
  · rw [← Int.ofNat_lt, ← hchannel] at hdiv
    rw [← Int.ofNat_lt, ← hrow] at hmod
    exact ⟨hchannel ▸ Int.natCast_nonneg _, by omega, hrow ▸ Int.natCast_nonneg _, by omega⟩
  · rw [lineIndex, hchannel, hrow, Int.toNat_natCast, Int.toNat_natCast]
    exact Nat.div_add_mod' ..

/-- The position of a plane-line does not wrap and is a position a file can seek to. -/
theorem offset_to_nat (h : InRange metadata logicalChannel row) (hvalid : Valid metadata) :
    (lineOffset (UInt64.ofNat headerBytes) metadata logicalChannel row).toNat =
      headerBytes + lineIndex metadata logicalChannel row * lineBytes metadata ∧
    headerBytes + (lineIndex metadata logicalChannel row + 1) * lineBytes metadata ≤
      headerBytes + (expectedBodyBytes metadata).toNat := by
  have hindex := h.index_lt
  have hlines := hvalid.lines_to_nat_le
  have hline : metadata.bytesPerLine.toInt < 2 ^ 31 := metadata.bytesPerLine.toInt_lt
  have hmul := quint64_mul h.channel_nonneg hvalid.height_pos.le
  have hrow := quint64_to_nat h.row_nonneg
  have hbytes := quint64_to_nat hvalid.line_pos.le
  have hheader : (UInt64.ofNat headerBytes).toNat = headerBytes := rfl
  have hprod : lineIndex metadata logicalChannel row * lineBytes metadata ≤
      2147483647 * 2147483647 := Nat.mul_le_mul (by simp only [lineCount] at hindex; omega)
    (by simp only [lineBytes]; omega)
  refine ⟨?_, ?_⟩
  · rw [lineOffset, UInt64.toNat_add, UInt64.toNat_mul, UInt64.toNat_add, hmul, hrow, hbytes,
      hheader]
    change (headerBytes + (lineIndex metadata logicalChannel row % 2 ^ 64 *
      lineBytes metadata) % 2 ^ 64) % 2 ^ 64 = _
    have hsmall : lineIndex metadata logicalChannel row < 2 ^ 64 := by
      simp only [lineCount] at hindex
      omega
    rw [Nat.mod_eq_of_lt hsmall, Nat.mod_eq_of_lt (by omega : lineIndex metadata logicalChannel row *
      lineBytes metadata < 2 ^ 64), Nat.mod_eq_of_lt (by simp only [headerBytes]; omega)]
  · rw [hvalid.expected_to_nat]
    exact Nat.add_le_add_left (Nat.mul_le_mul_right _ hindex) _

end InRange

/-! ## Reading a complete file -/

namespace Reader

variable {reader : Reader}

/-- A reader of valid metadata whose file holds the whole body. -/
structure Complete (reader : Reader) (files : Store String) : Prop where
  valid : Valid reader.metadata
  offset : reader.metadata.bodyOffset = UInt64.ofNat headerBytes
  body : reader.metadata.bodyBytes = expectedBodyBytes reader.metadata
  length : (reader.content files).length = headerBytes + reader.metadata.bodyBytes.toNat

/-- Every plane-line of a complete file has the size of a line. -/
theorem cell_length (h : reader.Complete files) {logicalChannel row : Int32}
    (hrange : InRange reader.metadata logicalChannel row) :
    (cell (reader.content files) headerBytes (lineBytes reader.metadata)
      (lineIndex reader.metadata logicalChannel row)).length = lineBytes reader.metadata := by
  have hend := (hrange.offset_to_nat h.valid).2
  have hlength := h.length
  rw [h.body] at hlength
  rw [Nat.succ_mul] at hend
  exact read_at_length (by omega)

/-- Every plane-line of a complete file reads as its cell. -/
theorem read_line_eq (h : reader.Complete files) {logicalChannel row : Int32}
    (hrange : InRange reader.metadata logicalChannel row) :
    reader.readLine files logicalChannel row =
      .ok (cell (reader.content files) headerBytes (lineBytes reader.metadata)
        (lineIndex reader.metadata logicalChannel row)) := by
  obtain ⟨hoffset, hend⟩ := hrange.offset_to_nat h.valid
  have hexpected := h.valid.expected_lt
  have hline := h.valid.line_pos
  have hlength := h.length
  rw [h.body] at hlength
  rw [Nat.succ_mul] at hend
  have hposition : (reader.lineOffset logicalChannel row).toNat =
      headerBytes + lineIndex reader.metadata logicalChannel row * lineBytes reader.metadata := by
    rw [Reader.lineOffset, h.offset, hoffset]
  have hguard : ¬ (logicalChannel < 0 ∨ logicalChannel ≥ reader.metadata.logicalChannelCount ∨
      row < 0 ∨ row ≥ reader.metadata.height ∨
      ¬ seekable (reader.lineOffset logicalChannel row)) := by
    simp only [seekable, hposition, decide_eq_true_eq, not_or, Int32.lt_iff_toInt_lt, ge_iff_le,
      Int32.le_iff_toInt_le, Int32.toInt_zero, not_lt, not_le]
    refine ⟨hrange.channel_nonneg, hrange.channel_lt, hrange.row_nonneg, hrange.row_lt, ?_⟩
    simp only [headerBytes] at hend ⊢
    omega
  have hread := cell_length h hrange
  have hcell : readAt (reader.content files) (reader.lineOffset logicalChannel row).toNat
      reader.metadata.bytesPerLine.toInt.toNat =
      cell (reader.content files) headerBytes (lineBytes reader.metadata)
        (lineIndex reader.metadata logicalChannel row) := by
    rw [hposition, cell, lineBytes]
  have hint : (lineBytes reader.metadata : Int) = reader.metadata.bytesPerLine.toInt :=
    Int.toNat_of_nonneg hline.le
  simp only [readLine, if_neg hguard, hcell, hread, hint, ne_eq, not_true_eq_false, if_false]

/-- A chunk of a complete file is the part of the body it asks for. -/
theorem read_body_chunk_eq (h : reader.Complete files) {offset : UInt64} {maximumBytes : Int64}
    (hmaximum : 0 < maximumBytes) (hoffset : offset ≤ reader.metadata.bodyBytes) :
    reader.readBodyChunk files offset maximumBytes =
      .ok (readAt (reader.content files) (headerBytes + offset.toNat)
        (min (reader.metadata.bodyBytes.toNat - offset.toNat) maximumBytes.toInt.toNat)) := by
  have hle : offset.toNat ≤ reader.metadata.bodyBytes.toNat := UInt64.le_iff_toNat_le.mp hoffset
  have hbody := h.valid.body_lt
  have hlength := h.length
  have hheader : (UInt64.ofNat headerBytes).toNat = headerBytes := rfl
  have hposition : (reader.metadata.bodyOffset + offset).toNat = headerBytes + offset.toNat := by
    rw [h.offset, UInt64.toNat_add, hheader]
    exact Nat.mod_eq_of_lt (by simp only [headerBytes]; omega)
  have hremaining : (reader.metadata.bodyBytes - offset).toNat =
      reader.metadata.bodyBytes.toNat - offset.toNat := UInt64.toNat_sub_of_le _ _ hoffset
  have hguard : ¬ (maximumBytes ≤ 0 ∨ offset > reader.metadata.bodyBytes) := by
    rw [not_or, Int64.not_le, gt_iff_lt, UInt64.not_lt]
    exact ⟨hmaximum, hoffset⟩
  have hseek : seekable (reader.metadata.bodyOffset + offset) = true := by
    simp only [seekable, hposition, decide_eq_true_eq, headerBytes]
    omega
  have hread : (readAt (reader.content files) (headerBytes + offset.toNat)
      (min (reader.metadata.bodyBytes.toNat - offset.toNat) maximumBytes.toInt.toNat)).length =
      min (reader.metadata.bodyBytes.toNat - offset.toNat) maximumBytes.toInt.toNat :=
    read_at_length (by omega)
  simp only [readBodyChunk, if_neg hguard, hseek, hposition, hremaining, hread, not_true_eq_false,
    ne_eq, if_false]

/-- Reading with positive chunk sizes from any offset returns the rest of the body. -/
theorem read_body_eq (h : reader.Complete files) {sizes : Nat → Int64} (hsizes : ∀ i, 0 < sizes i)
    {fuel : Nat} (index : Nat) {offset : UInt64} (hoffset : offset ≤ reader.metadata.bodyBytes)
    (hfuel : reader.metadata.bodyBytes.toNat - offset.toNat ≤ fuel) :
    reader.readBody files sizes fuel index offset =
      .ok (readAt (reader.content files) (headerBytes + offset.toNat)
        (reader.metadata.bodyBytes.toNat - offset.toNat)) := by
  have hbody := h.valid.body_lt
  -- The offset grows by at least one byte with each chunk and stays below the body size, so it
  -- does not wrap.
  induction fuel generalizing index offset with
  | zero =>
      have hzero : reader.metadata.bodyBytes.toNat - offset.toNat = 0 := by omega
      rw [hzero]
      simp [readBody, readAt]
  | succ fuel ih =>
      have hle : offset.toNat ≤ reader.metadata.bodyBytes.toNat := UInt64.le_iff_toNat_le.mp hoffset
      by_cases hend : offset ≥ reader.metadata.bodyBytes
      · have hge : reader.metadata.bodyBytes.toNat ≤ offset.toNat := UInt64.le_iff_toNat_le.mp hend
        have hzero : reader.metadata.bodyBytes.toNat - offset.toNat = 0 := by omega
        rw [hzero]
        simp [readBody, readAt, hend]
      · have hlt : offset.toNat < reader.metadata.bodyBytes.toNat := by
          rw [ge_iff_le, UInt64.le_iff_toNat_le] at hend
          omega
        have hsize : 0 < (sizes index).toInt := by
          have := hsizes index
          rwa [Int64.lt_iff_toInt_lt, Int64.toInt_zero] at this
        have hchunk := read_body_chunk_eq h (hsizes index) hoffset
        have hchunk_length : (readAt (reader.content files) (headerBytes + offset.toNat)
            (min (reader.metadata.bodyBytes.toNat - offset.toNat)
              (sizes index).toInt.toNat)).length =
            min (reader.metadata.bodyBytes.toNat - offset.toNat) (sizes index).toInt.toNat :=
          read_at_length (by have := h.length; omega)
        have hnext : (offset + UInt64.ofNat (min
            (reader.metadata.bodyBytes.toNat - offset.toNat) (sizes index).toInt.toNat)).toNat =
            offset.toNat + min (reader.metadata.bodyBytes.toNat - offset.toNat)
              (sizes index).toInt.toNat := by
          rw [UInt64.toNat_add, UInt64.toNat_ofNat', Nat.add_mod_mod]
          exact Nat.mod_eq_of_lt (by omega)
        have hrest : reader.readBody files sizes fuel (index + 1)
            (offset + UInt64.ofNat (min
              (reader.metadata.bodyBytes.toNat - offset.toNat) (sizes index).toInt.toNat)) = _ :=
          ih (index + 1) (UInt64.le_iff_toNat_le.mpr (by omega)) (by omega)
        have hsplit := read_at_add (reader.content files) (headerBytes + offset.toNat)
          (min (reader.metadata.bodyBytes.toNat - offset.toNat) (sizes index).toInt.toNat)
          (reader.metadata.bodyBytes.toNat - offset.toNat -
            min (reader.metadata.bodyBytes.toNat - offset.toNat) (sizes index).toInt.toNat)
        rw [Nat.add_sub_cancel' (Nat.min_le_left ..)] at hsplit
        simp only [readBody, if_neg hend, hchunk, hchunk_length, hrest, hnext]
        rw [hsplit, Nat.add_assoc, Nat.sub_sub]

end Reader

end PrintFlow.RasterSpool
