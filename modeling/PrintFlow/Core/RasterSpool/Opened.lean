import PrintFlow.Core.RasterSpool.RoundTrip

/-!
# What a reader that opened knows of its file

The length check of `readMetadata` takes the body size from the header of the same file, and the
metadata check lets a header leave that size unset. `opened_whole_iff`: an opened spool is complete
exactly if its header declares a body.
-/

namespace PrintFlow.RasterSpool

open DataStream FileStore

/-- The body size that the header of a file declares, at bytes 39 to 46. -/
def declaredBodyBytes (content : Bytes) : UInt64 := (getUInt64 (content.drop 39)).elim 0 (·.1)

/-- The declared body size of an encoded record. -/
theorem declared_of_record (record : Record) (rest : Bytes) :
    declaredBodyBytes (putRecord record ++ rest) = record.bodyBytes := by
  have hsplit : ∃ front tail, putRecord record ++ rest =
      front ++ (putUInt64 record.bodyBytes ++ tail) ∧ front.length = 39 := by
    refine ⟨putUInt32 magic ++ putUInt16 version ++ putUInt64 (UInt64.ofNat headerBytes) ++
      putInt32 record.width ++ putInt32 record.height ++ putInt32 record.xdpi ++
      putInt32 record.ydpi ++ putInt32 record.bytesPerLine ++ putUInt8 record.format ++
      putInt32 record.logicalChannelCount, ?_, ?_, by simp⟩
    · exact putByteArray record.checksum ++ (record.canonicalHeader.toList.flatMap putUInt32 ++
        (putInt32 (Int32.ofNat record.channelOrder.length) ++
          (record.channelOrder.flatMap putInt32 ++ rest)))
    · simp only [putRecord, List.append_assoc]
  obtain ⟨front, tail, hsplit, hlength⟩ := hsplit
  rw [declaredBodyBytes, hsplit, List.drop_left' hlength, get_uint64_eq_some.mpr rfl]
  rfl

namespace Reader

variable {sha256 : Sha256} {io : ChecksumIo} {files : Store String} {path : String}
  {verifyChecksum : Bool} {reader : Reader}

/-- The number of bytes of a body with this metadata. -/
def wholeBytes (metadata : DirectPrintSpool) : Nat :=
  metadata.logicalChannelCount.toInt.toNat * metadata.height.toInt.toNat *
    metadata.bytesPerLine.toInt.toNat

/-- The file of an open reader is complete: it has its length, every line in range reads, and the
whole body reads in chunks of any sizes. -/
structure Whole (reader : Reader) (files : Store String) : Prop where
  length : (reader.content files).length = 4096 + wholeBytes reader.metadata
  lines (logicalChannel row : Int32) (hrange : InRange reader.metadata logicalChannel row) :
    ∃ line, reader.readLine files logicalChannel row = .ok line ∧
      (line.length : Int) = reader.metadata.bytesPerLine.toInt
  body (sizes : Nat → Int64) (hsizes : ∀ index, 0 < sizes index) :
    reader.readBody files sizes reader.metadata.bodyBytes.toNat 0 0 =
      .ok (readAt (reader.content files) 4096 (wholeBytes reader.metadata))

/-- A reader that opened has read its metadata. -/
theorem open_metadata (h : Reader.open sha256 io files path verifyChecksum = .ok reader) :
    reader.path = path ∧ readMetadata files path = .ok reader.metadata := by
  unfold Reader.open at h
  cases hmetadata : readMetadata files path with
  | error message =>
      rw [hmetadata] at h
      exact absurd h nofun
  | ok metadata =>
      simp only [hmetadata] at h
      cases hverify : verifyChecksum with
      | false =>
          rw [hverify] at h
          obtain rfl := Except.ok.inj h
          exact ⟨rfl, rfl⟩
      | true =>
          rw [hverify, if_pos rfl] at h
          cases hchecked : verify sha256 io files metadata with
          | error message =>
              rw [hchecked] at h
              exact absurd h nofun
          | ok _ =>
              rw [hchecked] at h
              obtain rfl := Except.ok.inj h
              exact ⟨rfl, rfl⟩

/-- The file of an opened reader has the length its header declares. -/
theorem opened_file (h : Reader.open sha256 io files path verifyChecksum = .ok reader) :
    Valid reader.metadata ∧ reader.metadata.bodyOffset = UInt64.ofNat headerBytes ∧
      (reader.content files).length = headerBytes + reader.metadata.bodyBytes.toNat ∧
      declaredBodyBytes (reader.content files) = reader.metadata.bodyBytes := by
  obtain ⟨hpath, hmetadata⟩ := open_metadata h
  obtain ⟨content, hfile, hlength, hdecode⟩ := read_metadata_eq_ok.mp hmetadata
  obtain ⟨-, record, padding, -, hheader, hspool, hvalid⟩ := decode_header_eq_ok.mp hdecode
  have hcontent : reader.content files = content := by
    rw [Reader.content, hpath, hfile, Option.getD_some]
  refine ⟨hvalid, by rw [hspool]; rfl, hcontent ▸ hlength, ?_⟩
  -- The file is its record, the padding and the body.
  have hbytes : content = putRecord record ++ (padding ++ content.drop headerBytes) := by
    rw [← List.append_assoc, ← hheader, readAt, List.drop_zero, List.take_append_drop]
  rw [hcontent, hbytes, declared_of_record, hspool]
  rfl

/-- The path of metadata that was read is the one it was read from. -/
theorem read_metadata_path {metadata : DirectPrintSpool}
    (h : readMetadata files path = .ok metadata) : metadata.path = path := by
  obtain ⟨_, -, -, hdecode⟩ := read_metadata_eq_ok.mp h
  obtain ⟨-, record, _, -, -, rfl, -⟩ := decode_header_eq_ok.mp hdecode
  rfl

/-- The file of a reader that opened with a check holds its own checksum. -/
theorem open_verified (h : Reader.open sha256 io files path true = .ok reader) :
    reader.metadata.sha256 =
      sha256.digest (hashedBytes (reader.content files) reader.metadata) := by
  obtain ⟨hpath, hmetadata⟩ := open_metadata h
  have hown := read_metadata_path hmetadata
  have hverify : verify sha256 io files reader.metadata = .ok () := by
    unfold Reader.open at h
    rw [hmetadata] at h
    dsimp only at h
    rw [if_pos rfl] at h
    cases hchecked : verify sha256 io files reader.metadata with
    | error message =>
        rw [hchecked] at h
        exact absurd h nofun
    | ok _ => rfl
  obtain ⟨disk, content, hdisk, hcontent, hdigest, -⟩ := verify_sound hverify
  rw [hown, hmetadata] at hdisk
  obtain rfl := Except.ok.inj hdisk
  rw [hdigest, Reader.content, hpath, ← hown, hcontent, Option.getD_some]

/-- An opened reader whose header declares a body reads a complete file. -/
theorem opened_complete (h : Reader.open sha256 io files path verifyChecksum = .ok reader)
    (hdeclared : declaredBodyBytes (reader.content files) ≠ 0) : reader.Complete files := by
  obtain ⟨hvalid, hoffset, hlength, hbody⟩ := opened_file h
  refine ⟨hvalid, hoffset, ?_, hlength⟩
  exact hvalid.body_bytes.resolve_left (hbody ▸ hdeclared)

/-- An opened spool is complete exactly if its header declares a body. -/
theorem opened_whole_iff (h : Reader.open sha256 io files path verifyChecksum = .ok reader) :
    Whole reader files ↔ declaredBodyBytes (reader.content files) ≠ 0 := by
  obtain ⟨hvalid, -, hlength, hbody⟩ := opened_file h
  have hwhole : (expectedBodyBytes reader.metadata).toNat = wholeBytes reader.metadata :=
    hvalid.expected_to_nat
  -- A header that declares no body is accepted, and then the file ends behind the header.
  constructor
  · intro hreads hzero
    have hpositive := hvalid.expected_pos
    have hfull := hreads.length
    rw [hlength, ← hbody, hzero, UInt64.toNat_zero] at hfull
    simp only [headerBytes] at hfull
    omega
  · intro hdeclared
    have hcomplete := opened_complete h hdeclared
    refine ⟨?_, ?_, ?_⟩
    · rw [hlength, hcomplete.body, hwhole]
      rfl
    · intro logicalChannel row hrange
      refine ⟨_, read_line_eq hcomplete hrange, ?_⟩
      rw [cell_length hcomplete hrange]
      exact Int.toNat_of_nonneg hvalid.line_pos.le
    · intro sizes hsizes
      have hbytes : reader.metadata.bodyBytes.toNat = wholeBytes reader.metadata := by
        rw [hcomplete.body, hwhole]
      have hread := read_body_eq hcomplete hsizes 0 (UInt64.zero_le) le_rfl
      rw [UInt64.toNat_zero, Nat.sub_zero, Nat.add_zero] at hread
      rw [hread, hbytes]
      rfl

/-- The only file is a header with this checksum, followed by these bytes. -/
def headerFile (spool : DirectPrintSpool) (checksum : Option Bytes) (body : Bytes) : Store String :=
  Store.set (fun _ ↦ none) "/a.pfrs" (encodeHeader spool checksum ++ body)

/-- The metadata of a header file of the length its header declares. -/
theorem header_file_metadata {spool : DirectPrintSpool} (hvalid : Valid spool)
    {checksum : Option Bytes} (hchecksum : IsChecksum checksum) {body : Bytes}
    (hbody : body.length = spool.bodyBytes.toNat) :
    readMetadata (headerFile spool checksum body) "/a.pfrs" =
      .ok (spoolOf "/a.pfrs" (recordOf spool checksum)) := by
  have hheader := encode_header_length hvalid.order_length hchecksum
  have hread : readAt (encodeHeader spool checksum ++ body) 0 headerBytes =
      encodeHeader spool checksum := by
    rw [readAt, List.drop_zero, ← hheader, List.take_left]
  refine read_metadata_eq_ok.mpr ⟨_, Store.set_same _ _ _, ?_, ?_⟩
  · rw [List.length_append, hheader, hbody]
    rfl
  · rw [hread]
    exact decode_encode_header hvalid hchecksum "/a.pfrs"

/-- It opens without a check of the checksum. -/
theorem header_file_opens {spool : DirectPrintSpool} (hvalid : Valid spool)
    {checksum : Option Bytes} (hchecksum : IsChecksum checksum) {body : Bytes}
    (hbody : body.length = spool.bodyBytes.toNat) :
    Reader.open sha256 io (headerFile spool checksum body) "/a.pfrs" false =
      .ok ⟨"/a.pfrs", spoolOf "/a.pfrs" (recordOf spool checksum)⟩ := by
  unfold Reader.open
  rw [header_file_metadata hvalid hchecksum hbody]
  rfl

/-- It opens with a check if the checksum is the digest. -/
theorem header_file_verified (hio : io.Ok) {spool : DirectPrintSpool} (hvalid : Valid spool)
    {checksum : Bytes} (hchecksum : ∀ bytes, sha256.digest bytes = checksum) {body : Bytes}
    (hbody : body.length = spool.bodyBytes.toNat) :
    Reader.open sha256 io (headerFile spool (some checksum) body) "/a.pfrs" true =
      .ok ⟨"/a.pfrs", spoolOf "/a.pfrs" (recordOf spool (some checksum))⟩ := by
  have hsize : IsChecksum (some checksum) :=
    is_checksum_some (by rw [← hchecksum [], sha256.digest_length])
  have hmetadata := header_file_metadata hvalid hsize hbody
  have hverify : verify sha256 io (headerFile spool (some checksum) body)
      (spoolOf "/a.pfrs" (recordOf spool (some checksum))) = .ok () :=
    verify_complete hio hmetadata (Store.set_same _ _ _) (hchecksum _).symm (.inr rfl)
  unfold Reader.open
  rw [hmetadata]
  dsimp only
  rw [if_pos rfl, hverify]

/-- The file of one plane-line, with its body. -/
theorem opened_whole_iff_one_line :
    ∃ reader, Reader.open zeroDigest {}
        (headerFile (Writer.createMetadata oneLineMetadata) none [0x1b, 0, 0, 0]) "/a.pfrs" false =
        .ok reader ∧
      Whole reader
        (headerFile (Writer.createMetadata oneLineMetadata) none [0x1b, 0, 0, 0]) := by
  have hopen : Reader.open zeroDigest {}
      (headerFile (Writer.createMetadata oneLineMetadata) none [0x1b, 0, 0, 0]) "/a.pfrs" false =
      _ := header_file_opens one_line_valid is_checksum_none rfl
  refine ⟨_, hopen, (opened_whole_iff hopen).mpr ?_⟩
  rw [(opened_file hopen).2.2.2]
  decide

/-- A header that declares no body opens without one, and then the file is too short. -/
theorem empty_spool_opens :
    ∃ reader, Reader.open zeroDigest {} (headerFile oneLineMetadata none []) "/a.pfrs" false =
        .ok reader ∧
      (reader.content (headerFile oneLineMetadata none [])).length ≠
        4096 + wholeBytes reader.metadata ∧
      reader.readLine (headerFile oneLineMetadata none []) 0 0 =
        .error "Raster spool line is truncated." := by
  have hvalid : Valid oneLineMetadata := { one_line_valid with body_bytes := Or.inl rfl }
  have hopen : Reader.open zeroDigest {} (headerFile oneLineMetadata none []) "/a.pfrs" false =
      _ := header_file_opens hvalid is_checksum_none rfl
  obtain ⟨-, -, hlength, -⟩ := opened_file hopen
  refine ⟨_, hopen, ?_, ?_⟩
  · rw [hlength]
    decide
  · have hshort : ¬ ((readAt (content ⟨"/a.pfrs", spoolOf "/a.pfrs" (recordOf oneLineMetadata none)⟩
        (headerFile oneLineMetadata none [])) 4096 4).length : Int) = 4 := by
      rw [readAt, List.length_take, List.length_drop, hlength]
      decide
    rw [readLine]
    dsimp only
    rw [if_neg (by decide)]
    exact if_pos hshort

end Reader

end PrintFlow.RasterSpool
