import PrintFlow.Core.RasterSpool.RoundTrip

/-!
# Tampering with a finalized spool

The checksum of a spool covers a re-encoded header and as many body bytes as the header asks for,
both taken from the file that is checked. `hashed_bytes_inj` says that the hashed string still
determines the metadata and the body, so that a file that passes `verify` can differ from the
published one in the padding of the header only. `repadded_verified` says that any other padding
does pass.
-/

namespace PrintFlow.RasterSpool

open DataStream FileStore

/-- The record of two valid spools with the same header is the same, up to the checksum. -/
theorem encode_header_inj {first second : DirectPrintSpool} (hfirst : Valid first)
    (hsecond : Valid second) (h : encodeHeader first none = encodeHeader second none) :
    recordOf first none = recordOf second none := by
  have hnone := is_checksum_none
  rw [encode_header_eq hfirst.order_length hnone, encode_header_eq hsecond.order_length hnone] at h
  exact (put_record_inj ⟨hfirst.order_ne_nil, hfirst.order_length, hnone.fits⟩
    ⟨hsecond.order_ne_nil, hsecond.order_length, hnone.fits⟩ h).1

/-- The hashed string determines the metadata and the body. -/
theorem hashed_bytes_inj {first second : DirectPrintSpool} {firstFile secondFile : Bytes}
    (hfirst : Valid first) (hsecond : Valid second)
    (h : hashedBytes firstFile first = hashedBytes secondFile second) :
    recordOf first none = recordOf second none ∧
      readAt firstFile headerBytes first.bodyBytes.toNat =
        readAt secondFile headerBytes second.bodyBytes.toNat := by
  have hnone := is_checksum_none
  have hlength : (encodeHeader first none).length = (encodeHeader second none).length := by
    rw [encode_header_length hfirst.order_length hnone,
      encode_header_length hsecond.order_length hnone]
  obtain ⟨hheader, hbody⟩ := List.append_inj h hlength
  exact ⟨encode_header_inj hfirst hsecond hheader, hbody⟩

/-- A spool is its record with its path, body offset and checksum. -/
theorem eq_of_record {first second : DirectPrintSpool}
    (hrecord : recordOf first none = recordOf second none) (hpath : first.path = second.path)
    (hoffset : first.bodyOffset = second.bodyOffset) (hdigest : first.sha256 = second.sha256) :
    first = second := by
  cases first with
  | mk path order channels width height xdpi ydpi line format words offset body digest =>
      cases second with
      | mk path' order' channels' width' height' xdpi' ydpi' line' format' words' offset' body'
          digest' =>
          cases format
          cases format'
          simp only [recordOf, Record.mk.injEq] at hrecord hpath hoffset hdigest
          obtain ⟨rfl, rfl, rfl, rfl, rfl, rfl, rfl, rfl, -, rfl, rfl⟩ := hrecord
          subst hpath hoffset hdigest
          rfl

/-- A file of full length is its header and its body. -/
theorem header_append_body {content : Bytes} {count : Nat}
    (h : content.length = headerBytes + count) :
    content = readAt content 0 headerBytes ++ readAt content headerBytes count := by
  have hsplit := read_at_add content 0 headerBytes count
  rw [Nat.zero_add, ← h] at hsplit
  rw [← hsplit, readAt, List.drop_zero, List.take_length]

/-- A file whose metadata holds a digest starts with the record of that metadata. -/
theorem read_metadata_record {files : Store String} {path : String} {disk : DirectPrintSpool}
    {content : Bytes} (hdisk : readMetadata files path = .ok disk)
    (hcontent : files path = some content) (hdigest : disk.sha256.length = 32) :
    Valid disk ∧ content.length = headerBytes + disk.bodyBytes.toNat ∧
      disk.path = path ∧ disk.bodyOffset = UInt64.ofNat headerBytes ∧
      ∃ padding,
        (putRecord (recordOf disk (some disk.sha256))).length + padding.length = headerBytes ∧
        content = putRecord (recordOf disk (some disk.sha256)) ++ padding ++
          readAt content headerBytes disk.bodyBytes.toNat := by
  obtain ⟨_, hfile, hlength, hdecode⟩ := read_metadata_eq_ok.mp hdisk
  obtain rfl := Option.some.inj (hcontent.symm.trans hfile)
  obtain ⟨hheader, record, padding, -, hbytes, rfl, hvalid⟩ := decode_header_eq_ok.mp hdecode
  have hrecord : recordOf (spoolOf path record) (some (spoolOf path record).sha256) = record := by
    obtain ⟨width, height, xdpi, ydpi, line, format, channels, body, checksum, words, order⟩ :=
      record
    cases checksum with
    | none => exact absurd hdigest (by simp [spoolOf])
    | some checksum => rfl
  refine ⟨hvalid, hlength, rfl, rfl, padding, ?_, ?_⟩
  · rw [hrecord, ← List.length_append, ← hbytes, hheader]
  · rw [hrecord, ← hbytes]
    exact header_append_body hlength

/-- What `finalize` published: a file with the returned metadata and its checksum. -/
theorem finalized_file {sha256 : Sha256} {s finished : State} {content : Bytes}
    (hopen : Writer.Opened s content) {finalIo : FinalizeIo} {spool : DirectPrintSpool}
    (h : Writer.finalize sha256 s finalIo = (finished, .ok spool))
    {original : Bytes} (horiginal : finished.files spool.path = some original) :
    Valid spool ∧ original.length = headerBytes + spool.bodyBytes.toNat ∧
      spool.bodyOffset = UInt64.ofNat headerBytes ∧
      spool.sha256 = sha256.digest (hashedBytes original spool) ∧
      readAt original 0 headerBytes = encodeHeader spool (some spool.sha256) := by
  obtain ⟨-, -, rfl, hfiles⟩ := Writer.finalize_sound hopen h
  rw [Writer.final_metadata_path, hfiles, Store.set_same, Option.some.injEq] at horiginal
  subst horiginal
  refine ⟨Writer.final_metadata_valid hopen.valid, ?_, hopen.offset, ?_, ?_⟩
  · exact (Writer.published_length hopen).trans hopen.length
  · rw [Writer.published_hashed_bytes hopen]
    rfl
  · exact Writer.published_header hopen

/-- A file that passes `verify` for a finalized spool decodes to its metadata, and agrees with the
published file outside the padding between the encoded record and the body. -/
theorem verify_tamper_evident {sha256 : Sha256} {files : Store String} {ops : List Writer.Op}
    {finalIo : FinalizeIo} {finished : State} {spool : DirectPrintSpool}
    (hfinalize :
      Writer.finalize sha256 (Writer.run sha256 files ops) finalIo = (finished, .ok spool))
    {original : Bytes} (horiginal : finished.files spool.path = some original)
    {later : Store String} {tampered : Bytes} (htampered : later spool.path = some tampered)
    {io : ChecksumIo} (hverify : verify sha256 io later spool = .ok ())
    (hinjective : ∀ decoded, readMetadata later spool.path = .ok decoded →
      sha256.digest (hashedBytes tampered decoded) = sha256.digest (hashedBytes original spool) →
      hashedBytes tampered decoded = hashedBytes original spool) :
    readMetadata later spool.path = .ok spool ∧
      tampered.length = original.length ∧
      ∃ record body padding,
        record = putRecord (recordOf spool (some spool.sha256)) ∧
        original = record ++ List.replicate (headerBytes - record.length) 0 ++ body ∧
        tampered = record ++ padding ++ body ∧
        padding.length = headerBytes - record.length := by
  obtain ⟨content, hopen⟩ :=
    Writer.run_allocated sha256 files ops (Writer.finalize_opened hfinalize)
  obtain ⟨hvalid, hlength, hoffset, hdigest, hheader⟩ := finalized_file hopen hfinalize horiginal
  obtain ⟨disk, _, hdisk, hcontent, hstored, hheld⟩ := verify_sound hverify
  obtain rfl := Option.some.inj (htampered.symm.trans hcontent)
  have hsize : spool.sha256.length = 32 := by
    rw [hdigest, sha256.digest_length]
  -- A spool that was finalized has a checksum, so the file must hold that one.
  have hequal : spool.sha256 = disk.sha256 := by
    rcases hheld with hnil | heq
    · rw [hnil] at hsize
      exact absurd hsize (by decide)
    · rw [heq, hstored]
  obtain ⟨hvalid_disk, hlength_disk, hpath, hoffset_disk, padding, hpadding, hsplit⟩ :=
    read_metadata_record hdisk htampered (hequal ▸ hsize)
  -- The digest covers the record without its checksum and the body; the padding is not covered.
  obtain ⟨hrecord, hbody⟩ := hashed_bytes_inj hvalid_disk hvalid
    (hinjective disk hdisk (by rw [← hstored, ← hdigest, hequal]))
  obtain rfl : disk = spool :=
    eq_of_record hrecord hpath (hoffset_disk.trans hoffset.symm) hequal.symm
  have hchecksum : IsChecksum (some disk.sha256) := is_checksum_some hsize
  refine ⟨hdisk, hlength_disk.trans hlength.symm, _, _, padding, rfl, ?_, hsplit, by omega⟩
  rw [hbody, ← encode_header_eq hvalid.order_length hchecksum, ← hheader]
  exact header_append_body hlength

/-- The padding is not covered: a verified file with other bytes in it is verified as well. -/
theorem repadded_verified {sha256 : Sha256} {io : ChecksumIo} (hio : io.Ok) {files : Store String}
    {spool : DirectPrintSpool} {record padding filler body : Bytes}
    (hdisk : readMetadata files spool.path = .ok spool)
    (hfile : files spool.path = some (record ++ padding ++ body))
    (hverify : verify sha256 io files spool = .ok ()) (hdigest : spool.sha256.length = 32)
    (hrecord : record = putRecord (recordOf spool (some spool.sha256)))
    (hpadding : record.length + padding.length = headerBytes)
    (hfiller : filler.length = padding.length) {later : Store String}
    (hlater : later spool.path = some (record ++ filler ++ body)) :
    hashedBytes (record ++ filler ++ body) spool = hashedBytes (record ++ padding ++ body) spool ∧
      readMetadata later spool.path = .ok spool ∧ verify sha256 io later spool = .ok () := by
  obtain ⟨hvalid, hlength, -, hoffset, -⟩ := read_metadata_record hdisk hfile hdigest
  have hheader : (record ++ padding).length = headerBytes := by rw [List.length_append, hpadding]
  have hheader_later : (record ++ filler).length = headerBytes := by
    rw [List.length_append, hfiller, hpadding]
  have hsame : hashedBytes (record ++ filler ++ body) spool =
      hashedBytes (record ++ padding ++ body) spool := by
    rw [hashedBytes, hashedBytes, readAt, readAt, List.drop_left' hheader,
      List.drop_left' hheader_later]
  have hstored : spool.sha256 = sha256.digest (hashedBytes (record ++ padding ++ body) spool) := by
    obtain ⟨disk, content, hread, hcontent, heq, -⟩ := verify_sound hverify
    obtain rfl := Except.ok.inj (hdisk.symm.trans hread)
    obtain rfl := Option.some.inj (hfile.symm.trans hcontent)
    exact heq
  have hspool : spool = spoolOf spool.path (recordOf spool (some spool.sha256)) := by
    cases spool
    simp only at hoffset
    subst hoffset
    rfl
  have hread : readMetadata later spool.path = .ok spool := by
    refine read_metadata_eq_ok.mpr ⟨_, hlater, ?_, decode_header_eq_ok.mpr ⟨?_, ?_⟩⟩
    · rw [← hlength, List.length_append, hheader_later, List.length_append, hheader]
    · rw [readAt, List.drop_zero, List.take_left' hheader_later, hheader_later]
    · refine ⟨_, filler, (is_checksum_some hdigest).fits, ?_, hspool, hvalid⟩
      rw [readAt, List.drop_zero, List.take_left' hheader_later, hrecord]
  exact ⟨hsame, hread, verify_complete hio hread hlater (hstored.trans (by rw [hsame])) (.inr rfl)⟩

/-- The operations that write a spool with one line. -/
def oneLineOps : List Writer.Op :=
  .create { token := 7 } "/tmp" oneLineMetadata ::
    oneLineCalls.map fun call ↦ .writeLine .done "" call.logicalChannel call.row call.bytes

/-- They leave a writer that holds all lines. -/
theorem one_line_run :
    ∃ s content, Writer.run zeroDigest (fun _ ↦ none) oneLineOps = s ∧ Writer.Opened s content ∧
      s.writer.metadata = Writer.createMetadata oneLineMetadata ∧
      s.writer.linesWritten.count true = s.writer.linesWritten.length ∧
      s.files s.writer.finalPath = none := by
  obtain ⟨created, hcreate⟩ := one_line_created
  obtain ⟨⟨content, hholds⟩, hmetadata⟩ := session_table hcreate oneLineCalls
  have hfree := session_final_path hcreate rfl oneLineCalls
  have hfull : ∀ index < lineCount (Writer.createMetadata oneLineMetadata),
      (tableOf (Writer.createMetadata oneLineMetadata) oneLineCalls index).isSome :=
    (table_of_full_iff one_line_valid).mpr fun logicalChannel row h ↦
      one_line_full logicalChannel row ⟨h.1, h.2, h.3, h.4⟩
  have hcount := hholds.count_eq_iff
  rw [hmetadata] at hcount
  refine ⟨writeLines created oneLineCalls, content, ?_, hholds.toOpened, hmetadata,
    hcount.mpr hfull, hfree⟩
  rw [Writer.run, oneLineOps, List.foldl_cons, Writer.Op.apply, hcreate, List.foldl_map]
  rfl

/-- It is published, and the published file is verified. -/
theorem one_line_published {io : ChecksumIo} (hio : io.Ok) :
    ∃ spool original finished,
      Writer.finalize zeroDigest (Writer.run zeroDigest (fun _ ↦ none) oneLineOps) {} =
        (finished, .ok spool) ∧
      spool.format = .nocaiX33Standard ∧
      finished.files spool.path = some original ∧
      readMetadata finished.files spool.path = .ok spool ∧
      verify zeroDigest io finished.files spool = .ok () := by
  obtain ⟨s, content, hrun, hopen, hmetadata, hcount, hfree⟩ := one_line_run
  obtain ⟨finished, hfinalize⟩ := Writer.finalize_complete hopen .default hcount hfree
  obtain ⟨-, -, -, hfiles⟩ := Writer.finalize_sound hopen hfinalize
  have hfile : finished.files s.writer.finalPath =
      some (Writer.published zeroDigest content s.writer.metadata) := by
    rw [hfiles, Store.set_same]
  have hformat : s.writer.metadata.format = .nocaiX33Standard := by rw [hmetadata]; rfl
  rw [hrun]
  exact ⟨_, _, finished, hfinalize, hformat, hfile, Writer.published_metadata hopen hfile,
    Writer.published_verified hopen hfile hio⟩

/-- A file with every padding byte changed passes, and is the published one outside of it. -/
theorem verify_tamper_evident_one_line :
    ∃ finished spool original later tampered,
      Writer.finalize zeroDigest (Writer.run zeroDigest (fun _ ↦ none) oneLineOps) {} =
        (finished, .ok spool) ∧
      finished.files spool.path = some original ∧ later spool.path = some tampered ∧
      tampered ≠ original ∧ verify zeroDigest {} later spool = .ok () ∧
      readMetadata later spool.path = .ok spool ∧
      tampered.length = original.length ∧
      ∃ record body padding,
        record = putRecord (recordOf spool (some spool.sha256)) ∧
        original = record ++ List.replicate (headerBytes - record.length) 0 ++ body ∧
        tampered = record ++ padding ++ body ∧
        padding.length = headerBytes - record.length := by
  obtain ⟨spool, original, finished, hfinalize, -, hfile, hdisk, hverify⟩ :=
    one_line_published .default
  have hdigest : spool.sha256.length = 32 := by
    obtain ⟨disk, _, hread, -, hstored, -⟩ := verify_sound hverify
    obtain rfl := Except.ok.inj (hdisk.symm.trans hread)
    rw [hstored, zeroDigest.digest_length]
  obtain ⟨hvalid, -, -, -, padding, hpadding, hsplit⟩ := read_metadata_record hdisk hfile hdigest
  have hroom : (putRecord (recordOf spool (some spool.sha256))).length < headerBytes :=
    put_record_length_lt hvalid.order_length (is_checksum_some hdigest)
  rw [hsplit] at hfile
  -- The record leaves at least one byte of padding.
  have hother : padding.map (· + 1) ≠ padding := by
    cases padding with
    | nil => exact absurd hpadding (by simp only [List.length_nil]; omega)
    | cons byte padding => simp
  have hlater := finished.files.set_same spool.path
    (putRecord (recordOf spool (some spool.sha256)) ++ padding.map (· + 1) ++
      readAt original headerBytes spool.bodyBytes.toNat)
  obtain ⟨hsame, hread, hpassed⟩ := repadded_verified .default hdisk hfile hverify hdigest rfl
    hpadding (List.length_map _) hlater
  obtain ⟨-, hlength, hforms⟩ :=
    verify_tamper_evident hfinalize hfile hlater hpassed fun decoded hdecoded _ ↦ by
      rw [Except.ok.inj (hdecoded.symm.trans hread)]
      exact hsame
  refine ⟨finished, spool, _, _, _, hfinalize, hfile, hlater, ?_, hpassed, hread, hlength, hforms⟩
  intro heq
  exact hother (List.append_cancel_left (List.append_cancel_right heq))

end PrintFlow.RasterSpool
