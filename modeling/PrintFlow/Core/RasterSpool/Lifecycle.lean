import Mathlib.Data.Nat.Digits.Defs
import PrintFlow.Core.RasterSpool.RoundTrip
import PrintFlow.Library.Runs

/-!
# The life of a spool writer

Several writers share a directory. Each works on a temporary file of its own, named after a random
token; the finished file has another name, and only a `finalize` that succeeds makes it appear.
`Session` is what a writer with an open file owes to the calls since its `create`: its line bits,
its lines, and a final name that is still free.
-/

namespace PrintFlow.RasterSpool

open DataStream FileStore

/-! ## The names of spool files -/

/-- A file named `printflow-*.pfrs`. -/
def IsSpool (path : String) : Prop :=
  ∃ directory name, path = filePath directory ("printflow-" ++ name ++ ".pfrs")

theorem final_path_is_spool (directory : String) (token : UInt64) :
    IsSpool (finalPathOf directory token) := ⟨directory, hexToken token, rfl⟩

/-- A file path ends with the file's name. -/
theorem file_path_suffix (directory name : String) :
    ∃ before, (filePath directory name).toList = before ++ name.toList := by
  unfold filePath
  split_ifs
  · exact ⟨directory.toList, by rw [String.toList_append]⟩
  · exact ⟨(directory ++ "/").toList, by rw [String.toList_append]⟩

/-- A temporary file is not named like a finished one. -/
theorem IsSpool.ne_temporary {path : String} (h : IsSpool path) (directory : String)
    (token : UInt64) : path ≠ partialPathOf directory token := by
  obtain ⟨home, name, rfl⟩ := h
  intro heq
  obtain ⟨before, hspool⟩ := file_path_suffix home ("printflow-" ++ name ++ ".pfrs")
  obtain ⟨before', hpart⟩ :=
    file_path_suffix directory ("printflow-" ++ hexToken token ++ ".pfrs.partial")
  have hletters : (".pfrs".toList = ['.', 'p', 'f', 'r'] ++ ['s']) ∧
      (".pfrs.partial".toList = ".pfrs.partia".toList ++ ['l']) := ⟨rfl, rfl⟩
  have hlast := congrArg (fun path : String ↦ path.toList.getLast?) heq
  simp only [partialPathOf, hspool, hpart, String.toList_append, hletters, ← List.append_assoc,
    List.getLast?_concat] at hlast
  exact absurd hlast (by decide)

/-- The value of a hexadecimal digit. -/
def hexDigit (digit : Char) : Nat :=
  if digit.toNat < 58 then digit.toNat - 48 else digit.toNat - 87

/-- The value of a hexadecimal numeral. -/
def hexValue (digits : List Char) : Nat :=
  digits.foldl (fun value digit ↦ 16 * value + hexDigit digit) 0

theorem hex_digit_char {value : Nat} (h : value < 16) : hexDigit value.digitChar = value := by
  have hall : ∀ value : Fin 16, hexDigit value.val.digitChar = value := by decide
  exact hall ⟨value, h⟩

/-- A numeral has the value it was written for. -/
theorem hex_value_to_digits (value : Nat) : hexValue (Nat.toDigits 16 value) = value := by
  induction value using Nat.strong_induction_on with
  | _ value ih =>
      by_cases hdigit : value < 16
      · rw [Nat.toDigits_of_lt_base hdigit]
        show 16 * 0 + hexDigit value.digitChar = value
        rw [hex_digit_char hdigit, Nat.mul_zero, Nat.zero_add]
      · have hrest := ih (value / 16) (by omega)
        have hlast := hex_digit_char (Nat.mod_lt value (by decide : 16 > 0))
        unfold hexValue at hrest ⊢
        rw [Nat.toDigits_of_base_le (by decide) (not_lt.mp hdigit), List.foldl_append, hrest,
          List.foldl_cons, List.foldl_nil, hlast]
        exact Nat.div_add_mod value 16

/-- A numeral has no dash. -/
theorem dash_not_mem_to_digits (value : Nat) : '-' ∉ Nat.toDigits 16 value := by
  induction value using Nat.strong_induction_on with
  | _ value ih =>
      have hdash : ∀ digit : Fin 16, '-' ≠ digit.val.digitChar := by decide
      by_cases hdigit : value < 16
      · rw [Nat.toDigits_of_lt_base hdigit, List.mem_singleton]
        exact hdash ⟨value, hdigit⟩
      · rw [Nat.toDigits_of_base_le (by decide) (not_lt.mp hdigit), List.mem_append, not_or,
          List.mem_singleton]
        exact ⟨ih (value / 16) (by omega), hdash ⟨value % 16, Nat.mod_lt value (by decide)⟩⟩

/-- The digits of the token in a file path are what follows the last dash. -/
theorem token_of_path {before before' : List Char} {token token' : UInt64}
    (h : before ++ ['-'] ++ (hexToken token).toList =
      before' ++ ['-'] ++ (hexToken token').toList) : token = token' := by
  have htail : ∀ (before : List Char) (token : UInt64),
      (before ++ ['-'] ++ (hexToken token).toList).reverse.takeWhile (· ≠ '-') =
        (Nat.toDigits 16 token.toNat).reverse := by
    intro before token
    have hdigits : ∀ digit ∈ (Nat.toDigits 16 token.toNat).reverse,
        decide (digit ≠ '-') = true := by
      intro digit hdigit
      rw [decide_eq_true_eq]
      rintro rfl
      exact dash_not_mem_to_digits token.toNat (List.mem_reverse.mp hdigit)
    rw [hexToken, String.toList_ofList, List.reverse_append, List.takeWhile_append_of_pos hdigits]
    simp
  have hreverse := congrArg (fun path : List Char ↦ path.reverse.takeWhile (· ≠ '-')) h
  simp only [htail, List.reverse_inj] at hreverse
  have hvalue := congrArg hexValue hreverse
  rw [hex_value_to_digits, hex_value_to_digits] at hvalue
  exact UInt64.toNat_inj.mp hvalue

/-- The path of a spool with its token set off. -/
theorem token_path (directory ending : String) (token : UInt64) :
    ∃ before, (filePath directory ("printflow-" ++ hexToken token ++ ending)).toList =
      before ++ ['-'] ++ (hexToken token).toList ++ ending.toList := by
  obtain ⟨before, hpath⟩ := file_path_suffix directory ("printflow-" ++ hexToken token ++ ending)
  have hdash : "printflow-".toList = "printflow".toList ++ ['-'] := rfl
  refine ⟨before ++ "printflow".toList, ?_⟩
  rw [hpath, String.toList_append, String.toList_append, hdash]
  simp only [List.append_assoc]

/-- Temporary files of different tokens are different files. -/
theorem partial_path_inj {directory directory' : String} {token token' : UInt64}
    (h : partialPathOf directory token = partialPathOf directory' token') : token = token' := by
  obtain ⟨before, hpath⟩ := token_path directory ".pfrs.partial" token
  obtain ⟨before', hpath'⟩ := token_path directory' ".pfrs.partial" token'
  have hlist := congrArg String.toList h
  rw [partialPathOf, partialPathOf, hpath, hpath'] at hlist
  exact token_of_path (List.append_cancel_right hlist)

/-- Finished files of different tokens are different files. -/
theorem final_path_inj {directory directory' : String} {token token' : UInt64}
    (h : finalPathOf directory token = finalPathOf directory' token') : token = token' := by
  obtain ⟨before, hpath⟩ := token_path directory ".pfrs" token
  obtain ⟨before', hpath'⟩ := token_path directory' ".pfrs" token'
  have hlist := congrArg String.toList h
  rw [finalPathOf, finalPathOf, hpath, hpath'] at hlist
  exact token_of_path (List.append_cancel_right hlist)

/-- A temporary file has a name. -/
theorem partial_path_ne_empty (directory : String) (token : UInt64) :
    partialPathOf directory token ≠ "" := by
  intro heq
  obtain ⟨before, hpath⟩ := token_path directory ".pfrs.partial" token
  have hlist := congrArg (fun path : String ↦ path.toList.length) heq
  simp only [partialPathOf, hpath, List.length_append] at hlist
  exact absurd hlist (Nat.succ_ne_zero _)

/-! ## What an operation does to the files -/

namespace Writer

variable {sha256 : Sha256} {s s' : State} {content : Bytes}

/-- `cancel` removes the temporary file. -/
theorem cancel_gone (s : State) (h : s.writer.partialPath ≠ "") :
    (cancel s).files s.writer.partialPath = none := by
  simp only [cancel, if_neg h, Store.remove_same]

/-- `cancel` touches no other file. -/
theorem cancel_other (s : State) {path : String} (h : path ≠ s.writer.partialPath) :
    (cancel s).files path = s.files path := by
  simp only [cancel]
  split_ifs
  · rfl
  · exact Store.remove_other _ h

/-- Writing the header changes no file but the temporary one. -/
theorem write_header_other (s : State) (io : Io) (checksum : Option Bytes) {path : String}
    (h : path ≠ s.writer.partialPath) :
    (writeHeader s io checksum).1.files path = s.files path := by
  simp only [writeHeader]
  split_ifs
  · rfl
  · exact Store.modify_other _ h
  · exact Store.modify_other _ h

/-- Writing the header does not change the members. -/
theorem write_header_writer (s : State) (io : Io) (checksum : Option Bytes) :
    (writeHeader s io checksum).1.writer = s.writer := by
  simp only [writeHeader]
  split_ifs
  · rfl
  · rfl
  · rfl

/-- A failed allocation leaves no temporary file and touches no other one. -/
theorem allocate_error {io : CreateIo} {message : String} (hpath : s.writer.partialPath ≠ "")
    (h : allocate s io = (s', .error message)) :
    s'.writer = { metadata := s.writer.metadata } ∧ s'.files s.writer.partialPath = none ∧
      ∀ path, path ≠ s.writer.partialPath → s'.files path = s.files path := by
  have hwriter := write_header_writer s io.header none
  have hgone : s' = cancel (writeHeader s io.header none).1 := by
    unfold allocate at h
    split at h
    · next written _ hwritten =>
        rw [hwritten]
        exact (Prod.mk.inj h).1.symm
    · next written hwritten =>
        rw [hwritten]
        split_ifs at h
        · exact (Prod.mk.inj h).1.symm
        · exact absurd (congrArg Prod.snd h) (by simp)
  subst hgone
  refine ⟨?_, ?_, ?_⟩
  · rw [cancel, hwriter]
  · have hcancel := cancel_gone (writeHeader s io.header none).1
    rw [hwriter] at hcancel
    exact hcancel hpath
  · intro path hother
    rw [cancel_other _ (by rw [hwriter]; exact hother), write_header_other s _ _ hother]

/-- A failed `create` leaves the object without a file. The temporary file it had before and the
one it tried to make are gone, and no other file is touched. -/
theorem create_failed {io : CreateIo} {directory message : String} {metadata : DirectPrintSpool}
    (h : create s io directory metadata = (s', .error message)) :
    s'.writer = { metadata := createMetadata metadata } ∧
      (∀ path, path ≠ partialPathOf directory io.token → s'.files path = (cancel s).files path) ∧
      (s'.files (partialPathOf directory io.token) = none ∨ s'.files = (cancel s).files) := by
  simp only [create] at h
  split at h
  · rw [← (Prod.mk.inj h).1]
    exact ⟨rfl, fun _ _ ↦ rfl, Or.inr rfl⟩
  · split_ifs at h with hdirectory hopened
    · rw [← (Prod.mk.inj h).1]
      exact ⟨rfl, fun _ _ ↦ rfl, Or.inr rfl⟩
    · rw [← (Prod.mk.inj h).1]
      have hname := partial_path_ne_empty directory io.token
      refine ⟨rfl, fun path hpath ↦ ?_, Or.inl ?_⟩
      · rw [cancel_other _ hpath]
      · exact cancel_gone _ hname
    · obtain ⟨hwriter, hgone, hother⟩ := allocate_error (partial_path_ne_empty _ _) h
      refine ⟨hwriter, fun path hpath ↦ ?_, Or.inl hgone⟩
      exact (hother path hpath).trans (Store.set_other _ _ hpath)

/-- A call of `writeLine` changes no file but the temporary one of an open writer, and none of the
paths. -/
theorem write_line_other (s : State) (io : Io) (errorString : String) (logicalChannel row : Int32)
    (bytes : Bytes) :
    (∀ path, (writeLine s io errorString logicalChannel row bytes).1.files path ≠ s.files path →
      s.writer.file = .opened ∧ path = s.writer.partialPath) ∧
    (writeLine s io errorString logicalChannel row bytes).1.writer.partialPath =
      s.writer.partialPath ∧
    (writeLine s io errorString logicalChannel row bytes).1.writer.finalPath =
      s.writer.finalPath ∧
    (writeLine s io errorString logicalChannel row bytes).1.writer.file = s.writer.file := by
  simp only [writeLine]
  split_ifs with hguard
  · exact ⟨fun path hpath ↦ absurd rfl hpath, rfl, rfl, rfl⟩
  · have hfile := not_not.mp (not_or.mp hguard).1
    refine ⟨fun path hpath ↦ ⟨hfile, ?_⟩, rfl, rfl, rfl⟩
    by_contra hother
    exact hpath (Store.modify_other _ hother)
  · have hfile := not_not.mp (not_or.mp hguard).1
    refine ⟨fun path hpath ↦ ⟨hfile, ?_⟩, rfl, rfl, rfl⟩
    by_contra hother
    exact hpath (Store.modify_other _ hother)
  · exact ⟨fun path hpath ↦ absurd rfl hpath, rfl, rfl, rfl⟩

/-- A call of `writeLine` does not change the metadata. -/
theorem write_line_metadata (s : State) (io : Io) (errorString : String)
    (logicalChannel row : Int32) (bytes : Bytes) :
    (writeLine s io errorString logicalChannel row bytes).1.writer.metadata =
      s.writer.metadata := by
  simp only [writeLine]
  split_ifs
  · rfl
  · rfl
  · rfl
  · rfl

/-- The state of an open writer is the one with its file written over by nothing. -/
theorem Opened.eq_self (hopen : Opened s content) :
    s = { files := s.files.set s.writer.partialPath (overwrite content 0 [])
          writer := { s.writer with file := .opened } } := by
  have hcontent : overwrite content 0 [] = content := by simp [overwrite]
  have hfiles : s.files.set s.writer.partialPath content = s.files := by
    rw [Store.set, ← hopen.stored, Function.update_eq_self]
  rw [hcontent, hfiles, ← hopen.file]

/-- A `publish` that fails has written over the header at most. -/
theorem publish_failed (hopen : Opened s content) {io : FinalizeIo} {checksum : Bytes}
    {message : String} (hlength : checksum.length = 32)
    (h : publish s io checksum = (s', .error message)) :
    ∃ header file, header.length ≤ headerBytes ∧
      s' = { files := s.files.set s.writer.partialPath (overwrite content 0 header)
             writer := { s.writer with file } } := by
  have hchecksum : IsChecksum (some checksum) := is_checksum_some hlength
  have hheader : (io.header.stored (encodeHeader s.writer.metadata (some checksum))).length ≤
      headerBytes := by
    rw [← encode_header_length hopen.valid.order_length hchecksum]
    exact io.header.stored_length_le _
  have hwritten : writeAt s io.header 0 (encodeHeader s.writer.metadata (some checksum)) =
      { files := s.files.set s.writer.partialPath
          (overwrite content 0 (io.header.stored (encodeHeader s.writer.metadata (some checksum))))
        writer := { s.writer with file := .opened } } := by
    rw [writeAt, Store.modify_eq_set hopen.stored, ← hopen.file]
  rw [publish, write_header_eq hopen.file hopen.valid hchecksum, hwritten] at h
  cases hok : io.header.ok with
  | false =>
      rw [hok] at h
      exact ⟨_, _, hheader, (Prod.mk.inj h).1.symm⟩
  | true =>
      simp only [hok, if_true] at h
      split_ifs at h
      · exact ⟨_, _, hheader, (Prod.mk.inj h).1.symm⟩
      · split at h
        · exact ⟨_, _, hheader, (Prod.mk.inj h).1.symm⟩
        · exact absurd (congrArg Prod.snd h) (by simp)
      · exact ⟨_, _, hheader, (Prod.mk.inj h).1.symm⟩

/-- Without an open file `finalize` does nothing. -/
theorem finalize_closed {io : FinalizeIo} (h : s.writer.file ≠ .opened) :
    finalize sha256 s io = (s, .error "Raster spool is not open.") := by
  rw [finalize, if_pos h]

/-- A `finalize` that fails has written over the header at most. -/
theorem finalize_failed (hopen : Opened s content) {io : FinalizeIo} {message : String}
    (h : finalize sha256 s io = (s', .error message)) :
    ∃ header file, header.length ≤ headerBytes ∧
      s' = { files := s.files.set s.writer.partialPath (overwrite content 0 header)
             writer := { s.writer with file } } := by
  have hkeep : ∃ header file, header.length ≤ headerBytes ∧
      s = { files := s.files.set s.writer.partialPath (overwrite content 0 header)
            writer := { s.writer with file } } :=
    ⟨[], .opened, Nat.zero_le _, hopen.eq_self⟩
  rw [finalize, if_neg (not_not.mpr hopen.file)] at h
  split_ifs at h
  · exact (Prod.mk.inj h).1 ▸ hkeep
  · exact (Prod.mk.inj h).1 ▸ hkeep
  · split at h
    · exact (Prod.mk.inj h).1 ▸ hkeep
    · split_ifs at h with hlength
      · exact (Prod.mk.inj h).1 ▸ hkeep
      · exact publish_failed hopen (not_not.mp hlength) h

/-- After a `finalize` that succeeds the file is closed, under its final name. -/
theorem finalize_writer (hopen : Opened s content) {io : FinalizeIo} {result : DirectPrintSpool}
    (h : finalize sha256 s io = (s', .ok result)) :
    s'.writer = { s.writer with file := .closed, metadata := result, finalized := true } := by
  rw [finalize, if_neg (not_not.mpr hopen.file)] at h
  split_ifs at h
  · exact absurd (congrArg Prod.snd h) (by simp)
  · exact absurd (congrArg Prod.snd h) (by simp)
  · split at h
    · exact absurd (congrArg Prod.snd h) (by simp)
    · split_ifs at h with hlength
      · exact absurd (congrArg Prod.snd h) (by simp)
      · next checksum _ =>
          have hchecksum : IsChecksum (some checksum) :=
            is_checksum_some (not_not.mp hlength)
          rw [publish, write_header_eq hopen.file hopen.valid hchecksum] at h
          cases hok : io.header.ok with
          | false =>
              rw [hok] at h
              exact absurd (congrArg Prod.snd h) (by simp)
          | true =>
              simp only [hok, if_true, write_at_writer] at h
              split_ifs at h
              · exact absurd (congrArg Prod.snd h) (by simp)
              · split at h
                · exact absurd (congrArg Prod.snd h) (by simp)
                · obtain ⟨rfl, hresult⟩ := Prod.mk.inj h
                  rw [← Except.ok.inj hresult]
              · exact absurd (congrArg Prod.snd h) (by simp)

/-- A hashing loop that succeeds was never told to stop. -/
theorem hash_body_not_canceled {io : ChecksumIo} {fuel index offset remaining poll : Nat}
    {hashed result : Bytes} (hfuel : remaining ≤ fuel)
    (h : hashBody io content fuel index offset remaining hashed = .ok result)
    (hpoll : poll * hashChunkBytes < remaining) : io.canceled (index + poll) = false := by
  induction fuel generalizing index offset remaining poll hashed with
  | zero => omega
  | succ fuel ih =>
      simp only [hashBody] at h
      split_ifs at h with hzero hcanceled hlength
      · omega
      · cases poll with
        | zero => exact Bool.eq_false_iff.mpr hcanceled
        | succ poll =>
            rw [Nat.succ_mul] at hpoll
            have hmin : min remaining hashChunkBytes = hashChunkBytes :=
              Nat.min_eq_right (by omega)
            have hpos : 0 < hashChunkBytes := by decide
            rw [hmin] at h
            have hbefore : poll * hashChunkBytes < remaining - hashChunkBytes := by omega
            have hrest := ih (by omega) h hbefore
            rwa [Nat.add_assoc, Nat.add_comm 1 poll] at hrest

/-- A `finalize` that is told to stop while it hashes fails. -/
theorem finalize_canceled (sha256 : Sha256) (s : State) {io : FinalizeIo} {poll : Nat}
    (hpoll : poll * hashChunkBytes < s.writer.metadata.bodyBytes.toNat)
    (hcanceled : io.checksum.canceled poll = true) (result : DirectPrintSpool) :
    (finalize sha256 s io).2 ≠ .ok result := by
  intro h
  unfold finalize at h
  split_ifs at h
  split at h
  · cases h
  · next checksum hchecksum =>
      unfold spoolChecksum at hchecksum
      dsimp only at hchecksum
      split_ifs at hchecksum
      split at hchecksum
      · cases hchecksum
      · next hashed hbody =>
          have hrunning := hash_body_not_canceled (Nat.le_refl _) hbody hpoll
          rw [Nat.zero_add, hcanceled] at hrunning
          exact absurd hrunning (by decide)

end Writer

/-! ## The lines of a session -/

/-- A call of `writeLine` and the outcome of its write. -/
structure LineWrite where
  io : Io
  call : WriteCall

/-- Some call has written the plane-line. -/
def WrittenIn (metadata : DirectPrintSpool) (writes : List LineWrite) (logicalChannel row : Int32) :
    Prop :=
  ∃ write ∈ writes, write.io.ok = true ∧ write.call.Writes metadata logicalChannel row

/-- The bytes of a plane-line, when the last write of it did not fail. -/
def lastStored (metadata : DirectPrintSpool) (writes : List LineWrite)
    (logicalChannel row : Int32) : Option Bytes :=
  writes.foldl
    (fun last write ↦
      if write.call.Writes metadata logicalChannel row then
        if write.io.ok then some write.call.bytes else none
      else last) none

/-- What a writer with an open file owes to the line writes since its `create`: the bit of a
plane-line that was written is set, a plane-line whose last write succeeded has its bytes, and the
final name is free. -/
structure Session (s : State) (content : Bytes) (writes : List LineWrite) : Prop
    extends Writer.Opened s content where
  bit (logicalChannel row : Int32) (hrange : InRange s.writer.metadata logicalChannel row) :
    s.writer.linesWritten[lineIndex s.writer.metadata logicalChannel row]? = some true ↔
      WrittenIn s.writer.metadata writes logicalChannel row
  line (logicalChannel row : Int32) (hrange : InRange s.writer.metadata logicalChannel row)
    (bytes : Bytes) (hbytes : lastStored s.writer.metadata writes logicalChannel row = some bytes) :
    cell content headerBytes (lineBytes s.writer.metadata)
      (lineIndex s.writer.metadata logicalChannel row) = bytes
  free : s.files s.writer.finalPath = none

variable {s s' : State} {content : Bytes} {writes : List LineWrite} {metadata : DirectPrintSpool}

/-- A file that `create` returns with has no line. -/
theorem create_session {io : CreateIo} {directory : String}
    (hfree : (Writer.cancel s).files (finalPathOf directory io.token) = none)
    (h : Writer.create s io directory metadata = (s', .ok ())) :
    ∃ content, Session s' content [] := by
  obtain ⟨⟨content, hopen, hfiles⟩, hmetadata, -, hfinal, hbits⟩ := Writer.create_sound h
  refine ⟨content, hopen, ?_, ?_, ?_⟩
  · intro logicalChannel row hrange
    rw [hbits, List.getElem?_replicate]
    refine iff_of_false ?_ ?_
    · split_ifs <;> simp
    · rintro ⟨write, hwrite, -⟩
      exact absurd hwrite List.not_mem_nil
  · intro logicalChannel row hrange bytes hbytes
    exact absurd hbytes nofun
  · rw [hfinal, hfiles, Store.set_other _ _ (final_path_ne_temporary directory io.token)]
    exact hfree

/-- The lines written when one more write is made. -/
theorem written_in_append {write : LineWrite} {logicalChannel row : Int32} :
    WrittenIn metadata (writes ++ [write]) logicalChannel row ↔
      WrittenIn metadata writes logicalChannel row ∨
        write.io.ok = true ∧ write.call.Writes metadata logicalChannel row := by
  simp only [WrittenIn, List.mem_append, List.mem_singleton, or_and_right, exists_or,
    exists_eq_left]

/-- The bytes of a line when one more write is made. -/
theorem last_stored_append {write : LineWrite} {logicalChannel row : Int32} :
    lastStored metadata (writes ++ [write]) logicalChannel row =
      if write.call.Writes metadata logicalChannel row then
        if write.io.ok then some write.call.bytes else none
      else lastStored metadata writes logicalChannel row := by
  simp only [lastStored, List.foldl_append, List.foldl_cons, List.foldl_nil]

/-- The final name of a session is not the temporary one. -/
theorem Session.final_ne_temporary (h : Session s content writes) :
    s.writer.finalPath ≠ s.writer.partialPath := by
  intro heq
  have hfree := h.free
  rw [heq, h.stored] at hfree
  exact absurd hfree nofun

/-- The writer after an accepted line write: only its line bits may have changed. -/
theorem write_line_bits (writer : Writer) (io : Io) (index : Nat) :
    (if io.ok then { writer with linesWritten := writer.linesWritten.set index true }
      else writer) =
    { writer with
      linesWritten :=
        if io.ok then writer.linesWritten.set index true else writer.linesWritten } := by
  split_ifs
  · rfl
  · rfl

/-- A line write keeps the session, with one more write in it. -/
theorem Session.write_line (h : Session s content writes) (io : Io) (errorString : String)
    (logicalChannel row : Int32) (bytes : Bytes) :
    ∃ content', Session (Writer.writeLine s io errorString logicalChannel row bytes).1 content'
      (writes ++ [⟨io, logicalChannel, row, bytes⟩]) := by
  by_cases haccept : Writer.Accepts s.writer.metadata logicalChannel row bytes
  · obtain ⟨hrange, hlength⟩ := (Writer.accepts_iff h.valid).mp haccept
    obtain ⟨content', hopen⟩ := h.toOpened.write_line io errorString logicalChannel row bytes
    rw [Writer.write_line_accepted h.toOpened hrange hlength, write_line_bits] at hopen ⊢
    have hinside : headerBytes + lineIndex s.writer.metadata logicalChannel row *
        lineBytes s.writer.metadata ≤ content.length := by
      obtain ⟨-, hend⟩ := hrange.offset_to_nat h.valid
      rw [Nat.succ_mul] at hend
      rw [h.length, h.body]
      omega
    have hindex : lineIndex s.writer.metadata logicalChannel row < s.writer.linesWritten.length := by
      rw [h.bits]
      exact hrange.index_lt
    have hcontent := hopen.stored
    simp only [Store.set_same, Option.some.injEq] at hcontent
    subst hcontent
    refine ⟨_, hopen, ?_, ?_, ?_⟩
    · intro otherChannel otherRow hother
      have hbit := h.bit otherChannel otherRow hother
      rw [written_in_append]
      by_cases hsame : lineIndex s.writer.metadata otherChannel otherRow =
          lineIndex s.writer.metadata logicalChannel row
      · obtain ⟨rfl, rfl⟩ := hrange.index_inj hother hsame.symm
        cases hok : io.ok with
        | true =>
            simp only [if_true, List.getElem?_set_self hindex, true_iff]
            exact Or.inr ⟨trivial, rfl, rfl, haccept⟩
        | false => simpa [hok] using hbit
      · have hnot : ¬ (⟨logicalChannel, row, bytes⟩ : WriteCall).Writes s.writer.metadata
            otherChannel otherRow := by
          rintro ⟨rfl, rfl, -⟩
          exact hsame rfl
        have hset : (if io.ok = true then s.writer.linesWritten.set
            (lineIndex s.writer.metadata logicalChannel row) true
            else s.writer.linesWritten)[lineIndex s.writer.metadata otherChannel otherRow]? =
            s.writer.linesWritten[lineIndex s.writer.metadata otherChannel otherRow]? := by
          split_ifs
          · exact List.getElem?_set_ne (Ne.symm hsame)
          · rfl
        simp only [hset, hbit, hnot, and_false, or_false]
    · intro otherChannel otherRow hother stored hstored
      rw [last_stored_append] at hstored
      by_cases hsame : lineIndex s.writer.metadata otherChannel otherRow =
          lineIndex s.writer.metadata logicalChannel row
      · obtain ⟨rfl, rfl⟩ := hrange.index_inj hother hsame.symm
        rw [if_pos ⟨rfl, rfl, haccept⟩] at hstored
        split_ifs at hstored with hok
        rw [← Option.some.inj hstored]
        simp only [Io.stored_of_ok hok]
        exact cell_overwrite_same hinside hlength
      · rw [if_neg (by rintro ⟨rfl, rfl, -⟩; exact hsame rfl)] at hstored
        have hsize : (io.stored bytes).length ≤ lineBytes s.writer.metadata :=
          hlength ▸ io.stored_length_le bytes
        exact (cell_overwrite_other hinside hsize hsame).trans
          (h.line otherChannel otherRow hother stored hstored)
    · exact (Store.set_other _ _ h.final_ne_temporary).trans h.free
  · -- A rejected call writes no line.
    have hnone : ∀ otherChannel otherRow, ¬ (⟨logicalChannel, row, bytes⟩ : WriteCall).Writes
        s.writer.metadata otherChannel otherRow := by
      rintro otherChannel otherRow ⟨rfl, rfl, hcall⟩
      exact haccept hcall
    rw [Writer.write_line_rejected haccept]
    refine ⟨content, h.toOpened, ?_, ?_, h.free⟩
    · intro otherChannel otherRow hother
      rw [written_in_append, h.bit otherChannel otherRow hother]
      exact ⟨Or.inl, fun hwritten ↦ hwritten.resolve_right fun hcall ↦ hnone _ _ hcall.2⟩
    · intro otherChannel otherRow hother stored hstored
      rw [last_stored_append, if_neg (hnone _ _)] at hstored
      exact h.line otherChannel otherRow hother stored hstored

/-- A `finalize` that fails and leaves the file open keeps the session. -/
theorem Session.finalize_failed {sha256 : Sha256} {io : FinalizeIo} {message : String}
    (h : Session s content writes) (hfile : s'.writer.file = .opened)
    (hfinalize : Writer.finalize sha256 s io = (s', .error message)) :
    s'.writer = s.writer ∧ ∃ content', Session s' content' writes := by
  obtain ⟨header, file, hheader, rfl⟩ := Writer.finalize_failed h.toOpened hfinalize
  obtain rfl : file = .opened := hfile
  have hwriter : { s.writer with file := .opened } = s.writer := by rw [← h.file]
  have hlength : (overwrite content 0 header).length = content.length := by
    refine overwrite_length ?_
    rw [h.length]
    omega
  refine ⟨hwriter, overwrite content 0 header, ?_, h.bit, ?_, ?_⟩
  · exact ⟨rfl, h.finalized, Store.set_same .., h.valid, h.offset, h.body, h.checksum,
      hlength.trans h.length, h.bits⟩
  · intro logicalChannel row hrange bytes hbytes
    exact (cell_overwrite_before (Nat.zero_le _) (by omega)).trans
      (h.line logicalChannel row hrange bytes hbytes)
  · exact (Store.set_other _ _ h.final_ne_temporary).trans h.free

/-- A session does not depend on files other than its two. -/
theorem Session.frame (h : Session s content writes) {files : Store String}
    (hpart : files s.writer.partialPath = s.files s.writer.partialPath)
    (hfinal : files s.writer.finalPath = s.files s.writer.finalPath) :
    Session { s with files } content writes where
  toOpened := ⟨h.file, h.finalized, hpart.trans h.stored, h.valid, h.offset, h.body, h.checksum,
    h.length, h.bits⟩
  bit := h.bit
  line := h.line
  free := hfinal.trans h.free

/-- The line bits are all set exactly when every plane-line was written. -/
theorem Session.full_iff (h : Session s content writes) :
    s.writer.linesWritten.count true = s.writer.linesWritten.length ↔
      ∀ logicalChannel row, InRange s.writer.metadata logicalChannel row →
        WrittenIn s.writer.metadata writes logicalChannel row := by
  rw [List.count_eq_length]
  constructor
  · intro hall logicalChannel row hrange
    have hindex : lineIndex s.writer.metadata logicalChannel row < s.writer.linesWritten.length := by
      rw [h.bits]
      exact hrange.index_lt
    rw [← h.bit logicalChannel row hrange, List.getElem?_eq_getElem hindex,
      ← hall _ (List.getElem_mem hindex)]
  · intro hwritten bit hbit
    obtain ⟨index, hindex, rfl⟩ := List.getElem_of_mem hbit
    obtain ⟨logicalChannel, row, hrange, rfl⟩ :=
      InRange.exists_of_lt h.valid (h.bits ▸ hindex)
    have hset := (h.bit logicalChannel row hrange).mpr (hwritten logicalChannel row hrange)
    rw [List.getElem?_eq_getElem hindex, Option.some.injEq] at hset
    exact hset.symm

/-- Calls without failures keep the session, with their writes in it. -/
theorem Session.write_lines (h : Session s content writes) (calls : List WriteCall) :
    (writeLines s calls).writer.metadata = s.writer.metadata ∧
      ∃ content',
        Session (writeLines s calls) content' (writes ++ calls.map (LineWrite.mk .done)) := by
  induction calls generalizing s content writes with
  | nil => exact ⟨rfl, content, by simpa [writeLines] using h⟩
  | cons call calls ih =>
      obtain ⟨middle, hmiddle⟩ :=
        h.write_line .done "" call.logicalChannel call.row call.bytes
      obtain ⟨hmetadata, content', hlast⟩ := ih hmiddle
      refine ⟨hmetadata.trans (Writer.write_line_metadata ..), content', ?_⟩
      rw [List.append_assoc] at hlast
      exact hlast

/-- A finalized session is a verified spool that reads back every plane-line whose last write
succeeded. -/
theorem Session.reads_back {sha256 : Sha256} {io : FinalizeIo} {result : DirectPrintSpool}
    (h : Session s content writes) (hfinalize : Writer.finalize sha256 s io = (s', .ok result)) :
    verify sha256 {} s'.files result = .ok () ∧
      ∃ reader, Reader.open sha256 {} s'.files result.path true = .ok reader ∧
        reader.metadata = result ∧
        ∀ logicalChannel row, InRange s.writer.metadata logicalChannel row → ∀ bytes,
          lastStored s.writer.metadata writes logicalChannel row = some bytes →
          reader.readLine s'.files logicalChannel row = .ok bytes := by
  obtain ⟨-, -, rfl, hfiles⟩ := Writer.finalize_sound h.toOpened hfinalize
  have hfile : s'.files s.writer.finalPath =
      some (Writer.published sha256 content s.writer.metadata) := by
    rw [hfiles, Store.set_same]
  obtain ⟨hreader, hcomplete⟩ := Writer.published_opens h.toOpened hfile .default true
  refine ⟨Writer.published_verified h.toOpened hfile .default, _, hreader, rfl, ?_⟩
  intro logicalChannel row hrange bytes hbytes
  have hread := Reader.read_line_eq hcomplete
    (InRange.mk hrange.1 hrange.2 hrange.3 hrange.4 :
      InRange (Writer.finalMetadata sha256 content s.writer) logicalChannel row)
  rw [hread, Reader.content, hfile, Option.getD_some]
  exact congrArg Except.ok ((Writer.published_body h.toOpened (Nat.le_add_right ..)).trans
    (h.line logicalChannel row hrange bytes hbytes))

/-! ## Several writers -/

/-- The files and the writers around them. An identifier stands for a writer object and, once that
is destroyed, for the next one. -/
structure Spools where
  files : Store String
  writers : Nat → Writer

/-- What one of the writers works on. -/
def Spools.view (s : Spools) (id : Nat) : State := ⟨s.files, s.writers id⟩

/-- A writer and the files are now as in this state. -/
def Spools.put (s : Spools) (id : Nat) (after : State) : Spools :=
  ⟨after.files, Function.update s.writers id after.writer⟩

/-- A call of one of the writers, or its destructor. -/
inductive Event where
  | call (id : Nat) (op : Writer.Op)
  | destroy (id : Nat)

namespace Event

/-- One event. -/
def apply (sha256 : Sha256) (s : Spools) : Event → Spools
  | .call id op => s.put id (op.apply sha256 (s.view id))
  | .destroy id => s.put id { files := (Writer.destroy (s.view id)).files, writer := {} }

/-- The writer of an event. -/
def id : Event → Nat
  | .call id _ => id
  | .destroy id => id

/-- The random token that an event may draw. -/
def token? : Event → Option UInt64
  | .call _ (.create io _ _) => some io.token
  | _ => none

/-- The line writes of a writer since its `create`, after one more event. -/
def log (writer : Nat) (writes : List LineWrite) (event : Event) : List LineWrite :=
  if event.id ≠ writer then writes
  else
    match event with
    | .call _ (.writeLine io _ logicalChannel row bytes) =>
        writes ++ [⟨io, logicalChannel, row, bytes⟩]
    | .call _ (.finalize _) => writes
    | _ => []

/-- The events of other writers do not count. -/
theorem log_other {event : Event} {writer : Nat} {writes : List LineWrite}
    (h : event.id ≠ writer) : event.log writer writes = writes := by
  cases event with
  | call id op => exact if_pos h
  | destroy id => exact if_pos h

end Event

/-- The state after some events, where no writer has a file at first. -/
def runEvents (sha256 : Sha256) (files : Store String) (events : List Event) : Spools :=
  Runs.run (Event.apply sha256) ⟨files, fun _ ↦ {}⟩ events

/-- The line writes of a writer since its last `create`. -/
def writesOf (events : List Event) (id : Nat) : List LineWrite := events.foldl (Event.log id) []

/-- The random tokens of the events differ from each other and from those of the files there. -/
structure DistinctTokens (files : Store String) (events : List Event) : Prop where
  nodup : (events.filterMap Event.token?).Nodup
  fresh : ∀ token ∈ events.filterMap Event.token?, ∀ directory,
    files (partialPathOf directory token) = none ∧ files (finalPathOf directory token) = none

/-- A writer that works under the names of a token. -/
structure Owns (writer : Writer) (directory : String) (token : UInt64) : Prop where
  partialPath : writer.partialPath = partialPathOf directory token
  finalPath : writer.finalPath = finalPathOf directory token

/-- The state of the writers after some events: a writer without names has no file; the others work
under different tokens of the events; an open one is in the session of its line writes; and no file
has appeared but under the names of these tokens. -/
structure Tracked (files : Store String) (events : List Event) (s : Spools) : Prop where
  named (id : Nat) : ((s.writers id).partialPath = "" ∧ (s.writers id).file ≠ .opened) ∨
    ∃ directory, ∃ token ∈ events.filterMap Event.token?, Owns (s.writers id) directory token
  distinct {id other : Nat} {directory directory' : String} {token : UInt64}
    (hid : Owns (s.writers id) directory token) (hother : Owns (s.writers other) directory' token) :
    id = other
  session (id : Nat) (hfile : (s.writers id).file = .opened) :
    ∃ content, Session (s.view id) content (writesOf events id)
  stored (path : String) (hpath : files path = none) (hstored : s.files path ≠ none) :
    ∃ directory, ∃ token ∈ events.filterMap Event.token?,
      path = partialPathOf directory token ∨ path = finalPathOf directory token

/-- The file of an event: under the temporary name of its writer or of its own token, or under the
final name of a writer that it finalizes. -/
def Event.Touches (sha256 : Sha256) (s : Spools) (event : Event) (path : String) : Prop :=
  ∃ directory token,
    path = partialPathOf directory token ∧
        (Owns (s.writers event.id) directory token ∨ event.token? = some token) ∨
      path = finalPathOf directory token ∧ Owns (s.writers event.id) directory token ∧
        ∃ io result, event = .call event.id (.finalize io) ∧
          (Writer.finalize sha256 (s.view event.id) io).2 = .ok result ∧ result.path = path

namespace Tracked

variable {sha256 : Sha256} {files : Store String} {events : List Event} {s : Spools}
  {event : Event} {path : String}

/-- The token of a writer with a temporary name or an open file. -/
theorem owner (h : Tracked files events s) {id : Nat}
    (hid : (s.writers id).partialPath ≠ "" ∨ (s.writers id).file = .opened) :
    ∃ directory, ∃ token ∈ events.filterMap Event.token?, Owns (s.writers id) directory token := by
  rcases h.named id with ⟨hpath, hfile⟩ | howner
  · exact absurd hid (by simp [hpath, hfile])
  · exact howner

/-- `cancel` touches the temporary file. -/
theorem cancel_touches (h : Tracked files events s) {id : Nat}
    (hpath : (Writer.cancel (s.view id)).files path ≠ s.files path) :
    ∃ directory token, path = partialPathOf directory token ∧
      Owns (s.writers id) directory token := by
  have heq : path = (s.writers id).partialPath := by
    by_contra hother
    exact hpath (Writer.cancel_other _ hother)
  have hname : (s.writers id).partialPath ≠ "" := by
    intro hempty
    exact hpath (by rw [Writer.cancel, Spools.view, if_pos hempty])
  obtain ⟨directory, token, -, howns⟩ := h.owner (Or.inl hname)
  exact ⟨directory, token, heq.trans howns.partialPath, howns⟩

/-- An event changes no other file. -/
theorem touches (h : Tracked files events s)
    (hpath : (event.apply sha256 s).files path ≠ s.files path) :
    event.Touches sha256 s path := by
  cases event with
  | destroy id =>
      simp only [Event.apply, Spools.put, Writer.destroy] at hpath
      split_ifs at hpath with hfinalized
      · exact absurd rfl hpath
      · obtain ⟨directory, token, heq, howns⟩ := h.cancel_touches hpath
        exact ⟨directory, token, Or.inl ⟨heq, Or.inl howns⟩⟩
  | call id op =>
      cases op with
      | cancel =>
          obtain ⟨directory, token, heq, howns⟩ := h.cancel_touches hpath
          exact ⟨directory, token, Or.inl ⟨heq, Or.inl howns⟩⟩
      | create io directory metadata =>
          by_cases hnew : path = partialPathOf directory io.token
          · exact ⟨directory, io.token, Or.inl ⟨hnew, Or.inr rfl⟩⟩
          · have hcancel : (Writer.create (s.view id) io directory metadata).1.files path =
                (Writer.cancel (s.view id)).files path := by
              rcases hcreate : Writer.create (s.view id) io directory metadata with
                ⟨created, outcome⟩
              cases outcome with
              | error message => exact (Writer.create_failed hcreate).2.1 path hnew
              | ok _ =>
                  obtain ⟨⟨content, -, hfiles⟩, -⟩ := Writer.create_sound hcreate
                  show created.files path = _
                  rw [hfiles, Store.set_other _ _ hnew]
            obtain ⟨home, token, heq, howns⟩ :=
              h.cancel_touches fun hsame ↦ hpath (hcancel.trans hsame)
            exact ⟨home, token, Or.inl ⟨heq, Or.inl howns⟩⟩
      | writeLine io errorString logicalChannel row bytes =>
          obtain ⟨hfiles, -⟩ :=
            Writer.write_line_other (s.view id) io errorString logicalChannel row bytes
          obtain ⟨hfile, heq⟩ := hfiles path hpath
          obtain ⟨directory, token, -, howns⟩ := h.owner (Or.inr hfile)
          exact ⟨directory, token, Or.inl ⟨heq.trans howns.partialPath, Or.inl howns⟩⟩
      | finalize io =>
          have hfile : (s.writers id).file = .opened := by
            by_contra hclosed
            refine hpath ?_
            show (Writer.finalize sha256 (s.view id) io).1.files path = _
            rw [Writer.finalize_closed hclosed, Spools.view]
          obtain ⟨content, hsession⟩ := h.session id hfile
          obtain ⟨directory, token, -, howns⟩ := h.owner (Or.inr hfile)
          have hchanged : (Writer.finalize sha256 (s.view id) io).1.files path ≠ s.files path :=
            hpath
          rcases hfinalize : Writer.finalize sha256 (s.view id) io with ⟨finished, outcome⟩
          rw [hfinalize] at hchanged
          by_cases hpart : path = (s.writers id).partialPath
          · exact ⟨directory, token, Or.inl ⟨hpart.trans howns.partialPath, Or.inl howns⟩⟩
          · cases outcome with
            | error message =>
                obtain ⟨header, file, -, rfl⟩ :=
                  Writer.finalize_failed hsession.toOpened hfinalize
                exact absurd (Store.set_other _ _ hpart) hchanged
            | ok result =>
                obtain ⟨-, -, hresult, hfiles⟩ :=
                  Writer.finalize_sound hsession.toOpened hfinalize
                have hfinal : path = (s.writers id).finalPath := by
                  by_contra hother
                  refine hchanged ?_
                  rw [hfiles]
                  exact (Store.set_other _ _ hother).trans (Store.remove_other _ hpart)
                refine ⟨directory, token, Or.inr ⟨hfinal.trans howns.finalPath, howns, io, result,
                  rfl, congrArg Prod.snd hfinalize, ?_⟩⟩
                rw [hresult]
                exact hfinal.symm

/-- The token of a writer is one of the events'. -/
theorem token_mem (h : Tracked files events s) {id : Nat} {directory : String} {token : UInt64}
    (howns : Owns (s.writers id) directory token) : token ∈ events.filterMap Event.token? := by
  have hname : (s.writers id).partialPath ≠ "" := by
    rw [howns.partialPath]
    exact partial_path_ne_empty directory token
  obtain ⟨home, other, hmem, hother⟩ := h.owner (Or.inl hname)
  obtain rfl := partial_path_inj (howns.partialPath.symm.trans hother.partialPath)
  exact hmem

/-- What an event does to the names of its writer: none are left, they stay, or it takes those of
its own token. -/
theorem names_after (h : Tracked files events s) (sha256 : Sha256) (event : Event) :
    ((event.apply sha256 s).writers event.id).partialPath = "" ∧
        ((event.apply sha256 s).writers event.id).file ≠ .opened ∨
      (((event.apply sha256 s).writers event.id).partialPath =
          (s.writers event.id).partialPath ∧
        ((event.apply sha256 s).writers event.id).finalPath = (s.writers event.id).finalPath ∧
        (((event.apply sha256 s).writers event.id).file = .opened →
          (s.writers event.id).file = .opened)) ∨
      ∃ directory token, event.token? = some token ∧
        Owns ((event.apply sha256 s).writers event.id) directory token := by
  cases event with
  | destroy id =>
      simp only [Event.apply, Event.id, Spools.put, Function.update_self]
      exact Or.inl ⟨trivial, by rintro ⟨⟩⟩
  | call id op =>
      simp only [Event.apply, Event.id, Spools.put, Function.update_self]
      cases op with
      | cancel => exact Or.inl ⟨rfl, by rintro ⟨⟩⟩
      | create io directory metadata =>
          simp only [Writer.Op.apply]
          rcases hcreate : Writer.create (s.view id) io directory metadata with ⟨created, outcome⟩
          cases outcome with
          | error message =>
              left
              rw [(Writer.create_failed hcreate).1]
              exact ⟨rfl, by rintro ⟨⟩⟩
          | ok _ =>
              obtain ⟨-, -, hpart, hfinal, -⟩ := Writer.create_sound hcreate
              exact Or.inr (Or.inr ⟨directory, io.token, rfl, hpart, hfinal⟩)
      | writeLine io errorString logicalChannel row bytes =>
          obtain ⟨-, hpart, hfinal, hfile⟩ :=
            Writer.write_line_other (s.view id) io errorString logicalChannel row bytes
          exact Or.inr (Or.inl ⟨hpart, hfinal, fun hopened ↦ hfile.symm.trans hopened⟩)
      | finalize io =>
          right
          left
          by_cases hfile : (s.writers id).file = .opened
          · obtain ⟨content, hsession⟩ := h.session id hfile
            simp only [Writer.Op.apply]
            rcases hfinalize : Writer.finalize sha256 (s.view id) io with ⟨finished, outcome⟩
            cases outcome with
            | error message =>
                obtain ⟨header, file, -, rfl⟩ :=
                  Writer.finalize_failed hsession.toOpened hfinalize
                exact ⟨rfl, rfl, fun _ ↦ hfile⟩
            | ok result =>
                rw [Writer.finalize_writer hsession.toOpened hfinalize]
                exact ⟨rfl, rfl, fun _ ↦ hfile⟩
          · have hclosed : (Writer.finalize sha256 (s.view id) io).1 = s.view id :=
              congrArg Prod.fst (Writer.finalize_closed hfile)
            simp only [Writer.Op.apply, hclosed]
            exact ⟨rfl, rfl, fun hopened ↦ hopened⟩

/-- The other writers are as before. -/
theorem writers_other {id : Nat} (hid : id ≠ event.id) :
    (event.apply sha256 s).writers id = s.writers id := by
  cases event with
  | destroy _ => exact Function.update_of_ne hid _ _
  | call _ _ => exact Function.update_of_ne hid _ _

/-- The token that an event draws is new. -/
theorem token_new (hdistinct : DistinctTokens files (events ++ [event])) {token : UInt64}
    (htoken : event.token? = some token) : token ∉ events.filterMap Event.token? := by
  have hnodup := hdistinct.nodup
  rw [List.filterMap_append, List.filterMap_cons_some htoken, List.nodup_append] at hnodup
  intro hmem
  exact hnodup.2.2 token hmem token List.mem_cons_self rfl

/-- The tokens of the events with one more event. -/
theorem mem_tokens_append {token : UInt64} :
    token ∈ (events ++ [event]).filterMap Event.token? ↔
      token ∈ events.filterMap Event.token? ∨ event.token? = some token := by
  simp only [List.filterMap_append, List.mem_append, List.mem_filterMap, List.mem_singleton,
    exists_eq_left]

/-- Every writer has no name or the names of one token after the event. -/
theorem named_after (h : Tracked files events s) (sha256 : Sha256) (event : Event) (id : Nat) :
    (((event.apply sha256 s).writers id).partialPath = "" ∧
        ((event.apply sha256 s).writers id).file ≠ .opened) ∨
      ∃ directory, ∃ token ∈ (events ++ [event]).filterMap Event.token?,
        Owns ((event.apply sha256 s).writers id) directory token := by
  by_cases hid : id = event.id
  · subst hid
    rcases h.names_after sha256 event with hnone | ⟨hpart, hfinal, hfile⟩ | hnew
    · exact Or.inl hnone
    · rcases h.named event.id with ⟨hempty, hclosed⟩ | ⟨directory, token, hmem, howns⟩
      · exact Or.inl ⟨hpart.trans hempty, fun hopened ↦ hclosed (hfile hopened)⟩
      · exact Or.inr ⟨directory, token, mem_tokens_append.mpr (Or.inl hmem),
          hpart.trans howns.partialPath, hfinal.trans howns.finalPath⟩
    · obtain ⟨directory, token, htoken, howns⟩ := hnew
      exact Or.inr ⟨directory, token, mem_tokens_append.mpr (Or.inr htoken), howns⟩
  · rw [writers_other hid]
    rcases h.named id with hnone | ⟨directory, token, hmem, howns⟩
    · exact Or.inl hnone
    · exact Or.inr ⟨directory, token, mem_tokens_append.mpr (Or.inl hmem), howns⟩

/-- The names a writer has after an event are those it had, or those of the event's token. -/
theorem owns_before (h : Tracked files events s) {id : Nat} {directory : String} {token : UInt64}
    (howns : Owns ((event.apply sha256 s).writers id) directory token) :
    Owns (s.writers id) directory token ∨ id = event.id ∧ event.token? = some token := by
  by_cases hid : id = event.id
  · subst hid
    rcases h.names_after sha256 event with ⟨hempty, -⟩ | ⟨hpart, hfinal, -⟩ | hnew
    · rw [howns.partialPath] at hempty
      exact absurd hempty (partial_path_ne_empty directory token)
    · exact Or.inl ⟨hpart.symm.trans howns.partialPath, hfinal.symm.trans howns.finalPath⟩
    · obtain ⟨home, other, htoken, hother⟩ := hnew
      obtain rfl := partial_path_inj (howns.partialPath.symm.trans hother.partialPath)
      exact Or.inr ⟨rfl, htoken⟩
  · rw [writers_other hid] at howns
    exact Or.inl howns

/-- Two writers never work under one token. -/
theorem distinct_after (h : Tracked files events s)
    (hdistinct : DistinctTokens files (events ++ [event])) {id other : Nat}
    {directory directory' : String} {token : UInt64}
    (hid : Owns ((event.apply sha256 s).writers id) directory token)
    (hother : Owns ((event.apply sha256 s).writers other) directory' token) : id = other := by
  rcases h.owns_before hid with hid | ⟨rfl, htoken⟩
  · rcases h.owns_before hother with hother | ⟨rfl, htoken⟩
    · exact h.distinct hid hother
    · exact absurd (h.token_mem hid) (token_new hdistinct htoken)
  · rcases h.owns_before hother with hother | ⟨rfl, -⟩
    · exact absurd (h.token_mem hother) (token_new hdistinct htoken)
    · rfl

/-- A file that appears is under the names of a token of the events. -/
theorem stored_after (h : Tracked files events s) (hpath : files path = none)
    (hstored : (event.apply sha256 s).files path ≠ none) :
    ∃ directory, ∃ token ∈ (events ++ [event]).filterMap Event.token?,
      path = partialPathOf directory token ∨ path = finalPathOf directory token := by
  by_cases hsame : (event.apply sha256 s).files path = s.files path
  · obtain ⟨directory, token, hmem, heq⟩ := h.stored path hpath (hsame ▸ hstored)
    exact ⟨directory, token, mem_tokens_append.mpr (Or.inl hmem), heq⟩
  · obtain ⟨directory, token, ⟨heq, howns | htoken⟩ | ⟨heq, howns, -⟩⟩ := h.touches hsame
    · exact ⟨directory, token, mem_tokens_append.mpr (Or.inl (h.token_mem howns)), Or.inl heq⟩
    · exact ⟨directory, token, mem_tokens_append.mpr (Or.inr htoken), Or.inl heq⟩
    · exact ⟨directory, token, mem_tokens_append.mpr (Or.inl (h.token_mem howns)), Or.inr heq⟩

/-- An event leaves the files of the other writers alone. -/
theorem session_other (h : Tracked files events s)
    (hdistinct : DistinctTokens files (events ++ [event])) {id : Nat} (hid : id ≠ event.id)
    {content : Bytes} {writes : List LineWrite} (hsession : Session (s.view id) content writes) :
    Session ((event.apply sha256 s).view id) content writes := by
  obtain ⟨directory, token, hmem, howns⟩ := h.owner (Or.inr hsession.file)
  have hother : ∀ home, ¬ Owns (s.writers event.id) home token := by
    intro home hevent
    exact hid (h.distinct howns hevent)
  have hpart : (event.apply sha256 s).files (partialPathOf directory token) =
      s.files (partialPathOf directory token) := by
    by_contra hchanged
    obtain ⟨home, token', ⟨heq, howner | htoken⟩ | ⟨heq, -⟩⟩ := h.touches hchanged
    · obtain rfl := partial_path_inj heq
      exact hother home howner
    · obtain rfl := partial_path_inj heq
      exact token_new hdistinct htoken hmem
    · exact (final_path_is_spool home token').ne_temporary directory token heq.symm
  have hfinal : (event.apply sha256 s).files (finalPathOf directory token) =
      s.files (finalPathOf directory token) := by
    by_contra hchanged
    obtain ⟨home, token', ⟨heq, -⟩ | ⟨heq, howner, -⟩⟩ := h.touches hchanged
    · exact (final_path_is_spool directory token).ne_temporary home token' heq
    · obtain rfl := final_path_inj heq
      exact hother home howner
  rw [← howns.partialPath] at hpart
  rw [← howns.finalPath] at hfinal
  have hframe := hsession.frame hpart hfinal
  rw [Spools.view, writers_other hid]
  exact hframe

/-- A file that an event leaves open is in the session of its line writes. -/
theorem session_own (h : Tracked files events s)
    (hdistinct : DistinctTokens files (events ++ [event]))
    (hfile : ((event.apply sha256 s).writers event.id).file = .opened) :
    ∃ content, Session ((event.apply sha256 s).view event.id) content
      (event.log event.id (writesOf events event.id)) := by
  cases event with
  | destroy id =>
      simp only [Event.apply, Event.id, Spools.put, Function.update_self] at hfile
      cases hfile
  | call id op =>
      have hview : (Event.apply sha256 s (.call id op)).view id = op.apply sha256 (s.view id) := by
        simp only [Event.apply, Spools.put, Spools.view, Function.update_self]
      have hopened : (op.apply sha256 (s.view id)).writer.file = .opened := hview ▸ hfile
      simp only [Event.id, Event.log, hview, ne_eq, not_true_eq_false, if_false]
      cases op with
      | cancel => cases hopened
      | create io directory metadata =>
          simp only [Writer.Op.apply] at hopened ⊢
          rcases hcreate : Writer.create (s.view id) io directory metadata with ⟨created, outcome⟩
          rw [hcreate] at hopened
          cases outcome with
          | error message =>
              rw [(Writer.create_failed hcreate).1] at hopened
              cases hopened
          | ok _ =>
              have htoken : io.token ∈
                  (events ++ [Event.call id (.create io directory metadata)]).filterMap Event.token? :=
                mem_tokens_append.mpr (Or.inr rfl)
              -- The names of the new token are not those of an earlier one.
              have hfree : (Writer.cancel (s.view id)).files (finalPathOf directory io.token) =
                  none := by
                by_contra hstored
                have hold : s.files (finalPathOf directory io.token) ≠ none := by
                  by_cases hsame : (Writer.cancel (s.view id)).files
                      (finalPathOf directory io.token) = s.files (finalPathOf directory io.token)
                  · exact hsame ▸ hstored
                  · obtain ⟨home, token, heq, -⟩ := h.cancel_touches hsame
                    exact absurd heq
                      ((final_path_is_spool directory io.token).ne_temporary home token)
                obtain ⟨home, token, hmem, heq | heq⟩ :=
                  h.stored _ (hdistinct.fresh io.token htoken directory).2 hold
                · exact (final_path_is_spool directory io.token).ne_temporary home token heq
                · obtain rfl := final_path_inj heq
                  exact token_new hdistinct rfl hmem
              exact create_session hfree hcreate
      | writeLine io errorString logicalChannel row bytes =>
          obtain ⟨-, -, -, hsame⟩ :=
            Writer.write_line_other (s.view id) io errorString logicalChannel row bytes
          obtain ⟨content, hsession⟩ := h.session id (hsame.symm.trans hopened)
          exact hsession.write_line io errorString logicalChannel row bytes
      | finalize io =>
          by_cases hbefore : (s.writers id).file = .opened
          · obtain ⟨content, hsession⟩ := h.session id hbefore
            simp only [Writer.Op.apply] at hopened ⊢
            rcases hfinalize : Writer.finalize sha256 (s.view id) io with ⟨finished, outcome⟩
            rw [hfinalize] at hopened
            cases outcome with
            | error message => exact (hsession.finalize_failed hopened hfinalize).2
            | ok result =>
                rw [Writer.finalize_writer hsession.toOpened hfinalize] at hopened
                cases hopened
          · rw [Writer.Op.apply, Writer.finalize_closed hbefore] at hopened
            exact absurd hopened hbefore

/-- An event keeps the writers tracked. -/
theorem apply (h : Tracked files events s)
    (hdistinct : DistinctTokens files (events ++ [event])) :
    Tracked files (events ++ [event]) (event.apply sha256 s) where
  named := h.named_after sha256 event
  distinct := h.distinct_after hdistinct
  stored _ hpath hstored := h.stored_after hpath hstored
  session id hfile := by
    rw [writesOf, List.foldl_append, List.foldl_cons, List.foldl_nil, ← writesOf]
    by_cases hid : id = event.id
    · subst hid
      exact h.session_own hdistinct hfile
    · rw [writers_other hid] at hfile
      obtain ⟨content, hsession⟩ := h.session id hfile
      rw [Event.log_other (Ne.symm hid)]
      exact ⟨content, h.session_other hdistinct hid hsession⟩

end Tracked

/-- The tokens of a part of a run are distinct. -/
theorem DistinctTokens.before {files : Store String} {events later : List Event}
    (h : DistinctTokens files (events ++ later)) : DistinctTokens files events where
  nodup := by
    have hnodup := h.nodup
    rw [List.filterMap_append] at hnodup
    exact (List.nodup_append.mp hnodup).1
  fresh token hmem := by
    refine h.fresh token ?_
    rw [List.filterMap_append]
    exact List.mem_append_left _ hmem

/-- In every run the writers are tracked. -/
theorem run_tracked (sha256 : Sha256) {files : Store String} {events : List Event}
    (h : DistinctTokens files events) : Tracked files events (runEvents sha256 files events) := by
  induction events using List.reverseRecOn with
  | nil =>
      refine ⟨fun _ ↦ Or.inl ⟨rfl, nofun⟩, ?_, fun _ hfile ↦ absurd hfile nofun, ?_⟩
      · intro id other directory directory' token hid _
        exact absurd hid.partialPath.symm (partial_path_ne_empty directory token)
      · intro path hpath hstored
        exact absurd hpath hstored
  | append_singleton events event ih =>
      rw [runEvents, Runs.run_append]
      exact (ih h.before).apply h

/-! ## The life of a spool -/

/-- What one event does to finished and temporary files, after the events before it. -/
structure Lifecycle (sha256 : Sha256) (events : List Event) (event : Event)
    (before after : Spools) : Prop where
  appears (path : String) (hspool : IsSpool path) (hfree : before.files path = none)
    (hstored : after.files path ≠ none) :
    ∃ id io result, event = .call id (.finalize io) ∧
      (Writer.finalize sha256 (before.view id) io).2 = .ok result ∧ result.path = path ∧
      ∀ logicalChannel row, InRange result logicalChannel row →
        WrittenIn result (writesOf events id) logicalChannel row
  kept (path : String) (content : Bytes) (hspool : IsSpool path)
    (hstored : before.files path = some content) : after.files path = some content
  unpublished (id : Nat) (io : FinalizeIo) (message : String)
    (hevent : event = .call id (.finalize io))
    (herror : (Writer.finalize sha256 (before.view id) io).2 = .error message)
    (path : String) (hspool : IsSpool path) : after.files path = before.files path
  canceled (id : Nat) (io : FinalizeIo) (poll : Nat) (hevent : event = .call id (.finalize io))
    (hpoll : poll * hashChunkBytes < (before.writers id).metadata.bodyBytes.toNat)
    (hcanceled : io.checksum.canceled poll = true) :
    ∃ message, (Writer.finalize sha256 (before.view id) io).2 = .error message
  canceledGone (id : Nat) (hevent : event = .call id .cancel) (directory : String) (token : UInt64)
    (howns : Owns (before.writers id) directory token) :
    after.files (partialPathOf directory token) = none
  createdGone (id : Nat) (io : CreateIo) (directory : String) (metadata : DirectPrintSpool)
    (message : String) (hevent : event = .call id (.create io directory metadata))
    (herror : (Writer.create (before.view id) io directory metadata).2 = .error message) :
    after.files (partialPathOf directory io.token) = none ∧
      ∀ home token, Owns (before.writers id) home token →
        after.files (partialPathOf home token) = none
  destroyedGone (id : Nat) (hevent : event = .destroy id)
    (hfinalized : (before.writers id).finalized = false) (directory : String) (token : UInt64)
    (howns : Owns (before.writers id) directory token) :
    after.files (partialPathOf directory token) = none
  resumed (id : Nat) (io : FinalizeIo) (message : String)
    (hevent : event = .call id (.finalize io))
    (herror : (Writer.finalize sha256 (before.view id) io).2 = .error message)
    (hopened : (after.writers id).file = .opened) (calls : List WriteCall)
    (hcalls : ∀ logicalChannel row, InRange (before.writers id).metadata logicalChannel row →
      WrittenIn (before.writers id).metadata (writesOf events id) logicalChannel row ∨
        ∃ call ∈ calls, call.Writes (before.writers id).metadata logicalChannel row)
    (finalIo : FinalizeIo) (hfinal : finalIo.Ok) :
    ∃ finished result,
      Writer.finalize sha256 (writeLines (after.view id) calls) finalIo = (finished, .ok result) ∧
      verify sha256 {} finished.files result = .ok () ∧
      ∃ reader, Reader.open sha256 {} finished.files result.path true = .ok reader ∧
        reader.metadata = result ∧
        ∀ logicalChannel row, InRange (before.writers id).metadata logicalChannel row → ∀ bytes,
          lastStored (before.writers id).metadata
            (writesOf events id ++ calls.map (LineWrite.mk .done)) logicalChannel row = some bytes →
          reader.readLine finished.files logicalChannel row = .ok bytes

namespace Tracked

variable {sha256 : Sha256} {files : Store String} {events : List Event} {s : Spools}
  {event : Event} {path : String}

/-- A finished file changes only when it is published. -/
theorem spool_changed (h : Tracked files events s) (hspool : IsSpool path)
    (hchanged : (event.apply sha256 s).files path ≠ s.files path) :
    ∃ id io result, event = .call id (.finalize io) ∧
      (Writer.finalize sha256 (s.view id) io).2 = .ok result ∧ result.path = path ∧
      s.files path = none ∧
      ∀ logicalChannel row, InRange result logicalChannel row →
        WrittenIn result (writesOf events id) logicalChannel row := by
  obtain ⟨directory, token, ⟨heq, -⟩ | ⟨heq, howns, io, result, hevent, hfinalize, hpath⟩⟩ :=
    h.touches hchanged
  · exact absurd heq (hspool.ne_temporary directory token)
  · have hfile : (s.writers event.id).file = .opened := by
      by_contra hclosed
      rw [Writer.finalize_closed hclosed] at hfinalize
      exact absurd hfinalize nofun
    obtain ⟨content, hsession⟩ := h.session event.id hfile
    obtain ⟨hcount, hfree, hresult, -⟩ :=
      Writer.finalize_sound hsession.toOpened (Prod.ext rfl hfinalize)
    refine ⟨event.id, io, result, hevent, hfinalize, hpath, ?_, ?_⟩
    · rw [heq, ← howns.finalPath]
      exact hfree
    · subst hresult
      intro logicalChannel row hrange
      exact hsession.full_iff.mp hcount logicalChannel row
        ⟨hrange.1, hrange.2, hrange.3, hrange.4⟩

/-- A failed `create` leaves neither the temporary file of its token nor the one before. -/
theorem created_gone (h : Tracked files events s) {id : Nat} {io : CreateIo}
    {directory message : String} {metadata : DirectPrintSpool}
    (hdistinct :
      DistinctTokens files (events ++ [Event.call id (.create io directory metadata)]))
    (herror : (Writer.create (s.view id) io directory metadata).2 = .error message) :
    (Writer.create (s.view id) io directory metadata).1.files
        (partialPathOf directory io.token) = none ∧
      ∀ home token, Owns (s.writers id) home token →
        (Writer.create (s.view id) io directory metadata).1.files (partialPathOf home token) =
          none := by
  obtain ⟨-, hother, hnew⟩ := Writer.create_failed (Prod.ext rfl herror)
  have htoken : io.token ∉ events.filterMap Event.token? := token_new hdistinct rfl
  refine ⟨?_, ?_⟩
  · rcases hnew with hnone | hsame
    · exact hnone
    · -- The token is new, so there was no such file.
      by_contra hstored
      rw [hsame] at hstored
      have hfresh := (hdistinct.fresh io.token (mem_tokens_append.mpr (Or.inr rfl)) directory).1
      by_cases hkept : (Writer.cancel (s.view id)).files (partialPathOf directory io.token) =
          s.files (partialPathOf directory io.token)
      · obtain ⟨home, token, hmem, heq | heq⟩ := h.stored _ hfresh (hkept ▸ hstored)
        · obtain rfl := partial_path_inj heq
          exact htoken hmem
        · exact (final_path_is_spool home token).ne_temporary directory io.token heq.symm
      · obtain ⟨home, token, heq, howns⟩ := h.cancel_touches hkept
        obtain rfl := partial_path_inj heq
        exact htoken (h.token_mem howns)
  · intro home token howns
    have hne : partialPathOf home token ≠ partialPathOf directory io.token := by
      intro heq
      obtain rfl := partial_path_inj heq
      exact htoken (h.token_mem howns)
    have hname := partial_path_ne_empty home token
    rw [hother _ hne]
    rw [← howns.partialPath] at hname ⊢
    exact Writer.cancel_gone (s.view id) hname

/-- After a `finalize` that failed and left the file open, the missing lines can be written and the
file finalized. -/
theorem resumed (h : Tracked files events s) {id : Nat} {io : FinalizeIo} {message : String}
    (herror : (Writer.finalize sha256 (s.view id) io).2 = .error message)
    (hopened : (Writer.finalize sha256 (s.view id) io).1.writer.file = .opened)
    {calls : List WriteCall}
    (hcalls : ∀ logicalChannel row, InRange (s.writers id).metadata logicalChannel row →
      WrittenIn (s.writers id).metadata (writesOf events id) logicalChannel row ∨
        ∃ call ∈ calls, call.Writes (s.writers id).metadata logicalChannel row)
    {finalIo : FinalizeIo} (hfinal : finalIo.Ok) :
    ∃ content finished result,
      Session (writeLines (Writer.finalize sha256 (s.view id) io).1 calls) content
        (writesOf events id ++ calls.map (LineWrite.mk .done)) ∧
      (writeLines (Writer.finalize sha256 (s.view id) io).1 calls).writer.metadata =
        (s.writers id).metadata ∧
      Writer.finalize sha256 (writeLines (Writer.finalize sha256 (s.view id) io).1 calls) finalIo =
        (finished, .ok result) := by
  have hfile : (s.writers id).file = .opened := by
    by_contra hclosed
    rw [Writer.finalize_closed hclosed] at hopened
    exact hclosed hopened
  obtain ⟨content, hsession⟩ := h.session id hfile
  obtain ⟨hwriter, middle, hmiddle⟩ := hsession.finalize_failed hopened (Prod.ext rfl herror)
  obtain ⟨hmetadata, last, hlast⟩ := hmiddle.write_lines calls
  have hsame : (writeLines (Writer.finalize sha256 (s.view id) io).1 calls).writer.metadata =
      (s.writers id).metadata := by
    rw [hmetadata, hwriter]
    rfl
  have hfull : ∀ logicalChannel row,
      InRange (writeLines (Writer.finalize sha256 (s.view id) io).1 calls).writer.metadata
        logicalChannel row →
      WrittenIn (writeLines (Writer.finalize sha256 (s.view id) io).1 calls).writer.metadata
        (writesOf events id ++ calls.map (LineWrite.mk .done)) logicalChannel row := by
    rw [hsame]
    intro logicalChannel row hrange
    rcases hcalls logicalChannel row hrange with ⟨write, hmem, hwrite⟩ | ⟨call, hmem, hwrites⟩
    · exact ⟨write, List.mem_append_left _ hmem, hwrite⟩
    · exact ⟨⟨.done, call⟩, List.mem_append_right _ (List.mem_map_of_mem hmem), rfl, hwrites⟩
  obtain ⟨finished, hfinished⟩ :=
    Writer.finalize_complete hlast.toOpened hfinal (hlast.full_iff.mpr hfull) hlast.free
  exact ⟨last, finished, _, hlast, hsame, hfinished⟩

end Tracked

/-- The state after one more event. -/
theorem run_events_append (sha256 : Sha256) (files : Store String) (events : List Event)
    (event : Event) :
    runEvents sha256 files (events ++ [event]) =
      event.apply sha256 (runEvents sha256 files events) := Runs.run_append events [event]

/-- In every run a finished file appears only when a writer that has written every line is
finalized, and is never removed; what fails or is canceled publishes nothing and leaves no temporary
file behind; and a file that a failed `finalize` left open can still be completed. -/
theorem writer_lifecycle (sha256 : Sha256) {files : Store String} {events : List Event}
    {event : Event} (hdistinct : DistinctTokens files (events ++ [event])) :
    Lifecycle sha256 events event (runEvents sha256 files events)
      (runEvents sha256 files (events ++ [event])) := by
  have htracked := run_tracked sha256 hdistinct.before
  rw [run_events_append]
  generalize runEvents sha256 files events = s at htracked
  refine ⟨?_, ?_, ?_, ?_, ?_, ?_, ?_, ?_⟩
  -- A spool that appears was published by this event.
  · intro path hspool hfree hstored
    obtain ⟨id, io, result, hevent, hfinalize, hpath, -, hlines⟩ :=
      htracked.spool_changed hspool (hfree ▸ hstored)
    exact ⟨id, io, result, hevent, hfinalize, hpath, hlines⟩
  -- A spool is published only where nothing is, so none is replaced.
  · intro path content hspool hstored
    by_contra hchanged
    have hother : (event.apply sha256 s).files path ≠ s.files path := by
      rw [hstored]
      exact hchanged
    obtain ⟨-, -, -, -, -, -, hfree, -⟩ := htracked.spool_changed hspool hother
    rw [hstored] at hfree
    exact absurd hfree nofun
  -- An attempt that fails publishes nothing.
  · intro id io message hevent herror path hspool
    by_contra hchanged
    obtain ⟨other, io', result, hevent', hfinalize, -⟩ := htracked.spool_changed hspool hchanged
    rw [hevent] at hevent'
    cases hevent'
    rw [herror] at hfinalize
    exact absurd hfinalize nofun
  -- A canceled attempt fails.
  · intro id io poll _ hpoll hcanceled
    cases houtcome : (Writer.finalize sha256 (s.view id) io).2 with
    | error message => exact ⟨message, rfl⟩
    | ok result =>
        exact absurd houtcome (Writer.finalize_canceled sha256 (s.view id) hpoll hcanceled result)
  -- Canceling removes the temporary file.
  · intro id hevent directory token howns
    subst hevent
    have hname := partial_path_ne_empty directory token
    rw [← howns.partialPath] at hname ⊢
    exact Writer.cancel_gone (s.view id) hname
  -- Creating a spool that fails leaves no temporary file.
  · intro id io directory metadata message hevent herror
    subst hevent
    exact htracked.created_gone hdistinct herror
  -- Destroying a writer that was not finalized is canceling it.
  · intro id hevent hfinalized directory token howns
    subst hevent
    have hname := partial_path_ne_empty directory token
    rw [← howns.partialPath] at hname ⊢
    have hdestroy : Writer.destroy (s.view id) = Writer.cancel (s.view id) :=
      if_neg (by simpa [Spools.view] using hfinalized)
    show (Writer.destroy (s.view id)).files _ = none
    rw [hdestroy]
    exact Writer.cancel_gone (s.view id) hname
  -- After a failure that leaves the file open the writer goes on.
  · intro id io message hevent herror hopened calls hcalls finalIo hfinal
    subst hevent
    have hview : (Event.apply sha256 s (.call id (.finalize io))).view id =
        (Writer.finalize sha256 (s.view id) io).1 := by
      simp only [Event.apply, Spools.put, Spools.view, Function.update_self, Writer.Op.apply]
    have hleft : (Writer.finalize sha256 (s.view id) io).1.writer.file = .opened := hview ▸ hopened
    obtain ⟨content, finished, result, hsession, hmetadata, hfinished⟩ :=
      htracked.resumed herror hleft hcalls hfinal
    rw [hview]
    obtain ⟨hverify, reader, hreader, hresult, hlines⟩ := hsession.reads_back hfinished
    rw [hmetadata] at hlines
    exact ⟨finished, result, hfinished, hverify, reader, hreader, hresult, hlines⟩

/-- A spool is created. -/
def createOneLine : Event := .call 0 (.create { token := 7 } "/tmp" oneLineMetadata)

/-- Its line is missing when it is finalized, is then written, and it is finalized again. -/
theorem writer_lifecycle_one_line :
    ∃ finished result,
      Writer.finalize zeroDigest
        (writeLines
          ((runEvents zeroDigest (fun _ ↦ none) [createOneLine, .call 0 (.finalize {})]).view 0)
          oneLineCalls) {} = (finished, .ok result) := by
  have hdistinct : DistinctTokens (fun _ ↦ none) ([createOneLine] ++ [.call 0 (.finalize {})]) :=
    ⟨List.pairwise_singleton _ _, fun _ _ _ ↦ ⟨rfl, rfl⟩⟩
  obtain ⟨created, hcreate⟩ := one_line_created
  have hview : (runEvents zeroDigest (fun _ ↦ none) [createOneLine]).view 0 = created :=
    congrArg Prod.fst hcreate
  obtain ⟨⟨content, hopen, -⟩, hmetadata, -, -, hbits⟩ := Writer.create_sound hcreate
  have hmissing : created.writer.linesWritten.count true ≠ created.writer.linesWritten.length := by
    rw [hbits]
    decide
  have hfails : Writer.finalize zeroDigest created {} = (created, .error
      "Raster spool is incomplete; one or more plane-lines were not written.") := by
    rw [Writer.finalize, if_neg (not_not.mpr hopen.file), if_pos hmissing]
  have hwriter : ((runEvents zeroDigest (fun _ ↦ none) [createOneLine]).writers 0).metadata =
      Writer.createMetadata oneLineMetadata :=
    (congrArg (fun s : State ↦ s.writer.metadata) hview).trans hmetadata
  obtain ⟨finished, result, hfinished, -⟩ :=
    (writer_lifecycle zeroDigest hdistinct).resumed 0 {} _ rfl
      (by rw [hview, hfails])
      (by
        rw [run_events_append]
        show (Writer.finalize zeroDigest
          ((runEvents zeroDigest (fun _ ↦ none) [createOneLine]).view 0) {}).1.writer.file = .opened
        rw [hview, hfails]
        exact hopen.file)
      oneLineCalls
      (by
        rw [hwriter]
        intro logicalChannel row hrange
        exact Or.inr (one_line_full logicalChannel row
          ⟨hrange.1, hrange.2, hrange.3, hrange.4⟩))
      {} ⟨rfl, ⟨rfl, fun _ ↦ rfl, fun _ ↦ rfl⟩, rfl, rfl, rfl⟩
  exact ⟨finished, result, hfinished⟩

end PrintFlow.RasterSpool
