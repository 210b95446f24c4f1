import PrintFlow.Core.Qt
import PrintFlow.Library.Decimal

/-!
# Stale channel locks

`PrinterSocket` keeps one named semaphore for each raw channel of a printer. Its name joins three
decimal numbers without a separator: the PC IPv4 word, the number of the printer MAC and the
channel. `clearStaleLocalLocks` removes the semaphores at zero whose names begin with the first two.
`touches_only_own_iff` says when these are locks of the selected pair, and `may_match_iff` between
which pairs they are mistaken.
-/

namespace PrintFlow.NocaiArmStaleSessionRecovery

open Decimal

/-! ## The selected record -/

def kMaxPrinters : Nat := 100
def kAddressListHeaderSize : Nat := 8
def kAddressRecordSize : Nat := 312
def kPcIpOffset : Nat := 276
def kPrinterMacOffset : Nat := 280

/-- The memory from a pointer on. -/
abbrev Memory := Nat → UInt8

/-- A run of bytes of the memory. -/
def bytesAt (memory : Memory) (offset count : Nat) : Bytes :=
  (List.range count).map fun index ↦ memory (offset + index)

/-- A `uint32_t` that is copied from bytes, least significant byte first. -/
def wordOf (bytes : Bytes) : UInt32 :=
  bytes.foldr (fun byte value ↦ (value <<< 8) ||| byte.toUInt32) 0

/-- A PC IPv4 address as its word, and the six bytes of a printer MAC. -/
structure PrinterPair where
  pcIp : UInt32
  printerMac : Bytes
  mac_size : printerMac.length = 6
deriving DecidableEq

/-- `selectedRecord`: the memory from the record on, or the text of the error. -/
def selectedRecord (printerAddressList : Option Memory) (printerIndex : Int) :
    Except String Memory :=
  match printerAddressList with
  | none => .error "printer address state is unavailable"
  | some list =>
    if printerIndex < 0 then .error "printer address state is unavailable"
    else
      let count := (wordOf (bytesAt list 0 4)).toNat
      if count = 0 ∨ kMaxPrinters < count ∨ (count : Int) ≤ printerIndex then
        .error "selected printer is outside the validated address list"
      else .ok fun offset ↦
        list (kAddressListHeaderSize + printerIndex.toNat * kAddressRecordSize + offset)

/-- The pair of a record. -/
def recordPair (record : Memory) : PrinterPair where
  pcIp := wordOf (bytesAt record kPcIpOffset 4)
  printerMac := bytesAt record kPrinterMacOffset 6
  mac_size := by rw [bytesAt, List.length_map, List.length_range]

/-- `validMac`: some byte is not zero and the address is not a group address. -/
def PrinterPair.validMac (pair : PrinterPair) : Bool :=
  pair.printerMac.any (· != 0) && pair.printerMac.getD 0 0 &&& 0x01 == 0

/-- The number of a MAC, its first byte the least significant. -/
def PrinterPair.macValue (pair : PrinterPair) : UInt64 :=
  pair.printerMac.foldr (fun byte value ↦ (value <<< 8) ||| byte.toUInt64) 0

/-! ## Names -/

/-- The digits of a pair in the names of its semaphores. -/
def PrinterPair.digits (pair : PrinterPair) : List Char :=
  decimal pair.pcIp.toNat ++ decimal pair.macValue.toNat

/-- `semaphorePrefix`. -/
def semaphorePrefix (pair : PrinterPair) : List Char := ['S', 'Y'] ++ pair.digits

/-- The name of a channel's semaphore by the scheme of the vendor library. -/
def semaphoreName (pair : PrinterPair) (channel : Nat) : List Char :=
  semaphorePrefix pair ++ decimal channel

/-- What is behind a beginning of a text, if the text has it. -/
def afterBeginning (beginning text : List Char) : Option (List Char) :=
  if beginning.isPrefixOf text then some (text.drop beginning.length) else none

/-- The beginning of the files of named semaphores. -/
def fileBeginning : List Char := ['s', 'e', 'm', '.']

/-! ## The cleanup -/

/-- A named semaphore: whether `sem_open` opens it, the value that `sem_getvalue` reads, if it
does, and whether `sem_unlink` removes it. -/
structure Semaphore where
  opens : Bool
  value : Option Int
  unlinks : Bool

/-- A file of the directory, with the semaphore of its name. -/
structure DirectoryEntry where
  filename : List Char
  semaphore : Semaphore

/-- `LocalLockResult`. -/
structure LocalLockResult where
  attempted : Bool := false
  completed : Bool := false
  inspected : Nat := 0
  cleared : Nat := 0
  detail : String := ""

/-- The counters of the loop, and the files that it removed. -/
structure Cleanup where
  inspected : Nat := 0
  cleared : Nat := 0
  removed : List DirectoryEntry := []

/-- The name is that of a file of a semaphore that begins with the prefix and goes on with digits
only. -/
def namesChannel (pair : PrinterPair) (filename : List Char) : Bool :=
  match (afterBeginning fileBeginning filename).bind (afterBeginning (semaphorePrefix pair)) with
  | none => false
  | some channel => !channel.isEmpty && channel.all Char.isDigit

/-- A semaphore that opens with the value zero. -/
def Semaphore.locked (semaphore : Semaphore) : Bool :=
  semaphore.opens && semaphore.value == some 0

/-- One round of the loop. -/
def inspect (pair : PrinterPair) (cleanup : Cleanup) (entry : DirectoryEntry) : Cleanup :=
  if !namesChannel pair entry.filename then cleanup
  else if entry.semaphore.locked && entry.semaphore.unlinks then
    { inspected := cleanup.inspected + 1
      cleared := cleanup.cleared + 1
      removed := cleanup.removed ++ [entry] }
  else { cleanup with inspected := cleanup.inspected + 1 }

/-- The detail of a cleanup that could list the directory. -/
def cleanupDetail (cleanup : Cleanup) : String :=
  if 0 < cleanup.cleared then
    "cleared " ++ toString cleanup.cleared ++ " crash-stale PrinterSocket lock(s)"
  else if 0 < cleanup.inspected then "all matching PrinterSocket locks are available"
  else "no matching PrinterSocket locks exist"

/-- `clearStaleLocalLocks`, with the files that it removed. The directory is the listing of
`/dev/shm`, or the error of listing it. -/
def clearStaleLocalLocks (printerAddressList : Option Memory) (printerIndex : Int)
    (anotherNocaiProcessIsRunning : Bool) (directory : Except String (List DirectoryEntry)) :
    LocalLockResult × List DirectoryEntry :=
  match selectedRecord printerAddressList printerIndex with
  | .error selectionError => ({ detail := selectionError }, [])
  | .ok record =>
    if anotherNocaiProcessIsRunning then
      ({ attempted := true
         detail := "another process has a Nocai SDK library loaded; " ++
           "local lock cleanup was refused" }, [])
    else if !(recordPair record).validMac then
      ({ attempted := true, detail := "printer address list contains an invalid MAC address" }, [])
    else
      match directory with
      | .error message =>
        ({ attempted := true
           detail := "could not inspect PrinterSocket semaphore state: " ++ message }, [])
      | .ok entries =>
        let cleanup := entries.foldl (inspect (recordPair record)) {}
        ({ attempted := true
           completed := true
           inspected := cleanup.inspected
           cleared := cleanup.cleared
           detail := cleanupDetail cleanup }, cleanup.removed)

/-! ## Locks and their owners -/

/-- A semaphore that the vendor library made for a channel of a pair. -/
structure VendorLock where
  owner : PrinterPair
  channel : Nat
  semaphore : Semaphore

/-- The file of a lock. -/
def VendorLock.entry (lock : VendorLock) : DirectoryEntry where
  filename := fileBeginning ++ semaphoreName lock.owner lock.channel
  semaphore := lock.semaphore

/-- A lock is at zero and can be removed. -/
def VendorLock.Stale (lock : VendorLock) : Prop :=
  lock.semaphore.locked = true ∧ lock.semaphore.unlinks = true

/-- A lock is not one of a pair: another pair with a valid MAC made it, or the scheme does not give
its name to the pair. -/
def Foreign (pair : PrinterPair) (lock : VendorLock) : Prop :=
  (lock.owner ≠ pair ∧ lock.owner.validMac = true) ∨
    ∀ channel, semaphoreName lock.owner lock.channel ≠ semaphoreName pair channel

/-- The cleanup gets as far as the directory, with this pair. -/
structure Cleans (printerAddressList : Option Memory) (printerIndex : Int)
    (anotherNocaiProcessIsRunning : Bool) (pair : PrinterPair) : Prop where
  selected : ∃ record, selectedRecord printerAddressList printerIndex = .ok record ∧
    recordPair record = pair
  alone : anotherNocaiProcessIsRunning = false
  valid : pair.validMac = true

/-- The cleanup removes only locks of the selected pair. -/
def TouchesOnlyOwn (printerAddressList : Option Memory) (printerIndex : Int)
    (anotherNocaiProcessIsRunning : Bool) (locks : List VendorLock) : Prop :=
  ∀ lock ∈ locks, lock.entry ∈ (clearStaleLocalLocks printerAddressList printerIndex
      anotherNocaiProcessIsRunning (.ok (locks.map VendorLock.entry))).2 →
    ∃ record, selectedRecord printerAddressList printerIndex = .ok record ∧
      ¬ Foreign (recordPair record) lock

section Names

variable {pair : PrinterPair}

/-- The digits of a pair are digits. -/
theorem PrinterPair.digits_digits (pair : PrinterPair) : Digits pair.digits :=
  (digits_decimal _).append (digits_decimal _)

/-- What is behind a beginning. -/
theorem after_beginning_append (beginning rest : List Char) :
    afterBeginning beginning (beginning ++ rest) = some rest := by
  rw [afterBeginning, if_pos, List.drop_left]
  exact List.isPrefixOf_iff_prefix.mpr (List.prefix_append _ _)

/-- A text has a beginning when it is the beginning with something behind it. -/
theorem after_beginning_eq_some_iff {beginning text rest : List Char} :
    afterBeginning beginning text = some rest ↔ text = beginning ++ rest := by
  constructor
  · intro h
    rw [afterBeginning] at h
    split at h
    case isTrue hbeginning =>
      obtain ⟨tail, rfl⟩ := List.isPrefixOf_iff_prefix.mp hbeginning
      rw [List.drop_left] at h
      rw [Option.some.inj h]
    case isFalse => exact absurd h (by simp)
  · rintro rfl
    exact after_beginning_append beginning rest

/-- The file of a lock is taken for one of a pair exactly when the digits of the pair are the proper
beginning of the digits of the lock. -/
theorem names_channel_iff (pair : PrinterPair) (lock : VendorLock) :
    namesChannel pair lock.entry.filename = true ↔
      ProperPrefix pair.digits (lock.owner.digits ++ decimal lock.channel) := by
  have hdigits : Digits (lock.owner.digits ++ decimal lock.channel) :=
    lock.owner.digits_digits.append (digits_decimal _)
  rw [namesChannel, VendorLock.entry, after_beginning_append, Option.bind_some]
  constructor
  · intro hnames
    cases hafter : afterBeginning (semaphorePrefix pair)
        (semaphoreName lock.owner lock.channel) with
    | none =>
        rw [hafter] at hnames
        exact absurd hnames (by simp)
    | some rest =>
        rw [hafter] at hnames
        have hname := after_beginning_eq_some_iff.mp hafter
        refine ⟨rest, by rintro rfl; exact absurd hnames (by simp), ?_⟩
        simpa [semaphoreName, semaphorePrefix, List.append_assoc] using hname
  · rintro ⟨rest, hrest, heq⟩
    have hafter : afterBeginning (semaphorePrefix pair)
        (semaphoreName lock.owner lock.channel) = some rest := by
      rw [after_beginning_eq_some_iff, semaphoreName, semaphorePrefix, List.append_assoc, heq,
        semaphorePrefix, List.append_assoc]
    rw [heq] at hdigits
    rw [hafter]
    simp only [Bool.and_eq_true, Bool.not_eq_true', List.isEmpty_eq_false_iff, List.all_eq_true]
    exact ⟨hrest, hdigits.right⟩

/-- Between two pairs some lock of the second can be taken for one of the first exactly when the
digits of the first are a beginning of those of the second, or go on behind them without a zero
first. -/
theorem may_match_iff (pair owner : PrinterPair) :
    (∃ channel, ProperPrefix pair.digits (owner.digits ++ decimal channel)) ↔
      pair.digits <+: owner.digits ∨
      ∃ rest, pair.digits = owner.digits ++ rest ∧ rest ≠ [] ∧ rest.head? ≠ some '0' :=
  exists_append_decimal_iff pair.digits_digits

end Names

/-! ## What the cleanup removes -/

section Removed

variable {pair : PrinterPair}

/-- One round removes its own file, if the file names a channel and its semaphore is locked. -/
theorem mem_inspect_iff (cleanup : Cleanup) (entry other : DirectoryEntry) :
    other ∈ (inspect pair cleanup entry).removed ↔ other ∈ cleanup.removed ∨
      (other = entry ∧ namesChannel pair entry.filename = true ∧
        entry.semaphore.locked = true ∧ entry.semaphore.unlinks = true) := by
  rw [inspect]
  cases hnames : namesChannel pair entry.filename with
  | false => simp
  | true =>
      cases hlocked : entry.semaphore.locked with
      | false => simp
      | true =>
          cases hunlinks : entry.semaphore.unlinks with
          | false => simp
          | true => simp

/-- The loop removes the files that name a channel and have a locked semaphore. -/
theorem mem_inspected_iff (entries : List DirectoryEntry) (cleanup : Cleanup)
    (entry : DirectoryEntry) :
    entry ∈ (entries.foldl (inspect pair) cleanup).removed ↔ entry ∈ cleanup.removed ∨
      (entry ∈ entries ∧ namesChannel pair entry.filename = true ∧
        entry.semaphore.locked = true ∧ entry.semaphore.unlinks = true) := by
  induction entries generalizing cleanup with
  | nil => simp
  | cons first entries ih =>
      rw [List.foldl_cons, ih, mem_inspect_iff, List.mem_cons]
      constructor
      · rintro ((hremoved | ⟨rfl, hlock⟩) | ⟨hmem, hlock⟩)
        · exact .inl hremoved
        · exact .inr ⟨.inl rfl, hlock⟩
        · exact .inr ⟨.inr hmem, hlock⟩
      · rintro (hremoved | ⟨rfl | hmem, hlock⟩)
        · exact .inl (.inl hremoved)
        · exact .inl (.inr ⟨rfl, hlock⟩)
        · exact .inr ⟨hmem, hlock⟩

/-- The cleanup removes from the directory, once it gets that far, the locked semaphores whose files
name a channel. -/
theorem removed_iff {printerAddressList : Option Memory} {printerIndex : Int} {running : Bool}
    (entries : List DirectoryEntry) (entry : DirectoryEntry) :
    entry ∈ (clearStaleLocalLocks printerAddressList printerIndex running (.ok entries)).2 ↔
      ∃ pair, Cleans printerAddressList printerIndex running pair ∧ entry ∈ entries ∧
        namesChannel pair entry.filename = true ∧
        entry.semaphore.locked = true ∧ entry.semaphore.unlinks = true := by
  rw [clearStaleLocalLocks]
  cases hselected : selectedRecord printerAddressList printerIndex with
  | error message =>
      constructor
      · intro hmem
        exact absurd hmem (by simp)
      · rintro ⟨pair, hcleans, -⟩
        obtain ⟨record, hrecord, -⟩ := hcleans.selected
        rw [hselected] at hrecord
        exact absurd hrecord (by simp)
  | ok record =>
      -- the pair of the cleanup is that of the record
      have hpair : ∀ pair, Cleans printerAddressList printerIndex running pair →
          recordPair record = pair := by
        intro pair hcleans
        obtain ⟨other, hother, hrecord⟩ := hcleans.selected
        rw [hselected] at hother
        rw [Except.ok.inj hother]
        exact hrecord
      cases running with
      | true =>
          constructor
          · intro hmem
            exact absurd hmem (by simp)
          · rintro ⟨pair, hcleans, -⟩
            exact absurd hcleans.alone (by simp)
      | false =>
          cases hvalid : (recordPair record).validMac with
          | false =>
              constructor
              · intro hmem
                exact absurd hmem (by simp [hvalid])
              · rintro ⟨pair, hcleans, -⟩
                have hpair_valid := hcleans.valid
                rw [← hpair pair hcleans, hvalid] at hpair_valid
                exact absurd hpair_valid (by simp)
          | true =>
              show entry ∈ (if (!(recordPair record).validMac) = true then _ else _ :
                LocalLockResult × List DirectoryEntry).2 ↔ _
              rw [hvalid]
              show entry ∈ (entries.foldl (inspect (recordPair record)) {}).removed ↔ _
              rw [mem_inspected_iff]
              constructor
              · rintro (hmem | hmem)
                · exact absurd hmem (by simp)
                · exact ⟨recordPair record, ⟨⟨record, hselected, rfl⟩, rfl, hvalid⟩, hmem⟩
              · rintro ⟨pair, hcleans, hmem⟩
                rw [hpair pair hcleans]
                exact .inr hmem

end Removed

/-! ## The locks of other pairs -/

/-- The cleanup removes only locks of the selected pair exactly when no lock of another one is stale
and goes on, in its digits, behind the digits of the selected pair. -/
theorem touches_only_own_iff (printerAddressList : Option Memory) (printerIndex : Int)
    (running : Bool) (locks : List VendorLock) :
    TouchesOnlyOwn printerAddressList printerIndex running locks ↔
      ∀ pair, Cleans printerAddressList printerIndex running pair → ∀ lock ∈ locks, lock.Stale →
        Foreign pair lock →
          ¬ ProperPrefix pair.digits (lock.owner.digits ++ decimal lock.channel) := by
  -- A lock is removed for its name alone, so the name of a foreign lock must not start with the
  -- digits of the pair.
  constructor
  · intro hown pair hcleans lock hlock hstale hforeign hdigits
    have hremoved : lock.entry ∈ (clearStaleLocalLocks printerAddressList printerIndex running
        (.ok (locks.map VendorLock.entry))).2 :=
      (removed_iff _ _).mpr ⟨pair, hcleans, List.mem_map_of_mem hlock,
        (names_channel_iff pair lock).mpr hdigits, hstale⟩
    obtain ⟨record, hrecord, hnot⟩ := hown lock hlock hremoved
    obtain ⟨other, hother, hpair⟩ := hcleans.selected
    rw [hrecord] at hother
    rw [Except.ok.inj hother, hpair] at hnot
    exact hnot hforeign
  · intro hnone lock hlock hremoved
    obtain ⟨pair, hcleans, -, hnames, hstale⟩ := (removed_iff _ _).mp hremoved
    obtain ⟨record, hrecord, rfl⟩ := hcleans.selected
    refine ⟨record, hrecord, fun hforeign ↦ ?_⟩
    exact hnone _ hcleans lock hlock hstale hforeign ((names_channel_iff _ lock).mp hnames)

/-- The address list of one printer: 192.168.1.10 and 02:11:22:33:44:05. -/
def onePrinterList : Memory := fun offset ↦
  ([1, 0, 0, 0, 0, 0, 0, 0] ++ List.replicate kPcIpOffset 0 ++
    [192, 168, 1, 10, 0x02, 0x11, 0x22, 0x33, 0x44, 0x05] : Bytes).getD offset 0

/-- Another printer of the same PC, whose number is ten times that of the first. -/
def tenfoldPair : PrinterPair where
  pcIp := 167880896
  printerMac := [0x14, 0xaa, 0x54, 0xff, 0xa9, 0x34]
  mac_size := rfl

/-- A lock that the other printer holds. -/
def tenfoldLock : VendorLock where
  owner := tenfoldPair
  channel := 1
  semaphore := ⟨true, some 0, true⟩

/-- The cleanup for the first printer removes the lock of the other one. -/
theorem tenfold_lock_removed :
    ¬ ∀ printerAddressList printerIndex running locks,
      TouchesOnlyOwn printerAddressList printerIndex running locks := by
  intro hown
  have hselected : ∃ record, selectedRecord (some onePrinterList) 0 = .ok record := ⟨_, rfl⟩
  obtain ⟨record, hrecord⟩ := hselected
  have hpair : recordPair record =
      ⟨167880896, [0x02, 0x11, 0x22, 0x33, 0x44, 0x05], rfl⟩ := by
    rw [← Except.ok.inj (show selectedRecord (some onePrinterList) 0 = .ok record from hrecord)]
    rfl
  have hremoved : tenfoldLock.entry ∈ (clearStaleLocalLocks (some onePrinterList) 0 false
      (.ok ([tenfoldLock].map VendorLock.entry))).2 := by
    refine (removed_iff _ _).mpr ⟨_, ⟨⟨record, hrecord, hpair⟩, rfl, by decide⟩,
      List.mem_map_of_mem (List.mem_singleton.mpr rfl), ?_, rfl, rfl⟩
    decide +kernel
  obtain ⟨other, hother, hnot⟩ := hown (some onePrinterList) 0 false [tenfoldLock] tenfoldLock
    (List.mem_singleton.mpr rfl) hremoved
  rw [hrecord] at hother
  rw [← Except.ok.inj hother, hpair] at hnot
  exact hnot (.inl ⟨by decide, by decide⟩)

end PrintFlow.NocaiArmStaleSessionRecovery
