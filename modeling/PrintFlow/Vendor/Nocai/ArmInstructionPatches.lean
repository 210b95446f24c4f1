import Mathlib.Data.Finset.Erase
import Mathlib.Data.Finset.Insert
import Mathlib.Logic.Function.Basic
import Mathlib.Logic.Relation
import PrintFlow.Library.Runs
import PrintFlow.Vendor.Nocai.ArmCommandTag
import PrintFlow.Vendor.Nocai.ElfBuildId

/-!
# The instructions of the ARM library

`install` rewrites five instructions of the vendor library that is loaded, each in a page that it
makes writable for the time of the store, and makes the wrappers of `sendto` and `send` correct the
wire tag until the last owner uninstalls. Any call of `mprotect` may fail. `library_patched` says
what a run of installs and uninstalls does to the memory and the pages of the process, and
`tag_corrected_while_owned` when the wire tag is corrected.
-/

namespace PrintFlow.NocaiArmCommandTag

/-! ## Words of the memory -/

/-- The memory of the process. -/
abbrev Memory := Nat → UInt8

/-- A `uint32_t` that is copied from the memory. -/
def wordAt (memory : Memory) (address : Nat) : UInt32 :=
  .ofNat (littleEndian ((List.range 4).map fun index ↦ memory (address + index)))

/-- A `uint32_t` that is copied to the memory. -/
def storeWord (memory : Memory) (address : Nat) (word : UInt32) : Memory := fun place ↦
  if address ≤ place ∧ place < address + 4 then .ofNat (word.toNat / 256 ^ (place - address))
  else memory place

section Words

theorem little_endian_lt (bytes : Bytes) : littleEndian bytes < 256 ^ bytes.length := by
  induction bytes with
  | nil => simp [littleEndian]
  | cons byte rest ih =>
      have hbyte := byte.toNat_lt
      rw [littleEndian, List.length_cons, Nat.pow_succ]
      omega

theorem little_endian_digit {bytes : Bytes} {index : Nat} (h : index < bytes.length) :
    littleEndian bytes / 256 ^ index % 256 = bytes[index].toNat := by
  induction bytes generalizing index with
  | nil => simp at h
  | cons byte rest ih =>
      have hbyte := byte.toNat_lt
      cases index with
      | zero =>
          rw [littleEndian, List.getElem_cons_zero]
          omega
      | succ index =>
          have hrest : (byte.toNat + 256 * littleEndian rest) / 256 = littleEndian rest := by omega
          rw [littleEndian, Nat.pow_succ', ← Nat.div_div_eq_div_mul, hrest,
            ih (Nat.lt_of_succ_lt_succ h), List.getElem_cons_succ]

theorem little_endian_digits (count value : Nat) :
    littleEndian ((List.range count).map fun index ↦ UInt8.ofNat (value / 256 ^ index)) =
      value % 256 ^ count := by
  induction count generalizing value with
  | zero => simp [littleEndian, Nat.mod_one]
  | succ count ih =>
      have hrest : (fun index ↦ UInt8.ofNat (value / 256 ^ (index + 1))) =
          fun index ↦ UInt8.ofNat (value / 256 / 256 ^ index) := by
        funext index
        rw [Nat.pow_succ', Nat.div_div_eq_div_mul]
      rw [List.range_succ_eq_map, List.map_cons, List.map_map, littleEndian]
      change _ + 256 * littleEndian ((List.range count).map fun index ↦
        UInt8.ofNat (value / 256 ^ (index + 1))) = _
      have hbyte : (UInt8.ofNat (value / 256 ^ 0)).toNat = value % 256 := by
        rw [Nat.pow_zero, Nat.div_one, UInt8.toNat_ofNat']
      rw [hrest, ih, hbyte, Nat.pow_succ', Nat.mod_mul]

variable {memory other : Memory} {address place : Nat} {word : UInt32}

theorem word_at_congr (h : ∀ place, address ≤ place → place < address + 4 →
    memory place = other place) : wordAt memory address = wordAt other address := by
  unfold wordAt
  congr 2
  refine List.map_congr_left fun index hindex ↦ ?_
  have hlt := List.mem_range.mp hindex
  exact h _ (by omega) (by omega)

theorem store_word_outside (h : place < address ∨ address + 4 ≤ place) :
    storeWord memory address word place = memory place := by
  rw [storeWord, if_neg (by omega)]

theorem word_at_store_same : wordAt (storeWord memory address word) address = word := by
  have hbytes : ((List.range 4).map fun index ↦ storeWord memory address word (address + index)) =
      (List.range 4).map fun index ↦ UInt8.ofNat (word.toNat / 256 ^ index) := by
    refine List.map_congr_left fun index hindex ↦ ?_
    have hlt := List.mem_range.mp hindex
    rw [storeWord, if_pos (by omega), Nat.add_sub_cancel_left]
  have hlt : word.toNat < 256 ^ 4 := word.toNat_lt
  rw [wordAt, hbytes, little_endian_digits, Nat.mod_eq_of_lt hlt, UInt32.ofNat_toNat]

theorem word_at_store_apart (h : place + 4 ≤ address ∨ address + 4 ≤ place) :
    wordAt (storeWord memory address word) place = wordAt memory place :=
  word_at_congr fun _ _ _ ↦ store_word_outside (by omega)

/-- A word that is stored back where another was stored. -/
theorem store_word_back (h : wordAt memory address = word) (between : UInt32) :
    storeWord (storeWord memory address between) address word = memory := by
  funext place
  by_cases hinside : address ≤ place ∧ place < address + 4
  · obtain ⟨index, rfl⟩ := Nat.exists_eq_add_of_le hinside.1
    have hindex : index < ((List.range 4).map fun index ↦ memory (address + index)).length := by
      rw [List.length_map, List.length_range]
      omega
    have hword : word.toNat = littleEndian ((List.range 4).map fun index ↦
        memory (address + index)) := by
      have hlt := little_endian_lt ((List.range 4).map fun index ↦ memory (address + index))
      rw [List.length_map, List.length_range] at hlt
      rw [← h, wordAt, UInt32.toNat_ofNat']
      omega
    rw [storeWord, if_pos hinside, Nat.add_sub_cancel_left, ← UInt8.toNat_inj, UInt8.toNat_ofNat',
      hword, little_endian_digit hindex, List.getElem_map, List.getElem_range]
  · rw [store_word_outside (by omega), store_word_outside (by omega)]

end Words

/-! ## Installing -/

/-- The protection of a page. -/
inductive Protection where
  | readExecute
  | readWriteExecute
  | other
  deriving DecidableEq

structure InstructionPatch where
  offset : Nat
  original : UInt32
  corrected : UInt32
  deriving DecidableEq

def kValidatedBuildId : String := "e7f1dec8ba820d78cb754b603ddd94146f7ddec2"
def kSendCommandInstructionOffset : Nat := 0x08
def kSendSwathInstructionOffset : Nat := 0x2d8
def kSendCommandOriginal : UInt32 := 0x52892007
def kSendSwathOriginal : UInt32 := 0x52892000
def kCreatePasswordInstructionOffset : Nat := 0x60
def kCreatePasswordOriginal : UInt32 := 0x52892860
def kCreatePasswordCorrected : UInt32 := 0x5288e980

/-- The patch of `CreatePassword`. -/
def createPasswordPatch : InstructionPatch where
  offset := kCreatePasswordInstructionOffset
  original := kCreatePasswordOriginal
  corrected := kCreatePasswordCorrected

def kSignedHeadOffsetPatches : List InstructionPatch :=
  [⟨0x88, 0x3943a89c, 0x39c3a89c⟩, ⟨0x90, 0x39442883, 0x39c42883⟩,
    ⟨0xa4, 0x3943c882, 0x39c3c882⟩, ⟨0xa8, 0x39444884, 0x39c44884⟩]

/-- The memory, and the protection of the page that begins at an address. -/
structure Code where
  memory : Memory
  protection : Nat → Protection

/-- What `install`, `uninstall` and the wrappers share. `wire` is what each call of a wrapper was
given, and what it gave to the system; `none` is a read outside of the buffer. -/
structure Process (Owner : Type) where
  code : Code
  owners : Finset Owner := ∅
  enabled : Bool := false
  correctionCount : UInt32 := 0
  wire : List (Bytes × Option Bytes) := []

/-- The answers to the calls of `mprotect` for one patch, each an error or none: the call that makes
the page writable, the one behind the store, and the one behind the store that takes it back. -/
structure ProtectIo where
  writable : Option String := none
  restored : Option String := none
  retried : Option String := none

/-- What `install` is told: the file the library was loaded from if it can be identified, with its
content if it opens, and the answers for the patch at each offset. -/
structure InstallIo where
  file : Option (Option QByteArray) := none
  protect : Nat → ProtectIo := fun _ ↦ {}

/-- What `library.resolve` finds. -/
structure Symbols where
  sendCommand : Option Nat
  sendSwathCommand : Option Nat
  createPassword : Option Nat
  getChanOffset : Option Nat

/-- `elfBuildId` of a file. The fuel is enough for every file. -/
def buildIdOf : Option QByteArray → String
  | none => ""
  | some content =>
    match elfBuildId (content.bytes.length + 1) content with
    | .done id => id
    | _ => ""

def validateBuild (file : Option (Option QByteArray)) : Except String Unit :=
  match file with
  | none => .error "Could not identify the loaded ARM SDK file."
  | some file =>
    let buildId := buildIdOf file
    if buildId ≠ kValidatedBuildId then
      .error ("The ARM direct-print SDK Build ID is " ++
        (if buildId = "" then "unavailable" else buildId) ++ "; expected validated X-33 build " ++
        kValidatedBuildId ++ ". The compatibility correction was refused.")
    else .ok ()

/-- The beginning of the page of an address. The mask is that of a power of two. -/
def pageOf (pageSize address : Nat) : Nat := address - (address &&& (pageSize - 1))

section Installing

variable {Owner : Type} (pageSize : Int)

/-- The result says whether the instruction was changed. -/
def ensureInstructionPatch (symbol : Option Nat) (patch : InstructionPatch) (label : String)
    (io : ProtectIo) (code : Code) : Code × Except String Bool :=
  match symbol with
  | none => (code, .error ("The validated ARM direct-print SDK is missing " ++ label ++ "."))
  | some symbol =>
    let instruction := symbol + patch.offset
    let current := wordAt code.memory instruction
    if current = patch.corrected then (code, .ok false)
    else if current ≠ patch.original then
      (code, .error ("The ARM direct-print SDK " ++ label ++
        " instruction does not match the validated X-33 build; compatibility was refused."))
    else if pageSize ≤ 0 ∨ pageSize.toNat &&& (pageSize.toNat - 1) ≠ 0 then
      (code, .error "Could not determine a valid page size for ARM SDK compatibility.")
    else
      let page := pageOf pageSize.toNat instruction
      match io.writable with
      | some error =>
        (code, .error ("Could not make the ARM SDK " ++ label ++ " instruction writable: " ++ error))
      | none =>
        let written := { code with
          memory := storeWord code.memory instruction patch.corrected
          protection := Function.update code.protection page .readWriteExecute }
        match io.restored with
        | none =>
          ({ written with protection := Function.update written.protection page .readExecute },
            .ok true)
        | some error =>
          ({ written with
              memory := storeWord written.memory instruction patch.original
              protection :=
                if io.retried.isNone then Function.update written.protection page .readExecute
                else written.protection },
            .error ("Could not restore ARM SDK " ++ label ++ " code protection: " ++ error))

/-- The loop over the patches of a function, up to the first that fails. -/
def ensureInstructionPatches (symbol : Option Nat) (label : String) (io : Nat → ProtectIo) :
    List InstructionPatch → Code → Code × Except String Bool
  | [], code => (code, .ok false)
  | patch :: rest, code =>
    match ensureInstructionPatch pageSize symbol patch label (io patch.offset) code with
    | (next, .error message) => (next, .error message)
    | (next, .ok changed) =>
      match ensureInstructionPatches symbol label io rest next with
      | (final, .error message) => (final, .error message)
      | (final, .ok others) => (final, .ok (changed || others))

variable [DecidableEq Owner]

def install (owner : Option Owner) (symbols : Symbols) (io : InstallIo) (s : Process Owner) :
    Process Owner × Except String Unit :=
  match owner with
  | none => (s, .error "ARM X-33 compatibility owner is invalid.")
  | some owner =>
    match symbols.sendCommand, symbols.sendSwathCommand, symbols.createPassword,
      symbols.getChanOffset with
    | some sendCommand, some sendSwathCommand, some createPassword, some getChanOffset =>
      match validateBuild io.file with
      | .error message => (s, .error message)
      | .ok () =>
        if wordAt s.code.memory (sendCommand + kSendCommandInstructionOffset) ≠ kSendCommandOriginal ∨
            wordAt s.code.memory (sendSwathCommand + kSendSwathInstructionOffset) ≠
              kSendSwathOriginal then
          (s, .error ("The ARM direct-print SDK command layout does not match the validated X-33 " ++
            "build; the wire correction was refused."))
        else
          match ensureInstructionPatch pageSize createPassword createPasswordPatch "CreatePassword"
            (io.protect createPasswordPatch.offset) s.code with
          | (code, .error message) => ({ s with code }, .error message)
          | (code, .ok _) =>
            match ensureInstructionPatches pageSize getChanOffset
              "Andy_GetChanOffset signed-offset" io.protect kSignedHeadOffsetPatches code with
            | (code, .error message) => ({ s with code }, .error message)
            | (code, .ok _) =>
              let wasEmpty := s.owners = ∅
              ({ s with
                  code
                  owners := insert owner s.owners
                  correctionCount := if wasEmpty then 0 else s.correctionCount
                  enabled := if wasEmpty then true else s.enabled },
                .ok ())
    | _, _, _, _ =>
      (s, .error ("The ARM direct-print SDK is not the validated X-33 build; required command " ++
        "symbols are unavailable."))

def uninstall (owner : Option Owner) (s : Process Owner) : Process Owner :=
  let owners := owner.elim s.owners s.owners.erase
  { s with
    owners
    enabled := if owners = ∅ then false else s.enabled }

/-- The wrappers `sendto` and `send` of a buffer, when they find the function of the system or not,
and when there is memory for a copy or not. -/
def send (resolved allocated : Bool) (buffer : Bytes) (s : Process Owner) : Process Owner :=
  if !resolved then s
  else
    match correctedWireCopy s.enabled allocated (some buffer) with
    | none => { s with wire := s.wire ++ [(buffer, none)] }
    | some none => { s with wire := s.wire ++ [(buffer, some buffer)] }
    | some (some (copy, _)) =>
      { s with
        wire := s.wire ++ [(buffer, some copy)]
        correctionCount := s.correctionCount + 1 }

end Installing

/-- What the process calls, in the order in which it takes the lock. -/
inductive Operation (Owner : Type) where
  | install (owner : Option Owner) (symbols : Symbols) (io : InstallIo)
  | uninstall (owner : Option Owner)
  | send (resolved allocated : Bool) (buffer : Bytes)

section Runs

variable {Owner : Type} [DecidableEq Owner] (pageSize : Int)

def step (s : Process Owner) : Operation Owner → Process Owner
  | .install owner symbols io => (install pageSize owner symbols io s).1
  | .uninstall owner => uninstall owner s
  | .send resolved allocated buffer => send resolved allocated buffer s

/-- The process behind these operations. -/
def run (s : Process Owner) (operations : List (Operation Owner)) : Process Owner :=
  Runs.run (step pageSize) s operations

end Runs

/-! ## What is rewritten -/

/-- The instructions that an install with these symbols rewrites. -/
def instructions (symbols : Symbols) : List (Nat × InstructionPatch) :=
  symbols.createPassword.toList.map (fun symbol ↦
      (symbol + createPasswordPatch.offset, createPasswordPatch)) ++
    symbols.getChanOffset.toList.flatMap fun symbol ↦
      kSignedHeadOffsetPatches.map fun patch ↦ (symbol + patch.offset, patch)

/-- `ensureInstructionPatch` may be called on instructions, each with a patch and the answers of the
system. -/
abbrev Targets := Nat → InstructionPatch → ProtectIo → Prop

/-- Every target is this instruction with this patch, or does not overlap it. -/
def Targets.Apart (targets : Targets) (place : Nat) (patch : InstructionPatch) : Prop :=
  ∀ other otherPatch io, targets other otherPatch io →
    (place = other ∧ patch = otherPatch) ∨ place + 4 ≤ other ∨ other + 4 ≤ place

/-- The page of an instruction could not be protected behind the store, and not behind the store
that took it back. -/
def ProtectIo.Stuck (io : ProtectIo) : Prop := io.restored ≠ none ∧ io.retried ≠ none

/-- What one call of `ensureInstructionPatch` can do to the code. -/
inductive Patched (pageSize : Int) (place : Nat) (patch : InstructionPatch) (io : ProtectIo)
    (code : Code) : Code → Prop where
  | kept : Patched pageSize place patch io code code
  | rewritten :
      wordAt code.memory place = patch.original →
      Patched pageSize place patch io code
        { memory := storeWord code.memory place patch.corrected
          protection :=
            Function.update code.protection (pageOf pageSize.toNat place) .readExecute }
  | takenBack (protection) :
      protection = .readExecute ∨ protection = .readWriteExecute ∧ io.Stuck →
      Patched pageSize place patch io code
        { code with
          protection := Function.update code.protection (pageOf pageSize.toNat place) protection }

/-- What calls of `ensureInstructionPatch` on targets can do to the code. -/
def Rewriting (pageSize : Int) (targets : Targets) : Code → Code → Prop :=
  Relation.ReflTransGen fun code next ↦
    ∃ place patch io, targets place patch io ∧ Patched pageSize place patch io code next

section Rewriting

variable {pageSize : Int} {place : Nat} {patch : InstructionPatch} {io : ProtectIo}
  {code next : Code} {targets : Targets}

/-- The only bytes that change are those of the instruction. -/
theorem Patched.elsewhere (h : Patched pageSize place patch io code next) {address : Nat}
    (hchanged : next.memory address ≠ code.memory address) :
    place ≤ address ∧ address < place + 4 := by
  cases h with
  | kept => exact absurd rfl hchanged
  | takenBack => exact absurd rfl hchanged
  | rewritten _ =>
      by_contra hout
      exact hchanged (store_word_outside (by omega))

/-- A page that is writable behind the call was so before, or is the page of the instruction. -/
theorem Patched.page (h : Patched pageSize place patch io code next) {page : Nat}
    (hwritable : next.protection page = .readWriteExecute) :
    code.protection page = .readWriteExecute ∨ page = pageOf pageSize.toNat place ∧ io.Stuck := by
  cases h with
  | kept => exact Or.inl hwritable
  | rewritten _ =>
      by_cases hpage : page = pageOf pageSize.toNat place
      · subst hpage
        cases (Function.update_self ..).symm.trans hwritable
      · exact Or.inl ((Function.update_of_ne hpage _ _).symm.trans hwritable)
  | takenBack protection hprotection =>
      by_cases hpage : page = pageOf pageSize.toNat place
      · subst hpage
        rcases hprotection with rfl | ⟨-, hstuck⟩
        · cases (Function.update_self ..).symm.trans hwritable
        · exact Or.inr ⟨rfl, hstuck⟩
      · exact Or.inl ((Function.update_of_ne hpage _ _).symm.trans hwritable)

/-- A target keeps its word, or gets the corrected one in place of the original. -/
theorem Patched.word (h : Patched pageSize place patch io code next) {other : Nat}
    {otherPatch : InstructionPatch}
    (hapart : (other = place ∧ otherPatch = patch) ∨ other + 4 ≤ place ∨ place + 4 ≤ other) :
    wordAt next.memory other = wordAt code.memory other ∨
      wordAt code.memory other = otherPatch.original ∧
        wordAt next.memory other = otherPatch.corrected := by
  cases h with
  | kept => exact Or.inl rfl
  | takenBack => exact Or.inl rfl
  | rewritten horiginal =>
      rcases hapart with ⟨rfl, rfl⟩ | hapart
      · exact Or.inr ⟨horiginal, word_at_store_same⟩
      · exact Or.inl (word_at_store_apart hapart)

/-- Every address that changes is in a target. -/
theorem Rewriting.elsewhere (h : Rewriting pageSize targets code next) {address : Nat}
    (hchanged : next.memory address ≠ code.memory address) :
    ∃ place patch io, targets place patch io ∧ place ≤ address ∧ address < place + 4 := by
  induction h with
  | refl => exact absurd rfl hchanged
  | @tail mid next _ hstep ih =>
      obtain ⟨place, patch, io, htarget, hpatched⟩ := hstep
      by_cases hlast : next.memory address = mid.memory address
      · exact ih (hlast ▸ hchanged)
      · exact ⟨place, patch, io, htarget, hpatched.elsewhere hlast⟩

/-- Every page that is left writable is one of a target whose page could not be protected. -/
theorem Rewriting.page (h : Rewriting pageSize targets code next) {page : Nat}
    (hwritable : next.protection page = .readWriteExecute) :
    code.protection page = .readWriteExecute ∨ ∃ place patch io, targets place patch io ∧
      page = pageOf pageSize.toNat place ∧ io.Stuck := by
  induction h with
  | refl => exact Or.inl hwritable
  | tail _ hstep ih =>
      obtain ⟨place, patch, io, htarget, hpatched⟩ := hstep
      rcases hpatched.page hwritable with hbefore | hpage
      · exact ih hbefore
      · exact Or.inr ⟨place, patch, io, htarget, hpage⟩

/-- An instruction that no target overlaps keeps its word, or gets the corrected one in place of the
original. -/
theorem Rewriting.word (h : Rewriting pageSize targets code next)
    (hapart : targets.Apart place patch) : wordAt next.memory place = wordAt code.memory place ∨
      wordAt code.memory place = patch.original ∧ wordAt next.memory place = patch.corrected := by
  induction h with
  | refl => exact Or.inl rfl
  | tail _ hstep ih =>
      obtain ⟨other, otherPatch, otherIo, hother, hpatched⟩ := hstep
      have hlast := hpatched.word (hapart _ _ _ hother)
      rcases ih with hkept | ⟨horiginal, hcorrected⟩
      · rw [hkept] at hlast
        exact hlast
      · rcases hlast with hlast | ⟨-, hlast⟩
        · exact Or.inr ⟨horiginal, hlast.trans hcorrected⟩
        · exact Or.inr ⟨horiginal, hlast⟩

/-- An instruction that is corrected stays so. -/
theorem Rewriting.corrected (h : Rewriting pageSize targets code next)
    (hapart : targets.Apart place patch)
    (hcorrected : wordAt code.memory place = patch.corrected) :
    wordAt next.memory place = patch.corrected := by
  rcases h.word hapart with hkept | ⟨-, hdone⟩
  · exact hkept.trans hcorrected
  · exact hdone

theorem Rewriting.mono {more : Targets} (h : Rewriting pageSize targets code next)
    (hmore : ∀ place patch io, targets place patch io → more place patch io) :
    Rewriting pageSize more code next := by
  induction h with
  | refl => exact .refl
  | tail _ hstep ih =>
      obtain ⟨place, patch, io, htarget, hpatched⟩ := hstep
      exact ih.tail ⟨place, patch, io, hmore _ _ _ htarget, hpatched⟩

/-- One call. -/
theorem ensure_instruction_patch_spec (symbol : Nat) (patch : InstructionPatch) (label : String)
    (io : ProtectIo) (code : Code) :
    Patched pageSize (symbol + patch.offset) patch io code
        (ensureInstructionPatch pageSize (some symbol) patch label io code).1 ∧
      ∀ changed, (ensureInstructionPatch pageSize (some symbol) patch label io code).2 =
        .ok changed →
        wordAt (ensureInstructionPatch pageSize (some symbol) patch label io code).1.memory
          (symbol + patch.offset) = patch.corrected := by
  unfold ensureInstructionPatch
  dsimp only
  split
  · next hcorrected => exact ⟨.kept, fun _ _ ↦ hcorrected⟩
  split
  · exact ⟨.kept, fun _ h ↦ by cases h⟩
  next hother =>
  split
  · exact ⟨.kept, fun _ h ↦ by cases h⟩
  have horiginal := not_ne_iff.mp hother
  cases io.writable with
  | some error => exact ⟨.kept, fun _ h ↦ by cases h⟩
  | none =>
      cases hrestored : io.restored with
      | none =>
          dsimp only
          rw [Function.update_idem]
          exact ⟨.rewritten horiginal, fun _ _ ↦ word_at_store_same⟩
      | some error =>
          dsimp only
          refine ⟨?_, fun _ h ↦ by cases h⟩
          rw [store_word_back horiginal]
          cases hretried : io.retried with
          | none =>
              rw [Option.isNone_none, if_pos rfl, Function.update_idem]
              exact .takenBack .readExecute (Or.inl rfl)
          | some again =>
              exact .takenBack .readWriteExecute
                (Or.inr ⟨rfl, by rw [hrestored]; nofun, by rw [hretried]; nofun⟩)

/-- The loop over the patches of a function. -/
theorem ensure_instruction_patches_spec (symbol : Nat) (label : String) (io : Nat → ProtectIo)
    (patches : List InstructionPatch) (code : Code)
    (htargets : ∀ patch ∈ patches, targets (symbol + patch.offset) patch (io patch.offset)) :
    Rewriting pageSize targets code
        (ensureInstructionPatches pageSize (some symbol) label io patches code).1 ∧
      ∀ changed, (ensureInstructionPatches pageSize (some symbol) label io patches code).2 =
        .ok changed → ∀ patch ∈ patches, targets.Apart (symbol + patch.offset) patch →
        wordAt (ensureInstructionPatches pageSize (some symbol) label io patches code).1.memory
          (symbol + patch.offset) = patch.corrected := by
  induction patches generalizing code with
  | nil => exact ⟨.refl, fun _ _ _ h _ ↦ absurd h List.not_mem_nil⟩
  | cons patch rest ih =>
      have htarget := htargets patch List.mem_cons_self
      obtain ⟨hpatched, hcorrected⟩ := @ensure_instruction_patch_spec pageSize symbol patch label
        (io patch.offset) code
      rw [ensureInstructionPatches]
      cases hfirst : ensureInstructionPatch pageSize (some symbol) patch label (io patch.offset) code
        with
      | mk next result =>
      rw [hfirst] at hpatched hcorrected
      have hstep : Rewriting pageSize targets code next :=
        .single ⟨_, _, _, htarget, hpatched⟩
      cases result with
      | error message => exact ⟨hstep, fun _ h ↦ by cases h⟩
      | ok changed =>
      obtain ⟨hrest, hothers⟩ := ih next fun other hother ↦
        htargets other (List.mem_cons_of_mem _ hother)
      dsimp only
      cases hlater : ensureInstructionPatches pageSize (some symbol) label io rest next with
      | mk final result =>
      rw [hlater] at hrest hothers
      cases result with
      | error message => exact ⟨hstep.trans hrest, fun _ h ↦ by cases h⟩
      | ok others =>
          refine ⟨hstep.trans hrest, fun _ _ other hother hapart ↦ ?_⟩
          rcases List.mem_cons.mp hother with rfl | hother
          · exact hrest.corrected hapart (hcorrected _ rfl)
          · exact hothers _ rfl other hother hapart

end Rewriting

/-! ## Runs -/

section Operations

variable {Owner : Type}

/-- What an operation may rewrite: an install for an owner, in the validated build. -/
def Operation.Rewrites (operation : Operation Owner) : Targets := fun place patch io ↦
  ∃ owner symbols installIo, operation = .install (some owner) symbols installIo ∧
    validateBuild installIo.file = .ok () ∧ (place, patch) ∈ instructions symbols ∧
    io = installIo.protect patch.offset

/-- What the operations of a run may rewrite. -/
def Rewrites (operations : List (Operation Owner)) : Targets := fun place patch io ↦
  ∃ operation ∈ operations, operation.Rewrites place patch io

variable [DecidableEq Owner] {pageSize : Int}

/-- An install rewrites its instructions. It fails, or all of them are corrected and its owner is
among the owners. -/
theorem install_spec (owner : Option Owner) (symbols : Symbols) (io : InstallIo)
    (s : Process Owner) :
    Rewriting pageSize (Operation.install owner symbols io).Rewrites s.code
        (install pageSize owner symbols io s).1.code ∧
      ((∃ message, (install pageSize owner symbols io s).2 = .error message ∧
          (install pageSize owner symbols io s).1.owners = s.owners ∧
          (install pageSize owner symbols io s).1.enabled = s.enabled) ∨
        ∃ own, owner = some own ∧ (install pageSize owner symbols io s).2 = .ok () ∧
          (install pageSize owner symbols io s).1.owners = insert own s.owners ∧
          (install pageSize owner symbols io s).1.enabled =
            (if s.owners = ∅ then true else s.enabled) ∧
          validateBuild io.file = .ok () ∧
          (∀ place patch, (place, patch) ∈ instructions symbols →
            (Operation.install owner symbols io).Rewrites.Apart place patch →
              wordAt (install pageSize owner symbols io s).1.code.memory place =
                patch.corrected)) := by
  unfold install
  cases owner with
  | none => exact ⟨.refl, Or.inl ⟨_, rfl, rfl, rfl⟩⟩
  | some owner =>
  dsimp only
  split
  swap
  · exact ⟨.refl, Or.inl ⟨_, rfl, rfl, rfl⟩⟩
  next sendCommand sendSwathCommand createPassword getChanOffset _ _ hcreate hchan =>
  cases hvalidated : validateBuild io.file with
  | error message => exact ⟨.refl, Or.inl ⟨_, rfl, rfl, rfl⟩⟩
  | ok _ =>
  dsimp only
  split
  · exact ⟨.refl, Or.inl ⟨_, rfl, rfl, rfl⟩⟩
  obtain ⟨hpatched, hpassword⟩ := @ensure_instruction_patch_spec pageSize createPassword
    createPasswordPatch "CreatePassword" (io.protect createPasswordPatch.offset) s.code
  cases hfirst : ensureInstructionPatch pageSize (some createPassword) createPasswordPatch
    "CreatePassword" (io.protect createPasswordPatch.offset) s.code with
  | mk code result =>
  rw [hfirst] at hpatched hpassword
  have hinstructions : instructions symbols =
      (createPassword + createPasswordPatch.offset, createPasswordPatch) ::
        kSignedHeadOffsetPatches.map fun patch ↦ (getChanOffset + patch.offset, patch) := by
    rw [instructions, hcreate, hchan, Option.toList_some, Option.toList_some,
      List.flatMap_singleton, List.map_singleton, List.singleton_append]
  have htarget : (Operation.install (some owner) symbols io).Rewrites
      (createPassword + createPasswordPatch.offset) createPasswordPatch
      (io.protect createPasswordPatch.offset) :=
    ⟨owner, symbols, io, rfl, hvalidated, hinstructions ▸ List.mem_cons_self, rfl⟩
  have hstep : Rewriting pageSize (Operation.install (some owner) symbols io).Rewrites s.code code :=
    .single ⟨_, _, _, htarget, hpatched⟩
  cases result with
  | error message => exact ⟨hstep, Or.inl ⟨_, rfl, rfl, rfl⟩⟩
  | ok _ =>
  dsimp only
  obtain ⟨hrest, hoffsets⟩ := @ensure_instruction_patches_spec pageSize
    (Operation.install (some owner) symbols io).Rewrites getChanOffset
    "Andy_GetChanOffset signed-offset" io.protect kSignedHeadOffsetPatches code
    fun patch hpatch ↦ ⟨owner, symbols, io, rfl, hvalidated,
      hinstructions ▸ List.mem_cons_of_mem _ (List.mem_map_of_mem hpatch), rfl⟩
  cases hlater : ensureInstructionPatches pageSize (some getChanOffset)
    "Andy_GetChanOffset signed-offset" io.protect kSignedHeadOffsetPatches code with
  | mk final result =>
  rw [hlater] at hrest hoffsets
  cases result with
  | error message => exact ⟨hstep.trans hrest, Or.inl ⟨_, rfl, rfl, rfl⟩⟩
  | ok _ =>
      refine ⟨hstep.trans hrest,
        Or.inr ⟨owner, rfl, rfl, rfl, rfl, rfl, fun place patch h hapart ↦ ?_⟩⟩
      rw [hinstructions, List.mem_cons, List.mem_map] at h
      rcases h with h | ⟨other, hother, h⟩
      · cases h
        exact hrest.corrected hapart (hpassword _ rfl)
      · cases h
        exact hoffsets _ rfl _ hother hapart

/-- An operation rewrites only what it may. -/
theorem step_rewriting (s : Process Owner) (operation : Operation Owner) :
    Rewriting pageSize operation.Rewrites s.code (step pageSize s operation).code := by
  cases operation with
  | install owner symbols io => exact (install_spec owner symbols io s).1
  | uninstall owner => exact .refl
  | send resolved allocated buffer =>
      rw [step, send]
      split
      · exact .refl
      · split <;> exact .refl

theorem run_snoc (s : Process Owner) (operations : List (Operation Owner))
    (operation : Operation Owner) : run pageSize s (operations ++ [operation]) =
      step pageSize (run pageSize s operations) operation :=
  Runs.run_append operations [operation]

/-- A run rewrites only what its operations may. -/
theorem run_rewriting (s : Process Owner) (operations : List (Operation Owner)) :
    Rewriting pageSize (Rewrites operations) s.code (run pageSize s operations).code := by
  induction operations using List.reverseRecOn with
  | nil => exact .refl
  | append_singleton operations operation ih =>
      rw [run_snoc]
      refine .trans (ih.mono fun _ _ _ ⟨other, hother, h⟩ ↦
        ⟨other, List.mem_append_left _ hother, h⟩) ?_
      exact (step_rewriting _ _).mono fun _ _ _ h ↦
        ⟨operation, List.mem_append_right _ (List.mem_singleton_self _), h⟩

/-- What an operation corrected stays corrected. -/
theorem run_corrected (s : Process Owner) {operations before after : List (Operation Owner)}
    (hsplit : operations = before ++ after) {place : Nat} {patch : InstructionPatch}
    (hapart : (Rewrites operations).Apart place patch)
    (hcorrected : wordAt (run pageSize s before).code.memory place = patch.corrected) :
    wordAt (run pageSize s operations).code.memory place = patch.corrected := by
  subst hsplit
  have hafter := @run_rewriting Owner _ pageSize (run pageSize s before) after
  rw [run, Runs.run_append]
  exact (hafter.mono fun _ _ _ ⟨other, hother, h⟩ ↦
    ⟨other, List.mem_append_right _ hother, h⟩).corrected hapart hcorrected

/-- What a run does to the code. -/
structure LibraryPatched (pageSize : Int) (s : Process Owner) (operations : List (Operation Owner)) :
    Prop where
  /-- Memory changes only in the instructions of installs that found the validated build. -/
  elsewhere (address : Nat) :
    (run pageSize s operations).code.memory address ≠ s.code.memory address →
    ∃ place patch io, Rewrites operations place patch io ∧ place ≤ address ∧ address < place + 4
  /-- Such an instruction is as it was, or it was the original one and is the corrected one. -/
  word (place : Nat) (patch : InstructionPatch) (io : ProtectIo) :
    Rewrites operations place patch io → (Rewrites operations).Apart place patch →
    wordAt (run pageSize s operations).code.memory place = wordAt s.code.memory place ∨
      wordAt s.code.memory place = patch.original ∧
        wordAt (run pageSize s operations).code.memory place = patch.corrected
  /-- A page is left writable only where the system failed to protect it, twice. -/
  page (page : Nat) :
    (run pageSize s operations).code.protection page = .readWriteExecute →
    s.code.protection page = .readWriteExecute ∨ ∃ place patch io,
      Rewrites operations place patch io ∧ page = pageOf pageSize.toNat place ∧ io.Stuck
  /-- An instruction that is corrected stays corrected, also behind an install that fails. -/
  stays (before after : List (Operation Owner)) (place : Nat) (patch : InstructionPatch)
    (io : ProtectIo) :
    operations = before ++ after → Rewrites operations place patch io →
    (Rewrites operations).Apart place patch →
    wordAt (run pageSize s before).code.memory place = patch.corrected →
    wordAt (run pageSize s operations).code.memory place = patch.corrected

/-- Whatever runs of installs, uninstalls and messages, and whichever calls of `mprotect` fail. -/
theorem library_patched (s : Process Owner) (operations : List (Operation Owner)) :
    LibraryPatched pageSize s operations where
  elsewhere _ hchanged := (run_rewriting s operations).elsewhere hchanged
  word _ _ _ _ hapart := (run_rewriting s operations).word hapart
  page _ hwritable := (run_rewriting s operations).page hwritable
  stays _ _ _ _ _ hsplit _ hapart hcorrected := run_corrected s hsplit hapart hcorrected

/-! ## Owners -/

/-- The owner installed with these symbols and has not uninstalled since. -/
def Holds (pageSize : Int) (s : Process Owner) (operations : List (Operation Owner)) (owner : Owner)
    (symbols : Symbols) : Prop :=
  ∃ before io after, operations = before ++ .install (some owner) symbols io :: after ∧
    (install pageSize (some owner) symbols io (run pageSize s before)).2 = .ok () ∧
    .uninstall (some owner) ∉ after

/-- Holding behind one more operation. -/
theorem holds_snoc {s : Process Owner} {operations : List (Operation Owner)}
    {operation : Operation Owner} {owner : Owner} {symbols : Symbols} :
    Holds pageSize s (operations ++ [operation]) owner symbols ↔
      (∃ io, operation = .install (some owner) symbols io ∧
        (install pageSize (some owner) symbols io (run pageSize s operations)).2 = .ok ()) ∨
      Holds pageSize s operations owner symbols ∧ operation ≠ .uninstall (some owner) := by
  constructor
  · rintro ⟨before, io, after, hsplit, hok, hstays⟩
    rcases List.eq_nil_or_concat' after with rfl | ⟨after, last, rfl⟩
    · obtain ⟨rfl, hlast⟩ := List.append_inj' hsplit rfl
      exact Or.inl ⟨io, List.singleton_inj.mp hlast, hok⟩
    · rw [← List.cons_append, ← List.append_assoc] at hsplit
      obtain ⟨hsplit, hlast⟩ := List.append_inj' hsplit rfl
      rw [List.singleton_inj.mp hlast]
      exact Or.inr ⟨⟨before, io, after, hsplit, hok, fun h ↦
        hstays (List.mem_append_left _ h)⟩, fun h ↦ hstays (by simp [h])⟩
  · rintro (⟨io, rfl, hok⟩ | ⟨⟨before, io, after, rfl, hok, hstays⟩, hne⟩)
    · exact ⟨operations, io, [], rfl, hok, List.not_mem_nil⟩
    · refine ⟨before, io, after ++ [operation], by simp, hok, fun h ↦ ?_⟩
      rcases List.mem_append.mp h with h | h
      · exact hstays h
      · exact hne (List.mem_singleton.mp h).symm

/-- The owners are those that hold the correction. -/
theorem mem_owners_iff {s : Process Owner} (hstart : s.owners = ∅)
    (operations : List (Operation Owner)) (owner : Owner) :
    owner ∈ (run pageSize s operations).owners ↔
      ∃ symbols, Holds pageSize s operations owner symbols := by
  induction operations using List.reverseRecOn with
  | nil =>
      have hempty : owner ∉ (run pageSize s []).owners := by
        rw [run, Runs.run_nil, hstart]
        exact Finset.notMem_empty owner
      exact iff_of_false hempty fun ⟨_, before, _, after, hsplit, _⟩ ↦ by simp at hsplit
  | append_singleton operations operation ih =>
      simp only [holds_snoc, exists_or, run_snoc]
      cases operation with
      | send resolved allocated buffer =>
          have howners : (step pageSize (run pageSize s operations)
              (.send resolved allocated buffer)).owners = (run pageSize s operations).owners := by
            rw [step, send]
            split
            · rfl
            · split <;> rfl
          rw [howners, ih]
          simp
      | uninstall other =>
          rw [step, uninstall]
          cases other with
          | none =>
              rw [Option.elim_none, ih]
              simp
          | some other =>
              rw [Option.elim_some, Finset.mem_erase, ih]
              simp only [reduceCtorEq, false_and, exists_false, false_or, ne_eq,
                Operation.uninstall.injEq, Option.some.injEq, exists_and_right]
              exact ⟨fun ⟨hne, h⟩ ↦ ⟨h, fun heq ↦ hne heq.symm⟩,
                fun ⟨h, hne⟩ ↦ ⟨fun heq ↦ hne heq.symm, h⟩⟩
      | install other symbols io =>
          rw [step]
          rcases (@install_spec Owner _ pageSize other symbols io (run pageSize s operations)).2 with
            ⟨message, hfailed, howners, -⟩ | ⟨own, rfl, hok, howners, -⟩
          · rw [howners, ih]
            refine ⟨fun ⟨symbols, h⟩ ↦ Or.inr ⟨symbols, h, nofun⟩, ?_⟩
            rintro (⟨symbols', io', heq, hok⟩ | ⟨symbols', h, -⟩)
            · cases heq
              cases hok.symm.trans hfailed
            · exact ⟨symbols', h⟩
          · rw [howners, Finset.mem_insert, ih]
            constructor
            · rintro (rfl | ⟨symbols', h⟩)
              · exact Or.inl ⟨symbols, io, rfl, hok⟩
              · exact Or.inr ⟨symbols', h, nofun⟩
            · rintro (⟨symbols', io', heq, -⟩ | ⟨symbols', h, -⟩)
              · cases heq
                exact Or.inl rfl
              · exact Or.inr ⟨symbols', h⟩

/-- The correction is enabled while there are owners. -/
theorem enabled_iff {s : Process Owner} (hstart : s.owners = ∅) (hdisabled : s.enabled = false)
    (operations : List (Operation Owner)) :
    (run pageSize s operations).enabled = true ↔ (run pageSize s operations).owners ≠ ∅ := by
  induction operations using List.reverseRecOn with
  | nil => simp [run, hstart, hdisabled]
  | append_singleton operations operation ih =>
      rw [run_snoc]
      cases operation with
      | send resolved allocated buffer =>
          rw [step, send]
          split
          · exact ih
          · split <;> exact ih
      | uninstall owner =>
          rw [step, uninstall]
          dsimp only
          split_ifs with hempty
          · exact iff_of_false nofun fun hne ↦ hne hempty
          · refine iff_of_true (ih.mpr fun hnone ↦ hempty ?_) hempty
            cases owner with
            | none => exact hnone
            | some owner =>
                rw [Option.elim_some, hnone]
                exact Finset.eq_empty_of_forall_notMem fun _ h ↦ absurd (Finset.mem_of_mem_erase h)
                  (Finset.notMem_empty _)
      | install owner symbols io =>
          rw [step]
          rcases (@install_spec Owner _ pageSize owner symbols io (run pageSize s operations)).2 with
            ⟨_, -, howners, henabled⟩ | ⟨own, -, -, howners, henabled, -⟩
          · rw [howners, henabled]
            exact ih
          · rw [howners, henabled]
            refine iff_of_true ?_ (Finset.insert_ne_empty _ _)
            split_ifs with hempty
            · rfl
            · exact ih.mpr hempty

/-- A wrapper reads inside the buffer only, and sends a corrected copy only while it is enabled. -/
theorem wire_copy_inside (enabled allocated : Bool) (bytes : Bytes) :
    ∃ result, correctedWireCopy enabled allocated (some bytes) = some result ∧
      ∀ copy command, result = some (copy, command) →
        enabled = true ∧ ∃ payload, TakenFor bytes payload ∧ CorrectedAt bytes payload copy := by
  obtain ⟨whole, hwhole, hcorrected⟩ := corrected_wire_copy_cases bytes
  cases enabled with
  | false => exact ⟨none, rfl, nofun⟩
  | true =>
      cases allocated with
      | true => exact ⟨whole, hwhole, fun copy command h ↦ ⟨rfl, hcorrected copy command h⟩⟩
      | false =>
          refine ⟨none, ?_, nofun⟩
          unfold correctedWireCopy at hwhole ⊢
          dsimp only at hwhole ⊢
          split at hwhole
          · next hshort => rw [if_pos hshort]
          next hshort =>
          rw [if_neg hshort]
          cases hpayload : payloadOffset bytes with
          | none =>
              rw [hpayload] at hwhole
              cases hwhole
          | some found =>
              rw [hpayload] at hwhole
              cases found with
              | none => rfl
              | some offset =>
                  dsimp only at hwhole ⊢
                  cases htag : byteAt bytes (offset + 9) with
                  | none =>
                      rw [htag] at hwhole
                      cases hwhole
                  | some tag =>
                      dsimp only
                      rw [Bool.not_false, if_pos rfl, ite_self]

/-- What the wrappers do behind a run. -/
structure TagCorrected (pageSize : Int) (s : Process Owner) (operations : List (Operation Owner)) :
    Prop where
  /-- The correction is enabled exactly while some owner holds it. -/
  enabled : (run pageSize s operations).enabled = true ↔
    ∃ owner symbols, Holds pageSize s operations owner symbols
  /-- While an owner holds it, the instructions of the library are corrected, unless another install
  of the run may rewrite bytes of them. -/
  code (owner : Owner) (symbols : Symbols) :
    Holds pageSize s operations owner symbols →
    ∀ place patch, (place, patch) ∈ instructions symbols →
      (Rewrites operations).Apart place patch →
      wordAt (run pageSize s operations).code.memory place = patch.corrected
  /-- A message goes out as it is, or with its tag corrected while an owner holds the correction. -/
  sent (allocated : Bool) (buffer : Bytes) :
    ∃ sent, (send true allocated buffer (run pageSize s operations)).wire =
        (run pageSize s operations).wire ++ [(buffer, some sent)] ∧
      (sent = buffer ∨ (∃ payload, TakenFor buffer payload ∧ CorrectedAt buffer payload sent) ∧
        ∃ owner symbols, Holds pageSize s operations owner symbols)
  /-- While an owner holds it, the copy that is corrected goes out. -/
  corrected (buffer copy : Bytes) (command : UInt8) (owner : Owner) (symbols : Symbols) :
    Holds pageSize s operations owner symbols →
    correctedWireCopy true true (some buffer) = some (some (copy, command)) →
    (send true true buffer (run pageSize s operations)).wire =
      (run pageSize s operations).wire ++ [(buffer, some copy)]

/-- In every run from a process in which nobody has installed, the wire tag is corrected while an
owner holds the correction, together with the instructions that have to agree with it, and at no
other time. -/
theorem tag_corrected_while_owned (s : Process Owner) (hstart : s.owners = ∅)
    (hdisabled : s.enabled = false) (operations : List (Operation Owner)) :
    TagCorrected pageSize s operations := by
  have henabled : (run pageSize s operations).enabled = true ↔
      ∃ owner symbols, Holds pageSize s operations owner symbols := by
    rw [enabled_iff hstart hdisabled, ← Finset.nonempty_iff_ne_empty]
    exact exists_congr fun owner ↦ mem_owners_iff hstart operations owner
  constructor
  · exact henabled
  · intro owner symbols ⟨before, io, after, hsplit, hok, _⟩ place patch hmem hapart
    rcases (@install_spec Owner _ pageSize (some owner) symbols io (run pageSize s before)).2 with
      ⟨message, hfailed, -⟩ | ⟨own, -, -, -, -, hvalidated, hcorrected⟩
    · cases hok.symm.trans hfailed
    have hinstall : Operation.install (some owner) symbols io ∈ operations := by
      rw [hsplit]
      exact List.mem_append_right _ List.mem_cons_self
    have hthen := hcorrected place patch hmem fun other otherPatch otherIo hother ↦
      hapart other otherPatch otherIo ⟨_, hinstall, hother⟩
    have hsplit' : operations = before ++ [.install (some owner) symbols io] ++ after := by
      rw [hsplit, List.append_assoc]
      rfl
    refine run_corrected s hsplit' hapart ?_
    rw [run_snoc]
    exact hthen
  · intro allocated buffer
    obtain ⟨result, hresult, hcorrected⟩ :=
      wire_copy_inside (run pageSize s operations).enabled allocated buffer
    cases result with
    | none =>
        refine ⟨buffer, ?_, Or.inl rfl⟩
        rw [send, hresult]
        rfl
    | some result =>
        obtain ⟨copy, command⟩ := result
        obtain ⟨hheld, hpayload⟩ := hcorrected copy command rfl
        refine ⟨copy, ?_, Or.inr ⟨hpayload, henabled.mp hheld⟩⟩
        rw [send, hresult]
        rfl
  · intro buffer copy command owner symbols hholds hcopy
    rw [send, henabled.mpr ⟨owner, symbols, hholds⟩, hcopy]
    rfl

end Operations

/-- A library of the validated build. -/
def validatedLibrary : QByteArray where
  bytes :=
    [0x7f, 0x45, 0x4c, 0x46, 2, 1] ++ List.replicate 26 0 ++ [64, 0, 0, 0, 0, 0, 0, 0] ++
      List.replicate 14 0 ++ [56, 0, 1, 0] ++ List.replicate 6 0 ++
    [4, 0, 0, 0, 0, 0, 0, 0, 120, 0, 0, 0, 0, 0, 0, 0] ++ List.replicate 16 0 ++
      [36, 0, 0, 0, 0, 0, 0, 0] ++ List.replicate 16 0 ++
    [4, 0, 0, 0, 20, 0, 0, 0, 3, 0, 0, 0, 0x47, 0x4e, 0x55, 0] ++
      [0xe7, 0xf1, 0xde, 0xc8, 0xba, 0x82, 0x0d, 0x78, 0xcb, 0x75, 0x4b, 0x60, 0x3d, 0xdd, 0x94,
        0x14, 0x6f, 0x7d, 0xde, 0xc2]
  length_lt := by decide +kernel

/-- Its symbols. -/
def librarySymbols : Symbols where
  sendCommand := some 0x1000
  sendSwathCommand := some 0x2000
  createPassword := some 0x3000
  getChanOffset := some 0x4000

/-- Its instructions, before any install. -/
def libraryMemory : Memory :=
  let sent := storeWord (storeWord (fun _ ↦ 0) 0x1008 kSendCommandOriginal) 0x22d8
    kSendSwathOriginal
  (instructions librarySymbols).foldl
    (fun memory instruction ↦ storeWord memory instruction.1 instruction.2.original) sent

/-- A process that has loaded it. -/
def loadedProcess : Process Nat where
  code := { memory := libraryMemory, protection := fun _ ↦ .readExecute }

/-- The acknowledgement of command 3 with the tag of the library. -/
def acknowledgement3 : Bytes := [0x00, 0x19, 0, 0x58, 0, 0, 0, 0, 3, 0x49]

/-- The acknowledgement goes out with its tag corrected after an install. -/
theorem tag_corrected_while_owned_acknowledgement :
    let operations := [.install (some 0) librarySymbols { file := some (some validatedLibrary) }]
    (send true true acknowledgement3 (run 4096 loadedProcess operations)).wire =
      (run 4096 loadedProcess operations).wire ++
        [(acknowledgement3, some [0x00, 0x19, 0, 0x58, 0, 0, 0, 0, 3, 0x47])] :=
  (tag_corrected_while_owned loadedProcess rfl rfl _).corrected acknowledgement3 _ 3 0
    librarySymbols ⟨[], _, [], rfl, by decide +kernel, List.not_mem_nil⟩ (by decide)

end PrintFlow.NocaiArmCommandTag
