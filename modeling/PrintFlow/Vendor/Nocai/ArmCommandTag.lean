import Mathlib.Data.List.Basic
import PrintFlow.Core.Qt

/-!
# The wire tag of ARM commands

On ARM the program corrects one byte of the commands that the vendor library sends: the tag at
offset 9 of the payload. `correctedWireCopy` finds the payload in a complete IPv4 packet, in an
Ethernet frame that carries one, or in a bare acknowledgement. It tells the three apart by the first
bytes of the buffer, and `wire_copy_exact_iff` says which buffers it takes for another kind.
-/

namespace PrintFlow.NocaiArmCommandTag

/-- A read of a byte; `none` is a read past the end of the buffer. -/
def byteAt (bytes : Bytes) (index : Nat) : Option UInt8 := bytes[index]?

/-- `first && second`, which does not evaluate `second` when `first` is false. -/
def andThen (first second : Option Bool) : Option Bool :=
  match first with
  | none => none
  | some false => some false
  | some true => second

/-- `bytes[index] == value`. -/
def isByte (bytes : Bytes) (index : Nat) (value : UInt8) : Option Bool :=
  (byteAt bytes index).map (· == value)

/-- `(bytes[index] >> 4) == 4`. -/
def isVersion4 (bytes : Bytes) (index : Nat) : Option Bool :=
  (byteAt bytes index).map fun byte : UInt8 ↦ byte >>> 4 == 4

/-- `(bytes[index] & 0x0f) * 4`. -/
def headerSize (byte : UInt8) : Nat := (byte &&& 0x0f).toNat * 4

/-- The payload of the packet that begins at an index: after its header, if the header is whole, ten
bytes follow it and the protocol is 233. -/
def packetPayload (bytes : Bytes) (start : Nat) : Option (Option Nat) :=
  match byteAt bytes start with
  | none => none
  | some byte =>
    let ipHeaderSize := headerSize byte
    let whole := decide (20 ≤ ipHeaderSize) && decide (start + ipHeaderSize + 10 ≤ bytes.length)
    match andThen (some whole) (isByte bytes (start + 9) 233) with
    | none => none
    | some found => some (if found then some (start + ipHeaderSize) else none)

/-- The offset of the payload, or none: the outer option says that every read was in the buffer. -/
def payloadOffset (bytes : Bytes) : Option (Option Nat) :=
  match andThen (some (decide (30 ≤ bytes.length))) (isVersion4 bytes 0) with
  | none => none
  | some true => packetPayload bytes 0
  | some false =>
    match andThen (andThen (andThen (some (decide (44 ≤ bytes.length))) (isByte bytes 12 0x08))
      (isByte bytes 13 0x00)) (isVersion4 bytes 14) with
    | none => none
    | some true => packetPayload bytes 14
    | some false =>
      match andThen (andThen (isByte bytes 0 0x00) (isByte bytes 1 0x19)) (isByte bytes 3 0x58) with
      | none => none
      | some acknowledgement => some (if acknowledgement then some 0 else none)

/-- `correctedWireCopy`: the corrected copy and the command. The outer option says that every access
was in the buffer. -/
def correctedWireCopy (enabled allocated : Bool) (buffer : Option Bytes) :
    Option (Option (Bytes × UInt8)) :=
  match buffer with
  | none => some none
  | some bytes =>
    if !enabled || bytes.length < 10 then some none
    else
      match payloadOffset bytes with
      | none => none
      | some none => some none
      | some (some offset) =>
        match byteAt bytes (offset + 9) with
        | none => none
        | some tag =>
          if tag != 0x49 then some none
          else if !allocated then some none
          else
            match byteAt bytes (offset + 8) with
            | none => none
            | some command => some (some (bytes.set (offset + 9) 0x47, command))

/-! ## The kinds of buffers -/

/-- The upper half of a byte is the version of IPv4. -/
def Version4 (bytes : Bytes) (index : Nat) : Prop := bytes.getD index 0 >>> 4 = 4

/-- From an index on, an IPv4 packet of protocol 233 with at least ten bytes of payload at this
offset. -/
structure Packet (bytes : Bytes) (start payload : Nat) : Prop where
  version : Version4 bytes start
  header : 20 ≤ headerSize (bytes.getD start 0)
  payload_eq : payload = start + headerSize (bytes.getD start 0)
  whole : payload + 10 ≤ bytes.length
  protocol : bytes.getD (start + 9) 0 = 233

/-- The ethertype of an Ethernet frame is that of IPv4. -/
structure EtherIpv4 (bytes : Bytes) : Prop where
  high : bytes.getD 12 0 = 0x08
  low : bytes.getD 13 0 = 0x00

/-- A bare acknowledgement. -/
structure Acknowledgement (bytes : Bytes) : Prop where
  first : bytes.getD 0 0 = 0x00
  second : bytes.getD 1 0 = 0x19
  fourth : bytes.getD 3 0 = 0x58
  whole : 10 ≤ bytes.length

/-- A copy that differs in the tag at a payload offset, changed from 0x49 to 0x47. -/
structure CorrectedAt (bytes : Bytes) (payload : Nat) (copy : Bytes) : Prop where
  inside : payload + 9 < bytes.length
  tag : bytes.getD (payload + 9) 0 = 0x49
  copy_eq : copy = bytes.set (payload + 9) 0x47

instance instDecidableVersion4 (bytes : Bytes) (index : Nat) : Decidable (Version4 bytes index) :=
  inferInstanceAs (Decidable (_ = _))

/-! ## Reads -/

section Reads

variable {bytes : Bytes} {index start : Nat}

theorem byte_at_eq (h : index < bytes.length) : byteAt bytes index = some (bytes.getD index 0) := by
  simp [byteAt, List.getD, List.getElem?_eq_getElem h]

theorem is_byte_eq (h : index < bytes.length) (value : UInt8) :
    isByte bytes index value = some (bytes.getD index 0 == value) := by
  rw [isByte, byte_at_eq h, Option.map_some]

theorem is_version4_eq (h : index < bytes.length) :
    isVersion4 bytes index = some (decide (Version4 bytes index)) := by
  rw [isVersion4, byte_at_eq h, Option.map_some]
  rfl

@[simp] theorem and_then_some (first second : Bool) :
    andThen (some first) (some second) = some (first && second) := by
  cases first <;> rfl

/-- After a length check that fails the other test is not evaluated. -/
theorem and_then_checked {checked : Prop} [Decidable checked] {test : Option Bool} {value : Bool}
    (h : checked → test = some value) :
    andThen (some (decide checked)) test = some (decide checked && value) := by
  by_cases hchecked : checked
  · rw [h hchecked, and_then_some]
  · rw [decide_eq_false hchecked]
    rfl

end Reads

/-! ## Where the payload is -/

section PayloadOffset

variable {bytes : Bytes} {start payload : Nat}

/-- A packet has one payload. -/
theorem Packet.unique {payload' : Nat} (h : Packet bytes start payload)
    (h' : Packet bytes start payload') : payload = payload' := by
  rw [h.payload_eq, h'.payload_eq]

/-- A packet with its payload is at least thirty bytes long. -/
theorem Packet.length_le (h : Packet bytes start payload) : start + 30 ≤ bytes.length := by
  have hheader := h.header
  have hpayload := h.payload_eq
  have hwhole := h.whole
  omega

/-- What `packetPayload` finds is the payload of the packet. -/
theorem packet_payload_eq (hlength : start + 30 ≤ bytes.length) (hversion : Version4 bytes start) :
    ∃ found, packetPayload bytes start = some found ∧
      ∀ payload, found = some payload ↔ Packet bytes start payload := by
  have hprotocol := is_byte_eq (show start + 9 < bytes.length by omega) 233
  refine ⟨if decide (20 ≤ headerSize (bytes.getD start 0)) &&
      decide (start + headerSize (bytes.getD start 0) + 10 ≤ bytes.length) &&
      bytes.getD (start + 9) 0 == 233 then some (start + headerSize (bytes.getD start 0))
    else none, ?_, ?_⟩
  · rw [packetPayload, byte_at_eq (by omega)]
    simp only [hprotocol, and_then_some]
  · intro payload
    constructor
    · intro hfound
      split at hfound
      case isTrue htests =>
        simp only [Bool.and_eq_true, decide_eq_true_eq, beq_iff_eq] at htests
        obtain ⟨⟨hheader, hwhole⟩, hprotocol⟩ := htests
        cases hfound
        exact ⟨hversion, hheader, rfl, hwhole, hprotocol⟩
      case isFalse => exact absurd hfound (by simp)
    · intro hpacket
      have hwhole := hpacket.whole
      rw [hpacket.payload_eq] at hwhole
      rw [if_pos, hpacket.payload_eq]
      simp only [Bool.and_eq_true, decide_eq_true_eq, beq_iff_eq]
      exact ⟨⟨hpacket.header, hwhole⟩, hpacket.protocol⟩

/-- A buffer that begins like an IPv4 packet is read as one. -/
theorem payload_offset_packet (hlength : 30 ≤ bytes.length) (hversion : Version4 bytes 0) :
    payloadOffset bytes = packetPayload bytes 0 := by
  rw [payloadOffset, is_version4_eq (by omega), decide_eq_true hversion, decide_eq_true hlength]
  rfl

/-- The tests that tell an Ethernet frame, as the code evaluates them. -/
theorem frame_tests_eq :
    andThen (andThen (andThen (some (decide (44 ≤ bytes.length))) (isByte bytes 12 0x08))
      (isByte bytes 13 0x00)) (isVersion4 bytes 14) =
    some (decide (44 ≤ bytes.length) && (bytes.getD 12 0 == 0x08) && (bytes.getD 13 0 == 0x00) &&
      decide (Version4 bytes 14)) := by
  by_cases hlength : 44 ≤ bytes.length
  · rw [is_byte_eq (by omega), is_byte_eq (by omega), is_version4_eq (by omega)]
    simp only [and_then_some]
  · -- a short buffer is not read at all
    rw [decide_eq_false hlength]
    rfl

/-- The first test as the code evaluates it. -/
theorem packet_tests_eq :
    andThen (some (decide (30 ≤ bytes.length))) (isVersion4 bytes 0) =
      some (decide (30 ≤ bytes.length) && decide (Version4 bytes 0)) :=
  and_then_checked fun hlength ↦ is_version4_eq (by omega)

/-- A frame that does not begin like an IPv4 packet is read as the packet that it carries. -/
theorem payload_offset_frame (hlength : 44 ≤ bytes.length) (hnot : ¬ Version4 bytes 0)
    (hether : EtherIpv4 bytes) (hversion : Version4 bytes 14) :
    payloadOffset bytes = packetPayload bytes 14 := by
  rw [payloadOffset, packet_tests_eq, decide_eq_false hnot, Bool.and_false]
  simp only [frame_tests_eq]
  rw [hether.high, hether.low, decide_eq_true hlength, decide_eq_true hversion]
  rfl

/-- Every other buffer is an acknowledgement or nothing. -/
theorem payload_offset_other (hlength : 10 ≤ bytes.length)
    (hpacket : ¬ (30 ≤ bytes.length ∧ Version4 bytes 0))
    (hframe : ¬ (44 ≤ bytes.length ∧ EtherIpv4 bytes ∧ Version4 bytes 14)) :
    ∃ found, payloadOffset bytes = some found ∧
      ∀ payload, found = some payload ↔ payload = 0 ∧ Acknowledgement bytes := by
  have hpacket_tests : (decide (30 ≤ bytes.length) && decide (Version4 bytes 0)) = false := by
    rw [← Bool.decide_and]
    exact decide_eq_false hpacket
  have hframe_tests : (decide (44 ≤ bytes.length) && (bytes.getD 12 0 == 0x08) &&
      (bytes.getD 13 0 == 0x00) && decide (Version4 bytes 14)) = false := by
    rw [Bool.eq_false_iff]
    intro htests
    simp only [Bool.and_eq_true, decide_eq_true_eq, beq_iff_eq] at htests
    obtain ⟨⟨⟨hlong, hhigh⟩, hlow⟩, hversion⟩ := htests
    exact hframe ⟨hlong, ⟨hhigh, hlow⟩, hversion⟩
  refine ⟨if bytes.getD 0 0 == 0x00 && bytes.getD 1 0 == 0x19 && bytes.getD 3 0 == 0x58 then some 0
    else none, ?_, ?_⟩
  · rw [payloadOffset, packet_tests_eq, hpacket_tests]
    simp only [frame_tests_eq, hframe_tests]
    rw [is_byte_eq (by omega), is_byte_eq (by omega), is_byte_eq (by omega)]
    simp only [and_then_some]
  · intro payload
    constructor
    · intro hfound
      split at hfound
      case isTrue htests =>
        simp only [Bool.and_eq_true, beq_iff_eq] at htests
        cases hfound
        exact ⟨rfl, htests.1.1, htests.1.2, htests.2, hlength⟩
      case isFalse => exact absurd hfound (by simp)
    · rintro ⟨rfl, hack⟩
      rw [if_pos]
      simp only [Bool.and_eq_true, beq_iff_eq]
      exact ⟨⟨hack.first, hack.second⟩, hack.fourth⟩

end PayloadOffset

/-! ## The corrected copy -/

section Copy

variable {bytes : Bytes}

/-- The copy, once the payload is known. -/
theorem corrected_wire_copy_eq {found : Option Nat} (hlength : 10 ≤ bytes.length)
    (hoffset : payloadOffset bytes = some found)
    (hinside : ∀ payload, found = some payload → payload + 10 ≤ bytes.length) :
    correctedWireCopy true true (some bytes) = some (found.bind fun payload ↦
      if bytes.getD (payload + 9) 0 = 0x49 then
        some (bytes.set (payload + 9) 0x47, bytes.getD (payload + 8) 0)
      else none) := by
  have hlong : ¬ bytes.length < 10 := by omega
  cases found with
  | none => simp [correctedWireCopy, hlong, hoffset]
  | some payload =>
      have hpayload := hinside payload rfl
      have htag : byteAt bytes (payload + 9) = some (bytes.getD (payload + 9) 0) :=
        byte_at_eq (by omega)
      have hcommand : byteAt bytes (payload + 8) = some (bytes.getD (payload + 8) 0) :=
        byte_at_eq (by omega)
      simp only [correctedWireCopy, hlong, hoffset, htag, hcommand, Option.bind_some]
      by_cases h : bytes.getD (payload + 9) 0 = 0x49
      · rw [if_pos h, h]
        rfl
      · have hne : (bytes.getD (payload + 9) 0 != 0x49) = true := bne_iff_ne.mpr h
        rw [if_neg h, hne]
        rfl

/-- A buffer of fewer than ten bytes is left alone. -/
theorem corrected_wire_copy_short (hlength : bytes.length < 10) :
    correctedWireCopy true true (some bytes) = some none := by
  simp [correctedWireCopy, hlength]

/-- A corrected copy is as long as the buffer. -/
theorem CorrectedAt.length_eq {payload : Nat} {copy : Bytes} (h : CorrectedAt bytes payload copy) :
    copy.length = bytes.length := by
  rw [h.copy_eq, List.length_set]

/-- A corrected copy differs from the buffer in the tag and nowhere else. -/
theorem CorrectedAt.differs_iff {payload : Nat} {copy : Bytes} (h : CorrectedAt bytes payload copy)
    (index : Nat) : copy[index]? ≠ bytes[index]? ↔ index = payload + 9 := by
  have htag : bytes[payload + 9]? = some 0x49 := by
    have hread := byte_at_eq h.inside
    rw [h.tag] at hread
    exact hread
  rw [h.copy_eq, List.getElem?_set]
  constructor
  · intro hdiffers
    by_contra hindex
    rw [if_neg (fun heq ↦ hindex heq.symm)] at hdiffers
    exact hdiffers rfl
  · rintro rfl
    rw [if_pos rfl, if_pos h.inside, htag]
    simp

/-- A copy is corrected at one payload only. -/
theorem CorrectedAt.unique {payload payload' : Nat} {copy : Bytes}
    (h : CorrectedAt bytes payload copy) (h' : CorrectedAt bytes payload' copy) :
    payload = payload' := by
  have hdiffers := (h.differs_iff (payload + 9)).mpr rfl
  have heq := (h'.differs_iff (payload + 9)).mp hdiffers
  omega

/-- The kind that the code takes a buffer for, with the offset of the payload. -/
inductive TakenFor (bytes : Bytes) : Nat → Prop
  | packet {payload : Nat} (kind : Packet bytes 0 payload) : TakenFor bytes payload
  | frame {payload : Nat} (notPacket : ¬ Version4 bytes 0) (ether : EtherIpv4 bytes)
      (kind : Packet bytes 14 payload) : TakenFor bytes payload
  | acknowledgement (notPacket : ¬ (30 ≤ bytes.length ∧ Version4 bytes 0))
      (notFrame : ¬ (44 ≤ bytes.length ∧ EtherIpv4 bytes ∧ Version4 bytes 14))
      (kind : Acknowledgement bytes) : TakenFor bytes 0

/-- The wire copy of a buffer is exact: every access is in the buffer, a copy corrects the tag at the
payload of the kind that the code takes it for, and every packet, frame and acknowledgement with the
tag gets the copy that is corrected at its payload. -/
structure WireCopyExact (bytes : Bytes) : Prop where
  inside : ∃ result, correctedWireCopy true true (some bytes) = some result
  copy : ∀ copy command, correctedWireCopy true true (some bytes) = some (some (copy, command)) →
    ∃ payload, TakenFor bytes payload ∧ CorrectedAt bytes payload copy
  packet : ∀ payload, Packet bytes 0 payload → bytes.getD (payload + 9) 0 = 0x49 →
    ∃ copy command, correctedWireCopy true true (some bytes) = some (some (copy, command)) ∧
      CorrectedAt bytes payload copy
  frame : ∀ payload, EtherIpv4 bytes → Packet bytes 14 payload →
    bytes.getD (payload + 9) 0 = 0x49 →
    ∃ copy command, correctedWireCopy true true (some bytes) = some (some (copy, command)) ∧
      CorrectedAt bytes payload copy
  acknowledgement : Acknowledgement bytes → bytes.getD 9 0 = 0x49 →
    ∃ copy command, correctedWireCopy true true (some bytes) = some (some (copy, command)) ∧
      CorrectedAt bytes 0 copy

/-- A payload that the code finds has ten bytes in the buffer. -/
theorem TakenFor.inside {payload : Nat} (h : TakenFor bytes payload) :
    payload + 10 ≤ bytes.length := by
  cases h with
  | packet kind => exact kind.whole
  | frame _ _ kind => exact kind.whole
  | acknowledgement _ _ kind =>
      have hwhole := kind.whole
      omega

/-- The code finds the payload of the kind that it takes the buffer for. -/
theorem payload_found (hlength : 10 ≤ bytes.length) :
    ∃ found, payloadOffset bytes = some found ∧
      ∀ payload, found = some payload ↔ TakenFor bytes payload := by
  by_cases hpacket : 30 ≤ bytes.length ∧ Version4 bytes 0
  · obtain ⟨found, hfound, hiff⟩ := packet_payload_eq (show 0 + 30 ≤ bytes.length by omega) hpacket.2
    refine ⟨found, (payload_offset_packet hpacket.1 hpacket.2).trans hfound, fun payload ↦
      (hiff payload).trans ⟨.packet, fun h ↦ ?_⟩⟩
    cases h with
    | packet kind => exact kind
    | frame notPacket => exact absurd hpacket.2 notPacket
    | acknowledgement notPacket => exact absurd hpacket notPacket
  · by_cases hframe : 44 ≤ bytes.length ∧ EtherIpv4 bytes ∧ Version4 bytes 14
    · have hnot : ¬ Version4 bytes 0 := fun hversion ↦ hpacket ⟨by omega, hversion⟩
      obtain ⟨found, hfound, hiff⟩ := packet_payload_eq (show 14 + 30 ≤ bytes.length by omega) hframe.2.2
      refine ⟨found, (payload_offset_frame hframe.1 hnot hframe.2.1 hframe.2.2).trans hfound,
        fun payload ↦ (hiff payload).trans ⟨.frame hnot hframe.2.1, fun h ↦ ?_⟩⟩
      cases h with
      | packet kind => exact absurd kind.version hnot
      | frame _ _ kind => exact kind
      | acknowledgement _ notFrame => exact absurd hframe notFrame
    · obtain ⟨found, hfound, hiff⟩ := payload_offset_other hlength hpacket hframe
      refine ⟨found, hfound, fun payload ↦ (hiff payload).trans ⟨?_, fun h ↦ ?_⟩⟩
      · rintro ⟨rfl, kind⟩
        exact .acknowledgement hpacket hframe kind
      · cases h with
        | packet kind => exact absurd ⟨by simpa using kind.length_le, kind.version⟩ hpacket
        | frame _ ether kind => exact absurd ⟨kind.length_le, ether, kind.version⟩ hframe
        | acknowledgement _ _ kind => exact ⟨rfl, kind⟩

/-- A buffer gets the copy that is corrected at a payload exactly when the code finds this payload,
with the tag. -/
theorem corrected_at_iff (hlength : 10 ≤ bytes.length) (payload : Nat) :
    (∃ copy command, correctedWireCopy true true (some bytes) = some (some (copy, command)) ∧
      CorrectedAt bytes payload copy) ↔
    TakenFor bytes payload ∧ bytes.getD (payload + 9) 0 = 0x49 := by
  obtain ⟨found, hfound, hiff⟩ := payload_found hlength
  have hinside : ∀ payload, found = some payload → payload + 10 ≤ bytes.length :=
    fun payload h ↦ ((hiff payload).mp h).inside
  rw [corrected_wire_copy_eq hlength hfound hinside]
  constructor
  · rintro ⟨copy, command, hcopy, hcorrected⟩
    refine ⟨?_, hcorrected.tag⟩
    cases found with
    | none => exact absurd hcopy (by simp)
    | some offset =>
        rw [Option.bind_some] at hcopy
        split at hcopy
        case isTrue htag =>
          have hat : CorrectedAt bytes offset copy :=
            ⟨by have hwhole := hinside offset rfl; omega, htag, by
              simp only [Option.some.injEq, Prod.mk.injEq] at hcopy
              exact hcopy.1.symm⟩
          rw [hcorrected.unique hat]
          exact (hiff offset).mp rfl
        case isFalse => exact absurd hcopy (by simp)
  · rintro ⟨htaken, htag⟩
    have hwhole := htaken.inside
    rw [(hiff payload).mpr htaken, Option.bind_some, if_pos htag]
    exact ⟨_, _, rfl, by omega, htag, rfl⟩

/-- Every access of the code is in the buffer, and a copy corrects the tag of the payload that it
found. -/
theorem corrected_wire_copy_cases (bytes : Bytes) :
    ∃ result, correctedWireCopy true true (some bytes) = some result ∧
      ∀ copy command, result = some (copy, command) →
      ∃ payload, TakenFor bytes payload ∧ CorrectedAt bytes payload copy := by
  by_cases hlength : 10 ≤ bytes.length
  · obtain ⟨found, hfound, hiff⟩ := payload_found hlength
    have hinside : ∀ payload, found = some payload → payload + 10 ≤ bytes.length :=
      fun payload h ↦ ((hiff payload).mp h).inside
    refine ⟨_, corrected_wire_copy_eq hlength hfound hinside, fun copy command hcopy ↦ ?_⟩
    cases found with
    | none => exact absurd hcopy (by simp)
    | some offset =>
        have hwhole := hinside offset rfl
        rw [Option.bind_some] at hcopy
        split at hcopy
        case isTrue htag =>
          simp only [Option.some.injEq, Prod.mk.injEq] at hcopy
          exact ⟨offset, (hiff offset).mp rfl, by omega, htag, hcopy.1.symm⟩
        case isFalse => exact absurd hcopy (by simp)
  · exact ⟨none, corrected_wire_copy_short (by omega), by simp⟩

/-- The payload of a packet lies behind a header of whole words. -/
theorem Packet.payload_mod {start payload : Nat} (h : Packet bytes start payload) :
    payload % 4 = start % 4 ∧ start + 20 ≤ payload := by
  have hheader := h.header
  rw [h.payload_eq]
  rw [headerSize] at hheader ⊢
  omega

/-- An acknowledgement does not begin like an IPv4 packet. -/
theorem Acknowledgement.not_version4 (h : Acknowledgement bytes) : ¬ Version4 bytes 0 := by
  rw [Version4, h.first]
  decide

/-- A frame with the tag gets its copy unless its destination address begins like an IPv4 packet. -/
theorem frame_taken_iff {payload : Nat} (hether : EtherIpv4 bytes)
    (hpacket : Packet bytes 14 payload) : TakenFor bytes payload ↔ ¬ Version4 bytes 0 := by
  have hpayload := hpacket.payload_mod
  constructor
  · intro htaken
    cases htaken with
    | packet kind =>
        -- a header of whole words from offset 14 never ends where one from offset 0 does
        have hfirst := kind.payload_mod
        omega
    | frame notPacket => exact notPacket
    | acknowledgement => omega
  · intro hnot
    exact .frame hnot hether hpacket

/-- An acknowledgement gets its copy unless it goes on like an Ethernet frame. -/
theorem acknowledgement_taken_iff (hack : Acknowledgement bytes) :
    TakenFor bytes 0 ↔ ¬ (44 ≤ bytes.length ∧ EtherIpv4 bytes ∧ Version4 bytes 14) := by
  constructor
  · intro htaken
    cases htaken with
    | packet kind =>
        have hpayload := kind.payload_mod
        omega
    | frame _ _ kind =>
        have hpayload := kind.payload_mod
        omega
    | acknowledgement _ notFrame => exact notFrame
  · intro hnot
    exact .acknowledgement (fun h ↦ hack.not_version4 h.2) hnot hack

/-- The wire copy is exact but for two kinds of buffers: an Ethernet frame whose destination address
begins like an IPv4 packet, and an acknowledgement that goes on like an Ethernet frame. -/
theorem wire_copy_exact_iff (bytes : Bytes) : WireCopyExact bytes ↔
    ¬ (EtherIpv4 bytes ∧ Version4 bytes 0 ∧
      ∃ payload, Packet bytes 14 payload ∧ bytes.getD (payload + 9) 0 = 0x49) ∧
    ¬ (Acknowledgement bytes ∧ bytes.getD 9 0 = 0x49 ∧ 44 ≤ bytes.length ∧ EtherIpv4 bytes ∧
      Version4 bytes 14) := by
  obtain ⟨result, hresult, hcopy⟩ := corrected_wire_copy_cases bytes
  -- A buffer goes wrong in two ways: the packet of a frame is taken for a packet of its own, or an
  -- acknowledgement for a frame.
  constructor
  · intro hexact
    constructor
    · rintro ⟨hether, hversion, payload, hpacket, htag⟩
      have hlength := hpacket.length_le
      have hcorrected := hexact.frame payload hether hpacket htag
      have htaken := (corrected_at_iff (by omega) payload).mp hcorrected
      exact (frame_taken_iff hether hpacket).mp htaken.1 hversion
    · rintro ⟨hack, htag, hframe⟩
      have hcorrected := hexact.acknowledgement hack htag
      have htaken := (corrected_at_iff hack.whole 0).mp hcorrected
      exact (acknowledgement_taken_iff hack).mp htaken.1 hframe
  · rintro ⟨hframe, hacknowledgement⟩
    refine ⟨⟨result, hresult⟩, ?_, ?_, ?_, ?_⟩
    · intro copy command hfound
      rw [hresult] at hfound
      exact hcopy copy command (Option.some.inj hfound)
    · intro payload hpacket htag
      have hlength := hpacket.length_le
      exact (corrected_at_iff (by omega) payload).mpr ⟨.packet hpacket, htag⟩
    · intro payload hether hpacket htag
      have hlength := hpacket.length_le
      have hnot : ¬ Version4 bytes 0 := fun hversion ↦
        hframe ⟨hether, hversion, payload, hpacket, htag⟩
      exact (corrected_at_iff (by omega) payload).mpr
        ⟨(frame_taken_iff hether hpacket).mpr hnot, htag⟩
    · intro hack htag
      have hnot : ¬ (44 ≤ bytes.length ∧ EtherIpv4 bytes ∧ Version4 bytes 14) := fun h ↦
        hacknowledgement ⟨hack, htag, h⟩
      exact (corrected_at_iff hack.whole 0).mpr ⟨(acknowledgement_taken_iff hack).mpr hnot, htag⟩

/-- A frame to the address 48:00:00:00:00:01, with the tag behind the header of its packet. -/
def frameToAddress48 : Bytes :=
  [0x48, 0, 0, 0, 0, 1, 0, 0, 0, 0, 0, 2, 0x08, 0x00,
    0x45, 0, 0, 30, 0, 0, 0, 0, 64, 233, 0, 0, 10, 0, 0, 1, 10, 0, 0, 2,
    0, 0, 0, 0, 0, 0, 0, 0, 3, 0x49]

/-- The tag of this frame is not corrected. -/
theorem frame_to_address_48_not_corrected : ¬ ∀ bytes, WireCopyExact bytes := by
  intro hexact
  have hpacket : Packet frameToAddress48 14 34 := ⟨rfl, by decide, rfl, by decide, rfl⟩
  obtain ⟨copy, command, hcopy, -⟩ :=
    (hexact frameToAddress48).frame 34 ⟨rfl, rfl⟩ hpacket rfl
  have hnone : correctedWireCopy true true (some frameToAddress48) = some none := by decide
  rw [hnone] at hcopy
  exact absurd hcopy (by simp)

end Copy

end PrintFlow.NocaiArmCommandTag
