import Mathlib.Data.List.Basic
import Mathlib.Data.Nat.Digits.Defs
import Mathlib.Tactic.Ring

/-!
# Big-endian data streams

A stream writer appends fixed-width big-endian fields to a byte string, and a stream reader
consumes them from the front. Every reader here comes with one equivalence
`get bytes = some (value, rest) ↔ bytes = put value ++ rest`: read from right to left it is
the round trip, and from left to right it says that the encoding of a value is the only byte
string that decodes to it.
-/

namespace DataStream

/-- A byte string. -/
abbrev Bytes := List UInt8

/-- A stream reader: it consumes bytes from the front, or fails when they run out. -/
abbrev Get (α : Type) := StateT Bytes Option α

/-! ## Fixed-width naturals -/

/-- The low `8 * width` bits of `value`, most significant byte first. -/
def putNat : Nat → Nat → Bytes
  | 0, _ => []
  | width + 1, value => UInt8.ofNat (value / 256 ^ width) :: putNat width value

/-- The number a big-endian byte string spells. -/
def natOfBytes : Bytes → Nat
  | [] => 0
  | byte :: rest => byte.toNat * 256 ^ rest.length + natOfBytes rest

/-- Read `width` bytes from the front as one number. -/
def getNat (width : Nat) : Get Nat := fun bytes ↦
  if width ≤ bytes.length then some (natOfBytes (bytes.take width), bytes.drop width) else none

/-- A field of `width` bytes is `width` bytes long. -/
@[simp] theorem put_nat_length (width value : Nat) : (putNat width value).length = width := by
  induction width with
  | zero => rfl
  | succ width ih => simp [putNat, ih]

/-- A byte string of length `n` spells a number below `256 ^ n`. -/
theorem nat_of_bytes_lt (bytes : Bytes) : natOfBytes bytes < 256 ^ bytes.length := by
  induction bytes with
  | nil => simp [natOfBytes]
  | cons byte rest ih =>
      have hbyte : byte.toNat < 256 := byte.toNat_lt
      have hstep : byte.toNat * 256 ^ rest.length + 256 ^ rest.length ≤
          256 * 256 ^ rest.length := by
        rw [← Nat.succ_mul]
        exact Nat.mul_le_mul_right _ hbyte
      simp only [natOfBytes, List.length_cons, Nat.pow_succ]
      omega

/-- Writing a number keeps it modulo the width of the field. -/
theorem nat_of_bytes_put (width value : Nat) :
    natOfBytes (putNat width value) = value % 256 ^ width := by
  induction width with
  | zero => simp [putNat, natOfBytes, Nat.mod_one]
  | succ width ih =>
      have hbyte : (UInt8.ofNat (value / 256 ^ width)).toNat = value / 256 ^ width % 256 := by
        simp
      rw [putNat, natOfBytes, put_nat_length, ih, hbyte, Nat.pow_succ, Nat.mod_mul]
      ring

/-- High parts that a field does not keep do not change its bytes. -/
theorem put_nat_add (width value high : Nat) :
    putNat width (high * 256 ^ width + value) = putNat width value := by
  induction width generalizing high with
  | zero => rfl
  | succ width ih =>
      have hpow : high * 256 ^ (width + 1) + value = high * 256 * 256 ^ width + value := by ring
      rw [putNat, putNat, hpow, ih (high * 256), Nat.add_comm (high * 256 * 256 ^ width),
        Nat.add_mul_div_right _ _ (by positivity)]
      congr 1
      apply UInt8.toNat_inj.mp
      simp

/-- Every byte string is the field of the number it spells. -/
theorem put_nat_of_bytes (bytes : Bytes) : putNat bytes.length (natOfBytes bytes) = bytes := by
  induction bytes with
  | nil => rfl
  | cons byte rest ih =>
      have hlt := nat_of_bytes_lt rest
      have hbyte : (byte.toNat * 256 ^ rest.length + natOfBytes rest) / 256 ^ rest.length =
          byte.toNat := by
        rw [Nat.add_comm, Nat.add_mul_div_right _ _ (by positivity), Nat.div_eq_of_lt hlt,
          Nat.zero_add]
      rw [List.length_cons, natOfBytes, putNat, hbyte, put_nat_add, ih, UInt8.ofNat_toNat]

/-- Reading a number succeeds exactly on its own field followed by the rest. -/
theorem get_nat_eq_some {width value : Nat} {bytes rest : Bytes} :
    getNat width bytes = some (value, rest) ↔
      value < 256 ^ width ∧ bytes = putNat width value ++ rest := by
  constructor
  · intro h
    simp only [getNat] at h
    split at h
    · next hlen =>
        have htake : (bytes.take width).length = width := List.length_take_of_le hlen
        simp only [Option.some.injEq, Prod.mk.injEq] at h
        obtain ⟨rfl, rfl⟩ := h
        have hput := put_nat_of_bytes (bytes.take width)
        have hlt := nat_of_bytes_lt (bytes.take width)
        rw [htake] at hput hlt
        exact ⟨hlt, by rw [hput, List.take_append_drop]⟩
    · exact absurd h (by simp)
  · rintro ⟨hlt, rfl⟩
    simp [getNat, nat_of_bytes_put, Nat.mod_eq_of_lt hlt]

/-! ## Machine integers -/

/-- `quint8`. -/
def putUInt8 (value : UInt8) : Bytes := putNat 1 value.toNat

/-- `quint16`. -/
def putUInt16 (value : UInt16) : Bytes := putNat 2 value.toNat

/-- `quint32`. -/
def putUInt32 (value : UInt32) : Bytes := putNat 4 value.toNat

/-- `quint64`. -/
def putUInt64 (value : UInt64) : Bytes := putNat 8 value.toNat

/-- `qint32`, in two's complement. -/
def putInt32 (value : Int32) : Bytes := putUInt32 value.toUInt32

/-- `quint8`. -/
def getUInt8 : Get UInt8 := UInt8.ofNat <$> getNat 1

/-- `quint16`. -/
def getUInt16 : Get UInt16 := UInt16.ofNat <$> getNat 2

/-- `quint32`. -/
def getUInt32 : Get UInt32 := UInt32.ofNat <$> getNat 4

/-- `quint64`. -/
def getUInt64 : Get UInt64 := UInt64.ofNat <$> getNat 8

/-- `qint32`, in two's complement. -/
def getInt32 : Get Int32 := UInt32.toInt32 <$> getUInt32

@[simp] theorem put_uint8_length (value : UInt8) : (putUInt8 value).length = 1 := put_nat_length ..
@[simp] theorem put_uint16_length (value : UInt16) : (putUInt16 value).length = 2 :=
  put_nat_length ..
@[simp] theorem put_uint32_length (value : UInt32) : (putUInt32 value).length = 4 :=
  put_nat_length ..
@[simp] theorem put_uint64_length (value : UInt64) : (putUInt64 value).length = 8 :=
  put_nat_length ..
@[simp] theorem put_int32_length (value : Int32) : (putInt32 value).length = 4 := put_nat_length ..

/-- A mapped reader succeeds where the underlying reader does. -/
theorem map_eq_some {α β : Type} {f : α → β} {get : Get α} {bytes rest : Bytes} {value : β} :
    (f <$> get) bytes = some (value, rest) ↔
    ∃ raw, get bytes = some (raw, rest) ∧ f raw = value := by
  change (get bytes).bind (fun p ↦ some (f p.1, p.2)) = _ ↔ _
  simp [Option.bind_eq_some_iff]

/-- Sequenced readers succeed when the first does and the second does on what it left. -/
theorem bind_eq_some {α β : Type} {first : Get α} {next : α → Get β} {bytes rest : Bytes}
    {value : β} :
    (first >>= next) bytes = some (value, rest) ↔
      ∃ a middle, first bytes = some (a, middle) ∧ next a middle = some (value, rest) := by
  change (first bytes).bind (fun p ↦ next p.1 p.2) = _ ↔ _
  simp [Option.bind_eq_some_iff]

/-- A constant reader consumes nothing. -/
theorem pure_eq_some {α : Type} {a value : α} {bytes rest : Bytes} :
    (pure a : Get α) bytes = some (value, rest) ↔ a = value ∧ bytes = rest := by
  change some (a, bytes) = some (value, rest) ↔ _
  simp

/-- Reading a machine integer of any width, from its conversions to and from naturals. -/
theorem get_integer_eq_some {α : Type} {ofNat : Nat → α} {toNat : α → Nat} {width : Nat}
    (hofNat : ∀ value, ofNat (toNat value) = value) (hlt : ∀ value, toNat value < 256 ^ width)
    (htoNat : ∀ raw, raw < 256 ^ width → toNat (ofNat raw) = raw)
    {value : α} {bytes rest : Bytes} :
    (ofNat <$> getNat width) bytes = some (value, rest) ↔
      bytes = putNat width (toNat value) ++ rest := by
  rw [map_eq_some]
  constructor
  · rintro ⟨raw, hraw, rfl⟩
    obtain ⟨hbound, rfl⟩ := get_nat_eq_some.mp hraw
    rw [htoNat raw hbound]
  · rintro rfl
    exact ⟨toNat value, get_nat_eq_some.mpr ⟨hlt value, rfl⟩, hofNat value⟩

theorem get_uint8_eq_some {value : UInt8} {bytes rest : Bytes} :
    getUInt8 bytes = some (value, rest) ↔ bytes = putUInt8 value ++ rest :=
  get_integer_eq_some (fun _ ↦ UInt8.ofNat_toNat) UInt8.toNat_lt fun raw h ↦ by
    simpa using Nat.mod_eq_of_lt h

theorem get_uint16_eq_some {value : UInt16} {bytes rest : Bytes} :
    getUInt16 bytes = some (value, rest) ↔ bytes = putUInt16 value ++ rest :=
  get_integer_eq_some (fun _ ↦ UInt16.ofNat_toNat) UInt16.toNat_lt fun raw h ↦ by
    simpa using Nat.mod_eq_of_lt h

theorem get_uint32_eq_some {value : UInt32} {bytes rest : Bytes} :
    getUInt32 bytes = some (value, rest) ↔ bytes = putUInt32 value ++ rest :=
  get_integer_eq_some (fun _ ↦ UInt32.ofNat_toNat) UInt32.toNat_lt fun raw h ↦ by
    simpa using Nat.mod_eq_of_lt h

theorem get_uint64_eq_some {value : UInt64} {bytes rest : Bytes} :
    getUInt64 bytes = some (value, rest) ↔ bytes = putUInt64 value ++ rest :=
  get_integer_eq_some (fun _ ↦ UInt64.ofNat_toNat) UInt64.toNat_lt fun raw h ↦ by
    simpa using Nat.mod_eq_of_lt h

theorem get_int32_eq_some {value : Int32} {bytes rest : Bytes} :
    getInt32 bytes = some (value, rest) ↔ bytes = putInt32 value ++ rest := by
  rw [getInt32, map_eq_some]
  constructor
  · rintro ⟨raw, hraw, rfl⟩
    rw [get_uint32_eq_some.mp hraw, putInt32]
    simp
  · rintro rfl
    exact ⟨value.toUInt32, get_uint32_eq_some.mpr rfl, by simp⟩

/-! ## Reading back what was written -/

/-- A sequence of readers, step by step. -/
theorem bind_apply {α β : Type} (first : Get α) (next : α → Get β) (bytes : Bytes) :
    (first >>= next) bytes = (first bytes).bind fun (value, rest) ↦ next value rest := rfl

/-- A reader that succeeds hands its value and the rest to the next one. -/
theorem bind_read {α β : Type} {first : Get α} {next : α → Get β} {bytes rest : Bytes} {value : α}
    (h : first bytes = some (value, rest)) : (first >>= next) bytes = next value rest := by
  rw [bind_apply, h, Option.bind_some]

theorem pure_apply {α : Type} (value : α) (bytes : Bytes) :
    (pure value : Get α) bytes = some (value, bytes) := rfl

theorem get_uint8_put (value : UInt8) (rest : Bytes) :
    getUInt8 (putUInt8 value ++ rest) = some (value, rest) := get_uint8_eq_some.mpr rfl

theorem get_uint16_put (value : UInt16) (rest : Bytes) :
    getUInt16 (putUInt16 value ++ rest) = some (value, rest) := get_uint16_eq_some.mpr rfl

theorem get_uint32_put (value : UInt32) (rest : Bytes) :
    getUInt32 (putUInt32 value ++ rest) = some (value, rest) := get_uint32_eq_some.mpr rfl

theorem get_int32_put (value : Int32) (rest : Bytes) :
    getInt32 (putInt32 value ++ rest) = some (value, rest) := get_int32_eq_some.mpr rfl

/-! ## Byte arrays and repeated fields -/

/-- Exactly `length` bytes from the front. -/
def getBytes (length : Nat) : Get Bytes := fun bytes ↦
  if length ≤ bytes.length then some (bytes.take length, bytes.drop length) else none

/-- A `QByteArray`, where `none` is the null array: the length word of a null array is all ones. -/
def putByteArray : Option Bytes → Bytes
  | none => putUInt32 0xffffffff
  | some bytes => putUInt32 (UInt32.ofNat bytes.length) ++ bytes

/-- A `QByteArray`. -/
def getByteArray : Get (Option Bytes) := do
  let length ← getUInt32
  if length = 0xffffffff then pure none else some <$> getBytes length.toNat

/-- The arrays whose length word is their length. -/
def FitsByteArray (value : Option Bytes) : Prop := ∀ bytes ∈ value, bytes.length < 0xffffffff

/-- Read `count` values one after the other. -/
def getList {α : Type} (get : Get α) : Nat → Get (List α)
  | 0 => pure []
  | count + 1 => do
    let head ← get
    let tail ← getList get count
    pure (head :: tail)

theorem get_bytes_eq_some {length : Nat} {bytes value rest : Bytes} :
    getBytes length bytes = some (value, rest) ↔ value.length = length ∧ bytes = value ++ rest := by
  constructor
  · intro h
    simp only [getBytes] at h
    split at h
    · next hlen =>
        simp only [Option.some.injEq, Prod.mk.injEq] at h
        obtain ⟨rfl, rfl⟩ := h
        exact ⟨List.length_take_of_le hlen, (List.take_append_drop _ _).symm⟩
    · exact absurd h (by simp)
  · rintro ⟨rfl, rfl⟩
    simp [getBytes]

/-- A byte array decodes only from its own encoding. -/
theorem get_byte_array_eq_some {value : Option Bytes} {bytes rest : Bytes} :
    getByteArray bytes = some (value, rest) ↔
      FitsByteArray value ∧ bytes = putByteArray value ++ rest := by
  simp only [getByteArray, bind_eq_some, get_uint32_eq_some]
  constructor
  · rintro ⟨length, middle, rfl, h⟩
    split at h
    · next hnull =>
        obtain ⟨rfl, rfl⟩ := pure_eq_some.mp h
        exact ⟨by simp [FitsByteArray], by rw [hnull, putByteArray]⟩
    · next hnull =>
        obtain ⟨raw, hraw, rfl⟩ := map_eq_some.mp h
        obtain ⟨hlength, rfl⟩ := get_bytes_eq_some.mp hraw
        have hword : length.toNat ≠ 0xffffffff := fun heq ↦ hnull (UInt32.toNat_inj.mp heq)
        have hlt := length.toNat_lt
        refine ⟨?_, ?_⟩
        · intro other hother
          obtain rfl := Option.some.inj hother
          omega
        · rw [putByteArray, hlength, UInt32.ofNat_toNat, List.append_assoc]
  · rintro ⟨hfits, rfl⟩
    cases value with
    | none => exact ⟨0xffffffff, rest, rfl, pure_eq_some.mpr ⟨rfl, rfl⟩⟩
    | some raw =>
        have hlt : raw.length < 0xffffffff := hfits raw rfl
        have hword : (UInt32.ofNat raw.length).toNat = raw.length := by
          simpa using (by omega : raw.length < 4294967296)
        refine ⟨UInt32.ofNat raw.length, raw ++ rest, ?_, ?_⟩
        · rw [putByteArray, List.append_assoc]
        · rw [if_neg]
          · exact map_eq_some.mpr ⟨raw, get_bytes_eq_some.mpr ⟨hword.symm, rfl⟩, rfl⟩
          · intro heq
            rw [heq] at hword
            exact absurd hword.symm (Nat.ne_of_lt hlt)

/-- The stream operators of a type: writing gives nothing when the status of the stream is not `Ok`
afterwards. -/
structure Codec (α : Type) where
  put : α → Option Bytes
  get : Get α

/-- A value that was written reads back. -/
def Codec.RoundTrips {α : Type} (codec : Codec α) : Prop :=
  ∀ value bytes rest, codec.put value = some bytes → codec.get (bytes ++ rest) = some (value, rest)

/-- Repeated fields decode only from the concatenation of their encodings. -/
theorem get_list_eq_some {α : Type} {get : Get α} {put : α → Bytes}
    (hget : ∀ {value bytes rest}, get bytes = some (value, rest) ↔ bytes = put value ++ rest)
    {count : Nat} {values : List α} {bytes rest : Bytes} :
    getList get count bytes = some (values, rest) ↔
      values.length = count ∧ bytes = values.flatMap put ++ rest := by
  induction count generalizing values bytes rest with
  | zero =>
      rw [getList, pure_eq_some]
      constructor
      · rintro ⟨rfl, rfl⟩
        exact ⟨rfl, rfl⟩
      · rintro ⟨hlength, rfl⟩
        obtain rfl := List.length_eq_zero_iff.mp hlength
        exact ⟨rfl, rfl⟩
  | succ count ih =>
      simp only [getList, bind_eq_some, pure_eq_some, hget, ih]
      constructor
      · rintro ⟨head, _, rfl, tail, _, ⟨hlength, rfl⟩, rfl, rfl⟩
        exact ⟨by simp [hlength], by simp⟩
      · rintro ⟨hlength, rfl⟩
        cases values with
        | nil => simp at hlength
        | cons head tail =>
            exact ⟨head, _, by simp, tail, rest, ⟨by simpa using hlength, rfl⟩, rfl, rfl⟩

end DataStream
