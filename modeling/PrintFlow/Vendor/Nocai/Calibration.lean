import Mathlib.Data.Fin.VecNotation
import Mathlib.Data.Fintype.Basic
import Mathlib.Tactic.FinCases
import PrintFlow.Core.Qt

/-!
# Calibration values

The alignment and lamp values of a printer travel through maps of `int` values. A value that is read
and written back passes a cast to `int`, a clamp and a cast to its own width. The channel values are
plain `char`, which is signed on one platform and unsigned on another; `calibration_round_trip_iff`
says which values come back.
-/

namespace PrintFlow.NocaiDirectPrintClient

open QVariantOf

/-! ## The values -/

/-- `AlignmentValues`. The bytes of the channels are those of the plain `char` values. -/
structure AlignmentValues where
  stepValue : UInt32
  bidiValue : UInt8
  horizontalSpacing : Fin 4 → Int16
  verticalSpacing : Fin 4 → Int16
  horizontalAlignReference : UInt8
  verticalAlignReference : UInt8
  leftChannelAlignH1 : Fin 8 → UInt8
  leftChannelAlignH2 : Fin 8 → UInt8
  leftChannelAlignH3 : Fin 8 → UInt8
  leftChannelAlignH4 : Fin 8 → UInt8
  rightChannelAlignH1 : Fin 8 → UInt8
  rightChannelAlignH2 : Fin 8 → UInt8
  rightChannelAlignH3 : Fin 8 → UInt8
  rightChannelAlignH4 : Fin 8 → UInt8

/-- `UVParamValues`. -/
structure UVParamValues where
  rightR2LOffset : Int16
  rightL2ROffset : Int16
  leftR2LOffset : Int16
  leftL2ROffset : Int16
  lampL2ROffset : Int16

/-- `NewUVParamValues`. -/
structure NewUVParamValues where
  uvLampLeftStartOffset : Int16
  uvLampLeftEndOffset : Int16
  uvLampLeftMinOffset : Int16
  uvLampRightStartOffset : Int16
  uvLampRightEndOffset : Int16
  uvLampRightMinOffset : Int16
  uvLampDelayDistance : Int16

/-! ## Maps -/

section Maps

variable {V : Type} [QVariantApi V] [QVariantOf V]

/-- The `int` that an `unsigned char` is. -/
def ucharValue (byte : UInt8) : Int32 := Int32.ofNat byte.toNat

/-- The `int` that a plain `char` is, on a platform where it is signed or not. -/
def charValue (signed : Bool) (byte : UInt8) : Int32 :=
  if signed then byte.toInt8.toInt32 else ucharValue byte

/-- `byteArrayToVariantList`. -/
def byteArrayToVariantList (signed : Bool) (values : Fin 8 → UInt8) : List V :=
  (List.finRange 8).map fun i ↦ ofInt (charValue signed (values i))

/-- `variantListToByteArray`. -/
def variantListToByteArray (list : List V) : Fin 8 → UInt8 := fun i ↦
  UInt8.ofInt (clamp ((list[i.val]?).elim 0 QVariantApi.toInt).toInt (-128) 127)

/-- A `uint8_t` of a map. -/
def byteOf (settings : QVariantMap V) (key : String) : UInt8 :=
  UInt8.ofInt (clamp (settings.int key 0).toInt 0 255)

/-- An `int16_t` of a map. -/
def wordOf (settings : QVariantMap V) (key : String) : Int16 :=
  Int16.ofInt (clamp (settings.int key 0).toInt (-32768) 32767)

/-- `QString("horizontalSpacing%1").arg(i)`. -/
def horizontalKey : Fin 4 → String :=
  ![ "horizontalSpacing0", "horizontalSpacing1", "horizontalSpacing2", "horizontalSpacing3"]

/-- `QString("verticalSpacing%1").arg(i)`. -/
def verticalKey : Fin 4 → String :=
  ![ "verticalSpacing0", "verticalSpacing1", "verticalSpacing2", "verticalSpacing3"]

/-- `alignmentValuesToMap`. -/
def alignmentValuesToMap (signed : Bool) (values : AlignmentValues) : QVariantMap V :=
  .ofEntries
    ([("stepValue", ofInt values.stepValue.toInt32),
        ("bidiValue", ofInt (ucharValue values.bidiValue))] ++
      (List.finRange 4).flatMap (fun i ↦
        [(horizontalKey i, ofInt (values.horizontalSpacing i).toInt32),
          (verticalKey i, ofInt (values.verticalSpacing i).toInt32)]) ++
      [("horizontalAlignReference", ofInt (ucharValue values.horizontalAlignReference)),
        ("verticalAlignReference", ofInt (ucharValue values.verticalAlignReference)),
        ("leftChannelH1", ofList (byteArrayToVariantList signed values.leftChannelAlignH1)),
        ("leftChannelH2", ofList (byteArrayToVariantList signed values.leftChannelAlignH2)),
        ("leftChannelH3", ofList (byteArrayToVariantList signed values.leftChannelAlignH3)),
        ("leftChannelH4", ofList (byteArrayToVariantList signed values.leftChannelAlignH4)),
        ("rightChannelH1", ofList (byteArrayToVariantList signed values.rightChannelAlignH1)),
        ("rightChannelH2", ofList (byteArrayToVariantList signed values.rightChannelAlignH2)),
        ("rightChannelH3", ofList (byteArrayToVariantList signed values.rightChannelAlignH3)),
        ("rightChannelH4", ofList (byteArrayToVariantList signed values.rightChannelAlignH4))])

/-- `alignmentValuesFromMap`. -/
def alignmentValuesFromMap (settings : QVariantMap V) : AlignmentValues where
  stepValue := UInt32.ofNat (settings.int "stepValue" 0).toInt.toNat
  bidiValue := byteOf settings "bidiValue"
  horizontalSpacing i := wordOf settings (horizontalKey i)
  verticalSpacing i := wordOf settings (verticalKey i)
  horizontalAlignReference := byteOf settings "horizontalAlignReference"
  verticalAlignReference := byteOf settings "verticalAlignReference"
  leftChannelAlignH1 := variantListToByteArray (settings.list "leftChannelH1")
  leftChannelAlignH2 := variantListToByteArray (settings.list "leftChannelH2")
  leftChannelAlignH3 := variantListToByteArray (settings.list "leftChannelH3")
  leftChannelAlignH4 := variantListToByteArray (settings.list "leftChannelH4")
  rightChannelAlignH1 := variantListToByteArray (settings.list "rightChannelH1")
  rightChannelAlignH2 := variantListToByteArray (settings.list "rightChannelH2")
  rightChannelAlignH3 := variantListToByteArray (settings.list "rightChannelH3")
  rightChannelAlignH4 := variantListToByteArray (settings.list "rightChannelH4")

/-- `uvParamValuesToMap`. -/
def uvParamValuesToMap (values : UVParamValues) : QVariantMap V :=
  .ofEntries
    [("rightR2LOffset", ofInt values.rightR2LOffset.toInt32),
      ("rightL2ROffset", ofInt values.rightL2ROffset.toInt32),
      ("leftR2LOffset", ofInt values.leftR2LOffset.toInt32),
      ("leftL2ROffset", ofInt values.leftL2ROffset.toInt32),
      ("lampL2ROffset", ofInt values.lampL2ROffset.toInt32)]

/-- `uvParamValuesFromMap`. -/
def uvParamValuesFromMap (settings : QVariantMap V) : UVParamValues where
  rightR2LOffset := wordOf settings "rightR2LOffset"
  rightL2ROffset := wordOf settings "rightL2ROffset"
  leftR2LOffset := wordOf settings "leftR2LOffset"
  leftL2ROffset := wordOf settings "leftL2ROffset"
  lampL2ROffset := wordOf settings "lampL2ROffset"

/-- `newUvParamValuesToMap`. -/
def newUvParamValuesToMap (values : NewUVParamValues) : QVariantMap V :=
  .ofEntries
    [("leftStartOffset", ofInt values.uvLampLeftStartOffset.toInt32),
      ("leftEndOffset", ofInt values.uvLampLeftEndOffset.toInt32),
      ("leftMinOffset", ofInt values.uvLampLeftMinOffset.toInt32),
      ("rightStartOffset", ofInt values.uvLampRightStartOffset.toInt32),
      ("rightEndOffset", ofInt values.uvLampRightEndOffset.toInt32),
      ("rightMinOffset", ofInt values.uvLampRightMinOffset.toInt32),
      ("delayDistance", ofInt values.uvLampDelayDistance.toInt32)]

/-- `newUvParamValuesFromMap`. -/
def newUvParamValuesFromMap (settings : QVariantMap V) : NewUVParamValues where
  uvLampLeftStartOffset := wordOf settings "leftStartOffset"
  uvLampLeftEndOffset := wordOf settings "leftEndOffset"
  uvLampLeftMinOffset := wordOf settings "leftMinOffset"
  uvLampRightStartOffset := wordOf settings "rightStartOffset"
  uvLampRightEndOffset := wordOf settings "rightEndOffset"
  uvLampRightMinOffset := wordOf settings "rightMinOffset"
  uvLampDelayDistance := wordOf settings "delayDistance"

end Maps

/-! ## Casts -/

theorem clamp_of_mem {value low high : Int} (hlow : low ≤ value) (hhigh : value ≤ high) :
    clamp value low high = value := by
  rw [clamp, if_neg (not_lt.mpr hlow), if_neg (not_lt.mpr hhigh)]

@[simp] theorem uchar_value_to_int (byte : UInt8) : (ucharValue byte).toInt = byte.toNat := by
  have hlt := byte.toNat_lt
  exact Int32.toInt_ofNat_of_lt (by omega)

/-- A byte comes back. -/
@[simp] theorem byte_of_value (byte : UInt8) :
    UInt8.ofInt (clamp byte.toNat 0 255) = byte := by
  have hlt := byte.toNat_lt
  rw [clamp_of_mem (by omega) (by omega)]
  exact UInt8.toNat_inj.mp (by rw [UInt8.ofInt, UInt8.toNat_ofNat']; omega)

/-- A word comes back. -/
@[simp] theorem word_of_value (word : Int16) :
    Int16.ofInt (clamp word.toInt (-32768) 32767) = word := by
  have hlow := word.le_toInt
  have hhigh := word.toInt_lt
  rw [clamp_of_mem (by omega) (by omega), Int16.ofInt_toInt]

/-- The sign that a cast gives a value of the upper half. -/
theorem step_cast (step : UInt32) :
    step.toInt32.toInt = if step.toNat < 2 ^ 31 then (step.toNat : Int) else step.toNat - 2 ^ 32 := by
  have hlt := step.toNat_lt
  have hbmod : step.toInt32.toInt = (step.toNat : Int).bmod (2 ^ 32) :=
    BitVec.toInt_eq_toNat_bmod step.toBitVec
  rw [hbmod, Int.bmod_def]
  split_ifs <;> omega

@[inherit_doc step_cast]
theorem byte_cast (byte : UInt8) :
    byte.toInt8.toInt = if byte.toNat < 2 ^ 7 then (byte.toNat : Int) else byte.toNat - 2 ^ 8 := by
  have hlt := byte.toNat_lt
  have hbmod : byte.toInt8.toInt = (byte.toNat : Int).bmod (2 ^ 8) :=
    BitVec.toInt_eq_toNat_bmod byte.toBitVec
  rw [hbmod, Int.bmod_def]
  split_ifs <;> omega

/-- A step comes back exactly when its cast to `int` is not negative. -/
theorem step_of_value_iff (step : UInt32) :
    UInt32.ofNat step.toInt32.toInt.toNat = step ↔ step.toNat < 2 ^ 31 := by
  have hlt := step.toNat_lt
  rw [← UInt32.toNat_inj, UInt32.toNat_ofNat', step_cast]
  split_ifs with h
  · rw [Int.toNat_natCast]
    omega
  · rw [Int.toNat_of_nonpos (by omega)]
    omega

/-- A plain `char` comes back exactly when it is signed or its byte is below 128. -/
theorem char_of_value_iff (signed : Bool) (byte : UInt8) :
    UInt8.ofInt (clamp (charValue signed byte).toInt (-128) 127) = byte ↔
      signed = true ∨ byte.toNat < 128 := by
  have hlt := byte.toNat_lt
  rw [← UInt8.toNat_inj, UInt8.ofInt, UInt8.toNat_ofNat']
  cases signed with
  | true =>
      have hvalue : (charValue true byte).toInt =
          if byte.toNat < 2 ^ 7 then (byte.toNat : Int) else byte.toNat - 2 ^ 8 :=
        (Int8.toInt_toInt32 _).trans (byte_cast byte)
      rw [hvalue]
      refine iff_of_true ?_ (.inl rfl)
      split_ifs <;> rw [clamp_of_mem (by omega) (by omega)] <;> omega
  | false =>
      have hvalue : (charValue false byte).toInt = byte.toNat := uchar_value_to_int byte
      rw [hvalue, clamp, if_neg (by omega)]
      split_ifs <;> simp <;> omega

/-! ## Round trips -/

/-- The bytes of the eight channels. -/
def AlignmentValues.channels (values : AlignmentValues) : List (Fin 8 → UInt8) :=
  [values.leftChannelAlignH1, values.leftChannelAlignH2, values.leftChannelAlignH3,
    values.leftChannelAlignH4, values.rightChannelAlignH1, values.rightChannelAlignH2,
    values.rightChannelAlignH3, values.rightChannelAlignH4]

section RoundTrips

variable (V : Type) [QVariantApi V] [QVariantOf V]

/-- Reading calibration values and writing them back keeps them. -/
structure KeepsCalibration (signed : Bool) (alignment : AlignmentValues) (uv : UVParamValues)
    (newUv : NewUVParamValues) : Prop where
  alignment : alignmentValuesFromMap (alignmentValuesToMap signed alignment : QVariantMap V) =
    alignment
  uv : uvParamValuesFromMap (uvParamValuesToMap uv : QVariantMap V) = uv
  newUv : newUvParamValuesFromMap (newUvParamValuesToMap newUv : QVariantMap V) = newUv

variable [LawfulQVariant V]

/-- The bytes of a channel come back through the list when each of its values does. -/
theorem channel_round_trip_iff (signed : Bool) (values : Fin 8 → UInt8) :
    variantListToByteArray (byteArrayToVariantList signed values : List V) = values ↔
      signed = true ∨ ∀ i, (values i).toNat < 128 := by
  have hvalue : ∀ i, variantListToByteArray (byteArrayToVariantList signed values : List V) i =
      UInt8.ofInt (clamp (charValue signed (values i)).toInt (-128) 127) := by
    intro i
    simp [variantListToByteArray, byteArrayToVariantList]
  rw [funext_iff]
  simp only [hvalue, char_of_value_iff, forall_or_left]

/-- The lamp values always come back. -/
theorem uv_round_trip (values : UVParamValues) :
    uvParamValuesFromMap (uvParamValuesToMap values : QVariantMap V) = values := by
  simp [uvParamValuesFromMap, uvParamValuesToMap, wordOf, QVariantMap.ofEntries, QVariantMap.int,
    List.lookup_cons]

@[inherit_doc uv_round_trip]
theorem new_uv_round_trip (values : NewUVParamValues) :
    newUvParamValuesFromMap (newUvParamValuesToMap values : QVariantMap V) = values := by
  simp [newUvParamValuesFromMap, newUvParamValuesToMap, wordOf, QVariantMap.ofEntries,
    QVariantMap.int, List.lookup_cons]

/-- Alignment values come back except for the step and the channels. -/
theorem alignment_round_trip (signed : Bool) (values : AlignmentValues) :
    alignmentValuesFromMap (alignmentValuesToMap signed values : QVariantMap V) =
      { values with
        stepValue := UInt32.ofNat values.stepValue.toInt32.toInt.toNat
        leftChannelAlignH1 := variantListToByteArray
          (byteArrayToVariantList signed values.leftChannelAlignH1 : List V)
        leftChannelAlignH2 := variantListToByteArray
          (byteArrayToVariantList signed values.leftChannelAlignH2 : List V)
        leftChannelAlignH3 := variantListToByteArray
          (byteArrayToVariantList signed values.leftChannelAlignH3 : List V)
        leftChannelAlignH4 := variantListToByteArray
          (byteArrayToVariantList signed values.leftChannelAlignH4 : List V)
        rightChannelAlignH1 := variantListToByteArray
          (byteArrayToVariantList signed values.rightChannelAlignH1 : List V)
        rightChannelAlignH2 := variantListToByteArray
          (byteArrayToVariantList signed values.rightChannelAlignH2 : List V)
        rightChannelAlignH3 := variantListToByteArray
          (byteArrayToVariantList signed values.rightChannelAlignH3 : List V)
        rightChannelAlignH4 := variantListToByteArray
          (byteArrayToVariantList signed values.rightChannelAlignH4 : List V) } := by
  have hspacing : ∀ i, wordOf (alignmentValuesToMap signed values : QVariantMap V)
    (horizontalKey i) =
      values.horizontalSpacing i ∧
      wordOf (alignmentValuesToMap signed values : QVariantMap V) (verticalKey i) =
        values.verticalSpacing i := by
    intro i
    fin_cases i
    all_goals simp [alignmentValuesToMap, wordOf, QVariantMap.ofEntries, QVariantMap.int,
      List.lookup_cons, horizontalKey, verticalKey, List.finRange_succ]
  rw [alignmentValuesFromMap]
  simp only [hspacing]
  simp [alignmentValuesToMap, byteOf, QVariantMap.ofEntries, QVariantMap.int, QVariantMap.list,
    List.lookup_cons, horizontalKey, verticalKey, List.finRange_succ]

/-- Alignment values come back exactly when the step and every channel does. -/
theorem alignment_round_trip_iff (signed : Bool) (values : AlignmentValues) :
    alignmentValuesFromMap (alignmentValuesToMap signed values : QVariantMap V) = values ↔
      values.stepValue.toNat < 2 ^ 31 ∧
        ∀ channel ∈ values.channels, signed = true ∨ ∀ i, (channel i).toNat < 128 := by
  rw [alignment_round_trip]
  obtain ⟨step, bidi, horizontal, vertical, horizontalReference, verticalReference, left1, left2,
    left3, left4, right1, right2, right3, right4⟩ := values
  simp only [AlignmentValues.mk.injEq, step_of_value_iff, channel_round_trip_iff, true_and,
    AlignmentValues.channels, List.forall_mem_cons, List.not_mem_nil, false_implies, implies_true,
    and_true]

/-- Reading calibration values and writing them back keeps them exactly when the step is below 2^31
and, where plain `char` is unsigned, every channel byte is below 128. -/
theorem calibration_round_trip_iff (signed : Bool) (alignment : AlignmentValues)
    (uv : UVParamValues) (newUv : NewUVParamValues) :
    KeepsCalibration V signed alignment uv newUv ↔
      alignment.stepValue.toNat < 2 ^ 31 ∧
        ∀ channel ∈ alignment.channels, signed = true ∨ ∀ i, (channel i).toNat < 128 := by
  rw [← alignment_round_trip_iff V]
  exact ⟨fun h ↦ h.alignment, fun h ↦ ⟨h, uv_round_trip V uv, new_uv_round_trip V newUv⟩⟩

end RoundTrips

/-- Values of which only the first byte of a channel is not zero. -/
def oneChannel (byte : UInt8) : AlignmentValues where
  stepValue := 0
  bidiValue := 0
  horizontalSpacing _ := 0
  verticalSpacing _ := 0
  horizontalAlignReference := 0
  verticalAlignReference := 0
  leftChannelAlignH1 := ![byte, 0, 0, 0, 0, 0, 0, 0]
  leftChannelAlignH2 _ := 0
  leftChannelAlignH3 _ := 0
  leftChannelAlignH4 _ := 0
  rightChannelAlignH1 _ := 0
  rightChannelAlignH2 _ := 0
  rightChannelAlignH3 _ := 0
  rightChannelAlignH4 _ := 0

/-- Where plain `char` is unsigned, the byte of -1 comes back as that of 127. -/
theorem unsigned_char_changes :
    ¬ KeepsCalibration Variant false (oneChannel 255) ⟨0, 0, 0, 0, 0⟩ ⟨0, 0, 0, 0, 0, 0, 0⟩ := by
  intro h
  have hbyte := congrArg (·.leftChannelAlignH1 0) h.alignment
  exact absurd hbyte (by decide +kernel)

theorem calibration_round_trip_iff_one :
    KeepsCalibration Variant true (oneChannel 255) ⟨0, 0, 0, 0, 0⟩ ⟨0, 0, 0, 0, 0, 0, 0⟩ ↔
      (oneChannel 255).stepValue.toNat < 2 ^ 31 ∧
        ∀ channel ∈ (oneChannel 255).channels, true = true ∨ ∀ i, (channel i).toNat < 128 :=
  calibration_round_trip_iff Variant true _ _ _

end PrintFlow.NocaiDirectPrintClient
