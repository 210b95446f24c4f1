import PrintFlow.Core.Qt

/-!
# Transfer curves

`MultiInkLinearization` holds a look-up table for each ink, and the combinations of tables that the
tone builders read. Without external curves every table is the identity.
-/

namespace PrintFlow

/-- `Lut8`: an entry for each byte. -/
abbrev Lut8 : Type := UInt8 → UInt8

/-- `MultiInkLinearization::Channel`. -/
inductive LinearizationChannel where
  | C
  | M
  | Y
  | K
  | LC
  | LM
  | LK
  | LLK
  | W
  | V
  deriving DecidableEq, Repr

/-- `ComboLut1`. -/
structure ComboLut1 where
  single : Lut8
  valid : Bool

/-- `ComboLut2`. -/
structure ComboLut2 where
  dark : Lut8
  light : Lut8
  valid : Bool

/-- `ComboLut3`. -/
structure ComboLut3 where
  dark : Lut8
  light : Lut8
  lighter : Lut8
  valid : Bool

/-- `MultiInkLinearization`. -/
structure MultiInkLinearization where
  channelLuts : LinearizationChannel → Lut8
  channelValid : LinearizationChannel → Bool
  lutC_Lc : ComboLut2
  lutM_Lm : ComboLut2
  lutY : ComboLut1
  lutK_Lk_LLk : ComboLut3
  lutW : Lut8
  lutV : Lut8
  hasExternalCurves : Bool
  lastError : String

namespace MultiInkLinearization

/-- `makeLinearLut`. -/
def makeLinearLut : Lut8 := id

/-- `rebuildCombosFromChannels`. -/
def rebuildCombosFromChannels (state : MultiInkLinearization) : MultiInkLinearization :=
  { state with
    lutC_Lc := { dark := state.channelLuts .C, light := state.channelLuts .LC, valid := true }
    lutM_Lm := { dark := state.channelLuts .M, light := state.channelLuts .LM, valid := true }
    lutY := { single := state.channelLuts .Y, valid := true }
    lutK_Lk_LLk :=
      { dark := state.channelLuts .K
        light := state.channelLuts .LK
        lighter := state.channelLuts .LLK
        valid := true }
    lutW := state.channelLuts .W
    lutV := state.channelLuts .V }

/-- `rebuildIdentityLuts`. -/
def rebuildIdentityLuts (state : MultiInkLinearization) : MultiInkLinearization :=
  rebuildCombosFromChannels
    { state with
      channelLuts := fun _ ↦ makeLinearLut
      channelValid := fun _ ↦ false
      hasExternalCurves := false
      lastError := "" }

/-- The tables of some channels, and the identity for the others: the state after these curves were
loaded. -/
def ofChannels (luts : LinearizationChannel → Lut8) (valid : LinearizationChannel → Bool) :
    MultiInkLinearization :=
  rebuildCombosFromChannels
    { channelLuts := luts
      channelValid := valid
      lutC_Lc := ⟨makeLinearLut, makeLinearLut, false⟩
      lutM_Lm := ⟨makeLinearLut, makeLinearLut, false⟩
      lutY := ⟨makeLinearLut, false⟩
      lutK_Lk_LLk := ⟨makeLinearLut, makeLinearLut, makeLinearLut, false⟩
      lutW := makeLinearLut
      lutV := makeLinearLut
      hasExternalCurves := true
      lastError := "" }

end MultiInkLinearization

end PrintFlow
