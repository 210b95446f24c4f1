import PrintFlow.Core.Qt
import PrintFlow.Library.Json

/-!
# Colour management settings

`ColorManagementManager` holds the profiles, dot strategy, linearization, direct-print settings and
ink parameters of the program, and keeps them in one JSON file. The setters clamp and trim what they
store, some of them save at once, and loading passes what it reads through the same clamping.
-/

namespace PrintFlow

open FloatFormat

/-- What the settings need of a `QVariant`: the invalid variant, the constructors,
`QJsonValue::fromVariant` and `QJsonValue::toVariant`, equality where numbers are compared as
numbers, and the comparison of two maps. -/
class QVariantJson (V : Type) where
  invalid : V
  ofBool : Bool → V
  ofString : String → V
  fromVariant : V → Json
  toVariant : Json → V
  Same : V → V → Prop
  equalMaps : OrderedMap String V → OrderedMap String V → Bool

namespace ColorManagementManager

/-- `QVariantMap`. -/
abbrev QVariantMap (V : Type) := OrderedMap String V

/-- The text functions of Qt that the manager calls: the folding under which
`compare(Qt::CaseInsensitive)` compares, `toLower`, `toUpper`, `toInt` and the JSON text. -/
structure QtText where
  folded : String → String
  toLower : String → String
  toUpper : String → String
  toInt : String → Option Int
  json : Json.TextFormat

/-! ## Helpers -/

/-- `isSupportedInkMode`. -/
def isSupportedInkMode (inkMode : Int) : Bool :=
  inkMode == 4 || inkMode == 5 || inkMode == 6 || inkMode == 7 || inkMode == 8 || inkMode == 10

/-- `familyKeyForInkMode`. -/
def familyKeyForInkMode (inkMode : Int) : String :=
  if inkMode = 4 ∨ inkMode = 5 then "A"
  else if inkMode = 6 ∨ inkMode = 7 then "B"
  else if inkMode = 8 ∨ inkMode = 10 then "C"
  else ""

/-- `isSupportedFamilyKey`. -/
def isSupportedFamilyKey (familyKey : String) : Bool :=
  familyKey == "A" || familyKey == "B" || familyKey == "C"

/-- `std::clamp` on `int`; `std::max` of the lower bound and `std::min` is the same. -/
def clampInt (value low high : Int32) : Int32 :=
  if value < low then low else if high < value then high else value

section Helpers

variable (text : QtText)

/-- `normalizedPrinterName`. -/
def normalizedPrinterName (printerName : String) : String :=
  let name := trimmed printerName
  if text.folded name = text.folded "X-36 Studio" ∨
      text.folded name = text.folded "X-36NC (Photo Printer)" ∨
      text.folded name = text.folded "X-36NC" then
    "X-36 Studio"
  else name

/-- The output mode that a text stands for. -/
def normalizedOutputMode (mode : String) : String :=
  if text.toLower (trimmed mode) = "direct" then "direct" else "prn"

/-- The key of a family as the setters and getters read it. -/
def normalizedFamilyKey (familyKey : String) : String := text.toUpper (trimmed familyKey)

end Helpers

section Settings

variable {V : Type} [QVariantJson V]

/-- `jsonObjectToVariantMap`. -/
def jsonObjectToVariantMap (o : Json.Object) : QVariantMap V := o.mapValues QVariantJson.toVariant

/-- `variantMapToJsonObject`. -/
def variantMapToJsonObject (m : QVariantMap V) : Json.Object := m.mapValues QVariantJson.fromVariant

/-- `map.value(key)`. -/
def value (map : QVariantMap V) (key : String) : V := (map.find? key).getD QVariantJson.invalid

variable [QVariantApi V] [QVariantOf V]

/-! ## Normalized settings

The tables below are long, so the functions that go through them are irreducible: a proof unfolds
them where it means to. -/

/-- What a setting is forced to be. -/
inductive Rule where
  | int (low high : Int32)
  | bool
  | text
  | grade
  deriving DecidableEq

/-- A value under a rule. A feathering grade of zero is an old default and becomes medium. -/
def Rule.apply : Rule → V → V
  | .int low high, value => QVariantOf.ofInt (clampInt (QVariantApi.toInt value) low high)
  | .bool, value => QVariantJson.ofBool (QVariantApi.toBool value)
  | .text, value => QVariantJson.ofString (trimmed (QVariantApi.toString value))
  | .grade, value =>
      let savedEclosionGrade := QVariantApi.toInt value
      QVariantOf.ofInt (if savedEclosionGrade ≤ 0 then 2 else clampInt savedEclosionGrade 1 3)

/-- `defaultDirectPrintSettings`. -/
def defaultDirectPrintSettings : QVariantMap V :=
  .ofList
    [("selectedPrinterIndex", QVariantOf.ofInt (-1)), ("selectedPrinterName", QVariantJson.ofString ""),
      ("printDirection", QVariantOf.ofInt 0), ("printSpeed", QVariantOf.ofInt 1),
      ("wcSequence", QVariantOf.ofInt 0), ("eclosionGrade", QVariantOf.ofInt 2),
      ("headSelect", QVariantOf.ofInt 0), ("whiteInkPercent", QVariantOf.ofInt 0),
      ("whiteInkPassCount", QVariantOf.ofInt 0), ("varnishInkPercent", QVariantOf.ofInt 0),
      ("varnishInkPassCount", QVariantOf.ofInt 0), ("headVoltage", QVariantOf.ofInt 512),
      ("disableUv0", QVariantOf.ofInt 0), ("disableUv1", QVariantOf.ofInt 0),
      ("disableUv2", QVariantOf.ofInt 0), ("disableUv3", QVariantOf.ofInt 0),
      ("disableUv4", QVariantOf.ofInt 0), ("disableUv5", QVariantOf.ofInt 0),
      ("carReset", QVariantOf.ofInt 0), ("stripBlank", QVariantOf.ofInt 0),
      ("blankDistance", QVariantOf.ofInt 0), ("pass", QVariantOf.ofInt 0),
      ("vsdMode", QVariantOf.ofInt 0)]

/-- The settings that `normalizedDirectPrintSettings` changes, in its order. -/
def directPrintRules : List (String × Rule) :=
  [("selectedPrinterIndex", .int (-1) 99), ("selectedPrinterName", .text),
    ("printDirection", .int 0 3), ("printSpeed", .int 0 3), ("wcSequence", .int 0 1),
    ("eclosionGrade", .grade), ("headSelect", .int 0 2), ("whiteInkPercent", .int 0 9),
    ("whiteInkPassCount", .int 0 255), ("varnishInkPercent", .int 0 9),
    ("varnishInkPassCount", .int 0 255), ("headVoltage", .int 400 600), ("disableUv0", .int 0 1),
    ("disableUv1", .int 0 1), ("disableUv2", .int 0 1), ("disableUv3", .int 0 1),
    ("disableUv4", .int 0 1), ("disableUv5", .int 0 1), ("carReset", .int 0 1),
    ("stripBlank", .int 0 2), ("blankDistance", .int 0 65535), ("pass", .int 0 255),
    ("vsdMode", .int 0 65535)]

/-- `normalizedDirectPrintSettings`. -/
@[irreducible] def normalizedDirectPrintSettings (settings : QVariantMap V) : QVariantMap V :=
  directPrintRules.foldl (fun out rule ↦ out.insert rule.1 (rule.2.apply (value out rule.1)))
    (defaultDirectPrintSettings.insertAll settings.entries)

/-- The parameters that `clampMapU8` changes where they are present, in its order: `gcrEnabled` is
clamped as a number before it becomes a boolean. -/
def clampRules : List (String × Rule) :=
  (["cLightStart", "cLightEnd", "mLightStart", "mLightEnd", "kT1Start", "kT1End", "kT2Start",
      "kT2End", "gcrEnabled", "neutralGate", "gcrMaxTone", "gcrStrength", "kGain", "kMinInNeutral",
      "lightInkMinThreshold", "promoToneGate", "promoMedLo", "promoMedHi", "promoLrgLo",
      "promoLrgHi", "promoFlatVarEps", "promoMinNeiInked", "promoKickBonus", "neutralChromaCut",
      "neutralMaxTone", "whiteThreshold", "whiteDensity", "varnishThreshold", "varnishDensity",
      "whiteSmallDotThreshold", "whiteMedDotThreshold", "varnishSmallDotThreshold",
      "varnishMedDotThreshold"].map fun key ↦ (key, .int 0 255)) ++
    (["lcFadePctInNeutral", "lmFadePctInNeutral", "neutralReducePct1", "neutralReducePct2"].map
      fun key ↦ (key, .int 0 100)) ++
    [("whiteMode", .int 0 3), ("varnishMode", .int 0 3)] ++
    ["useLightInkMinThresholdOverride", "gcrEnabled", "whiteUseOwnDotStrategy",
      "whiteEnablePromotion", "varnishUseOwnDotStrategy", "varnishEnablePromotion"].map
      fun key ↦ (key, .bool)

/-- `normString`. -/
def normString (key fallback : String) (out : QVariantMap V) : QVariantMap V :=
  if ¬ out.contains key then out.insert key (QVariantJson.ofString fallback)
  else out.insert key (Rule.text.apply (value out key))

/-- `clampMapU8`. -/
@[irreducible] def clampMapU8 (params : QVariantMap V) : QVariantMap V :=
  let out := clampRules.foldl (fun out rule ↦ out.adjust rule.1 rule.2.apply) params
  normString "varnishMaskKey" "v" (normString "whiteMaskKey" "w" out)

/-- The defaults that all ink modes share. -/
def sharedInkDefaults : List (String × V) :=
  [("promoToneGate", QVariantOf.ofInt 112), ("promoMedLo", QVariantOf.ofInt 18),
    ("promoMedHi", QVariantOf.ofInt 26), ("promoLrgLo", QVariantOf.ofInt 28),
    ("promoLrgHi", QVariantOf.ofInt 36), ("promoFlatVarEps", QVariantOf.ofInt 18),
    ("promoMinNeiInked", QVariantOf.ofInt 8), ("promoKickBonus", QVariantOf.ofInt 2),
    ("useLightInkMinThresholdOverride", QVariantJson.ofBool true),
    ("lightInkMinThreshold", QVariantOf.ofInt 2), ("whiteMode", QVariantOf.ofInt 0),
    ("whiteThreshold", QVariantOf.ofInt 8), ("whiteDensity", QVariantOf.ofInt 255),
    ("whiteUseOwnDotStrategy", QVariantJson.ofBool false),
    ("whiteSmallDotThreshold", QVariantOf.ofInt 104), ("whiteMedDotThreshold", QVariantOf.ofInt 168),
    ("whiteEnablePromotion", QVariantJson.ofBool false), ("whiteMaskKey", QVariantJson.ofString "w"),
    ("varnishMode", QVariantOf.ofInt 0), ("varnishThreshold", QVariantOf.ofInt 8),
    ("varnishDensity", QVariantOf.ofInt 255),
    ("varnishUseOwnDotStrategy", QVariantJson.ofBool false),
    ("varnishSmallDotThreshold", QVariantOf.ofInt 104),
    ("varnishMedDotThreshold", QVariantOf.ofInt 168),
    ("varnishEnablePromotion", QVariantJson.ofBool false),
    ("varnishMaskKey", QVariantJson.ofString "v")]

/-- `addGcrDefaults`. -/
def gcrDefaults : List (String × V) :=
  [("gcrEnabled", QVariantJson.ofBool false), ("neutralGate", QVariantOf.ofInt 14),
    ("gcrMaxTone", QVariantOf.ofInt 180), ("gcrStrength", QVariantOf.ofInt 160),
    ("kGain", QVariantOf.ofInt 220), ("kMinInNeutral", QVariantOf.ofInt 6),
    ("lcFadePctInNeutral", QVariantOf.ofInt 70), ("lmFadePctInNeutral", QVariantOf.ofInt 50)]

/-- The light inks of a mode: where cyan and magenta split. -/
def lightDefaults (cStart cEnd mStart mEnd : Int32) : List (String × V) :=
  [("cLightStart", QVariantOf.ofInt cStart), ("cLightEnd", QVariantOf.ofInt cEnd),
    ("mLightStart", QVariantOf.ofInt mStart), ("mLightEnd", QVariantOf.ofInt mEnd)]

/-- The black inks of a mode: where black splits. -/
def blackDefaults (t1Start t1End t2Start t2End : Int32) : List (String × V) :=
  [("kT1Start", QVariantOf.ofInt t1Start), ("kT1End", QVariantOf.ofInt t1End),
    ("kT2Start", QVariantOf.ofInt t2Start), ("kT2End", QVariantOf.ofInt t2End)]

/-- The defaults of one ink mode. -/
def modeDefaults (inkMode : Int) : List (String × V) :=
  if inkMode = 5 then gcrDefaults ++ [("whiteMode", QVariantOf.ofInt 1)]
  else if inkMode = 6 then gcrDefaults ++ lightDefaults 24 96 16 80
  else if inkMode = 7 then
    gcrDefaults ++ lightDefaults 48 160 48 160 ++ [("whiteMode", QVariantOf.ofInt 1)]
  else if inkMode = 8 then
    gcrDefaults ++ lightDefaults 24 96 16 80 ++ blackDefaults 24 112 120 228
  else if inkMode = 10 then
    gcrDefaults ++ lightDefaults 48 160 48 160 ++ blackDefaults 32 128 128 224 ++
      [("whiteMode", QVariantOf.ofInt 1), ("varnishMode", QVariantOf.ofInt 1)]
  else []

/-- `defaultMultiInkParamsForMode`. -/
@[irreducible] def defaultMultiInkParamsForMode (inkMode : Int) : QVariantMap V :=
  clampMapU8 (.ofList (sharedInkDefaults ++ modeDefaults inkMode))

/-- Parameters over the defaults of their mode, clamped, as both the setter and `load` store
them. -/
@[irreducible] def mergedMultiInkParams (inkMode : Int) (params : QVariantMap V) :
    QVariantMap V :=
  clampMapU8 ((defaultMultiInkParamsForMode inkMode).insertAll params.entries)

end Settings

/-! ## The manager -/

/-- The data members of a manager. The maps of profiles and paths hold strings; those by printer and
family may hold any value that was in the file. -/
structure State (V : Type) where
  selectedPrinter : String := ""
  defaultInputProfile : String := ""
  defaultOutputProfile : String := ""
  minInkThreshold : Int32 := 8
  smallDotThreshold : Int32 := 64
  medDotThreshold : Int32 := 128
  enablePromotion : Bool := false
  floorRangeCMY : Int32 := 24
  floorMaxCMY : Int32 := 2
  floorRangeK : Int32 := 12
  floorMaxK : Int32 := 0
  enableDotSwap : Bool := false
  enableLinearization : Bool := true
  linearizationPresetName : String := "Default"
  linearizationDataPath : String := ""
  multiInkOutputMode : String := "prn"
  directPrintSdkRootPath : String := ""
  multiInkDirectPrintSdkRootPath : String := ""
  directPrintSettings : QVariantMap V := .empty
  printerOutputProfiles : OrderedMap String String := .empty
  multiInkParamsByMode : OrderedMap Int (QVariantMap V) := .empty
  familyDefaultLinearizationPaths : OrderedMap String String := .empty
  printerFamilyLinearizationPaths : OrderedMap String (QVariantMap V) := .empty
  familyDefaultOutputProfiles : OrderedMap String String := .empty
  printerFamilyOutputProfiles : OrderedMap String (QVariantMap V) := .empty

section Manager

variable {V : Type} [QVariantJson V] [QVariantApi V] [QVariantOf V] (text : QtText)

/-- `resetToDefaults`. -/
def resetToDefaults : State V where
  selectedPrinter := "X-33"
  directPrintSettings := defaultDirectPrintSettings
  multiInkParamsByMode :=
    .ofList (([4, 5, 6, 7, 8, 10] : List Int).map fun mode ↦ (mode, defaultMultiInkParamsForMode mode))

/-! ## Setters

A setter that returns none leaves the manager alone; the others that return an option save. -/

/-- `setSelectedPrinter`. -/
def setSelectedPrinter (p : String) (m : State V) : State V :=
  if m.selectedPrinter = normalizedPrinterName text p then m
  else { m with selectedPrinter := normalizedPrinterName text p }

/-- `setDefaultInputProfile`. -/
def setDefaultInputProfile (p : String) (m : State V) : State V :=
  if m.defaultInputProfile = p then m else { m with defaultInputProfile := p }

/-- `setDefaultOutputProfile`. -/
def setDefaultOutputProfile (p : String) (m : State V) : State V :=
  if m.defaultOutputProfile = p then m else { m with defaultOutputProfile := p }

/-- The string at a key, or the empty string. -/
def stringAt (map : OrderedMap String String) (key : String) : String := (map.find? key).getD ""

/-- `setPrinterOutputProfile`. -/
def setPrinterOutputProfile (printerName profilePath : String) (m : State V) : State V :=
  if trimmed printerName = "" then m
  else
    let key := normalizedPrinterName text printerName
    let newVal := trimmed profilePath
    if stringAt m.printerOutputProfiles key = newVal then m
    else { m with printerOutputProfiles := m.printerOutputProfiles.insert key newVal }

/-- `setMultiInkOutputMode`. -/
def setMultiInkOutputMode (mode : String) (m : State V) : Option (State V) :=
  if m.multiInkOutputMode = normalizedOutputMode text mode then none
  else some { m with multiInkOutputMode := normalizedOutputMode text mode }

/-- `setDirectPrintSdkRootPath`. -/
def setDirectPrintSdkRootPath (path : String) (m : State V) : Option (State V) :=
  if m.directPrintSdkRootPath = trimmed path then none
  else some { m with directPrintSdkRootPath := trimmed path }

/-- `setMultiInkDirectPrintSdkRootPath`. -/
def setMultiInkDirectPrintSdkRootPath (path : String) (m : State V) : Option (State V) :=
  if m.multiInkDirectPrintSdkRootPath = trimmed path then none
  else some { m with multiInkDirectPrintSdkRootPath := trimmed path }

/-- `setDirectPrintSettings`. -/
def setDirectPrintSettings (settings : QVariantMap V) (m : State V) : Option (State V) :=
  if QVariantJson.equalMaps m.directPrintSettings (normalizedDirectPrintSettings settings) then none
  else some { m with directPrintSettings := normalizedDirectPrintSettings settings }

/-- `setDirectPrintSetting`. -/
def setDirectPrintSetting (key : String) (value : V) (m : State V) : Option (State V) :=
  if trimmed key = "" then none
  else
    setDirectPrintSettings
      ((normalizedDirectPrintSettings m.directPrintSettings).insert (trimmed key) value) m

/-- A path put at the key of a family, or none if the key is of no family or the path is there. -/
def familyPaths (familyKey path : String) (paths : OrderedMap String String) :
    Option (OrderedMap String String) :=
  let key := normalizedFamilyKey text familyKey
  if ¬ isSupportedFamilyKey key then none
  else if stringAt paths key = trimmed path then none
  else some (paths.insert key (trimmed path))

/-- The entries of a printer. -/
def familyMapOf (paths : OrderedMap String (QVariantMap V)) (printerKey : String) : QVariantMap V :=
  (paths.find? printerKey).getD .empty

/-- A path put at the key of a family of a printer, or none if the printer has no name, the key is
of no family or the path is there. -/
def printerFamilyPaths (printerName familyKey path : String)
    (paths : OrderedMap String (QVariantMap V)) : Option (OrderedMap String (QVariantMap V)) :=
  let printerKey := normalizedPrinterName text printerName
  let key := normalizedFamilyKey text familyKey
  if printerKey = "" ∨ ¬ isSupportedFamilyKey key then none
  else
    let familyMap := familyMapOf paths printerKey
    if QVariantApi.toString (value familyMap key) = trimmed path then none
    else some (paths.insert printerKey (familyMap.insert key (QVariantJson.ofString (trimmed path))))

/-- `setFamilyDefaultOutputProfile`. -/
def setFamilyDefaultOutputProfile (familyKey profilePath : String) (m : State V) :
    Option (State V) :=
  (familyPaths text familyKey profilePath m.familyDefaultOutputProfiles).map fun paths ↦
    { m with familyDefaultOutputProfiles := paths }

/-- `setPrinterFamilyOutputProfile`. -/
def setPrinterFamilyOutputProfile (printerName familyKey profilePath : String) (m : State V) :
    Option (State V) :=
  (printerFamilyPaths text printerName familyKey profilePath m.printerFamilyOutputProfiles).map
    fun paths ↦ { m with printerFamilyOutputProfiles := paths }

/-- `setFamilyDefaultLinearizationPath`. -/
def setFamilyDefaultLinearizationPath (familyKey xmlPath : String) (m : State V) :
    Option (State V) :=
  (familyPaths text familyKey xmlPath m.familyDefaultLinearizationPaths).map fun paths ↦
    { m with familyDefaultLinearizationPaths := paths }

/-- `setPrinterFamilyLinearizationPath`. -/
def setPrinterFamilyLinearizationPath (printerName familyKey xmlPath : String) (m : State V) :
    Option (State V) :=
  (printerFamilyPaths text printerName familyKey xmlPath m.printerFamilyLinearizationPaths).map
    fun paths ↦ { m with printerFamilyLinearizationPaths := paths }

/-- `setMinInkThreshold`. -/
def setMinInkThreshold (v : Int32) (m : State V) : State V :=
  if m.minInkThreshold = clampInt v 0 255 then m else { m with minInkThreshold := clampInt v 0 255 }

/-- `setSmallDotThreshold`. -/
def setSmallDotThreshold (v : Int32) (m : State V) : State V :=
  if m.smallDotThreshold = clampInt v 0 255 then m
  else { m with smallDotThreshold := clampInt v 0 255 }

/-- `setMedDotThreshold`. -/
def setMedDotThreshold (v : Int32) (m : State V) : State V :=
  if m.medDotThreshold = clampInt v 0 255 then m else { m with medDotThreshold := clampInt v 0 255 }

/-- `setEnablePromotion`. -/
def setEnablePromotion (v : Bool) (m : State V) : State V :=
  if m.enablePromotion = v then m else { m with enablePromotion := v }

/-- `setFloorRangeCMY`. -/
def setFloorRangeCMY (v : Int32) (m : State V) : State V :=
  if m.floorRangeCMY = clampInt v 0 64 then m else { m with floorRangeCMY := clampInt v 0 64 }

/-- `setFloorMaxCMY`. -/
def setFloorMaxCMY (v : Int32) (m : State V) : State V :=
  if m.floorMaxCMY = clampInt v 0 8 then m else { m with floorMaxCMY := clampInt v 0 8 }

/-- `setFloorRangeK`. -/
def setFloorRangeK (v : Int32) (m : State V) : State V :=
  if m.floorRangeK = clampInt v 0 64 then m else { m with floorRangeK := clampInt v 0 64 }

/-- `setFloorMaxK`. -/
def setFloorMaxK (v : Int32) (m : State V) : State V :=
  if m.floorMaxK = clampInt v 0 8 then m else { m with floorMaxK := clampInt v 0 8 }

/-- `setEnableDotSwap`. -/
def setEnableDotSwap (v : Bool) (m : State V) : State V :=
  if m.enableDotSwap = v then m else { m with enableDotSwap := v }

/-- `setLinearizationEnabled`. -/
def setLinearizationEnabled (enabled : Bool) (m : State V) : State V :=
  if m.enableLinearization = enabled then m else { m with enableLinearization := enabled }

/-- `setLinearizationPresetName`. -/
def setLinearizationPresetName (name : String) (m : State V) : State V :=
  if m.linearizationPresetName = trimmed name then m
  else { m with linearizationPresetName := trimmed name }

/-- `setLinearizationDataPath`. -/
def setLinearizationDataPath (path : String) (m : State V) : State V :=
  if m.linearizationDataPath = trimmed path then m
  else { m with linearizationDataPath := trimmed path }

/-- `getMultiInkParams`. -/
def getMultiInkParams (m : State V) (inkMode : Int) : QVariantMap V :=
  if ¬ isSupportedInkMode inkMode then .empty
  else (m.multiInkParamsByMode.find? inkMode).getD (defaultMultiInkParamsForMode inkMode)

/-- `setMultiInkParams`. -/
def setMultiInkParams (inkMode : Int) (params : QVariantMap V) (m : State V) : Option (State V) :=
  if ¬ isSupportedInkMode inkMode then none
  else
    some { m with
      multiInkParamsByMode :=
        m.multiInkParamsByMode.insert inkMode (mergedMultiInkParams inkMode params) }

/-- `setMultiInkParam`. -/
def setMultiInkParam (inkMode : Int) (key : String) (value : V) (m : State V) : Option (State V) :=
  if ¬ isSupportedInkMode inkMode then none
  else setMultiInkParams inkMode ((getMultiInkParams m inkMode).insert key value) m

/-! ## Getters

The getters that return a data member are the projections of `State`. -/

/-- `effectiveOutputProfile`. -/
def effectiveOutputProfile (m : State V) : String :=
  let v := if m.selectedPrinter = "" then none else m.printerOutputProfiles.find? m.selectedPrinter
  match v with
  | some v => if trimmed v ≠ "" then trimmed v else trimmed m.defaultOutputProfile
  | none => trimmed m.defaultOutputProfile

/-- `printerOutputProfile`. -/
def printerOutputProfile (m : State V) (printerName : String) : String :=
  stringAt m.printerOutputProfiles (normalizedPrinterName text printerName)

/-- The path of a family. -/
def familyPath (paths : OrderedMap String String) (familyKey : String) : String :=
  let key := normalizedFamilyKey text familyKey
  if ¬ isSupportedFamilyKey key then "" else trimmed (stringAt paths key)

/-- The path of a family of a printer. -/
def printerFamilyPath (paths : OrderedMap String (QVariantMap V)) (printerName familyKey : String) :
    String :=
  let printerKey := normalizedPrinterName text printerName
  let key := normalizedFamilyKey text familyKey
  if printerKey = "" ∨ ¬ isSupportedFamilyKey key then ""
  else trimmed (QVariantApi.toString (value (familyMapOf paths printerKey) key))

/-- The path of an ink mode of a printer: its own, else that of the family, else the fallback. -/
def effectivePath (printerPaths : OrderedMap String (QVariantMap V))
    (familyDefaults : OrderedMap String String) (fallback printerName : String) (inkMode : Int) :
    String :=
  let printerKey := normalizedPrinterName text printerName
  let familyKey := familyKeyForInkMode inkMode
  let own :=
    if printerKey = "" ∨ familyKey = "" then ""
    else trimmed (QVariantApi.toString (value (familyMapOf printerPaths printerKey) familyKey))
  let family := if familyKey = "" then "" else trimmed (stringAt familyDefaults familyKey)
  if own ≠ "" then own else if family ≠ "" then family else fallback

/-- `familyDefaultOutputProfile`. -/
def familyDefaultOutputProfile (m : State V) (familyKey : String) : String :=
  familyPath text m.familyDefaultOutputProfiles familyKey

/-- `printerFamilyOutputProfile`. -/
def printerFamilyOutputProfile (m : State V) (printerName familyKey : String) : String :=
  printerFamilyPath text m.printerFamilyOutputProfiles printerName familyKey

/-- `effectiveOutputProfileForPrinterAndInkMode`. -/
def effectiveOutputProfileForPrinterAndInkMode (m : State V) (printerName : String) (inkMode : Int) :
    String :=
  effectivePath text m.printerFamilyOutputProfiles m.familyDefaultOutputProfiles "" printerName
    inkMode

/-- `familyDefaultLinearizationPath`. -/
def familyDefaultLinearizationPath (m : State V) (familyKey : String) : String :=
  familyPath text m.familyDefaultLinearizationPaths familyKey

/-- `printerFamilyLinearizationPath`. -/
def printerFamilyLinearizationPath (m : State V) (printerName familyKey : String) : String :=
  printerFamilyPath text m.printerFamilyLinearizationPaths printerName familyKey

/-- `effectiveLinearizationPathForPrinterAndInkMode`. -/
def effectiveLinearizationPathForPrinterAndInkMode (m : State V) (printerName : String)
    (inkMode : Int) : String :=
  effectivePath text m.printerFamilyLinearizationPaths m.familyDefaultLinearizationPaths
    (trimmed m.linearizationDataPath) printerName inkMode

/-- `directPrintSdkFamilyForPrinter`. -/
def directPrintSdkFamilyForPrinter (printerName : String) : String :=
  let name := normalizedPrinterName text printerName
  if text.folded name = text.folded "X-33" then "legacy-cmyk"
  else if text.folded name = text.folded "X-36 Studio" then "multi-ink"
  else ""

/-- `directPrintSdkRootForPrinter`. -/
def directPrintSdkRootForPrinter (m : State V) (printerName : String) : String :=
  if directPrintSdkFamilyForPrinter text printerName = "multi-ink" then
    m.multiInkDirectPrintSdkRootPath
  else m.directPrintSdkRootPath

/-- `directPrintSettings`. -/
def directPrintSettings (m : State V) : QVariantMap V :=
  normalizedDirectPrintSettings m.directPrintSettings

/-- `directPrintSetting`. -/
def directPrintSetting (m : State V) (key : String) : V := value (directPrintSettings m) key

/-- `getMultiInkParam`. -/
def getMultiInkParam (m : State V) (inkMode : Int) (key : String) : V :=
  value (getMultiInkParams m inkMode) key

/-- The parameters with these keys. -/
def paramsAt (m : State V) (inkMode : Int) (keys : List String) : QVariantMap V :=
  .ofList (keys.map fun key ↦ (key, getMultiInkParam m inkMode key))

/-- `getWhiteParams`. -/
def getWhiteParams (m : State V) (inkMode : Int) : QVariantMap V :=
  paramsAt m inkMode
    ["whiteMode", "whiteThreshold", "whiteDensity", "whiteUseOwnDotStrategy",
      "whiteSmallDotThreshold", "whiteMedDotThreshold", "whiteEnablePromotion", "whiteMaskKey"]

/-- `getVarnishParams`. -/
def getVarnishParams (m : State V) (inkMode : Int) : QVariantMap V :=
  paramsAt m inkMode
    ["varnishMode", "varnishThreshold", "varnishDensity", "varnishUseOwnDotStrategy",
      "varnishSmallDotThreshold", "varnishMedDotThreshold", "varnishEnablePromotion",
      "varnishMaskKey"]

/-! ## Persistence -/

/-- The object of a map of strings. -/
def stringsToJson (map : OrderedMap String String) : Json := .ofObject (map.mapValues .string)

/-- The object of a map of printers. -/
def printersToJson (map : OrderedMap String (QVariantMap V)) : Json :=
  .ofObject (map.mapValues fun familyMap ↦ .ofObject (variantMapToJsonObject familyMap))

/-- The object of the parameters by mode. -/
def multiInkParamsToJson (map : OrderedMap Int (QVariantMap V)) : Json :=
  .ofObject (.ofList ((map.entries.filter fun entry ↦ isSupportedInkMode entry.1).map fun entry ↦
    (toString entry.1, .ofObject (variantMapToJsonObject (clampMapU8 entry.2)))))

/-- The object that `save` writes. -/
def savedObject (m : State V) : Json.Object :=
  .ofList
    [("selectedPrinter", .string m.selectedPrinter),
      ("defaultInputProfile", .string m.defaultInputProfile),
      ("defaultOutputProfile", .string m.defaultOutputProfile),
      ("minInkThreshold", .ofInt m.minInkThreshold),
      ("smallDotThreshold", .ofInt m.smallDotThreshold),
      ("medDotThreshold", .ofInt m.medDotThreshold), ("enablePromotion", .bool m.enablePromotion),
      ("floorRangeCMY", .ofInt m.floorRangeCMY), ("floorMaxCMY", .ofInt m.floorMaxCMY),
      ("floorRangeK", .ofInt m.floorRangeK), ("floorMaxK", .ofInt m.floorMaxK),
      ("enableDotSwap", .bool m.enableDotSwap),
      ("enableLinearization", .bool m.enableLinearization),
      ("linearizationPresetName", .string m.linearizationPresetName),
      ("linearizationDataPath", .string m.linearizationDataPath),
      ("multiInkOutputMode", .string m.multiInkOutputMode),
      ("directPrintSdkRootPath", .string m.directPrintSdkRootPath),
      ("multiInkDirectPrintSdkRootPath", .string m.multiInkDirectPrintSdkRootPath),
      ("directPrintSettings",
        .ofObject (variantMapToJsonObject (normalizedDirectPrintSettings m.directPrintSettings))),
      ("familyDefaultLinearizationPaths", stringsToJson m.familyDefaultLinearizationPaths),
      ("printerFamilyLinearizationPaths", printersToJson m.printerFamilyLinearizationPaths),
      ("printerOutputProfiles", stringsToJson m.printerOutputProfiles),
      ("familyDefaultOutputProfiles", stringsToJson m.familyDefaultOutputProfiles),
      ("printerFamilyOutputProfiles", printersToJson m.printerFamilyOutputProfiles),
      ("multiInkParamsByMode", multiInkParamsToJson m.multiInkParamsByMode)]

/-- The strings of an object, with the keys read in a way. -/
def stringsOf (readKey : String → String) (o : Json.Object) : OrderedMap String String :=
  .ofList (o.entries.map fun entry ↦ (readKey entry.1, entry.2.toString ""))

/-- The printers of an object. -/
def printersOf (o : Json.Object) : OrderedMap String (QVariantMap V) :=
  .ofList (o.entries.map fun entry ↦
    (normalizedPrinterName text entry.1, jsonObjectToVariantMap entry.2.toObject))

/-- The parameters of an object by mode; entries of no mode are skipped. -/
def multiInkParamsOf (o : Json.Object) : OrderedMap Int (QVariantMap V) :=
  .ofList (o.entries.filterMap fun entry ↦
    ((text.toInt entry.1).filter isSupportedInkMode).map fun mode ↦
      (mode, mergedMultiInkParams mode (jsonObjectToVariantMap entry.2.toObject)))

/-- What `load` makes of the manager with the object that it reads. -/
def restored (o : Json.Object) (m : State V) : State V :=
  let m := { m with
    selectedPrinter :=
      normalizedPrinterName text ((o.value "selectedPrinter").toString m.selectedPrinter)
    defaultInputProfile := (o.value "defaultInputProfile").toString m.defaultInputProfile
    defaultOutputProfile := (o.value "defaultOutputProfile").toString m.defaultOutputProfile }
  let m := setMinInkThreshold ((o.value "minInkThreshold").toInt m.minInkThreshold) m
  let m := setSmallDotThreshold ((o.value "smallDotThreshold").toInt m.smallDotThreshold) m
  let m := setMedDotThreshold ((o.value "medDotThreshold").toInt m.medDotThreshold) m
  let m := setEnablePromotion ((o.value "enablePromotion").toBool m.enablePromotion) m
  let m := setFloorRangeCMY ((o.value "floorRangeCMY").toInt m.floorRangeCMY) m
  let m := setFloorMaxCMY ((o.value "floorMaxCMY").toInt m.floorMaxCMY) m
  let m := setFloorRangeK ((o.value "floorRangeK").toInt m.floorRangeK) m
  let m := setFloorMaxK ((o.value "floorMaxK").toInt m.floorMaxK) m
  let m := setEnableDotSwap ((o.value "enableDotSwap").toBool m.enableDotSwap) m
  let m := setLinearizationEnabled ((o.value "enableLinearization").toBool m.enableLinearization) m
  let m := setLinearizationPresetName
    ((o.value "linearizationPresetName").toString m.linearizationPresetName) m
  let m := setLinearizationDataPath
    ((o.value "linearizationDataPath").toString m.linearizationDataPath) m
  -- The setters above clamp and trim; what follows is stored as it is normalized here.
  { m with
    multiInkOutputMode :=
      normalizedOutputMode text ((o.value "multiInkOutputMode").toString m.multiInkOutputMode)
    directPrintSdkRootPath :=
      trimmed ((o.value "directPrintSdkRootPath").toString m.directPrintSdkRootPath)
    multiInkDirectPrintSdkRootPath :=
      trimmed ((o.value "multiInkDirectPrintSdkRootPath").toString m.multiInkDirectPrintSdkRootPath)
    directPrintSettings :=
      normalizedDirectPrintSettings (jsonObjectToVariantMap (o.value "directPrintSettings").toObject)
    printerOutputProfiles :=
      stringsOf (normalizedPrinterName text) (o.value "printerOutputProfiles").toObject
    multiInkParamsByMode := multiInkParamsOf text (o.value "multiInkParamsByMode").toObject
    familyDefaultLinearizationPaths :=
      stringsOf id (o.value "familyDefaultLinearizationPaths").toObject
    printerFamilyLinearizationPaths :=
      printersOf text (o.value "printerFamilyLinearizationPaths").toObject
    familyDefaultOutputProfiles := stringsOf id (o.value "familyDefaultOutputProfiles").toObject
    printerFamilyOutputProfiles :=
      printersOf text (o.value "printerFamilyOutputProfiles").toObject }

/-- The settings file: its content, whether it can be opened for reading and for writing, and how
many bytes can be written to it. -/
structure SettingsFile where
  content : Option Bytes
  canRead : Bool
  canWrite : Bool
  room : Nat

/-- `load`. -/
def load (file : SettingsFile) (m : State V) : State V × Bool :=
  match (if file.canRead then file.content else none).bind text.json.read with
  | some (.object fields) => (restored text (OrderedMap.ofList fields) m, true)
  | _ => (m, false)

/-- `save`. A file that opens is cut to nothing before it is written. -/
def save (m : State V) (file : SettingsFile) : SettingsFile × Bool :=
  let bytes := text.json.write (.ofObject (savedObject m))
  if file.canWrite then
    ({ file with content := some (bytes.take file.room) }, decide (bytes.length ≤ file.room))
  else (file, false)

/-- The constructor. -/
def construct (file : SettingsFile) : State V :=
  let loaded := load text file ({} : State V)
  if loaded.2 then loaded.1 else resetToDefaults

/-! ## Runs -/

/-- A manager and its settings file. -/
structure World (V : Type) where
  manager : State V
  file : SettingsFile

/-- What happens to a manager: a call, or something that changes the file from outside. -/
inductive Call (V : Type) where
  | setSelectedPrinter (p : String)
  | setDefaultInputProfile (p : String)
  | setDefaultOutputProfile (p : String)
  | setPrinterOutputProfile (printerName profilePath : String)
  | setMultiInkOutputMode (mode : String)
  | setDirectPrintSdkRootPath (path : String)
  | setMultiInkDirectPrintSdkRootPath (path : String)
  | setDirectPrintSettings (settings : QVariantMap V)
  | setDirectPrintSetting (key : String) (value : V)
  | setFamilyDefaultOutputProfile (familyKey profilePath : String)
  | setPrinterFamilyOutputProfile (printerName familyKey profilePath : String)
  | setMinInkThreshold (v : Int32)
  | setSmallDotThreshold (v : Int32)
  | setMedDotThreshold (v : Int32)
  | setEnablePromotion (v : Bool)
  | setFloorRangeCMY (v : Int32)
  | setFloorMaxCMY (v : Int32)
  | setFloorRangeK (v : Int32)
  | setFloorMaxK (v : Int32)
  | setEnableDotSwap (v : Bool)
  | setLinearizationEnabled (enabled : Bool)
  | setLinearizationPresetName (name : String)
  | setLinearizationDataPath (path : String)
  | setFamilyDefaultLinearizationPath (familyKey xmlPath : String)
  | setPrinterFamilyLinearizationPath (printerName familyKey xmlPath : String)
  | setMultiInkParams (inkMode : Int) (params : QVariantMap V)
  | setMultiInkParam (inkMode : Int) (key : String) (value : V)
  | load
  | save
  | resetToDefaults
  | outside (file : SettingsFile)

/-- Store what a setter changed and save it. -/
def andSave (w : World V) (changed : Option (State V)) : World V :=
  match changed with
  | none => w
  | some m => ⟨m, (save text m w.file).1⟩

/-- One call. -/
def step (w : World V) : Call V → World V
  | .setSelectedPrinter p => { w with manager := setSelectedPrinter text p w.manager }
  | .setDefaultInputProfile p => { w with manager := setDefaultInputProfile p w.manager }
  | .setDefaultOutputProfile p => { w with manager := setDefaultOutputProfile p w.manager }
  | .setPrinterOutputProfile printerName profilePath =>
      { w with manager := setPrinterOutputProfile text printerName profilePath w.manager }
  | .setMultiInkOutputMode mode => andSave text w (setMultiInkOutputMode text mode w.manager)
  | .setDirectPrintSdkRootPath path => andSave text w (setDirectPrintSdkRootPath path w.manager)
  | .setMultiInkDirectPrintSdkRootPath path =>
      andSave text w (setMultiInkDirectPrintSdkRootPath path w.manager)
  | .setDirectPrintSettings settings =>
      andSave text w (setDirectPrintSettings settings w.manager)
  | .setDirectPrintSetting key value =>
      andSave text w (setDirectPrintSetting key value w.manager)
  | .setFamilyDefaultOutputProfile familyKey profilePath =>
      andSave text w (setFamilyDefaultOutputProfile text familyKey profilePath w.manager)
  | .setPrinterFamilyOutputProfile printerName familyKey profilePath =>
      andSave text w
        (setPrinterFamilyOutputProfile text printerName familyKey profilePath w.manager)
  | .setMinInkThreshold v => { w with manager := setMinInkThreshold v w.manager }
  | .setSmallDotThreshold v => { w with manager := setSmallDotThreshold v w.manager }
  | .setMedDotThreshold v => { w with manager := setMedDotThreshold v w.manager }
  | .setEnablePromotion v => { w with manager := setEnablePromotion v w.manager }
  | .setFloorRangeCMY v => { w with manager := setFloorRangeCMY v w.manager }
  | .setFloorMaxCMY v => { w with manager := setFloorMaxCMY v w.manager }
  | .setFloorRangeK v => { w with manager := setFloorRangeK v w.manager }
  | .setFloorMaxK v => { w with manager := setFloorMaxK v w.manager }
  | .setEnableDotSwap v => { w with manager := setEnableDotSwap v w.manager }
  | .setLinearizationEnabled enabled =>
      { w with manager := setLinearizationEnabled enabled w.manager }
  | .setLinearizationPresetName name =>
      { w with manager := setLinearizationPresetName name w.manager }
  | .setLinearizationDataPath path => { w with manager := setLinearizationDataPath path w.manager }
  | .setFamilyDefaultLinearizationPath familyKey xmlPath =>
      andSave text w (setFamilyDefaultLinearizationPath text familyKey xmlPath w.manager)
  | .setPrinterFamilyLinearizationPath printerName familyKey xmlPath =>
      andSave text w
        (setPrinterFamilyLinearizationPath text printerName familyKey xmlPath w.manager)
  | .setMultiInkParams inkMode params =>
      andSave text w (setMultiInkParams inkMode params w.manager)
  | .setMultiInkParam inkMode key value =>
      andSave text w (setMultiInkParam inkMode key value w.manager)
  | .load => { w with manager := (load text w.file w.manager).1 }
  | .save => { w with file := (save text w.manager w.file).1 }
  | .resetToDefaults => { w with manager := resetToDefaults }
  | .outside file => { w with file := file }

/-- A run from construction. -/
def run (file : SettingsFile) (calls : List (Call V)) : World V :=
  calls.foldl (step text) ⟨construct text file, file⟩

end Manager

end ColorManagementManager

end PrintFlow
