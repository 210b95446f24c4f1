import PrintFlow.Core.KeptSettings

/-!
# Settings across a restart

The manager of a run is kept, so loading changes nothing of what saving wrote: the strings, numbers
and paths are read back as they are, the direct-print settings and the ink parameters up to the type
of their numbers. `settings_survive_restart` says that a manager in any state that loads a saved
file gives the same settings, and saves the same document.
-/

namespace PrintFlow.ColorManagementManager

open FloatFormat OrderedMap

variable {V : Type} [QVariantJson V] [QVariantApi V] [QVariantOf V] [LawfulQVariantJson V]

/-! ## What is saved -/

section Saved

variable {text : QtText} {m : State V} (h : Kept text m)

include h

omit [LawfulQVariantJson V] in
/-- The parameters that a manager holds for a mode are clamped. -/
theorem Kept.clamped {entry : Int × QVariantMap V}
    (hentry : entry ∈ m.multiInkParamsByMode.entries) :
    clampMapU8 entry.2 = entry.2 :=
  clamp_of_merged (h.multiInkParamsByMode entry hentry).merged

omit [LawfulQVariantJson V] in
/-- The document of a manager that is kept has no infinite numbers. -/
theorem saved_finite : (savedObject m).Forall Json.Finite := by
  have hstrings : ∀ map : OrderedMap String String, (stringsToJson map).Finite :=
    fun _ ↦ Json.Finite.of_object (Forall.map_values fun _ _ _ ↦ Json.scrub_string _)
  have hprinters : ∀ map : OrderedMap String (QVariantMap V),
      (∀ printer ∈ map.entries, PrinterKept text printer) → (printersToJson map).Finite := by
    intro map hmap
    refine Json.Finite.of_object (Forall.map_values fun name familyMap hfound ↦ ?_)
    have hexact := (hmap _ (mem_entries.mpr hfound)).exact
    exact Json.Finite.of_object (Forall.map_values fun key value hvalue ↦
      (hexact key value hvalue).finite)
  have hdirect : (Json.ofObject (variantMapToJsonObject
      (normalizedDirectPrintSettings m.directPrintSettings))).Finite := by
    rw [h.directPrintSettings]
    exact Json.Finite.of_object (Forall.map_values fun key value hvalue ↦
      (h.directPrintValues key value hvalue).finite)
  have hmodes : (multiInkParamsToJson m.multiInkParamsByMode).Finite := by
    refine Json.Finite.of_object ((forall_empty _).insert_all fun entry hentry ↦ ?_)
    obtain ⟨source, hsource, rfl⟩ := List.mem_map.mp hentry
    have hmem := (List.mem_filter.mp hsource).1
    rw [h.clamped hmem]
    exact Json.Finite.of_object (Forall.map_values fun key value hvalue ↦
      ((h.multiInkParamsByMode source hmem).representable key value hvalue).finite)
  have hlinearization := hprinters _ h.printerFamilyLinearizationPaths
  have hprofiles := hprinters _ h.printerFamilyOutputProfiles
  refine (forall_empty _).insert_all ?_
  simp only [List.forall_mem_cons, hstrings, hdirect, hmodes, hlinearization, hprofiles, true_and]
  simp [Json.Finite]

omit [QVariantJson V] [QVariantApi V] [QVariantOf V] [LawfulQVariantJson V] h in
/-- Strings whose keys are read as they are are read back. -/
theorem strings_of_saved {readKey : String → String} {map : OrderedMap String String}
    (hkeys : ∀ entry ∈ map.entries, readKey entry.1 = entry.1) :
    stringsOf readKey (stringsToJson map).toObject = map := by
  have hentries : (map.mapValues Json.string).entries.map
      (fun entry ↦ (readKey entry.1, entry.2.toString "")) = map.entries := by
    rw [mapValues, List.map_map]
    refine (List.map_congr_left fun entry hentry ↦ ?_).trans (List.map_id _)
    show (readKey entry.1, entry.2) = entry
    rw [hkeys entry hentry]
  rw [stringsOf, stringsToJson, Json.to_object_of_object, hentries, of_list_entries]

omit [QVariantApi V] [QVariantOf V] [LawfulQVariantJson V] h in
/-- The paths of printers are read back. -/
theorem printers_of_saved {map : OrderedMap String (QVariantMap V)}
    (hmap : ∀ printer ∈ map.entries, PrinterKept text printer) :
    printersOf text (printersToJson map).toObject = map := by
  have hentries : (map.mapValues fun familyMap ↦
        Json.ofObject (variantMapToJsonObject familyMap)).entries.map
      (fun entry ↦ (normalizedPrinterName text entry.1,
        (jsonObjectToVariantMap entry.2.toObject : QVariantMap V))) = map.entries := by
    rw [mapValues, List.map_map]
    refine (List.map_congr_left fun printer hprinter ↦ ?_).trans (List.map_id _)
    have hkept := hmap printer hprinter
    have hvalues : (jsonObjectToVariantMap (variantMapToJsonObject printer.2) : QVariantMap V) =
        printer.2 := by
      rw [jsonObjectToVariantMap, variantMapToJsonObject, map_values_map_values]
      exact map_values_eq_self fun key value hvalue ↦ (hkept.exact key value hvalue).read
    show (normalizedPrinterName text printer.1, jsonObjectToVariantMap
      (Json.ofObject (variantMapToJsonObject printer.2)).toObject) = printer
    rw [Json.to_object_of_object, hvalues, hkept.name]
  rw [printersOf, printersToJson, Json.to_object_of_object, hentries, of_list_entries]

omit [LawfulQVariantJson V] in
/-- What loading the document of a manager gives. -/
theorem restored_saved (other : State V) :
    restored text (savedObject m) other =
      { m with
        directPrintSettings := normalizedDirectPrintSettings
          (jsonObjectToVariantMap (variantMapToJsonObject m.directPrintSettings))
        multiInkParamsByMode :=
          multiInkParamsOf text (multiInkParamsToJson m.multiInkParamsByMode).toObject } := by
  unfold restored
  simp only [set_min_ink_threshold_eq, set_small_dot_threshold_eq, set_med_dot_threshold_eq,
    set_enable_promotion_eq, set_floor_range_cmy_eq, set_floor_max_cmy_eq, set_floor_range_k_eq,
    set_floor_max_k_eq, set_enable_dot_swap_eq, set_linearization_enabled_eq,
    set_linearization_preset_name_eq, set_linearization_data_path_eq]
  have hstrings : ∀ map : OrderedMap String String,
      stringsOf id (stringsToJson map).toObject = map :=
    fun _ ↦ strings_of_saved fun _ _ ↦ rfl
  simp [savedObject, ofList, insertAll, Json.Object.value, Json.toString, Json.toBool,
    h.selectedPrinter, h.minInkThreshold, h.smallDotThreshold, h.medDotThreshold, h.floorRangeCMY,
    h.floorMaxCMY, h.floorRangeK, h.floorMaxK, h.linearizationPresetName, h.linearizationDataPath,
    h.multiInkOutputMode, h.directPrintSdkRootPath, h.multiInkDirectPrintSdkRootPath,
    h.directPrintSettings, strings_of_saved h.printerOutputProfiles,
    hstrings, printers_of_saved h.printerFamilyLinearizationPaths,
    printers_of_saved h.printerFamilyOutputProfiles]

/-- The parameters of a manager by mode are read back. -/
theorem multi_ink_params_of_saved (htext : text.Lawful) :
    (multiInkParamsOf text (multiInkParamsToJson m.multiInkParamsByMode).toObject).Related
      (fun copy params ↦ copy.Related Restores params) m.multiInkParamsByMode := by
  intro mode
  have hfilter : (m.multiInkParamsByMode.entries.filter fun entry ↦ isSupportedInkMode entry.1) =
      m.multiInkParamsByMode.entries :=
    List.filter_eq_self.mpr fun entry hentry ↦ (h.multiInkParamsByMode entry hentry).supported
  have hdecode : ∀ entry ∈ m.multiInkParamsByMode.entries,
      (text.toInt (toString entry.1)).filter isSupportedInkMode = some entry.1 := by
    intro entry hentry
    have hmode := (h.multiInkParamsByMode entry hentry).supported
    rw [htext.to_int _ hmode, Option.filter_some, if_pos hmode]
  have hfind := @find_decoded Int (QVariantMap V) _ String Json (QVariantMap V) _
    (fun mode ↦ toString mode) (fun code ↦ (text.toInt code).filter isSupportedInkMode)
    m.multiInkParamsByMode hdecode
    (fun params ↦ Json.ofObject (variantMapToJsonObject (clampMapU8 params)))
    (fun mode json ↦ mergedMultiInkParams mode (jsonObjectToVariantMap json.toObject)) mode
  unfold multiInkParamsOf multiInkParamsToJson
  rw [hfilter, Json.to_object_of_object, hfind]
  cases hfound : m.multiInkParamsByMode.find? mode with
  | none => exact .none
  | some params =>
      have hentry := mem_entries.mpr hfound
      have hkept := h.multiInkParamsByMode _ hentry
      refine .some ?_
      dsimp only
      rw [Json.to_object_of_object, h.clamped hentry]
      exact multi_ink_params_restored hkept.representable hkept.merged

omit [LawfulQVariantJson V] in
/-- Parameters by mode that are the same have the same object. -/
theorem multi_ink_params_to_json_eq {copy : State V} (hcopy : Kept text copy)
    (hmodes : copy.multiInkParamsByMode.Related (fun copy params ↦ copy.Related Restores params)
      m.multiInkParamsByMode) :
    multiInkParamsToJson copy.multiInkParamsByMode =
      multiInkParamsToJson m.multiInkParamsByMode := by
  have hobject : ∀ map : OrderedMap Int (QVariantMap V), multiInkParamsToJson map =
      .ofObject (.ofList (((map.mapValues fun params ↦
        Json.ofObject (variantMapToJsonObject (clampMapU8 params))).entries.filter fun entry ↦
          isSupportedInkMode entry.1).map fun entry ↦ (toString entry.1, entry.2))) := by
    intro map
    rw [multiInkParamsToJson, mapValues, List.filter_map, List.map_map]
    rfl
  rw [hobject, hobject, map_values_eq_iff.mpr]
  refine hmodes.imp fun mode restored params hrestored hparams hsame ↦ ?_
  rw [hcopy.clamped (mem_entries.mpr hrestored), h.clamped (mem_entries.mpr hparams)]
  exact congrArg Json.ofObject
    (map_values_eq_iff.mpr (hsame.imp fun _ _ _ _ _ hvalue ↦ hvalue.json))

end Saved

/-! ## After a restart -/

/-- Every getter gives the same value for two managers; variants are the same when they are equal
with numbers compared as numbers. -/
structure SameSettings (text : QtText) (copy m : State V) : Prop where
  selectedPrinter : copy.selectedPrinter = m.selectedPrinter
  defaultInputProfile : copy.defaultInputProfile = m.defaultInputProfile
  defaultOutputProfile : copy.defaultOutputProfile = m.defaultOutputProfile
  effectiveOutputProfile : effectiveOutputProfile copy = effectiveOutputProfile m
  minInkThreshold : copy.minInkThreshold = m.minInkThreshold
  smallDotThreshold : copy.smallDotThreshold = m.smallDotThreshold
  medDotThreshold : copy.medDotThreshold = m.medDotThreshold
  enablePromotion : copy.enablePromotion = m.enablePromotion
  floorRangeCMY : copy.floorRangeCMY = m.floorRangeCMY
  floorMaxCMY : copy.floorMaxCMY = m.floorMaxCMY
  floorRangeK : copy.floorRangeK = m.floorRangeK
  floorMaxK : copy.floorMaxK = m.floorMaxK
  enableDotSwap : copy.enableDotSwap = m.enableDotSwap
  linearizationEnabled : copy.enableLinearization = m.enableLinearization
  linearizationPresetName : copy.linearizationPresetName = m.linearizationPresetName
  linearizationDataPath : copy.linearizationDataPath = m.linearizationDataPath
  multiInkOutputMode : copy.multiInkOutputMode = m.multiInkOutputMode
  directPrintSdkRootPath : copy.directPrintSdkRootPath = m.directPrintSdkRootPath
  multiInkDirectPrintSdkRootPath :
    copy.multiInkDirectPrintSdkRootPath = m.multiInkDirectPrintSdkRootPath
  directPrintSdkRootForPrinter (printerName : String) :
    directPrintSdkRootForPrinter text copy printerName =
      directPrintSdkRootForPrinter text m printerName
  printerOutputProfile (printerName : String) :
    printerOutputProfile text copy printerName = printerOutputProfile text m printerName
  familyDefaultOutputProfile (familyKey : String) :
    familyDefaultOutputProfile text copy familyKey = familyDefaultOutputProfile text m familyKey
  printerFamilyOutputProfile (printerName familyKey : String) :
    printerFamilyOutputProfile text copy printerName familyKey =
      printerFamilyOutputProfile text m printerName familyKey
  effectiveOutputProfileForPrinterAndInkMode (printerName : String) (inkMode : Int) :
    effectiveOutputProfileForPrinterAndInkMode text copy printerName inkMode =
      effectiveOutputProfileForPrinterAndInkMode text m printerName inkMode
  familyDefaultLinearizationPath (familyKey : String) :
    familyDefaultLinearizationPath text copy familyKey =
      familyDefaultLinearizationPath text m familyKey
  printerFamilyLinearizationPath (printerName familyKey : String) :
    printerFamilyLinearizationPath text copy printerName familyKey =
      printerFamilyLinearizationPath text m printerName familyKey
  effectiveLinearizationPathForPrinterAndInkMode (printerName : String) (inkMode : Int) :
    effectiveLinearizationPathForPrinterAndInkMode text copy printerName inkMode =
      effectiveLinearizationPathForPrinterAndInkMode text m printerName inkMode
  directPrintSettings :
    (directPrintSettings copy).Related QVariantJson.Same (directPrintSettings m)
  directPrintSetting (key : String) :
    QVariantJson.Same (directPrintSetting copy key) (directPrintSetting m key)
  getMultiInkParams (inkMode : Int) :
    (getMultiInkParams copy inkMode).Related QVariantJson.Same (getMultiInkParams m inkMode)
  getMultiInkParam (inkMode : Int) (key : String) :
    QVariantJson.Same (getMultiInkParam copy inkMode key) (getMultiInkParam m inkMode key)
  getWhiteParams (inkMode : Int) :
    (getWhiteParams copy inkMode).Related QVariantJson.Same (getWhiteParams m inkMode)
  getVarnishParams (inkMode : Int) :
    (getVarnishParams copy inkMode).Related QVariantJson.Same (getVarnishParams m inkMode)

omit [QVariantApi V] [QVariantOf V] [LawfulQVariantJson V] in
/-- Restored maps hold the same values. -/
theorem related_same {copy params : QVariantMap V} (h : copy.Related Restores params) :
    copy.Related QVariantJson.Same params :=
  h.imp fun _ _ _ _ _ hvalue ↦ hvalue.same

/-- Maps that hold the same values give the same value for a key. -/
theorem value_same {copy params : QVariantMap V} (h : copy.Related QVariantJson.Same params)
    (key : String) : QVariantJson.Same (value copy key) (value params key) := by
  have hkey := h key
  unfold value
  generalize copy.find? key = restored at hkey ⊢
  generalize params.find? key = saved at hkey ⊢
  cases hkey with
  | none => exact LawfulQVariantJson.same_refl _
  | some hvalue => exact hvalue

/-- Restored parameters by mode give the same parameters for a mode. -/
theorem get_multi_ink_params_same {copy m : State V}
    (h : copy.multiInkParamsByMode.Related (fun copy params ↦ copy.Related Restores params)
      m.multiInkParamsByMode) (inkMode : Int) :
    (getMultiInkParams copy inkMode).Related QVariantJson.Same (getMultiInkParams m inkMode) := by
  have hmode := h inkMode
  unfold getMultiInkParams
  split_ifs
  · generalize copy.multiInkParamsByMode.find? inkMode = restored at hmode ⊢
    generalize m.multiInkParamsByMode.find? inkMode = saved at hmode ⊢
    cases hmode with
    | none => exact Related.refl LawfulQVariantJson.same_refl _
    | some hparams => exact related_same hparams
  · exact fun _ ↦ .none

/-- A manager with the same settings but for restored maps gives the same values. -/
theorem restored_getters {text : QtText} {m : State V} (h : Kept text m) {settings : QVariantMap V}
    {params : OrderedMap Int (QVariantMap V)}
    (hsettings : normalizedDirectPrintSettings settings = settings)
    (hdirect : settings.Related Restores m.directPrintSettings)
    (hmodes : params.Related (fun copy params ↦ copy.Related Restores params)
      m.multiInkParamsByMode) :
    SameSettings text { m with directPrintSettings := settings, multiInkParamsByMode := params }
      m := by
  have hsame : (directPrintSettings
      { m with directPrintSettings := settings, multiInkParamsByMode := params }).Related
        QVariantJson.Same (directPrintSettings m) := by
    unfold directPrintSettings
    dsimp only
    rw [hsettings, h.directPrintSettings]
    exact related_same hdirect
  have hink : ∀ inkMode, (getMultiInkParams
      { m with directPrintSettings := settings, multiInkParamsByMode := params } inkMode).Related
        QVariantJson.Same (getMultiInkParams m inkMode) :=
    fun inkMode ↦ get_multi_ink_params_same hmodes inkMode
  exact
    { selectedPrinter := rfl
      defaultInputProfile := rfl
      defaultOutputProfile := rfl
      effectiveOutputProfile := rfl
      minInkThreshold := rfl
      smallDotThreshold := rfl
      medDotThreshold := rfl
      enablePromotion := rfl
      floorRangeCMY := rfl
      floorMaxCMY := rfl
      floorRangeK := rfl
      floorMaxK := rfl
      enableDotSwap := rfl
      linearizationEnabled := rfl
      linearizationPresetName := rfl
      linearizationDataPath := rfl
      multiInkOutputMode := rfl
      directPrintSdkRootPath := rfl
      multiInkDirectPrintSdkRootPath := rfl
      directPrintSdkRootForPrinter := fun _ ↦ rfl
      printerOutputProfile := fun _ ↦ rfl
      familyDefaultOutputProfile := fun _ ↦ rfl
      printerFamilyOutputProfile := fun _ _ ↦ rfl
      effectiveOutputProfileForPrinterAndInkMode := fun _ _ ↦ rfl
      familyDefaultLinearizationPath := fun _ ↦ rfl
      printerFamilyLinearizationPath := fun _ _ ↦ rfl
      effectiveLinearizationPathForPrinterAndInkMode := fun _ _ ↦ rfl
      directPrintSettings := hsame
      directPrintSetting := fun key ↦ value_same hsame key
      getMultiInkParams := hink
      getMultiInkParam := fun inkMode key ↦ value_same (hink inkMode) key
      getWhiteParams := fun inkMode ↦ related_of_list (fun key ↦ value_same (hink inkMode) key) _
      getVarnishParams := fun inkMode ↦
        related_of_list (fun key ↦ value_same (hink inkMode) key) _ }

/-- A manager that loads what a manager saved has the same settings and saves the same document. -/
theorem restored_same {text : QtText} (htext : text.Lawful) {m : State V} (h : Kept text m)
    (other : State V) :
    SameSettings text (restored text (savedObject m) other) m ∧
      savedObject (restored text (savedObject m) other) = savedObject m := by
  have hcopy := restored_kept htext (saved_finite h) other
  have hmodes := multi_ink_params_of_saved h htext
  have hdirect := direct_print_settings_restored h.directPrintValues h.directPrintSettings
  rw [restored_saved h other] at hcopy ⊢
  generalize normalizedDirectPrintSettings (jsonObjectToVariantMap
    (variantMapToJsonObject m.directPrintSettings) : QVariantMap V) = settings at hcopy hdirect ⊢
  generalize (multiInkParamsOf text (multiInkParamsToJson m.multiInkParamsByMode).toObject :
    OrderedMap Int (QVariantMap V)) = params at hcopy hmodes ⊢
  have hsettings : normalizedDirectPrintSettings settings = settings := hcopy.directPrintSettings
  have hdocument : variantMapToJsonObject settings = variantMapToJsonObject m.directPrintSettings :=
    map_values_eq_iff.mpr (hdirect.imp fun _ _ _ _ _ hvalue ↦ hvalue.json)
  have hparams : multiInkParamsToJson params = multiInkParamsToJson m.multiInkParamsByMode :=
    multi_ink_params_to_json_eq h hcopy hmodes
  refine ⟨restored_getters h hsettings hdirect hmodes, ?_⟩
  unfold savedObject
  dsimp only
  rw [hsettings, h.directPrintSettings, hdocument, hparams]

/-- A manager in any state that loads what the manager of a run saved gives the same settings, and
saves the same document. -/
theorem settings_survive_restart {text : QtText} (htext : text.Lawful) (start : SettingsFile)
    {calls : List (Call V)} (hcalls : ∀ call ∈ calls, call.Storable) {file saved : SettingsFile}
    (hkeeps : text.json.Keeps (.ofObject (savedObject (run text start calls).manager)))
    (hsave : save text (run text start calls).manager file = (saved, true))
    (hread : saved.canRead = true) (other : State V) :
    ∃ copy, load text saved other = (copy, true) ∧
      SameSettings text copy (run text start calls).manager ∧
      savedObject copy = savedObject (run text start calls).manager ∧
      ∀ file, save text copy file = save text (run text start calls).manager file := by
  have hkept := run_kept htext start hcalls
  generalize (run text start calls).manager = m at hkept hkeeps hsave ⊢
  obtain ⟨hsettings, hdocument⟩ := restored_same htext hkept other
  -- A save that succeeds had room for the whole document.
  have hcontent : saved.content = some (text.json.write (.ofObject (savedObject m))) := by
    unfold save at hsave
    dsimp only at hsave
    split at hsave
    · obtain ⟨hfile, hroom⟩ := Prod.mk.injEq .. ▸ hsave
      rw [← hfile]
      dsimp only
      rw [List.take_of_length_le (of_decide_eq_true hroom)]
    · exact absurd (congrArg Prod.snd hsave) Bool.false_ne_true
  have hfinite : (Json.ofObject (savedObject m)).scrub = .ofObject (savedObject m) :=
    Json.Finite.of_object (saved_finite hkept)
  have hload : load text saved other = (restored text (savedObject m) other, true) := by
    unfold load
    rw [if_pos hread, hcontent, Option.bind_some, hkeeps, hfinite]
    dsimp only [Json.ofObject]
    rw [of_list_entries]
  refine ⟨_, hload, hsettings, hdocument, fun file ↦ ?_⟩
  unfold save
  rw [hdocument]

/-! ## A concrete restart -/

/-- A variant that is its JSON form. -/
instance : QVariantApi Json where
  toInt
    | .bool value => if value then 1 else 0
    | value => value.toInt 0
  toUInt value := (value.toInt 0).toUInt32
  toULongLong value := (value.toInt 0).toInt64.toUInt64
  toBool
    | .bool value => value
    | .number value => value != .finite 0
    | _ => false
  toDouble value := value.toDouble (.finite 0)
  toString value := value.toString ""
  toByteArray value := (value.toString "").toUTF8.toList
  toList
    | .array values => values
    | _ => []
  toMap
    | .object fields => (fields.lookup ·)
    | _ => fun _ ↦ none

instance : QVariantOf Json where
  ofInt := .ofInt
  ofULongLong value := .number (.finite value.toNat)
  ofDouble := .number
  ofByteArray bytes := .string (String.ofList (bytes.map fun byte ↦ Char.ofNat byte.toNat))
  ofList := .array

instance : QVariantJson Json where
  invalid := .null
  ofBool := .bool
  ofString := .string
  fromVariant := id
  toVariant := id
  Same first second := first = second
  equalMaps _ _ := false

instance : LawfulQVariantJson Json where
  to_int value := Json.to_int_of_int 0 value
  to_bool _ := rfl
  to_string _ := rfl
  bool_to_int _ := rfl
  int_to_bool value := by
    show (Double.finite value.toInt != .finite 0) = (value != 0)
    by_cases hzero : value = 0
    · rw [hzero]
      rfl
    · have hint : (value.toInt : ℚ) ≠ 0 := fun h ↦ hzero (Int32.toInt_inj.mp (by exact_mod_cast h))
      rw [bne_iff_ne.mpr hzero, bne_iff_ne]
      exact fun h ↦ hint (Double.finite.inj h)
  from_int _ := rfl
  from_bool _ := rfl
  from_string _ := rfl
  int_of_json value := Json.to_int_of_int 0 value
  same_int _ := rfl
  bool_of_json _ := rfl
  string_of_json _ := rfl
  from_to _ _ := rfl
  same_refl _ := rfl

mutual

/-- The indented text of a value whose numbers are integers and whose strings need no escapes, after
a margin. -/
def indented : Json → String → String
  | .null, _ => "null"
  | .bool value, _ => toString value
  | .number (.finite value), _ => toString value.num
  | .number _, _ => "null"
  | .string value, _ => "\"" ++ value ++ "\""
  | .array values, margin =>
      "[\n" ++ ",\n".intercalate (indentedValues values (margin ++ "    ")) ++ "\n" ++ margin ++ "]"
  | .object fields, margin =>
      "\x7b\n" ++ ",\n".intercalate (indentedFields fields (margin ++ "    ")) ++ "\n" ++ margin ++
        "\x7d"

/-- The lines of the values of an array. -/
def indentedValues : List Json → String → List String
  | [], _ => []
  | value :: rest, margin => (margin ++ indented value margin) :: indentedValues rest margin

/-- The lines of the fields of an object. -/
def indentedFields : List (String × Json) → String → List String
  | [], _ => []
  | (name, value) :: rest, margin =>
      (margin ++ "\"" ++ name ++ "\": " ++ indented value margin) :: indentedFields rest margin

end

/-- Text functions for ASCII, where the text of one document can be read. -/
def asciiText (document : Json) : QtText where
  folded text := String.ofList (text.toList.map Char.toLower)
  toLower text := String.ofList (text.toList.map Char.toLower)
  toUpper text := String.ofList (text.toList.map Char.toUpper)
  toInt text :=
    if text ≠ "" ∧ text.toList.all Char.isDigit then
      some (text.toList.foldl (fun number digit ↦ 10 * number + (digit.toNat - 48)) 0)
    else none
  json.write document := (indented document "" ++ "\n").toUTF8.toList
  json.read bytes :=
    if bytes = (indented document "" ++ "\n").toUTF8.toList then some document else none

theorem ascii_text_lawful {document : Json} (h : document.Finite) :
    (asciiText document).Lawful where
  folded_x33 := by
    show ∀ name ∈ ["X-36 Studio", "X-36NC (Photo Printer)", "X-36NC"],
      String.ofList ("X-33".toList.map Char.toLower) ≠ String.ofList (name.toList.map Char.toLower)
    decide +kernel
  to_lower_direct := show String.ofList ("direct".toList.map Char.toLower) = "direct" by decide +kernel
  to_lower_prn := show String.ofList ("prn".toList.map Char.toLower) = "prn" by decide +kernel
  to_int mode h := by
    have hread : ∀ mode ∈ ([4, 5, 6, 7, 8, 10] : List Int),
        (asciiText .null).toInt (toString mode) = some mode := by
      decide +kernel
    refine hread mode ?_
    simp only [isSupportedInkMode, Bool.or_eq_true, beq_iff_eq] at h
    simp only [List.mem_cons, List.not_mem_nil, or_false]
    tauto
  read_finite := by
    intro bytes other hread
    dsimp only [asciiText] at hread
    split_ifs at hread
    obtain rfl := Option.some.inj hread
    exact h

/-- No settings file yet, where one can be written on a disk with this much room. -/
def noSettings (room : Nat) : SettingsFile := ⟨none, true, true, room⟩

/-- A printer is selected by its old name and a density out of range is set. -/
def printerCalls : List (Call Json) :=
  [.setSelectedPrinter "X-36NC", .setMultiInkParam 5 "whiteDensity" (.ofInt 300)]

/-- The manager after the calls. -/
def printerManager : State Json :=
  { resetToDefaults with
    selectedPrinter := "X-36 Studio"
    multiInkParamsByMode := resetToDefaults.multiInkParamsByMode.insert 5
      (mergedMultiInkParams 5
        ((getMultiInkParams (resetToDefaults : State Json) 5).insert "whiteDensity" (.ofInt 300))) }

/-- The run reads no file, so its manager does not depend on the document. -/
theorem printer_manager_eq (document : Json) (room : Nat) :
    (run (asciiText document) (noSettings room) printerCalls).manager = printerManager := by
  have hconstruct : construct (asciiText document) (noSettings room) =
      (resetToDefaults : State Json) := rfl
  have htrimmed : trimmed "X-36NC" = "X-36NC" := by decide +kernel
  have hname : normalizedPrinterName (asciiText document) "X-36NC" = "X-36 Studio" := by
    unfold normalizedPrinterName
    rw [htrimmed]
    exact if_pos (.inr (.inr rfl))
  have hmode : isSupportedInkMode 5 = true := rfl
  unfold run printerCalls
  rw [hconstruct, List.foldl_cons, List.foldl_cons, List.foldl_nil]
  simp only [step]
  rw [set_selected_printer_eq, hname, setMultiInkParam, if_neg (not_not.mpr hmode),
    setMultiInkParams, if_neg (not_not.mpr hmode)]
  rfl

/-- The text functions with the document of the manager. -/
def printerText : QtText := asciiText (.ofObject (savedObject printerManager))

/-- The disk has room for the document and not a byte more. -/
def printerFile : SettingsFile :=
  noSettings (printerText.json.write (.ofObject (savedObject printerManager))).length

theorem printer_calls_storable : ∀ call ∈ printerCalls, call.Storable := by
  intro call hcall
  rcases List.mem_cons.mp hcall with rfl | hcall
  · trivial
  · obtain rfl := List.mem_singleton.mp hcall
    exact representable_int 300

theorem printer_document_finite : (Json.ofObject (savedObject printerManager)).Finite := by
  have hkept := run_kept (ascii_text_lawful Json.scrub_null) (noSettings 0) printer_calls_storable
  rw [printer_manager_eq] at hkept
  exact Json.Finite.of_object (saved_finite hkept)

theorem settings_survive_restart_photo_printer :
    ∃ copy, load printerText (save printerText
        (run printerText printerFile printerCalls).manager printerFile).1
          (resetToDefaults : State Json) = (copy, true) ∧
      SameSettings printerText copy (run printerText printerFile printerCalls).manager ∧
      savedObject copy = savedObject (run printerText printerFile printerCalls).manager ∧
      ∀ file, save printerText copy file =
        save printerText (run printerText printerFile printerCalls).manager file := by
  have htext : printerText.Lawful := ascii_text_lawful printer_document_finite
  have hmanager : (run printerText printerFile printerCalls).manager = printerManager :=
    printer_manager_eq _ _
  have hkeeps : printerText.json.Keeps
      (.ofObject (savedObject (run printerText printerFile printerCalls).manager)) := by
    rw [hmanager]
    exact (if_pos rfl).trans (congrArg some printer_document_finite.symm)
  have hsave : save printerText (run printerText printerFile printerCalls).manager printerFile =
      ((save printerText (run printerText printerFile printerCalls).manager printerFile).1, true) := by
    rw [hmanager]
    exact Prod.ext rfl (decide_eq_true (le_refl _))
  exact settings_survive_restart htext printerFile printer_calls_storable hkeeps hsave rfl
    resetToDefaults

end PrintFlow.ColorManagementManager
