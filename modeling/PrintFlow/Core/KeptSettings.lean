import PrintFlow.Core.NormalizedSettings

/-!
# Kept settings

What a manager holds is clamped, trimmed and normalized: `Kept` says so of each data member.
Construction, loading and every setter keep it, so it holds of the manager of every run.
-/

namespace PrintFlow.ColorManagementManager

open OrderedMap

/-- A choice whose first branch is the second one anyway. -/
theorem ite_eq_right_of_eq {A : Type} {P : Prop} [Decidable P] {first second : A}
    (h : P → first = second) : (if P then first else second) = second := by
  by_cases hsame : P
  · rw [if_pos hsame, h hsame]
  · rw [if_neg hsame]

/-! ## Setters

A setter compares before it assigns, which makes no difference to the manager. -/

section Setters

variable {V : Type} (text : QtText) (m : State V)

@[simp] theorem set_selected_printer_eq (p : String) :
    setSelectedPrinter text p m = { m with selectedPrinter := normalizedPrinterName text p } :=
  ite_eq_right_of_eq fun h ↦ by rw [← h]

@[simp] theorem set_default_input_profile_eq (p : String) :
    setDefaultInputProfile p m = { m with defaultInputProfile := p } :=
  ite_eq_right_of_eq fun h ↦ by rw [← h]

@[simp] theorem set_default_output_profile_eq (p : String) :
    setDefaultOutputProfile p m = { m with defaultOutputProfile := p } :=
  ite_eq_right_of_eq fun h ↦ by rw [← h]

@[simp] theorem set_min_ink_threshold_eq (v : Int32) :
    setMinInkThreshold v m = { m with minInkThreshold := clampInt v 0 255 } :=
  ite_eq_right_of_eq fun h ↦ by rw [← h]

@[simp] theorem set_small_dot_threshold_eq (v : Int32) :
    setSmallDotThreshold v m = { m with smallDotThreshold := clampInt v 0 255 } :=
  ite_eq_right_of_eq fun h ↦ by rw [← h]

@[simp] theorem set_med_dot_threshold_eq (v : Int32) :
    setMedDotThreshold v m = { m with medDotThreshold := clampInt v 0 255 } :=
  ite_eq_right_of_eq fun h ↦ by rw [← h]

@[simp] theorem set_enable_promotion_eq (v : Bool) :
    setEnablePromotion v m = { m with enablePromotion := v } :=
  ite_eq_right_of_eq fun h ↦ by rw [← h]

@[simp] theorem set_floor_range_cmy_eq (v : Int32) :
    setFloorRangeCMY v m = { m with floorRangeCMY := clampInt v 0 64 } :=
  ite_eq_right_of_eq fun h ↦ by rw [← h]

@[simp] theorem set_floor_max_cmy_eq (v : Int32) :
    setFloorMaxCMY v m = { m with floorMaxCMY := clampInt v 0 8 } :=
  ite_eq_right_of_eq fun h ↦ by rw [← h]

@[simp] theorem set_floor_range_k_eq (v : Int32) :
    setFloorRangeK v m = { m with floorRangeK := clampInt v 0 64 } :=
  ite_eq_right_of_eq fun h ↦ by rw [← h]

@[simp] theorem set_floor_max_k_eq (v : Int32) :
    setFloorMaxK v m = { m with floorMaxK := clampInt v 0 8 } :=
  ite_eq_right_of_eq fun h ↦ by rw [← h]

@[simp] theorem set_enable_dot_swap_eq (v : Bool) :
    setEnableDotSwap v m = { m with enableDotSwap := v } :=
  ite_eq_right_of_eq fun h ↦ by rw [← h]

@[simp] theorem set_linearization_enabled_eq (enabled : Bool) :
    setLinearizationEnabled enabled m = { m with enableLinearization := enabled } :=
  ite_eq_right_of_eq fun h ↦ by rw [← h]

@[simp] theorem set_linearization_preset_name_eq (name : String) :
    setLinearizationPresetName name m = { m with linearizationPresetName := trimmed name } :=
  ite_eq_right_of_eq fun h ↦ by rw [← h]

@[simp] theorem set_linearization_data_path_eq (path : String) :
    setLinearizationDataPath path m = { m with linearizationDataPath := trimmed path } :=
  ite_eq_right_of_eq fun h ↦ by rw [← h]

end Setters

/-! ## What holds of every manager -/

variable {V : Type} [QVariantJson V] [QVariantApi V] [QVariantOf V]

/-- The parameters that a manager holds for a mode. -/
structure ModeKept (mode : Int) (params : QVariantMap V) : Prop where
  supported : isSupportedInkMode mode = true
  merged : mergedMultiInkParams mode params = params
  representable : params.Forall Representable

/-- A variant that its JSON form is read back as. -/
structure Exact (value : V) : Prop where
  finite : (QVariantJson.fromVariant value).Finite
  read : QVariantJson.toVariant (QVariantJson.fromVariant value) = value

/-- The paths that a manager holds for a printer. -/
structure PrinterKept (text : QtText) (printer : String × QVariantMap V) : Prop where
  name : normalizedPrinterName text printer.1 = printer.1
  exact : printer.2.Forall Exact

/-- What holds of the data members of a manager. -/
structure Kept (text : QtText) (m : State V) : Prop where
  selectedPrinter : normalizedPrinterName text m.selectedPrinter = m.selectedPrinter
  minInkThreshold : clampInt m.minInkThreshold 0 255 = m.minInkThreshold
  smallDotThreshold : clampInt m.smallDotThreshold 0 255 = m.smallDotThreshold
  medDotThreshold : clampInt m.medDotThreshold 0 255 = m.medDotThreshold
  floorRangeCMY : clampInt m.floorRangeCMY 0 64 = m.floorRangeCMY
  floorMaxCMY : clampInt m.floorMaxCMY 0 8 = m.floorMaxCMY
  floorRangeK : clampInt m.floorRangeK 0 64 = m.floorRangeK
  floorMaxK : clampInt m.floorMaxK 0 8 = m.floorMaxK
  linearizationPresetName : trimmed m.linearizationPresetName = m.linearizationPresetName
  linearizationDataPath : trimmed m.linearizationDataPath = m.linearizationDataPath
  multiInkOutputMode : normalizedOutputMode text m.multiInkOutputMode = m.multiInkOutputMode
  directPrintSdkRootPath : trimmed m.directPrintSdkRootPath = m.directPrintSdkRootPath
  multiInkDirectPrintSdkRootPath :
    trimmed m.multiInkDirectPrintSdkRootPath = m.multiInkDirectPrintSdkRootPath
  directPrintSettings : normalizedDirectPrintSettings m.directPrintSettings = m.directPrintSettings
  directPrintValues : m.directPrintSettings.Forall Representable
  printerOutputProfiles :
    ∀ entry ∈ m.printerOutputProfiles.entries, normalizedPrinterName text entry.1 = entry.1
  multiInkParamsByMode : ∀ entry ∈ m.multiInkParamsByMode.entries, ModeKept entry.1 entry.2
  printerFamilyLinearizationPaths :
    ∀ printer ∈ m.printerFamilyLinearizationPaths.entries, PrinterKept text printer
  printerFamilyOutputProfiles :
    ∀ printer ∈ m.printerFamilyOutputProfiles.entries, PrinterKept text printer

variable [LawfulQVariantJson V]

theorem exact_string (value : String) : Exact (QVariantJson.ofString value : V) where
  finite := (representable_string value).finite
  read := by rw [LawfulQVariantJson.from_string, LawfulQVariantJson.string_of_json]

/-- The variant of a finite JSON value is exact. -/
theorem exact_json {json : Json} (h : json.Finite) :
    Exact (QVariantJson.toVariant json : V) where
  finite := (representable_json h).finite
  read := by rw [LawfulQVariantJson.from_to json h]

/-- Merged parameters of a supported mode are kept. -/
theorem mode_kept {mode : Int} (hmode : isSupportedInkMode mode = true) {params : QVariantMap V}
    (hparams : params.Forall Representable) :
    ModeKept mode (mergedMultiInkParams mode params) where
  supported := hmode
  merged := merged_multi_ink_params_twice mode params
  representable := merged_multi_ink_params_representable mode hparams

/-- The default parameters of a supported mode are kept. -/
theorem default_mode_kept {mode : Int} (hmode : isSupportedInkMode mode = true) :
    ModeKept mode (defaultMultiInkParamsForMode mode : QVariantMap V) where
  supported := hmode
  merged := merged_multi_ink_defaults mode
  representable := multi_ink_defaults_representable mode

/-- The variants of the fields of an object. -/
theorem variant_map_representable {o : Json.Object} (h : o.Forall Json.Finite) :
    (jsonObjectToVariantMap o : QVariantMap V).Forall Representable :=
  Forall.map_values fun key value hvalue ↦ representable_json (h key value hvalue)

theorem variant_map_exact {o : Json.Object} (h : o.Forall Json.Finite) :
    (jsonObjectToVariantMap o : QVariantMap V).Forall Exact :=
  Forall.map_values fun key value hvalue ↦ exact_json (h key value hvalue)

/-! ## Loading keeps -/

section Loading

variable {text : QtText}

omit [QVariantJson V] [QVariantApi V] [QVariantOf V] [LawfulQVariantJson V] in
theorem strings_of_kept {o : Json.Object} :
    ∀ entry ∈ (stringsOf (normalizedPrinterName text) o).entries,
      normalizedPrinterName text entry.1 = entry.1 := by
  intro entry hentry
  obtain ⟨source, -, rfl⟩ := List.mem_map.mp (mem_of_list hentry)
  exact normalized_printer_name_twice text source.1

theorem printers_of_kept {o : Json.Object} (h : o.Forall Json.Finite) :
    ∀ printer ∈ (printersOf text o : OrderedMap String (QVariantMap V)).entries,
      PrinterKept text printer := by
  intro printer hprinter
  obtain ⟨source, hsource, rfl⟩ := List.mem_map.mp (mem_of_list hprinter)
  exact ⟨normalized_printer_name_twice text source.1,
    variant_map_exact (Json.Finite.to_object (h.entries source hsource))⟩

/-- An entry that was read by mode has a supported mode. -/
theorem mem_by_mode {A : Type} {o : Json.Object} (read : Int → Json → A) {entry : Int × A}
    (h : entry ∈ (ofList (o.entries.filterMap fun entry ↦
      ((text.toInt entry.1).filter isSupportedInkMode).map fun mode ↦
        (mode, read mode entry.2))).entries) :
    ∃ source ∈ o.entries, isSupportedInkMode entry.1 = true ∧ entry.2 = read entry.1 source.2 := by
  obtain ⟨source, hsource, hread⟩ := List.mem_filterMap.mp (mem_of_list h)
  obtain ⟨mode, hmode, rfl⟩ := Option.map_eq_some_iff.mp hread
  exact ⟨source, hsource, (Option.filter_eq_some_iff.mp hmode).2, rfl⟩

theorem multi_ink_params_of_kept {o : Json.Object} (h : o.Forall Json.Finite) :
    ∀ entry ∈ (multiInkParamsOf text o : OrderedMap Int (QVariantMap V)).entries,
      ModeKept entry.1 entry.2 := by
  intro entry hentry
  unfold multiInkParamsOf at hentry
  obtain ⟨source, hsource, hmode, hparams⟩ := mem_by_mode
    (fun mode json ↦ mergedMultiInkParams mode (jsonObjectToVariantMap json.toObject)) hentry
  have hvalues := @variant_map_representable V _ _ _ _ _
    (Json.Finite.to_object (h.entries source hsource))
  rw [hparams]
  exact mode_kept hmode hvalues

/-- A manager that was loaded from an object of finite fields is kept. -/
theorem restored_kept (htext : text.Lawful) {o : Json.Object} (h : o.Forall Json.Finite)
    (m : State V) : Kept text (restored text o m) := by
  have hfields : ∀ name, (o.value name).toObject.Forall Json.Finite :=
    fun name ↦ Json.Finite.to_object (Json.Finite.value h name)
  unfold restored
  simp only [set_min_ink_threshold_eq, set_small_dot_threshold_eq, set_med_dot_threshold_eq,
    set_enable_promotion_eq, set_floor_range_cmy_eq, set_floor_max_cmy_eq, set_floor_range_k_eq,
    set_floor_max_k_eq, set_enable_dot_swap_eq, set_linearization_enabled_eq,
    set_linearization_preset_name_eq, set_linearization_data_path_eq]
  exact
    { selectedPrinter := normalized_printer_name_twice text _
      minInkThreshold := clamp_int_twice (by decide) _
      smallDotThreshold := clamp_int_twice (by decide) _
      medDotThreshold := clamp_int_twice (by decide) _
      floorRangeCMY := clamp_int_twice (by decide) _
      floorMaxCMY := clamp_int_twice (by decide) _
      floorRangeK := clamp_int_twice (by decide) _
      floorMaxK := clamp_int_twice (by decide) _
      linearizationPresetName := trimmed_twice _
      linearizationDataPath := trimmed_twice _
      multiInkOutputMode := normalized_output_mode_twice htext _
      directPrintSdkRootPath := trimmed_twice _
      multiInkDirectPrintSdkRootPath := trimmed_twice _
      directPrintSettings := normalized_direct_print_settings_twice _
      directPrintValues :=
        normalized_direct_print_settings_representable (variant_map_representable (hfields _))
      printerOutputProfiles := strings_of_kept
      multiInkParamsByMode := multi_ink_params_of_kept (hfields _)
      printerFamilyLinearizationPaths := printers_of_kept (hfields _)
      printerFamilyOutputProfiles := printers_of_kept (hfields _) }

theorem trimmed_default : trimmed "Default" = "Default" := by decide +kernel

theorem trimmed_empty : trimmed "" = "" := by decide +kernel

/-- The default settings are kept. -/
theorem reset_to_defaults_kept (htext : text.Lawful) : Kept text (resetToDefaults : State V) where
  selectedPrinter := normalized_default_printer htext
  minInkThreshold := rfl
  smallDotThreshold := rfl
  medDotThreshold := rfl
  floorRangeCMY := rfl
  floorMaxCMY := rfl
  floorRangeK := rfl
  floorMaxK := rfl
  linearizationPresetName := trimmed_default
  linearizationDataPath := trimmed_empty
  multiInkOutputMode := normalized_output_mode_prn htext
  directPrintSdkRootPath := trimmed_empty
  multiInkDirectPrintSdkRootPath := trimmed_empty
  directPrintSettings := normalized_direct_print_defaults
  directPrintValues := direct_print_defaults_representable
  printerOutputProfiles := fun _ hentry ↦ absurd hentry List.not_mem_nil
  multiInkParamsByMode := by
    intro entry hentry
    obtain ⟨mode, hmode, hdefault⟩ := List.mem_map.mp (mem_of_list hentry)
    have hsupported : ∀ mode ∈ ([4, 5, 6, 7, 8, 10] : List Int),
        isSupportedInkMode mode = true := by
      decide
    rw [← hdefault]
    dsimp only
    exact default_mode_kept (hsupported mode hmode)
  printerFamilyLinearizationPaths := fun _ hprinter ↦ absurd hprinter List.not_mem_nil
  printerFamilyOutputProfiles := fun _ hprinter ↦ absurd hprinter List.not_mem_nil

/-- Loading keeps a manager. -/
theorem load_kept (htext : text.Lawful) (file : SettingsFile) {m : State V} (h : Kept text m) :
    Kept text (load text file m).1 := by
  unfold load
  split
  · next fields hread =>
      obtain ⟨bytes, -, hdocument⟩ := Option.bind_eq_some_iff.mp hread
      exact restored_kept htext (htext.read_finite bytes _ hdocument).to_object m
  · exact h

/-- A manager that was constructed is kept. -/
theorem construct_kept (htext : text.Lawful) (file : SettingsFile) :
    Kept text (construct text file : State V) := by
  unfold construct load
  split
  · next fields hread =>
      obtain ⟨bytes, -, hdocument⟩ := Option.bind_eq_some_iff.mp hread
      exact restored_kept htext (htext.read_finite bytes _ hdocument).to_object _
  · exact reset_to_defaults_kept htext

end Loading

/-! ## Setting keeps -/

/-- The values that a call stores are what their JSON form stands for. -/
def Call.Storable : Call V → Prop
  | .setDirectPrintSettings settings => settings.Forall Representable
  | .setDirectPrintSetting _ value => Representable value
  | .setMultiInkParams _ params => params.Forall Representable
  | .setMultiInkParam _ _ value => Representable value
  | _ => True

section Steps

variable {text : QtText} {m changed : State V} (h : Kept text m)

include h

omit [LawfulQVariantJson V] in
theorem set_printer_output_profile_kept (printerName profilePath : String) :
    Kept text (setPrinterOutputProfile text printerName profilePath m) := by
  unfold setPrinterOutputProfile
  dsimp only
  split_ifs
  · exact h
  · exact h
  · refine { h with printerOutputProfiles := fun entry hentry ↦ ?_ }
    rcases mem_insert hentry with rfl | hold
    · exact normalized_printer_name_twice text printerName
    · exact h.printerOutputProfiles entry hold

theorem set_direct_print_settings_kept {settings : QVariantMap V}
    (hsettings : settings.Forall Representable)
    (hset : setDirectPrintSettings settings m = some changed) : Kept text changed := by
  unfold setDirectPrintSettings at hset
  split_ifs at hset
  obtain rfl := Option.some.inj hset
  exact { h with
    directPrintSettings := normalized_direct_print_settings_twice settings
    directPrintValues := normalized_direct_print_settings_representable hsettings }

theorem set_direct_print_setting_kept {key : String} {value : V} (hvalue : Representable value)
    (hset : setDirectPrintSetting key value m = some changed) : Kept text changed := by
  unfold setDirectPrintSetting at hset
  split_ifs at hset
  refine set_direct_print_settings_kept h (Forall.insert ?_ _ hvalue) hset
  exact normalized_direct_print_settings_representable h.directPrintValues

omit h in
/-- Paths put at the key of a family of a printer are kept. -/
theorem printer_family_paths_kept {paths changed : OrderedMap String (QVariantMap V)}
    (hpaths : ∀ printer ∈ paths.entries, PrinterKept text printer)
    {printerName familyKey path : String}
    (hset : printerFamilyPaths text printerName familyKey path paths = some changed) :
    ∀ printer ∈ changed.entries, PrinterKept text printer := by
  have hexact : ∀ printerKey, (familyMapOf paths printerKey).Forall Exact := by
    intro printerKey
    unfold familyMapOf
    cases hfound : paths.find? printerKey with
    | none => exact forall_empty Exact
    | some familyMap => exact (hpaths _ (mem_entries.mpr hfound)).exact
  unfold printerFamilyPaths at hset
  dsimp only at hset
  split_ifs at hset
  obtain rfl := Option.some.inj hset
  intro printer hprinter
  rcases mem_insert hprinter with rfl | hold
  · exact ⟨normalized_printer_name_twice text printerName,
      (hexact _).insert _ (exact_string _)⟩
  · exact hpaths printer hold

theorem set_printer_family_output_profile_kept {printerName familyKey profilePath : String}
    (hset : setPrinterFamilyOutputProfile text printerName familyKey profilePath m = some changed) :
    Kept text changed := by
  obtain ⟨paths, hpaths, rfl⟩ := Option.map_eq_some_iff.mp hset
  exact { h with
    printerFamilyOutputProfiles := printer_family_paths_kept h.printerFamilyOutputProfiles hpaths }

theorem set_printer_family_linearization_path_kept {printerName familyKey xmlPath : String}
    (hset : setPrinterFamilyLinearizationPath text printerName familyKey xmlPath m = some changed) :
    Kept text changed := by
  obtain ⟨paths, hpaths, rfl⟩ := Option.map_eq_some_iff.mp hset
  exact { h with
    printerFamilyLinearizationPaths :=
      printer_family_paths_kept h.printerFamilyLinearizationPaths hpaths }

theorem set_multi_ink_params_kept {inkMode : Int} {params : QVariantMap V}
    (hparams : params.Forall Representable)
    (hset : setMultiInkParams inkMode params m = some changed) : Kept text changed := by
  unfold setMultiInkParams at hset
  split_ifs at hset with hmode
  obtain rfl := Option.some.inj hset
  refine { h with multiInkParamsByMode := fun entry hentry ↦ ?_ }
  rcases mem_insert hentry with hnew | hold
  · rw [hnew]
    dsimp only
    exact mode_kept (by simpa using hmode) hparams
  · exact h.multiInkParamsByMode entry hold

/-- The parameters of a mode are representable. -/
theorem get_multi_ink_params_representable (inkMode : Int) :
    (getMultiInkParams m inkMode).Forall Representable := by
  unfold getMultiInkParams
  split_ifs
  · cases hfound : m.multiInkParamsByMode.find? inkMode with
    | none => exact multi_ink_defaults_representable inkMode
    | some params => exact (h.multiInkParamsByMode _ (mem_entries.mpr hfound)).representable
  · exact forall_empty _

theorem set_multi_ink_param_kept {inkMode : Int} {key : String} {value : V}
    (hvalue : Representable value) (hset : setMultiInkParam inkMode key value m = some changed) :
    Kept text changed := by
  unfold setMultiInkParam at hset
  split_ifs at hset
  exact set_multi_ink_params_kept h
    ((get_multi_ink_params_representable h inkMode).insert key hvalue) hset

omit [LawfulQVariantJson V] h in
/-- What a setter changed is kept when it is saved. -/
theorem and_save_kept {w : World V} (hw : Kept text w.manager) {changed : Option (State V)}
    (hchanged : ∀ m, changed = some m → Kept text m) :
    Kept text (andSave text w changed).manager := by
  cases changed with
  | none => exact hw
  | some m => exact hchanged m rfl

end Steps

/-- Every call keeps the manager. -/
theorem step_kept {text : QtText} (htext : text.Lawful) {w : World V} (h : Kept text w.manager)
    {call : Call V} (hcall : call.Storable) : Kept text (step text w call).manager := by
  cases call with
  | setSelectedPrinter p =>
      show Kept text (setSelectedPrinter text p w.manager)
      rw [set_selected_printer_eq]
      exact { h with selectedPrinter := normalized_printer_name_twice text p }
  | setDefaultInputProfile p =>
      show Kept text (setDefaultInputProfile p w.manager)
      rw [set_default_input_profile_eq]
      exact { h with }
  | setDefaultOutputProfile p =>
      show Kept text (setDefaultOutputProfile p w.manager)
      rw [set_default_output_profile_eq]
      exact { h with }
  | setPrinterOutputProfile printerName profilePath =>
      simp only [step]
      exact set_printer_output_profile_kept h printerName profilePath
  | setMultiInkOutputMode mode =>
      refine and_save_kept h fun m hset ↦ ?_
      unfold setMultiInkOutputMode at hset
      split_ifs at hset
      obtain rfl := Option.some.inj hset
      exact { h with multiInkOutputMode := normalized_output_mode_twice htext mode }
  | setDirectPrintSdkRootPath path =>
      refine and_save_kept h fun m hset ↦ ?_
      unfold setDirectPrintSdkRootPath at hset
      split_ifs at hset
      obtain rfl := Option.some.inj hset
      exact { h with directPrintSdkRootPath := trimmed_twice path }
  | setMultiInkDirectPrintSdkRootPath path =>
      refine and_save_kept h fun m hset ↦ ?_
      unfold setMultiInkDirectPrintSdkRootPath at hset
      split_ifs at hset
      obtain rfl := Option.some.inj hset
      exact { h with multiInkDirectPrintSdkRootPath := trimmed_twice path }
  | setDirectPrintSettings settings =>
      exact and_save_kept h fun m hset ↦ set_direct_print_settings_kept h hcall hset
  | setDirectPrintSetting key value =>
      exact and_save_kept h fun m hset ↦ set_direct_print_setting_kept h hcall hset
  | setFamilyDefaultOutputProfile familyKey profilePath =>
      refine and_save_kept h fun m hset ↦ ?_
      obtain ⟨paths, -, rfl⟩ := Option.map_eq_some_iff.mp hset
      exact { h with }
  | setPrinterFamilyOutputProfile printerName familyKey profilePath =>
      exact and_save_kept h fun m hset ↦ set_printer_family_output_profile_kept h hset
  | setMinInkThreshold v =>
      show Kept text (setMinInkThreshold v w.manager)
      rw [set_min_ink_threshold_eq]
      exact { h with minInkThreshold := clamp_int_twice (by decide) v }
  | setSmallDotThreshold v =>
      show Kept text (setSmallDotThreshold v w.manager)
      rw [set_small_dot_threshold_eq]
      exact { h with smallDotThreshold := clamp_int_twice (by decide) v }
  | setMedDotThreshold v =>
      show Kept text (setMedDotThreshold v w.manager)
      rw [set_med_dot_threshold_eq]
      exact { h with medDotThreshold := clamp_int_twice (by decide) v }
  | setEnablePromotion v =>
      show Kept text (setEnablePromotion v w.manager)
      rw [set_enable_promotion_eq]
      exact { h with }
  | setFloorRangeCMY v =>
      show Kept text (setFloorRangeCMY v w.manager)
      rw [set_floor_range_cmy_eq]
      exact { h with floorRangeCMY := clamp_int_twice (by decide) v }
  | setFloorMaxCMY v =>
      show Kept text (setFloorMaxCMY v w.manager)
      rw [set_floor_max_cmy_eq]
      exact { h with floorMaxCMY := clamp_int_twice (by decide) v }
  | setFloorRangeK v =>
      show Kept text (setFloorRangeK v w.manager)
      rw [set_floor_range_k_eq]
      exact { h with floorRangeK := clamp_int_twice (by decide) v }
  | setFloorMaxK v =>
      show Kept text (setFloorMaxK v w.manager)
      rw [set_floor_max_k_eq]
      exact { h with floorMaxK := clamp_int_twice (by decide) v }
  | setEnableDotSwap v =>
      show Kept text (setEnableDotSwap v w.manager)
      rw [set_enable_dot_swap_eq]
      exact { h with }
  | setLinearizationEnabled enabled =>
      show Kept text (setLinearizationEnabled enabled w.manager)
      rw [set_linearization_enabled_eq]
      exact { h with }
  | setLinearizationPresetName name =>
      simp only [step, set_linearization_preset_name_eq]
      exact { h with linearizationPresetName := trimmed_twice name }
  | setLinearizationDataPath path =>
      simp only [step, set_linearization_data_path_eq]
      exact { h with linearizationDataPath := trimmed_twice path }
  | setFamilyDefaultLinearizationPath familyKey xmlPath =>
      refine and_save_kept h fun m hset ↦ ?_
      obtain ⟨paths, -, rfl⟩ := Option.map_eq_some_iff.mp hset
      exact { h with }
  | setPrinterFamilyLinearizationPath printerName familyKey xmlPath =>
      exact and_save_kept h fun m hset ↦ set_printer_family_linearization_path_kept h hset
  | setMultiInkParams inkMode params =>
      exact and_save_kept h fun m hset ↦ set_multi_ink_params_kept h hcall hset
  | setMultiInkParam inkMode key value =>
      exact and_save_kept h fun m hset ↦ set_multi_ink_param_kept h hcall hset
  | load => exact load_kept htext w.file h
  | save => exact h
  | resetToDefaults => exact reset_to_defaults_kept htext
  | outside file => exact h

/-- The manager of every run is kept. -/
theorem run_kept {text : QtText} (htext : text.Lawful) (file : SettingsFile) {calls : List (Call V)}
    (hcalls : ∀ call ∈ calls, call.Storable) : Kept text (run text file calls).manager := by
  have hfold : ∀ (calls : List (Call V)), (∀ call ∈ calls, call.Storable) → ∀ w : World V,
      Kept text w.manager → Kept text (calls.foldl (step text) w).manager := by
    intro calls
    induction calls with
    | nil => exact fun _ _ h ↦ h
    | cons call calls ih =>
        intro hcalls w h
        exact ih (fun other hother ↦ hcalls other (List.mem_cons_of_mem call hother)) _
          (step_kept htext h (hcalls call List.mem_cons_self))
  exact hfold calls hcalls _ (construct_kept htext file)

end PrintFlow.ColorManagementManager
