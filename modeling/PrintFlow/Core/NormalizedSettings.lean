import Mathlib.Data.List.DropRight
import PrintFlow.Core.ColorManagementManager
import PrintFlow.Library.Schema

/-!
# Normalized settings

The direct-print settings and the ink parameters are normalized under a `Schema` each. No key has
rules that undo one another, so normalizing twice is normalizing once, and settings that were
written to a JSON file and normalized when they were read are the same settings.
-/

namespace PrintFlow

open OrderedMap

/-- A variant converts to the value it was made of, `bool` and `int` convert to one another, and the
JSON form of a variant is the form of its value. A finite JSON value is the form of its variant. -/
class LawfulQVariantJson (V : Type) [QVariantApi V] [QVariantOf V] [QVariantJson V] : Prop where
  to_int (value : Int32) : QVariantApi.toInt (QVariantOf.ofInt value : V) = value
  to_bool (value : Bool) : QVariantApi.toBool (QVariantJson.ofBool value : V) = value
  to_string (value : String) : QVariantApi.toString (QVariantJson.ofString value : V) = value
  bool_to_int (value : Bool) :
    QVariantApi.toInt (QVariantJson.ofBool value : V) = if value then 1 else 0
  int_to_bool (value : Int32) : QVariantApi.toBool (QVariantOf.ofInt value : V) = (value != 0)
  from_int (value : Int32) : QVariantJson.fromVariant (QVariantOf.ofInt value : V) = .ofInt value
  from_bool (value : Bool) : QVariantJson.fromVariant (QVariantJson.ofBool value : V) = .bool value
  from_string (value : String) :
    QVariantJson.fromVariant (QVariantJson.ofString value : V) = .string value
  int_of_json (value : Int32) :
    QVariantApi.toInt (QVariantJson.toVariant (.ofInt value) : V) = value
  same_int (value : Int32) :
    QVariantJson.Same (QVariantJson.toVariant (.ofInt value) : V) (QVariantOf.ofInt value)
  bool_of_json (value : Bool) : (QVariantJson.toVariant (.bool value) : V) = QVariantJson.ofBool value
  string_of_json (value : String) :
    (QVariantJson.toVariant (.string value) : V) = QVariantJson.ofString value
  from_to (json : Json) (h : json.Finite) :
    QVariantJson.fromVariant (QVariantJson.toVariant json : V) = json
  same_refl (value : V) : QVariantJson.Same value value

attribute [simp] LawfulQVariantJson.to_int LawfulQVariantJson.to_bool LawfulQVariantJson.to_string
  LawfulQVariantJson.bool_to_int LawfulQVariantJson.int_to_bool LawfulQVariantJson.from_int
  LawfulQVariantJson.from_bool LawfulQVariantJson.from_string LawfulQVariantJson.int_of_json
  LawfulQVariantJson.bool_of_json LawfulQVariantJson.string_of_json

namespace ColorManagementManager

/-! ## Normalizing twice -/

/-- Clamping twice to the same bounds is clamping once. -/
theorem clamp_int_twice {low high : Int32} (h : ¬ high < low) (value : Int32) :
    clampInt (clampInt value low high) low high = clampInt value low high := by
  have hlow : ¬ low < low := fun hlt ↦ Int32.lt_irrefl hlt
  have hhigh : ¬ high < high := fun hlt ↦ Int32.lt_irrefl hlt
  unfold clampInt
  by_cases hbelow : value < low
  · rw [if_pos hbelow, if_neg hlow, if_neg h]
  · rw [if_neg hbelow]
    by_cases habove : high < value
    · rw [if_pos habove, if_neg h, if_neg hhigh]
    · rw [if_neg habove, if_neg hbelow, if_neg habove]

/-- Trimming twice is trimming once. -/
@[simp] theorem trimmed_twice (s : String) : trimmed (trimmed s) = trimmed s := by
  have htrimmed : ∀ s : String,
      (trimmed s).toList = (s.toList.dropWhile isSpace).rdropWhile isSpace := by
    intro s
    rw [trimmed, String.toList_ofList]
    rfl
  have hstart : ((s.toList.dropWhile isSpace).rdropWhile isSpace).dropWhile isSpace =
      (s.toList.dropWhile isSpace).rdropWhile isSpace := by
    -- What is left begins as it did before its end was cut, which is not with a space.
    refine List.dropWhile_eq_self_iff.mpr fun hlength ↦ ?_
    have hstarts := List.rdropWhile_prefix isSpace (s.toList.dropWhile isSpace)
    have hself := List.dropWhile_idempotent isSpace s.toList
    rw [hstarts.getElem hlength]
    exact List.dropWhile_eq_self_iff.mp hself (hlength.trans_le hstarts.length_le)
  refine String.toList_inj.mp ?_
  rw [htrimmed, htrimmed, hstart, List.rdropWhile_idempotent]

/-- What the manager relies on in the text functions of Qt. The text of a JSON document has no
infinite numbers. -/
structure QtText.Lawful (text : QtText) : Prop where
  folded_x33 : ∀ name ∈ ["X-36 Studio", "X-36NC (Photo Printer)", "X-36NC"],
    text.folded "X-33" ≠ text.folded name
  to_lower_direct : text.toLower "direct" = "direct"
  to_lower_prn : text.toLower "prn" = "prn"
  to_int (mode : Int) (h : isSupportedInkMode mode = true) : text.toInt (toString mode) = some mode
  read_finite (bytes : Bytes) (document : Json) (h : text.json.read bytes = some document) :
    document.Finite

/-- A normalized printer name is normalized. -/
@[simp] theorem normalized_printer_name_twice (text : QtText) (name : String) :
    normalizedPrinterName text (normalizedPrinterName text name) =
      normalizedPrinterName text name := by
  have hstudio : trimmed "X-36 Studio" = "X-36 Studio" := by decide +kernel
  unfold normalizedPrinterName
  dsimp only
  by_cases hname : text.folded (trimmed name) = text.folded "X-36 Studio" ∨
      text.folded (trimmed name) = text.folded "X-36NC (Photo Printer)" ∨
      text.folded (trimmed name) = text.folded "X-36NC"
  · rw [if_pos hname, hstudio, if_pos (.inl rfl)]
  · rw [if_neg hname, trimmed_twice, if_neg hname]

/-- The default printer keeps its name. -/
theorem normalized_default_printer {text : QtText} (h : text.Lawful) :
    normalizedPrinterName text "X-33" = "X-33" := by
  have hname : trimmed "X-33" = "X-33" := by decide +kernel
  unfold normalizedPrinterName
  dsimp only
  rw [hname, if_neg]
  rw [not_or, not_or]
  exact ⟨h.folded_x33 _ (by simp), h.folded_x33 _ (by simp), h.folded_x33 _ (by simp)⟩

/-- A normalized output mode is normalized. -/
theorem normalized_output_mode_twice {text : QtText} (h : text.Lawful) (mode : String) :
    normalizedOutputMode text (normalizedOutputMode text mode) =
      normalizedOutputMode text mode := by
  have hdirect : trimmed "direct" = "direct" := by decide +kernel
  have hprn : trimmed "prn" = "prn" := by decide +kernel
  unfold normalizedOutputMode
  by_cases hmode : text.toLower (trimmed mode) = "direct"
  · rw [if_pos hmode, hdirect, h.to_lower_direct, if_pos rfl]
  · rw [if_neg hmode, hprn, h.to_lower_prn, if_neg (by decide)]

/-- The default output mode is normalized. -/
theorem normalized_output_mode_prn {text : QtText} (h : text.Lawful) :
    normalizedOutputMode text "prn" = "prn" := by
  have hprn : trimmed "prn" = "prn" := by decide +kernel
  rw [normalizedOutputMode, hprn, h.to_lower_prn, if_neg (by decide)]

/-! ## Rules -/

/-- The rules of a key. -/
def rulesAt (table : List (String × Rule)) (key : String) : List Rule :=
  (table.filter (·.1 == key)).map (·.2)

/-- Rules that change nothing when they are applied again. -/
def settle : List Rule → Bool
  | [] => true
  | [.int low high] => !decide (high < low)
  | [.int low high, .bool] => clampInt 0 low high == 0 && clampInt 1 low high == 1
  | [_] => true
  | _ => false

/-- No rules of a key of the direct-print settings undo one another. -/
theorem direct_print_rules_settle :
    ∀ key ∈ directPrintRules.map (·.1), settle (rulesAt directPrintRules key) = true := by
  decide +kernel

/-- The rules of the ink parameters, with those of the mask keys. -/
def multiInkRules : List (String × Rule) :=
  clampRules ++ [("whiteMaskKey", .text), ("varnishMaskKey", .text)]

/-- No rules of a key of the ink parameters undo one another. -/
theorem multi_ink_rules_settle :
    ∀ key ∈ multiInkRules.map (·.1), settle (rulesAt multiInkRules key) = true := by
  decide +kernel

section Rules

variable {V : Type} [QVariantJson V] [QVariantApi V] [QVariantOf V]

/-- A value under rules one after the other. -/
def applyAll (rules : List Rule) (value : V) : V :=
  rules.foldl (fun value rule ↦ rule.apply value) value

/-- A table of rules as the changes they make. -/
def compiled (table : List (String × Rule)) : List (String × (V → V)) :=
  table.map fun entry ↦ (entry.1, entry.2.apply)

/-- The changes at a key are the rules of the key. -/
theorem change_compiled (table : List (String × Rule)) (key : String) (value : V) :
    Schema.change (compiled table) key value = applyAll (rulesAt table key) value := by
  induction table generalizing value with
  | nil => rfl
  | cons entry table ih =>
      show Schema.change (compiled table) key
        (if key = entry.1 then entry.2.apply value else value) = _
      rw [ih, rulesAt, rulesAt, List.filter_cons]
      by_cases hkey : key = entry.1
      · rw [if_pos hkey, if_pos (by rw [hkey, beq_self_eq_true])]
        rfl
      · have hother : ¬ (entry.1 == key) = true := fun h ↦ hkey (eq_of_beq h).symm
        rw [if_neg hkey, if_neg hother]

/-- Every key of a table whose keys settle, and every other key, settles. -/
theorem settle_rules_at {table : List (String × Rule)}
    (h : ∀ key ∈ table.map (·.1), settle (rulesAt table key) = true) (key : String) :
    settle (rulesAt table key) = true := by
  by_cases hkey : key ∈ table.map (·.1)
  · exact h key hkey
  · have hnone : rulesAt table key = [] := by
      rw [rulesAt, List.map_eq_nil_iff, List.filter_eq_nil_iff]
      intro entry hentry hsame
      exact hkey (List.mem_map.mpr ⟨entry, hentry, eq_of_beq hsame⟩)
    rw [hnone]
    rfl

/-- A variant that is what its JSON form stands for. -/
structure Representable (value : V) : Prop where
  finite : (QVariantJson.fromVariant value).Finite
  same : QVariantJson.Same (QVariantJson.toVariant (QVariantJson.fromVariant value)) value

variable [LawfulQVariantJson V]

theorem representable_int (value : Int32) : Representable (QVariantOf.ofInt value : V) where
  finite := by
    rw [LawfulQVariantJson.from_int]
    exact Json.scrub_of_int value
  same := by
    rw [LawfulQVariantJson.from_int]
    exact LawfulQVariantJson.same_int value

theorem representable_bool (value : Bool) : Representable (QVariantJson.ofBool value : V) where
  finite := by
    rw [LawfulQVariantJson.from_bool]
    exact Json.scrub_bool value
  same := by
    rw [LawfulQVariantJson.from_bool, LawfulQVariantJson.bool_of_json]
    exact LawfulQVariantJson.same_refl _

theorem representable_string (value : String) :
    Representable (QVariantJson.ofString value : V) where
  finite := by
    rw [LawfulQVariantJson.from_string]
    exact Json.scrub_string value
  same := by
    rw [LawfulQVariantJson.from_string, LawfulQVariantJson.string_of_json]
    exact LawfulQVariantJson.same_refl _

/-- The variant of a finite JSON value is representable. -/
theorem representable_json {json : Json} (h : json.Finite) :
    Representable (QVariantJson.toVariant json : V) where
  finite := by
    rw [LawfulQVariantJson.from_to json h]
    exact h
  same := by
    rw [LawfulQVariantJson.from_to json h]
    exact LawfulQVariantJson.same_refl _

/-- A rule gives a representable value. -/
theorem Rule.representable (rule : Rule) (value : V) : Representable (rule.apply value) := by
  cases rule with
  | int low high => exact representable_int _
  | bool => exact representable_bool _
  | text => exact representable_string _
  | grade => exact representable_int _

/-- A rule applied twice is the rule applied once, unless its bounds are crossed. -/
theorem Rule.apply_twice {rule : Rule} (h : settle [rule] = true) (value : V) :
    rule.apply (rule.apply value) = rule.apply value := by
  cases rule with
  | int low high =>
      have hbounds : ¬ high < low := by simpa [settle] using h
      simp only [Rule.apply, LawfulQVariantJson.to_int, clamp_int_twice hbounds]
  | bool => simp only [Rule.apply, LawfulQVariantJson.to_bool]
  | text => simp only [Rule.apply, LawfulQVariantJson.to_string, trimmed_twice]
  | grade =>
      simp only [Rule.apply, LawfulQVariantJson.to_int]
      by_cases hgrade : (QVariantApi.toInt value) ≤ 0
      · rw [if_pos hgrade, if_neg (by decide)]
        rfl
      · have hpositive : ¬ clampInt (QVariantApi.toInt value) 1 3 ≤ 0 := by
          unfold clampInt
          split_ifs
          · decide
          · decide
          · exact hgrade
        rw [if_neg hgrade, if_neg hpositive, clamp_int_twice (by decide)]

/-- A value under a rule is restored from its JSON form by the rule. -/
theorem Rule.apply_image {rule : Rule} (h : settle [rule] = true) (value : V) :
    rule.apply (QVariantJson.toVariant (QVariantJson.fromVariant (rule.apply value))) =
      rule.apply value := by
  have htwice := Rule.apply_twice h value
  cases rule with
  | int low high =>
      simp only [Rule.apply, LawfulQVariantJson.to_int, LawfulQVariantJson.from_int,
        LawfulQVariantJson.int_of_json] at htwice ⊢
      exact htwice
  | bool =>
      simp only [Rule.apply, LawfulQVariantJson.from_bool, LawfulQVariantJson.bool_of_json]
      exact htwice
  | text =>
      simp only [Rule.apply, LawfulQVariantJson.from_string, LawfulQVariantJson.string_of_json]
      exact htwice
  | grade =>
      simp only [Rule.apply, LawfulQVariantJson.to_int, LawfulQVariantJson.from_int,
        LawfulQVariantJson.int_of_json] at htwice ⊢
      exact htwice

/-- A boolean that was clamped as a number is clamped to itself. -/
theorem bool_after_int {low high : Int32} (h : settle [.int low high, .bool] = true) (flag : Bool) :
    applyAll [.int low high, .bool] (QVariantJson.ofBool flag : V) = QVariantJson.ofBool flag := by
  obtain ⟨hzero, hone⟩ := Bool.and_eq_true_iff.mp h
  show Rule.bool.apply (Rule.apply (.int low high) (QVariantJson.ofBool flag)) = _
  simp only [Rule.apply, LawfulQVariantJson.bool_to_int, LawfulQVariantJson.int_to_bool]
  cases flag with
  | false =>
      rw [if_neg Bool.false_ne_true, eq_of_beq hzero]
      rfl
  | true =>
      rw [if_pos rfl, eq_of_beq hone]
      rfl

/-- Rules that settle are at most one rule, or make a boolean of a clamped number. -/
theorem settle_cases {rules : List Rule} (h : settle rules = true) :
    rules = [] ∨ (∃ rule, rules = [rule]) ∨ ∃ low high, rules = [.int low high, .bool] := by
  unfold settle at h
  split at h
  · exact .inl rfl
  · exact .inr (.inl ⟨_, rfl⟩)
  · exact .inr (.inr ⟨_, _, rfl⟩)
  · exact .inr (.inl ⟨_, rfl⟩)
  · cases h

/-- Rules that settle change nothing when they are applied again. -/
theorem apply_all_twice {rules : List Rule} (h : settle rules = true) (value : V) :
    applyAll rules (applyAll rules value) = applyAll rules value := by
  rcases settle_cases h with rfl | ⟨rule, rfl⟩ | ⟨low, high, rfl⟩
  · rfl
  · exact Rule.apply_twice h value
  · exact bool_after_int h _

/-- A variant is restored when it is the same value and has the same JSON form. -/
structure Restores (copy value : V) : Prop where
  same : QVariantJson.Same copy value
  json : QVariantJson.fromVariant copy = QVariantJson.fromVariant value

theorem Restores.refl (value : V) : Restores value value :=
    ⟨LawfulQVariantJson.same_refl value, rfl⟩

/-- Settled values are restored from their JSON form by their rules. -/
theorem apply_all_image {rules : List Rule} (h : settle rules = true) {value : V}
    (hvalue : Representable value) (hsettled : applyAll rules value = value) :
    Restores (applyAll rules (QVariantJson.toVariant (QVariantJson.fromVariant value))) value := by
  rcases settle_cases h with rfl | ⟨rule, rfl⟩ | ⟨low, high, rfl⟩
  · exact ⟨hvalue.same, LawfulQVariantJson.from_to _ hvalue.finite⟩
  · have himage := Rule.apply_image h value
    rw [show rule.apply value = value from hsettled] at himage
    show Restores (rule.apply _) value
    rw [himage]
    exact Restores.refl value
  · -- The value is a boolean, which its JSON form is read back as.
    obtain ⟨flag, hflag⟩ : ∃ flag, QVariantJson.ofBool flag = value := ⟨_, hsettled⟩
    rw [← hflag, LawfulQVariantJson.from_bool, LawfulQVariantJson.bool_of_json, bool_after_int h]
    exact Restores.refl _

/-! ## The settings of the manager -/

/-- Defaults under a table of rules. -/
def schemaOf (defaults : QVariantMap V) (table : List (String × Rule)) : Schema String V :=
  ⟨defaults, compiled table⟩

omit [LawfulQVariantJson V] in
theorem normalize_schema_of (defaults settings : QVariantMap V) (table : List (String × Rule)) :
    (schemaOf defaults table).normalize settings =
      Schema.applyRules (compiled table) (defaults.insertAll settings.entries) := rfl

/-- Settings under rules that settle are normalized once. -/
theorem schema_settles {table : List (String × Rule)}
    (h : ∀ key ∈ table.map (·.1), settle (rulesAt table key) = true) (defaults : QVariantMap V) :
    (schemaOf defaults table).Settles := by
  intro key value
  show Schema.change (compiled table) key (Schema.change (compiled table) key value) =
    Schema.change (compiled table) key value
  rw [change_compiled, change_compiled, apply_all_twice (settle_rules_at h key)]

/-- Normalized settings are restored from their JSON form. -/
theorem schema_restores {table : List (String × Rule)}
    (h : ∀ key ∈ table.map (·.1), settle (rulesAt table key) = true) {defaults : QVariantMap V}
    {settings : QVariantMap V} (hvalues : settings.Forall Representable)
    (hsettings : (schemaOf defaults table).normalize settings = settings) :
    ((schemaOf defaults table).normalize
      (jsonObjectToVariantMap (variantMapToJsonObject settings))).Related Restores settings := by
  unfold jsonObjectToVariantMap variantMapToJsonObject
  rw [map_values_map_values]
  refine Schema.normalize_map_values (fun key value hvalue hsettled ↦ ?_) hvalues hsettings
  show Restores (Schema.change (compiled table) key _) value
  rw [change_compiled]
  refine apply_all_image (settle_rules_at h key) hvalue ?_
  rw [← change_compiled]
  exact hsettled

/-- Normalized settings are representable if the defaults and the settings are. -/
theorem schema_representable (table : List (String × Rule)) {defaults settings : QVariantMap V}
    (hdefaults : defaults.Forall Representable) (hsettings : settings.Forall Representable) :
    ((schemaOf defaults table).normalize settings).Forall Representable := by
  refine Schema.forall_normalize hdefaults hsettings fun change hchange value ↦ ?_
  obtain ⟨entry, -, rfl⟩ := List.mem_map.mp hchange
  exact entry.2.representable value

omit [LawfulQVariantJson V] in
/-- Where every key is present, putting the values back is adjusting them. -/
theorem fold_insert_eq {table : List (String × Rule)} {map : QVariantMap V}
    (h : ∀ entry ∈ table, map.contains entry.1 = true) :
    table.foldl (fun out rule ↦ out.insert rule.1 (rule.2.apply (value out rule.1))) map =
      Schema.applyRules (compiled table) map := by
  induction table generalizing map with
  | nil => rfl
  | cons entry table ih =>
      obtain ⟨found, hfound⟩ := contains_iff.mp (h entry List.mem_cons_self)
      have hvalue : value map entry.1 = found := by rw [value, hfound, Option.getD_some]
      show table.foldl _ (map.insert entry.1 (entry.2.apply (value map entry.1))) =
        Schema.applyRules (compiled table) (map.adjust entry.1 entry.2.apply)
      rw [hvalue, adjust_eq_insert hfound]
      refine ih fun other hother ↦ ?_
      rw [contains_insert, h other (List.mem_cons_of_mem entry hother), Bool.or_true]

omit [QVariantApi V] [LawfulQVariantJson V] in
/-- Every setting with a rule has a default. -/
theorem direct_print_defaults_contain :
    ∀ entry ∈ directPrintRules,
      (defaultDirectPrintSettings : QVariantMap V).contains entry.1 = true := by
  simp [directPrintRules, defaultDirectPrintSettings, ofList, insertAll]

/-- The schema of the direct-print settings. -/
def directPrintSchema : Schema String V := schemaOf defaultDirectPrintSettings directPrintRules

omit [LawfulQVariantJson V] in
theorem normalized_direct_print_settings_eq (settings : QVariantMap V) :
    normalizedDirectPrintSettings settings = directPrintSchema.normalize settings := by
  rw [normalizedDirectPrintSettings, directPrintSchema, normalize_schema_of]
  exact fold_insert_eq fun entry hentry ↦
    contains_insert_all (direct_print_defaults_contain entry hentry) settings.entries

omit [LawfulQVariantJson V] in
/-- A mask key that is present is trimmed. -/
theorem norm_string_eq {out : QVariantMap V} {key : String} (h : out.contains key = true)
    (fallback : String) : normString key fallback out = out.adjust key Rule.text.apply := by
  obtain ⟨found, hfound⟩ := contains_iff.mp h
  rw [normString, if_neg (not_not.mpr h), adjust_eq_insert hfound, value, hfound, Option.getD_some]

omit [LawfulQVariantJson V] in
/-- A mask key is present afterwards, and so is every other key that was. -/
theorem norm_string_contains (key fallback other : String) (out : QVariantMap V) :
    (normString key fallback out).contains other =
      (decide (other = key) || out.contains other) := by
  unfold normString
  split_ifs
  · exact contains_insert ..
  · exact contains_insert ..

omit [LawfulQVariantJson V] in
/-- The mask keys are always there. -/
theorem clamp_map_u8_contains (params : QVariantMap V) :
    (clampMapU8 params).contains "whiteMaskKey" = true ∧
      (clampMapU8 params).contains "varnishMaskKey" = true := by
  unfold clampMapU8
  dsimp only
  simp only [norm_string_contains, decide_true, Bool.or_true, Bool.true_or, and_self]

omit [LawfulQVariantJson V] in
/-- A table with two more rules. -/
theorem apply_rules_two_more (table : List (String × Rule)) (first second : String × Rule)
    (map : QVariantMap V) :
    Schema.applyRules (compiled (table ++ [first, second])) map =
      ((Schema.applyRules (compiled table) map).adjust first.1 first.2.apply).adjust second.1
        second.2.apply := by
  rw [Schema.applyRules, compiled, List.map_append, List.foldl_append]
  rfl

omit [LawfulQVariantJson V] in
/-- Where the mask keys are there, clamping is applying the rules. -/
theorem clamp_map_u8_eq {params : QVariantMap V} (hwhite : params.contains "whiteMaskKey" = true)
    (hvarnish : params.contains "varnishMaskKey" = true) :
    clampMapU8 params = Schema.applyRules (compiled multiInkRules) params := by
  have hclamped : clampRules.foldl (fun out rule ↦ out.adjust rule.1 rule.2.apply) params =
      Schema.applyRules (compiled clampRules) params := by
    rw [Schema.applyRules, compiled, List.foldl_map]
  unfold clampMapU8
  dsimp only
  rw [hclamped, multiInkRules, apply_rules_two_more, norm_string_eq, norm_string_eq]
  · rw [Schema.contains_apply_rules, hwhite]
  · rw [norm_string_contains, Schema.contains_apply_rules, hvarnish, Bool.or_true]

/-- The schema of the parameters of an ink mode. -/
def multiInkSchema (inkMode : Int) : Schema String V :=
  schemaOf (defaultMultiInkParamsForMode inkMode) multiInkRules

omit [LawfulQVariantJson V] in
/-- The defaults of a mode have the mask keys. -/
theorem multi_ink_defaults_contain (inkMode : Int) :
    (defaultMultiInkParamsForMode inkMode : QVariantMap V).contains "whiteMaskKey" = true ∧
      (defaultMultiInkParamsForMode inkMode : QVariantMap V).contains "varnishMaskKey" = true := by
  unfold defaultMultiInkParamsForMode
  exact clamp_map_u8_contains _

omit [LawfulQVariantJson V] in
theorem merged_multi_ink_params_eq (inkMode : Int) (params : QVariantMap V) :
    mergedMultiInkParams inkMode params = (multiInkSchema inkMode).normalize params := by
  obtain ⟨hwhite, hvarnish⟩ := @multi_ink_defaults_contain V _ _ _ inkMode
  rw [mergedMultiInkParams, multiInkSchema, normalize_schema_of,
    clamp_map_u8_eq (contains_insert_all hwhite params.entries)
      (contains_insert_all hvarnish params.entries)]

omit [LawfulQVariantJson V] in
/-- Merged parameters are clamped. -/
theorem clamp_of_merged {inkMode : Int} {params : QVariantMap V}
    (h : mergedMultiInkParams inkMode params = params) : clampMapU8 params = params := by
  have hkeys : params.contains "whiteMaskKey" = true ∧ params.contains "varnishMaskKey" = true := by
    rw [← h]
    unfold mergedMultiInkParams
    exact clamp_map_u8_contains _
  rw [merged_multi_ink_params_eq] at h
  rw [clamp_map_u8_eq hkeys.1 hkeys.2]
  ext key found
  rw [Schema.find_apply_rules]
  cases hfound : params.find? key with
  | none => rfl
  | some stored =>
      have hsettled : Schema.change (compiled multiInkRules) key stored = stored :=
        Schema.change_of_normalized h hfound
      rw [Option.map_some, hsettled]

/-! ## Defaults -/

theorem direct_print_defaults_representable :
    (defaultDirectPrintSettings : QVariantMap V).Forall Representable := by
  refine (forall_empty _).insert_all ?_
  simp [representable_int, representable_string]

/-- Clamping gives representable values where it changes them. -/
theorem clamp_map_u8_representable {params : QVariantMap V} (h : params.Forall Representable) :
    (clampMapU8 params).Forall Representable := by
  have hstring : ∀ (key fallback : String) (out : QVariantMap V), out.Forall Representable →
      (normString key fallback out).Forall Representable := by
    intro key fallback out hout
    unfold normString
    split_ifs
    · exact hout.insert key (Rule.representable _ _)
    · exact hout.insert key (representable_string fallback)
  have hclamped : ∀ (table : List (String × Rule)) (out : QVariantMap V),
      out.Forall Representable →
        (table.foldl (fun out rule ↦ out.adjust rule.1 rule.2.apply) out).Forall Representable := by
    intro table
    induction table with
    | nil => exact fun _ hout ↦ hout
    | cons rule table ih =>
        exact fun out hout ↦ ih _ (hout.adjust rule.1 fun value ↦ rule.2.representable value)
  unfold clampMapU8
  exact hstring _ _ _ (hstring _ _ _ (hclamped clampRules params h))

theorem multi_ink_defaults_representable (inkMode : Int) :
    (defaultMultiInkParamsForMode inkMode : QVariantMap V).Forall Representable := by
  unfold defaultMultiInkParamsForMode
  refine clamp_map_u8_representable ((forall_empty _).insert_all ?_)
  rw [List.forall_mem_append]
  constructor
  · simp [sharedInkDefaults, representable_int, representable_bool, representable_string]
  · unfold modeDefaults gcrDefaults lightDefaults blackDefaults
    split_ifs
    all_goals simp [representable_int, representable_bool]

/-! ## What normalizing does -/

/-- Direct-print settings are normalized once. -/
theorem normalized_direct_print_settings_twice (settings : QVariantMap V) :
    normalizedDirectPrintSettings (normalizedDirectPrintSettings settings) =
      normalizedDirectPrintSettings settings := by
  simp only [normalized_direct_print_settings_eq]
  exact Schema.normalize_normalize (schema_settles direct_print_rules_settle _) settings

/-- The default direct-print settings are within their bounds. -/
theorem direct_print_defaults_settled :
    ∀ entry ∈ (defaultDirectPrintSettings : QVariantMap V).entries,
      applyAll (rulesAt directPrintRules entry.1) entry.2 = entry.2 := by
  have htrimmed : trimmed "" = "" := by decide +kernel
  intro entry hentry
  have hlist := mem_of_list hentry
  clear hentry
  revert entry
  simp [applyAll, rulesAt, directPrintRules, Rule.apply, clampInt, htrimmed]

/-- The default direct-print settings are normalized. -/
theorem normalized_direct_print_defaults :
    normalizedDirectPrintSettings (defaultDirectPrintSettings : QVariantMap V) =
      defaultDirectPrintSettings := by
  rw [normalized_direct_print_settings_eq, directPrintSchema]
  ext key found
  rw [normalize_schema_of, Schema.find_apply_rules, find_insert_entries, Option.or_self]
  cases hfound : find? (defaultDirectPrintSettings : QVariantMap V) key with
  | none => rfl
  | some value =>
      have hsettled := direct_print_defaults_settled (key, value) (mem_entries.mpr hfound)
      rw [Option.map_some, change_compiled, hsettled]

theorem normalized_direct_print_settings_representable {settings : QVariantMap V}
    (h : settings.Forall Representable) :
    (normalizedDirectPrintSettings settings).Forall Representable := by
  rw [normalized_direct_print_settings_eq]
  exact schema_representable _ direct_print_defaults_representable h

/-- Normalized direct-print settings are restored from their JSON form. -/
theorem direct_print_settings_restored {settings : QVariantMap V}
    (hvalues : settings.Forall Representable)
    (h : normalizedDirectPrintSettings settings = settings) :
    (normalizedDirectPrintSettings
      (jsonObjectToVariantMap (variantMapToJsonObject settings))).Related Restores settings := by
  rw [normalized_direct_print_settings_eq] at h ⊢
  exact schema_restores direct_print_rules_settle hvalues h

/-- Ink parameters are merged once. -/
theorem merged_multi_ink_params_twice (inkMode : Int) (params : QVariantMap V) :
    mergedMultiInkParams inkMode (mergedMultiInkParams inkMode params) =
      mergedMultiInkParams inkMode params := by
  simp only [merged_multi_ink_params_eq]
  exact Schema.normalize_normalize (schema_settles multi_ink_rules_settle _) params

omit [QVariantApi V] [LawfulQVariantJson V] in
/-- The defaults of a mode before clamping have the mask keys. -/
theorem ink_defaults_contain (inkMode : Int) :
    (ofList (sharedInkDefaults ++ modeDefaults inkMode) : QVariantMap V).contains "whiteMaskKey" =
        true ∧
      (ofList (sharedInkDefaults ++ modeDefaults inkMode) : QVariantMap V).contains
        "varnishMaskKey" = true := by
  have happend : (ofList (sharedInkDefaults ++ modeDefaults inkMode) : QVariantMap V) =
      (ofList sharedInkDefaults).insertAll (modeDefaults inkMode) := List.foldl_append
  have hshared : (ofList sharedInkDefaults : QVariantMap V).contains "whiteMaskKey" = true ∧
      (ofList sharedInkDefaults : QVariantMap V).contains "varnishMaskKey" = true := by
    simp [sharedInkDefaults, ofList, insertAll]
  rw [happend]
  exact ⟨contains_insert_all hshared.1 _, contains_insert_all hshared.2 _⟩

/-- Rules that were applied to defaults settle: normalizing changes nothing. -/
theorem normalize_of_rules {table : List (String × Rule)}
    (h : ∀ key ∈ table.map (·.1), settle (rulesAt table key) = true)
    {defaults source : QVariantMap V}
    (hdefaults : defaults = Schema.applyRules (compiled table) source) :
    (schemaOf defaults table).normalize defaults = defaults := by
  ext key found
  rw [normalize_schema_of, Schema.find_apply_rules, find_insert_entries, Option.or_self, hdefaults,
    Schema.find_apply_rules, Option.map_map]
  have hchange : Schema.change (compiled table) key ∘ Schema.change (compiled table) key =
      (Schema.change (compiled table) key : V → V) := by
    funext value
    show Schema.change (compiled table) key (Schema.change (compiled table) key value) = _
    rw [change_compiled, change_compiled, apply_all_twice (settle_rules_at h key)]
  rw [hchange]

/-- The defaults of a mode are merged parameters. -/
theorem merged_multi_ink_defaults (inkMode : Int) :
    mergedMultiInkParams inkMode (defaultMultiInkParamsForMode inkMode : QVariantMap V) =
      defaultMultiInkParamsForMode inkMode := by
  obtain ⟨hwhite, hvarnish⟩ := @ink_defaults_contain V _ _ inkMode
  have hdefault : (defaultMultiInkParamsForMode inkMode : QVariantMap V) =
      Schema.applyRules (compiled multiInkRules)
        (ofList (sharedInkDefaults ++ modeDefaults inkMode)) := by
    rw [defaultMultiInkParamsForMode, clamp_map_u8_eq hwhite hvarnish]
  rw [merged_multi_ink_params_eq, multiInkSchema]
  exact normalize_of_rules multi_ink_rules_settle hdefault

theorem merged_multi_ink_params_representable (inkMode : Int) {params : QVariantMap V}
    (h : params.Forall Representable) :
    (mergedMultiInkParams inkMode params).Forall Representable := by
  rw [merged_multi_ink_params_eq]
  exact schema_representable _ (multi_ink_defaults_representable inkMode) h

/-- Merged ink parameters are restored from their JSON form. -/
theorem multi_ink_params_restored {inkMode : Int} {params : QVariantMap V}
    (hvalues : params.Forall Representable) (h : mergedMultiInkParams inkMode params = params) :
    (mergedMultiInkParams inkMode
      (jsonObjectToVariantMap (variantMapToJsonObject params))).Related Restores params := by
  rw [merged_multi_ink_params_eq] at h ⊢
  exact schema_restores multi_ink_rules_settle hvalues h

end Rules

end ColorManagementManager

end PrintFlow
