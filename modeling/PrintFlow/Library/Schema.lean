import PrintFlow.Library.OrderedMap

/-!
# Settings with defaults and rules

A `Schema` says how a map of settings is normalized: the settings are put over the defaults, and
each rule then changes the value at its key. Normalizing twice is normalizing once when the rules
settle. Normalized settings whose values are stored in another form are restored by normalizing what
is read, when the rules undo what the other form does to a value.
-/

/-- Default values, and the rules that are applied one after the other. -/
structure Schema (Key Value : Type) [LinearOrder Key] where
  defaults : OrderedMap Key Value
  rules : List (Key × (Value → Value))

namespace Schema

open OrderedMap

variable {Key Value : Type} [LinearOrder Key]

/-- What rules make of a value at a key. -/
def change (rules : List (Key × (Value → Value))) (key : Key) (value : Value) : Value :=
  rules.foldl (fun value rule ↦ if key = rule.1 then rule.2 value else value) value

/-- Rules applied to a map one after the other. -/
def applyRules (rules : List (Key × (Value → Value))) (map : OrderedMap Key Value) :
    OrderedMap Key Value :=
  rules.foldl (fun map rule ↦ map.adjust rule.1 rule.2) map

/-- The rules of a key change its value. -/
@[simp] theorem find_apply_rules (rules : List (Key × (Value → Value))) (map : OrderedMap Key Value)
    (key : Key) : (applyRules rules map).find? key = (map.find? key).map (change rules key) := by
  induction rules generalizing map with
  | nil => exact Option.map_id'.symm
  | cons rule rules ih =>
      show (applyRules rules (map.adjust rule.1 rule.2)).find? key = _
      rw [ih, find_adjust]
      by_cases hkey : key = rule.1
      · rw [if_pos hkey, Option.map_map]
        congr 1
        funext value
        show change rules key (rule.2 value) = rules.foldl _ (if key = rule.1 then _ else _)
        rw [if_pos hkey]
        rfl
      · rw [if_neg hkey]
        congr 1
        funext value
        show change rules key value = rules.foldl _ (if key = rule.1 then _ else _)
        rw [if_neg hkey]
        rfl

/-- Rules leave the keys of a map. -/
@[simp] theorem contains_apply_rules (rules : List (Key × (Value → Value)))
    (map : OrderedMap Key Value) (key : Key) :
    (applyRules rules map).contains key = map.contains key := by
  rw [contains, contains, find_apply_rules]
  exact Option.isSome_map

variable (schema : Schema Key Value)

/-- The settings put over the defaults, under the rules. -/
def normalize (settings : OrderedMap Key Value) : OrderedMap Key Value :=
  applyRules schema.rules (schema.defaults.insertAll settings.entries)

@[simp] theorem find_normalize (settings : OrderedMap Key Value) (key : Key) :
    (schema.normalize settings).find? key =
      ((settings.find? key).or (schema.defaults.find? key)).map (change schema.rules key) := by
  rw [normalize, find_apply_rules, find_insert_entries]

/-- Rules that change nothing when they are applied again. -/
def Settles : Prop :=
  ∀ key value, change schema.rules key (change schema.rules key value) = change schema.rules key value

variable {schema}

/-- Normalizing twice is normalizing once. -/
theorem normalize_normalize (h : schema.Settles) (settings : OrderedMap Key Value) :
    schema.normalize (schema.normalize settings) = schema.normalize settings := by
  ext key value
  simp only [find_normalize]
  cases hfound : (settings.find? key).or (schema.defaults.find? key) with
  | none =>
      have hdefault : schema.defaults.find? key = none := (Option.or_eq_none_iff.mp hfound).2
      rw [hdefault]
      rfl
  | some found => rw [Option.map_some, Option.some_or, Option.map_some, h key found]

/-- A value of normalized settings is as the rules leave it. -/
theorem change_of_normalized {settings : OrderedMap Key Value}
    (h : schema.normalize settings = settings) {key : Key} {value : Value}
    (hvalue : settings.find? key = some value) : change schema.rules key value = value := by
  have hkey := congrArg (·.find? key) h
  simp only [find_normalize, hvalue, Option.some_or, Option.map_some] at hkey
  exact Option.some.inj hkey

/-- A key that normalized settings do not have has no default. -/
theorem default_of_normalized {settings : OrderedMap Key Value}
    (h : schema.normalize settings = settings) {key : Key} (hnone : settings.find? key = none) :
    schema.defaults.find? key = none := by
  have hkey := congrArg (·.find? key) h
  simp only [find_normalize, hnone, Option.none_or, Option.map_eq_none_iff] at hkey
  exact hkey

/-- Normalized settings are restored from another form of their values, if the rules restore the
values they have settled. -/
theorem normalize_map_values {P : Value → Prop} {same : Value → Value → Prop}
    {image : Value → Value}
    (h : ∀ key value, P value → change schema.rules key value = value →
      same (change schema.rules key (image value)) value) {settings : OrderedMap Key Value}
    (hvalues : settings.Forall P) (hsettings : schema.normalize settings = settings) :
    (schema.normalize (settings.mapValues image)).Related same settings := by
  intro key
  rw [find_normalize, find_map_values]
  cases hfound : settings.find? key with
  | none =>
      rw [default_of_normalized hsettings hfound]
      exact .none
  | some value =>
      exact .some (h key value (hvalues key value hfound) (change_of_normalized hsettings hfound))

/-- What holds of the defaults, of the settings and of what the rules give holds of normalized
settings. -/
theorem forall_normalize {P : Value → Prop} (hdefaults : schema.defaults.Forall P)
    {settings : OrderedMap Key Value} (hsettings : settings.Forall P)
    (hrules : ∀ rule ∈ schema.rules, ∀ value, P (rule.2 value)) :
    (schema.normalize settings).Forall P := by
  have hchange : ∀ (rules : List (Key × (Value → Value))),
      (∀ rule ∈ rules, ∀ value, P (rule.2 value)) →
        ∀ key value, P value → P (change rules key value) := by
    intro rules hrules key
    induction rules with
    | nil => exact fun _ hvalue ↦ hvalue
    | cons rule rules ih =>
        intro value hvalue
        show P (change rules key (if key = rule.1 then rule.2 value else value))
        refine ih (fun other hother ↦ hrules other (List.mem_cons_of_mem rule hother)) _ ?_
        split_ifs
        · exact hrules rule List.mem_cons_self value
        · exact hvalue
  intro key value hvalue
  rw [find_normalize] at hvalue
  obtain ⟨source, hsource, rfl⟩ := Option.map_eq_some_iff.mp hvalue
  refine hchange schema.rules hrules key source ?_
  rcases Option.or_eq_some_iff.mp hsource with hown | ⟨-, hdefault⟩
  · exact hsettings key source hown
  · exact hdefaults key source hdefault

end Schema
