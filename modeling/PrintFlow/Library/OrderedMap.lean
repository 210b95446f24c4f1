import Mathlib.Data.List.Basic
import Mathlib.Order.Lattice

/-!
# Maps ordered by key

A map is the list of its entries in strictly increasing key order, so that a map has one
representation: two maps that agree at every key are equal. Copying the entries of a map into
another one is `insertAll`; copying them into the empty map gives the map back, also when the keys
are written in another form in between.
-/

/-- A map, as its entries in increasing key order. -/
structure OrderedMap (Key Value : Type) [LinearOrder Key] where
  entries : List (Key × Value)
  sorted : entries.Pairwise fun first second ↦ first.1 < second.1

namespace OrderedMap

variable {Key Value Other : Type} [LinearOrder Key]

/-! ## Entries -/

/-- The value at a key in a list of entries. -/
def lookup (key : Key) : List (Key × Value) → Option Value
  | [] => none
  | entry :: rest => if key = entry.1 then some entry.2 else lookup key rest

/-- The entries with a value put at a key. -/
def insertEntry (key : Key) (value : Value) : List (Key × Value) → List (Key × Value)
  | [] => [(key, value)]
  | entry :: rest =>
      if key < entry.1 then (key, value) :: entry :: rest
      else if key = entry.1 then (key, value) :: rest
      else entry :: insertEntry key value rest

/-- A key that no entry has is without a value. -/
theorem lookup_eq_none {key : Key} {entries : List (Key × Value)}
    (h : ∀ entry ∈ entries, key ≠ entry.1) : lookup key entries = none := by
  induction entries with
  | nil => rfl
  | cons entry rest ih =>
      rw [lookup, if_neg (h entry List.mem_cons_self)]
      exact ih fun other hother ↦ h other (List.mem_cons_of_mem entry hother)

/-- Among entries with different keys the value at a key is that of its entry. -/
theorem mem_iff_lookup {entries : List (Key × Value)}
    (h : entries.Pairwise fun first second ↦ first.1 ≠ second.1) {key : Key} {value : Value} :
    (key, value) ∈ entries ↔ lookup key entries = some value := by
  induction entries with
  | nil => exact iff_of_false List.not_mem_nil nofun
  | cons entry rest ih =>
      have hrest := List.pairwise_cons.mp h
      rw [List.mem_cons, ih hrest.2, lookup]
      by_cases hkey : key = entry.1
      · have hnone : lookup key rest = none :=
          lookup_eq_none fun other hother ↦ hkey ▸ hrest.1 other hother
        rw [if_pos hkey, hnone, Option.some_inj, hkey]
        exact ⟨fun h ↦ h.elim (fun h ↦ congrArg Prod.snd h.symm) nofun,
          fun h ↦ .inl (Prod.ext rfl h.symm)⟩
      · rw [if_neg hkey]
        exact ⟨fun h ↦ h.resolve_left fun h ↦ hkey (congrArg Prod.fst h), .inr⟩

/-- After an insertion the key has the new value and every other key its old one. -/
theorem lookup_insert_entry (key other : Key) (value : Value) (entries : List (Key × Value)) :
    lookup other (insertEntry key value entries) =
      if other = key then some value else lookup other entries := by
  induction entries with
  | nil => rfl
  | cons entry rest ih =>
      rw [insertEntry]
      by_cases hlt : key < entry.1
      · rw [if_pos hlt]
        rfl
      · rw [if_neg hlt]
        by_cases heq : key = entry.1
        · rw [if_pos heq, lookup, lookup, ← heq]
          split <;> rfl
        · rw [if_neg heq, lookup, ih, lookup]
          by_cases hother : other = key
          · rw [if_neg (hother ▸ heq), if_pos hother, if_pos hother]
          · rw [if_neg hother, if_neg hother]

/-- An entry after an insertion is the new one or an old one. -/
theorem mem_insert_entry {key : Key} {value : Value} {entry : Key × Value}
    {entries : List (Key × Value)} (h : entry ∈ insertEntry key value entries) :
    entry = (key, value) ∨ entry ∈ entries := by
  induction entries with
  | nil => exact .inl (List.mem_singleton.mp h)
  | cons first rest ih =>
      rw [insertEntry] at h
      split at h
      · exact List.mem_cons.mp h
      · split at h
        · exact (List.mem_cons.mp h).imp_right (List.mem_cons_of_mem first)
        · rcases List.mem_cons.mp h with rfl | hrest
          · exact .inr List.mem_cons_self
          · exact (ih hrest).imp_right (List.mem_cons_of_mem first)

/-- An insertion keeps the keys in increasing order. -/
theorem insert_entry_sorted {entries : List (Key × Value)}
    (h : entries.Pairwise fun first second ↦ first.1 < second.1) (key : Key) (value : Value) :
    (insertEntry key value entries).Pairwise fun first second ↦ first.1 < second.1 := by
  induction entries with
  | nil => exact List.pairwise_singleton _ _
  | cons entry rest ih =>
      have hrest := List.pairwise_cons.mp h
      rw [insertEntry]
      by_cases hlt : key < entry.1
      · rw [if_pos hlt]
        refine List.pairwise_cons.mpr ⟨fun other hother ↦ ?_, h⟩
        rcases List.mem_cons.mp hother with rfl | hmem
        · exact hlt
        · exact hlt.trans (hrest.1 other hmem)
      · rw [if_neg hlt]
        by_cases heq : key = entry.1
        · rw [if_pos heq]
          exact List.pairwise_cons.mpr ⟨fun other hother ↦ heq ▸ hrest.1 other hother, hrest.2⟩
        · rw [if_neg heq]
          refine List.pairwise_cons.mpr ⟨fun other hother ↦ ?_, ih hrest.2⟩
          rcases mem_insert_entry hother with rfl | hmem
          · exact lt_of_le_of_ne (not_lt.mp hlt) (Ne.symm heq)
          · exact hrest.1 other hmem

/-! ## Maps -/

/-- The map without entries. -/
def empty : OrderedMap Key Value := ⟨[], .nil⟩

/-- The value at a key. -/
def find? (map : OrderedMap Key Value) (key : Key) : Option Value := lookup key map.entries

/-- Whether there is a value at a key. -/
def contains (map : OrderedMap Key Value) (key : Key) : Bool := (map.find? key).isSome

/-- Put a value at a key. -/
def insert (map : OrderedMap Key Value) (key : Key) (value : Value) : OrderedMap Key Value :=
  ⟨insertEntry key value map.entries, insert_entry_sorted map.sorted key value⟩

/-- Put these entries into a map one after the other. -/
def insertAll (map : OrderedMap Key Value) (entries : List (Key × Value)) : OrderedMap Key Value :=
  entries.foldl (fun map entry ↦ map.insert entry.1 entry.2) map

/-- The map of these entries; a later entry replaces an earlier one with the same key. -/
def ofList (entries : List (Key × Value)) : OrderedMap Key Value := empty.insertAll entries

/-- The map with every value changed. -/
def mapValues (change : Value → Other) (map : OrderedMap Key Value) : OrderedMap Key Other where
  entries := map.entries.map fun entry ↦ (entry.1, change entry.2)
  sorted := List.pairwise_map.mpr map.sorted

@[simp] theorem find_empty (key : Key) : (empty : OrderedMap Key Value).find? key = none := rfl

@[simp] theorem find_insert (map : OrderedMap Key Value) (key other : Key) (value : Value) :
    (map.insert key value).find? other = if other = key then some value else map.find? other :=
  lookup_insert_entry key other value map.entries

@[simp] theorem find_map_values (change : Value → Other) (map : OrderedMap Key Value) (key : Key) :
    (map.mapValues change).find? key = (map.find? key).map change := by
  show lookup key (map.entries.map _) = (lookup key map.entries).map change
  induction map.entries with
  | nil => rfl
  | cons entry rest ih =>
      rw [List.map_cons, lookup, lookup]
      split
      · rfl
      · exact ih

/-- Maps that agree at every key are equal. -/
@[ext] theorem ext {first second : OrderedMap Key Value}
    (h : ∀ key, first.find? key = second.find? key) : first = second := by
  obtain ⟨entries, hentries⟩ := first
  obtain ⟨others, hothers⟩ := second
  suffices hsame : entries = others by subst hsame; rfl
  induction entries generalizing others with
  | nil =>
      cases others with
      | nil => rfl
      | cons other others =>
          have hfind := h other.1
          simp [find?, lookup] at hfind
  | cons entry rest ih =>
      cases others with
      | nil =>
          have hfind := h entry.1
          simp [find?, lookup] at hfind
      | cons other others =>
          simp only [find?, lookup] at h ih
          have hrest := List.pairwise_cons.mp hentries
          have hother := List.pairwise_cons.mp hothers
          -- The smallest keys are the same: a smaller one would be missing on the other side.
          have hkey : entry.1 = other.1 := by
            rcases lt_trichotomy entry.1 other.1 with hlt | heq | hgt
            · have hfind := h entry.1
              rw [if_pos rfl, if_neg hlt.ne,
                lookup_eq_none fun next hnext ↦ (hlt.trans (hother.1 next hnext)).ne] at hfind
              exact absurd hfind (by simp)
            · exact heq
            · have hfind := h other.1
              rw [if_pos rfl, if_neg hgt.ne,
                lookup_eq_none fun next hnext ↦ (hgt.trans (hrest.1 next hnext)).ne] at hfind
              exact absurd hfind (by simp)
          have hvalue : entry.2 = other.2 := by
            have hfind := h entry.1
            rw [if_pos rfl, if_pos hkey] at hfind
            exact Option.some.inj hfind
          have htail : rest = others := by
            refine ih hrest.2 others hother.2 fun key ↦ ?_
            by_cases hhead : key = entry.1
            · subst hhead
              rw [lookup_eq_none fun next hnext ↦ (hrest.1 next hnext).ne,
                lookup_eq_none fun next hnext ↦ hkey ▸ (hother.1 next hnext).ne]
            · have hfind := h key
              rwa [if_neg hhead, if_neg (hkey ▸ hhead)] at hfind
          rw [htail, Prod.ext hkey hvalue]

/-- Entries with different keys win over the map they are put into. -/
theorem find_insert_all {entries : List (Key × Value)}
    (h : entries.Pairwise fun first second ↦ first.1 ≠ second.1) (map : OrderedMap Key Value)
    (key : Key) : (map.insertAll entries).find? key = (lookup key entries).or (map.find? key) := by
  induction entries generalizing map with
  | nil => rfl
  | cons entry rest ih =>
      have hrest := List.pairwise_cons.mp h
      rw [insertAll, List.foldl_cons, ← insertAll, ih hrest.2, find_insert, lookup]
      by_cases hkey : key = entry.1
      · rw [if_pos hkey, if_pos hkey, hkey, lookup_eq_none hrest.1]
        rfl
      · rw [if_neg hkey, if_neg hkey]

/-- Copying the entries of a map over another map. -/
@[simp] theorem find_insert_entries (map other : OrderedMap Key Value) (key : Key) :
    (map.insertAll other.entries).find? key = (other.find? key).or (map.find? key) :=
  find_insert_all (other.sorted.imp fun h ↦ h.ne) map key

/-- The map of the entries of a map is the map. -/
@[simp] theorem of_list_entries (map : OrderedMap Key Value) : ofList map.entries = map := by
  ext key
  rw [ofList, find_insert_entries, find_empty, Option.or_none]

/-- The entries are the keys with their values. -/
theorem mem_entries {map : OrderedMap Key Value} {key : Key} {value : Value} :
    (key, value) ∈ map.entries ↔ map.find? key = some value := by
  obtain ⟨entries, hentries⟩ := map
  show (key, value) ∈ entries ↔ lookup key entries = some value
  exact mem_iff_lookup (hentries.imp fun h ↦ h.ne)

/-- An entry after an insertion is the new one or an old one. -/
theorem mem_insert {map : OrderedMap Key Value} {key : Key} {value : Value} {entry : Key × Value}
    (h : entry ∈ (map.insert key value).entries) : entry = (key, value) ∨ entry ∈ map.entries :=
  mem_insert_entry h

/-- An entry of a map with other entries put into it is one of them or was there. -/
theorem mem_insert_all {map : OrderedMap Key Value} {entries : List (Key × Value)}
    {entry : Key × Value} (h : entry ∈ (map.insertAll entries).entries) :
    entry ∈ entries ∨ entry ∈ map.entries := by
  induction entries generalizing map with
  | nil => exact .inr h
  | cons first rest ih =>
      rcases ih h with hrest | hinsert
      · exact .inl (List.mem_cons_of_mem first hrest)
      · rcases mem_insert hinsert with rfl | hold
        · exact .inl List.mem_cons_self
        · exact .inr hold

/-- An entry of a map made of entries is one of them. -/
theorem mem_of_list {entries : List (Key × Value)} {entry : Key × Value}
    (h : entry ∈ (ofList entries).entries) : entry ∈ entries :=
  (mem_insert_all h).resolve_right List.not_mem_nil

/-- A map made of entries with different keys has these entries. -/
theorem find_of_list {entries : List (Key × Value)}
    (h : entries.Pairwise fun first second ↦ first.1 ≠ second.1) {key : Key} {value : Value} :
    (ofList entries).find? key = some value ↔ (key, value) ∈ entries := by
  rw [ofList, find_insert_all h, find_empty, Option.or_none, mem_iff_lookup h]

/-- A map whose keys are encoded, read back by decoding them, has the keys of the map. -/
theorem find_decoded {Code Image Last : Type} [LinearOrder Code] {encode : Key → Code}
    {decode : Code → Option Key} {map : OrderedMap Key Value}
    (hdecode : ∀ entry ∈ map.entries, decode (encode entry.1) = some entry.1)
    (write : Value → Image) (read : Key → Image → Last) (key : Key) :
    (ofList ((ofList (map.entries.map fun entry ↦ (encode entry.1, write entry.2))).entries.filterMap
      fun entry ↦ (decode entry.1).map fun key ↦ (key, read key entry.2))).find? key =
      (map.find? key).map fun value ↦ read key (write value) := by
  have hcodes : (map.entries.map fun entry ↦ (encode entry.1, write entry.2)).Pairwise
      fun first second ↦ first.1 ≠ second.1 := by
    refine List.pairwise_map.mpr (map.sorted.imp_of_mem fun hfirst hsecond hlt hcode ↦ ?_)
    have hsame := (hdecode _ hfirst).symm.trans ((congrArg decode hcode).trans (hdecode _ hsecond))
    exact hlt.ne (Option.some.inj hsame)
  generalize hencoded : ofList (map.entries.map fun entry ↦ (encode entry.1, write entry.2)) =
    encoded
  have hentry : ∀ entry ∈ encoded.entries,
      ∃ source ∈ map.entries, (encode source.1, write source.2) = entry := by
    intro entry hentry
    rw [← hencoded] at hentry
    exact List.mem_map.mp ((find_of_list hcodes).mp (mem_entries.mp hentry))
  have hkeys : (encoded.entries.filterMap fun entry ↦
      (decode entry.1).map fun key ↦ (key, read key entry.2)).Pairwise
        fun first second ↦ first.1 ≠ second.1 := by
    refine List.pairwise_filterMap.mpr (encoded.sorted.imp_of_mem ?_)
    intro first second hfirst hsecond hlt read₁ hread₁ read₂ hread₂ hsame
    obtain ⟨source₁, hsource₁, rfl⟩ := hentry first hfirst
    obtain ⟨source₂, hsource₂, rfl⟩ := hentry second hsecond
    rw [hdecode _ hsource₁, Option.map_some] at hread₁
    rw [hdecode _ hsource₂, Option.map_some] at hread₂
    obtain rfl := Option.some.inj hread₁
    obtain rfl := Option.some.inj hread₂
    exact hlt.ne (congrArg encode hsame)
  refine Option.ext fun last ↦ ?_
  rw [find_of_list hkeys, List.mem_filterMap, Option.map_eq_some_iff]
  constructor
  · intro h
    obtain ⟨entry, hmem, hread⟩ := h
    obtain ⟨source, hsource, rfl⟩ := hentry entry hmem
    rw [hdecode _ hsource, Option.map_some] at hread
    obtain ⟨rfl, rfl⟩ := Prod.mk.injEq .. ▸ Option.some.inj hread
    exact ⟨source.2, mem_entries.mp hsource, rfl⟩
  · intro h
    obtain ⟨value, hvalue, rfl⟩ := h
    have hsource := mem_entries.mpr hvalue
    refine ⟨(encode key, write value), ?_, ?_⟩
    · rw [← hencoded]
      exact mem_entries.mpr ((find_of_list hcodes).mpr (List.mem_map.mpr ⟨_, hsource, rfl⟩))
    · rw [hdecode _ hsource]
      rfl

/-! ## Changing values -/

/-- The map with the value at a key changed, if there is one. -/
def adjust (map : OrderedMap Key Value) (key : Key) (change : Value → Value) :
    OrderedMap Key Value :=
  match map.find? key with
  | none => map
  | some value => map.insert key (change value)

@[simp] theorem find_adjust (map : OrderedMap Key Value) (key other : Key)
    (change : Value → Value) :
    (map.adjust key change).find? other =
      if other = key then (map.find? other).map change else map.find? other := by
  unfold adjust
  cases hvalue : map.find? key with
  | none =>
      split_ifs with hother
      · rw [hother, hvalue]
        rfl
      · rfl
  | some value =>
      dsimp only
      rw [find_insert]
      split_ifs with hother
      · rw [hother, hvalue]
        rfl
      · rfl

theorem adjust_eq_insert {map : OrderedMap Key Value} {key : Key} {value : Value}
    (h : map.find? key = some value) (change : Value → Value) :
    map.adjust key change = map.insert key (change value) := by
  rw [adjust, h]

/-! ## Keys -/

theorem contains_iff {map : OrderedMap Key Value} {key : Key} :
    map.contains key = true ↔ ∃ value, map.find? key = some value := by
  rw [contains, Option.isSome_iff_exists]

@[simp] theorem contains_insert (map : OrderedMap Key Value) (key other : Key) (value : Value) :
    (map.insert key value).contains other = (decide (other = key) || map.contains other) := by
  rw [contains, find_insert, contains]
  by_cases hkey : other = key
  · rw [if_pos hkey, decide_eq_true hkey]
    rfl
  · rw [if_neg hkey, decide_eq_false hkey]
    rfl

/-- Entries that are put into a map leave its keys. -/
theorem contains_insert_all {map : OrderedMap Key Value} {key : Key} (h : map.contains key = true)
    (entries : List (Key × Value)) : (map.insertAll entries).contains key = true := by
  induction entries generalizing map with
  | nil => exact h
  | cons entry rest ih => exact ih (by rw [contains_insert, h, Bool.or_true])

/-! ## Properties of the values -/

/-- Every value of a map has a property. -/
def Forall (P : Value → Prop) (map : OrderedMap Key Value) : Prop :=
  ∀ key value, map.find? key = some value → P value

/-- The values of two maps are related key by key, and both have the same keys. -/
def Related (same : Value → Other → Prop) (first : OrderedMap Key Value)
    (second : OrderedMap Key Other) : Prop :=
  ∀ key, Option.Rel same (first.find? key) (second.find? key)

theorem forall_empty (P : Value → Prop) : Forall P (empty : OrderedMap Key Value) :=
  fun _ _ h ↦ nomatch h

theorem Forall.insert {P : Value → Prop} {map : OrderedMap Key Value} (h : map.Forall P) (key : Key)
    {value : Value} (hvalue : P value) : (map.insert key value).Forall P := by
  intro other found hfound
  rw [find_insert] at hfound
  split_ifs at hfound
  · obtain rfl := Option.some.inj hfound
    exact hvalue
  · exact h other found hfound

theorem Forall.insert_all {P : Value → Prop} {map : OrderedMap Key Value} (h : map.Forall P)
    {entries : List (Key × Value)} (hentries : ∀ entry ∈ entries, P entry.2) :
    (map.insertAll entries).Forall P := by
  induction entries generalizing map with
  | nil => exact h
  | cons entry rest ih =>
      exact ih (h.insert entry.1 (hentries entry List.mem_cons_self))
        fun other hother ↦ hentries other (List.mem_cons_of_mem entry hother)

theorem Forall.adjust {P : Value → Prop} {map : OrderedMap Key Value} (h : map.Forall P) (key : Key)
    {change : Value → Value} (hchange : ∀ value, P (change value)) :
    (map.adjust key change).Forall P := by
  unfold OrderedMap.adjust
  cases map.find? key with
  | none => exact h
  | some value => exact h.insert key (hchange value)

theorem Forall.entries {P : Value → Prop} {map : OrderedMap Key Value} (h : map.Forall P) :
    ∀ entry ∈ map.entries, P entry.2 :=
  fun entry hentry ↦ h entry.1 entry.2 (mem_entries.mp hentry)

theorem Forall.map_values {P : Other → Prop} {change : Value → Other} {map : OrderedMap Key Value}
    (h : map.Forall fun value ↦ P (change value)) : (map.mapValues change).Forall P := by
  intro key value hvalue
  rw [find_map_values] at hvalue
  obtain ⟨source, hsource, rfl⟩ := Option.map_eq_some_iff.mp hvalue
  exact h key source hsource

/-- Changing the values of a map by what changes none of them. -/
theorem map_values_eq_self {change : Value → Value} {map : OrderedMap Key Value}
    (h : map.Forall fun value ↦ change value = value) : map.mapValues change = map := by
  ext key value
  rw [find_map_values]
  cases hfound : map.find? key with
  | none => rfl
  | some found => rw [Option.map_some, h key found hfound]

@[simp] theorem map_values_map_values {Last : Type} (change : Value → Other)
    (next : Other → Last) (map : OrderedMap Key Value) :
    (map.mapValues change).mapValues next = map.mapValues fun value ↦ next (change value) := by
  ext key value
  simp [Function.comp_def]

theorem Related.refl {same : Value → Value → Prop} (h : ∀ value, same value value)
    (map : OrderedMap Key Value) : map.Related same map := by
  intro key
  cases map.find? key with
  | none => exact .none
  | some value => exact .some (h value)

/-- Values that are related at a key may be related in another way. -/
theorem Related.imp {same other : Value → Other → Prop} {first : OrderedMap Key Value}
    {second : OrderedMap Key Other} (h : first.Related same second)
    (himp : ∀ key value found, first.find? key = some value → second.find? key = some found →
      same value found → other value found) : first.Related other second := by
  intro key
  have hkey := h key
  have himp := himp key
  generalize first.find? key = value at hkey himp ⊢
  generalize second.find? key = found at hkey himp ⊢
  cases hkey with
  | none => exact .none
  | some hvalue => exact .some (himp _ _ rfl rfl hvalue)

theorem Related.insert {same : Value → Other → Prop} {first : OrderedMap Key Value}
    {second : OrderedMap Key Other} (h : first.Related same second) (key : Key) {value : Value}
    {other : Other} (hvalue : same value other) :
    (first.insert key value).Related same (second.insert key other) := by
  intro found
  rw [find_insert, find_insert]
  split_ifs
  · exact .some hvalue
  · exact h found

/-- Maps of related values at the same keys are related. -/
theorem related_of_list {same : Value → Other → Prop} {first : Key → Value} {second : Key → Other}
    (h : ∀ key, same (first key) (second key)) (keys : List Key) :
    (ofList (keys.map fun key ↦ (key, first key))).Related same
      (ofList (keys.map fun key ↦ (key, second key))) := by
  have hinsert : ∀ (map : OrderedMap Key Value) (other : OrderedMap Key Other),
      map.Related same other →
        (map.insertAll (keys.map fun key ↦ (key, first key))).Related same
          (other.insertAll (keys.map fun key ↦ (key, second key))) := by
    induction keys with
    | nil => exact fun _ _ h ↦ h
    | cons key keys ih => exact fun map other hmap ↦ ih _ _ (hmap.insert key (h key))
  exact hinsert empty empty fun _ ↦ .none

/-- Maps with equal images of their values have related values. -/
theorem map_values_eq_iff {Image : Type} {first : Value → Image} {second : Other → Image}
    {map : OrderedMap Key Value} {other : OrderedMap Key Other} :
    map.mapValues first = other.mapValues second ↔
      map.Related (fun value found ↦ first value = second found) other := by
  constructor
  · intro h key
    have hkey := congrArg (·.find? key) h
    simp only [find_map_values] at hkey
    cases hfirst : map.find? key with
    | none =>
        cases hsecond : other.find? key with
        | none => exact .none
        | some found =>
            rw [hfirst, hsecond] at hkey
            cases hkey
    | some value =>
        cases hsecond : other.find? key with
        | none =>
            rw [hfirst, hsecond] at hkey
            cases hkey
        | some found =>
            rw [hfirst, hsecond] at hkey
            exact .some (Option.some.inj hkey)
  · intro h
    ext key value
    rw [find_map_values, find_map_values]
    have hkey := h key
    generalize map.find? key = found at hkey
    generalize other.find? key = otherFound at hkey
    cases hkey with
    | none => rfl
    | some hvalue => rw [Option.map_some, Option.map_some, hvalue]

end OrderedMap
