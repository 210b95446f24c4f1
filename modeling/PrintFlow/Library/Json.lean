import Mathlib.Data.String.Basic
import PrintFlow.Library.FloatFormat
import PrintFlow.Library.OrderedMap

/-!
# JSON values and their text

A JSON value with the conversions that give a fallback for a value of another type. The fields of an
object are an `OrderedMap`. JSON has no infinity and no NaN: the text of a document keeps every
value except such a number, which it writes as `null`; `scrub` is what is left of a value.
-/

open FloatFormat

/-- A JSON value. -/
inductive Json where
  | null
  | bool (value : Bool)
  | number (value : Double)
  | string (value : String)
  | array (values : List Json)
  | object (fields : List (String × Json))

namespace Json

/-- The fields of an object, by name. -/
abbrev Object := OrderedMap String Json

/-- The value with these fields. -/
def ofObject (fields : Object) : Json := .object fields.entries

/-- The fields of an object; other values have none. -/
def toObject : Json → Object
  | .object fields => OrderedMap.ofList fields
  | _ => OrderedMap.empty

/-- The value of a field, or null. -/
def Object.value (fields : Object) (name : String) : Json := (fields.find? name).getD .null

/-- A string, or else the fallback. -/
def toString (fallback : String) : Json → String
  | .string value => value
  | _ => fallback

/-- A boolean, or else the fallback. -/
def toBool (fallback : Bool) : Json → Bool
  | .bool value => value
  | _ => fallback

/-- A number, or else the fallback. -/
def toDouble (fallback : Double) : Json → Double
  | .number value => value
  | _ => fallback

/-- An integer in the range of `int`, or else the fallback. -/
def toInt (fallback : Int32) : Json → Int32
  | .number (.finite value) =>
      if value.den = 1 ∧ -2 ^ 31 ≤ value.num ∧ value.num < 2 ^ 31 then Int32.ofInt value.num
      else fallback
  | _ => fallback

/-- The number that an integer is. -/
def ofInt (value : Int32) : Json := .number (.finite value.toInt)

/-- An integer is read back. -/
@[simp] theorem to_int_of_int (fallback value : Int32) : toInt fallback (ofInt value) = value := by
  have hlow := value.le_toInt
  have hhigh := value.toInt_lt
  rw [ofInt, toInt, if_pos ⟨Rat.den_intCast _, by simpa using hlow, by simpa using hhigh⟩,
    Rat.num_intCast, Int32.ofInt_toInt]

/-! ## What the text keeps -/

mutual

/-- The value that the text of a value stands for. -/
def scrub : Json → Json
  | .number (.infinite _) => .null
  | .number .nan => .null
  | .array values => .array (scrubValues values)
  | .object fields => .object (scrubFields fields)
  | value => value

/-- The elements of an array as the text keeps them. -/
def scrubValues : List Json → List Json
  | [] => []
  | value :: rest => scrub value :: scrubValues rest

/-- The fields of an object as the text keeps them. -/
def scrubFields : List (String × Json) → List (String × Json)
  | [] => []
  | (name, value) :: rest => (name, scrub value) :: scrubFields rest

end

theorem scrub_values_eq_map (values : List Json) : scrubValues values = values.map scrub := by
  induction values with
  | nil => rfl
  | cons value rest ih => rw [scrubValues, ih, List.map_cons]

theorem scrub_fields_eq_map (fields : List (String × Json)) :
    scrubFields fields = fields.map fun field ↦ (field.1, scrub field.2) := by
  induction fields with
  | nil => rfl
  | cons field rest ih => rw [scrubFields, ih, List.map_cons]

@[simp] theorem scrub_array (values : List Json) :
    scrub (.array values) = .array (values.map scrub) := by
  rw [scrub, scrub_values_eq_map]

/-- The text of an object keeps each of its fields. -/
@[simp] theorem scrub_of_object (fields : Object) :
    scrub (ofObject fields) = ofObject (fields.mapValues scrub) := by
  rw [ofObject, scrub, scrub_fields_eq_map]
  rfl

@[simp] theorem scrub_null : scrub .null = .null := by rw [scrub] <;> simp

@[simp] theorem scrub_bool (value : Bool) : scrub (.bool value) = .bool value := by
  rw [scrub] <;> simp

@[simp] theorem scrub_string (value : String) : scrub (.string value) = .string value := by
  rw [scrub] <;> simp

@[simp] theorem scrub_finite (value : ℚ) :
    scrub (.number (.finite value)) = .number (.finite value) := by
  rw [scrub] <;> simp

@[simp] theorem scrub_of_int (value : Int32) : scrub (ofInt value) = ofInt value :=
  scrub_finite value.toInt

/-- The fields of an object are read back. -/
@[simp] theorem to_object_of_object (fields : Object) : toObject (ofObject fields) = fields :=
  fields.of_list_entries

/-! ## Values that the text keeps -/

/-- A value without infinite numbers, all of which its text keeps. -/
def Finite (value : Json) : Prop := value.scrub = value

/-- The fields of a finite value are finite. -/
theorem Finite.to_object {value : Json} (h : value.Finite) : value.toObject.Forall Finite := by
  cases value with
  | object fields =>
      have hfields : scrubFields fields = fields := Json.object.inj ((scrub.eq_def _).symm.trans h)
      rw [scrub_fields_eq_map] at hfields
      refine (OrderedMap.forall_empty _).insert_all fun field hfield ↦ ?_
      have hsame := List.map_eq_map_iff.mp (hfields.trans (List.map_id fields).symm) field hfield
      exact congrArg Prod.snd hsame
  | _ => exact OrderedMap.forall_empty _

/-- An object of finite fields is finite. -/
theorem Finite.of_object {fields : Object} (h : fields.Forall Finite) :
    (ofObject fields).Finite := by
  rw [Finite, scrub_of_object, OrderedMap.map_values_eq_self h]

/-- The value of a field of finite fields is finite. -/
theorem Finite.value {fields : Object} (h : fields.Forall Finite) (name : String) :
    (fields.value name).Finite := by
  unfold Object.value
  cases hfound : fields.find? name with
  | none => exact scrub_null
  | some value => exact h name value hfound

/-! ## Text -/

/-- How documents are written as text and read from it. -/
structure TextFormat where
  write : Json → List UInt8
  read : List UInt8 → Option Json

/-- Reading the text of this document gives back what the text keeps of it. -/
def TextFormat.Keeps (format : TextFormat) (document : Json) : Prop :=
  format.read (format.write document) = some document.scrub

end Json
