import Mathlib.Data.List.Dedup
import SkyAutoPlayer.Foundation.Checked

/-!
# JSON documents

A parsed document is a tree of values. An object is its bindings, of which an earlier one hides a later
one of the same key, so that a new binding is put in front. A number is an unsigned word, a negative word
or a floating-point number, and it is read as a word of one kind or the other where it is one.
-/

namespace SkyAutoPlayer.Foundation

/-- A number of a document. -/
inductive JsonNumber where
  | posInt (value : ℕ) (h : value < 2 ^ 64)
  | negInt (value : ℤ) (h : -2 ^ 63 ≤ value ∧ value < 0)
  | float (bits : BitVec 64)
  deriving DecidableEq

/-- A value of a document. -/
inductive JsonValue where
  | null
  | bool (value : Bool)
  | number (value : JsonNumber)
  | string (value : String)
  | array (values : List JsonValue)
  | object (bindings : List (String × JsonValue))

/-- The bindings of an object. -/
abbrev JsonObject := List (String × JsonValue)

namespace JsonValue

/-- A number as an unsigned word. -/
def asU64 : JsonValue → Option ℕ
  | .number (.posInt value _) => some value
  | _ => none

/-- A number as a signed word. -/
def asI64 : JsonValue → Option ℤ
  | .number (.posInt value _) => if value < 2 ^ 63 then some value else none
  | .number (.negInt value _) => some value
  | _ => none

/-- A text. -/
def asStr : JsonValue → Option String
  | .string value => some value
  | _ => none

/-- A truth value. -/
def asBool : JsonValue → Option Bool
  | .bool value => some value
  | _ => none

/-- The elements of an array. -/
def asArray : JsonValue → Option (List JsonValue)
  | .array values => some values
  | _ => none

/-- The bindings of an object. -/
def asObject : JsonValue → Option JsonObject
  | .object bindings => some bindings
  | _ => none

/-- No value. -/
def isNull : JsonValue → Bool
  | .null => true
  | _ => false

/-- The value of an unsigned word. -/
def ofNat (value : ℕ) : JsonValue :=
  .number (.posInt (value % 2 ^ 64) (Nat.mod_lt value (by decide)))

/-- The value of a signed word. -/
def ofInt (value : ℤ) : JsonValue :=
  if h : -2 ^ 63 ≤ value ∧ value < 0 then .number (.negInt value h) else ofNat value.toNat

/-- A word is read as it was written. -/
theorem asU64_ofNat {value : ℕ} (h : value < 2 ^ 64) : (ofNat value).asU64 = some value := by
  rw [ofNat, asU64, Nat.mod_eq_of_lt h]

/-- A word that is not too great is read as the signed one. -/
theorem asI64_ofNat {value : ℕ} (h : value < 2 ^ 63) : (ofNat value).asI64 = some (value : ℤ) := by
  have hword : value % 2 ^ 64 = value := Nat.mod_eq_of_lt (Nat.lt_trans h (by decide))
  rw [ofNat, asI64, hword, if_pos h]

/-- A signed word that is not negative is read as the signed one. -/
theorem asI64_ofInt {value : ℤ} (hnonneg : 0 ≤ value) (hlt : value < 2 ^ 63) :
    (ofInt value).asI64 = some value := by
  rw [ofInt, dif_neg (by omega), asI64_ofNat (by omega), Int.toNat_of_nonneg hnonneg]

/-- A signed word that is not negative is read as the unsigned one. -/
theorem asU64_ofInt {value : ℤ} (hnonneg : 0 ≤ value) (hlt : value < 2 ^ 63) :
    (ofInt value).asU64 = some value.toNat := by
  rw [ofInt, dif_neg (by omega), asU64_ofNat (by omega)]

/-- An unsigned word is the signed one if that can hold it. -/
theorem asI64_of_asU64 {value : JsonValue} {word : ℕ} (h : value.asU64 = some word) :
    value.asI64 = if word < 2 ^ 63 then some (word : ℤ) else none := by
  unfold asU64 at h
  split at h
  case h_1 number _ =>
    obtain rfl := Option.some.inj h
    rfl
  case h_2 => cases h

end JsonValue

namespace JsonObject

/-- The value of a key. -/
def get (key : String) (object : JsonObject) : Option JsonValue := object.lookup key

/-- The object with one more binding. -/
def insert (key : String) (value : JsonValue) (object : JsonObject) : JsonObject :=
  (key, value) :: object

/-- How many keys an object has. -/
def len (object : JsonObject) : ℕ := (object.map Prod.fst).dedup.length

/-- The value of a key as an unsigned word. -/
def unsigned (key : String) (object : JsonObject) : Option ℕ := (object.get key).bind JsonValue.asU64

/-- The value of a key as a signed word. -/
def signed (key : String) (object : JsonObject) : Option ℤ := (object.get key).bind JsonValue.asI64

/-- The value of a key as a text. -/
def text (key : String) (object : JsonObject) : Option String := (object.get key).bind JsonValue.asStr

/-- The value of a key as a truth value. -/
def truth (key : String) (object : JsonObject) : Option Bool := (object.get key).bind JsonValue.asBool

/-- The value of a key as an object. -/
def members (key : String) (object : JsonObject) : Option JsonObject :=
  (object.get key).bind JsonValue.asObject

variable {object : JsonObject} {key other : String} {value : JsonValue}

/-- A new binding is found. -/
theorem get_insert_self : (object.insert key value).get key = some value := by
  simp [get, insert]

/-- A new binding hides no other key. -/
theorem get_insert_of_ne (h : other ≠ key) : (object.insert key value).get other = object.get other := by
  have hother : (other == key) = false := beq_false_of_ne h
  rw [get, insert, List.lookup_cons, hother]
  rfl

/-- A new binding of one key changes no unsigned word of another. -/
theorem unsigned_insert_of_ne (h : other ≠ key) :
    (object.insert key value).unsigned other = object.unsigned other := by
  rw [unsigned, get_insert_of_ne h, unsigned]

/-- A new binding of one key changes no object of another. -/
theorem members_insert_of_ne (h : other ≠ key) :
    (object.insert key value).members other = object.members other := by
  rw [members, get_insert_of_ne h, members]

/-- New bindings hide those of their keys. -/
theorem get_append {fields : JsonObject} :
    JsonObject.get key (fields ++ object) = (fields.get key).or (object.get key) := by
  induction fields with
  | nil => rfl
  | cons head rest ih =>
    rw [get, get, List.cons_append, List.lookup_cons, List.lookup_cons]
    cases key == head.1 with
    | true => rfl
    | false => exact ih

end JsonObject

end SkyAutoPlayer.Foundation
