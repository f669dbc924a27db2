import Meshctl.Foundation.Hex

/-! # JSON values

The values of a JSON library and its accessors. The library hands out pointers:
a value that is missing and the value `null` are both the NULL pointer, here
`none`. A function whose argument has to be an array stops the program when it
is something else; that is `none` as well.
-/

namespace Meshctl

/-- Of a number with a fraction its integer part is kept, whether it is zero,
and its text. -/
inductive Json where
  | null
  | boolean (value : Bool)
  | int (value : Int)
  | double (truncated : Int) (zero : Bool) (text : String)
  | string (text : String)
  | array (items : List Json)
  | object (fields : List (String × Json))

namespace Json

open Text

/-! ## Reading -/

/-- The pointer to a value. -/
def pointer : Json → Option Json
  | .null => none
  | json => some json

/-- The value of the first field with this key. -/
def lookup (key : String) : List (String × Json) → Option Json
  | [] => none
  | (name, value) :: fields =>
      if name = key then pointer value else lookup key fields

def get (json : Json) (key : String) : Option Json :=
  match json with
  | .object fields => lookup key fields
  | _ => none

def items : Json → Option (List Json)
  | .array items => some items
  | _ => none

/-- The item at an index of an array. -/
def getIdx (json : Json) (index : Nat) : Option Json :=
  json.items.bind fun items => items[index]?.bind pointer

def clampInt32 (value : Int) : Int :=
  max (-(2 ^ 31)) (min value (2 ^ 31 - 1))

/-- The number that a value stands for; a text stands for the decimal number
that it starts with. -/
def getInt : Option Json → Int
  | some (.int value) => clampInt32 value
  | some (.double truncated _ _) => clampInt32 truncated
  | some (.boolean value) => if value then 1 else 0
  | some (.string text) => clampInt32 ((scanDecimal (cString text)).getD 0)
  | _ => 0

def getBoolean : Option Json → Bool
  | some (.boolean value) => value
  | some (.int value) => value ≠ 0
  | some (.double _ zero _) => !zero
  | some (.string text) => text ≠ ""
  | _ => false

/-- The text of a value. Of an array or an object only how it begins is kept,
which is all that a reader of numbers looks at. -/
def getString (json : Json) : List Char :=
  cString <|
    match json with
    | .null => "null"
    | .boolean value => if value then "true" else "false"
    | .int value => toString value
    | .double _ _ text => text
    | .string text => text
    | .array _ => "["
    | .object _ => "\x7b"

/-! ## Changing -/

/-- Replace the value of a key, or add it behind the others. -/
def setField (key : String) (value : Json) :
    List (String × Json) → List (String × Json)
  | [] => [(key, value)]
  | (name, old) :: fields =>
      if name = key then (name, value) :: fields
      else (name, old) :: setField key value fields

def add (json : Json) (key : String) (value : Json) : Json :=
  match json with
  | .object fields => .object (setField key value fields)
  | json => json

def del (json : Json) (key : String) : Json :=
  match json with
  | .object fields => .object (fields.filter fun field => field.1 ≠ key)
  | json => json

/-- Add an item at the end of an array. -/
def push (json : Json) (item : Json) : Json :=
  match json with
  | .array items => .array (items ++ [item])
  | json => json

/-- Change a value in place behind its key. -/
def changeField (key : String) (change : Json → Json) (json : Json) : Json :=
  match json.get key with
  | none => json
  | some value => json.add key (change value)

/-- Change an item of an array in place. -/
def changeIdx (index : Nat) (change : Json → Json) (json : Json) : Json :=
  match json with
  | .array items => .array (items.modify index change)
  | json => json

/-! ## Numbers in texts -/

def hex16 (value : Nat) : Json := .string (hexText 4 value)

def hex32 (value : Nat) : Json := .string (hexText 8 value)

theorem getString_hex16 {value : Nat} (fits : value < 65536) :
    getString (hex16 value) = (hexText 4 value).toList :=
  cString_hexText (by decide) fits

theorem getString_hex32 {value : Nat} (fits : value < 4294967296) :
    getString (hex32 value) = (hexText 8 value).toList :=
  cString_hexText (by decide) fits

/-- A number written in hexadecimal is taken for a decimal one. -/
theorem getInt_hex16 {value : Nat} (fits : value < 65536) :
    getInt (some (hex16 value)) = decimalPrefix value := by
  have small := (decimalPrefix_spec fits).1
  rw [hex16, getInt, cString_hexText (by decide) fits, scanDecimal_hexText fits,
    clampInt32]
  omega

theorem getInt_int {value : Nat} (small : value < 65536) :
    getInt (some (.int value)) = value := by
  rw [getInt, clampInt32]
  omega

/-! ## Reading after changing -/

def IsObject (json : Json) : Prop :=
  ∃ fields, json = .object fields

/-- A value that a pointer can point to. -/
def IsValue (json : Json) : Prop :=
  json.pointer = some json

@[simp] theorem isValue_object (fields : List (String × Json)) :
    IsValue (.object fields) := rfl

@[simp] theorem isValue_array (items : List Json) : IsValue (.array items) := rfl

@[simp] theorem isValue_string (text : String) : IsValue (.string text) := rfl

@[simp] theorem isValue_int (value : Int) : IsValue (.int value) := rfl

theorem isValue_of_pointer {json value : Json}
    (found : json.pointer = some value) : value = json ∧ IsValue value := by
  cases json <;> cases found <;> exact ⟨rfl, rfl⟩

theorem isValue_of_get {json value : Json} {key : String}
    (found : json.get key = some value) : IsValue value := by
  cases json with
  | object fields =>
      rw [get] at found
      induction fields with
      | nil => cases found
      | cons field fields induction =>
          rw [lookup] at found
          split at found
          · exact (isValue_of_pointer found).2
          · exact induction found
  | _ => cases found

theorem isObject_of_get {json value : Json} {key : String}
    (found : json.get key = some value) : json.IsObject := by
  cases json with
  | object fields => exact ⟨fields, rfl⟩
  | _ => cases found

theorem IsObject.add {json : Json} (object : json.IsObject) (key : String)
    (value : Json) : (json.add key value).IsObject := by
  rcases object with ⟨fields, rfl⟩
  exact ⟨_, rfl⟩

theorem IsObject.del {json : Json} (object : json.IsObject) (key : String) :
    (json.del key).IsObject := by
  rcases object with ⟨fields, rfl⟩
  exact ⟨_, rfl⟩

theorem IsValue.add {json : Json} (isValue : json.IsValue) (key : String)
    (value : Json) : (json.add key value).IsValue := by
  cases json with
  | object fields => rfl
  | _ => exact isValue

theorem IsValue.del {json : Json} (isValue : json.IsValue) (key : String) :
    (json.del key).IsValue := by
  cases json with
  | object fields => rfl
  | _ => exact isValue

theorem IsObject.isValue {json : Json} (object : json.IsObject) :
    json.IsValue := by
  rcases object with ⟨fields, rfl⟩
  rfl

theorem lookup_setField_self (key : String) (value : Json)
    (fields : List (String × Json)) :
    lookup key (setField key value fields) = value.pointer := by
  induction fields with
  | nil => simp [setField, lookup]
  | cons field fields induction =>
      rcases field with ⟨name, old⟩
      by_cases same : name = key
      · simp [setField, lookup, same]
      · simp [setField, lookup, same, induction]

theorem lookup_setField_ne {key other : String} (different : other ≠ key)
    (value : Json) (fields : List (String × Json)) :
    lookup other (setField key value fields) = lookup other fields := by
  induction fields with
  | nil => simp [setField, lookup, different.symm]
  | cons field fields induction =>
      rcases field with ⟨name, old⟩
      by_cases same : name = key
      · simp [setField, lookup, same, different.symm]
      · simp [setField, lookup, same, induction]

theorem lookup_filter_self (key : String) (fields : List (String × Json)) :
    lookup key (fields.filter fun field => field.1 ≠ key) = none := by
  induction fields with
  | nil => rfl
  | cons field fields induction =>
      rcases field with ⟨name, old⟩
      by_cases same : name = key
      · simpa [same] using induction
      · simpa [same, lookup] using induction

theorem lookup_filter_ne {key other : String} (different : other ≠ key)
    (fields : List (String × Json)) :
    lookup other (fields.filter fun field => field.1 ≠ key) =
      lookup other fields := by
  induction fields with
  | nil => rfl
  | cons field fields induction =>
      rcases field with ⟨name, old⟩
      by_cases same : name = key
      · have notOther : name ≠ other := fun equal =>
          different (equal.symm.trans same)
        simpa [same, lookup, notOther, different.symm] using induction
      · by_cases isOther : name = other
        · simp [lookup, isOther, different]
        · simpa [same, lookup, isOther] using induction

theorem get_add_self {json value : Json} (object : json.IsObject)
    (isValue : value.IsValue) (key : String) :
    (json.add key value).get key = some value := by
  rcases object with ⟨fields, rfl⟩
  exact (lookup_setField_self key value fields).trans isValue

theorem get_add_ne (json value : Json) {key other : String}
    (different : other ≠ key) : (json.add key value).get other = json.get other := by
  cases json with
  | object fields => exact lookup_setField_ne different value fields
  | _ => rfl

theorem get_del_self (json : Json) (key : String) :
    (json.del key).get key = none := by
  cases json with
  | object fields => exact lookup_filter_self key fields
  | _ => rfl

theorem get_del_ne (json : Json) {key other : String} (different : other ≠ key) :
    (json.del key).get other = json.get other := by
  cases json with
  | object fields => exact lookup_filter_ne different fields
  | _ => rfl

theorem get_changeField_self {json value : Json} {key : String}
    (found : json.get key = some value) {change : Json → Json}
    (isValue : (change value).IsValue) :
    (json.changeField key change).get key = some (change value) := by
  rw [changeField, found]
  exact get_add_self (isObject_of_get found) isValue key

theorem get_changeField (json : Json) (key : String) {change : Json → Json}
    (isValue : ∀ value : Json, value.IsValue → (change value).IsValue) :
    (json.changeField key change).get key = (json.get key).map change := by
  cases found : json.get key with
  | none => rw [changeField, found, found, Option.map_none]
  | some value =>
      exact get_changeField_self found (isValue value (isValue_of_get found))

theorem get_changeField_ne (json : Json) {key other : String}
    (different : other ≠ key) (change : Json → Json) :
    (json.changeField key change).get other = json.get other := by
  rw [changeField]
  split
  · rfl
  · exact get_add_ne json _ different

theorem items_changeIdx {json : Json} {values : List Json}
    (array : json.items = some values) (index : Nat) (change : Json → Json) :
    (json.changeIdx index change).items = some (values.modify index change) := by
  cases json with
  | array items =>
      cases array
      rfl
  | _ => cases array

theorem items_push {json : Json} {values : List Json}
    (array : json.items = some values) (item : Json) :
    (json.push item).items = some (values ++ [item]) := by
  cases json with
  | array items =>
      cases array
      rfl
  | _ => cases array

theorem isValue_of_items {json : Json} {values : List Json}
    (array : json.items = some values) : json.IsValue := by
  cases json with
  | array items => rfl
  | _ => cases array

end Json

end Meshctl
