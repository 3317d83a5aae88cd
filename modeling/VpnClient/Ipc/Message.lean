import VpnClient.Backend.Daemon
import VpnClient.Library.Lines

/-! The messages of the client and of the daemon: JSON objects, one on each line of the socket. -/

namespace VpnClient.Ipc

open Backend Library.Lines

abbrev Bytes := List UInt8

def newline : UInt8 := 0x0a

/-- Tabulator, line feed, vertical tabulator, form feed, carriage return or space. -/
def isSpace (b : UInt8) : Bool := b == 0x20 || (0x09 ≤ b && b ≤ 0x0d)

def trimmed (line : Bytes) : Bytes := trim isSpace line

/-- The commands of a list of lines. -/
def commands (lines : List Bytes) : List Bytes := (lines.map trimmed).filter (· ≠ [])

inductive JsonValue where
  | null
  | bool (value : Bool)
  | double (value : ℚ)
  | string (value : String)
  | array (values : List JsonValue)
  | object (fields : List (String × JsonValue))

namespace JsonValue

def bool? : JsonValue → Option Bool
  | bool value => some value
  | _ => none

def double? : JsonValue → Option ℚ
  | double value => some value
  | _ => none

/-- The value of a number that is a 32-bit integer, and zero otherwise. -/
def toInt : JsonValue → ℤ
  | double value => if value.den = 1 ∧ -2 ^ 31 ≤ value.num ∧ value.num < 2 ^ 31 then value.num else 0
  | _ => 0

def string? : JsonValue → Option String
  | string value => some value
  | _ => none

def array? : JsonValue → Option (List JsonValue)
  | array values => some values
  | _ => none

def object? : JsonValue → Option (List (String × JsonValue))
  | object fields => some fields
  | _ => none

end JsonValue

/-- The fields of an object by their names. -/
abbrev JsonObject := List (String × JsonValue)

namespace JsonObject

def value (obj : JsonObject) (name : String) : Option JsonValue := (obj.find? (·.1 = name)).map (·.2)

def insert (obj : JsonObject) (name : String) (value : JsonValue) : JsonObject :=
  (name, value) :: obj.filter (·.1 ≠ name)

def contains (obj : JsonObject) (name : String) : Bool := (obj.value name).isSome

def string? (obj : JsonObject) (name : String) : Option String := (obj.value name).bind JsonValue.string?

def double? (obj : JsonObject) (name : String) : Option ℚ := (obj.value name).bind JsonValue.double?

def bool? (obj : JsonObject) (name : String) : Option Bool := (obj.value name).bind JsonValue.bool?

def array? (obj : JsonObject) (name : String) : Option (List JsonValue) := (obj.value name).bind JsonValue.array?

variable {obj : JsonObject} {name other : String} {value : JsonValue}

@[simp] lemma string?_cons_self (value : String) : string? ((name, .string value) :: obj) name = some value := by
  simp [string?, JsonObject.value, JsonValue.string?]

lemma value_insert_self : (obj.insert name value).value name = some value := by
  simp [JsonObject.value, insert]

lemma value_insert_of_ne (h : other ≠ name) : (obj.insert name value).value other = obj.value other := by
  simp only [JsonObject.value, insert]
  rw [List.find?_cons_of_neg (by simpa using h.symm), List.find?_filter]
  congr 2
  funext field
  by_cases hf : field.1 = other <;> simp [hf, h]

@[simp] lemma string?_insert_self (value : String) : (obj.insert name (.string value)).string? name = some value := by
  simp [string?, value_insert_self, JsonValue.string?]

end JsonObject

/-- How JSON is read, and how dates are read and written. -/
structure Formats where
  fromJson : Bytes → Option JsonObject
  dateFromString : String → Option ℕ
  dateToString : Option ℕ → String

end VpnClient.Ipc
