import TemplateExpr.Json.Basic
import TemplateExpr.Value.Basic

/-!
# Values and JSON

JSON carries every value but the undefined one, functions, and the numbers that are not finite;
these become null. A whole number that is small enough becomes an integer, which has no negative
zero. In the other direction every document is a value.
-/

namespace TemplateExpr.Value

/-- The magnitude from which on not every whole number is a double: `2^53`. -/
def exactBelow : Nat := 2 * Number.leadingBit

/-- A number as JSON. -/
def numberToJson : Number → Json
  | .finite x =>
    if x.isWhole && x.whole < exactBelow then .number (.integer x.toInt) else .number (.double x)
  | _ => .null

mutual

/-- A value as JSON. -/
def toJson : Value → Json
  | undefined => .null
  | null => .null
  | bool b => .bool b
  | number n => numberToJson n
  | string s => .string s
  | array items => .array (itemsToJson items)
  | object fields => .object (fieldsToJson fields)
  | function _ => .null

/-- The items of an array as JSON. -/
def itemsToJson : List Value → List Json
  | [] => []
  | item :: items => toJson item :: itemsToJson items

/-- The fields of an object as JSON. -/
def fieldsToJson : List (String × Value) → List (String × Json)
  | [] => []
  | (key, value) :: fields => (key, toJson value) :: fieldsToJson fields

end

mutual

/-- A document as a value. -/
def ofJson : Json → Value
  | .null => null
  | .bool b => bool b
  | .number n => number n.toNumber
  | .string s => string s
  | .array items => array (itemsOfJson items)
  | .object members => object (fieldsOfJson members)

/-- The items of an array as values. -/
def itemsOfJson : List Json → List Value
  | [] => []
  | item :: items => ofJson item :: itemsOfJson items

/-- The members of an object as fields. -/
def fieldsOfJson : List (String × Json) → List (String × Value)
  | [] => []
  | (key, value) :: members => (key, ofJson value) :: fieldsOfJson members

end

variable (items : List Value) (fields : List (String × Value))

theorem toJson_array : (array items).toJson = .array (items.map toJson) := by
  have hitems : itemsToJson items = items.map toJson := by
    induction items with
    | nil => rfl
    | cons item items ih => rw [itemsToJson, ih, List.map_cons]
  rw [toJson, hitems]

theorem toJson_object :
    (object fields).toJson = .object (fields.map fun (key, value) => (key, value.toJson)) := by
  have hfields : fieldsToJson fields = fields.map fun (key, value) => (key, value.toJson) := by
    induction fields with
    | nil => rfl
    | cons field fields ih => rw [fieldsToJson, ih, List.map_cons]
  rw [toJson, hfields]

theorem ofJson_array (items : List Json) : ofJson (.array items) = array (items.map ofJson) := by
  have hitems : itemsOfJson items = items.map ofJson := by
    induction items with
    | nil => rfl
    | cons item items ih => rw [itemsOfJson, ih, List.map_cons]
  rw [ofJson, hitems]

theorem ofJson_object (members : List (String × Json)) :
    ofJson (.object members) = object (members.map fun (key, value) => (key, ofJson value)) := by
  have hmembers : fieldsOfJson members = members.map fun (key, value) => (key, ofJson value) := by
    induction members with
    | nil => rfl
    | cons member members ih => rw [fieldsOfJson, ih, List.map_cons]
  rw [ofJson, hmembers]

end TemplateExpr.Value
