import TemplateExpr.Fields
import TemplateExpr.Library.Formula
import TemplateExpr.Number.Layout

/-!
# Values

The values that expressions read and compute. An absent value and an explicit null are two values
(`isNullish` holds of both); an object keeps its fields in insertion order, and a formula function
is a value that is known by its name.

`text` is the string form of a value; `templateText` is the form that a template shows, in which a
nullish value leaves no trace.
-/

namespace TemplateExpr

/-- A value of the expression language. -/
inductive Value where
  /-- What a missing name, field or argument reads as. -/
  | undefined
  | null
  | bool (b : Bool)
  | number (n : Number)
  | string (s : String)
  | array (items : List Value)
  | object (fields : List (String × Value))
  | function (f : Formula)

namespace Value

instance : Inhabited Value := ⟨undefined⟩

/-- The object without fields. -/
def empty : Value := object []

/-- Absent or null. -/
def isNullish : Value → Bool
  | undefined | null => true
  | _ => false

/-- Whether a condition with this value holds: everything but the nullish values, `false`, the
zeros, not-a-number and the empty string. -/
def isTruthy : Value → Bool
  | undefined | null => false
  | bool b => b
  | number n => !n.isZero && !n.isNaN
  | string s => !s.isEmpty
  | array _ | object _ | function _ => true

/-- The answer of the operator `typeof`. -/
def typeName : Value → String
  | undefined => "undefined"
  | null => "object"
  | bool _ => "boolean"
  | number _ => "number"
  | string _ => "string"
  | array _ | object _ => "object"
  | function _ => "function"

def asString? : Value → Option String
  | string s => some s
  | _ => none

def asNumber? : Value → Option Number
  | number n => some n
  | _ => none

def asArray? : Value → Option (List Value)
  | array items => some items
  | _ => none

/-! ## String forms -/

mutual

/-- The string form. An array shows the template forms of its items between commas. -/
def text : Value → String
  | undefined => "undefined"
  | null => "null"
  | bool b => if b then "true" else "false"
  | number n => n.text
  | string s => s
  | array items => String.intercalate "," (templateTexts items)
  | object _ => "[object Object]"
  | function f => "function " ++ f.name ++ "() \x7b [native code] \x7d"

/-- The template forms of the items of an array. -/
def templateTexts : List Value → List String
  | [] => []
  | item :: items => (if item.isNullish then "" else item.text) :: templateTexts items

end

/-- The form that a template shows: the string form, and nothing for a nullish value. -/
def templateText (v : Value) : String := if v.isNullish then "" else v.text

end Value

end TemplateExpr
