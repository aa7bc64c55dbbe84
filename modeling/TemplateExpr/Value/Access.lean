import TemplateExpr.Text.Units
import TemplateExpr.Value.Coercion

/-!
# Reading fields, items and paths

`property` never fails: what is not there reads as undefined. Arrays and texts have a length and
are indexed by decimal positions; a text has a character at each position, while its length counts
UTF-16 code units.
-/

namespace TemplateExpr.Value

/-- The position that a key denotes: decimal digits after an optional plus. -/
def position? (key : String) : Option Nat :=
  let digits :=
    match key.toList with
    | '+' :: digits => digits
    | digits => digits
  if digits.isEmpty || !digits.all Char.isDigit then none else some (Nat.ofDigitChars 10 digits 0)

/-- The value under a key. -/
def property (v : Value) (key : String) : Value :=
  match v with
  | object fields => (Fields.get? fields key).getD undefined
  | array items =>
    if key = "length" then number (.ofNat items.length)
    else ((position? key).bind (items[·]?)).getD undefined
  | string s =>
    if key = "length" then number (.ofNat (Text.unitLength s.toList))
    else
      match (position? key).bind (s.toList[·]?) with
      | some c => string (String.singleton c)
      | none => undefined
  | _ => undefined

/-- The value at the end of a path of keys separated by points. -/
def getPath (v : Value) (path : String) : Value :=
  ((Text.split ['.'] path.toList).map String.ofList).foldl property v

@[simp] theorem property_undefined (key : String) : undefined.property key = undefined := rfl

@[simp] theorem property_null (key : String) : null.property key = undefined := rfl

end TemplateExpr.Value
