import TemplateExpr.Number.Numeral
import TemplateExpr.Text.Search
import TemplateExpr.Value.Basic

/-!
# Reading values as numbers

`toNumber` is the reading that operators use: null is zero, a text has to be a number as a whole,
and an array counts as its string form. `leadingNumber` is the reading that aggregates use: the
number at the front of the string form.
-/

namespace TemplateExpr.Value

/-- The number that an operator takes a value for. -/
def toNumber : Value → Number
  | undefined => .nan
  | null => 0
  | bool b => if b then 1 else 0
  | number n => n
  | string s => .ofText s
  | array items => .ofText (array items).text
  | object _ => .nan
  | function _ => .nan

/-- The number at the front of the string form. -/
def leadingNumber : Value → Number
  | number n => n
  | other => .ofLeading other.text

/-- A nullish value counts as the given number. -/
def numberOr (fallback : Number) (v : Value) : Number := if v.isNullish then fallback else v.toNumber

end TemplateExpr.Value
