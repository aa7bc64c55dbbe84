import TemplateExpr.Number.Power
import TemplateExpr.Syntax.Expr
import TemplateExpr.Text.Units
import TemplateExpr.Value.Equality

/-!
# Operators

What the operators make of the values of their operands. None of them fails: an operand of another
kind is converted. Arrays, objects and functions take part in sums and comparisons as their string
forms.
-/

namespace TemplateExpr

namespace Value

/-- A value as sums and comparisons see it. -/
def primitive : Value → Value
  | array items => string (array items).text
  | object fields => string (object fields).text
  | function f => string (function f).text
  | other => other

/-- The order of two values: of texts by code units if both are texts, and of numbers otherwise. A
value that is no number has no place in the order. -/
def compare? (a b : Value) : Option Ordering :=
  match a.primitive, b.primitive with
  | string s, string t => some (Text.compareTexts s t)
  | a, b => a.toNumber.compare? b.toNumber

/-- The sum of two values: the texts one after the other if one of them is a text. -/
def add (a b : Value) : Value :=
  match a.primitive, b.primitive with
  | string s, b => string (s ++ b.text)
  | a, string t => string (a.text ++ t)
  | a, b => number (a.toNumber + b.toNumber)

end Value

/-- The value of an operation. -/
def BinaryOp.apply (op : BinaryOp) (a b : Value) : Value :=
  match op with
  | add => a.add b
  | sub => .number (a.toNumber - b.toNumber)
  | mul => .number (a.toNumber * b.toNumber)
  | div => .number (a.toNumber / b.toNumber)
  | mod => .number (a.toNumber % b.toNumber)
  | pow => .number (.pow a.toNumber b.toNumber)
  | eq => .bool (a.looseEquals b)
  | ne => .bool !(a.looseEquals b)
  | strictEq => .bool (a.strictEquals b)
  | strictNe => .bool !(a.strictEquals b)
  | lt => .bool (a.compare? b == some .lt)
  | le => .bool (a.compare? b == some .lt || a.compare? b == some .eq)
  | gt => .bool (a.compare? b == some .gt)
  | ge => .bool (a.compare? b == some .gt || a.compare? b == some .eq)

/-- Whether the left operand is the value already. -/
def LogicalOp.settles (op : LogicalOp) (a : Value) : Bool :=
  match op with
  | and => !a.isTruthy
  | or => a.isTruthy
  | nullish => !a.isNullish

def UnaryOp.apply (op : UnaryOp) (a : Value) : Value :=
  match op with
  | not => .bool !a.isTruthy
  | neg => .number (-a.toNumber)
  | plus => .number a.toNumber
  | typeof => .string a.typeName

end TemplateExpr
