import TemplateExpr.Library.Arguments
import TemplateExpr.Value.Access

/-!
# Sums and counts

The aggregates look at the items of an array, or, if a path is given as the second argument, at the
value at that path in each item. What is not a number counts as zero. A value that is not an array
has no items and aggregates to zero.
-/

namespace TemplateExpr.Library

/-- The path that an argument asks for; a nullish argument and an empty text ask for none. -/
def path? : Value → Option String
  | .undefined | .null => none
  | .string s => if s.isEmpty then none else some s
  | other => some other.text

/-- What is looked at in an item. -/
def projected (path : Option String) (item : Value) : Value :=
  match path with
  | some path => item.getPath path
  | none => item

/-- The number at the front of a value, zero if there is none. -/
def leadingNumberOrZero (v : Value) : Number :=
  let n := v.leadingNumber
  if n.isNaN then 0 else n

/-- The numbers in the items of an array. -/
def numbers? (arguments : Arguments) : Option (List Number) :=
  (arguments.arg 0).asArray?.map fun items =>
    items.map fun item => leadingNumberOrZero (projected (path? (arguments.arg 1)) item)

/-- The sum of some numbers, added from the left; the empty sum is the negative zero. -/
def total (numbers : List Number) : Number := numbers.foldl (· + ·) (.zero true)

def sum (arguments : Arguments) : Number :=
  match numbers? arguments with
  | some numbers => total numbers
  | none => 0

/-- The mean, zero if there are no numbers. -/
def average (arguments : Arguments) : Number :=
  match numbers? arguments with
  | none | some [] => 0
  | some numbers => total numbers / .ofNat numbers.length

/-- The numbers combined from the left, zero if there are none. -/
def combined (combine : Number → Number → Number) (arguments : Arguments) : Number :=
  match numbers? arguments with
  | none | some [] => 0
  | some (n :: numbers) => numbers.foldl combine n

def minimum (arguments : Arguments) : Number := combined .min arguments

def maximum (arguments : Arguments) : Number := combined .max arguments

/-- Whether a value at a path counts: it is not nullish, false, or the empty text. -/
def counts : Value → Bool
  | .undefined | .null => false
  | .bool b => b
  | .string s => !s.isEmpty
  | _ => true

/-- The number of items. With a path, of those whose value there counts. -/
def count (arguments : Arguments) : Number :=
  match arguments.arg 0 with
  | .array items =>
    match path? (arguments.arg 1) with
    | none => .ofNat items.length
    | some path => .ofNat (items.countP fun item => counts (item.getPath path))
  | _ => 0

end TemplateExpr.Library
