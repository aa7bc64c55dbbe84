/-!
# The formula functions

The library of functions that every expression can call by name. A function is known by its name
alone; what it computes is in `Library.Call`.
-/

namespace TemplateExpr

/-- A function of the formula library, in the order of their names. -/
inductive Formula where
  | abs
  | and
  | avg
  | ceil
  | coalesce
  | concat
  | contains
  | count
  | dateAdd
  | dateDiff
  | day
  | fixed
  | floor
  | ifElse
  | len
  | lower
  | max
  | min
  | month
  | not
  | now
  | or
  | percent
  | power
  | round
  | substring
  | sum
  | switch
  | today
  | trim
  | upper
  | year
deriving DecidableEq, Repr

namespace Formula

/-- The name under which expressions call the function. -/
def name : Formula → String
  | abs => "ABS"
  | and => "AND"
  | avg => "AVG"
  | ceil => "CEIL"
  | coalesce => "COALESCE"
  | concat => "CONCAT"
  | contains => "CONTAINS"
  | count => "COUNT"
  | dateAdd => "DATEADD"
  | dateDiff => "DATEDIFF"
  | day => "DAY"
  | fixed => "FIXED"
  | floor => "FLOOR"
  | ifElse => "IF"
  | len => "LEN"
  | lower => "LOWER"
  | max => "MAX"
  | min => "MIN"
  | month => "MONTH"
  | not => "NOT"
  | now => "NOW"
  | or => "OR"
  | percent => "PERCENT"
  | power => "POWER"
  | round => "ROUND"
  | substring => "SUBSTRING"
  | sum => "SUM"
  | switch => "SWITCH"
  | today => "TODAY"
  | trim => "TRIM"
  | upper => "UPPER"
  | year => "YEAR"

/-- Every function, by name. -/
def all : List Formula :=
  [abs, and, avg, ceil, coalesce, concat, contains, count, dateAdd, dateDiff, day, fixed, floor,
    ifElse, len, lower, max, min, month, not, now, or, percent, power, round, substring, sum,
    switch, today, trim, upper, year]

/-- The function with the given name. -/
def ofName? (name : String) : Option Formula := all.find? (·.name == name)

theorem ofName?_name (f : Formula) : ofName? f.name = some f := by cases f <;> decide

theorem name_of_ofName? {name : String} {f : Formula} (h : ofName? name = some f) :
    f.name = name := by
  simpa using List.find?_some h

end Formula

end TemplateExpr
