import TemplateExpr.Calendar.Reader
import TemplateExpr.Error
import TemplateExpr.Library.Arguments

/-!
# Dates

A value is a moment if it is a text that can be read as one or a finite number of milliseconds. All
dates are dates in UTC. The parts of a value that is no moment are not-a-number; only `dateAdd`
refuses one.
-/

namespace TemplateExpr

/-- The moment that a value stands for. -/
def Value.toInstant? : Value → Option Instant
  | .number (.finite x) => Instant.ofMillis? x.toInt
  | .string s => Instant.ofText? s
  | _ => none

namespace Library

/-- A part of the date of a value. -/
def datePart (part : Date → Int) (arguments : Arguments) : Number :=
  match (arguments.arg 0).toInstant? with
  | some t => .ofInt (part t.date)
  | none => .nan

def year (arguments : Arguments) : Number := datePart (·.year) arguments

def month (arguments : Arguments) : Number := datePart (fun d => d.month) arguments

def day (arguments : Arguments) : Number := datePart (fun d => d.day) arguments

/-- The days between two moments, a part of a day counting as a whole one. -/
def dateDiff (arguments : Arguments) : Number :=
  match (arguments.arg 0).toInstant?, (arguments.arg 1).toInstant? with
  | some a, some b => (Number.ofNat (a.millisBetween b) / .ofNat Instant.millisPerDay).ceil
  | _, _ => .nan

/-- The date some whole days later. -/
def dateAdd? (arguments : Arguments) : Option Date := do
  let start ← (arguments.arg 0).toInstant?
  match (arguments.arg 1).toNumber with
  | .finite days => return (← start.addDays? days.toInt).date
  | _ => none

/-- The text of the date some whole days later. -/
def dateAdd (arguments : Arguments) : Except ExprError String :=
  match dateAdd? arguments with
  | some date => .ok date.text
  | none => .error (.type .invalidDate)

end Library

end TemplateExpr
