import TemplateExpr.Calendar.Date

/-!
# Moments in time

A moment is a number of seconds since the start of 1970 (UTC) and a part of a second. The count
leaves leap seconds out: during one, the part of the second goes on beyond a whole second while the
count stays at the second before. Only moments on dates of the calendar exist.
-/

namespace TemplateExpr

/-- A moment in UTC. -/
structure Instant where
  /-- Whole seconds since the start of 1970, without leap seconds. -/
  seconds : Int
  /-- Nanoseconds since then; from `10^9` on during a leap second. -/
  nanos : Nat
deriving DecidableEq

namespace Instant

def secondsPerDay : Int := 86400

def millisPerDay : Nat := 86400000

def nanosPerSecond : Nat := 1000000000

def nanosPerMilli : Nat := 1000000

/-- The date of a moment. -/
def date (t : Instant) : Date := .ofDayNumber (t.seconds / secondsPerDay)

def isLeap (t : Instant) : Bool := nanosPerSecond ≤ t.nanos

/-- A moment, if it is on a date of the calendar. -/
def check (t : Instant) : Option Instant := if t.date.isValid then some t else none

/-- The moment at a time of day. A minute may have a sixtieth second, a leap second. -/
def at? (date : Date) (hour minute second nanos : Nat) : Option Instant :=
  if date.isValid ∧ hour < 24 ∧ minute < 60 ∧ second ≤ 60 then
    let start := date.dayNumber * secondsPerDay + (hour * 3600 + minute * 60 : Nat)
    some (if second = 60 then ⟨start + 59, nanos + nanosPerSecond⟩ else ⟨start + second, nanos⟩)
  else none

/-- The moment a number of milliseconds after the start of 1970. -/
def ofMillis? (millis : Int) : Option Instant :=
  check ⟨millis / 1000, (millis % 1000).toNat * nanosPerMilli⟩

/-- The whole milliseconds since the start of 1970. -/
def toMillis (t : Instant) : Int := t.seconds * 1000 + t.nanos / nanosPerMilli

/-- The moment some seconds later. -/
def shift (t : Instant) (seconds : Int) : Instant := { t with seconds := t.seconds + seconds }

/-- The moment some days later. One that leaves a leap second forward lands at its start, one that
leaves it backward at its end. -/
def addDays? (t : Instant) (days : Int) : Option Instant :=
  let target :=
    if t.isLeap ∧ days ≠ 0 then
      ⟨t.seconds + (if days < 0 then 1 else 0), t.nanos - nanosPerSecond⟩
    else t
  check (target.shift (days * secondsPerDay))

/-- The second of its day at which a moment is. -/
def secondOfDay (t : Instant) : Int := t.seconds % secondsPerDay

/-- The nanoseconds from one moment to another. A leap second in between counts if the time of day
shows it. -/
def nanosUntil (start finish : Instant) : Int :=
  let leap : Int :=
    if start.secondOfDay < finish.secondOfDay ∧ start.isLeap then 1
    else if finish.secondOfDay < start.secondOfDay ∧ finish.isLeap then -1
    else 0
  (finish.seconds - start.seconds + leap) * nanosPerSecond + ((finish.nanos : Int) - start.nanos)

/-- The whole milliseconds between two moments, whichever is first. -/
def millisBetween (a b : Instant) : Nat := (nanosUntil a b).natAbs / nanosPerMilli

/-- A moment with milliseconds, in UTC. -/
def text (t : Instant) : String :=
  let second := t.secondOfDay.toNat
  let time :=
    Date.padded 2 (second / 3600) ++ ':' :: Date.padded 2 (second / 60 % 60)
      ++ ':' :: Date.padded 2 (second % 60 + if t.isLeap then 1 else 0)
      ++ '.' :: Date.padded 3 (t.nanos % nanosPerSecond / nanosPerMilli)
  .ofList (t.date.chars ++ 'T' :: time ++ ['Z'])

end Instant

end TemplateExpr
