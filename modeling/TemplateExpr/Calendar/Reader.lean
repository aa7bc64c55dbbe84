import TemplateExpr.Calendar.Instant
import TemplateExpr.Text.Blank

/-!
# Reading dates

A text is a moment if it is one of these, tried in this order:

* a date and time with an offset from UTC, every number with all its digits, a letter `T` or a
  blank between date and time (`zoned`);
* a date (`dateOnly`), which stands for its first moment;
* a date and time without an offset, with seconds or, behind a `T`, without.

In all but the first, numbers may lack leading zeros and have blanks before them, and a year may
have a sign, which it needs in order to have more than four digits. What has no offset is in UTC.
-/

namespace TemplateExpr

namespace Calendar

/-- Reads something off the front of a text, or fails. -/
abbrev Reader := StateT (List Char) Option

/-- The longest run of digits at the front, as far as allowed, if it has enough of them. -/
def digits (least : Nat) (most : Option Nat) : Reader (List Char) := do
  let run := (← get).takeWhile Char.isDigit
  let run := match most with
    | some n => run.take n
    | none => run
  if run.length < least then failure
  modify (·.drop run.length)
  return run

/-- A number with as many digits as that. -/
def number (least : Nat) (most : Option Nat) : Reader Nat :=
  return Nat.ofDigitChars 10 (← digits least most) 0

/-- The given character. -/
def symbol (c : Char) : Reader Unit := do
  match ← get with
  | next :: rest => if next = c then set rest else failure
  | [] => failure

def skipBlanks : Reader Unit := modify Text.trimStart

/-- The fraction of a second in nanoseconds, if there is one. Digits beyond the ninth are dropped. -/
def fraction : Reader Nat := do
  match ← get with
  | '.' :: rest =>
    set rest
    let run ← digits 1 none
    return Nat.ofDigitChars 10 ((run.take 9).rightpad 9 '0') 0
  | _ => return 0

/-! ## With an offset -/

/-- What may stand between date and time. -/
def separator : Reader Unit := symbol 'T' <|> symbol 't' <|> symbol ' '

/-- Whether an offset counts backward. A minus may be the mathematical sign. -/
def offsetSign : Reader Bool := do
  match ← get with
  | '+' :: rest => set rest; return false
  | '-' :: rest | '−' :: rest => set rest; return true
  | _ => failure

/-- An offset from UTC in seconds, less than a day. -/
def offset : Reader Int := do
  match ← get with
  | 'Z' :: rest | 'z' :: rest => set rest; return 0
  | _ =>
    let negative ← offsetSign
    let hours ← number 2 (some 2)
    symbol ':'
    let minutes ← number 2 (some 2)
    if 23 < hours ∨ 59 < minutes then failure
    let seconds : Int := (hours * 60 + minutes) * 60
    return if negative then -seconds else seconds

/-- A date and time with an offset. -/
def zoned : Reader Instant := do
  let year ← number 4 (some 4)
  symbol '-'
  let month ← number 2 (some 2)
  symbol '-'
  let day ← number 2 (some 2)
  separator
  let hour ← number 2 (some 2)
  symbol ':'
  let minute ← number 2 (some 2)
  symbol ':'
  let second ← number 2 (some 2)
  let nanos ← fraction
  let offset ← offset
  let t ← Instant.at? ⟨year, month, day⟩ hour minute second nanos
  return t.shift (-offset)

/-! ## Without an offset -/

/-- A year: up to four digits, or a sign and any number of digits. -/
def looseYear : Reader Int := do
  skipBlanks
  match ← get with
  | '-' :: rest =>
    set rest
    return -(← number 1 none)
  | '+' :: rest =>
    set rest
    return ← number 1 none
  | _ => return ← number 1 (some 4)

/-- One or two digits. -/
def looseNumber : Reader Nat := do
  skipBlanks
  number 1 (some 2)

def looseDate : Reader Date := do
  let year ← looseYear
  symbol '-'
  let month ← looseNumber
  symbol '-'
  let day ← looseNumber
  return ⟨year, month, day⟩

/-- A date alone. -/
def dateOnly : Reader Instant := do
  let date ← looseDate
  Instant.at? date 0 0 0 0

/-- A date and time with seconds, behind whatever separates the two. -/
def withSeconds (between : Reader Unit) : Reader Instant := do
  let date ← looseDate
  between
  let hour ← looseNumber
  symbol ':'
  let minute ← looseNumber
  symbol ':'
  let second ← looseNumber
  let nanos ← fraction
  Instant.at? date hour minute second nanos

/-- A date and time without seconds. -/
def withoutSeconds : Reader Instant := do
  let date ← looseDate
  symbol 'T'
  let hour ← looseNumber
  symbol ':'
  let minute ← looseNumber
  Instant.at? date hour minute 0 0

/-- Reads a whole text. -/
def whole {α : Type} (reader : Reader α) (cs : List Char) : Option α :=
  match reader.run cs with
  | some (a, []) => some a
  | _ => none

end Calendar

/-- The moment that a text denotes, blanks around it apart. -/
def Instant.ofText? (text : String) : Option Instant :=
  let cs := Text.trim text.toList
  [Calendar.zoned, Calendar.dateOnly, Calendar.withSeconds (Calendar.symbol 'T'),
    Calendar.withSeconds Calendar.skipBlanks, Calendar.withoutSeconds].findSome?
    (Calendar.whole · cs)

end TemplateExpr
