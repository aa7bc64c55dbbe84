import TemplateExpr.Json.Basic
import TemplateExpr.Number.Numeral

/-!
# Reading JSON

`Json.ofText?` reads a text that is one document, with blanks around it. Objects and arrays may be
nested 127 deep. An object that repeats a key keeps the place of the first and the value of the
last.

A number keeps the digits that fit into 64 bits; further digits of the whole part only scale it and
further digits of the fraction are dropped. The digits that are kept are rounded to a double, which
is then multiplied or divided by a power of ten: a number with many digits or a large exponent may
come out one unit in the last place off the nearest double. A number beyond all doubles is refused.
-/

namespace TemplateExpr.Json

/-- The blanks of JSON. -/
def isBlank (c : Char) : Bool := c == ' ' || c == '\t' || c == '\n' || c == '\r'

/-- Drops the blanks at the front. -/
def skipBlanks (cs : List Char) : List Char := cs.dropWhile isBlank

/-! ## Numbers -/

/-- Appends digits to a number as long as it fits into 64 bits; the digits left come second. -/
def accumulate : Nat → List Char → Nat × List Char
  | n, [] => (n, [])
  | n, c :: cs =>
    let next := 10 * n + (c.toNat - '0'.toNat)
    if next < 0x10000000000000000 then accumulate next cs else (n, c :: cs)

/-- The powers of ten that are doubles have exponents up to this one. -/
def maxPower : Nat := 308

/-- The power of ten with the given exponent, as a double. -/
def power (exponent : Nat) : Number := .ofDecimal false 1 exponent

/-- Multiplies by a power of ten, or divides by one. An exponent below all powers takes several
divisions; `rounds` bounds their number, and no digits of 64 bits survive more than two. A number
beyond all doubles is refused. -/
def scaled : Nat → Number → Int → Option Number
  | 0, n, _ => some n
  | rounds + 1, n, exponent =>
    if exponent.natAbs ≤ maxPower then
      if 0 ≤ exponent then
        let product := n * power exponent.toNat
        if product.isFinite then some product else none
      else some (n / power (-exponent).toNat)
    else if n.isZero then some n
    else if 0 ≤ exponent then none
    else scaled rounds (n / power maxPower) (exponent + maxPower)

/-- The exponent behind the digits of a number, which must have digits if it is there. -/
def exponent? : List Char → Option (Option (Bool × List Char) × List Char)
  | 'e' :: cs | 'E' :: cs =>
    let (negative, cs) := Number.scanSign cs
    let (digits, rest) := Number.scanDigits cs
    if digits.isEmpty then none else some (some (negative, digits), rest)
  | cs => some (none, cs)

/-- The digits behind the point of a number, which must be there if the point is. -/
def fraction? : List Char → Option (Option (List Char) × List Char)
  | '.' :: cs =>
    let (digits, rest) := Number.scanDigits cs
    if digits.isEmpty then none else some (some digits, rest)
  | cs => some (none, cs)

/-- A double with the given sign, if there is one of that magnitude. -/
def double? (negative : Bool) (magnitude : Number) : Option Numeral :=
  match if negative then -magnitude else magnitude with
  | .finite x => some (.double x)
  | _ => none

/-- A whole number of 64 bits with the given sign. The negative ones that do not fit into 64 bits
together with their sign are doubles, and so is the negative zero. -/
def integer? (negative : Bool) (n : Nat) : Option Numeral :=
  if negative then
    if 0 < n ∧ n ≤ 0x8000000000000000 then some (.integer (-(n : Int)))
    else double? true (.ofNat n)
  else some (.integer n)

/-- The number with the given sign and parts. -/
def numberOf (negative : Bool) (whole : List Char) (fraction : Option (List Char))
    (exponent : Option (Bool × List Char)) : Option Numeral :=
  let (n, surplus) := accumulate 0 whole
  match fraction, exponent, surplus with
  | none, none, [] => integer? negative n
  | fraction, exponent, surplus =>
    let digits := fraction.getD []
    let (n, dropped) := accumulate n digits
    let places : Int := surplus.length - (digits.length - dropped.length : Nat)
    match exponent with
    | none => (scaled 3 (.ofNat n) places).bind (double? negative)
    | some (below, digits) =>
      let size := Nat.ofDigitChars 10 digits 0
      if size < 0x80000000 then
        (scaled 3 (.ofNat n) (if below then places - size else places + size)).bind
          (double? negative)
      else if n ≠ 0 ∧ !below then none
      else double? negative 0

/-- A number behind its sign. A leading zero stands alone. -/
def unsigned? (negative : Bool) (cs : List Char) : Option (Numeral × List Char) := do
  let (whole, rest) := Number.scanDigits cs
  match whole with
  | [] => none
  | '0' :: _ :: _ => none
  | whole =>
    let (fraction, rest) ← fraction? rest
    let (exponent, rest) ← exponent? rest
    return (← numberOf negative whole fraction exponent, rest)

/-- A number. -/
def number? (cs : List Char) : Option (Numeral × List Char) :=
  match cs with
  | '-' :: cs => unsigned? true cs
  | cs => unsigned? false cs

/-! ## Strings -/

/-- The number that four hexadecimal digits denote. -/
def codeUnit? : List Char → Option (Nat × List Char)
  | a :: b :: c :: d :: rest =>
    let digits := [a, b, c, d]
    if digits.all Number.isHexDigit then some (Number.ofHexDigits digits, rest) else none
  | _ => none

/-- The character behind `\u`. Two escapes with surrogates stand for one character. -/
def unicode? (cs : List Char) : Option (Char × List Char) := do
  let (unit, rest) ← codeUnit? cs
  if unit < 0xD800 ∨ 0xE000 ≤ unit then some (Char.ofNat unit, rest)
  else if 0xDC00 ≤ unit then none
  else
    match rest with
    | '\\' :: 'u' :: rest =>
      let (low, rest) ← codeUnit? rest
      if 0xDC00 ≤ low ∧ low < 0xE000 then
        some (Char.ofNat (0x10000 + (unit - 0xD800) * 0x400 + (low - 0xDC00)), rest)
      else none
    | _ => none

/-- The character behind a backslash. -/
def escape? : List Char → Option (Char × List Char)
  | '"' :: cs => some ('"', cs)
  | '\\' :: cs => some ('\\', cs)
  | '/' :: cs => some ('/', cs)
  | 'b' :: cs => some ('\x08', cs)
  | 'f' :: cs => some ('\x0c', cs)
  | 'n' :: cs => some ('\n', cs)
  | 'r' :: cs => some ('\r', cs)
  | 't' :: cs => some ('\t', cs)
  | 'u' :: cs => unicode? cs
  | _ => none

/-- The characters of a string behind its opening quote, fewer than the given count. -/
def stringWithin : Nat → List Char → Option (List Char × List Char)
  | 0, _ => none
  | _, [] => none
  | n + 1, c :: cs =>
    if c = '"' then some ([], cs)
    else if c = '\\' then do
      let (value, rest) ← escape? cs
      let (values, rest) ← stringWithin n rest
      return (value :: values, rest)
    else if c.toNat < 0x20 then none
    else do
      let (values, rest) ← stringWithin n cs
      return (c :: values, rest)

/-- A string behind its opening quote. -/
def string? (cs : List Char) : Option (String × List Char) :=
  (stringWithin cs.length cs).map fun (values, rest) => (.ofList values, rest)

/-! ## Documents -/

/-- A reader takes something off the front of a text. -/
abbrev Reader (α : Type) := List Char → Option (α × List Char)

/-- The items of an array behind its bracket, fewer than the given count. -/
def itemsWithin (value : Reader Json) : Nat → Reader (List Json)
  | 0, _ => none
  | n + 1, cs => do
    let (item, rest) ← value cs
    match skipBlanks rest with
    | ',' :: rest =>
      let (items, rest) ← itemsWithin value n rest
      return (item :: items, rest)
    | ']' :: rest => return ([item], rest)
    | _ => none

/-- The members of an object behind its brace, fewer than the given count. -/
def membersWithin (value : Reader Json) : Nat → Reader (List (String × Json))
  | 0, _ => none
  | n + 1, cs =>
    match skipBlanks cs with
    | '"' :: cs => do
      let (key, rest) ← string? cs
      match skipBlanks rest with
      | ':' :: rest =>
        let (member, rest) ← value rest
        match skipBlanks rest with
        | ',' :: rest =>
          let (members, rest) ← membersWithin value n rest
          return ((key, member) :: members, rest)
        | '}' :: rest => return ([(key, member)], rest)
        | _ => none
      | _ => none
    | _ => none

/-- A word with the value it stands for. -/
def word? (word : String) (json : Json) : Reader Json := fun cs =>
  if word.toList.isPrefixOf cs then some (json, cs.drop word.length) else none

/-- An array behind its opening bracket. -/
def array? (value : Reader Json) : Reader Json := fun cs =>
  match skipBlanks cs with
  | ']' :: rest => some (array [], rest)
  | _ => (itemsWithin value cs.length cs).map fun (items, rest) => (array items, rest)

/-- An object behind its opening brace. -/
def object? (value : Reader Json) : Reader Json := fun cs =>
  match skipBlanks cs with
  | '}' :: rest => some (object [], rest)
  | _ =>
    (membersWithin value cs.length cs).map fun (members, rest) =>
      (object (Fields.ofPairs members), rest)

/-- A value in which arrays and objects are nested no deeper than the given number. -/
def value? : Nat → Reader Json
  | depth, cs =>
    match skipBlanks cs with
    | 'n' :: rest => word? "null" null ('n' :: rest)
    | 't' :: rest => word? "true" (bool true) ('t' :: rest)
    | 'f' :: rest => word? "false" (bool false) ('f' :: rest)
    | '"' :: rest => (string? rest).map fun (s, rest) => (string s, rest)
    | '[' :: rest =>
      match depth with
      | 0 => none
      | depth + 1 => array? (value? depth) rest
    | '{' :: rest =>
      match depth with
      | 0 => none
      | depth + 1 => object? (value? depth) rest
    | cs => (number? cs).map fun (n, rest) => (number n, rest)

/-- How deeply arrays and objects may be nested. -/
def maxDepth : Nat := 127

/-- The document that a text is. -/
def ofText? (text : String) : Option Json :=
  match value? maxDepth text.toList with
  | some (json, rest) => if (skipBlanks rest).isEmpty then some json else none
  | none => none

end TemplateExpr.Json
