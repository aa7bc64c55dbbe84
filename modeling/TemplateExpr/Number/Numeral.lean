import TemplateExpr.Number.Arith
import TemplateExpr.Text.Blank

/-!
# Reading decimal numerals

A numeral is an optional sign, digits with at most one point among or around them, and an
optional exponent. `scanNumeral` reads the longest one at the front of a text, exactly, and rounds
it once. `parse?` reads a text that is a numeral as a whole; it also takes the words for infinity and
not-a-number, in any case of their letters.

The two number readings of the expression language show less of a text to `parse?`. `ofText` shows
it none but the characters that numerals are written with, and has an infinity and hexadecimal
digits of its own. `ofLeading` looks for the numeral at the front (`leadingNumeral?`) and ignores
what follows.
-/

namespace TemplateExpr.Number

/-- The longest run of decimal digits at the front, and the rest. -/
def scanDigits (cs : List Char) : List Char × List Char :=
  (cs.takeWhile Char.isDigit, cs.dropWhile Char.isDigit)

theorem scanDigits_append (cs : List Char) : (scanDigits cs).1 ++ (scanDigits cs).2 = cs :=
  List.takeWhile_append_dropWhile

/-- Whether a minus stands in front; one sign is read. -/
def scanSign : List Char → Bool × List Char
  | '-' :: rest => (true, rest)
  | '+' :: rest => (false, rest)
  | cs => (false, cs)

/-- The digits of a numeral as one natural number, and the number of them after the point. At
least one digit has to stand before or after the point. -/
def scanMantissa (cs : List Char) : Option ((Nat × Nat) × List Char) :=
  let (whole, rest) := scanDigits cs
  match rest with
  | '.' :: rest =>
    let (fraction, rest) := scanDigits rest
    if whole.isEmpty && fraction.isEmpty then none
    else some ((Nat.ofDigitChars 10 (whole ++ fraction) 0, fraction.length), rest)
  | rest => if whole.isEmpty then none else some ((Nat.ofDigitChars 10 whole 0, 0), rest)

/-- The size from which on an exponent is not read any further. -/
def exponentEnough : Nat := 0x10000

/-- The size of an exponent with the given digits. An exponent that is large enough stays as it is,
whatever digits follow: it is beyond all doubles unless the numeral has as many digits itself. -/
def exponentSize (digits : List Char) : Nat :=
  digits.foldl
    (fun n c => if n < exponentEnough then Nat.ofDigitChars 10 [c] n else n) 0

/-- The exponent, zero if there is none. An `e` without digits behind it is not read. -/
def scanExponent (cs : List Char) : Int × List Char :=
  match cs with
  | 'e' :: rest | 'E' :: rest =>
    let (negative, rest) := scanSign rest
    let (digits, rest) := scanDigits rest
    if digits.isEmpty then (0, cs)
    else
      let size : Int := exponentSize digits
      (if negative then -size else size, rest)
  | cs => (0, cs)

/-- The longest decimal numeral at the front, rounded to a double, and the rest. -/
def scanNumeral (cs : List Char) : Option (Number × List Char) :=
  let (negative, rest) := scanSign cs
  match scanMantissa rest with
  | none => none
  | some ((digits, places), rest) =>
    let (exponent, rest) := scanExponent rest
    some (ofDecimal negative digits (exponent - places), rest)

/-- A text that is one decimal numeral, rounded to a double. -/
def ofNumeral? (cs : List Char) : Option Number :=
  match scanNumeral cs with
  | some (n, []) => some n
  | _ => none

/-! ## Hexadecimal digits -/

/-- The value of a hexadecimal digit. -/
def hexDigit? (c : Char) : Option Nat :=
  if '0' ≤ c ∧ c ≤ '9' then some (c.toNat - '0'.toNat)
  else if 'a' ≤ c ∧ c ≤ 'f' then some (c.toNat - 'a'.toNat + 10)
  else if 'A' ≤ c ∧ c ≤ 'F' then some (c.toNat - 'A'.toNat + 10)
  else none

def isHexDigit (c : Char) : Bool := (hexDigit? c).isSome

/-- The natural number that hexadecimal digits denote; other characters count as zero. -/
def ofHexDigits (cs : List Char) : Nat := cs.foldl (fun n c => 16 * n + (hexDigit? c).getD 0) 0

/-- A whole number of 64 bits in hexadecimal: at least one digit, after an optional sign. -/
def hexInteger? (cs : List Char) : Option Int :=
  let (negative, digits) := scanSign cs
  if digits.isEmpty || !digits.all isHexDigit then none
  else
    let size := ofHexDigits digits
    if negative then if size ≤ 0x8000000000000000 then some (-(size : Int)) else none
    else if size < 0x8000000000000000 then some size else none

/-! ## Words -/

/-- The word that a text is, in any case of its letters and with an optional sign: infinity, or
not-a-number. -/
def ofWord? (cs : List Char) : Option Number :=
  let (negative, rest) := scanSign cs
  let word := String.ofList (rest.map Char.toLower)
  if word = "inf" ∨ word = "infinity" then some (infinite negative)
  else if word = "nan" then some nan
  else none

/-- The double that a text denotes, as a numeral or as a word. -/
def parse? (cs : List Char) : Option Number := (ofNumeral? cs).or (ofWord? cs)

/-! ## The number that a whole text denotes -/

/-- The characters that decimal numerals are written with. -/
def writesNumeral (c : Char) : Bool :=
  c.isDigit || c == '+' || c == '-' || c == '.' || c == 'e' || c == 'E'

/-- What follows the mark of hexadecimal digits at the front of a text. -/
def afterHexMark? : List Char → Option (List Char)
  | '0' :: 'x' :: digits | '0' :: 'X' :: digits => some digits
  | _ => none

/-- The number that a whole text denotes, ignoring blanks around it. An empty text is zero, and a
text that is no number is not-a-number. -/
def ofText (s : String) : Number :=
  let cs := Text.trim s.toList
  if cs.isEmpty then 0
  else if cs = "Infinity".toList ∨ cs = "+Infinity".toList then infinite false
  else if cs = "-Infinity".toList then infinite true
  else
    match afterHexMark? cs with
    | some digits => ((hexInteger? digits).map ofInt).getD nan
    | none => if cs.all writesNumeral then (parse? cs).getD nan else nan

/-! ## The number at the front of a text -/

def isSign (c : Char) : Bool := c == '+' || c == '-'

/-- A sign at the front, and the rest. -/
def takeSign : List Char → List Char × List Char
  | c :: rest => if isSign c then ([c], rest) else ([], c :: rest)
  | [] => ([], [])

/-- A point with the digits behind it, and the rest. Without digits behind it a point counts only
behind digits. -/
def takeFraction (behindDigits : Bool) (cs : List Char) : List Char × List Char :=
  match cs with
  | '.' :: rest =>
    let (digits, rest) := scanDigits rest
    if behindDigits || !digits.isEmpty then ('.' :: digits, rest) else ([], cs)
  | _ => ([], cs)

/-- An exponent, and the rest. An `e` counts only with digits behind it. -/
def takeExponent (cs : List Char) : List Char × List Char :=
  match cs with
  | e :: rest =>
    let (sign, rest) := takeSign rest
    let (digits, rest) := scanDigits rest
    if (e = 'e' ∨ e = 'E') ∧ !digits.isEmpty then (e :: (sign ++ digits), rest) else ([], cs)
  | [] => ([], [])

/-- The characters of the longest numeral at the front of a text. -/
def leadingNumeral? (cs : List Char) : Option (List Char) :=
  let (sign, rest) := takeSign cs
  let (whole, rest) := scanDigits rest
  let (fraction, rest) := takeFraction (!whole.isEmpty) rest
  if whole.isEmpty && fraction.isEmpty then none
  else some (sign ++ whole ++ fraction ++ (takeExponent rest).1)

/-- The number at the front of a text, ignoring blanks before it and anything after it. -/
def ofLeading (s : String) : Number :=
  let cs := Text.trimStart s.toList
  let unsigned := cs.dropWhile isSign
  if "Infinity".toList.isPrefixOf unsigned ∧ cs.length - unsigned.length ≤ 1 then
    infinite (cs.head? == some '-')
  else ((leadingNumeral? cs).bind parse?).getD nan

end TemplateExpr.Number
