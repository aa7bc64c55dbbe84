import TemplateExpr.Number.Shortest

/-!
# How numbers are written

A `Layout` holds the decisions of one written form of numbers: where positional notation ends,
what marks a whole number, how an exponent is introduced, and which words stand for the values
without digits. `Layout.text` writes any number in it, with the shortest digits that read back.

The three forms in use are `expression`, which the expression language and its templates show,
`json`, and `listing`, which stands in listings of tokens and trees.
-/

namespace TemplateExpr

/-- The decisions of a written form of numbers. -/
structure Layout where
  /-- The least power of ten of a leading digit that is written positionally. -/
  least : Int
  /-- The first power of ten of a leading digit that is no longer written positionally. -/
  beyond : Int
  /-- What a whole number in positional notation ends in. -/
  wholeEnd : String
  /-- The sign of an exponent that is not negative. -/
  exponentSign : String
  /-- How zero is written, without and with a sign bit. -/
  zero : Bool → String
  /-- Infinity without its sign. -/
  infinity : String
  nan : String
  /-- The choice between two equally near shortest forms. -/
  tie : Tie

namespace Layout

/-- Numbers in the expression language: positional from a millionth up to `10^21`, a negative zero
without its sign. -/
def expression : Layout where
  least := -6
  beyond := 21
  wholeEnd := ""
  exponentSign := "+"
  zero _ := "0"
  infinity := "Infinity"
  nan := "NaN"
  tie := .away

/-- Numbers with a fraction, or too large to be exact, in JSON. JSON has no word for the values
that are not finite. -/
def json : Layout where
  least := -5
  beyond := 16
  wholeEnd := ".0"
  exponentSign := "+"
  zero negative := if negative then "-0.0" else "0.0"
  infinity := "null"
  nan := "null"
  tie := .even

/-- Numbers in listings of tokens and trees, where a whole number shows that it is a double. -/
def listing : Layout where
  least := -4
  beyond := 16
  wholeEnd := ".0"
  exponentSign := ""
  zero negative := if negative then "-0.0" else "0.0"
  infinity := "inf"
  nan := "NaN"
  tie := .away

/-- A row of zeros. -/
def zeros (n : Nat) : List Char := List.replicate n '0'

/-- The digits of a numeral with the point among them or zeros beside them. -/
def positional (layout : Layout) (digits : List Char) (exponent : Int) : List Char :=
  if 0 ≤ exponent then digits ++ zeros exponent.toNat ++ layout.wholeEnd.toList
  else
    let places := (-exponent).toNat
    if places < digits.length then
      let whole := digits.length - places
      digits.take whole ++ '.' :: digits.drop whole
    else '0' :: '.' :: (zeros (places - digits.length) ++ digits)

/-- One digit, the others behind a point, and the power of ten of the first. -/
def scientific (layout : Layout) (digits : List Char) (lead : Int) : List Char :=
  let mantissa :=
    match digits with
    | first :: second :: others => first :: '.' :: second :: others
    | digits => digits
  let sign := if lead < 0 then ['-'] else layout.exponentSign.toList
  mantissa ++ 'e' :: sign ++ Nat.toDigits 10 lead.natAbs

/-- The magnitude that a decimal numeral denotes. -/
def magnitude (layout : Layout) (d : Decimal) : List Char :=
  let digits := Nat.toDigits 10 d.digits
  let lead := d.exponent + digits.length - 1
  if layout.least ≤ lead ∧ lead < layout.beyond then layout.positional digits d.exponent
  else layout.scientific digits lead

/-- The characters of a number. -/
def chars (layout : Layout) : Number → List Char
  | .nan => layout.nan.toList
  | .infinite negative => (if negative then ['-'] else []) ++ layout.infinity.toList
  | .finite x =>
    if x.significand = 0 then (layout.zero x.negative).toList
    else (if x.negative then ['-'] else []) ++ layout.magnitude (x.shortest layout.tie)

/-- A number, written. -/
def text (layout : Layout) (n : Number) : String := .ofList (layout.chars n)

end Layout

/-- A number as the expression language shows it. -/
def Number.text (n : Number) : String := Layout.expression.text n

end TemplateExpr
