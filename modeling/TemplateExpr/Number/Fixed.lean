import TemplateExpr.Number.Layout

/-!
# Numbers with a fixed number of places

A number is written with exactly the number of places asked for, rounded from its exact value. The
rounding is to nearest. A half goes away from zero, and a half is recognised by writing 31 further
places: a number so close to a half that these read `5000…0` counts as one.
-/

namespace TemplateExpr

/-- Adds one to the last digit of a plain decimal numeral, carrying over nines and across the
point. The digits come last digit first; the answer does too. -/
def bumpReversed : List Char → List Char
  | [] => ['1']
  | '.' :: rest => '.' :: bumpReversed rest
  | '9' :: rest => '0' :: bumpReversed rest
  | c :: rest => Char.ofNat (c.toNat + 1) :: rest

/-- Adds one unit in the last place of a plain decimal numeral. -/
def addLastPlace (numeral : List Char) : List Char := (bumpReversed numeral.reverse).reverse

namespace Number.Finite

/-- The places beyond the ones asked for that decide whether a fraction is a half. -/
def tiePlaces : Nat := 31

/-- The magnitude times `10^places`, rounded to a natural number, ties to even. -/
def scaledBy (x : Finite) (places : Nat) : Nat :=
  roundHalfEven (x.units * Nat.pow 10 places) unitsPerOne

/-- The digits of a natural number, at least `width` of them. -/
def paddedDigits (width n : Nat) : List Char :=
  let digits := Nat.toDigits 10 n
  Layout.zeros (width - digits.length) ++ digits

/-- The magnitude with the given number of places, rounded to nearest, ties to even. A number
without places has no point. -/
def withPlaces (x : Finite) (places : Nat) : List Char :=
  let digits := paddedDigits (places + 1) (x.scaledBy places)
  let whole := digits.length - places
  if places = 0 then digits else digits.take whole ++ '.' :: digits.drop whole

/-- Whether the places beyond the ones asked for read as a half. -/
def isTie (beyond : List Char) : Bool :=
  match beyond with
  | '5' :: rest => rest.all (· == '0')
  | _ => false

/-- The magnitude with the given number of places, rounded to nearest, ties away from zero. -/
def fixedMagnitude (x : Finite) (places : Nat) : List Char :=
  let expanded := x.withPlaces (places + tiePlaces)
  let kept := expanded.take (expanded.length - tiePlaces)
  let beyond := expanded.drop (expanded.length - tiePlaces)
  if isTie beyond then
    addLastPlace (if places = 0 then kept.dropLast else kept)
  else x.withPlaces places

end Number.Finite

namespace Number

/-- The most places a number is written with. -/
def maxPlaces : Nat := 100

/-- The number of places that a number asks for: its whole part, zero for not-a-number, and
nothing if that is out of range. -/
def places? : Number → Option Nat
  | nan => some 0
  | infinite _ => none
  | finite x =>
    if (x.negative ∧ x.whole ≠ 0) ∨ maxPlaces < x.whole then none else some x.whole

/-- A number with a fixed number of places. From `10^21` on, and for not-a-number, it is written
as in `Number.text`. -/
def fixed (n : Number) (places : Nat) : String :=
  match n with
  | finite x =>
    if x.units < Nat.pow 10 21 * unitsPerOne then
      let negative := x.negative && x.significand != 0
      .ofList ((if negative then ['-'] else []) ++ x.fixedMagnitude places)
    else n.text
  | n => n.text

end Number

end TemplateExpr
