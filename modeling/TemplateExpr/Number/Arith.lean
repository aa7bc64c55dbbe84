import TemplateExpr.Number.Round

/-!
# Arithmetic on doubles

Sums, products, quotients and remainders are computed exactly on units and rounded once. What is
left to say apart from that are the signs of zeros and the cases without a finite operand.

A remainder has the sign of the dividend, `floor`, `ceil` and `trunc` keep the sign of their
argument even when they reach zero.
-/

namespace TemplateExpr.Number

/-- An exact sum of zero is positive unless both terms are negative. -/
def add : Number → Number → Number
  | nan, _ => nan
  | _, nan => nan
  | infinite s, infinite t => if s = t then infinite s else nan
  | infinite s, finite _ => infinite s
  | finite _, infinite t => infinite t
  | finite x, finite y =>
    let sum := x.signed + y.signed
    if sum = 0 then zero (x.negative && y.negative) else ofUnits (sum < 0) sum.natAbs

def mul : Number → Number → Number
  | nan, _ => nan
  | _, nan => nan
  | infinite s, infinite t => infinite (s != t)
  | infinite s, finite y => if y.significand = 0 then nan else infinite (s != y.negative)
  | finite x, infinite t => if x.significand = 0 then nan else infinite (x.negative != t)
  | finite x, finite y => ofQuotient (x.negative != y.negative) (x.units * y.units) unitsPerOne

def div : Number → Number → Number
  | nan, _ => nan
  | _, nan => nan
  | infinite _, infinite _ => nan
  | infinite s, finite y => infinite (s != y.negative)
  | finite x, infinite t => zero (x.negative != t)
  | finite x, finite y =>
    let negative := x.negative != y.negative
    if y.significand = 0 then
      if x.significand = 0 then nan else infinite negative
    else ofQuotient negative (x.units * unitsPerOne) y.units

/-- The remainder of division toward zero, with the sign of the dividend. It is always exact. -/
def rem : Number → Number → Number
  | finite x, finite y =>
    if y.significand = 0 then nan else ofUnits x.negative (x.units % y.units)
  | finite x, infinite _ => finite x
  | _, _ => nan

instance : Add Number := ⟨add⟩
instance : Mul Number := ⟨mul⟩
instance : Div Number := ⟨div⟩
instance : Mod Number := ⟨rem⟩
instance : Sub Number := ⟨fun a b => a + -b⟩

/-! ## Whole numbers -/

/-- The whole part of the magnitude. -/
def Finite.whole (x : Finite) : Nat := x.units / unitsPerOne

/-- Whether the value is a whole number. -/
def Finite.isWhole (x : Finite) : Bool := x.units % unitsPerOne == 0

/-- The least natural number that is no less than the magnitude. -/
def Finite.wholeUp (x : Finite) : Nat := if x.isWhole then x.whole else x.whole + 1

/-- The value without its fraction. -/
def Finite.toInt (x : Finite) : Int := if x.negative then -(x.whole : Int) else x.whole

/-- The greatest whole number not above the value. -/
def floor : Number → Number
  | finite x => ofUnits x.negative ((if x.negative then x.wholeUp else x.whole) * unitsPerOne)
  | other => other

/-- The least whole number not below the value. -/
def ceil : Number → Number
  | finite x => ofUnits x.negative ((if x.negative then x.whole else x.wholeUp) * unitsPerOne)
  | other => other

/-- The value without its fraction. -/
def trunc : Number → Number
  | finite x => ofUnits x.negative (x.whole * unitsPerOne)
  | other => other

/-- The whole number nearest to the value; a half goes up. -/
def round (a : Number) : Number :=
  if a.isFinite then
    let below := a.floor
    if (a - below).less (ofDecimal false 5 (-1)) then below else below + 1
  else a

/-- The lesser of two numbers; not-a-number gives way to the other. -/
def min (a b : Number) : Number :=
  if a.isNaN then b else if b.isNaN then a else if b.less a then b else a

/-- The greater of two numbers; not-a-number gives way to the other. -/
def max (a b : Number) : Number :=
  if a.isNaN then b else if b.isNaN then a else if a.less b then b else a

end TemplateExpr.Number
