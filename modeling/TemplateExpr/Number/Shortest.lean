import TemplateExpr.Number.Arith

/-!
# Shortest decimal digits

A double is written with the fewest digits that read back as the same double. The reals that read
back as `x` form an interval around it, whose ends are half way to the neighbours of `x` and
belong to it exactly if the significand of `x` is even. `shortest` looks through the decimal
grids `10^k`, the coarsest first, and takes the first that has a point in the interval. If a grid
has one, then so has one of the two grid points next to `x`, so only these are looked at; if both
lie in the interval the nearer is taken.

All comparisons are made on natural numbers, in quarters of the unit `2^-1074`, so that both ends
of the interval are whole.
-/

namespace TemplateExpr

/-- A decimal numeral `digits · 10^exponent`. -/
structure Decimal where
  digits : Nat
  exponent : Int
deriving DecidableEq, Inhabited

/-- Which of two equally near neighbours is taken. -/
inductive Tie where
  /-- The one farther from zero. -/
  | away
  /-- The one with an even last digit. -/
  | even
deriving DecidableEq

namespace Number.Finite

/-- The magnitude in quarters of a unit. -/
def quarters (x : Finite) : Nat := 4 * x.units

/-- The lower end of the interval of reals that round to the magnitude, in quarters of a unit.
Below a power of two doubles are twice as dense. -/
def lowerEnd (x : Finite) : Nat :=
  x.quarters - (if x.significand = leadingBit ∧ x.scale ≠ 0 then 1 else 2) <<< x.scale

/-- The upper end of the interval of reals that round to the magnitude, in quarters of a unit. -/
def upperEnd (x : Finite) : Nat := x.quarters + 2 <<< x.scale

/-- Whether `num / den` quarters of a unit round to the magnitude. -/
def roundsHere (x : Finite) (num den : Nat) : Bool :=
  if x.significand % 2 = 0 then x.lowerEnd * den ≤ num && num ≤ x.upperEnd * den
  else x.lowerEnd * den < num && num < x.upperEnd * den

/-- The grid point nearest to the magnitude on the grid `10^k`, if it rounds to the magnitude. The
step of the grid is `num / den` quarters of a unit. -/
def onGrid? (x : Finite) (tie : Tie) (k : Int) : Option Decimal :=
  let num := 4 * unitsPerOne * Nat.pow 10 k.toNat
  let den := Nat.pow 10 (-k).toNat
  let below := x.quarters * den / num
  let above := below + 1
  match x.roundsHere (below * num) den, x.roundsHere (above * num) den with
  | false, false => none
  | true, false => some ⟨below, k⟩
  | false, true => some ⟨above, k⟩
  | true, true =>
    match compare (x.quarters * den - below * num) (above * num - x.quarters * den) with
    | .lt => some ⟨below, k⟩
    | .gt => some ⟨above, k⟩
    | .eq =>
      match tie with
      | .away => some ⟨above, k⟩
      | .even => some ⟨below + below % 2, k⟩

/-- All digits of the magnitude: every double is a multiple of `10^-1074`. -/
def exact (x : Finite) : Decimal := ⟨x.units * Nat.pow 5 1074, -1074⟩

/-- Looks through the grids from `10^k` downward. -/
def searchFrom (x : Finite) (tie : Tie) : Nat → Int → Decimal
  | 0, _ => x.exact
  | steps + 1, k => (x.onGrid? tie k).getD (searchFrom x tie steps (k - 1))

/-- A power of ten above the magnitude: `30103 / 100000` is just above the decimal logarithm of
two. -/
def coarsest (x : Finite) : Int := ((x.units.log2 : Int) - 1073) * 30103 / 100000 + 1

/-- The fewest digits that read back as the magnitude, and of those the nearest. -/
def shortest (x : Finite) (tie : Tie) : Decimal :=
  x.searchFrom tie (x.coarsest + 1075).toNat x.coarsest

end Number.Finite

end TemplateExpr
