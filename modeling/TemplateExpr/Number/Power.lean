import TemplateExpr.Number.Arith

/-!
# Powers

The one operation whose result is not determined by exact arithmetic is the power function: its
last digit is that of the floating-point library. `ofBits` and `toBits` are the passage to and
from the machine's own doubles, which nothing but `pow` needs.

The expression language departs from the library in two cases, which `pow` settles first: an
exponent that is not a number, and an infinite exponent over a base of magnitude one.
-/

namespace TemplateExpr.Number

/-- The double with the given bit pattern. -/
def ofBits (bits : UInt64) : Number :=
  let word := bits.toNat
  let negative := (word >>> 63) % 2 == 1
  let biased := (word >>> 52) % 2048
  let fraction := word % leadingBit
  have fraction_lt : fraction < leadingBit := Nat.mod_lt _ (by decide)
  if biased = 0 then
    place negative fraction 0 (by omega) (.inr rfl)
  else if biased = 2047 then
    if fraction = 0 then infinite negative else nan
  else
    place negative (leadingBit + fraction) (biased - 1) (by omega) (.inl (by omega))

/-- The bit pattern of a double; not-a-number is the quiet one. -/
def toBits : Number → UInt64
  | nan => 0x7ff8000000000000
  | infinite negative => .ofNat ((if negative then 1 <<< 63 else 0) + 2047 <<< 52)
  | finite x =>
    let sign := if x.negative then 1 <<< 63 else 0
    if x.significand < leadingBit then .ofNat (sign + x.significand)
    else .ofNat (sign + (x.scale + 1) <<< 52 + (x.significand - leadingBit))

/-- The base raised to the exponent. -/
def pow (base exponent : Number) : Number :=
  match exponent with
  | nan => nan
  | infinite _ =>
    if base.abs.equal 1 then nan else power base exponent
  | finite _ => power base exponent
where
  /-- The power function of the floating-point library. -/
  power (base exponent : Number) : Number :=
    ofBits ((Float.ofBits base.toBits).pow (Float.ofBits exponent.toBits)).toBits

end TemplateExpr.Number
