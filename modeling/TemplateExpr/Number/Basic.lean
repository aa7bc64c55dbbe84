/-!
# Binary64 numbers

Every number of the expression language is a double: not-a-number, one of the two infinities,
or a finite value. A finite value is a whole number of *units* of `2^-1074`, the least positive
double, so its sign and a natural number say all there is to say about it, and arithmetic on
finite values is arithmetic on integers followed by one rounding (`Number.Round`).

Two equalities live here. Lean's `=` tells `0` from `-0` and makes not-a-number equal to itself;
`Number.equal` is the comparison of the expression language, for which the zeros are the same
number and not-a-number equals nothing.
-/

namespace TemplateExpr

/-- The leading bit of a significand that has all its 53 bits: `2^52`. -/
def Number.leadingBit : Nat := 0x10000000000000

/-- A finite double `± significand · 2^scale` units of `2^-1074`.

The significand has 53 bits and the scale is zero unless all 53 are in use, so each finite double
has one representation. -/
structure Number.Finite where
  /-- The sign bit; a zero has one as well. -/
  negative : Bool
  /-- The digits of the magnitude. -/
  significand : Nat
  /-- The power of two, in units of the least positive double, that the significand counts. -/
  scale : Nat
  /-- The significand has at most 53 bits. -/
  significand_lt : significand < 2 * Number.leadingBit
  /-- Only the least scale may leave the leading bit unused. -/
  normal : Number.leadingBit ≤ significand ∨ scale = 0
  /-- The largest finite double has scale 2045. -/
  scale_le : scale ≤ 2045
deriving DecidableEq

/-- A double. -/
inductive Number where
  /-- The one value that is not a number; its bit pattern is not observable. -/
  | nan
  /-- Positive or negative infinity. -/
  | infinite (negative : Bool)
  | finite (x : Number.Finite)
deriving DecidableEq

namespace Number

/-- The number of units in the number one. -/
def unitsPerOne : Nat := 1 <<< 1074

namespace Finite

/-- The magnitude, counted in units of `2^-1074`. -/
def units (x : Finite) : Nat := x.significand <<< x.scale

/-- The value, counted in units of `2^-1074`. -/
def signed (x : Finite) : Int := if x.negative then -(x.units : Int) else x.units

/-- Zero with the given sign. -/
def zero (negative : Bool) : Finite where
  negative := negative
  significand := 0
  scale := 0
  significand_lt := by decide
  normal := .inr rfl
  scale_le := by decide

/-- The same magnitude with the other sign. -/
def neg (x : Finite) : Finite := { x with negative := !x.negative }

/-- The same magnitude without a sign. -/
def abs (x : Finite) : Finite := { x with negative := false }

@[simp] theorem units_zero (s : Bool) : (zero s).units = 0 := by simp [zero, units]

@[simp] theorem units_neg (x : Finite) : x.neg.units = x.units := rfl

@[simp] theorem units_abs (x : Finite) : x.abs.units = x.units := rfl

@[simp] theorem neg_neg (x : Finite) : x.neg.neg = x := by cases x; simp [neg]

theorem natAbs_signed (x : Finite) : x.signed.natAbs = x.units := by
  unfold signed; split <;> simp

end Finite

/-- Zero with the given sign. -/
def zero (negative : Bool) : Number := .finite (.zero negative)

/-- The sign bit; not-a-number counts as positive. -/
def isNegative : Number → Bool
  | nan => false
  | infinite s => s
  | finite x => x.negative

def isNaN : Number → Bool
  | nan => true
  | _ => false

/-- Either zero. -/
def isZero : Number → Bool
  | finite x => x.significand == 0
  | _ => false

def isFinite : Number → Bool
  | finite _ => true
  | _ => false

def neg : Number → Number
  | nan => nan
  | infinite s => infinite !s
  | finite x => finite x.neg

def abs : Number → Number
  | nan => nan
  | infinite _ => infinite false
  | finite x => finite x.abs

instance : Neg Number := ⟨neg⟩

/-! ## Order -/

/-- Which of two numbers is less. Not-a-number has no place in the order; the two zeros share
theirs. -/
def compare? : Number → Number → Option Ordering
  | nan, _ => none
  | _, nan => none
  | infinite s, infinite t => some (compare t.toNat s.toNat)
  | infinite s, finite _ => some (if s then .lt else .gt)
  | finite _, infinite t => some (if t then .gt else .lt)
  | finite x, finite y => some (compare x.signed y.signed)

/-- The two numbers stand at the same place of the order. -/
def equal (a b : Number) : Bool := compare? a b == some .eq

def less (a b : Number) : Bool := compare? a b == some .lt

def atMost (a b : Number) : Bool := compare? a b == some .lt || compare? a b == some .eq

theorem compare?_swap (a b : Number) : compare? b a = (compare? a b).map Ordering.swap := by
  cases a with
  | nan => cases b <;> rfl
  | infinite s => cases b with
    | nan => rfl
    | infinite t => cases s <;> cases t <;> rfl
    | finite y => cases s <;> rfl
  | finite x => cases b with
    | nan => rfl
    | infinite t => cases t <;> rfl
    | finite y =>
      simp only [compare?, Option.map_some, Option.some.injEq]
      exact Std.OrientedCmp.eq_swap

theorem equal_comm (a b : Number) : equal a b = equal b a := by
  unfold equal
  rw [compare?_swap a b]
  rcases h : compare? a b with _ | o
  · rfl
  · cases o <;> rfl

theorem equal_self (a : Number) : equal a a = !a.isNaN := by
  cases a with
  | nan => rfl
  | infinite s => cases s <;> rfl
  | finite x =>
    simp only [equal, compare?, isNaN, Bool.not_false, beq_iff_eq, Option.some.injEq]
    exact Std.ReflCmp.compare_self

theorem equal_iff {a b : Number} :
    a.equal b ↔ (∃ s, a = infinite s ∧ b = infinite s) ∨
      ∃ x y, a = finite x ∧ b = finite y ∧ x.signed = y.signed := by
  cases a with
  | nan => simp [equal, compare?]
  | infinite s => cases b with
    | infinite t => cases s <;> cases t <;> simp [equal, compare?]
    | _ => cases s <;> simp [equal, compare?]
  | finite x => cases b with
    | nan => simp [equal, compare?]
    | infinite t => cases t <;> simp [equal, compare?]
    | finite y => simp [equal, compare?]

theorem equal_trans {a b c : Number} (hab : a.equal b) (hbc : b.equal c) : a.equal c := by
  rw [equal_iff] at hab hbc ⊢
  obtain ⟨s, rfl, rfl⟩ | ⟨x, y, rfl, rfl, hxy⟩ := hab
  · obtain ⟨t, ht, rfl⟩ | ⟨y, z, hy, -, -⟩ := hbc
    · exact .inl ⟨t, ht, rfl⟩
    · cases hy
  · obtain ⟨t, ht, -⟩ | ⟨y', z, hy, rfl, hyz⟩ := hbc
    · cases ht
    · cases hy
      exact .inr ⟨x, z, rfl, rfl, hxy.trans hyz⟩

end Number

end TemplateExpr
