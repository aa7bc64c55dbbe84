/-!
# UTF-16 code units

Lengths and positions in text, and the order of texts, are those of the UTF-16 encoding: a
character outside the Basic Multilingual Plane counts twice, and is ordered by its surrogates,
below the characters from U+E000 up.
-/

namespace TemplateExpr.Text

/-- The UTF-16 code units of a character. -/
def codeUnits (c : Char) : List Nat :=
  let n := c.toNat
  if n < 0x10000 then [n]
  else [0xD800 + (n - 0x10000) / 0x400, 0xDC00 + (n - 0x10000) % 0x400]

/-- The number of code units of a text. -/
def unitLength (cs : List Char) : Nat := (cs.flatMap codeUnits).length

theorem unitLength_append (as bs : List Char) :
    unitLength (as ++ bs) = unitLength as + unitLength bs := by
  simp [unitLength]

/-- The lexicographic order of two sequences of numbers. -/
def compareUnits : List Nat → List Nat → Ordering
  | [], [] => .eq
  | [], _ :: _ => .lt
  | _ :: _, [] => .gt
  | a :: as, b :: bs => (compare a b).then (compareUnits as bs)

/-- The order of two texts by their code units. -/
def compareTexts (a b : String) : Ordering :=
  compareUnits (a.toList.flatMap codeUnits) (b.toList.flatMap codeUnits)

end TemplateExpr.Text
