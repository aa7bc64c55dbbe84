import TemplateExpr.Text.GraphemeBreak

/-!
# Graphemes

A text is cut into graphemes, the characters that its readers see. Whether there is a boundary
between two characters depends on their classes and, for the consonants, pictographs and regional
indicators, on what stands before them (`Tail`). The rules are those of Unicode for extended
grapheme clusters.

Cutting loses nothing: `flatten_graphemes`.
-/

namespace TemplateExpr.Text

/-- What a text ends with, as far as the next boundary depends on it. -/
inductive Tail where
  | plain
  /-- A row of regional indicators, of odd length or not. -/
  | regionals (odd : Bool)
  /-- A consonant with marks behind it, a linker among them or not. -/
  | consonant (linked : Bool)
  /-- A pictograph with marks behind it, the last of them a joiner or not. -/
  | pictograph (joined : Bool)
deriving DecidableEq

namespace Tail

/-- The tail of a text that goes on with a character of the given class. -/
def next (tail : Tail) (k : BreakClass) : Tail :=
  match k, tail with
  | .regional, regionals odd => regionals !odd
  | .regional, _ => regionals true
  | .consonant, _ => consonant false
  | .pictograph, _ => pictograph false
  | .linker, consonant _ => consonant true
  | .extend, consonant linked | .joiner, consonant linked => consonant linked
  | .joiner, pictograph false => pictograph true
  | .extend, pictograph false | .linker, pictograph false | .nonJoiner, pictograph false =>
    pictograph false
  | _, _ => plain

end Tail

/-- Whether there is no boundary between a text that ends with a character of the class `before`,
and has the given tail, and a character of the class `after`. -/
def joins (before : BreakClass) (tail : Tail) (after : BreakClass) : Bool :=
  if before = .carriageReturn ∧ after = .lineFeed then true
  else if before.standsAlone || after.standsAlone then false
  else if after.isExtending || before = .prepended then true
  else
    match after with
    | .leading | .openSyllable | .closedSyllable => before = .leading
    | .vowel => before = .leading ∨ before = .vowel ∨ before = .openSyllable
    | .trailing =>
      before = .vowel ∨ before = .openSyllable ∨ before = .trailing ∨ before = .closedSyllable
    | .consonant => tail = .consonant true
    | .pictograph => tail = .pictograph true
    | .regional => tail = .regionals true
    | _ => false

/-- The graphemes of a text that goes on behind the characters of a piece, the last of them
first. -/
def graphemesAfter (before : BreakClass) (tail : Tail) (piece : List Char) :
    List Char → List (List Char)
  | [] => [piece.reverse]
  | c :: cs =>
    let k := BreakClass.ofChar c
    if joins before tail k then graphemesAfter k (tail.next k) (c :: piece) cs
    else piece.reverse :: graphemesAfter k (tail.next k) [c] cs

/-- The graphemes of a text. -/
def graphemes : List Char → List (List Char)
  | [] => []
  | c :: cs =>
    let k := BreakClass.ofChar c
    graphemesAfter k (Tail.plain.next k) [c] cs

theorem flatten_graphemesAfter (before : BreakClass) (tail : Tail) (piece cs : List Char) :
    (graphemesAfter before tail piece cs).flatten = piece.reverse ++ cs := by
  induction cs generalizing before tail piece with
  | nil => simp [graphemesAfter]
  | cons c cs ih =>
    simp only [graphemesAfter]
    split <;> simp [ih]

theorem flatten_graphemes (cs : List Char) : (graphemes cs).flatten = cs := by
  cases cs with
  | nil => rfl
  | cons c cs => simp [graphemes, flatten_graphemesAfter]

end TemplateExpr.Text
