/-!
# Runs of case pairs

Most characters with an upper or lower case form are found in runs in which the form is at a fixed
distance: whole alphabets, whose letters follow each other, and scripts in which the two cases of a
letter alternate, where every other character has a form.
-/

namespace TemplateExpr.Text

/-- The code points `first`, `first + step`, … up to `last`, each with its form at a distance of
`shift`. -/
structure CaseRun where
  first : Nat
  last : Nat
  step : Nat
  shift : Int

/-- The form of a code point, if a run has one; the runs ascend. -/
def CaseRun.find? : List CaseRun → Nat → Option Nat
  | [], _ => none
  | run :: rest, n =>
    if n < run.first then none
    else if n ≤ run.last ∧ (n - run.first) % run.step = 0 then some (n + run.shift).toNat
    else CaseRun.find? rest n

end TemplateExpr.Text
