import Mathlib.Data.List.TakeWhile

/-!
# Runs of characters

Characters with a property, up to one without it, are what a scan takes from the front of a text.
-/

namespace TemplateExpr

variable {p : Char → Bool} {run cs : List Char}

theorem takeWhile_append_of_stop (hrun : ∀ c ∈ run, p c) (hcs : ∀ c ∈ cs.head?, ¬ p c) :
    (run ++ cs).takeWhile p = run := by
  rw [List.takeWhile_append_of_pos hrun]
  cases cs with
  | nil => simp
  | cons c cs => simp [hcs c rfl]

theorem dropWhile_append_of_stop (hrun : ∀ c ∈ run, p c) (hcs : ∀ c ∈ cs.head?, ¬ p c) :
    (run ++ cs).dropWhile p = cs := by
  rw [List.dropWhile_append_of_pos hrun]
  cases cs with
  | nil => rfl
  | cons c cs => simp [hcs c rfl]

end TemplateExpr
