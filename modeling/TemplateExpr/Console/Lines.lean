import TemplateExpr.Text.Graphemes

/-!
# Lines of input

The lines of a session are taken as they were typed: a backspace is not a character of the line but
takes back the grapheme before it. A line without backspaces is what it is (`typed_eq_self`).

The length of each grapheme is kept in one byte. A grapheme longer than that is taken back in part.
-/

namespace TemplateExpr.Console

/-- The key that takes back what was typed before it. -/
def backspace : Char := '\x08'

/-- What has been typed of a line. -/
structure Typed where
  /-- The characters that are kept, the last of them first. -/
  kept : List Char
  /-- The lengths in bytes of the graphemes that can be taken back, the last of them first. -/
  lengths : List Nat

/-- How many lengths of graphemes can be told apart. -/
def lengthsInByte : Nat := 256

/-- The length of a text in bytes. -/
def byteLength (cs : List Char) : Nat := cs.foldl (fun n c => n + c.utf8Size) 0

/-- Characters without the first ones, as many as make up the given number of bytes. -/
def dropBytes : Nat → List Char → List Char
  | 0, cs => cs
  | _, [] => []
  | n, c :: cs => dropBytes (n - c.utf8Size) cs

namespace Typed

/-- Types one more grapheme. -/
def push (line : Typed) (grapheme : List Char) : Typed :=
  if grapheme = [backspace] then
    match line.lengths with
    | [] => line
    | n :: lengths => ⟨dropBytes n line.kept, lengths⟩
  else
    ⟨grapheme.reverse ++ line.kept, byteLength grapheme % lengthsInByte :: line.lengths⟩

theorem kept_foldl_push {graphemes : List (List Char)} (h : [backspace] ∉ graphemes)
    (line : Typed) : (graphemes.foldl push line).kept = graphemes.flatten.reverse ++ line.kept := by
  induction graphemes generalizing line with
  | nil => rfl
  | cons grapheme graphemes ih =>
    simp only [List.mem_cons, not_or] at h
    rw [List.foldl_cons, ih h.2, push, if_neg (Ne.symm h.1)]
    simp

end Typed

/-- What is left of a line after its backspaces. -/
def typedChars (cs : List Char) : List Char :=
  ((Text.graphemes cs).foldl Typed.push ⟨[], []⟩).kept.reverse

/-- What is left of a line after its backspaces. -/
def typed (line : String) : String := .ofList (typedChars line.toList)

/-- The lines of an input. -/
def linesOf (input : String) : List String := (input.splitOn "\n").map typed

theorem typedChars_eq_self {cs : List Char} (h : backspace ∉ cs) : typedChars cs = cs := by
  have hnone : [backspace] ∉ Text.graphemes cs := fun hmem => h <| by
    rw [← Text.flatten_graphemes cs]
    exact List.mem_flatten.mpr ⟨_, hmem, List.mem_singleton_self _⟩
  rw [typedChars, Typed.kept_foldl_push hnone, List.append_nil, List.reverse_reverse,
    Text.flatten_graphemes]

theorem typed_eq_self {line : String} (h : backspace ∉ line.toList) : typed line = line := by
  rw [typed, typedChars_eq_self h, String.ofList_toList]

end TemplateExpr.Console
