/-!
# White space

White space is Unicode's property `White_Space`: the ASCII blanks and line breaks, the next-line
control, the no-break space and the spaces of fixed width. The byte order mark and the zero-width
space are not in it.
-/

namespace TemplateExpr.Text

/-- The characters of the property `White_Space`. -/
def isBlank (c : Char) : Bool :=
  let n := c.toNat
  (9 ≤ n && n ≤ 13) || n == 0x20 || n == 0x85 || n == 0xA0 || n == 0x1680
    || (0x2000 ≤ n && n ≤ 0x200A) || n == 0x2028 || n == 0x2029 || n == 0x202F
    || n == 0x205F || n == 0x3000

/-- Drops the blanks at the front. -/
def trimStart (cs : List Char) : List Char := cs.dropWhile isBlank

/-- Drops the blanks at the back. -/
def trimEnd (cs : List Char) : List Char := (cs.reverse.dropWhile isBlank).reverse

/-- Drops the blanks at both ends. -/
def trim (cs : List Char) : List Char := trimEnd (trimStart cs)

/-- A text without the blanks at its ends. -/
def trimmed (s : String) : String := .ofList (trim s.toList)

@[simp] theorem trim_nil : trim [] = [] := rfl

end TemplateExpr.Text
