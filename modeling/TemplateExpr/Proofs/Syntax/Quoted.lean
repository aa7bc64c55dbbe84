import TemplateExpr.Proofs.Syntax.Extent

/-!
# String literals of any text

Between quotes, with a backslash before each backslash and each quote of its kind, any text is a
literal (`quoted`). Escapes undo exactly that: the scan stops at the quote behind the text, for all
others have a backslash before them, and no backslash is one of another escape. So the literal is one
token, and its string is the text (`lex_quoted`).
-/

namespace TemplateExpr

/-- The characters that quote a literal. -/
def IsQuote (quote : Char) : Prop := quote = '"' ∨ quote = '\''

namespace Lexer

/-- A character of a text in a literal. -/
def quotedChar (quote c : Char) : List Char := if c = '\\' ∨ c = quote then ['\\', c] else [c]

/-- A text in a literal, with its closing quote behind it. -/
def quotedTail (quote : Char) (cs : List Char) : List Char :=
  cs.flatMap (quotedChar quote) ++ [quote]

end Lexer

/-- A text as a literal. -/
def quoted (quote : Char) (s : String) : String := .ofList (quote :: Lexer.quotedTail quote s.toList)

namespace Lexer

variable {quote : Char}

/-- No letter of an escape is a backslash or a quote. -/
theorem escaped_of_isQuote {c : Char} (h : c = '\\' ∨ IsQuote c) : c ≠ 'u' ∧ escaped c = c := by
  rcases h with rfl | rfl | rfl <;> exact ⟨by decide, rfl⟩

theorem scanString_escape {c : Char} (hc : c ≠ 'u') (cs : List Char) :
    scanString quote ('\\' :: c :: cs) = prepend (escaped c) ['\\', c] (scanString quote cs) := by
  rw [scanString]
  exact hc

/-- One character in a literal is scanned as that character. -/
theorem scanString_quotedChar (hquote : IsQuote quote) (c : Char) (cs : List Char) :
    scanString quote (quotedChar quote c ++ cs) =
      prepend c (quotedChar quote c) (scanString quote cs) := by
  unfold quotedChar
  split
  next hc =>
    obtain ⟨hu, hescaped⟩ := escaped_of_isQuote (hc.imp_right fun h => h ▸ hquote)
    rw [List.cons_append, List.singleton_append, scanString_escape hu, hescaped]
  next hc =>
    rw [List.singleton_append, scanString_cons (not_or.mp hc).1, if_neg (not_or.mp hc).2]

theorem quotedTail_cons (quote c : Char) (cs : List Char) :
    quotedTail quote (c :: cs) = quotedChar quote c ++ quotedTail quote cs := by
  simp [quotedTail]

/-- A text in a literal is scanned as that text, whatever stands behind its quote. -/
theorem scanString_quotedTail (hquote : IsQuote quote) (cs rest : List Char) :
    scanString quote (quotedTail quote cs ++ rest) = ⟨.ok cs, quotedTail quote cs, rest⟩ := by
  induction cs with
  | nil =>
    have hne : quote ≠ '\\' := by rcases hquote with rfl | rfl <;> decide
    exact (scanString_cons hne rest).trans (if_pos rfl)
  | cons c cs ih =>
    rw [quotedTail_cons, List.append_assoc, scanString_quotedChar hquote, ih]
    rfl

theorem scanToken_quoted (hquote : IsQuote quote) (s : String) (rest : List Char) :
    scanToken quote (quotedTail quote s.toList ++ rest) =
      ⟨.ok (.string s), (quoted quote s).toList, rest⟩ := by
  have hliteral : quote = '"' ∨ quote = '\'' := hquote
  rw [scanToken_eq, if_pos hliteral, scanString_quotedTail hquote, quoted, String.toList_ofList]
  simp [Except.map]

theorem not_isBlank_of_isQuote (hquote : IsQuote quote) : ¬ Text.isBlank quote := by
  rcases hquote with rfl | rfl <;> decide

/-- A literal within a text is one token. -/
theorem Lexes.quoted (hquote : IsQuote quote) (s : String) {position : Nat} {rest : List Char}
    {found : List (Except ExprError Token)}
    (more : Lexes (position + (TemplateExpr.quoted quote s).length) rest found) :
    Lexes position ((TemplateExpr.quoted quote s).toList ++ rest)
      (.ok ⟨.string s, position, TemplateExpr.quoted quote s⟩ :: found) := by
  have hscan := scanToken_quoted hquote s rest
  have htoken := @Lexes.token position [] (quotedTail quote s.toList ++ rest) quote (.string s) found
    isGap_nil (not_isBlank_of_isQuote hquote) (by rw [hscan])
    (by rw [hscan]; simpa [String.length_toList] using more)
  rw [hscan] at htoken
  simpa [TemplateExpr.quoted] using htoken

end Lexer

/-- **A text as a literal is one token, with the text for its string.** -/
theorem lex_quoted {quote : Char} (hquote : IsQuote quote) (s : String) :
    lex (quoted quote s) = [.ok ⟨.string s, 0, quoted quote s⟩] := by
  have hlexes := @Lexer.Lexes.quoted quote hquote s 0 [] [] (.stop isGap_nil)
  rw [List.append_nil] at hlexes
  exact hlexes.eq_lexFrom (Nat.le_refl _)

end TemplateExpr
