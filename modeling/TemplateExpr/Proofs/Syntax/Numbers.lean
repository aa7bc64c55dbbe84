import TemplateExpr.Proofs.Number.Written
import TemplateExpr.Proofs.Syntax.Extent
import TemplateExpr.Proofs.Syntax.Sources
import TemplateExpr.Value.Coercion

/-!
# Numbers in the source of expressions

The lexer has a grammar for numbers of its own. What it takes for a number token is the same number
as a text (`ofText_lexeme`), and what is written for a number that is not negative is one token,
which is that number again (`tokenize_text`). So a number that is written comes back from each of
the three readings, of a whole text, of the front of one, and of source (`readers_undo_writer`).
-/

namespace TemplateExpr

open Number

/-! ## A literal is one token -/

namespace Lexer

theorem scanFraction_tail (l : Literal) (hfraction : ∀ digits ∈ l.fraction, digits ≠ []) :
    scanFraction l.tail = (fractionText l.fraction, exponentText l.exponent) := by
  unfold Literal.tail
  cases hdigits : l.fraction with
  | none =>
    have hpoint := not_point_head_exponentText l.exponent
    refine scanFraction_eq_nil fun c d rest hcs hpair => hpoint c ?_ hpair.1
    rw [show exponentText l.exponent = c :: d :: rest from hcs]
    rfl
  | some digits =>
    obtain ⟨d, ds, rfl⟩ := List.exists_cons_of_ne_nil (hfraction _ hdigits)
    obtain ⟨hd, hds⟩ := List.forall_mem_cons.mp (l.isDigits_fraction _ hdigits)
    have hstop := not_isDigit_head_exponentText l.exponent
    simp only [fractionText, Option.elim_some, List.cons_append, scanFraction, hd, if_true,
      takeWhile_append_of_stop hds hstop, dropWhile_append_of_stop hds hstop]

theorem scanExponent_exponentText (exponent : Option Exponent) :
    scanExponent (exponentText exponent) = (exponentText exponent, []) := by
  cases exponent with
  | none => rfl
  | some e =>
    obtain ⟨d, ds, hcons⟩ := List.exists_cons_of_ne_nil e.digits_ne_nil
    have hall : IsDigits (d :: ds) := hcons ▸ e.isDigits
    obtain ⟨hd, hds⟩ := List.forall_mem_cons.mp hall
    have htake {cs : List Char} (h : IsDigits cs) :
        cs.takeWhile Char.isDigit = cs ∧ cs.dropWhile Char.isDigit = [] :=
      Prod.ext_iff.mp (scanDigits_of_isDigits h)
    -- Either a sign or the first digit follows the letter.
    rcases e.isSign_sign with hsign | hsign | hsign <;>
      simp [exponentText, Exponent.text, hsign, hcons, scanExponent, e.letter_eq, hd, htake hds,
        htake hall]

/-- A literal without a sign that starts with a digit, and has a digit behind its point, is taken as
a whole. -/
theorem exists_scanNumber_eq {l : Literal} (hsign : l.sign = []) (hwhole : l.whole ≠ [])
    (hfraction : ∀ digits ∈ l.fraction, digits ≠ []) :
    ∃ first rest, l.text = first :: rest ∧ first.isDigit
      ∧ scanNumber first rest = ⟨.ok (.number l.value), l.text, []⟩ := by
  obtain ⟨first, others, hcons⟩ := List.exists_cons_of_ne_nil hwhole
  have hall : IsDigits (first :: others) := hcons ▸ l.isDigits_whole
  obtain ⟨hfirst, hothers⟩ := List.forall_mem_cons.mp hall
  have htext : l.text = first :: (others ++ l.tail) := by
    rw [Literal.text, hsign, hcons]
    rfl
  have hpoint : first ≠ '.' := ne_point_of_isDigit hfirst
  have hmark : first = '0' → ∀ x ∈ (others ++ l.tail).head?, ¬ (x = 'x' ∨ x = 'X') := by
    intro _ x hx hmark
    have hmem : x ∈ l.text := htext ▸ List.mem_cons_of_mem _ (List.mem_of_mem_head? hx)
    rcases hmark with rfl | rfl <;> exact l.not_mem_text (by decide) hmem
  refine ⟨first, _, htext, hfirst, ?_⟩
  rw [scanNumber_eq_scanDecimal hmark, scanDecimal_eq,
    takeWhile_append_of_stop hothers l.not_isDigit_head_tail,
    dropWhile_append_of_stop hothers l.not_isDigit_head_tail]
  have hread :
      first :: (others ++ fractionText l.fraction ++ exponentText l.exponent) = l.text := by
    rw [htext, Literal.tail, List.append_assoc]
  simp only [fractionBehind, if_neg hpoint, scanFraction_tail l hfraction,
    scanExponent_exponentText, hread, numeralOutcome, l.ofNumeral?_text]

end Lexer

theorem tokenize_literal {l : Literal} (hsign : l.sign = []) (hwhole : l.whole ≠ [])
    (hfraction : ∀ digits ∈ l.fraction, digits ≠ []) :
    tokenize (.ofList l.text) = .ok [⟨.number l.value, 0, .ofList l.text⟩] := by
  obtain ⟨first, rest, htext, hfirst, hscan⟩ := Lexer.exists_scanNumber_eq hsign hwhole hfraction
  have hquote : ¬ (first = '"' ∨ first = '\'') := by
    rintro (rfl | rfl) <;> exact absurd hfirst (by decide)
  have htoken : Lexer.scanToken first rest = ⟨.ok (.number l.value), l.text, []⟩ := by
    rw [Lexer.scanToken_eq, if_neg hquote, if_pos (.inl hfirst), hscan]
  rw [tokenize_eq_ok_iff, String.toList_ofList]
  have hlexes := @Lexer.Lexes.token 0 [] rest first (.number l.value) [] isGap_nil
    (not_isBlank_of_isDigit hfirst) (by rw [htoken]) (by rw [htoken]; exact .stop isGap_nil)
  simpa [htoken, htext] using hlexes

/-- A number that is not below zero has no minus, unless it is a zero. -/
theorem negative_eq_false {x : Finite} (h : Number.atMost 0 (.finite x))
    (hzero : x.significand ≠ 0) : x.negative = false := by
  have hnatural : (0 : Number) = .finite (.zero false) := ofInt_zero
  have hunits := Finite.two_pow_le_units hzero
  have hpow := Nat.two_pow_pos x.scale
  rw [hnatural] at h
  rw [Bool.eq_false_iff]
  intro hnegative
  have hsigned : x.signed < (Finite.zero false).signed := by
    rw [Finite.signed, if_pos hnegative, Finite.signed, Finite.units_zero]
    simp [Finite.zero]
    omega
  have hcompare : Number.compare? (.finite (.zero false)) (.finite x) = some .gt := by
    rw [Number.compare?, Option.some.injEq]
    exact compare_gt_iff_gt.mpr hsigned
  simp [Number.atMost, hcompare] at h

/-- What is written for a number that is not negative is one token, which is that number. -/
theorem tokenize_text {n : Number} (hfinite : n.isFinite) (hnonneg : Number.atMost 0 n) :
    tokenize n.text = .ok [⟨.number n.readBack, 0, n.text⟩] := by
  cases n with
  | nan | infinite => cases hfinite
  | finite x =>
    by_cases hzero : x.significand = 0
    · rw [x.eq_zero hzero, ← Number.zero, text_zero, readBack_zero, ← Literal.value_zero]
      exact tokenize_literal rfl (by decide) (by simp [Literal.zero])
    · obtain ⟨l, htext, hvalue, hsign, hwhole, hfraction⟩ := exists_literal_chars hzero
      rw [negative_eq_false hnonneg hzero] at hsign
      rw [readBack_finite hzero, Number.text, Layout.text, ← htext, ← hvalue]
      exact tokenize_literal hsign hwhole hfraction

/-! ## Number tokens as texts -/

namespace Lexer

/-- A number that a scanner makes is the number that the characters it took are as a text. -/
def Denotes (scan : Scan TokenKind) : Prop :=
  ∀ n, scan.outcome = .ok (.number n) → Number.ofText (.ofList scan.read) = n

variable {c : Char} {cs : List Char}

theorem denotes_scanDecimal : Denotes (scanNumber.scanDecimal c cs) := by
  intro n h
  simp only [scanDecimal_eq, numeralOutcome] at h ⊢
  split at h
  next hread =>
    cases h
    obtain ⟨l, htext, hvalue⟩ := exists_literal_of_ofNumeral? hread
    rw [← htext, l.ofText_text, hvalue]
  next => cases h

theorem ofText_hexadecimal {mark : Char} {digits : List Char} {i : Int}
    (hmark : mark = 'x' ∨ mark = 'X') (hdigits : ∀ c ∈ digits, Number.isHexDigit c)
    (hread : Number.hexInteger? digits = some i) :
    Number.ofText (.ofList ('0' :: mark :: digits)) = .ofInt i := by
  have htrim : Text.trim ('0' :: mark :: digits) = '0' :: mark :: digits := by
    refine Text.trim_eq_self (List.forall_mem_cons.mpr ⟨by decide, List.forall_mem_cons.mpr ⟨?_,
      fun c hc => not_isBlank_of_isHexDigit (hdigits c hc)⟩⟩)
    rcases hmark with rfl | rfl <;> decide
  have hafter : Number.afterHexMark? ('0' :: mark :: digits) = some digits := by
    rcases hmark with rfl | rfl <;> rfl
  have hvalue : ((Number.hexInteger? digits).map Number.ofInt).getD .nan = .ofInt i := by
    rw [hread, Option.map_some, Option.getD_some]
  have hword (word : List Char) (h : word.head? ≠ some '0') : '0' :: mark :: digits ≠ word := by
    rintro rfl
    exact h rfl
  unfold Number.ofText
  simp only [String.toList_ofList, htrim, hafter, hvalue, List.isEmpty_cons, Bool.false_eq_true,
    if_false, hword _ (show "Infinity".toList.head? ≠ _ by decide),
    hword _ (show "+Infinity".toList.head? ≠ _ by decide),
    hword _ (show "-Infinity".toList.head? ≠ _ by decide), or_self]

theorem denotes_scanNumber : Denotes (scanNumber c cs) := by
  fun_cases scanNumber c cs with
  | case1 x rest hmark digits outcome =>
    intro n h
    simp only [outcome] at h ⊢
    split at h
    next i hread =>
      cases h
      exact ofText_hexadecimal hmark (fun c hc => List.mem_takeWhile_imp hc) hread
    next => cases h
  | case2 => exact denotes_scanDecimal
  | case3 => exact denotes_scanDecimal

theorem denotes_scanToken : Denotes (scanToken c cs) := by
  fun_cases scanToken c cs with
  | case1 _ scan =>
    intro n h
    simp only at h
    cases hvalue : scan.outcome <;> rw [hvalue] at h <;> cases h
  | case2 => exact denotes_scanNumber
  | case3 =>
    intro n h
    simp only [scanWord] at h
    split at h <;> cases h
  | case4 =>
    unfold Denotes
    fun_cases scanSymbol c cs <;> intro n h <;> cases h

theorem Lexes.denotes {position : Nat} {found : List (Except ExprError Token)}
    (h : Lexes position cs found) {t : Token} {n : Number} (ht : .ok t ∈ found)
    (hkind : t.kind = .number n) : Number.ofText t.lexeme = n := by
  induction h with
  | stop => cases ht
  | token _ _ hscan _ ih =>
    rcases List.mem_cons.mp ht with heq | ht
    · cases heq
      cases hkind
      exact denotes_scanToken _ hscan
    · exact ih ht
  | malformed _ _ _ _ ih =>
    rcases List.mem_cons.mp ht with heq | ht
    · cases heq
    · exact ih ht

end Lexer

/-- What the lexer takes for a number is the same number as a text. -/
theorem ofText_lexeme {text : String} {t : Token} {n : Number} (ht : .ok t ∈ lex text)
    (hkind : t.kind = .number n) : Number.ofText t.lexeme = n :=
  (lexes_lex text).denotes ht hkind

/-! ## All readings -/

/-- **All readings undo the one writing.** A number is read from its text as it was, but for the
sign of a zero, as a whole text and at the front of one. If it is finite and not negative, it is one
token in the source of an expression. And a number token of any source, hexadecimal or decimal,
malformed tokens beside it or not, is the number that its characters are as a text. -/
theorem readers_undo_writer :
    (∀ n : Number, (Value.string n.text).toNumber = n.readBack ∧
      (Value.string n.text).leadingNumber = n.readBack) ∧
    (∀ n : Number, n.isFinite → Number.atMost 0 n →
      tokenize n.text = .ok [⟨.number n.readBack, 0, n.text⟩]) ∧
    ∀ (text : String) (t : Token) (n : Number), .ok t ∈ lex text → t.kind = .number n →
      (Value.string t.lexeme).toNumber = n :=
  ⟨fun n => ⟨ofText_text n, ofLeading_text n⟩, fun _ => tokenize_text, fun _ _ _ => ofText_lexeme⟩

/-- The first number that is written with an exponent, and a number in hexadecimal. -/
theorem readers_undo_writer_of_exponent_and_hexadecimal :
    tokenize "1e+21" = .ok [⟨.number 1000000000000000000000, 0, "1e+21"⟩] ∧
      (Value.string "0x1F").toNumber = 31 := by
  have htext : (1000000000000000000000 : Number).text = "1e+21" := by decide +kernel
  have hread : (1000000000000000000000 : Number).readBack = 1000000000000000000000 := by
    decide +kernel
  have hlex : .ok ⟨.number 31, 0, "0x1F"⟩ ∈ lex "0x1F" := by decide +kernel
  obtain ⟨-, hwritten, hlexeme⟩ := readers_undo_writer
  have htoken := hwritten 1000000000000000000000 (by decide +kernel) (by decide +kernel)
  rw [htext, hread] at htoken
  exact ⟨htoken, hlexeme "0x1F" ⟨.number 31, 0, "0x1F"⟩ 31 hlex rfl⟩

end TemplateExpr
