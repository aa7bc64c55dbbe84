import TemplateExpr.Proofs.Number.Readings
import TemplateExpr.Value.Coercion

/-!
# Which texts are numbers

The texts that number coercion is meant to take for numbers are the empty one, an infinity,
hexadecimal digits behind their mark, and decimal literals (`NumberText`). It takes these, and no
others but one kind: a sign may stand between the mark and the hexadecimal digits
(`toNumber_string_ne_nan_iff`). The sign is not let through by coercion itself, which looks at
the characters of decimal texts only; it is the reading of whole numbers that takes one.
-/

namespace TemplateExpr

open Number

/-! ## Grammar -/

/-- Hexadecimal digits behind their mark, of a value below `2^63`. -/
def IsHexadecimal (cs : List Char) : Prop :=
  ∃ mark digits, (mark = 'x' ∨ mark = 'X') ∧ cs = '0' :: mark :: digits ∧ digits ≠ [] ∧
    (∀ c ∈ digits, isHexDigit c) ∧ ofHexDigits digits < 0x8000000000000000

/-- Hexadecimal digits behind their mark and a sign, of a value that has 64 bits. -/
def IsSignedHexadecimal (cs : List Char) : Prop :=
  ∃ mark sign digits, (mark = 'x' ∨ mark = 'X') ∧ (sign = '+' ∨ sign = '-') ∧
    cs = '0' :: mark :: sign :: digits ∧ digits ≠ [] ∧ (∀ c ∈ digits, isHexDigit c) ∧
    (ofHexDigits digits < 0x8000000000000000 ∨
      sign = '-' ∧ ofHexDigits digits = 0x8000000000000000)

/-- The texts that are numbers, without blanks around them. -/
inductive NumberText (cs : List Char) : Prop where
  | empty (h : cs = [])
  | infinity (h : IsInfinity cs)
  | hexadecimal (h : IsHexadecimal cs)
  | decimal (l : Literal) (h : l.text = cs)

/-! ## Hexadecimal texts -/

/-- No text is hexadecimal that starts with anything but a zero. -/
theorem not_hexadecimal_of_head? {cs : List Char} (h : cs.head? ≠ some '0') :
    ¬ IsHexadecimal cs ∧ ¬ IsSignedHexadecimal cs := by
  constructor
  · rintro ⟨mark, digits, -, rfl, -⟩
    exact h rfl
  · rintro ⟨mark, sign, digits, -, -, rfl, -⟩
    exact h rfl

/-- Behind the mark there are hexadecimal digits only. -/
theorem not_isHexadecimal_of_not_digit {mark c : Char} {cs : List Char} (h : ¬ isHexDigit c) :
    ¬ IsHexadecimal ('0' :: mark :: c :: cs) := by
  rintro ⟨_, _, -, hcs, -, hdigits, -⟩
  cases hcs
  exact h (hdigits c List.mem_cons_self)

namespace Number

theorem not_isSign_of_isHexDigit {c : Char} (h : isHexDigit c) : ¬ isSign c := by
  rw [isSign_iff]
  rintro (rfl | rfl) <;> revert h <;> decide

/-- What is read as a whole number of 64 bits, once its sign is taken off. -/
theorem isSome_hexInteger?_of_scanSign {cs digits : List Char} {negative : Bool}
    (hscan : scanSign cs = (negative, digits)) :
    (hexInteger? cs).isSome ↔
      digits ≠ [] ∧ (∀ c ∈ digits, isHexDigit c) ∧
        (ofHexDigits digits < 0x8000000000000000 ∨
          negative ∧ ofHexDigits digits = 0x8000000000000000) := by
  unfold hexInteger?
  rw [hscan]
  by_cases hdigits : digits ≠ [] ∧ ∀ c ∈ digits, isHexDigit c
  · have hrefused : (digits.isEmpty || !digits.all isHexDigit) = false := by
      simpa [List.all_eq_true] using hdigits
    simp only [hrefused, Bool.false_eq_true, if_false, hdigits.1, ne_eq, not_false_eq_true,
      true_and]
    rw [and_iff_right hdigits.2]
    cases negative with
    | false =>
      simp only [Bool.false_eq_true, if_false, false_and, or_false]
      split <;> simp_all
    | true =>
      simp only [if_true, true_and, ← Nat.le_iff_lt_or_eq]
      split <;> simp_all
  · have hrefused : (digits.isEmpty || !digits.all isHexDigit) = true := by
      rw [Bool.or_eq_true, List.isEmpty_iff, Bool.not_eq_true', List.all_eq_false]
      simpa [imp_iff_not_or] using hdigits
    simp only [hrefused, if_true, ← and_assoc, hdigits, false_and]
    simp

theorem isSome_hexInteger?_iff {cs : List Char} :
    (hexInteger? cs).isSome ↔
      ∃ sign digits, IsSign sign ∧ cs = sign ++ digits ∧ digits ≠ [] ∧
        (∀ c ∈ digits, isHexDigit c) ∧
        (ofHexDigits digits < 0x8000000000000000 ∨
          sign = ['-'] ∧ ofHexDigits digits = 0x8000000000000000) := by
  constructor
  · intro h
    obtain ⟨sign, hsign, hcs, hnegative⟩ := exists_isSign_append cs
    have hscan : scanSign cs = (decide (sign = ['-']), (scanSign cs).2) := Prod.ext hnegative rfl
    rw [isSome_hexInteger?_of_scanSign hscan, decide_eq_true_eq] at h
    exact ⟨sign, _, hsign, hcs.symm, h⟩
  · rintro ⟨sign, digits, hsign, rfl, hread⟩
    have hscan : scanSign (sign ++ digits) = (decide (sign = ['-']), digits) :=
      scanSign_append hsign fun c hc =>
        not_isSign_of_isHexDigit (hread.2.1 c (List.mem_of_mem_head? hc))
    rwa [isSome_hexInteger?_of_scanSign hscan, decide_eq_true_eq]

theorem afterHexMark?_eq_some_iff {cs digits : List Char} :
    afterHexMark? cs = some digits ↔
      ∃ mark, (mark = 'x' ∨ mark = 'X') ∧ cs = '0' :: mark :: digits := by
  constructor
  · intro h
    unfold afterHexMark? at h
    split at h
    next => exact ⟨'x', .inl rfl, by cases h; rfl⟩
    next => exact ⟨'X', .inr rfl, by cases h; rfl⟩
    next => cases h
  · rintro ⟨mark, rfl | rfl, rfl⟩ <;> rfl

end Number

/-- What is read behind the mark has the digits of the grammar, or a sign in front of them. -/
theorem hexadecimal_iff {cs : List Char} :
    (∃ digits, afterHexMark? cs = some digits ∧ (hexInteger? digits).isSome) ↔
      IsHexadecimal cs ∨ IsSignedHexadecimal cs := by
  simp only [afterHexMark?_eq_some_iff, isSome_hexInteger?_iff]
  constructor
  · rintro ⟨_, ⟨mark, hmark, rfl⟩, _, digits, rfl | rfl | rfl, rfl, hne, hdigits, hvalue⟩
    · exact .inl ⟨mark, _, hmark, rfl, hne, hdigits, hvalue.resolve_right (by simp)⟩
    · exact .inr ⟨mark, '+', digits, hmark, .inl rfl, rfl, hne, hdigits, hvalue.imp_right (by simp)⟩
    · exact .inr ⟨mark, '-', digits, hmark, .inr rfl, rfl, hne, hdigits, hvalue.imp_right (by simp)⟩
  · rintro (⟨mark, digits, hmark, rfl, hne, hdigits, hvalue⟩ |
      ⟨mark, sign, digits, hmark, hsign, rfl, hne, hdigits, hvalue⟩)
    · exact ⟨_, ⟨mark, hmark, rfl⟩, [], digits, .inl rfl, rfl, hne, hdigits, .inl hvalue⟩
    · refine ⟨_, ⟨mark, hmark, rfl⟩, [sign], digits, ?_, rfl, hne, hdigits, by simpa using hvalue⟩
      rcases hsign with rfl | rfl
      exacts [.inr (.inl rfl), .inr (.inr rfl)]

/-! ## Coercion -/

/-- **Coercion takes the texts of the grammar for numbers**, and those with a sign between the mark
and the digits of a hexadecimal number. -/
theorem toNumber_string_ne_nan_iff (s : String) :
    (Value.string s).toNumber ≠ .nan ↔
      NumberText (Text.trim s.toList) ∨ IsSignedHexadecimal (Text.trim s.toList) := by
  rw [Value.toNumber, ofText_ne_nan_iff, hexadecimal_iff]
  constructor
  · rintro (hempty | hinfinity | (hhex | hsigned) | ⟨l, hliteral⟩)
    exacts [.inl (.empty hempty), .inl (.infinity hinfinity), .inl (.hexadecimal hhex),
      .inr hsigned, .inl (.decimal l hliteral)]
  · rintro ((hempty | hinfinity | hhex | ⟨l, hliteral⟩) | hsigned)
    exacts [.inl hempty, .inr (.inl hinfinity), .inr (.inr (.inl (.inl hhex))),
      .inr (.inr (.inr ⟨l, hliteral⟩)), .inr (.inr (.inl (.inr hsigned)))]

/-- The text `0x-1F` is not in the grammar, but coercion takes it for a number. -/
theorem not_toNumber_string_ne_nan_iff_numberText :
    ¬ ∀ s, (Value.string s).toNumber ≠ .nan ↔ NumberText (Text.trim s.toList) := by
  intro h
  have hnumber : (Value.string "0x-1F").toNumber ≠ .nan := by decide +kernel
  rcases (h "0x-1F").mp hnumber with hempty | ⟨sign, hsign, hinfinity⟩ | hhex | ⟨l, hliteral⟩
  · exact absurd hempty (by decide)
  · revert hinfinity
    rcases hsign with rfl | rfl | rfl <;> decide
  · have hsign : ¬ IsHexadecimal ['0', 'x', '-', '1', 'F'] :=
      not_isHexadecimal_of_not_digit (by decide)
    exact hsign hhex
  · have hmark : 'x' ∈ l.text := by
      rw [hliteral]
      decide
    exact l.not_mem_text (by decide) hmark

end TemplateExpr
