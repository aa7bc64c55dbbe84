import TemplateExpr.Number.Numeral
import TemplateExpr.Proofs.Text.Runs

/-!
# Decimal literals

A decimal literal is an optional sign; digits with at most one point among or around them, one
digit at least; and an optional exponent, a letter with an optional sign and digits behind it. What
is read as a numeral is these texts and no others (`ofNumeral?_eq_some_iff`), and the number that is
read is the double nearest to what the parts denote.
-/

namespace TemplateExpr.Number

/-! ## Parts of a literal -/

/-- Decimal digits and nothing else. -/
def IsDigits (cs : List Char) : Prop := ∀ c ∈ cs, c.isDigit

theorem isDigits_append {front back : List Char} :
    IsDigits (front ++ back) ↔ IsDigits front ∧ IsDigits back :=
  List.forall_mem_append

/-- A plus, a minus, or nothing. -/
def IsSign (cs : List Char) : Prop := cs = [] ∨ cs = ['+'] ∨ cs = ['-']

theorem isSign_nil : IsSign [] := .inl rfl

/-- The exponent of a decimal literal. -/
structure Exponent where
  letter : Char
  sign : List Char
  digits : List Char
  letter_eq : letter = 'e' ∨ letter = 'E'
  isSign_sign : IsSign sign
  isDigits : IsDigits digits
  digits_ne_nil : digits ≠ []

/-- A decimal literal. -/
structure Literal where
  sign : List Char
  /-- The digits in front of the point. -/
  whole : List Char
  /-- The digits behind the point, if there is a point. -/
  fraction : Option (List Char)
  exponent : Option Exponent
  isSign_sign : IsSign sign
  isDigits_whole : IsDigits whole
  isDigits_fraction : ∀ digits ∈ fraction, IsDigits digits
  /-- There is a digit in front of the point or behind it. -/
  has_digit : whole ≠ [] ∨ ∃ digits ∈ fraction, digits ≠ []

def Exponent.text (exponent : Exponent) : List Char :=
  exponent.letter :: (exponent.sign ++ exponent.digits)

def Exponent.value (exponent : Exponent) : Int :=
  if exponent.sign = ['-'] then -(exponentSize exponent.digits : Int)
  else exponentSize exponent.digits

/-- A point with digits behind it, if there is one. -/
def fractionText (fraction : Option (List Char)) : List Char := fraction.elim [] ('.' :: ·)

/-- An exponent, if there is one. -/
def exponentText (exponent : Option Exponent) : List Char := exponent.elim [] Exponent.text

namespace Literal

/-- What stands behind the digits in front of the point. -/
def tail (l : Literal) : List Char := fractionText l.fraction ++ exponentText l.exponent

def text (l : Literal) : List Char := l.sign ++ (l.whole ++ l.tail)

/-- The number of digits behind the point. -/
def places (l : Literal) : Nat := (l.fraction.getD []).length

/-- The digits as one natural number. -/
def digits (l : Literal) : Nat := Nat.ofDigitChars 10 (l.whole ++ l.fraction.getD []) 0

/-- The power of ten that the digits count. -/
def power (l : Literal) : Int := l.exponent.elim 0 Exponent.value - l.places

/-- The double nearest to what the literal denotes. -/
def value (l : Literal) : Number := ofDecimal (l.sign = ['-']) l.digits l.power

end Literal

/-! ## A literal is read as a numeral -/

section

variable {sign digits cs : List Char}

theorem isSign_iff {c : Char} : isSign c ↔ c = '+' ∨ c = '-' := by simp [isSign]

theorem scanSign_append (hsign : IsSign sign) (hcs : ∀ c ∈ cs.head?, ¬ isSign c) :
    scanSign (sign ++ cs) = (decide (sign = ['-']), cs) := by
  rcases hsign with rfl | rfl | rfl
  · rw [List.nil_append]
    unfold scanSign
    split
    · exact absurd rfl (hcs '-' rfl)
    · exact absurd rfl (hcs '+' rfl)
    · rfl
  · rfl
  · rfl

theorem takeSign_append (hsign : IsSign sign) (hcs : ∀ c ∈ cs.head?, ¬ isSign c) :
    takeSign (sign ++ cs) = (sign, cs) := by
  rcases hsign with rfl | rfl | rfl
  · cases cs with
    | nil => rfl
    | cons c cs => simp [takeSign, hcs c rfl]
  · rfl
  · rfl

theorem scanDigits_append_of_stop (hdigits : IsDigits digits) (hcs : ∀ c ∈ cs.head?, ¬ c.isDigit) :
    scanDigits (digits ++ cs) = (digits, cs) :=
  Prod.ext (takeWhile_append_of_stop hdigits hcs) (dropWhile_append_of_stop hdigits hcs)

theorem scanDigits_of_isDigits (hdigits : IsDigits digits) : scanDigits digits = (digits, []) := by
  have hscan : scanDigits (digits ++ []) = (digits, []) :=
    scanDigits_append_of_stop hdigits (by simp)
  rwa [List.append_nil] at hscan

theorem not_isSign_of_isDigit {c : Char} (h : c.isDigit) : ¬ isSign c := by
  rw [isSign_iff]
  rintro (rfl | rfl) <;> revert h <;> decide

theorem not_isSign_head_of_isDigits (hdigits : IsDigits digits) :
    ∀ c ∈ digits.head?, ¬ isSign c :=
  fun _ hc => not_isSign_of_isDigit (hdigits _ (List.mem_of_mem_head? hc))

end

theorem head_exponentText (exponent : Option Exponent) :
    ∀ c ∈ (exponentText exponent).head?, c = 'e' ∨ c = 'E' := by
  cases exponent with
  | none => simp [exponentText]
  | some exponent =>
    rintro c ⟨⟩
    exact exponent.letter_eq

theorem not_isDigit_head_exponentText (exponent : Option Exponent) :
    ∀ c ∈ (exponentText exponent).head?, ¬ c.isDigit := by
  intro c hc
  rcases head_exponentText exponent c hc with rfl | rfl <;> decide

theorem not_point_head_exponentText (exponent : Option Exponent) :
    ∀ c ∈ (exponentText exponent).head?, c ≠ '.' := by
  intro c hc
  rcases head_exponentText exponent c hc with rfl | rfl <;> decide

theorem scanExponent_cons {letter : Char} (hletter : letter = 'e' ∨ letter = 'E')
    (cs : List Char) :
    scanExponent (letter :: cs)
      = if (scanDigits (scanSign cs).2).1.isEmpty then (0, letter :: cs)
        else
          (if (scanSign cs).1 then -(exponentSize (scanDigits (scanSign cs).2).1 : Int)
            else exponentSize (scanDigits (scanSign cs).2).1,
            (scanDigits (scanSign cs).2).2) := by
  rcases hletter with rfl | rfl <;> rfl

theorem scanExponent_cons_of_ne {letter : Char} (hletter : ¬ (letter = 'e' ∨ letter = 'E'))
    (cs : List Char) : scanExponent (letter :: cs) = (0, letter :: cs) := by
  unfold scanExponent
  split
  next h => exact absurd (.inl (List.cons.inj h).1) hletter
  next h => exact absurd (.inr (List.cons.inj h).1) hletter
  · rfl

theorem scanExponent_text (exponent : Exponent) :
    scanExponent exponent.text = (exponent.value, []) := by
  have hsign : scanSign (exponent.sign ++ exponent.digits)
      = (decide (exponent.sign = ['-']), exponent.digits) :=
    scanSign_append exponent.isSign_sign (not_isSign_head_of_isDigits exponent.isDigits)
  have hdigits := scanDigits_of_isDigits exponent.isDigits
  simp [Exponent.text, scanExponent_cons exponent.letter_eq, hsign, hdigits,
    exponent.digits_ne_nil, Exponent.value]

theorem scanExponent_exponentText (exponent : Option Exponent) :
    scanExponent (exponentText exponent) = (exponent.elim 0 Exponent.value, []) := by
  cases exponent with
  | none => rfl
  | some exponent => exact scanExponent_text exponent

theorem scanMantissa_append {whole rest : List Char} {fraction : Option (List Char)}
    (hwhole : IsDigits whole) (hfraction : ∀ digits ∈ fraction, IsDigits digits)
    (hdigit : whole ≠ [] ∨ ∃ digits ∈ fraction, digits ≠ [])
    (hrest : ∀ c ∈ rest.head?, ¬ c.isDigit) (hpoint : ∀ c ∈ rest.head?, c ≠ '.') :
    scanMantissa (whole ++ (fractionText fraction ++ rest))
      = some ((Nat.ofDigitChars 10 (whole ++ fraction.getD []) 0, (fraction.getD []).length),
          rest) := by
  cases fraction with
  | none =>
    have hne : whole ≠ [] := hdigit.resolve_right (by simp)
    simp only [fractionText, Option.elim_none, List.nil_append, Option.getD_none, List.append_nil,
      List.length_nil, scanMantissa, scanDigits_append_of_stop hwhole hrest]
    split
    · exact absurd rfl (hpoint '.' rfl)
    · simp [hne]
  | some digits =>
    have hdigits := hfraction digits rfl
    have hscan : scanDigits (whole ++ '.' :: (digits ++ rest)) = (whole, '.' :: (digits ++ rest)) :=
      scanDigits_append_of_stop hwhole (by rintro c ⟨⟩; decide)
    have hne : (whole.isEmpty && digits.isEmpty) = false := by
      simpa [List.isEmpty_iff, imp_iff_not_or] using hdigit
    simp only [fractionText, Option.elim_some, List.cons_append, Option.getD_some, scanMantissa,
      hscan, scanDigits_append_of_stop hdigits hrest, hne, Bool.false_eq_true, if_false]

namespace Literal

variable (l : Literal)

theorem not_isSign_head : ∀ c ∈ (l.whole ++ l.tail).head?, ¬ Number.isSign c := by
  intro c hc
  rcases hwhole : l.whole with _ | ⟨d, ds⟩
  · obtain ⟨digits, hdigits, -⟩ := l.has_digit.resolve_left (by simp [hwhole])
    rw [Option.mem_def] at hdigits
    simp [hwhole, tail, hdigits, fractionText] at hc
    subst hc
    decide
  · obtain rfl : d = c := by simpa [hwhole] using hc
    exact not_isSign_of_isDigit (l.isDigits_whole d (by simp [hwhole]))

theorem not_isDigit_head_tail : ∀ c ∈ l.tail.head?, ¬ c.isDigit := by
  unfold tail
  cases l.fraction with
  | none => exact not_isDigit_head_exponentText _
  | some digits =>
    rintro c ⟨⟩
    decide

/-- A literal is read as the number that it denotes. -/
theorem ofNumeral?_text : ofNumeral? l.text = some l.value := by
  have hmantissa :
      scanMantissa (l.whole ++ l.tail) = some ((l.digits, l.places), exponentText l.exponent) :=
    scanMantissa_append l.isDigits_whole l.isDigits_fraction l.has_digit
      (not_isDigit_head_exponentText l.exponent) (not_point_head_exponentText l.exponent)
  simp only [ofNumeral?, scanNumeral, text, scanSign_append l.isSign_sign l.not_isSign_head,
    hmantissa, scanExponent_exponentText]
  rfl

end Literal

/-! ## What is read as a numeral is a literal -/

section

variable {cs rest : List Char}

theorem isDigits_scanDigits : IsDigits (scanDigits cs).1 :=
  fun _ hc => List.mem_takeWhile_imp hc

theorem exists_isSign_append (cs : List Char) :
    ∃ sign, IsSign sign ∧ sign ++ (scanSign cs).2 = cs
      ∧ (scanSign cs).1 = decide (sign = ['-']) := by
  unfold scanSign
  split
  · exact ⟨['-'], .inr (.inr rfl), rfl, rfl⟩
  · exact ⟨['+'], .inr (.inl rfl), rfl, rfl⟩
  · exact ⟨[], isSign_nil, rfl, rfl⟩

theorem exists_fraction_of_scanMantissa {digits places : Nat}
    (h : scanMantissa cs = some ((digits, places), rest)) :
    ∃ whole fraction, IsDigits whole ∧ (∀ ds ∈ fraction, IsDigits ds)
      ∧ (whole ≠ [] ∨ ∃ ds ∈ fraction, ds ≠ [])
      ∧ whole ++ (fractionText fraction ++ rest) = cs
      ∧ Nat.ofDigitChars 10 (whole ++ fraction.getD []) 0 = digits
      ∧ (fraction.getD []).length = places := by
  have hcs := scanDigits_append cs
  unfold scanMantissa at h
  dsimp only at h
  split at h
  next behind hbehind =>
    rw [hbehind] at hcs
    split at h
    · cases h
    next hne =>
      cases h
      refine ⟨_, some (scanDigits behind).1, isDigits_scanDigits, ?_, ?_, ?_, rfl, rfl⟩
      · rintro ds ⟨⟩
        exact isDigits_scanDigits
      · simpa [List.isEmpty_iff, imp_iff_not_or] using hne
      · simpa [fractionText, scanDigits_append] using hcs
  next =>
    split at h
    · cases h
    next hne =>
      cases h
      exact ⟨_, none, isDigits_scanDigits, by simp, .inl (by simpa using hne), hcs, by simp, rfl⟩

theorem exists_exponent_of_scanExponent {value : Int} (h : scanExponent cs = (value, [])) :
    ∃ exponent, exponentText exponent = cs ∧ exponent.elim 0 Exponent.value = value := by
  cases cs with
  | nil => exact ⟨none, rfl, congrArg Prod.fst h⟩
  | cons letter behind =>
    by_cases hletter : letter = 'e' ∨ letter = 'E'
    · obtain ⟨sign, hsign, hbehind, hnegative⟩ := exists_isSign_append behind
      have hdigits := scanDigits_append (scanSign behind).2
      rw [scanExponent_cons hletter] at h
      split at h
      · cases h
      next hne =>
        obtain ⟨hvalue, hrest⟩ := Prod.ext_iff.mp h
        dsimp only at hvalue hrest
        rw [hrest, List.append_nil] at hdigits
        refine ⟨some ⟨letter, sign, _, hletter, hsign, isDigits_scanDigits, by simpa using hne⟩, ?_,
          ?_⟩
        · simp only [exponentText, Option.elim_some, Exponent.text, hdigits, hbehind]
        · simpa [Exponent.value, hnegative] using hvalue
    · rw [scanExponent_cons_of_ne hletter] at h
      cases h

theorem exists_literal_of_ofNumeral? {n : Number} (h : ofNumeral? cs = some n) :
    ∃ l : Literal, l.text = cs ∧ l.value = n := by
  obtain ⟨sign, hsign, hcs, hnegative⟩ := exists_isSign_append cs
  unfold ofNumeral? scanNumeral at h
  dsimp only at h
  rcases hmantissa : scanMantissa (scanSign cs).2 with _ | ⟨⟨digits, places⟩, behind⟩
  · simp [hmantissa] at h
  · obtain ⟨whole, fraction, hwhole, hfraction, hdigit, hsplit, rfl, rfl⟩ :=
      exists_fraction_of_scanMantissa hmantissa
    rcases hexponent : scanExponent behind with ⟨value, rest⟩
    simp only [hmantissa, hexponent] at h
    cases rest with
    | cons _ _ => simp at h
    | nil =>
      obtain ⟨exponent, rfl, rfl⟩ := exists_exponent_of_scanExponent hexponent
      refine ⟨⟨sign, whole, fraction, exponent, hsign, hwhole, hfraction, hdigit⟩, ?_, ?_⟩
      · rw [Literal.text, Literal.tail, hsplit, hcs]
      · rw [hnegative] at h
        exact Option.some.inj h

/-- What is read as a numeral is the decimal literals. -/
theorem ofNumeral?_eq_some_iff {n : Number} :
    ofNumeral? cs = some n ↔ ∃ l : Literal, l.text = cs ∧ l.value = n := by
  refine ⟨exists_literal_of_ofNumeral?, ?_⟩
  rintro ⟨l, rfl, rfl⟩
  exact l.ofNumeral?_text

end

end TemplateExpr.Number
