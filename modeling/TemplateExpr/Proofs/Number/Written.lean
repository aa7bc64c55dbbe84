import TemplateExpr.Number.Layout
import TemplateExpr.Proofs.Number.Readings
import TemplateExpr.Proofs.Number.Shortest

/-!
# A written number is a literal

In positional notation as well as with an exponent, what is written for the shortest digits of a
double is a decimal literal (`exists_spells_magnitude`). The digits of the literal may have zeros
behind them that stand for a power of ten, and its exponent has the places behind the point taken
off; either way it is read as the digits are. So a number comes back from its text as it was, but
for the sign of a zero, by every reading of literals that knows the words for the other numbers
(`read_text`).
-/

namespace TemplateExpr.Number

/-! ## Digits -/

theorem isDigits_toDigits (n : Nat) : IsDigits (Nat.toDigits 10 n) :=
  fun _ hc => Nat.isDigit_of_mem_toDigits (by decide) (by decide) hc

theorem isDigits_zeros (n : Nat) : IsDigits (Layout.zeros n) := by
  intro c hc
  rw [List.eq_of_mem_replicate hc]
  decide

/-- Digits, one at least, that denote a natural number. Zeros may stand in front of them. -/
structure DigitsOf (digits : List Char) (n : Nat) : Prop where
  isDigits : IsDigits digits
  ne_nil : digits ≠ []
  value : Nat.ofDigitChars 10 digits 0 = n

theorem digitsOf_toDigits (n : Nat) : DigitsOf (Nat.toDigits 10 n) n :=
  ⟨isDigits_toDigits n, Nat.toDigits_ne_nil, Nat.ofDigitChars_ten_toDigits⟩

namespace DigitsOf

variable {digits : List Char} {n : Nat} (h : DigitsOf digits n) (count : Nat)
include h

theorem zeros_append : DigitsOf (Layout.zeros count ++ digits) n where
  isDigits := isDigits_append.mpr ⟨isDigits_zeros count, h.isDigits⟩
  ne_nil := by simp [h.ne_nil]
  value := by
    rw [Layout.zeros, Nat.ofDigitChars_append, Nat.ofDigitChars_replicate_zero, Nat.mul_zero,
      h.value]

theorem append_zeros : DigitsOf (digits ++ Layout.zeros count) (n * 10 ^ count) where
  isDigits := isDigits_append.mpr ⟨h.isDigits, isDigits_zeros count⟩
  ne_nil := by simp [h.ne_nil]
  value := by
    rw [Layout.zeros, Nat.ofDigitChars_append, Nat.ofDigitChars_replicate_zero, h.value,
      Nat.mul_comm]

end DigitsOf

theorem le_ofDigitChars (cs : List Char) (n : Nat) : n ≤ Nat.ofDigitChars 10 cs n := by
  rw [Nat.ofDigitChars_eq_ofDigitChars_zero]
  have := Nat.le_mul_of_pos_left n (Nat.pow_pos (n := cs.length) (show 0 < 10 by decide))
  omega

/-- Digits that are left to read make a number ten times as large, so that what is read so far has
not reached the size where reading stops. -/
theorem exponentSize_eq {digits : List Char}
    (h : Nat.ofDigitChars 10 digits 0 < 10 * exponentEnough) :
    exponentSize digits = Nat.ofDigitChars 10 digits 0 := by
  have hread (cs : List Char) (n : Nat) (h : Nat.ofDigitChars 10 cs n < 10 * exponentEnough) :
      cs.foldl (fun n c => if n < exponentEnough then Nat.ofDigitChars 10 [c] n else n) n =
        Nat.ofDigitChars 10 cs n := by
    induction cs generalizing n with
    | nil => rfl
    | cons c cs ih =>
      have hle : 10 * n ≤ Nat.ofDigitChars 10 (c :: cs) n :=
        Nat.le_trans (Nat.le_add_right _ _) (le_ofDigitChars cs _)
      rw [List.foldl_cons, if_pos (by omega)]
      exact ih _ h
  exact hread digits 0 h

theorem exponentSize_toDigits {n : Nat} (h : n < exponentEnough) :
    exponentSize (Nat.toDigits 10 n) = n := by
  have hread := (digitsOf_toDigits n).value
  rw [exponentSize_eq (by omega), hread]

theorem ofDecimal_of_nonneg (negative : Bool) {digits : Nat} {exponent : Int} (hdigits : digits ≠ 0)
    (hexponent : 0 ≤ exponent) (hmost : exponent ≤ 400) :
    ofDecimal negative digits exponent
      = ofUnits negative (digits * 10 ^ exponent.toNat * unitsPerOne) := by
  rw [ofDecimal, if_neg hdigits, if_neg (by omega), if_neg (by omega), if_pos hexponent, Nat.pow_eq]

/-- Zeros behind the digits count like a power of ten. -/
theorem ofDecimal_mul_pow (negative : Bool) {digits : Nat} {exponent : Int} (hdigits : digits ≠ 0)
    (hexponent : 0 ≤ exponent) (hmost : exponent ≤ 400) :
    ofDecimal negative (digits * 10 ^ exponent.toNat) 0 = ofDecimal negative digits exponent := by
  have hpow : 10 ^ exponent.toNat ≠ 0 := Nat.ne_of_gt (Nat.pow_pos (by decide))
  rw [ofDecimal_of_nonneg negative hdigits hexponent hmost,
    ofDecimal_of_nonneg negative (Nat.mul_ne_zero hdigits hpow) (Int.le_refl 0) (by decide),
    Int.toNat_zero, Nat.pow_zero, Nat.mul_one]

/-! ## The literal that is written -/

/-- A literal is how a decimal numeral is written: without a sign, with a digit in front of the
point and behind it. It is read as the numeral is. -/
structure Literal.Spells (l : Literal) (d : Decimal) : Prop where
  sign : l.sign = []
  whole_ne_nil : l.whole ≠ []
  fraction_ne_nil : ∀ digits ∈ l.fraction, digits ≠ []
  value (negative : Bool) :
    ofDecimal negative l.digits l.power = ofDecimal negative d.digits d.exponent

section

variable {d : Decimal} {digits : List Char}

theorem exists_spells_whole (h : DigitsOf digits d.digits) (hdigits : d.digits ≠ 0)
    (hexponent : 0 ≤ d.exponent) (hmost : d.exponent ≤ 400) :
    ∃ l : Literal, l.Spells d ∧ l.text = digits ++ Layout.zeros d.exponent.toNat := by
  have hzeros := h.append_zeros d.exponent.toNat
  refine ⟨⟨[], digits ++ Layout.zeros d.exponent.toNat, none, none, isSign_nil, hzeros.isDigits,
    by simp, .inl hzeros.ne_nil⟩, ⟨rfl, hzeros.ne_nil, by simp, fun negative => ?_⟩, ?_⟩
  · rw [← ofDecimal_mul_pow negative hdigits hexponent hmost]
    simp [Literal.digits, Literal.power, Literal.places, hzeros.value]
  · simp [Literal.text, Literal.tail, fractionText, exponentText]

theorem exists_spells_point {whole fraction : List Char}
    (h : DigitsOf (whole ++ fraction) d.digits) (hwhole : whole ≠ []) (hfraction : fraction ≠ [])
    (hplaces : (fraction.length : Int) = -d.exponent) :
    ∃ l : Literal, l.Spells d ∧ l.text = whole ++ '.' :: fraction := by
  refine ⟨⟨[], whole, some fraction, none, isSign_nil,
    fun c hc => h.isDigits c (List.mem_append_left _ hc), ?_, .inl hwhole⟩,
    ⟨rfl, hwhole, ?_, fun negative => ?_⟩, ?_⟩
  · rintro _ ⟨⟩
    exact fun c hc => h.isDigits c (List.mem_append_right _ hc)
  · rintro _ ⟨⟩
    exact hfraction
  · simp [Literal.digits, Literal.power, Literal.places, h.value, hplaces]
  · simp [Literal.text, Literal.tail, fractionText, exponentText]

theorem exists_spells_positional (h : DigitsOf digits d.digits) (hdigits : d.digits ≠ 0)
    (hmost : d.exponent ≤ 400) :
    ∃ l : Literal, l.Spells d ∧ l.text = Layout.expression.positional digits d.exponent := by
  have hlength := List.length_pos_iff.mpr h.ne_nil
  unfold Layout.positional
  by_cases hwhole : 0 ≤ d.exponent
  · rw [if_pos hwhole]
    obtain ⟨l, hspells, htext⟩ := exists_spells_whole h hdigits hwhole hmost
    exact ⟨l, hspells, by simp [htext, Layout.expression]⟩
  rw [if_neg hwhole]
  dsimp only
  split
  next hamong =>
    refine exists_spells_point ?_ ?_ ?_ ?_
    · rwa [List.take_append_drop]
    · refine List.ne_nil_of_length_pos ?_
      rw [List.length_take]
      omega
    · refine List.ne_nil_of_length_pos ?_
      rw [List.length_drop]
      omega
    · rw [List.length_drop]
      omega
  next hbefore =>
    -- The digit in front of the point is one more zero.
    have hzeros := h.zeros_append ((-d.exponent).toNat - digits.length)
    refine exists_spells_point (hzeros.zeros_append 1) (by decide) hzeros.ne_nil ?_
    simp only [Layout.zeros, List.length_append, List.length_replicate]
    omega

/-- The exponent that is written for a power of ten. -/
def writtenExponent (lead : Int) : Exponent where
  letter := 'e'
  sign := if lead < 0 then ['-'] else ['+']
  digits := Nat.toDigits 10 lead.natAbs
  letter_eq := .inl rfl
  isSign_sign := by split <;> simp [IsSign]
  isDigits := isDigits_toDigits _
  digits_ne_nil := Nat.toDigits_ne_nil

theorem value_writtenExponent {lead : Int} (h : lead.natAbs < exponentEnough) :
    (writtenExponent lead).value = lead := by
  have hsize : exponentSize (writtenExponent lead).digits = lead.natAbs := exponentSize_toDigits h
  by_cases hlead : lead < 0
  · have hsign : (writtenExponent lead).sign = ['-'] := if_pos hlead
    rw [Exponent.value, if_pos hsign, hsize]
    omega
  · have hsign : (writtenExponent lead).sign = ['+'] := if_neg hlead
    rw [Exponent.value, hsign, if_neg (by decide), hsize]
    omega

theorem text_writtenExponent (lead : Int) :
    (writtenExponent lead).text
      = 'e' :: (if lead < 0 then ['-'] else ['+']) ++ Nat.toDigits 10 lead.natAbs := rfl

theorem exists_spells_scientific (h : DigitsOf digits d.digits) {lead : Int}
    (hlead : lead = d.exponent + digits.length - 1) (hsize : lead.natAbs < exponentEnough) :
    ∃ l : Literal, l.Spells d ∧ l.text = Layout.expression.scientific digits lead := by
  obtain ⟨first, others, rfl⟩ := List.exists_cons_of_ne_nil h.ne_nil
  have hpower : (writtenExponent lead).value - others.length = d.exponent := by
    rw [value_writtenExponent hsize, hlead, List.length_cons]
    omega
  have hread := h.value
  obtain ⟨hfirst, hothers⟩ := List.forall_mem_cons.mp h.isDigits
  have hwhole : IsDigits [first] := by simpa [IsDigits] using hfirst
  cases others with
  | nil =>
    refine ⟨⟨[], [first], none, writtenExponent lead, isSign_nil, hwhole, by simp, .inl (by simp)⟩,
      ⟨rfl, by simp, by simp, fun negative => ?_⟩, ?_⟩
    · simpa [Literal.digits, Literal.power, Literal.places, hread] using congrArg _ hpower
    · simp [Literal.text, Literal.tail, fractionText, exponentText, Layout.scientific,
        text_writtenExponent, Layout.expression]
  | cons second others =>
    refine ⟨⟨[], [first], some (second :: others), writtenExponent lead, isSign_nil, hwhole, ?_,
      .inl (by simp)⟩, ⟨rfl, by simp, ?_, fun negative => ?_⟩, ?_⟩
    · rintro _ ⟨⟩
      exact hothers
    · rintro _ ⟨⟩
      simp
    · simp only [Literal.digits, Literal.power, Literal.places, Option.getD_some, Option.elim_some,
        hpower, List.singleton_append, hread]
    · simp [Literal.text, Literal.tail, fractionText, exponentText, Layout.scientific,
        text_writtenExponent, Layout.expression]

end

/-- What is written for the shortest digits of a double is a literal. -/
theorem exists_spells_magnitude {x : Finite} {d : Decimal} (h : x.Denotes d)
    (hzero : x.significand ≠ 0) :
    ∃ l : Literal, l.Spells d ∧ l.text = Layout.expression.magnitude d := by
  have hleast := h.least
  have hmost := h.most
  have hlength := h.length_toDigits_le
  have hdigits := digitsOf_toDigits d.digits
  have hpos := List.length_pos_iff.mpr hdigits.ne_nil
  unfold Layout.magnitude
  dsimp only
  split
  · exact exists_spells_positional hdigits (h.digits_ne_zero hzero) (by omega)
  · exact exists_spells_scientific hdigits rfl (by unfold exponentEnough; omega)

/-! ## The text of a number -/

/-- The literal with a minus, or without a sign. -/
def Literal.withSign (l : Literal) (negative : Bool) : Literal :=
  { l with
    sign := if negative then ['-'] else []
    isSign_sign := by split <;> simp [IsSign] }

theorem Literal.text_withSign (l : Literal) (negative : Bool) :
    (l.withSign negative).text = (if negative then ['-'] else []) ++ (l.whole ++ l.tail) := rfl

theorem Literal.value_withSign (l : Literal) (negative : Bool) :
    (l.withSign negative).value = ofDecimal negative l.digits l.power := by
  cases negative <;> rfl

/-- The text of a double that is not zero is a literal, which is read as the double. It has a minus
if the double is negative, and a digit in front of a point and behind it. -/
theorem exists_literal_chars {x : Finite} (hzero : x.significand ≠ 0) :
    ∃ l : Literal, l.text = Layout.expression.chars (finite x) ∧ l.value = finite x
      ∧ l.sign = (if x.negative then ['-'] else []) ∧ l.whole ≠ []
      ∧ ∀ digits ∈ l.fraction, digits ≠ [] := by
  have hdenotes := Finite.shortest_denotes hzero Layout.expression.tie
  obtain ⟨l, hspells, htext⟩ := exists_spells_magnitude hdenotes hzero
  refine ⟨l.withSign x.negative, ?_, ?_, rfl, hspells.whole_ne_nil, hspells.fraction_ne_nil⟩
  · rw [Literal.text, hspells.sign, List.nil_append] at htext
    rw [Layout.chars, if_neg hzero, ← htext, Literal.text_withSign]
  · rw [Literal.value_withSign, hspells.value, hdenotes.ofDecimal_eq hzero]

/-- A number as it is read from its text: a zero has no sign. -/
def readBack (n : Number) : Number := if n = zero true then zero false else n

theorem readBack_zero (negative : Bool) : (zero negative).readBack = zero false := by
  cases negative <;> decide

theorem readBack_finite {x : Finite} (hzero : x.significand ≠ 0) :
    (finite x).readBack = finite x := by
  refine if_neg fun h => hzero ?_
  rw [zero, finite.injEq] at h
  rw [h]
  rfl

/-- The literal of a zero. -/
def Literal.zero : Literal :=
  ⟨[], ['0'], none, none, isSign_nil, isDigits_zeros 1, by simp, .inl (by simp)⟩

theorem Literal.value_zero : Literal.zero.value = Number.zero false := by decide

theorem text_zero (negative : Bool) : (zero negative).text = .ofList Literal.zero.text := by
  have hzero : (Finite.zero negative).significand = 0 := rfl
  have htext : "0".toList = Literal.zero.text := by decide
  rw [text, Layout.text, zero, Layout.chars, if_pos hzero, ← htext]
  rfl

/-- A reading that takes literals for what they denote, and the words for the numbers that they
stand for, takes the text of a number for that number. -/
theorem read_text {read : String → Number}
    (hliteral : ∀ l : Literal, read (.ofList l.text) = l.value) (hnan : read nan.text = nan)
    (hinfinite : ∀ s, read (infinite s).text = infinite s) (n : Number) : read n.text = n.readBack := by
  cases n with
  | nan => exact hnan
  | infinite s => exact hinfinite s
  | finite x =>
    by_cases hzero : x.significand = 0
    · rw [x.eq_zero hzero, ← zero, text_zero, hliteral, Literal.value_zero, readBack_zero]
    · obtain ⟨l, htext, hvalue, -⟩ := exists_literal_chars hzero
      rw [text, Layout.text, ← htext, hliteral, hvalue, readBack_finite hzero]

theorem ofText_text (n : Number) : ofText n.text = n.readBack :=
  read_text Literal.ofText_text (by decide) (by decide) n

theorem ofLeading_text (n : Number) : ofLeading n.text = n.readBack :=
  read_text Literal.ofLeading_text (by decide) (by decide) n

end TemplateExpr.Number
