import TemplateExpr.Proofs.Number.Literal
import TemplateExpr.Proofs.Text.Blank
import TemplateExpr.Proofs.Text.Digits

/-!
# The two readings of a text as a number

Both readings take a decimal literal for the number that it denotes (`ofText_text`,
`ofLeading_text`). Beyond literals, a whole text is a number if it is empty, an infinity, or
hexadecimal digits behind their mark; the words that `parse?` knows are not among the texts that it
is shown (`ofText_ne_nan_iff`).
-/

namespace TemplateExpr

namespace Number

/-! ## The characters of numerals -/

section

variable {c : Char} {cs : List Char}

theorem writesNumeral_iff :
    writesNumeral c ↔ c.isDigit ∨ c = '+' ∨ c = '-' ∨ c = '.' ∨ c = 'e' ∨ c = 'E' := by
  simp [writesNumeral, or_assoc]

theorem not_isBlank_of_writesNumeral (h : writesNumeral c) : ¬ Text.isBlank c := by
  rcases writesNumeral_iff.mp h with hc | rfl | rfl | rfl | rfl | rfl
  · exact not_isBlank_of_isDigit hc
  all_goals decide

theorem toLower_ne_n_of_writesNumeral (h : writesNumeral c) : c.toLower ≠ 'n' := by
  rcases writesNumeral_iff.mp h with hc | rfl | rfl | rfl | rfl | rfl
  · have hlower : c.toLower = c := by
      refine dif_neg fun hupper => ?_
      have hle : 'A'.toNat ≤ c.toNat := UInt32.le_iff_toNat_le.mp hupper.1
      exact absurd (Nat.le_trans hle (toNat_le_of_isDigit hc)) (by decide)
    rw [hlower]
    rintro rfl
    exact absurd hc (by decide)
  all_goals decide

/-- The words for infinity and not-a-number have a letter that no numeral has. -/
theorem ofWord?_eq_none (h : ∀ c ∈ cs, writesNumeral c) : ofWord? cs = none := by
  have hrest : 'n' ∉ (String.ofList ((scanSign cs).2.map Char.toLower)).toList := by
    rw [String.toList_ofList, List.mem_map]
    rintro ⟨c, hc, hn⟩
    obtain ⟨sign, -, hcs, -⟩ := exists_isSign_append cs
    refine toLower_ne_n_of_writesNumeral (h c ?_) hn
    rw [← hcs]
    exact List.mem_append_right _ hc
  have hword (word : String) (hn : 'n' ∈ word.toList) :
      String.ofList ((scanSign cs).2.map Char.toLower) ≠ word := by
    rintro rfl
    exact hrest hn
  simp [ofWord?, hword "inf" (by decide), hword "infinity" (by decide), hword "nan" (by decide)]

theorem parse?_eq_ofNumeral? (h : ∀ c ∈ cs, writesNumeral c) : parse? cs = ofNumeral? cs := by
  rw [parse?, ofWord?_eq_none h, Option.or_none]

end

namespace Literal

variable (l : Literal)

theorem writesNumeral_of_mem_text : ∀ c ∈ l.text, writesNumeral c := by
  have hdigits {cs : List Char} (h : IsDigits cs) : ∀ c ∈ cs, writesNumeral c :=
    fun c hc => writesNumeral_iff.mpr (.inl (h c hc))
  have hsign {cs : List Char} (h : IsSign cs) : ∀ c ∈ cs, writesNumeral c := by
    rcases h with rfl | rfl | rfl <;> simp [writesNumeral]
  have hfraction : ∀ c ∈ fractionText l.fraction, writesNumeral c := by
    cases hf : l.fraction with
    | none => simp [fractionText]
    | some digits =>
      exact List.forall_mem_cons.mpr ⟨by decide, hdigits (l.isDigits_fraction digits hf)⟩
  have hexponent : ∀ c ∈ exponentText l.exponent, writesNumeral c := by
    cases l.exponent with
    | none => simp [exponentText]
    | some e =>
      refine List.forall_mem_cons.mpr ⟨?_, List.forall_mem_append.mpr ⟨hsign e.isSign_sign,
        hdigits e.isDigits⟩⟩
      rcases e.letter_eq with h | h <;> rw [h] <;> decide
  simp only [text, tail, List.forall_mem_append]
  exact ⟨hsign l.isSign_sign, hdigits l.isDigits_whole, hfraction, hexponent⟩

theorem text_ne_nil : l.text ≠ [] := by
  intro h
  have hread := l.ofNumeral?_text
  rw [h] at hread
  cases hread

theorem not_mem_text {c : Char} (h : ¬ writesNumeral c) : c ∉ l.text :=
  fun hc => h (l.writesNumeral_of_mem_text c hc)

theorem afterHexMark?_text : afterHexMark? l.text = none := by
  unfold afterHexMark?
  split
  next h => exact absurd (by simp [h]) (l.not_mem_text (c := 'x') (by decide))
  next h => exact absurd (by simp [h]) (l.not_mem_text (c := 'X') (by decide))
  · rfl

theorem text_ne_of_mem {word : List Char} (hn : 'n' ∈ word) : l.text ≠ word := by
  rintro rfl
  exact l.not_mem_text (by decide) hn

theorem trimStart_text : Text.trimStart l.text = l.text :=
  Text.trimStart_eq_self fun c hc => not_isBlank_of_writesNumeral (l.writesNumeral_of_mem_text c hc)

theorem trim_text : Text.trim l.text = l.text :=
  Text.trim_eq_self fun c hc => not_isBlank_of_writesNumeral (l.writesNumeral_of_mem_text c hc)

theorem parse?_text : parse? l.text = some l.value := by
  rw [parse?_eq_ofNumeral? l.writesNumeral_of_mem_text, ofNumeral?_text]

/-- A literal as a whole text is the number that it denotes. -/
theorem ofText_text : ofText (.ofList l.text) = l.value := by
  have hall : l.text.all writesNumeral := List.all_eq_true.mpr l.writesNumeral_of_mem_text
  simp [ofText, l.trim_text, l.text_ne_nil, l.text_ne_of_mem, l.afterHexMark?_text, hall,
    l.parse?_text]

/-! ### The numeral at the front -/

theorem takeFraction_append {fraction : Option (List Char)} {rest : List Char}
    {behindDigits : Bool} (hfraction : ∀ digits ∈ fraction, IsDigits digits)
    (hdigit : behindDigits = true ∨ ∃ digits ∈ fraction, digits ≠ [])
    (hrest : ∀ c ∈ rest.head?, ¬ c.isDigit) (hpoint : ∀ c ∈ rest.head?, c ≠ '.') :
    takeFraction behindDigits (fractionText fraction ++ rest) = (fractionText fraction, rest) := by
  cases fraction with
  | none =>
    cases rest with
    | nil => rfl
    | cons c cs => simp [fractionText, takeFraction, hpoint c rfl]
  | some digits =>
    have hscan := scanDigits_append_of_stop (hfraction digits rfl) hrest
    have hcounts : (behindDigits || !digits.isEmpty) = true := by simpa using hdigit
    simp only [fractionText, Option.elim_some, List.cons_append, takeFraction, hscan, hcounts,
      if_true]

theorem takeExponent_exponentText (exponent : Option Exponent) :
    takeExponent (exponentText exponent) = (exponentText exponent, []) := by
  cases exponent with
  | none => rfl
  | some e =>
    have hsign : takeSign (e.sign ++ e.digits) = (e.sign, e.digits) :=
      takeSign_append e.isSign_sign (not_isSign_head_of_isDigits e.isDigits)
    simp [exponentText, Exponent.text, takeExponent, hsign, scanDigits_of_isDigits e.isDigits,
      e.letter_eq, e.digits_ne_nil]

theorem leadingNumeral?_text : leadingNumeral? l.text = some l.text := by
  have hwhole : scanDigits (l.whole ++ l.tail) = (l.whole, l.tail) :=
    scanDigits_append_of_stop l.isDigits_whole l.not_isDigit_head_tail
  have hfraction : takeFraction (!l.whole.isEmpty) l.tail
      = (fractionText l.fraction, exponentText l.exponent) :=
    takeFraction_append l.isDigits_fraction (by simpa using l.has_digit)
      (not_isDigit_head_exponentText l.exponent) (not_point_head_exponentText l.exponent)
  have hne : (l.whole.isEmpty && (fractionText l.fraction).isEmpty) = false := by
    rcases l.has_digit with h | ⟨digits, h, -⟩
    · simp [h]
    · rw [Option.mem_def.mp h]
      simp [fractionText]
  simp only [leadingNumeral?, text, takeSign_append l.isSign_sign l.not_isSign_head, hwhole,
    hfraction, hne, takeExponent_exponentText]
  simp [tail]

/-- A literal at the front of a text that ends there is the number that it denotes. -/
theorem ofLeading_text : ofLeading (.ofList l.text) = l.value := by
  have hword : "Infinity".toList.isPrefixOf (l.text.dropWhile isSign) = false := by
    rw [Bool.eq_false_iff]
    intro h
    have hmem : 'n' ∈ l.text := (List.dropWhile_sublist _).subset
      ((List.isPrefixOf_iff_prefix.mp h).subset (by decide))
    exact l.not_mem_text (by decide) hmem
  simp only [ofLeading, String.toList_ofList, l.trimStart_text, hword, Bool.false_eq_true,
    false_and, if_false, l.leadingNumeral?_text, Option.bind_some, l.parse?_text,
    Option.getD_some]

end Literal

/-! ## Texts that are numbers -/

theorem ne_nan_of_isNaN {n : Number} (h : n.isNaN = false) : n ≠ nan := by
  rintro rfl
  cases h

theorem isNaN_ofDecimal (negative : Bool) (digits : Nat) (exponent : Int) :
    (ofDecimal negative digits exponent).isNaN = false := by
  unfold ofDecimal
  split
  · rfl
  · split
    · rfl
    · split
      · rfl
      · split
        · exact isNaN_ofUnits _ _
        · exact isNaN_ofQuotient _ _ _

theorem isNaN_ofInt (i : Int) : (ofInt i).isNaN = false := isNaN_ofUnits _ _

/-- The text of an infinity, with or without a sign. -/
def IsInfinity (cs : List Char) : Prop := ∃ sign, IsSign sign ∧ cs = sign ++ "Infinity".toList

theorem isInfinity_iff {cs : List Char} :
    IsInfinity cs ↔
      (cs = "Infinity".toList ∨ cs = "+Infinity".toList) ∨ cs = "-Infinity".toList := by
  constructor
  · rintro ⟨sign, rfl | rfl | rfl, rfl⟩
    exacts [.inl (.inl rfl), .inl (.inr rfl), .inr rfl]
  · rintro ((rfl | rfl) | rfl)
    exacts [⟨[], .inl rfl, rfl⟩, ⟨['+'], .inr (.inl rfl), rfl⟩, ⟨['-'], .inr (.inr rfl), rfl⟩]

/-- Of the texts without a mark, literals are numbers. -/
theorem getD_parse?_ne_nan_iff {cs : List Char} :
    (if cs.all writesNumeral then (parse? cs).getD nan else nan) ≠ nan ↔
      ∃ l : Literal, l.text = cs := by
  constructor
  · intro h
    split at h
    next hall =>
      rw [parse?_eq_ofNumeral? (List.all_eq_true.mp hall)] at h
      cases hread : ofNumeral? cs with
      | none => simp [hread] at h
      | some n =>
        obtain ⟨l, htext, -⟩ := ofNumeral?_eq_some_iff.mp hread
        exact ⟨l, htext⟩
    next => exact absurd rfl h
  · rintro ⟨l, rfl⟩
    rw [if_pos (List.all_eq_true.mpr l.writesNumeral_of_mem_text), l.parse?_text]
    exact ne_nan_of_isNaN (isNaN_ofDecimal _ _ _)

/-- The texts that are numbers as a whole. -/
theorem ofText_ne_nan_iff {s : String} :
    ofText s ≠ nan ↔
      Text.trim s.toList = [] ∨ IsInfinity (Text.trim s.toList) ∨
      (∃ digits, afterHexMark? (Text.trim s.toList) = some digits ∧ (hexInteger? digits).isSome) ∨
      ∃ l : Literal, l.text = Text.trim s.toList := by
  unfold ofText
  rw [isInfinity_iff]
  generalize Text.trim s.toList = cs
  by_cases hempty : cs.isEmpty
  · rw [if_pos hempty]
    exact iff_of_true (ne_nan_of_isNaN (isNaN_natural _)) (.inl (List.isEmpty_iff.mp hempty))
  rw [if_neg hempty]
  by_cases hinfinite : cs = "Infinity".toList ∨ cs = "+Infinity".toList
  · rw [if_pos hinfinite]
    exact iff_of_true nofun (.inr (.inl (.inl hinfinite)))
  rw [if_neg hinfinite]
  by_cases hnegative : cs = "-Infinity".toList
  · rw [if_pos hnegative]
    exact iff_of_true nofun (.inr (.inl (.inr hnegative)))
  rw [if_neg hnegative]
  simp only [mt List.isEmpty_iff.mpr hempty, hinfinite, hnegative, false_or]
  cases hmark : afterHexMark? cs with
  | none => simpa using getD_parse?_ne_nan_iff
  | some digits =>
    have hliteral : ¬ ∃ l : Literal, l.text = cs := by
      rintro ⟨l, rfl⟩
      rw [l.afterHexMark?_text] at hmark
      cases hmark
    simp only [hliteral, or_false, Option.some.injEq, exists_eq_left']
    cases hexInteger? digits with
    | none => exact iff_of_false (fun h => h rfl) Bool.false_ne_true
    | some i =>
      rw [Option.map_some, Option.getD_some]
      exact iff_of_true (ne_nan_of_isNaN (isNaN_ofInt i)) rfl

/-- A text that starts with a character which no number starts with, and ends with one that is not
trimmed. -/
theorem ofText_eq_nan {first last : Char} (hblank : ¬ Text.isBlank first)
    (hlast : ¬ Text.isBlank last) (hnumeral : ¬ writesNumeral first) (hinfinity : first ≠ 'I')
    (cs : List Char) : ofText (.ofList (first :: (cs ++ [last]))) = nan := by
  have hne (c : Char) (hc : writesNumeral c) : first ≠ c := by
    rintro rfl
    exact hnumeral hc
  have hmark : afterHexMark? (first :: (cs ++ [last])) = none := by
    unfold afterHexMark?
    split
    next h => exact absurd (List.cons.inj h).1 (hne '0' (by decide))
    next h => exact absurd (List.cons.inj h).1 (hne '0' (by decide))
    next => rfl
  unfold ofText
  rw [String.toList_ofList, Text.trim_cons_concat hblank hlast]
  simp [hmark, hnumeral, hinfinity, hne '+' (by decide), hne '-' (by decide)]

end Number

end TemplateExpr
