import TemplateExpr.Proofs.Number.Readings

/-!
# The longest numeral at the front of a text

A numeral is an infinity or a decimal literal. `leadingNumeral?` takes one part after the other, each
as far as it goes, and so it takes a literal (`exists_literal_of_leadingNumeral?`) that no other
literal at the front of the text is longer than (`Literal.length_le_leadingNumeral?`).
-/

namespace TemplateExpr.Number

/-! ## What is taken is a literal -/

section

variable {cs p : List Char}

theorem isSign_takeSign (cs : List Char) : IsSign (takeSign cs).1 := by
  cases cs with
  | nil => exact isSign_nil
  | cons c cs =>
    by_cases hc : isSign c
    · rw [takeSign, if_pos hc]
      rcases isSign_iff.mp hc with rfl | rfl
      exacts [.inr (.inl rfl), .inr (.inr rfl)]
    · rw [takeSign, if_neg hc]
      exact isSign_nil

theorem takeSign_append_rest (cs : List Char) : (takeSign cs).1 ++ (takeSign cs).2 = cs := by
  cases cs with
  | nil => rfl
  | cons c cs =>
    rw [takeSign]
    split <;> rfl

theorem takeFraction_append_rest (behindDigits : Bool) (cs : List Char) :
    (takeFraction behindDigits cs).1 ++ (takeFraction behindDigits cs).2 = cs := by
  unfold takeFraction
  split
  next rest =>
    dsimp only
    split
    · rw [List.cons_append, scanDigits_append]
    · rfl
  · rfl

/-- Without digits in front of the point, there are digits behind it. -/
theorem exists_fraction_takeFraction (behindDigits : Bool) (cs : List Char) :
    ∃ fraction, fractionText fraction = (takeFraction behindDigits cs).1 ∧
      (∀ digits ∈ fraction, IsDigits digits) ∧
      ∀ digits ∈ fraction, behindDigits = false → digits ≠ [] := by
  unfold takeFraction
  split
  next rest =>
    dsimp only
    split
    next hcounts =>
      refine ⟨some (scanDigits rest).1, rfl, ?_, ?_⟩
      · rintro _ ⟨⟩
        exact isDigits_scanDigits
      · rintro _ ⟨⟩ hbehind
        simpa [hbehind] using hcounts
    · exact ⟨none, rfl, by simp, by simp⟩
  · exact ⟨none, rfl, by simp, by simp⟩

theorem takeExponent_append_rest (cs : List Char) :
    (takeExponent cs).1 ++ (takeExponent cs).2 = cs := by
  cases cs with
  | nil => rfl
  | cons letter rest =>
    rw [takeExponent]
    dsimp only
    split
    · rw [List.cons_append, List.append_assoc, scanDigits_append, takeSign_append_rest]
    · rfl

theorem exists_exponent_takeExponent (cs : List Char) :
    ∃ exponent, exponentText exponent = (takeExponent cs).1 := by
  cases cs with
  | nil => exact ⟨none, rfl⟩
  | cons letter rest =>
    rw [takeExponent]
    dsimp only
    split
    next hcounts =>
      exact ⟨some ⟨letter, _, _, hcounts.1, isSign_takeSign rest, isDigits_scanDigits,
        by simpa using hcounts.2⟩, rfl⟩
    · exact ⟨none, rfl⟩

/-- What is taken from the front of a text is a literal. -/
theorem exists_literal_of_leadingNumeral? (h : leadingNumeral? cs = some p) :
    ∃ l : Literal, l.text = p ∧ p <+: cs := by
  rcases hsign : takeSign cs with ⟨sign, unsigned⟩
  rcases hwhole : scanDigits unsigned with ⟨whole, behind⟩
  rcases hfraction : takeFraction (!whole.isEmpty) behind with ⟨point, rest⟩
  simp only [leadingNumeral?, hsign, hwhole, hfraction] at h
  have hisSign := isSign_takeSign cs
  have hisDigits : IsDigits (scanDigits unsigned).1 := isDigits_scanDigits
  obtain ⟨fraction, htext, hdigits, hne⟩ := exists_fraction_takeFraction (!whole.isEmpty) behind
  obtain ⟨exponent, hexponent⟩ := exists_exponent_takeExponent rest
  have hcs := takeSign_append_rest cs
  have hunsigned := scanDigits_append unsigned
  have hbehind := takeFraction_append_rest (!whole.isEmpty) behind
  rw [hsign] at hisSign hcs
  rw [hwhole] at hisDigits hunsigned
  rw [hfraction] at htext hbehind
  split at h
  · cases h
  next hcounts =>
    have hdigit : whole ≠ [] ∨ ∃ digits ∈ fraction, digits ≠ [] := by
      by_cases hempty : whole = []
      · subst hempty
        cases fraction with
        | none => exact absurd htext.symm (by simpa [fractionText] using hcounts)
        | some digits => exact .inr ⟨digits, rfl, hne digits rfl rfl⟩
      · exact .inl hempty
    cases h
    refine ⟨⟨sign, whole, fraction, exponent, hisSign, hisDigits, hdigits, hdigit⟩, ?_,
      (takeExponent rest).2, ?_⟩
    · simp only [Literal.text, Literal.tail, htext, hexponent, List.append_assoc]
    · simp only [List.append_assoc, takeExponent_append_rest, hbehind, hunsigned, hcs]

end

/-! ## No literal is longer -/

theorem scanDigits_append_rest {digits : List Char} (hdigits : IsDigits digits) (rest : List Char) :
    scanDigits (digits ++ rest) = (digits ++ (scanDigits rest).1, (scanDigits rest).2) :=
  Prod.ext (List.takeWhile_append_of_pos hdigits) (List.dropWhile_append_of_pos hdigits)

theorem length_le_takeExponent (exponent : Option Exponent) (rest : List Char) :
    (exponentText exponent).length ≤ (takeExponent (exponentText exponent ++ rest)).1.length := by
  cases exponent with
  | none => exact Nat.zero_le _
  | some e =>
    have hhead : ∀ c ∈ (e.digits ++ rest).head?, ¬ isSign c := by
      rw [List.head?_append_of_ne_nil _ e.digits_ne_nil]
      exact not_isSign_head_of_isDigits e.isDigits
    have hsign : takeSign (e.sign ++ (e.digits ++ rest)) = (e.sign, e.digits ++ rest) :=
      takeSign_append e.isSign_sign hhead
    simp [exponentText, Exponent.text, takeExponent, hsign, scanDigits_append_rest e.isDigits,
      e.letter_eq, e.digits_ne_nil]

/-- Of a fraction with an exponent behind it, as much is taken at least. -/
theorem length_le_takeFraction {fraction : Option (List Char)} {behindDigits : Bool}
    (hfraction : ∀ digits ∈ fraction, IsDigits digits)
    (hdigit : behindDigits = true ∨ ∃ digits ∈ fraction, digits ≠ []) (exponent : Option Exponent)
    {left taken rest : List Char}
    (htake : takeFraction behindDigits (fractionText fraction ++ (exponentText exponent ++ left)) =
      (taken, rest)) :
    (fractionText fraction).length ≤ taken.length ∧
      (fractionText fraction).length + (exponentText exponent).length ≤
        taken.length + (takeExponent rest).1.length := by
  cases exponent with
  | some e =>
    -- The letter of the exponent ends the fraction.
    have hstop : ∀ c ∈ (exponentText (some e) ++ left).head?, c = 'e' ∨ c = 'E' := by
      rw [List.head?_append_of_ne_nil _ (by simp [exponentText, Exponent.text])]
      exact head_exponentText (some e)
    rw [Literal.takeFraction_append hfraction hdigit] at htake
    · cases htake
      exact ⟨Nat.le_refl _, Nat.add_le_add_left (length_le_takeExponent (some e) left) _⟩
    · intro c hc
      rcases hstop c hc with rfl | rfl <;> decide
    · intro c hc
      rcases hstop c hc with rfl | rfl <;> decide
  | none =>
    cases fraction with
    | none => exact ⟨Nat.zero_le _, Nat.zero_le _⟩
    | some digits =>
      have hcounts : (behindDigits || !(digits ++ (scanDigits left).1).isEmpty) = true := by
        rcases hdigit with h | ⟨_, ⟨⟩, h⟩ <;> simp [h]
      simp only [fractionText, exponentText, Option.elim_some, Option.elim_none, List.nil_append,
        List.cons_append, takeFraction, scanDigits_append_rest (hfraction digits rfl), hcounts,
        if_true, Prod.mk.injEq] at htake
      simp only [fractionText, exponentText, Option.elim_some, Option.elim_none, ← htake.1,
        List.length_cons, List.length_append, List.length_nil]
      omega

namespace Literal

variable (l : Literal)

theorem whole_append_tail_ne_nil : l.whole ++ l.tail ≠ [] := by
  rcases l.has_digit with hwhole | ⟨digits, hdigits, -⟩
  · simp [hwhole]
  · simp [tail, fractionText, Option.mem_def.mp hdigits]

theorem takeSign_text_append (left : List Char) :
    takeSign (l.text ++ left) = (l.sign, l.whole ++ (l.tail ++ left)) := by
  rw [text, List.append_assoc, List.append_assoc]
  refine takeSign_append l.isSign_sign fun c hc => l.not_isSign_head c ?_
  rwa [← List.append_assoc, List.head?_append_of_ne_nil _ l.whole_append_tail_ne_nil] at hc

/-- Of the parts behind the sign, with anything behind them, as much is taken at least. -/
theorem length_le_unsigned {left whole behind point rest : List Char}
    (hwhole : scanDigits (l.whole ++ (l.tail ++ left)) = (whole, behind))
    (hfraction : takeFraction (!whole.isEmpty) behind = (point, rest)) :
    ¬ (whole = [] ∧ point = []) ∧
      l.whole.length + l.tail.length ≤
        whole.length + point.length + (takeExponent rest).1.length := by
  by_cases htail : l.tail = []
  · rw [htail, List.nil_append, scanDigits_append_rest l.isDigits_whole, Prod.mk.injEq] at hwhole
    have hne := l.whole_append_tail_ne_nil
    rw [htail, List.append_nil] at hne
    rw [htail, ← hwhole.1]
    refine ⟨fun h => hne (List.append_eq_nil_iff.mp h.1).1, ?_⟩
    simp only [List.length_append, List.length_nil]
    omega
  · rw [scanDigits_append_of_stop l.isDigits_whole, Prod.mk.injEq] at hwhole
    · obtain ⟨rfl, rfl⟩ := hwhole
      rw [tail, List.append_assoc] at hfraction
      obtain ⟨hpoint, hlength⟩ := length_le_takeFraction l.isDigits_fraction
        (by simpa using l.has_digit) l.exponent hfraction
      refine ⟨?_, ?_⟩
      · rintro ⟨hempty, rfl⟩
        obtain ⟨digits, hdigits, -⟩ := l.has_digit.resolve_left (· hempty)
        simp [fractionText, Option.mem_def.mp hdigits] at hpoint
      · rw [tail, List.length_append]
        omega
    · rw [List.head?_append_of_ne_nil _ htail]
      exact l.not_isDigit_head_tail

/-- Of a literal with anything behind it, as much is taken at least. -/
theorem length_le_leadingNumeral? {cs : List Char} (h : l.text <+: cs) :
    ∃ p, leadingNumeral? cs = some p ∧ l.text.length ≤ p.length := by
  obtain ⟨left, rfl⟩ := h
  rcases hwhole : scanDigits (l.whole ++ (l.tail ++ left)) with ⟨whole, behind⟩
  rcases hfraction : takeFraction (!whole.isEmpty) behind with ⟨point, rest⟩
  obtain ⟨hne, hlength⟩ := l.length_le_unsigned hwhole hfraction
  have hcounts : (whole.isEmpty && point.isEmpty) = false := by
    simpa [List.isEmpty_iff] using hne
  refine ⟨l.sign ++ whole ++ point ++ (takeExponent rest).1, ?_, ?_⟩
  · simp only [leadingNumeral?, takeSign_text_append, hwhole, hfraction, hcounts,
      Bool.false_eq_true, if_false]
  · simp only [text, List.length_append]
    omega

end Literal

/-! ## The longest numeral -/

/-- A text is a numeral, an infinity or a decimal literal, and denotes a number. -/
inductive Numeral : List Char → Number → Prop where
  | infinity {sign : List Char} (hsign : IsSign sign) :
    Numeral (sign ++ "Infinity".toList) (infinite (sign = ['-']))
  | literal (l : Literal) : Numeral l.text l.value

/-- A numeral that a text starts with, and that no other such numeral is longer than. -/
structure LongestNumeral (cs p : List Char) (n : Number) : Prop where
  numeral : Numeral p n
  front : p <+: cs
  longest : ∀ q m, Numeral q m → q <+: cs → q.length ≤ p.length

section

variable {cs sign : List Char}

theorem takeSign_of_infinity (hsign : IsSign sign) (h : sign ++ "Infinity".toList <+: cs) :
    ∃ left, takeSign cs = (sign, 'I' :: left) := by
  obtain ⟨left, rfl⟩ := h
  refine ⟨"nfinity".toList ++ left, ?_⟩
  rw [List.append_assoc]
  exact takeSign_append hsign (by rintro c ⟨⟩; decide)

/-- Behind its sign an infinity starts like no literal. -/
theorem Literal.not_prefix_of_infinity (l : Literal) (hsign : IsSign sign)
    (h : sign ++ "Infinity".toList <+: cs) : ¬ l.text <+: cs := by
  rintro ⟨left, rfl⟩
  obtain ⟨more, htake⟩ := takeSign_of_infinity hsign h
  rw [l.takeSign_text_append, Prod.mk.injEq, ← List.append_assoc] at htake
  have hhead : 'I' ∈ (l.whole ++ l.tail).head? := by
    have := congrArg List.head? htake.2
    rwa [List.head?_append_of_ne_nil _ l.whole_append_tail_ne_nil] at this
  exact l.not_mem_text (by decide) (List.mem_append_right _ (List.mem_of_mem_head? hhead))

theorem longestNumeral_infinity (hsign : IsSign sign) (h : sign ++ "Infinity".toList <+: cs) :
    LongestNumeral cs (sign ++ "Infinity".toList) (infinite (sign = ['-'])) where
  numeral := .infinity hsign
  front := h
  longest := by
    intro q m hq hfront
    cases hq with
    | literal l => exact absurd hfront (l.not_prefix_of_infinity hsign h)
    | infinity hsign' =>
      obtain ⟨left, htake⟩ := takeSign_of_infinity hsign h
      obtain ⟨left', htake'⟩ := takeSign_of_infinity hsign' hfront
      obtain ⟨rfl, -⟩ := Prod.mk.inj (htake.symm.trans htake')
      exact Nat.le_refl _

section

variable {p : List Char} (hinfinity : ∀ sign, IsSign sign → ¬ sign ++ "Infinity".toList <+: cs)
include hinfinity

/-- A literal that is taken from a text that does not start with an infinity. -/
theorem Literal.longestNumeral (l : Literal) (h : leadingNumeral? cs = some l.text) :
    LongestNumeral cs l.text l.value where
  numeral := .literal l
  front := by
    obtain ⟨_, -, hfront⟩ := exists_literal_of_leadingNumeral? h
    exact hfront
  longest := by
    intro q m hq hq'
    cases hq with
    | infinity hsign => exact absurd hq' (hinfinity _ hsign)
    | literal l' =>
      obtain ⟨p, hp, hle⟩ := l'.length_le_leadingNumeral? hq'
      cases h.symm.trans hp
      exact hle

/-- A text that does not start with an infinity starts with what is taken from it. -/
theorem longestNumeral_literal (h : leadingNumeral? cs = some p) :
    ∃ l : Literal, l.text = p ∧ LongestNumeral cs p l.value := by
  obtain ⟨l, rfl, -⟩ := exists_literal_of_leadingNumeral? h
  exact ⟨l, rfl, l.longestNumeral hinfinity h⟩

end

/-- Where there is a numeral, there is a longest one. -/
theorem exists_longestNumeral {q : List Char} {m : Number} (hq : Numeral q m) (hfront : q <+: cs) :
    ∃ p n, LongestNumeral cs p n := by
  by_cases hinfinity : ∃ sign, IsSign sign ∧ sign ++ "Infinity".toList <+: cs
  · obtain ⟨sign, hsign, h⟩ := hinfinity
    exact ⟨_, _, longestNumeral_infinity hsign h⟩
  · cases hq with
    | infinity hsign => exact absurd ⟨_, hsign, hfront⟩ hinfinity
    | literal l =>
      obtain ⟨p, hp, -⟩ := l.length_le_leadingNumeral? hfront
      have hnone : ∀ sign, IsSign sign → ¬ sign ++ "Infinity".toList <+: cs :=
        fun sign hsign h => hinfinity ⟨sign, hsign, h⟩
      obtain ⟨l', -, hlongest⟩ := longestNumeral_literal hnone hp
      exact ⟨p, l'.value, hlongest⟩

theorem numeral_iff {p : List Char} {n : Number} :
    Numeral p n ↔ (∃ sign, IsSign sign ∧ sign ++ "Infinity".toList = p ∧
      infinite (sign = ['-']) = n) ∨ ∃ l : Literal, l.text = p ∧ l.value = n := by
  constructor
  · rintro (hsign | l)
    exacts [.inl ⟨_, hsign, rfl, rfl⟩, .inr ⟨l, rfl, rfl⟩]
  · rintro (⟨sign, hsign, rfl, rfl⟩ | ⟨l, rfl, rfl⟩)
    exacts [.infinity hsign, .literal l]

/-- A numeral denotes one number. -/
theorem Numeral.value_unique {p : List Char} {n m : Number} (hn : Numeral p n) (hm : Numeral p m) :
    n = m := by
  rcases numeral_iff.mp hn with ⟨sign, hsign, rfl, rfl⟩ | ⟨l, rfl, rfl⟩ <;>
    rcases numeral_iff.mp hm with ⟨sign', hsign', hp, rfl⟩ | ⟨l', hp, rfl⟩
  · rw [List.append_cancel_right hp]
  · exact absurd (hp ▸ List.prefix_refl _) (l'.not_prefix_of_infinity hsign (List.prefix_refl _))
  · exact absurd (hp ▸ List.prefix_refl _) (l.not_prefix_of_infinity hsign' (List.prefix_refl _))
  · have hread := l.ofNumeral?_text
    rw [← hp, l'.ofNumeral?_text] at hread
    exact (Option.some.inj hread).symm

/-- There is one longest numeral, and it denotes one number. -/
theorem LongestNumeral.unique {p q : List Char} {n m : Number} (hp : LongestNumeral cs p n)
    (hq : LongestNumeral cs q m) : p = q ∧ n = m := by
  have hle := hp.longest q m hq.numeral hq.front
  have hge := hq.longest p n hp.numeral hp.front
  obtain rfl : p = q :=
    (List.prefix_of_prefix_length_le hp.front hq.front hge).eq_of_length_le hle
  exact ⟨rfl, hp.numeral.value_unique hq.numeral⟩

end

/-! ## The number at the front of a text -/

section

variable {cs : List Char}

theorem isSign_of_length_le_one (hall : ∀ c ∈ cs, isSign c) (hlength : cs.length ≤ 1) :
    IsSign cs := by
  rcases cs with _ | ⟨c, _ | ⟨d, cs⟩⟩
  · exact isSign_nil
  · rcases isSign_iff.mp (hall c List.mem_cons_self) with rfl | rfl
    exacts [.inr (.inl rfl), .inr (.inr rfl)]
  · simp at hlength

/-- An infinity is looked for behind all signs, of which there may be one. -/
theorem startsWithInfinity_iff :
    ("Infinity".toList.isPrefixOf (cs.dropWhile isSign) ∧
      cs.length - (cs.dropWhile isSign).length ≤ 1) ↔
      ∃ sign, IsSign sign ∧ sign ++ "Infinity".toList <+: cs := by
  constructor
  · rintro ⟨hword, hlength⟩
    obtain ⟨left, hleft⟩ := List.isPrefixOf_iff_prefix.mp hword
    have hcs := List.takeWhile_append_dropWhile (p := isSign) (l := cs)
    refine ⟨cs.takeWhile isSign, isSign_of_length_le_one (fun c => List.mem_takeWhile_imp) ?_,
      left, ?_⟩
    · have hsum := congrArg List.length hcs
      rw [List.length_append] at hsum
      omega
    · rw [List.append_assoc, hleft, hcs]
  · rintro ⟨sign, hsign, left, rfl⟩
    have hall : ∀ c ∈ sign, isSign c := by
      rcases hsign with rfl | rfl | rfl <;> simp [isSign]
    have hdrop : (sign ++ ("Infinity".toList ++ left)).dropWhile isSign =
        "Infinity".toList ++ left :=
      dropWhile_append_of_stop hall (by rintro c ⟨⟩; decide)
    have hlength : sign.length ≤ 1 := by
      rcases hsign with rfl | rfl | rfl <;> decide
    rw [List.append_assoc, hdrop, List.length_append]
    exact ⟨List.isPrefixOf_iff_prefix.mpr (List.prefix_append _ _), by omega⟩

variable {s : String}

/-- The number at the front of a text is what the longest numeral there denotes. -/
theorem ofLeading_of_longestNumeral {p : List Char} {n : Number}
    (h : LongestNumeral (Text.trimStart s.toList) p n) : ofLeading s = n := by
  unfold ofLeading
  dsimp only
  generalize Text.trimStart s.toList = cs at h ⊢
  by_cases hinfinity : ∃ sign, IsSign sign ∧ sign ++ "Infinity".toList <+: cs
  · rw [if_pos (startsWithInfinity_iff.mpr hinfinity)]
    obtain ⟨sign, hsign, hfront⟩ := hinfinity
    rw [(h.unique (longestNumeral_infinity hsign hfront)).2]
    obtain ⟨left, rfl⟩ := hfront
    rcases hsign with rfl | rfl | rfl <;> rfl
  · rw [if_neg (mt startsWithInfinity_iff.mp hinfinity)]
    have hnone : ∀ sign, IsSign sign → ¬ sign ++ "Infinity".toList <+: cs :=
      fun sign hsign h => hinfinity ⟨sign, hsign, h⟩
    rcases numeral_iff.mp h.numeral with ⟨sign, hsign, rfl, -⟩ | ⟨l, rfl, -⟩
    · exact absurd h.front (hnone sign hsign)
    · obtain ⟨p, hp, -⟩ := l.length_le_leadingNumeral? h.front
      obtain ⟨l', rfl, hlongest⟩ := longestNumeral_literal hnone hp
      rw [hp, Option.bind_some, l'.parse?_text, Option.getD_some, (h.unique hlongest).2]

/-- Where there is no numeral, there is no number. -/
theorem ofLeading_of_no_numeral (h : ∀ p n, Numeral p n → ¬ p <+: Text.trimStart s.toList) :
    ofLeading s = nan := by
  unfold ofLeading
  dsimp only
  rw [if_neg]
  · cases hp : leadingNumeral? (Text.trimStart s.toList) with
    | none => rfl
    | some p =>
      obtain ⟨l, rfl, hfront⟩ := exists_literal_of_leadingNumeral? hp
      exact absurd hfront (h _ _ (.literal l))
  · rw [startsWithInfinity_iff]
    rintro ⟨sign, hsign, hfront⟩
    exact h _ _ (.infinity hsign) hfront

end

end TemplateExpr.Number
