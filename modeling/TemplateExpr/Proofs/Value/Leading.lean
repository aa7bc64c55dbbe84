import TemplateExpr.Proofs.Number.Offsets
import TemplateExpr.Proofs.Number.Rounded
import TemplateExpr.Proofs.Value.Coercion

/-!
# The number at the front of a text

Aggregates take the number at the front of a text, which is what the longest numeral there denotes
(`leadingNumber_reads_longest_numeral`). A text that is a numeral as a whole, up to blanks, has that
numeral for the longest one, so that both readings give the same number. They part in two places:
where an exponent is so long that its reading stops, and where coercion takes a sign behind the
hexadecimal mark.
-/

namespace TemplateExpr

open Number

namespace Number

section

variable {p : List Char} {n : Number}

theorem Numeral.not_isBlank (h : Numeral p n) : ∀ c ∈ p, ¬ Text.isBlank c := by
  rcases numeral_iff.mp h with ⟨sign, hsign, rfl, -⟩ | ⟨l, rfl, -⟩
  · have hall : (sign ++ "Infinity".toList).all fun c => !Text.isBlank c := by
      rcases hsign with rfl | rfl | rfl <;> decide
    exact fun c hc => by simpa using List.all_eq_true.mp hall c hc
  · exact fun c hc => not_isBlank_of_writesNumeral (l.writesNumeral_of_mem_text c hc)

theorem Numeral.isNaN (h : Numeral p n) : n.isNaN = false := by
  rcases numeral_iff.mp h with ⟨sign, -, -, rfl⟩ | ⟨l, -, rfl⟩
  · rfl
  · exact isNaN_ofDecimal _ _ _

/-- No numeral reaches into the blanks behind another one. -/
theorem Numeral.longest (h : Numeral p n) {blanks : List Char}
    (hblanks : ∀ c ∈ blanks, Text.isBlank c) : LongestNumeral (p ++ blanks) p n where
  numeral := h
  front := List.prefix_append p blanks
  longest := by
    intro q m hq hfront
    rcases List.prefix_or_prefix_of_prefix hfront (List.prefix_append p blanks) with hle | hge
    · exact hle.length_le
    · obtain ⟨more, rfl⟩ := hge
      have hmore : more <+: blanks := (List.prefix_append_right_inj p).mp hfront
      cases more with
      | nil => simp
      | cons c more =>
        have hblank : Text.isBlank c := hblanks c (hmore.subset List.mem_cons_self)
        exact absurd hblank (hq.not_isBlank c (by simp))

/-- A text that is a numeral, up to blanks, starts with no longer one. -/
theorem Numeral.longest_of_trim {cs : List Char} (h : Numeral (Text.trim cs) n) :
    LongestNumeral (Text.trimStart cs) (Text.trim cs) n := by
  obtain ⟨after, hcs, hafter⟩ := Text.exists_trimStart_eq cs
  rw [hcs]
  exact h.longest hafter

theorem ofText_congr {s t : String} (h : Text.trim s.toList = Text.trim t.toList) :
    ofText s = ofText t := by
  unfold ofText
  rw [h]

/-- A text that is a numeral, up to blanks, is the number that the numeral denotes. -/
theorem Numeral.ofText_eq (h : Numeral p n) {s : String} (hs : Text.trim s.toList = p) :
    ofText s = n := by
  have hp : Text.trim (String.ofList p).toList = p := by
    rw [String.toList_ofList, Text.trim_eq_self h.not_isBlank]
  rw [ofText_congr (hs.trans hp.symm)]
  rcases numeral_iff.mp h with ⟨sign, rfl | rfl | rfl, rfl, rfl⟩ | ⟨l, rfl, rfl⟩
  · rfl
  · rfl
  · rfl
  · exact l.ofText_text

end

/-- Where a text is a number, and is not empty or hexadecimal, it is a numeral. -/
theorem exists_numeral_of_ofText {s : String} (h : ofText s ≠ nan)
    (hempty : Text.trim s.toList ≠ []) (hhex : ¬ IsHexadecimal (Text.trim s.toList))
    (hsigned : ¬ IsSignedHexadecimal (Text.trim s.toList)) :
    ∃ n, Numeral (Text.trim s.toList) n := by
  rcases ofText_ne_nan_iff.mp h with hnil | ⟨sign, hsign, hinfinity⟩ | hdigits | ⟨l, hliteral⟩
  · exact absurd hnil hempty
  · rw [hinfinity]
    exact ⟨_, .infinity hsign⟩
  · rcases hexadecimal_iff.mp hdigits with h | h
    exacts [absurd h hhex, absurd h hsigned]
  · rw [← hliteral]
    exact ⟨_, .literal l⟩

/-- There is a number at the front of a text exactly if there is a numeral. -/
theorem ofLeading_eq_nan_iff {s : String} :
    ofLeading s = nan ↔ ∀ p n, Numeral p n → ¬ p <+: Text.trimStart s.toList := by
  constructor
  · intro hnan p n hp hfront
    obtain ⟨q, m, hq⟩ := exists_longestNumeral hp hfront
    have hm : m = nan := (ofLeading_of_longestNumeral hq).symm.trans hnan
    exact ne_nan_of_isNaN hq.numeral.isNaN hm
  · exact ofLeading_of_no_numeral

end Number

/-! ## An exponent that is not read to its end -/

namespace Number.Literal

theorem digitsOf_oneBehindZeros (places : Nat) : DigitsOf (Layout.zeros places ++ ['1']) 1 :=
  (digitsOf_toDigits 1).zeros_append places

/-- A one so many places behind the point, with the exponent that makes it a one again. -/
def oneBehindZeros (places : Nat) : Literal where
  sign := []
  whole := []
  fraction := some (Layout.zeros places ++ ['1'])
  exponent := writtenExponent (places + 1)
  isSign_sign := isSign_nil
  isDigits_whole := fun _ hc => absurd hc List.not_mem_nil
  isDigits_fraction := fun _ hdigits =>
    Option.some.inj hdigits ▸ (digitsOf_oneBehindZeros places).isDigits
  has_digit := .inr ⟨_, rfl, (digitsOf_oneBehindZeros places).ne_nil⟩

theorem digits_oneBehindZeros (places : Nat) : (oneBehindZeros places).digits = 1 :=
  (digitsOf_oneBehindZeros places).value

theorem places_oneBehindZeros (places : Nat) : (oneBehindZeros places).places = places + 1 := by
  simp [oneBehindZeros, Literal.places, Layout.zeros]

theorem nearest_oneBehindZeros (places : Nat) : (oneBehindZeros places).nearest = 1 := by
  have hpower : (oneBehindZeros places).exactPower = 0 := by
    have hexponent : (writtenExponent (places + 1)).exact = places + 1 := exact_writtenExponent _
    rw [exactPower, places_oneBehindZeros]
    simp [oneBehindZeros, hexponent]
  have hsign : decide ((oneBehindZeros places).sign = ['-']) = false := rfl
  rw [nearest, hpower, digits_oneBehindZeros, hsign, Int.neg_zero, Int.toNat_zero, Nat.pow_zero,
    Nat.mul_one]
  show _ = ofNat 1
  rw [ofNat, ofUnits]

/-- Of the exponent `655361` no more than `65536` is read. -/
theorem value_oneBehindZeros : (oneBehindZeros 655360).value = Number.zero false := by
  have hsize : exponentSize (Nat.toDigits 10 655361) = 65536 := by decide +kernel
  have hpower : (oneBehindZeros 655360).power = -589825 := by
    rw [power, places_oneBehindZeros]
    simp [oneBehindZeros, writtenExponent, Exponent.value, hsize]
  rw [value, hpower, digits_oneBehindZeros]
  rfl

end Number.Literal

/-! ## The reading -/

/-- **The number at the front of a text is what its longest numeral denotes.** There is none if no
numeral stands there. The numeral is rounded once, unless its exponent has more digits than are
read. A text that coercion takes for a number, and that is not empty and not hexadecimal, is read
as the same number. All offsets into the bytes of the text fall between two characters. -/
theorem leadingNumber_reads_longest_numeral (s : String) :
    ((Value.string s).leadingNumber = .nan ↔
      ∀ p n, Numeral p n → ¬ p <+: Text.trimStart s.toList) ∧
    (∀ q m, Numeral q m → q <+: Text.trimStart s.toList →
      ∃ p n, LongestNumeral (Text.trimStart s.toList) p n) ∧
    (∀ p n, LongestNumeral (Text.trimStart s.toList) p n → (Value.string s).leadingNumber = n) ∧
    (∀ l : Literal, LongestNumeral (Text.trimStart s.toList) l.text l.value → l.HasShortExponent →
      (Value.string s).leadingNumber = l.nearest) ∧
    (Text.trim s.toList ≠ [] → ¬ IsHexadecimal (Text.trim s.toList) →
      ¬ IsSignedHexadecimal (Text.trim s.toList) → (Value.string s).toNumber ≠ .nan →
      (Value.string s).leadingNumber = (Value.string s).toNumber) ∧
    Checked.ofLeading? s = some (Value.string s).leadingNumber := by
  refine ⟨ofLeading_eq_nan_iff, fun q m hq hfront => exists_longestNumeral hq hfront,
    fun p n hlongest => ofLeading_of_longestNumeral hlongest, fun l hlongest hshort => ?_,
    fun hempty hhex hsigned hnumber => ?_, Checked.ofLeading?_eq s⟩
  · rw [← l.value_eq_nearest hshort]
    exact ofLeading_of_longestNumeral hlongest
  · obtain ⟨n, hn⟩ := exists_numeral_of_ofText hnumber hempty hhex hsigned
    have hleading : ofLeading s = n := ofLeading_of_longestNumeral hn.longest_of_trim
    exact hleading.trans (hn.ofText_eq rfl).symm

/-- A numeral with a sign, a point and blanks in front of it: what looks like its exponent has no
digits and is left. With digits it is read, and coercion reads the same. -/
theorem leadingNumber_reads_before_broken_exponent :
    (∃ l : Literal, l.text = "-1.5".toList ∧
      LongestNumeral (Text.trimStart " -1.5e+x".toList) l.text l.value ∧ l.HasShortExponent ∧
      (Value.string " -1.5e+x").leadingNumber = l.nearest ∧
      l.nearest = .finite ⟨true, 3 * 2 ^ 51, 1022, by decide, by decide, by decide⟩) ∧
    (Value.string " -.15e+1 ").toNumber ≠ .nan ∧
      (Value.string " -.15e+1 ").leadingNumber = (Value.string " -.15e+1 ").toNumber := by
  obtain ⟨-, -, -, hnearest, -, -⟩ := leadingNumber_reads_longest_numeral " -1.5e+x"
  obtain ⟨-, -, -, -, hagree, -⟩ := leadingNumber_reads_longest_numeral " -.15e+1 "
  have hinfinity : ∀ sign, IsSign sign →
      ¬ sign ++ "Infinity".toList <+: Text.trimStart " -1.5e+x".toList := by
    rintro sign (rfl | rfl | rfl) <;> decide
  obtain ⟨l, hl⟩ : ∃ l : Literal, l = ⟨['-'], ['1'], some ['5'], none, .inr (.inr rfl),
    by simp [IsDigits], by simp [IsDigits], .inl (by simp)⟩ := ⟨_, rfl⟩
  have htext : l.text = "-1.5".toList := by
    rw [hl]
    rfl
  have htaken : leadingNumeral? (Text.trimStart " -1.5e+x".toList) = some l.text := by
    rw [htext]
    decide
  have hread := l.longestNumeral hinfinity htaken
  have hshort : l.HasShortExponent := by simp [Literal.HasShortExponent, hl]
  have hnumber : (Value.string " -.15e+1 ").toNumber ≠ .nan := by decide +kernel
  have hvalue : l.nearest = .finite ⟨true, 3 * 2 ^ 51, 1022, by decide, by decide, by decide⟩ := by
    rw [hl]
    decide +kernel
  obtain ⟨hhex, hsigned⟩ : ¬ IsHexadecimal (Text.trim " -.15e+1 ".toList) ∧
      ¬ IsSignedHexadecimal (Text.trim " -.15e+1 ".toList) := not_hexadecimal_of_head? (by decide)
  exact ⟨⟨l, htext, hread, hshort, hnearest l hread hshort, hvalue⟩, hnumber,
    hagree (by decide) hhex hsigned hnumber⟩

/-- Neither holds without the restriction: a one behind 655360 zeros is read as zero, and `0x-1F` as
the zero in front of its mark. -/
theorem not_leadingNumber_reads_longest_numeral :
    (¬ ∀ (s : String) (l : Literal), LongestNumeral (Text.trimStart s.toList) l.text l.value →
      (Value.string s).leadingNumber = l.nearest) ∧
    ¬ ∀ s : String, Text.trim s.toList ≠ [] → ¬ IsHexadecimal (Text.trim s.toList) →
      (Value.string s).toNumber ≠ .nan →
      (Value.string s).leadingNumber = (Value.string s).toNumber := by
  constructor
  · intro h
    have hlongest := (Numeral.literal (.oneBehindZeros 655360)).longest
      (show ∀ c ∈ [], Text.isBlank c by simp)
    have hread := h (.ofList (Literal.oneBehindZeros 655360).text) (.oneBehindZeros 655360)
    rw [String.toList_ofList, Literal.trimStart_text] at hread
    rw [List.append_nil] at hlongest
    have hone : ofLeading (.ofList (Literal.oneBehindZeros 655360).text) = 1 :=
      (hread hlongest).trans (Literal.nearest_oneBehindZeros 655360)
    rw [Literal.ofLeading_text, Literal.value_oneBehindZeros] at hone
    exact absurd hone (by decide +kernel)
  · intro h
    have hhex : ¬ IsHexadecimal ['0', 'x', '-', '1', 'F'] :=
      not_isHexadecimal_of_not_digit (by decide)
    have hnumber : (Value.string "0x-1F").toNumber ≠ .nan := by decide +kernel
    exact absurd (h "0x-1F" (by decide) hhex hnumber) (by decide +kernel)

end TemplateExpr
