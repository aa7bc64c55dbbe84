import TemplateExpr.Proofs.Number.Successor

/-!
# Numerals with places

A numeral with places is digits with a point in front of the last of them (`pointed`), and counts
units in its last place (`UnitsOf`). One unit more in the last place makes their number one greater
and keeps the places (`exists_addLastPlace_eq`). A double is written as the numeral of the
natural number that it is rounded to (`exists_withPlaces_unitsOf`). So is what a double is written as
with a fixed number of places, where the places beyond that read as a half are those that make half a
unit (`isTie_iff`): `Finite.roundedTo` is the number of units that is shown
(`exists_fixedMagnitude_unitsOf`).
-/

namespace TemplateExpr

open Number (IsDigits DigitsOf isDigits_append)

/-! ## The point -/

/-- Digits with a point in front of those behind it, if there are any. -/
def pointed (whole fraction : List Char) : List Char :=
  whole ++ if fraction = [] then [] else '.' :: fraction

/-- The point goes if no place stands behind it. -/
theorem pointed_eq (whole fraction : List Char) :
    pointed whole fraction =
      if fraction.length = 0 then (whole ++ '.' :: fraction).dropLast
      else whole ++ '.' :: fraction := by
  cases fraction with
  | nil => simp [pointed]
  | cons c fraction => simp [pointed]

/-- Digits around a point count so many units in the last place. -/
structure UnitsOf (whole fraction : List Char) (units : Nat) : Prop where
  whole_ne_nil : whole ≠ []
  digits : DigitsOf (whole ++ fraction) units

section

variable {whole fraction : List Char} (hwhole : IsDigits whole) (hfraction : IsDigits fraction)
include hwhole hfraction

theorem digitsIn_pointed : digitsIn (pointed whole fraction) = whole ++ fraction := by
  unfold pointed
  split
  next hplaces => rw [hplaces, List.append_nil, digitsIn_of_isDigits hwhole]
  next =>
    have hpoint : digitsIn ('.' :: fraction) = digitsIn fraction := rfl
    rw [digitsIn_append, hpoint, digitsIn_of_isDigits hwhole, digitsIn_of_isDigits hfraction]

theorem digit_or_point_of_mem_pointed : ∀ c ∈ pointed whole fraction, c.isDigit ∨ c = '.' := by
  refine List.forall_mem_append.mpr ⟨fun c hc => .inl (hwhole c hc), ?_⟩
  split
  · exact List.forall_mem_nil _
  · exact List.forall_mem_cons.mpr ⟨.inr rfl, fun c hc => .inl (hfraction c hc)⟩

/-- A text with the point of a numeral, but for more digits in front, is a numeral with as many
places. -/
theorem exists_eq_pointed {text : List Char} (h : ∀ c ∈ text, c.isDigit ∨ c = '.') {more : Nat}
    (hpoints : pointsIn text = List.replicate more false ++ pointsIn (pointed whole fraction)) :
    ∃ whole' fraction', text = pointed whole' fraction' ∧ IsDigits (whole' ++ fraction') ∧
      whole'.length = more + whole.length ∧ fraction'.length = fraction.length := by
  unfold pointed at hpoints
  split at hpoints
  next hplaces =>
    rw [List.append_nil, pointsIn_of_isDigits hwhole, List.replicate_append_replicate] at hpoints
    obtain ⟨hdigits, hlength⟩ := isDigits_of_pointsIn h hpoints
    refine ⟨text, [], ?_, by rwa [List.append_nil], hlength, by rw [hplaces]⟩
    rw [pointed, if_pos rfl, List.append_nil]
  next hplaces =>
    have hpoint : pointsIn ('.' :: fraction) = true :: pointsIn fraction := rfl
    rw [pointsIn_append, hpoint, pointsIn_of_isDigits hwhole, pointsIn_of_isDigits hfraction,
      ← List.append_assoc, List.replicate_append_replicate] at hpoints
    obtain ⟨whole', fraction', rfl, hdigits, hlength, hlength'⟩ := exists_eq_append_point h hpoints
    have hne : fraction' ≠ [] := by
      rintro rfl
      exact hplaces (List.eq_nil_of_length_eq_zero hlength'.symm)
    exact ⟨whole', fraction', by rw [pointed, if_neg hne], hdigits, hlength, hlength'⟩

end

/-- One unit more in the last place of a numeral, which keeps its places. -/
theorem exists_addLastPlace_eq {whole fraction : List Char} {units : Nat}
    (h : UnitsOf whole fraction units) :
    ∃ whole' fraction', addLastPlace (pointed whole fraction) = pointed whole' fraction' ∧
      UnitsOf whole' fraction' (units + 1) ∧ fraction'.length = fraction.length := by
  obtain ⟨hne, hdigits, -, rfl⟩ := h
  obtain ⟨hwhole, hfraction⟩ := isDigits_append.mp hdigits
  have hmore := oneUnitMore_addLastPlace (digit_or_point_of_mem_pointed hwhole hfraction)
  obtain ⟨whole', fraction', hnext, hdigits', hlength, hplaces⟩ :=
    exists_eq_pointed hwhole hfraction hmore.digit_or_point hmore.points
  obtain ⟨hwhole', hfraction'⟩ := isDigits_append.mp hdigits'
  have hvalue := hmore.value
  rw [hnext, digitsIn_pointed hwhole' hfraction', digitsIn_pointed hwhole hfraction] at hvalue
  have hne' : whole' ≠ [] := by
    have hpos := List.length_pos_iff.mpr hne
    exact List.ne_nil_of_length_pos (by omega)
  exact ⟨whole', fraction', hnext, ⟨hne', hdigits', by simp [hne'], hvalue⟩, hplaces⟩

/-! ## Halves -/

/-- The places that read as a half are those that make half a unit. -/
theorem isTie_iff {beyond : List Char} (h : IsDigits beyond) :
    Number.Finite.isTie beyond ↔ 2 * digitsValue beyond = 10 ^ beyond.length := by
  cases beyond with
  | nil => decide
  | cons c rest =>
    obtain ⟨hc, hrest⟩ := List.forall_mem_cons.mp h
    obtain ⟨n, hn, rfl⟩ := exists_digitChar_eq hc
    have hdigit : ∀ n < 10, digitsValue [Nat.digitChar n] = n := by decide
    have hlt : digitsValue rest < 10 ^ rest.length := ofDigitChars_lt hrest
    have hvalue : digitsValue (Nat.digitChar n :: rest) = 10 ^ rest.length * n + digitsValue rest := by
      rw [← List.singleton_append, digitsValue_append, hdigit n hn]
    have htie : Number.Finite.isTie (Nat.digitChar n :: rest) ↔ n = 5 ∧ ∀ c ∈ rest, c = '0' := by
      unfold Number.Finite.isTie
      split
      next heq =>
        obtain ⟨hfive, rfl⟩ := List.cons.inj heq
        have hn5 : ∀ n < 10, Nat.digitChar n = '5' → n = 5 := by decide
        simp [hn5 n hn hfive]
      next hother =>
        have hn5 : n ≠ 5 := fun hfive => hother rest (by rw [hfive]; rfl)
        simp [hn5]
    rw [htie, ← digitsValue_eq_zero_iff hrest, hvalue, List.length_cons, Nat.pow_succ]
    rcases Nat.lt_trichotomy n 5 with hless | rfl | hmore
    · have hmul := Nat.mul_le_mul_left (10 ^ rest.length) (show n + 1 ≤ 5 from hless)
      rw [Nat.mul_succ] at hmul
      omega
    · omega
    · have hmul := Nat.mul_le_mul_left (10 ^ rest.length) (show 6 ≤ n from hmore)
      omega

namespace Number.Finite

variable (x : Finite) (places : Nat)

theorem le_length_paddedDigits (width n : Nat) : width ≤ (paddedDigits width n).length := by
  simp only [paddedDigits, Layout.zeros, List.length_append, List.length_replicate]
  omega

/-- A double is written with places as the number of units that it is rounded to. -/
theorem exists_withPlaces_unitsOf :
    ∃ whole fraction, x.withPlaces places = pointed whole fraction ∧
      UnitsOf whole fraction (x.scaledBy places) ∧ fraction.length = places := by
  obtain ⟨digits, hdigits⟩ : ∃ digits, digits = paddedDigits (places + 1) (x.scaledBy places) :=
    ⟨_, rfl⟩
  have hlength : places + 1 ≤ digits.length := hdigits ▸ le_length_paddedDigits _ _
  have hunits : DigitsOf digits (x.scaledBy places) :=
    hdigits ▸ (digitsOf_toDigits _).zeros_append _
  refine ⟨digits.take (digits.length - places), digits.drop (digits.length - places), ?_,
    ⟨?_, by rwa [List.take_append_drop]⟩, ?_⟩
  · rw [withPlaces, ← hdigits]
    by_cases hplaces : places = 0
    · simp [pointed, hplaces]
    · have hne : digits.drop (digits.length - places) ≠ [] := by
        refine List.ne_nil_of_length_pos ?_
        rw [List.length_drop]
        omega
      simp [pointed, hplaces, hne]
  · refine List.ne_nil_of_length_pos ?_
    rw [List.length_take]
    omega
  · rw [List.length_drop]
    omega

/-- The units that the places asked for show if the places that decide about a half are cut off. -/
def keptUnits : Nat := x.scaledBy (places + tiePlaces) / 10 ^ tiePlaces

theorem exists_expanded_unitsOf :
    ∃ whole asked beyond, x.withPlaces (places + tiePlaces) = (whole ++ '.' :: asked) ++ beyond ∧
      UnitsOf whole asked (x.keptUnits places) ∧
      asked.length = places ∧ IsDigits beyond ∧ beyond.length = tiePlaces ∧
      digitsValue beyond = x.scaledBy (places + tiePlaces) % 10 ^ tiePlaces := by
  obtain ⟨whole, fraction, hexpanded, ⟨hne, hdigits, -, hvalue⟩, hlength⟩ :=
    x.exists_withPlaces_unitsOf (places + tiePlaces)
  obtain ⟨asked, beyond, rfl, hasked, hbeyond⟩ : ∃ asked beyond, fraction = asked ++ beyond ∧
      asked.length = places ∧ beyond.length = tiePlaces := by
    refine ⟨fraction.take places, fraction.drop places, (List.take_append_drop _ _).symm, ?_, ?_⟩
    · rw [List.length_take]
      omega
    · rw [List.length_drop]
      omega
  rw [← List.append_assoc] at hdigits hvalue
  obtain ⟨hnumeral, htie⟩ := isDigits_append.mp hdigits
  have hlt : digitsValue beyond < 10 ^ tiePlaces := hbeyond ▸ ofDigitChars_lt htie
  have hsplit : x.scaledBy (places + tiePlaces) =
      10 ^ tiePlaces * digitsValue (whole ++ asked) + digitsValue beyond := by
    rw [← hvalue, ← digitsValue, digitsValue_append, hbeyond]
  have hquotient : digitsValue (whole ++ asked) = x.keptUnits places := by
    rw [keptUnits, hsplit, Nat.mul_add_div (by decide), Nat.div_eq_of_lt hlt, Nat.add_zero]
  have hremainder : digitsValue beyond = x.scaledBy (places + tiePlaces) % 10 ^ tiePlaces := by
    rw [hsplit, Nat.mul_add_mod, Nat.mod_eq_of_lt hlt]
  have hsome : asked ++ beyond ≠ [] := List.ne_nil_of_length_pos (by simp [hbeyond, tiePlaces])
  refine ⟨whole, asked, beyond, ?_, ⟨hne, hnumeral, by simp [hne], hquotient⟩, hasked, htie, hbeyond,
    hremainder⟩
  rw [hexpanded, pointed, if_neg hsome, List.append_assoc, List.cons_append]

/-- The places that decide make half a unit. -/
def ReadsAsHalf : Prop := 2 * (x.scaledBy (places + tiePlaces) % 10 ^ tiePlaces) = 10 ^ tiePlaces

instance : Decidable (x.ReadsAsHalf places) := inferInstanceAs (Decidable (_ = _))

/-- The units in the last of some places that a double is rounded to. -/
def roundedTo : Nat :=
  if x.ReadsAsHalf places then x.keptUnits places + 1 else x.scaledBy places

/-- A double is written with a fixed number of places as the number of units that it is rounded
to. -/
theorem exists_fixedMagnitude_unitsOf :
    ∃ whole fraction, x.fixedMagnitude places = pointed whole fraction ∧
      UnitsOf whole fraction (x.roundedTo places) ∧ fraction.length = places := by
  obtain ⟨whole, asked, beyond, hexpanded, hunits, hasked, hbeyond, hlength, hvalue⟩ :=
    x.exists_expanded_unitsOf places
  have hcut : (x.withPlaces (places + tiePlaces)).length - tiePlaces =
      (whole ++ '.' :: asked).length := by
    rw [hexpanded, List.length_append, hlength, Nat.add_sub_cancel]
  have hkept := pointed_eq whole asked
  rw [hasked] at hkept
  have htie := isTie_iff hbeyond
  rw [hlength, hvalue, ← ReadsAsHalf] at htie
  unfold fixedMagnitude roundedTo
  dsimp only
  rw [hcut, hexpanded, List.take_left, List.drop_left, ← hkept]
  by_cases hhalf : isTie beyond
  · rw [if_pos hhalf, if_pos (htie.mp hhalf), ← hasked]
    exact exists_addLastPlace_eq (hasked ▸ hunits)
  · rw [if_neg hhalf, if_neg (mt htie.mpr hhalf)]
    exact x.exists_withPlaces_unitsOf places

end Number.Finite

end TemplateExpr
