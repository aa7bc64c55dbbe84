import Mathlib.Algebra.Order.Field.Basic
import Mathlib.Data.Rat.Cast.Order
import TemplateExpr.Number.Fixed
import TemplateExpr.Proofs.Number.Written
import TemplateExpr.Proofs.Text.Digits

/-!
# One unit more in the last place

A numeral is raised from its last character on: a point and a nine pass the carry on, any other digit
takes it, and in front of the first character it becomes a digit of its own. One lemma for each of
these cases says what the step keeps (`OneUnitMore`): points stay where they are, seen from behind,
and the number of the digits grows by one. Together they hold of every text of digits and points
(`oneUnitMore_addLastPlace`). A plain decimal numeral stays one therefore, with as many places, and
denotes one unit of the last place more (`addLastPlace_adds_unit`).
-/

namespace TemplateExpr

open Number (IsDigits isDigits_append)

/-- The natural number that digits denote. -/
abbrev digitsValue (digits : List Char) : Nat := Nat.ofDigitChars 10 digits 0

/-! ## Digits -/

theorem exists_digitChar_eq {c : Char} (h : c.isDigit) : ∃ n, n < 10 ∧ c = Nat.digitChar n := by
  have hrange := toNat_of_isDigit h
  refine ⟨c.toNat - 48, by omega, Char.toNat_inj.mp ?_⟩
  rw [Nat.toNat_digitChar_of_lt_ten (by omega)]
  omega

theorem digitsValue_append (front back : List Char) :
    digitsValue (front ++ back) = 10 ^ back.length * digitsValue front + digitsValue back := by
  rw [digitsValue, Nat.ofDigitChars_append, Nat.ofDigitChars_eq_ofDigitChars_zero]

theorem digitsValue_concat (digits : List Char) {n : Nat} (h : n < 10) :
    digitsValue (digits ++ [Nat.digitChar n]) = 10 * digitsValue digits + n := by
  have hdigit : ∀ n < 10, digitsValue [Nat.digitChar n] = n := by decide
  rw [digitsValue_append, hdigit n h, List.length_singleton, Nat.pow_one]

/-- Digits that denote zero are zeros. -/
theorem digitsValue_eq_zero_iff {digits : List Char} (h : IsDigits digits) :
    digitsValue digits = 0 ↔ ∀ c ∈ digits, c = '0' := by
  constructor
  · intro hzero
    induction digits using List.reverseRecOn with
    | nil => simp
    | append_singleton digits c ih =>
      obtain ⟨hdigits, hc⟩ := isDigits_append.mp h
      obtain ⟨n, hn, rfl⟩ := exists_digitChar_eq (hc c (List.mem_singleton_self c))
      rw [digitsValue_concat _ hn] at hzero
      obtain rfl : n = 0 := by omega
      exact List.forall_mem_append.mpr ⟨ih hdigits (by omega), List.forall_mem_singleton.mpr rfl⟩
  · intro hall
    rw [List.eq_replicate_iff.mpr ⟨rfl, hall⟩, digitsValue, Nat.ofDigitChars_replicate_zero,
      Nat.mul_zero]

/-! ## Digits and points -/

/-- The digits of a text. -/
def digitsIn (text : List Char) : List Char := text.filter Char.isDigit

/-- Which of the characters of a text are points. -/
def pointsIn (text : List Char) : List Bool := text.map (· == '.')

/-- Whether all the digits of a text are nines. -/
def allNines (text : List Char) : Bool := (digitsIn text).all (· == '9')

section

variable (front back : List Char)

@[simp] theorem digitsIn_append : digitsIn (front ++ back) = digitsIn front ++ digitsIn back :=
  List.filter_append ..

@[simp] theorem pointsIn_append : pointsIn (front ++ back) = pointsIn front ++ pointsIn back :=
  List.map_append

@[simp] theorem allNines_append : allNines (front ++ back) = (allNines front && allNines back) := by
  rw [allNines, digitsIn_append, List.all_append, allNines, allNines]

end

section

variable {digits : List Char} (h : IsDigits digits)
include h

theorem digitsIn_of_isDigits : digitsIn digits = digits := List.filter_eq_self.mpr h

theorem pointsIn_of_isDigits : pointsIn digits = List.replicate digits.length false :=
  List.map_eq_replicate_iff.mpr fun c hc => beq_false_of_ne (ne_point_of_isDigit (h c hc))

end

section

variable {text : List Char} (h : ∀ c ∈ text, c.isDigit ∨ c = '.')
include h

/-- Where no point is, there are digits. -/
theorem isDigits_of_pointsIn {n : Nat} (hpoints : pointsIn text = List.replicate n false) :
    IsDigits text ∧ text.length = n := by
  obtain ⟨hlength, hmarks⟩ := List.eq_replicate_iff.mp hpoints
  refine ⟨fun c hc => (h c hc).resolve_right ?_, by rwa [pointsIn, List.length_map] at hlength⟩
  exact ne_of_beq_false (hmarks _ (List.mem_map_of_mem hc))

/-- Where one point is, there are digits around it. -/
theorem exists_eq_append_point {m k : Nat}
    (hpoints : pointsIn text = List.replicate m false ++ true :: List.replicate k false) :
    ∃ whole fraction, text = whole ++ '.' :: fraction ∧ IsDigits (whole ++ fraction) ∧
      whole.length = m ∧ fraction.length = k := by
  obtain ⟨whole, behind, rfl, hwhole, hbehind⟩ := List.map_eq_append_iff.mp hpoints
  obtain ⟨c, fraction, rfl, hc, hfraction⟩ := List.map_eq_cons_iff.mp hbehind
  obtain rfl := eq_of_beq hc
  obtain ⟨hfront, hback⟩ := List.forall_mem_append.mp h
  obtain ⟨hdigits, hlength⟩ := isDigits_of_pointsIn hfront hwhole
  obtain ⟨hdigits', hlength'⟩ := isDigits_of_pointsIn (List.forall_mem_cons.mp hback).2 hfraction
  exact ⟨whole, fraction, rfl, isDigits_append.mpr ⟨hdigits, hdigits'⟩, hlength, hlength'⟩

end

/-! ## One unit more -/

/-- A text of digits and points that counts one unit more than another one. The points stay where
they are, seen from behind, and if all digits are nines there is one digit more in front. -/
structure OneUnitMore (text next : List Char) : Prop where
  digit_or_point : ∀ c ∈ next, c.isDigit ∨ c = '.'
  points : pointsIn next =
    List.replicate (if allNines text then 1 else 0) false ++ pointsIn text
  value : digitsValue (digitsIn next) = digitsValue (digitsIn text) + 1

namespace OneUnitMore

theorem nil : OneUnitMore [] ['1'] where
  digit_or_point := List.forall_mem_singleton.mpr (.inl rfl)
  points := rfl
  value := rfl

section

variable {text next : List Char} (h : OneUnitMore text next)
include h

/-- A point passes the carry on. -/
theorem concat_point : OneUnitMore (text ++ ['.']) (next ++ ['.']) where
  digit_or_point :=
    List.forall_mem_append.mpr ⟨h.digit_or_point, List.forall_mem_singleton.mpr (.inr rfl)⟩
  points := by
    have hnines : allNines ['.'] = true := rfl
    rw [pointsIn_append, h.points, allNines_append, hnines, Bool.and_true, pointsIn_append,
      List.append_assoc]
  value := by
    have hnone : digitsIn ['.'] = [] := rfl
    rw [digitsIn_append, digitsIn_append, hnone, List.append_nil, List.append_nil, h.value]

/-- A nine becomes a zero and passes the carry on. -/
theorem concat_nine : OneUnitMore (text ++ ['9']) (next ++ ['0']) where
  digit_or_point :=
    List.forall_mem_append.mpr ⟨h.digit_or_point, List.forall_mem_singleton.mpr (.inl rfl)⟩
  points := by
    have hnines : allNines ['9'] = true := rfl
    have hdigit : pointsIn ['0'] = pointsIn ['9'] := rfl
    rw [pointsIn_append, h.points, allNines_append, hnines, Bool.and_true, pointsIn_append, hdigit,
      List.append_assoc]
  value := by
    have hzero : digitsIn ['0'] = [Nat.digitChar 0] := rfl
    have hnine : digitsIn ['9'] = [Nat.digitChar 9] := rfl
    rw [digitsIn_append, digitsIn_append, hzero, hnine, digitsValue_concat _ (by decide),
      digitsValue_concat _ (by decide), h.value]
    omega

end

/-- Any other digit takes the carry. -/
theorem concat_digitChar {text : List Char} (h : ∀ c ∈ text, c.isDigit ∨ c = '.') {n : Nat}
    (hn : n < 9) : OneUnitMore (text ++ [Nat.digitChar n]) (text ++ [Nat.digitChar (n + 1)]) where
  digit_or_point := by
    have hdigit : ∀ n < 9, (Nat.digitChar (n + 1)).isDigit := by decide
    exact List.forall_mem_append.mpr ⟨h, List.forall_mem_singleton.mpr (.inl (hdigit n hn))⟩
  points := by
    have hnines : ∀ n < 9, allNines [Nat.digitChar n] = false := by decide
    have hdigit : ∀ n < 9, pointsIn [Nat.digitChar (n + 1)] = pointsIn [Nat.digitChar n] := by decide
    rw [allNines_append, hnines n hn, Bool.and_false, if_neg Bool.false_ne_true,
      List.replicate_zero, List.nil_append, pointsIn_append, pointsIn_append, hdigit n hn]
  value := by
    have hdigit : ∀ n < 10, digitsIn [Nat.digitChar n] = [Nat.digitChar n] := by decide
    rw [digitsIn_append, digitsIn_append, hdigit n (by omega), hdigit (n + 1) (by omega),
      digitsValue_concat _ (by omega), digitsValue_concat _ (by omega), Nat.add_assoc]

end OneUnitMore

section

variable (text : List Char)

theorem addLastPlace_concat_point :
    addLastPlace (text ++ ['.']) = addLastPlace text ++ ['.'] := by
  simp [addLastPlace, bumpReversed]

theorem addLastPlace_concat_nine :
    addLastPlace (text ++ ['9']) = addLastPlace text ++ ['0'] := by
  simp [addLastPlace, bumpReversed]

theorem addLastPlace_concat_digitChar {n : Nat} (h : n < 9) :
    addLastPlace (text ++ [Nat.digitChar n]) = text ++ [Nat.digitChar (n + 1)] := by
  have hcases : n = 0 ∨ n = 1 ∨ n = 2 ∨ n = 3 ∨ n = 4 ∨ n = 5 ∨ n = 6 ∨ n = 7 ∨ n = 8 := by omega
  have hbump : bumpReversed (Nat.digitChar n :: text.reverse) =
      Nat.digitChar (n + 1) :: text.reverse := by
    rcases hcases with rfl | rfl | rfl | rfl | rfl | rfl | rfl | rfl | rfl <;> rfl
  simp [addLastPlace, hbump]

end

/-- **One unit more in the last place of digits and points.** -/
theorem oneUnitMore_addLastPlace {text : List Char} (h : ∀ c ∈ text, c.isDigit ∨ c = '.') :
    OneUnitMore text (addLastPlace text) := by
  -- The text is taken apart from behind, as the carry goes: what is in front of the last character is
  -- raised as a text of its own, and only if that character passes the carry on.
  induction text using List.reverseRecOn with
  | nil => exact .nil
  | append_singleton text c ih =>
    obtain ⟨htext, hlast⟩ := List.forall_mem_append.mp h
    rcases hlast c (List.mem_singleton_self c) with hc | rfl
    · obtain ⟨n, hn, rfl⟩ := exists_digitChar_eq hc
      rcases Nat.lt_or_eq_of_le (Nat.le_of_lt_succ hn) with hlt | rfl
      · rw [addLastPlace_concat_digitChar text hlt]
        exact .concat_digitChar htext hlt
      · show OneUnitMore (text ++ ['9']) (addLastPlace (text ++ ['9']))
        rw [addLastPlace_concat_nine]
        exact (ih htext).concat_nine
    · rw [addLastPlace_concat_point]
      exact (ih htext).concat_point

/-! ## Plain numerals -/

/-- A decimal numeral without a sign and an exponent: digits, one at least, and at most one point among
them, in front of them or behind them. -/
structure IsPlainNumeral (text : List Char) : Prop where
  digit_or_point : ∀ c ∈ text, c.isDigit ∨ c = '.'
  exists_digit : ∃ c ∈ text, c.isDigit
  count_point_le_one : text.count '.' ≤ 1

/-- The number of digits behind the point; without a point it is zero. -/
def placesIn (text : List Char) : Nat := (digitsIn (text.dropWhile (· != '.'))).length

/-- What a numeral denotes: its digits count units of the last place. -/
def decimalValue (text : List Char) : ℚ := digitsValue (digitsIn text) / 10 ^ placesIn text

/-- Neither the first character nor the last one is a point. -/
def IsPointInside (text : List Char) : Prop := text.head? ≠ some '.' ∧ text.getLast? ≠ some '.'

theorem count_point_eq (text : List Char) : text.count '.' = (pointsIn text).count true := by
  rw [pointsIn, List.count, List.count, List.countP_map]
  exact List.countP_congr fun c _ => by simp

theorem length_digitsIn {text : List Char} (h : ∀ c ∈ text, c.isDigit ∨ c = '.') :
    (digitsIn text).length = (pointsIn text).count false := by
  rw [digitsIn, ← List.countP_eq_length_filter, pointsIn, List.count, List.countP_map]
  refine List.countP_congr fun c hc => ?_
  rcases h c hc with hdigit | rfl
  · simp [hdigit, ne_point_of_isDigit hdigit]
  · decide

theorem placesIn_eq_count {text : List Char} (h : ∀ c ∈ text, c.isDigit ∨ c = '.') :
    placesIn text = ((pointsIn text).dropWhile (!·)).count false := by
  have hbehind : pointsIn (text.dropWhile (· != '.')) = (pointsIn text).dropWhile (!·) :=
    List.dropWhile_map.symm
  rw [placesIn, length_digitsIn fun c hc => h c ((List.dropWhile_sublist _).subset hc), hbehind]

theorem isPointInside_iff (text : List Char) :
    IsPointInside text ↔
      (pointsIn text).head? ≠ some true ∧ (pointsIn text).getLast? ≠ some true := by
  simp [IsPointInside, pointsIn, List.head?_map, List.getLast?_map]

namespace OneUnitMore

variable {text next : List Char} (h : OneUnitMore text next)
include h

theorem count_point : next.count '.' = text.count '.' := by
  rw [count_point_eq, count_point_eq, h.points, List.count_append, List.count_replicate]
  simp

theorem point_mem_iff : '.' ∈ next ↔ '.' ∈ text := by
  rw [← List.count_pos_iff, h.count_point, List.count_pos_iff]

theorem exists_digit : ∃ c ∈ next, c.isDigit := by
  obtain ⟨c, hc⟩ := List.exists_mem_of_ne_nil (digitsIn next) <| by
    intro hnone
    have hvalue := h.value
    rw [hnone] at hvalue
    exact absurd hvalue.symm (Nat.succ_ne_zero _)
  exact ⟨c, List.mem_filter.mp hc⟩

theorem isPointInside (hne : text ≠ []) (hinside : IsPointInside text) : IsPointInside next := by
  obtain ⟨hfirst, hlast⟩ := (isPointInside_iff text).mp hinside
  have hmarks : pointsIn text ≠ [] := mt List.map_eq_nil_iff.mp hne
  rw [isPointInside_iff, h.points, List.getLast?_append_of_ne_nil _ hmarks]
  refine ⟨?_, hlast⟩
  cases allNines text
  · exact hfirst
  · exact nofun

section

variable (htext : ∀ c ∈ text, c.isDigit ∨ c = '.')
include htext

theorem length_digitsIn_eq :
    (digitsIn next).length = (digitsIn text).length + if allNines text then 1 else 0 := by
  rw [length_digitsIn h.digit_or_point, length_digitsIn htext, h.points, List.count_append,
    List.count_replicate_self, Nat.add_comm]

theorem placesIn_eq : placesIn next = placesIn text := by
  have hskip : ∀ mark ∈ List.replicate (if allNines text then 1 else 0) false, (!mark) = true := by
    intro mark hmark
    rw [List.eq_of_mem_replicate hmark]
    rfl
  rw [placesIn_eq_count h.digit_or_point, placesIn_eq_count htext, h.points,
    List.dropWhile_append_of_pos hskip]

theorem decimalValue_eq : decimalValue next = decimalValue text + 1 / 10 ^ placesIn text := by
  rw [decimalValue, decimalValue, h.placesIn_eq htext, h.value, Nat.cast_succ, add_div]

end

end OneUnitMore

/-- **Raising a plain decimal numeral by one unit of its last place.** The result is such a numeral
with the same places, which has a digit more if all digits were nines. A point with digits on both
sides keeps them. -/
theorem addLastPlace_adds_unit {text : List Char} (h : IsPlainNumeral text) :
    IsPlainNumeral (addLastPlace text) ∧
    (IsPointInside text → IsPointInside (addLastPlace text)) ∧
    ('.' ∈ addLastPlace text ↔ '.' ∈ text) ∧
    placesIn (addLastPlace text) = placesIn text ∧
    (digitsIn (addLastPlace text)).length =
      (digitsIn text).length + (if allNines text then 1 else 0) ∧
    decimalValue (addLastPlace text) = decimalValue text + 1 / 10 ^ placesIn text := by
  have hmore := oneUnitMore_addLastPlace h.digit_or_point
  obtain ⟨c, hc, -⟩ := h.exists_digit
  exact ⟨⟨hmore.digit_or_point, hmore.exists_digit, hmore.count_point ▸ h.count_point_le_one⟩,
    hmore.isPointInside (List.ne_nil_of_mem hc), hmore.point_mem_iff,
    hmore.placesIn_eq h.digit_or_point, hmore.length_digitsIn_eq h.digit_or_point,
    hmore.decimalValue_eq h.digit_or_point⟩

/-- The carry crosses the point and leaves a digit more in front. -/
theorem addLastPlace_adds_unit_across_point :
    IsPlainNumeral "9.99".toList ∧ IsPointInside "9.99".toList ∧
      addLastPlace "9.99".toList = "10.00".toList ∧ IsPlainNumeral "10.00".toList ∧
      IsPointInside "10.00".toList ∧ placesIn "10.00".toList = placesIn "9.99".toList ∧
      (digitsIn "10.00".toList).length = (digitsIn "9.99".toList).length + 1 ∧
      decimalValue "10.00".toList = decimalValue "9.99".toList + 1 / 10 ^ 2 := by
  have hnumeral : IsPlainNumeral "9.99".toList := ⟨by simp, ⟨'9', by simp, rfl⟩, by decide⟩
  have hinside : IsPointInside "9.99".toList := ⟨by decide, by decide⟩
  have hnext : addLastPlace "9.99".toList = "10.00".toList := by decide
  have hplaces : placesIn "9.99".toList = 2 := by decide
  have hnines : allNines "9.99".toList = true := by decide
  have hraised := addLastPlace_adds_unit hnumeral
  rw [hnext, hnines, if_pos rfl] at hraised
  obtain ⟨hnumeral', hinside', -, hplaces', hlength, hvalue⟩ := hraised
  exact ⟨hnumeral, hinside, hnext, hnumeral', hinside' hinside, hplaces', hlength, hplaces ▸ hvalue⟩

end TemplateExpr
