import TemplateExpr.Eval.Methods
import TemplateExpr.Proofs.Library.Access
import TemplateExpr.Proofs.Number.Whole

/-!
# Slices

`slice` and `SUBSTRING` turn numbers into positions, each in a way of its own. Both are defined in
natural numbers; computed in doubles, with a sum that may be rounded and casts that saturate, they
give the same positions as long as a double can hold the length (`Checked.sliceEnd_eq`,
`Checked.position_eq`). The one thing to see is that nothing is rounded where it counts: the whole
part of a double is a double, and a sum with the length is below it, or below zero.

An end of a slice is the same position in front of it and behind it, so what comes before it and what
comes from it on make up the whole (`slices_partition`).
-/

namespace TemplateExpr

open Number

namespace Checked

/-! ## Bounds in doubles -/

/-- The unsigned 64-bit word nearest to a number without its fraction; not-a-number counts as zero. -/
def wordOf : Number → Nat
  | .nan => 0
  | .infinite negative => if negative then 0 else 2 ^ 64 - 1
  | .finite x => if x.negative then 0 else min x.whole (2 ^ 64 - 1)

/-- The position that a number stands for as an end of a slice. -/
def endAt (length : Nat) (n : Number) : Nat :=
  if n.isNaN then 0
  else
    let n := n.trunc
    if n.less 0 then wordOf ((.ofNat length + n).max 0) else min (wordOf n) length

def sliceEnd (length fallback : Nat) (v : Value) : Nat :=
  if v.isNullish then fallback else endAt length v.toNumber

def sliceBounds (length : Nat) (start stop : Value) : Nat × Nat :=
  let start := sliceEnd length 0 start
  let stop := sliceEnd length length stop
  (start, max stop start)

/-- A position of a substring. -/
def position (length : Nat) (n : Number) : Nat :=
  if n.isNaN || n.atMost 0 then 0 else min (wordOf n.trunc) length

theorem wordOf_of_isNegative {n : Number} (h : n.isNegative) : wordOf n = 0 := by
  cases n with
  | nan => rfl
  | infinite negative => exact if_pos h
  | finite x => exact if_pos h

theorem wordOf_natural_zero : wordOf 0 = 0 := by
  rw [natural_zero, wordOf, Finite.whole, Finite.units_zero, Nat.zero_div]
  rfl

/-- A cast makes nothing of what is below zero. -/
theorem wordOf_max_zero (n : Number) : wordOf (n.max 0) = wordOf n := by
  have hzero : (0 : Number).isNaN = false := isNaN_natural 0
  unfold Number.max
  rw [hzero, if_neg Bool.false_ne_true]
  split
  next hnan =>
    rw [wordOf_natural_zero]
    cases n with
    | nan => rfl
    | infinite | finite => cases hnan
  next =>
    split
    next hless => rw [wordOf_natural_zero, wordOf_of_isNegative (isNegative_of_less_zero hless)]
    next => rfl

/-- A sum that is an integer a double can hold is cast to it, and to zero if it is below zero. -/
theorem wordOf_add {x y : Finite} {i : Int} (h : x.signed + y.signed = i * unitsPerOne)
    (hlt : i < 2 ^ 53) : wordOf (.finite x + .finite y) = i.toNat := by
  rw [add_eq_ofInt h]
  by_cases hzero : i = 0
  · rw [if_pos hzero, hzero, zero, wordOf, Finite.whole, Finite.units_zero, Nat.zero_div]
    split <;> rfl
  · rw [if_neg hzero]
    by_cases hneg : i < 0
    · have hsign : (ofInt i).isNegative := by
        rw [ofInt, ofUnits, isNegative_ofQuotient]
        exact decide_eq_true hneg
      rw [wordOf_of_isNegative hsign, Int.toNat_of_nonpos (Int.le_of_lt hneg)]
    · obtain ⟨n, rfl⟩ := Int.eq_ofNat_of_zero_le (Int.not_lt.mp hneg)
      obtain ⟨z, hz, hznegative, hzunits⟩ := @exists_ofNat_eq n (by omega)
      have hofInt : ofInt n = .finite z := hz
      rw [hofInt, wordOf, hznegative, Finite.whole_of_units_eq hzunits]
      simp
      omega

theorem endAt_eq (length : Nat) {n : Number} (h : n.isNaN = false) :
    endAt length n =
      if n.trunc.less 0 then wordOf (.ofNat length + n.trunc) else min (wordOf n.trunc) length := by
  rw [endAt, h, if_neg Bool.false_ne_true]
  simp only [wordOf_max_zero]

section

variable {length : Nat} (h : length < 2 ^ 53)
include h

theorem endAt_infinite (negative : Bool) :
    endAt length (.infinite negative) = if negative then 0 else length := by
  obtain ⟨l, hl, -⟩ := exists_ofNat_eq h
  have htrunc : trunc (.infinite negative) = .infinite negative := rfl
  rw [endAt_eq length rfl, htrunc]
  cases negative with
  | true =>
    have hless : (infinite true).less 0 := by rw [natural_zero]; rfl
    rw [if_pos hless, hl]
    rfl
  | false =>
    have hless : ¬ (infinite false).less 0 := by rw [natural_zero]; decide
    rw [if_neg hless, wordOf, if_neg Bool.false_ne_true, if_neg Bool.false_ne_true]
    omega

theorem endAt_finite (x : Finite) :
    endAt length (.finite x) =
      if x.negative ∧ x.whole ≠ 0 then length - x.whole else min x.whole length := by
  obtain ⟨l, hl, hlnegative, hlunits⟩ := exists_ofNat_eq h
  obtain ⟨y, hy, hynegative, hyunits⟩ := exists_trunc_eq x
  have hone : unitsPerOne ≠ 0 := by decide
  have hless : (finite y).less 0 ↔ x.negative ∧ x.whole ≠ 0 := by
    rw [less_zero_iff, hynegative, hyunits, Nat.mul_ne_zero_iff, and_iff_left hone]
  rw [endAt_eq length rfl, hy]
  by_cases hneg : x.negative ∧ x.whole ≠ 0
  · have hsum : l.signed + y.signed = ((length : Int) - x.whole) * unitsPerOne := by
      rw [Finite.signed, Finite.signed, hlnegative, hynegative, if_neg Bool.false_ne_true,
        if_pos hneg.1, hlunits, hyunits, Int.sub_mul, Int.natCast_mul, Int.natCast_mul]
      rfl
    rw [if_pos (hless.mpr hneg), if_pos hneg, hl, wordOf_add hsum (by omega)]
    omega
  · rw [if_neg (mt hless.mp hneg), if_neg hneg, wordOf, hynegative,
      Finite.whole_of_units_eq hyunits]
    cases hnegative : x.negative with
    | true =>
      have hzero : x.whole = 0 := Decidable.not_not.mp fun h => hneg ⟨hnegative, h⟩
      rw [if_pos rfl, hzero]
    | false =>
      rw [if_neg Bool.false_ne_true]
      omega

/-- Ends of slices are the same in doubles. -/
theorem sliceEnd_eq (fallback : Nat) (v : Value) :
    sliceEnd length fallback v = v.sliceEnd length fallback := by
  unfold sliceEnd Value.sliceEnd
  split
  · rfl
  cases v.toNumber with
  | nan => rfl
  | infinite negative => exact endAt_infinite h negative
  | finite x => exact endAt_finite h x

theorem sliceBounds_eq (start stop : Value) :
    sliceBounds length start stop = Value.sliceBounds length start stop := by
  rw [sliceBounds, sliceEnd_eq h, sliceEnd_eq h, Value.sliceBounds, Nat.max_comm]

end

/-- Positions of substrings are the same in doubles. -/
theorem position_eq {length : Nat} (h : length < 2 ^ 53) (n : Number) :
    position length n = Library.clamp length n := by
  unfold position Library.clamp
  cases n with
  | nan => rfl
  | infinite negative =>
    have hle : (infinite negative).atMost 0 = negative := by
      rw [natural_zero]
      cases negative <;> rfl
    have htrunc : trunc (.infinite negative) = .infinite negative := rfl
    have hnan : (infinite negative).isNaN = false := rfl
    rw [hle, hnan, Bool.false_or, htrunc]
    cases negative with
    | true => rfl
    | false =>
      rw [if_neg Bool.false_ne_true, wordOf, if_neg Bool.false_ne_true]
      simp only [Bool.false_eq_true, if_false]
      omega
  | finite x =>
    obtain ⟨y, hy, hynegative, hyunits⟩ := exists_trunc_eq x
    have hnan : (finite x).isNaN = false := rfl
    rw [hnan, Bool.false_or, hy, wordOf, hynegative, Finite.whole_of_units_eq hyunits]
    show _ = if x.negative then 0 else min x.whole length
    cases hnegative : x.negative with
    | true => rw [if_pos (atMost_zero_iff.mpr (.inl hnegative)), if_pos rfl]
    | false =>
      rw [if_neg Bool.false_ne_true, if_neg Bool.false_ne_true]
      split
      next hle =>
        have hunits : x.units = 0 := (atMost_zero_iff.mp hle).resolve_left (by simp [hnegative])
        rw [Finite.whole, hunits, Nat.zero_div, Nat.zero_min]
      next => omega

end Checked

/-! ## Items between two positions -/

section

variable {α : Type}

/-- The items whose positions are between two integers, the first of them included. -/
def itemsBetween (items : List α) (first behind : Int) : List α :=
  (items.zipIdx.filter fun item => first ≤ item.2 ∧ (item.2 : Int) < behind).map Prod.fst

theorem drop_take_eq_filter_zipIdx (items : List α) (start stop offset : Nat) :
    (items.take (stop - offset)).drop (start - offset) =
      ((items.zipIdx offset).filter fun item => start ≤ item.2 ∧ item.2 < stop).map Prod.fst := by
  induction items generalizing offset with
  | nil => simp
  | cons item items ih =>
    have hbehind := ih (offset + 1)
    rw [List.zipIdx_cons]
    by_cases hstop : offset < stop
    · rw [show stop - offset = stop - (offset + 1) + 1 by omega, List.take_succ_cons]
      by_cases hstart : start ≤ offset
      · rw [show start - (offset + 1) = 0 by omega, List.drop_zero] at hbehind
        rw [show start - offset = 0 by omega, List.drop_zero, hbehind,
          List.filter_cons_of_pos (by simp [hstart, hstop]), List.map_cons]
      · rw [show start - offset = start - (offset + 1) + 1 by omega, List.drop_succ_cons, hbehind,
          List.filter_cons_of_neg (by simp [hstart])]
    · rw [show stop - (offset + 1) = 0 by omega, List.take_zero, List.drop_nil] at hbehind
      rw [show stop - offset = 0 by omega, List.take_zero, List.drop_nil, hbehind,
        List.filter_cons_of_neg (by simp [hstop])]

theorem drop_take_eq_itemsBetween (items : List α) (start stop : Nat) :
    (items.take stop).drop start = itemsBetween items start stop := by
  have hfilter := drop_take_eq_filter_zipIdx items start stop 0
  simpa [itemsBetween] using hfilter

end

/-! ## Slices of integers -/

namespace Value

/-- Where an integer points to in so many items: from their end if it is negative, and never beyond
either end. -/
def slicePosition (length : Nat) (i : Int) : Int := if i < 0 then max (length + i) 0 else min i length

variable {length : Nat}

theorem sliceEnd_le (length fallback : Nat) (h : fallback ≤ length) (v : Value) :
    v.sliceEnd length fallback ≤ length := by
  unfold sliceEnd
  split
  · exact h
  · split
    · exact Nat.zero_le length
    · split <;> omega
    · split <;> omega

theorem sliceBounds_le (length : Nat) (start stop : Value) :
    (sliceBounds length start stop).1 ≤ (sliceBounds length start stop).2 ∧
      (sliceBounds length start stop).2 ≤ length :=
  ⟨Nat.le_max_left _ _, Nat.max_le.mpr ⟨sliceEnd_le length 0 (Nat.zero_le length) start,
    sliceEnd_le length length (Nat.le_refl length) stop⟩⟩

theorem sliceEnd_integer {n : Number} {i : Int} (h : n.IsInteger i) (length fallback : Nat) :
    ((number n).sliceEnd length fallback : Int) = slicePosition length i := by
  obtain ⟨x, rfl, hx⟩ := h
  have hsign := Finite.negative_iff_of_signed_eq hx
  have hwhole := Finite.whole_of_signed_eq hx
  have hend : (number (.finite x)).sliceEnd length fallback =
      if x.negative ∧ x.whole ≠ 0 then length - x.whole else min x.whole length := rfl
  rw [hend, slicePosition]
  by_cases hneg : x.negative ∧ x.whole ≠ 0
  · have hi := hsign.mp hneg
    rw [if_pos hneg, if_pos hi]
    omega
  · have hi := mt hsign.mpr hneg
    rw [if_neg hneg, if_neg hi]
    omega

/-- A slice between integers is the items between the positions that they stand for. -/
theorem slice_integer {α : Type} {m n : Number} {i j : Int} (hm : m.IsInteger i)
    (hn : n.IsInteger j) (items : List α) :
    slice items (number m) (number n) =
      itemsBetween items (slicePosition items.length i) (slicePosition items.length j) := by
  have hfirst := sliceEnd_integer hm items.length 0
  have hbehind := sliceEnd_integer hn items.length items.length
  show (items.take (max _ _)).drop _ = _
  rw [drop_take_eq_itemsBetween]
  unfold itemsBetween
  congr 1
  refine List.filter_congr fun item _ => ?_
  rw [decide_eq_decide, ← hfirst, ← hbehind]
  omega

/-- Positions that a double can hold are the same for a slice, whatever it is taken from. -/
theorem slice_ofNat {α : Type} (items : List α) {start stop : Nat} (hstart : start < 2 ^ 53)
    (hstop : stop < 2 ^ 53) :
    slice items (number (.ofNat start)) (number (.ofNat stop)) = (items.take stop).drop start := by
  have hbegin : (Number.ofNat start).IsInteger start := @Number.isInteger_ofInt start hstart
  have hend : (Number.ofNat stop).IsInteger stop := @Number.isInteger_ofInt stop hstop
  rw [slice_integer hbegin hend, drop_take_eq_itemsBetween]
  unfold itemsBetween
  congr 1
  refine List.filter_congr fun item hitem => ?_
  have hlt : item.2 < items.length := by
    have := List.snd_lt_of_mem_zipIdx hitem
    omega
  rw [decide_eq_decide, slicePosition, slicePosition, if_neg (by omega), if_neg (by omega)]
  omega

/-- The slices up to a number and from that number on are the two parts of the items. -/
theorem slice_append_slice {α : Type} (items : List α) (n : Number) :
    slice items (number 0) (number n) ++ slice items (number n) undefined = items := by
  have hzero : (number 0).sliceEnd items.length 0 = 0 := by
    have hinteger : (0 : Number).IsInteger 0 := @isInteger_ofInt 0 (by decide)
    have hend := sliceEnd_integer hinteger items.length 0
    simp only [slicePosition] at hend
    omega
  have hle := sliceEnd_le items.length 0 (Nat.zero_le _) (number n)
  have hfront : slice items (number 0) (number n) =
      items.take ((number n).sliceEnd items.length 0) := by
    show (items.take (max ((number 0).sliceEnd items.length 0) _)).drop _ = _
    rw [hzero, Nat.zero_max, List.drop_zero]
    rfl
  have hback : slice items (number n) undefined =
      items.drop ((number n).sliceEnd items.length 0) := by
    show (items.take (max _ items.length)).drop _ = _
    rw [Nat.max_eq_right hle, List.take_length]
  rw [hfront, hback, List.take_append_drop]

end Value

/-! ## Substrings -/

namespace Library

/-- Adding to zero makes no difference but for the sign of a zero, which has none to a position. -/
theorem clamp_zero_add (length : Nat) (n : Number) :
    clamp length (.ofNat 0 + n) = clamp length n := by
  cases n with
  | nan => rfl
  | infinite negative =>
    have hsum : Number.ofNat 0 + .infinite negative = .infinite negative := by
      show (0 : Number) + _ = _
      rw [natural_zero]
      rfl
    rw [hsum]
  | finite x =>
    have hsum := zero_add_finite x
    show clamp length (0 + .finite x) = _
    rw [hsum]
    split
    next hunits =>
      rw [natural_zero, clamp, clamp, Finite.whole, Finite.units_zero, Finite.whole, hunits,
        Nat.zero_div, Nat.zero_min, ite_self, ite_self]
    next => rfl

/-- The substrings up to a number and from that number on are the two parts of the text. -/
theorem substring_append_substring (s : String) (n : Number) :
    substring [.string s, .number 0, .number n] ++ substring [.string s, .number n] = s := by
  have hzero : clamp s.toList.length (0 : Number) = 0 := by
    rw [natural_zero, clamp, Finite.whole, Finite.units_zero, Nat.zero_div, Nat.zero_min]
    rfl
  have hfront : substring [.string s, .number 0, .number n] =
      .ofList (s.toList.take (clamp s.toList.length n)) := by
    show String.ofList ((s.toList.take (clamp s.toList.length
      (.ofNat (clamp s.toList.length 0) + n))).drop (clamp s.toList.length 0)) = _
    rw [hzero, clamp_zero_add, List.drop_zero]
  have hback : substring [.string s, .number n] =
      .ofList (s.toList.drop (clamp s.toList.length n)) := by
    show String.ofList ((s.toList.take s.toList.length).drop _) = _
    rw [List.take_length]
    rfl
  rw [hfront, hback, ← String.ofList_append, List.take_append_drop, String.ofList_toList]

end Library

open Value in
/-- **Slices stay in range and part what they are taken from.** The bounds of a slice, computed in
doubles from values of any kind, are in order and within the length, if a double can hold it, and
they are the bounds in natural numbers; so are the positions of a substring. Between two integers a
slice has the items of an array, or the characters of a text, whose positions are between those that
the integers stand for. The slices up to a number and from it on, and likewise the substrings, are
the two parts of the whole. -/
theorem slices_partition :
    (∀ (length : Nat) (start stop : Value), length < 2 ^ 53 →
      (Checked.sliceBounds length start stop).1 ≤ (Checked.sliceBounds length start stop).2 ∧
        (Checked.sliceBounds length start stop).2 ≤ length ∧
        Checked.sliceBounds length start stop = sliceBounds length start stop) ∧
    (∀ (length : Nat) (n : Number), length < 2 ^ 53 →
      Checked.position length n = Library.clamp length n) ∧
    (∀ (items : List Value) (m n : Number) (i j : Int), m.IsInteger i → n.IsInteger j →
      (array items).method? "slice" [number m, number n] =
        some (.ok (array (itemsBetween items (slicePosition items.length i)
          (slicePosition items.length j))))) ∧
    (∀ (s : String) (m n : Number) (i j : Int), m.IsInteger i → n.IsInteger j →
      (string s).method? "slice" [number m, number n] =
        some (.ok (string (.ofList (itemsBetween s.toList (slicePosition s.toList.length i)
          (slicePosition s.toList.length j)))))) ∧
    (∀ (items : List Value) (n : Number), ∃ front back : List Value,
      (array items).method? "slice" [number 0, number n] = some (.ok (array front)) ∧
        (array items).method? "slice" [number n] = some (.ok (array back)) ∧
        front ++ back = items) ∧
    (∀ (s : String) (n : Number), ∃ front back : String,
      (string s).method? "slice" [number 0, number n] = some (.ok (string front)) ∧
        (string s).method? "slice" [number n] = some (.ok (string back)) ∧ front ++ back = s) ∧
    ∀ (now : Instant) (s : String) (n : Number), ∃ front back : String,
      Formula.substring.call now [string s, number 0, number n] = .ok (string front) ∧
        Formula.substring.call now [string s, number n] = .ok (string back) ∧
        front ++ back = s := by
  refine ⟨fun length start stop hlength => ?_, fun length n hlength => Checked.position_eq hlength n,
    fun items m n i j hm hn => ?_, fun s m n i j hm hn => ?_,
    fun items n => ⟨_, _, rfl, rfl, slice_append_slice items n⟩, fun s n => ⟨_, _, rfl, rfl, ?_⟩,
    fun now s n => ⟨_, _, rfl, rfl, Library.substring_append_substring s n⟩⟩
  · rw [Checked.sliceBounds_eq hlength]
    exact ⟨(sliceBounds_le length start stop).1, (sliceBounds_le length start stop).2, rfl⟩
  · rw [← slice_integer hm hn items]
    rfl
  · rw [← slice_integer hm hn s.toList]
    rfl
  · have hparts := slice_append_slice s.toList n
    rw [← String.ofList_append]
    exact (congrArg String.ofList hparts).trans String.ofList_toList

/-- Positions from the end of a text with a character beyond the first plane. -/
theorem slices_partition_of_negative_ends :
    (Checked.sliceBounds 4 (.string "x") .null).2 ≤ 4 ∧
      (Value.string "a😀bc").method? "slice" [.number (.ofInt (-3)), .number (.ofInt (-1))] =
        some (.ok (.string "😀b")) := by
  obtain ⟨hbounds, -, -, htext, -⟩ := slices_partition
  have hslice := htext "a😀bc" _ _ (-3) (-1) (isInteger_ofInt (by decide))
    (isInteger_ofInt (by decide))
  refine ⟨(hbounds 4 (.string "x") .null (by decide)).2.1, hslice.trans ?_⟩
  have hpart : itemsBetween "a😀bc".toList (Value.slicePosition "a😀bc".toList.length (-3))
      (Value.slicePosition "a😀bc".toList.length (-1)) = ['😀', 'b'] := by decide
  rw [hpart]

end TemplateExpr
