import TemplateExpr.Proofs.Eval.Values
import TemplateExpr.Proofs.Number.WholeDigits

/-!
# Items of an array

A number is a key of an array through its text. A text that is a position is a literal without a
point and without an exponent, so the number that has this text is the one nearest to the position
(`readBack_eq_ofNat`), and below `2^53` it is the position itself. The other way round, every whole
number below `2^53` is written with its digits. So an array whose length a double can hold is indexed
by the integers below its length, and by no other number.

The searches compare the items with a value one after the other. Both find the same items, but for
not-a-number, which `includes` finds and `indexOf` does not (`positions_agree_with_search`).
-/

namespace TemplateExpr

open Number

namespace Number

variable {n : Number} {i j : Int}

theorem IsInteger.eq (hi : n.IsInteger i) (hj : n.IsInteger j) : i = j := by
  obtain ⟨x, rfl, hx⟩ := hi
  obtain ⟨y, hy, hxy⟩ := hj
  cases hy
  exact Int.eq_of_mul_eq_mul_right (by decide) (hx.symm.trans hxy)

/-- A natural number below `2^53` is an integer. -/
theorem isInteger_ofNat {i : Nat} (h : i < 2 ^ 53) : (ofNat i).IsInteger i :=
  @isInteger_ofInt i h

theorem isInteger_of_readBack (h : n.readBack.IsInteger i) : n.IsInteger i := by
  unfold readBack at h
  split at h
  next hzero =>
    obtain ⟨x, hx, hsigned⟩ := h
    cases hx
    refine ⟨.zero true, hzero, ?_⟩
    rw [← hsigned, Finite.signed, Finite.signed, Finite.units_zero, Finite.units_zero]
    rfl
  next => exact h

end Number

namespace Value

/-! ## Numbers as positions -/

section

variable {n : Number} {key : String} {i : Nat}

/-- A position is written in digits, with a plus in front of them or without one. -/
theorem position?_eq_some_iff :
    position? key = some i ↔
      ∃ digits, DigitsOf digits i ∧ (key.toList = digits ∨ key.toList = '+' :: digits) := by
  have hread (digits : List Char) :
      (if digits.isEmpty || !digits.all Char.isDigit then none
        else some (Nat.ofDigitChars 10 digits 0)) = some i ↔ DigitsOf digits i := by
    simp only [Option.ite_none_left_eq_some, Bool.or_eq_true, List.isEmpty_iff, Bool.not_eq_true',
      not_or, Bool.not_eq_false, Option.some.injEq, List.all_eq_true]
    exact ⟨fun ⟨⟨hne, hdigits⟩, hvalue⟩ => ⟨hdigits, hne, hvalue⟩,
      fun ⟨hdigits, hne, hvalue⟩ => ⟨⟨hne, hdigits⟩, hvalue⟩⟩
  unfold position?
  dsimp only
  split
  next digits hkey =>
    rw [hread, hkey]
    refine ⟨fun h => ⟨digits, h, .inr rfl⟩, ?_⟩
    rintro ⟨digits', h, rfl | hdigits⟩
    · exact absurd (h.isDigits '+' List.mem_cons_self) (by decide)
    · rwa [(List.cons.inj hdigits).2]
  next hkey =>
    rw [hread]
    refine ⟨fun h => ⟨_, h, .inl rfl⟩, ?_⟩
    rintro ⟨digits, h, rfl | hdigits⟩
    · exact h
    · exact absurd hdigits (hkey digits)

/-- A position is read as the number nearest to it. -/
theorem ofText_of_position? (h : position? key = some i) : ofText key = ofNat i := by
  obtain ⟨digits, hdigits, hkey⟩ := position?_eq_some_iff.mp h
  have hvalue : ofDecimal false i 0 = ofNat i := by
    by_cases hi : i = 0
    · rw [hi]
      exact natural_zero.symm
    · rw [ofDecimal_of_nonneg false hi (Int.le_refl 0) (by decide), Int.toNat_zero, Nat.pow_zero,
        Nat.mul_one]
      rfl
  have hliteral (sign : List Char) (hsign : IsSign sign) (hminus : sign ≠ ['-'])
      (hkey : key.toList = sign ++ digits) : ofText key = ofNat i := by
    let l : Literal := ⟨sign, digits, none, none, hsign, hdigits.isDigits,
      fun _ h => absurd h (Option.not_mem_none _), .inl hdigits.ne_nil⟩
    have htext : l.text = key.toList := by
      show sign ++ (digits ++ ([] ++ [])) = _
      rw [List.append_nil, List.append_nil, hkey]
    have hdenotes : l.value = ofDecimal false i 0 := by
      show ofDecimal (decide (sign = ['-'])) (Nat.ofDigitChars 10 (digits ++ []) 0) 0 = _
      rw [decide_eq_false hminus, List.append_nil, hdigits.value]
    rw [← String.ofList_toList (s := key), ← htext, Literal.ofText_text, hdenotes, hvalue]
  rcases hkey with hkey | hkey
  · exact hliteral [] isSign_nil (by decide) hkey
  · exact hliteral ['+'] (.inr (.inl rfl)) (by decide) hkey

/-- A number whose text is a position is the number nearest to it. -/
theorem readBack_eq_ofNat (h : position? n.text = some i) : n.readBack = ofNat i := by
  rw [← ofText_text, ofText_of_position? h]

theorem position?_text (h : n.IsInteger i) (hlt : i < 2 ^ 53) : position? n.text = some i := by
  obtain ⟨x, rfl, hx⟩ := h
  exact position?_eq_some_iff.mpr ⟨_, digitsOf_chars hx hlt, .inl String.toList_ofList⟩

theorem isInteger_of_position? (h : position? n.text = some i) (hlt : i < 2 ^ 53) :
    n.IsInteger i :=
  isInteger_of_readBack (readBack_eq_ofNat h ▸ isInteger_ofNat hlt)

end

/-! ## Indexing -/

section

variable {items : List Value} {n : Number} {i : Nat}

/-- No number is written as the key of the length. -/
theorem text_ne_length (n : Number) : n.text ≠ "length" := by
  intro h
  have hread := ofText_text n
  rw [h, show ofText "length" = .nan by decide] at hread
  have hnan : n = .nan := by
    unfold readBack at hread
    split at hread
    · cases hread
    · exact hread.symm
  rw [hnan] at h
  revert h
  decide

theorem property_number (items : List Value) (n : Number) :
    (array items).property (number n).text =
      ((position? n.text).bind (items[·]?)).getD undefined :=
  if_neg (text_ne_length n)

/-- At a position below its length an array has an item. -/
theorem property_of_isInteger (h : n.IsInteger i) (hlt : i < 2 ^ 53) (hi : i < items.length) :
    (array items).property (number n).text = items[i] := by
  rw [property_number, position?_text h hlt, Option.bind_some, List.getElem?_eq_getElem hi,
    Option.getD_some]

/-- A number that is no position of an array has no item. -/
theorem property_of_not_isInteger (hlength : items.length ≤ 2 ^ 53)
    (h : ∀ i < items.length, ¬ n.IsInteger i) :
    (array items).property (number n).text = undefined := by
  rw [property_number]
  cases hposition : position? n.text with
  | none => rfl
  | some i =>
    have hi : items.length ≤ i := Nat.le_of_not_lt fun hi =>
      h i hi (isInteger_of_position? hposition (Nat.lt_of_lt_of_le hi hlength))
    rw [Option.bind_some, List.getElem?_eq_none hi, Option.getD_none]

end

/-! ## Searching -/

section

variable {items : List Value} {x item : Value} {i : Nat}

theorem sameItem_iff :
    sameItem item x ↔ item.strictEquals x ∨ item = number .nan ∧ x = number .nan := by
  unfold sameItem
  split
  · simp
  next hnan =>
    refine ⟨.inl, fun h => h.resolve_right ?_⟩
    rintro ⟨rfl, rfl⟩
    exact hnan rfl rfl

theorem indexOfItem_of_found (h : items.findIdx? (strictEquals · x) = some i) :
    indexOfItem items x = .ofNat i := by
  rw [indexOfItem, h]

theorem indexOfItem_of_not_found (h : items.findIdx? (strictEquals · x) = none) :
    indexOfItem items x = .ofInt (-1) := by
  rw [indexOfItem, h]

theorem any_sameItem_of_found (h : items.findIdx? (strictEquals · x) = some i) :
    items.any (sameItem · x) = true := by
  obtain ⟨hi, hequal, -⟩ := List.findIdx?_eq_some_iff_getElem.mp h
  exact List.any_eq_true.mpr ⟨_, List.getElem_mem hi, sameItem_iff.mpr (.inl hequal)⟩

/-- Where nothing is equal to a value, only not-a-number is the same. -/
theorem any_sameItem_iff_of_not_found (h : items.findIdx? (strictEquals · x) = none) :
    items.any (sameItem · x) = true ↔ x = number .nan ∧ number .nan ∈ items := by
  have hnone := List.findIdx?_eq_none_iff.mp h
  rw [List.any_eq_true]
  constructor
  · rintro ⟨item, hitem, hsame⟩
    rcases sameItem_iff.mp hsame with hequal | ⟨rfl, rfl⟩
    · rw [hnone item hitem] at hequal
      cases hequal
    · exact ⟨rfl, hitem⟩
  · rintro ⟨rfl, hmem⟩
    exact ⟨_, hmem, sameItem_iff.mpr (.inr ⟨rfl, rfl⟩)⟩

end

end Value

open Value in
/-- **Indexing and searching agree on the positions of an array.** Let a double hold the length of an
array, as it does for all that fit in a memory. Then a number that is an integer below the length has
the item at that position under it, and all others have nothing. The search for a value either gives
the first position with an item that is equal to it, and then the array includes it; or there is no
such position, and then the array includes it only if it is not-a-number, which equals nothing. -/
theorem positions_agree_with_search (items : List Value) (hlength : items.length ≤ 2 ^ 53) :
    (∀ n : Number,
      (∀ (i : Nat) (hi : i < items.length), n.IsInteger i →
        (array items).property (number n).text = items[i]) ∧
      ((∀ i < items.length, ¬ n.IsInteger i) →
        (array items).property (number n).text = undefined)) ∧
    (∀ x : Value,
      (∃ (i : Nat) (n : Number), i < items.length ∧ n.IsInteger i ∧
        (array items).method? "indexOf" [x] = some (.ok (number n)) ∧
        ((array items).property (number n).text).strictEquals x ∧
        (∀ (j : Nat) (m : Number), j < i → m.IsInteger j →
          ¬ ((array items).property (number m).text).strictEquals x) ∧
        (array items).method? "includes" [x] = some (.ok (bool true))) ∨
      (array items).method? "indexOf" [x] = some (.ok (number (.ofInt (-1)))) ∧
        (∀ (j : Nat) (m : Number), j < items.length → m.IsInteger j →
          ¬ ((array items).property (number m).text).strictEquals x) ∧
        ∃ found : Bool, (array items).method? "includes" [x] = some (.ok (bool found)) ∧
          (found = true ↔ x = number .nan ∧ number .nan ∈ items)) ∧
    ∀ (env : Environment) (limits : Limits) (receiver key : Expr) (n : Number),
      Plain.HasValue env receiver (array items) → Plain.HasValue env key (number n) →
      limits.Suffice env (.index receiver key) →
      (evaluate env limits (.index receiver key)).1 =
        .ok ((array items).property (number n).text) := by
  have hitem {n : Number} {i : Nat} (hi : i < items.length) (hn : n.IsInteger i) :
      (array items).property (number n).text = items[i] :=
    property_of_isInteger hn (Nat.lt_of_lt_of_le hi hlength) hi
  have hindexOf (x : Value) :
      (array items).method? "indexOf" [x] = some (.ok (number (indexOfItem items x))) := rfl
  have hincludes (x : Value) : (array items).method? "includes" [x] =
      some (.ok (bool (items.any (sameItem · x)))) := rfl
  refine ⟨fun n => ⟨fun i hi hn => hitem hi hn, property_of_not_isInteger hlength⟩, fun x => ?_,
    fun env limits receiver key n hreceiver hkey hlimits =>
      (Plain.evalLink_index hreceiver rfl hkey).evaluate hlimits⟩
  rw [hindexOf, hincludes]
  cases hfound : items.findIdx? (strictEquals · x) with
  | some i =>
    obtain ⟨hi, hequal, hfirst⟩ := List.findIdx?_eq_some_iff_getElem.mp hfound
    have hn : (Number.ofNat i).IsInteger i := isInteger_ofNat (Nat.lt_of_lt_of_le hi hlength)
    refine .inl ⟨i, .ofNat i, hi, hn, by rw [indexOfItem_of_found hfound], ?_, fun j m hj hm => ?_,
      by rw [any_sameItem_of_found hfound]⟩
    · rwa [hitem hi hn]
    · rw [hitem (Nat.lt_trans hj hi) hm]
      exact hfirst j hj
  | none =>
    refine .inr ⟨by rw [indexOfItem_of_not_found hfound], fun j m hj hm => ?_, _, rfl,
      any_sameItem_iff_of_not_found hfound⟩
    rw [hitem hj hm, List.findIdx?_eq_none_iff.mp hfound _ (List.getElem_mem hj)]
    exact Bool.false_ne_true

open Value in
/-- Not-a-number and two equal items: the negative zero is a position, a half and the length are not,
and a search finds the first of the equal items. -/
theorem positions_agree_with_search_of_nan :
    let items : List Value := [number .nan, null, string "b", null]
    items.length ≤ 2 ^ 53 ∧
      (array items).property (number (.zero true)).text = number .nan ∧
      (array items).property (number (.ofNat 4)).text = undefined ∧
      (array items).property (number (.infinite true)).text = undefined ∧
      (array items).method? "indexOf" [null] = some (.ok (number (.ofNat 1))) ∧
      ((array items).property (number (.ofNat 1)).text).strictEquals null ∧
      (array items).method? "indexOf" [number .nan] = some (.ok (number (.ofInt (-1)))) ∧
      (array items).method? "includes" [number .nan] = some (.ok (bool true)) ∧
      (evaluate ⟨.ofFields [("a", array items)], ⟨0, 0⟩⟩ ⟨3, 2⟩
        (.index (.identifier "a") (.number (.zero true)))).1 = .ok (number .nan) := by
  intro items
  have hlength : items.length ≤ 2 ^ 53 := by decide
  obtain ⟨hnumbers, hsearch, hindex⟩ := positions_agree_with_search items hlength
  have hzero : (Number.zero true).IsInteger 0 := ⟨.zero true, rfl, rfl⟩
  have hfirst := (hnumbers (.zero true)).1 0 (by decide) hzero
  have hfour : (Number.ofNat 4).IsInteger (4 : Nat) := isInteger_ofNat (by decide)
  have hminus : (Number.ofInt (-1)).IsInteger (-1) := isInteger_ofInt (by decide)
  have answer {v? : Option (Except ExprError Value)} {m n : Number} (hm : v? = some (.ok (number m)))
      (hn : v? = some (.ok (number n))) : m = n :=
    number.inj (Except.ok.inj (Option.some.inj (hm.symm.trans hn)))
  have hnull : (array items).method? "indexOf" [null] = some (.ok (number (.ofNat 1))) := rfl
  have hnan : (array items).method? "indexOf" [number .nan] =
      some (.ok (number (.ofInt (-1)))) := rfl
  refine ⟨hlength, hfirst, (hnumbers (.ofNat 4)).2 fun i hi hn => ?_,
    (hnumbers (.infinite true)).2 fun i _ => ?_, hnull, ?_, hnan, ?_, ?_⟩
  · have hi : i < 4 := hi
    have := hn.eq hfour
    omega
  · rintro ⟨x, hx, -⟩
    cases hx
  · rcases hsearch null with ⟨i, n, -, -, hindexOf, hequal, -⟩ | ⟨hnone, -⟩
    · obtain rfl := answer hnull hindexOf
      exact hequal
    · have hone : (Number.ofNat 1).IsInteger (1 : Nat) := isInteger_ofNat (by decide)
      exact absurd ((answer hnull hnone ▸ hone).eq hminus) (by decide)
  · rcases hsearch (number .nan) with ⟨i, n, -, hn, hindexOf, -⟩ | ⟨-, -, found, hincludes, hfound⟩
    · exact absurd (hn.eq (answer hnan hindexOf ▸ hminus)) (by omega)
    · rw [hincludes, hfound.mpr ⟨rfl, List.mem_cons_self⟩]
  · rw [hindex ⟨.ofFields [("a", array items)], ⟨0, 0⟩⟩ ⟨3, 2⟩ _ _ (.zero true)
      (Plain.evalLink_identifier rfl) rfl (suffice_of_nodes_le (by decide) (by decide)), hfirst]
    rfl

end TemplateExpr
