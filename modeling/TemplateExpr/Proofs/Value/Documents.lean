import TemplateExpr.Proofs.Json.WellFormed
import TemplateExpr.Proofs.Number.Rounded
import TemplateExpr.Proofs.Value.Equality
import TemplateExpr.Proofs.Value.Json

/-!
# Documents as values

As a value, a well-formed document has distinct keys and finite numbers. JSON has all of it but the
signs of zeros, so these are what a passage through JSON takes from it
(`Json.WellFormed.mapLeaves_carried`), and the equality of the expression language does not see them
(`Value.strictEquals_unsignedZeros`).
-/

namespace TemplateExpr

/-! ## The signs of zeros -/

namespace Value

/-- A number without the sign of a zero; any other leaf is left as it is. -/
def unsignedZero : Value → Value
  | number (.finite x) => number (.finite (if x = .zero true then .zero false else x))
  | leaf => leaf

variable {v : Value}

theorem unsignedZero_plain (hnumber : ∀ n, v ≠ number n) : v.unsignedZero = v := by
  cases v with
  | number n => exact absurd rfl (hnumber n)
  | _ => rfl

/-- A number without the sign of a zero is the same number to the expression language. -/
theorem unsignedZero_number_equal {n : Number} (h : n ≠ .nan) :
    (number n).unsignedZero.strictEquals (number n) := by
  cases n with
  | nan => exact absurd rfl h
  | infinite negative => cases negative <;> rfl
  | finite x =>
    rw [unsignedZero]
    split
    next hzero =>
      subst hzero
      rfl
    next =>
      have hnumber : (Number.finite x).equal (.finite x) := Number.equal_self _
      exact hnumber

/-- **The equality of the expression language does not see the signs of zeros.** -/
theorem strictEquals_unsignedZeros (hkeys : v.HasDistinctKeys) (hnan : ¬ Occurs (number .nan) v) :
    (v.mapLeaves unsignedZero).strictEquals v := by
  induction v using inductionOn with
  | number n => exact unsignedZero_number_equal fun h => hnan (h ▸ .whole)
  | plain v hnumber harray hobject =>
    have hself : v.mapLeaves unsignedZero = v := by
      rw [mapLeaves_leaf unsignedZero harray hobject, unsignedZero_plain hnumber]
    rw [hself]
    exact (strictEquals_plain_iff hnumber harray hobject).mpr rfl
  | array items ih =>
    rw [mapLeaves_array]
    refine strictEquals_array_iff.mpr ⟨items, rfl, List.length_map _, fun i _ hi => ?_⟩
    have hitem := List.getElem_mem hi
    rw [List.getElem_map]
    exact ih _ hitem (hkeys.item hitem) fun h => hnan (.item hitem h)
  | object fields ih =>
    rw [mapLeaves_object]
    refine strictEquals_object_iff.mpr ⟨fields, rfl, List.length_map _, fun field hfield => ?_⟩
    obtain ⟨field, hmem, rfl⟩ := List.mem_map.mp hfield
    exact ⟨field.2, Fields.get?_of_mem hkeys.keys hmem,
      ih field hmem (hkeys.field hmem) fun h => hnan (.field hmem h)⟩

/-- A value without negative zeros is left as it is. -/
theorem mapLeaves_unsignedZero_eq_self (h : ¬ Occurs (number (.zero true)) v) :
    v.mapLeaves unsignedZero = v := by
  induction v using inductionOn with
  | number n =>
    cases n with
    | nan | infinite => rfl
    | finite x =>
      have hzero : x ≠ .zero true := fun hx => h (hx ▸ .whole)
      exact congrArg (fun y => number (.finite y)) (if_neg hzero)
  | plain v hnumber harray hobject =>
    rw [mapLeaves_leaf unsignedZero harray hobject, unsignedZero_plain hnumber]
  | array items ih =>
    rw [mapLeaves_array, array.injEq, map_eq_self_iff]
    exact fun item hitem => ih item hitem fun hoccurs => h (.item hitem hoccurs)
  | object fields ih =>
    rw [mapLeaves_object, object.injEq, map_eq_self_iff]
    intro field hfield
    exact congrArg (Prod.mk field.1) (ih field hfield fun hoccurs => h (.field hfield hoccurs))

end Value

/-! ## Documents as values -/

namespace Json

open Value (ofJson_array ofJson_object mapLeaves_array mapLeaves_object)

variable {document : Json}

/-- The double nearest to a number of a document. -/
theorem Numeral.FitsWord.exists_toNumber_eq {n : Numeral} (h : n.FitsWord) :
    ∃ x, n.toNumber = .finite x := by
  cases n with
  | integer i =>
    obtain ⟨hlow, hhigh⟩ := h
    exact Number.exists_ofInt_eq_finite (by omega)
  | double x => exact ⟨x, rfl⟩

namespace WellFormed

/-- No more than the sign of a zero is lost of a document. -/
theorem mapLeaves_carried (h : document.WellFormed) :
    (Value.ofJson document).mapLeaves Value.carried =
      (Value.ofJson document).mapLeaves Value.unsignedZero := by
  induction h with
  | null | bool | string => rfl
  | number h =>
    obtain ⟨x, hx⟩ := h.exists_toNumber_eq
    rw [Value.ofJson, hx]
    rfl
  | array _ ih =>
    rw [ofJson_array, mapLeaves_array, mapLeaves_array, List.map_map, List.map_map]
    exact congrArg Value.array (List.map_congr_left ih)
  | object _ _ ih =>
    rw [ofJson_object, mapLeaves_object, mapLeaves_object, List.map_map, List.map_map]
    refine congrArg Value.object (List.map_congr_left fun member hmember => ?_)
    exact congrArg (Prod.mk member.1) (ih member hmember)

theorem hasDistinctKeys (h : document.WellFormed) : (Value.ofJson document).HasDistinctKeys := by
  induction h with
  | null | bool | string | number => exact .plain (by simp [Value.ofJson]) (by simp [Value.ofJson])
  | array _ ih =>
    rw [ofJson_array]
    exact .array (List.forall_mem_map.mpr ih)
  | object hkeys _ ih =>
    rw [ofJson_object]
    exact .object (by simpa [Fields.keys, Function.comp_def] using hkeys) (List.forall_mem_map.mpr ih)

theorem not_occurs_nan (h : document.WellFormed) :
    ¬ Value.Occurs (.number .nan) (Value.ofJson document) := by
  induction h with
  | null | bool | string => simp [Value.ofJson, Value.occurs_plain_iff]
  | number h =>
    obtain ⟨x, hx⟩ := h.exists_toNumber_eq
    simp [Value.ofJson, hx, Value.occurs_plain_iff]
  | array _ ih =>
    rw [ofJson_array, Value.occurs_array_iff]
    rintro (heq | ⟨_, hmem, hoccurs⟩)
    · cases heq
    · obtain ⟨item, hitem, rfl⟩ := List.mem_map.mp hmem
      exact ih item hitem hoccurs
  | object _ _ ih =>
    rw [ofJson_object, Value.occurs_object_iff]
    rintro (heq | ⟨_, hmem, hoccurs⟩)
    · cases heq
    · obtain ⟨member, hmember, rfl⟩ := List.mem_map.mp hmem
      exact ih member hmember hoccurs

end WellFormed

end Json

end TemplateExpr
