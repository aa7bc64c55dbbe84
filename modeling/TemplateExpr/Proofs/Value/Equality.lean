import Mathlib.Logic.Relation
import TemplateExpr.Proofs.Value.Parts
import TemplateExpr.Value.Equality

/-!
# The laws of the two equalities

Strict equality looks each field of the one object up in the other and compares the numbers of
fields. That is symmetric because an object holds each key once: as many keys on both sides, and
all of the one among the other, leave none over (`strictEquals_symm`).

Loose equality converts one of its sides as long as the kinds ask for it and then compares. The
conversions are written out here, one at a time (`conversion?`), and what is left once there is
none (`compareConverted`). Each makes a boolean a number or an array or object a text, which no
later one converts again, so there are at most two (`exists_converts`), and `looseEquals` is what
the last comparison says.

* `equalities_are_lawful` — the laws of both, together.
-/

namespace TemplateExpr.Value

open Fields (mem_keys_of_mem get?_of_mem mem_of_get?)

variable {u v w : Value} {items : List Value} {fields : Fields Value}

/-! ## Equality by kinds -/

theorem itemsEqual_iff {as bs : List Value} :
    itemsEqual as bs ↔ List.Forall₂ (fun a b => strictEquals a b) as bs := by
  induction as generalizing bs with
  | nil => cases bs <;> simp [itemsEqual]
  | cons a as ih => cases bs <;> simp [itemsEqual, ih]

theorem fieldsWithin_iff {as bs : Fields Value} :
    fieldsWithin as bs ↔
      ∀ field ∈ as, ∃ b, bs.get? field.1 = some b ∧ strictEquals field.2 b := by
  induction as with
  | nil => simp [fieldsWithin]
  | cons field as ih =>
    obtain ⟨key, a⟩ := field
    rw [fieldsWithin, Bool.and_eq_true, ih, List.forall_mem_cons]
    cases bs.get? key <;> simp

theorem strictEquals_array_iff :
    (array items).strictEquals v ↔
      ∃ items', v = array items' ∧ items.length = items'.length ∧
        ∀ i (h : i < items.length) (h' : i < items'.length), items[i].strictEquals items'[i] := by
  cases v with
  | array items' => simp [strictEquals, itemsEqual_iff, List.forall₂_iff_get]
  | _ => simp [strictEquals]

theorem strictEquals_object_iff :
    (object fields).strictEquals v ↔
      ∃ fields' : Fields Value, v = object fields' ∧ fields.length = fields'.length ∧
        ∀ field ∈ fields, ∃ value, fields'.get? field.1 = some value ∧
          field.2.strictEquals value := by
  cases v with
  | object fields' => simp [strictEquals, fieldsWithin_iff]
  | _ => simp [strictEquals]

/-- Apart from numbers, plain values are equal when they are the same. -/
theorem strictEquals_plain_iff (hnumber : ∀ x, u ≠ number x) (harray : ∀ items, u ≠ array items)
    (hobject : ∀ fields, u ≠ object fields) : u.strictEquals v ↔ u = v := by
  cases u with
  | array items => exact absurd rfl (harray items)
  | object fields => exact absurd rfl (hobject fields)
  | number x => exact absurd rfl (hnumber x)
  | _ => cases v <;> simp [strictEquals]

/-! ## Strict equality -/

theorem strictEquals_symm (hu : u.HasDistinctKeys) (hv : v.HasDistinctKeys)
    (h : u.strictEquals v) : v.strictEquals u := by
  induction u using inductionOn generalizing v with
  | number x =>
    obtain ⟨y, rfl, hxy⟩ := strictEquals_number_iff.mp h
    exact strictEquals_number_iff.mpr ⟨x, rfl, Number.equal_comm x y ▸ hxy⟩
  | plain u hnumber harray hobject =>
    obtain rfl := (strictEquals_plain_iff hnumber harray hobject).mp h
    exact h
  | array items ih =>
    obtain ⟨items', rfl, hlength, hitems⟩ := strictEquals_array_iff.mp h
    refine strictEquals_array_iff.mpr ⟨items, rfl, hlength.symm, fun i hi' hi => ?_⟩
    exact ih _ (List.getElem_mem hi) (hu.item (List.getElem_mem hi))
      (hv.item (List.getElem_mem hi')) (hitems i hi hi')
  | object fields ih =>
    obtain ⟨fields', rfl, hlength, hfields⟩ := strictEquals_object_iff.mp h
    -- All keys on the left are keys on the right, and there are as many on either side.
    have hsubset : fields.keys ⊆ fields'.keys := by
      intro key hkey
      obtain ⟨field, hfield, rfl⟩ := List.mem_map.mp hkey
      obtain ⟨value, hvalue, -⟩ := hfields field hfield
      exact mem_keys_of_mem (mem_of_get? hvalue)
    have hperm : fields.keys.Perm fields'.keys :=
      (List.subperm_of_subset hu.keys hsubset).perm_of_length_le (by simp [Fields.keys, hlength])
    refine strictEquals_object_iff.mpr ⟨fields, rfl, hlength.symm, fun field' hfield' => ?_⟩
    obtain ⟨field, hfield, hkey⟩ := List.mem_map.mp (hperm.symm.subset (mem_keys_of_mem hfield'))
    obtain ⟨value, hvalue, hequal⟩ := hfields field hfield
    have hvalue' : value = field'.2 := by
      rw [hkey, get?_of_mem hv.keys hfield'] at hvalue
      exact (Option.some.inj hvalue).symm
    subst hvalue'
    exact ⟨field.2, get?_of_mem hu.keys (hkey ▸ hfield),
      ih field hfield (hu.field hfield) (hv.field hfield') hequal⟩

theorem strictEquals_comm (hu : u.HasDistinctKeys) (hv : v.HasDistinctKeys) :
    u.strictEquals v = v.strictEquals u :=
  Bool.eq_iff_iff.mpr ⟨strictEquals_symm hu hv, strictEquals_symm hv hu⟩

theorem strictEquals_trans (huv : u.strictEquals v) (hvw : v.strictEquals w) :
    u.strictEquals w := by
  induction u using inductionOn generalizing v w with
  | number x =>
    obtain ⟨y, rfl, hxy⟩ := strictEquals_number_iff.mp huv
    obtain ⟨z, rfl, hyz⟩ := strictEquals_number_iff.mp hvw
    exact strictEquals_number_iff.mpr ⟨z, rfl, Number.equal_trans hxy hyz⟩
  | plain u hnumber harray hobject =>
    obtain rfl := (strictEquals_plain_iff hnumber harray hobject).mp huv
    exact hvw
  | array items ih =>
    obtain ⟨items', rfl, hlength, hitems⟩ := strictEquals_array_iff.mp huv
    obtain ⟨items'', rfl, hlength', hitems'⟩ := strictEquals_array_iff.mp hvw
    refine strictEquals_array_iff.mpr ⟨items'', rfl, hlength.trans hlength', fun i hi hi'' => ?_⟩
    have hi' : i < items'.length := hlength ▸ hi
    exact ih _ (List.getElem_mem hi) (hitems i hi hi') (hitems' i hi' hi'')
  | object fields ih =>
    obtain ⟨fields', rfl, hlength, hfields⟩ := strictEquals_object_iff.mp huv
    obtain ⟨fields'', rfl, hlength', hfields'⟩ := strictEquals_object_iff.mp hvw
    refine strictEquals_object_iff.mpr
      ⟨fields'', rfl, hlength.trans hlength', fun field hfield => ?_⟩
    obtain ⟨value, hvalue, hequal⟩ := hfields field hfield
    obtain ⟨value', hvalue', hequal'⟩ := hfields' _ (mem_of_get? hvalue)
    exact ⟨value', hvalue', ih field hfield hequal hequal'⟩

/-- A value equals itself unless there is not-a-number somewhere in it. -/
theorem strictEquals_self_iff (hv : v.HasDistinctKeys) :
    v.strictEquals v ↔ ¬ Occurs (number .nan) v := by
  induction v using inductionOn with
  | number x =>
    rw [strictEquals, Number.equal_self]
    cases x <;> simp [occurs_plain_iff, Number.isNaN]
  | plain v hnumber harray hobject =>
    rw [occurs_plain_iff harray hobject]
    exact iff_of_true ((strictEquals_plain_iff hnumber harray hobject).mpr rfl) (hnumber .nan).symm
  | array items ih =>
    rw [occurs_array_iff]
    constructor
    · rintro h (heq | ⟨item, hitem, hoccurs⟩)
      · cases heq
      · obtain ⟨_, ⟨rfl⟩, -, hitems⟩ := strictEquals_array_iff.mp h
        obtain ⟨i, hi, rfl⟩ := List.getElem_of_mem hitem
        exact (ih _ hitem (hv.item hitem)).mp (hitems i hi hi) hoccurs
    · intro h
      refine strictEquals_array_iff.mpr ⟨items, rfl, rfl, fun i hi _ => ?_⟩
      have hitem := List.getElem_mem hi
      exact (ih _ hitem (hv.item hitem)).mpr fun hoccurs => h (.inr ⟨_, hitem, hoccurs⟩)
  | object fields ih =>
    rw [occurs_object_iff]
    constructor
    · rintro h (heq | ⟨field, hfield, hoccurs⟩)
      · cases heq
      · obtain ⟨_, ⟨rfl⟩, -, hfields⟩ := strictEquals_object_iff.mp h
        obtain ⟨value, hvalue, hequal⟩ := hfields field hfield
        rw [get?_of_mem hv.keys hfield] at hvalue
        obtain rfl := Option.some.inj hvalue
        exact (ih _ hfield (hv.field hfield)).mp hequal hoccurs
    · intro h
      refine strictEquals_object_iff.mpr ⟨fields, rfl, rfl, fun field hfield => ?_⟩
      refine ⟨field.2, get?_of_mem hv.keys hfield, ?_⟩
      exact (ih _ hfield (hv.field hfield)).mpr fun hoccurs => h (.inr ⟨_, hfield, hoccurs⟩)

/-! ## The order of keys -/

theorem itemsEqual_congr_middle (h : ∀ a, v.strictEquals a = w.strictEquals a)
    (before after as : List Value) :
    itemsEqual (before ++ v :: after) as = itemsEqual (before ++ w :: after) as := by
  induction before generalizing as with
  | nil => cases as <;> simp [itemsEqual, h]
  | cons item before ih => cases as <;> simp [itemsEqual, ih]

theorem fieldsWithin_congr_middle (h : ∀ a, v.strictEquals a = w.strictEquals a) (key : String)
    (before after as : Fields Value) :
    fieldsWithin (before ++ (key, v) :: after) as =
      fieldsWithin (before ++ (key, w) :: after) as := by
  induction before with
  | nil => simp [fieldsWithin, h]
  | cons field before ih => simp [fieldsWithin, ih]

theorem Reorders.strictEquals_left (h : Reorders u v) (w : Value) :
    u.strictEquals w = v.strictEquals w := by
  induction h generalizing w with
  | @fields fields fields' hperm =>
    refine Bool.eq_iff_iff.mpr ?_
    simp only [strictEquals_object_iff, hperm.length_eq, hperm.mem_iff]
  | item before after _ ih =>
    cases w with
    | array items => simp only [strictEquals, itemsEqual_congr_middle ih]
    | _ => rfl
  | field before key after _ ih =>
    cases w with
    | object fields => simp [strictEquals, fieldsWithin_congr_middle ih]
    | _ => rfl

theorem Reordered.strictEquals_left (h : Reordered u v) (w : Value) :
    u.strictEquals w = v.strictEquals w := by
  induction h with
  | refl => rfl
  | tail _ hstep ih => exact ih.trans (hstep.strictEquals_left w)

/-! ## Loose equality, one conversion at a time -/

/-- The pair that loose equality compares in the place of two values of different kinds: a boolean
is converted before anything else, and on the left before on the right. -/
def conversion? (a b : Value) : Option (Value × Value) :=
  if a.isNullish || b.isNullish then none
  else
    match a, b with
    | number _, string _ | string _, number _ => none
    | bool _, _ => some (number a.toNumber, b)
    | _, bool _ => some (a, number b.toNumber)
    | array _, number _ | array _, string _ | object _, number _ | object _, string _ =>
      some (string a.text, b)
    | number _, array _ | string _, array _ | number _, object _ | string _, object _ =>
      some (a, string b.text)
    | _, _ => none

/-- What loose equality says of two values that are not to be converted: nullish values are equal to
each other alone, and a number beside a text is compared as a number. -/
def compareConverted (a b : Value) : Bool :=
  if a.isNullish || b.isNullish then a.isNullish && b.isNullish
  else
    match a, b with
    | number _, string _ | string _, number _ => a.toNumber.equal b.toNumber
    | _, _ => a.strictEquals b

/-- So many conversions lead from the first pair to the second. -/
inductive Converts : Nat → Value × Value → Value × Value → Prop where
  | refl (pair : Value × Value) : Converts 0 pair pair
  | step {n : Nat} {a b : Value} {pair pair' : Value × Value} (h : conversion? a b = some pair)
      (rest : Converts n pair pair') : Converts (n + 1) (a, b) pair'

/-- The values that a conversion may change. -/
def weight : Value → Nat
  | bool _ | array _ | object _ => 1
  | _ => 0

theorem weight_le_one (v : Value) : v.weight ≤ 1 := by cases v <;> simp [weight]

/-- A conversion leaves one value less to convert. -/
theorem weight_of_conversion? {pair : Value × Value} (h : conversion? u v = some pair) :
    pair.1.weight + pair.2.weight + 1 = u.weight + v.weight := by
  unfold conversion? at h
  split at h
  · cases h
  · split at h <;> cases h <;> simp [weight, Nat.add_comm]

theorem looseEquals_of_conversion? {pair : Value × Value} (h : conversion? u v = some pair) :
    u.looseEquals v = pair.1.looseEquals pair.2 := by
  unfold conversion? at h
  split at h
  · cases h
  · rename_i hnullish
    split at h <;> cases h <;>
      simp_all [looseEquals, isNullish, boolAsNumber, toNumber, strictEquals]

theorem looseEquals_of_conversion?_eq_none (h : conversion? u v = none) :
    u.looseEquals v = u.compareConverted v := by
  unfold compareConverted looseEquals
  cases hnullish : u.isNullish || v.isNullish
  · cases u <;> cases v <;> simp_all [conversion?, isNullish, boolAsNumber, toNumber, strictEquals]
  · rfl

/-- At most two conversions, and loose equality is what the comparison behind the last one says. -/
theorem exists_converts (u v : Value) :
    ∃ n ≤ u.weight + v.weight, ∃ a b, Converts n (u, v) (a, b) ∧ conversion? a b = none ∧
      u.looseEquals v = a.compareConverted b := by
  cases h : conversion? u v with
  | none => exact ⟨0, Nat.zero_le _, u, v, .refl _, h, looseEquals_of_conversion?_eq_none h⟩
  | some pair =>
    have hpair := weight_of_conversion? h
    obtain ⟨n, hn, a, b, hconverts, hnone, hequals⟩ := exists_converts pair.1 pair.2
    exact ⟨n + 1, by omega, a, b, .step h hconverts, hnone,
      (looseEquals_of_conversion? h).trans hequals⟩
termination_by u.weight + v.weight

theorem HasDistinctKeys.boolAsNumber (h : v.HasDistinctKeys) : v.boolAsNumber.HasDistinctKeys := by
  cases v with
  | bool b => exact .plain (fun _ => nofun) fun _ => nofun
  | _ => exact h

theorem looseEquals_comm (hu : u.HasDistinctKeys) (hv : v.HasDistinctKeys) :
    u.looseEquals v = v.looseEquals u := by
  unfold looseEquals
  rw [Bool.or_comm v.isNullish, Bool.and_comm v.isNullish]
  split
  · rfl
  · have hstrict := strictEquals_comm hu.boolAsNumber hv.boolAsNumber
    generalize u.boolAsNumber = a at hstrict ⊢
    generalize v.boolAsNumber = b at hstrict ⊢
    cases a <;> cases b <;>
      first
      | exact hstrict
      | exact Number.equal_comm _ _
      | exact BEq.comm

theorem looseEquals_of_strictEquals (h : u.strictEquals v) : u.looseEquals v := by
  cases u <;> cases v <;>
    simp_all [strictEquals, looseEquals, isNullish, boolAsNumber, Number.equal_self]
  case bool.bool => split <;> exact Number.isNaN_natural _

/-! ## Together -/

/-- Strict equality is symmetric and transitive, holds between a value and itself unless there is
not-a-number at some depth of it, and does not see the order of keys at any depth. Loose equality
compares after at most two conversions, is symmetric, and holds where strict equality does. -/
theorem equalities_are_lawful (hu : u.HasDistinctKeys) (hv : v.HasDistinctKeys)
    (hw : w.HasDistinctKeys) :
    u.strictEquals v = v.strictEquals u ∧
      (u.strictEquals v → v.strictEquals w → u.strictEquals w) ∧
      (u.strictEquals u ↔ ¬ Occurs (number .nan) u) ∧
      (Reordered u v →
        u.strictEquals w = v.strictEquals w ∧ w.strictEquals u = w.strictEquals v) ∧
      (∃ n ≤ 2, ∃ a b, Converts n (u, v) (a, b) ∧ conversion? a b = none ∧
        u.looseEquals v = a.compareConverted b) ∧
      u.looseEquals v = v.looseEquals u ∧
      (u.strictEquals v → u.looseEquals v) := by
  refine ⟨strictEquals_comm hu hv, strictEquals_trans, strictEquals_self_iff hu, fun h => ?_, ?_,
    looseEquals_comm hu hv, looseEquals_of_strictEquals⟩
  · refine ⟨h.strictEquals_left w, ?_⟩
    rw [strictEquals_comm hw hu, strictEquals_comm hw hv]
    exact h.strictEquals_left w
  · obtain ⟨n, hn, a, b, h⟩ := exists_converts u v
    have hu' := weight_le_one u
    have hv' := weight_le_one v
    exact ⟨n, by omega, a, b, h⟩

theorem equalities_are_lawful_reordered :
    let inner : Value := object (Fields.ofPairs [("k", null), ("l", bool true)])
    let inner' : Value := object (Fields.ofPairs [("l", bool true), ("k", null)])
    let outer : Value := object (Fields.ofPairs [("id", string "x"), ("tags", array [inner])])
    let outer' : Value := object (Fields.ofPairs [("tags", array [inner']), ("id", string "x")])
    let unequal : Value := array [number .nan]
    outer.strictEquals outer' ∧ outer'.looseEquals outer ∧ ¬ unequal.strictEquals unequal := by
  intro inner inner' outer outer' unequal
  have hinner : inner.HasDistinctKeys := .ofPairs (by simp [HasDistinctKeys.plain])
  have hinner' : inner'.HasDistinctKeys := .ofPairs (by simp [HasDistinctKeys.plain])
  have houter : outer.HasDistinctKeys := .ofPairs (by
    simp [HasDistinctKeys.plain, HasDistinctKeys.array, hinner])
  have houter' : outer'.HasDistinctKeys := .ofPairs (by
    simp [HasDistinctKeys.plain, HasDistinctKeys.array, hinner'])
  have hunequal : unequal.HasDistinctKeys := .array (by simp [HasDistinctKeys.plain])
  have hinners : Reorders (array [inner]) (array [inner']) := .item [] [] (.fields (.swap _ _ _))
  have hreordered : Reordered outer outer' :=
    .tail (.single (.field [("id", string "x")] "tags" [] hinners)) (.fields (.swap _ _ _))
  have hself : outer'.strictEquals outer' := by
    refine (equalities_are_lawful houter' houter' houter').2.2.1.mpr ?_
    rw [show outer' = object [("tags", array [inner']), ("id", string "x")] from rfl,
      show inner' = object [("l", bool true), ("k", null)] from rfl]
    simp [occurs_object_iff, occurs_array_iff, occurs_plain_iff]
  obtain ⟨-, -, -, horder, -, hcomm, hloose⟩ := equalities_are_lawful houter houter' houter'
  have hstrict : outer.strictEquals outer' := (horder hreordered).1.trans hself
  have hnan := (equalities_are_lawful hunequal hunequal hunequal).2.2.1
  exact ⟨hstrict, hcomm ▸ hloose hstrict, fun h => hnan.mp h (.item List.mem_cons_self .whole)⟩

end TemplateExpr.Value
