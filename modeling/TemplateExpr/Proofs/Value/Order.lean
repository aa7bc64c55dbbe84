import TemplateExpr.Eval.Operators
import TemplateExpr.Proofs.Number.Readings
import TemplateExpr.Proofs.Text.Order

/-!
# The relational operators

Each of `<`, `<=`, `>` and `>=` asks one comparison of its operands, which converts both: arrays,
objects and functions to texts, and all to numbers unless both are texts by then. So what is to be
said of the operators is said of the comparison (`compare?`): exchanging the operands exchanges less
and greater, it comes out equal for equal texts or equal numbers, and it comes to nothing if a value
that is no number takes part (`relations_form_order`).
-/

namespace TemplateExpr

theorem Number.compare?_eq_none_iff {a b : Number} : a.compare? b = none ↔ a = nan ∨ b = nan := by
  cases a <;> cases b <;> simp [compare?]

namespace Text

theorem compareTexts_eq_lt_iff {s t : String} : compareTexts s t = .lt ↔ units s < units t :=
  compareUnits_eq_lt_iff

theorem compareTexts_eq_eq_iff {s t : String} : compareTexts s t = .eq ↔ s = t :=
  compareUnits_eq_eq_iff.trans units_inj

theorem compareTexts_swap (s t : String) : compareTexts t s = (compareTexts s t).swap :=
  compareUnits_swap _ _

end Text

namespace Value

variable {a b : Value} {s t : String}

/-! ## Conversion -/

/-- The string forms of objects and functions are no numbers, and neither are these themselves. -/
theorem toNumber_primitive (a : Value) : a.primitive.toNumber = a.toNumber := by
  cases a with
  | object fields =>
    exact @Number.ofText_eq_nan '[' ']' (by decide) (by decide) (by decide) (by decide)
      "object Object".toList
  | function f =>
    have htext : (function f).text = .ofList ('f' ::
        ("unction ".toList ++ f.name.toList ++ "() \x7b [native code] ".toList ++ ['\x7d'])) := by
      rw [← String.toList_inj]
      simp [text]
    show Number.ofText (function f).text = .nan
    rw [htext]
    exact Number.ofText_eq_nan (by decide) (by decide) (by decide) (by decide) _
  | _ => rfl

/-- Both operands are texts once they are converted. -/
def BothTexts (a b : Value) : Prop := ∃ s t, a.primitive = string s ∧ b.primitive = string t

/-- The operands are converted to the same text, or to the same number if one of them is no text. -/
def ComparesEqual (a b : Value) : Prop :=
  match a.primitive, b.primitive with
  | string s, string t => s = t
  | _, _ => a.toNumber.equal b.toNumber

theorem compare?_of_primitive (ha : a.primitive = string s) (hb : b.primitive = string t) :
    a.compare? b = some (Text.compareTexts s t) := by
  rw [compare?, ha, hb]

theorem compare?_of_not_bothTexts (h : ¬ BothTexts a b) :
    a.compare? b = a.toNumber.compare? b.toNumber := by
  rw [compare?, ← toNumber_primitive a, ← toNumber_primitive b]
  split
  next s t ha hb => exact absurd ⟨s, t, ha, hb⟩ h
  next => rfl

theorem comparesEqual_of_primitive (ha : a.primitive = string s) (hb : b.primitive = string t) :
    ComparesEqual a b ↔ s = t := by
  rw [ComparesEqual, ha, hb]

theorem comparesEqual_of_not_bothTexts (h : ¬ BothTexts a b) :
    ComparesEqual a b ↔ a.toNumber.equal b.toNumber := by
  rw [ComparesEqual]
  split
  next s t ha hb => exact absurd ⟨s, t, ha, hb⟩ h
  next => rfl

theorem BothTexts.symm (h : BothTexts a b) : BothTexts b a := by
  obtain ⟨s, t, ha, hb⟩ := h
  exact ⟨t, s, hb, ha⟩

/-! ## The comparison -/

theorem compare?_swap (a b : Value) : b.compare? a = (a.compare? b).map Ordering.swap := by
  by_cases h : BothTexts a b
  · obtain ⟨s, t, ha, hb⟩ := h
    rw [compare?_of_primitive ha hb, compare?_of_primitive hb ha, Text.compareTexts_swap]
    rfl
  · rw [compare?_of_not_bothTexts h, compare?_of_not_bothTexts (mt BothTexts.symm h)]
    exact Number.compare?_swap _ _

theorem compare?_eq_some_eq_iff : a.compare? b = some .eq ↔ ComparesEqual a b := by
  by_cases h : BothTexts a b
  · obtain ⟨s, t, ha, hb⟩ := h
    rw [compare?_of_primitive ha hb, comparesEqual_of_primitive ha hb, Option.some.injEq,
      Text.compareTexts_eq_eq_iff]
  · rw [compare?_of_not_bothTexts h, comparesEqual_of_not_bothTexts h, Number.equal, beq_iff_eq]

theorem compare?_eq_none_iff :
    a.compare? b = none ↔ ¬ BothTexts a b ∧ (a.toNumber = .nan ∨ b.toNumber = .nan) := by
  by_cases h : BothTexts a b
  · have hboth := h
    obtain ⟨s, t, ha, hb⟩ := h
    simp [compare?_of_primitive ha hb, hboth]
  · rw [compare?_of_not_bothTexts h, Number.compare?_eq_none_iff, and_iff_right h]

end Value

/-! ## The operators -/

namespace BinaryOp

open Value

variable {a b : Value} {s t : String}

/-- The operation comes out true. -/
def Holds (op : BinaryOp) (a b : Value) : Prop := op.apply a b = .bool true

/-- The operators that compare. -/
def relational : List BinaryOp := [lt, le, gt, ge]

theorem holds_lt_iff : lt.Holds a b ↔ a.compare? b = some .lt := by
  simp [Holds, apply]

theorem holds_gt_iff : gt.Holds a b ↔ a.compare? b = some .gt := by
  simp [Holds, apply]

theorem holds_le_iff : le.Holds a b ↔ a.compare? b = some .lt ∨ a.compare? b = some .eq := by
  simp [Holds, apply]

theorem holds_ge_iff : ge.Holds a b ↔ a.compare? b = some .gt ∨ a.compare? b = some .eq := by
  simp [Holds, apply]

theorem holds_strictEq_string_iff : strictEq.Holds (.string s) (.string t) ↔ s = t := by
  simp [Holds, apply, strictEquals]

theorem holds_lt_string_iff :
    lt.Holds (.string s) (.string t) ↔ Text.units s < Text.units t := by
  rw [holds_lt_iff, compare?_of_primitive rfl rfl, Option.some.injEq, Text.compareTexts_eq_lt_iff]

theorem lt_apply_eq_gt_apply (a b : Value) : lt.apply a b = gt.apply b a := by
  simp only [apply, compare?_swap a b]
  rcases a.compare? b with _ | o
  · rfl
  · cases o <;> rfl

theorem le_apply_eq_ge_apply (a b : Value) : le.apply a b = ge.apply b a := by
  simp only [apply, compare?_swap a b]
  rcases a.compare? b with _ | o
  · rfl
  · cases o <;> rfl

/-- The operators see of their operands what the comparison sees of them. -/
theorem apply_congr_of_compare? {a' b' : Value} (h : a.compare? b = a'.compare? b')
    {op : BinaryOp} (hop : op ∈ relational) : op.apply a b = op.apply a' b' := by
  simp only [relational, List.mem_cons, List.not_mem_nil, or_false] at hop
  rcases hop with rfl | rfl | rfl | rfl <;> simp only [apply, h]

theorem apply_of_compare?_eq_none (h : a.compare? b = none) {op : BinaryOp}
    (hop : op ∈ relational) : op.apply a b = .bool false := by
  simp only [relational, List.mem_cons, List.not_mem_nil, or_false] at hop
  rcases hop with rfl | rfl | rfl | rfl <;> simp [apply, h]

/-- One of three statements holds, and the two others do not. -/
def ExactlyOne (p q r : Prop) : Prop := (p ∧ ¬ q ∧ ¬ r) ∨ (¬ p ∧ q ∧ ¬ r) ∨ (¬ p ∧ ¬ q ∧ r)

/-- Operands that can be compared are related in one way. -/
theorem exactlyOne_of_compare?_ne_none (h : a.compare? b ≠ none) :
    ExactlyOne (lt.Holds a b) (ComparesEqual a b) (gt.Holds a b) := by
  rw [holds_lt_iff, holds_gt_iff, ← compare?_eq_some_eq_iff]
  obtain ⟨o, ho⟩ := Option.ne_none_iff_exists'.mp h
  rw [ho]
  cases o <;> simp [ExactlyOne]

/-- **The relational operators form an order.** Exchanging the operands exchanges `<` and `>`, and
`<=` and `>=`, which hold where the strict one does or the operands compare equal. Texts are ordered
by their code units, completely and transitively. So the first characters in which they differ decide
as their code points do, unless one is outside the basic plane and the other one is in it, above the
surrogates; then the order is the other one. Operands that become texts are compared as these texts.
Others are related in exactly one way if both become numbers, and in none if one does not. -/
theorem relations_form_order :
    (∀ a b : Value, lt.apply a b = gt.apply b a ∧ le.apply a b = ge.apply b a) ∧
    (∀ a b : Value, (le.Holds a b ↔ lt.Holds a b ∨ ComparesEqual a b) ∧
      (ge.Holds a b ↔ gt.Holds a b ∨ ComparesEqual a b)) ∧
    (∀ s t : String, ExactlyOne (lt.Holds (.string s) (.string t))
      (strictEq.Holds (.string s) (.string t)) (gt.Holds (.string s) (.string t))) ∧
    (∀ s t u : String, lt.Holds (.string s) (.string t) → lt.Holds (.string t) (.string u) →
      lt.Holds (.string s) (.string u)) ∧
    (∀ s t : String, lt.Holds (.string s) (.string t) ↔ Text.units s < Text.units t) ∧
    (∀ (c d : Char) (front rest rest' : List Char) (s t : String), c ≠ d →
      s = .ofList (front ++ c :: rest) → t = .ofList (front ++ d :: rest') →
      (lt.Holds (.string s) (.string t) ↔
        ¬ Text.IsBasic c ∧ Text.AboveSurrogates d ∨
          s < t ∧ ¬ (¬ Text.IsBasic d ∧ Text.AboveSurrogates c)) ∧
      (¬ Text.IsBasic c → Text.AboveSurrogates d → t < s)) ∧
    (∀ (a b : Value) (s t : String), a.primitive = .string s → b.primitive = .string t →
      ∀ op ∈ relational, op.apply a b = op.apply (.string s) (.string t)) ∧
    (∀ a b : Value, ¬ BothTexts a b → a.toNumber ≠ .nan → b.toNumber ≠ .nan →
      ExactlyOne (lt.Holds a b) (ComparesEqual a b) (gt.Holds a b)) ∧
    ∀ a b : Value, ¬ BothTexts a b → (a.toNumber = .nan ∨ b.toNumber = .nan) →
      ∀ op ∈ relational, op.apply a b = .bool false := by
  refine ⟨fun a b => ⟨lt_apply_eq_gt_apply a b, le_apply_eq_ge_apply a b⟩, fun a b => ⟨?_, ?_⟩,
    fun s t => ?_, fun s t u => ?_, fun s t => holds_lt_string_iff,
    fun c d front rest rest' s t hne hs ht => ⟨?_, fun hc hd => ?_⟩,
    fun a b s t ha hb op hop => ?_, fun a b hnot ha hb => ?_, fun a b hnot hnan op hop => ?_⟩
  · rw [holds_le_iff, holds_lt_iff, compare?_eq_some_eq_iff]
  · rw [holds_ge_iff, holds_gt_iff, compare?_eq_some_eq_iff]
  · rw [holds_strictEq_string_iff,
      ← comparesEqual_of_primitive (a := .string s) (b := .string t) rfl rfl]
    refine exactlyOne_of_compare?_ne_none ?_
    rw [compare?_of_primitive rfl rfl]
    exact Option.some_ne_none _
  · simp only [holds_lt_string_iff]
    exact List.lt_trans
  · rw [holds_lt_string_iff, hs, ht, Text.units_lt_units_iff hne, Text.rank_lt_iff,
      Text.ofList_lt_ofList_iff hne]
  · have hpoints : d.toNat < c.toNat := Nat.lt_of_lt_of_le hd.2 (Nat.le_of_not_lt hc)
    rwa [hs, ht, Text.ofList_lt_ofList_iff hne.symm]
  · refine apply_congr_of_compare? ?_ hop
    rw [compare?_of_primitive ha hb, compare?_of_primitive rfl rfl]
  · refine exactlyOne_of_compare?_ne_none fun hnone => ?_
    rcases (compare?_eq_none_iff.mp hnone).2 with hnan | hnan
    · exact ha hnan
    · exact hb hnan
  · exact apply_of_compare?_eq_none (compare?_eq_none_iff.mpr ⟨hnot, hnan⟩) hop

/-- A character outside the basic plane and one above the surrogates, the former also in an array; an
array that becomes a number; and an object, which does not. -/
theorem relations_form_order_of_mixed_operands :
    lt.Holds (.string "a😀") (.string "a～b") ∧ "a～b" < "a😀" ∧
      gt.apply (.string "a～b") (.array [.string "a😀"]) = .bool true ∧
      ExactlyOne (lt.Holds (.array [.number 3]) (.number 12))
        (ComparesEqual (.array [.number 3]) (.number 12))
        (gt.Holds (.array [.number 3]) (.number 12)) ∧
      ge.apply (.object []) (.number 12) = .bool false := by
  obtain ⟨hswap, -, -, -, -, hdifference, htexts, hnumbers, hnone⟩ := relations_form_order
  have hnumber (a : Value) : ¬ BothTexts a (.number 12) := by
    rintro ⟨s, t, -, ⟨⟩⟩
  obtain ⟨hless, hpoints⟩ := hdifference '😀' '～' ['a'] [] ['b'] "a😀" "a～b" (by decide) rfl rfl
  have hastral : ¬ Text.IsBasic '😀' := by decide
  have habove : Text.AboveSurrogates '～' := ⟨by decide, by decide⟩
  have hlt := hless.mpr (.inl ⟨hastral, habove⟩)
  refine ⟨hlt, hpoints hastral habove, ?_, ?_, ?_⟩
  · rw [htexts _ _ "a～b" "a😀" rfl rfl gt (by simp [relational]), ← (hswap _ _).1]
    exact hlt
  · exact hnumbers _ _ (hnumber _) (by decide +kernel) (by decide +kernel)
  · exact hnone _ _ (hnumber _) (.inl rfl) ge (by simp [relational])

end BinaryOp

end TemplateExpr
