import TemplateExpr.Proofs.Eval.Values
import TemplateExpr.Proofs.Text.Split

/-!
# Splitting and joining

A text is split at a separator, and joined again with the same one. Both take a separator of any kind
for its string form, but not a missing one: there is nothing to split at then, and the pieces are
joined with commas. As a text that is not split is one piece, no comma is put in
(`join_undoes_split`).
-/

namespace TemplateExpr

namespace Value

variable {separator : Value}

theorem splitText_of_ne_undefined (h : separator ≠ undefined) (text : List Char) :
    splitText text separator =
      if separator.text = "" then text.map ([·]) else Text.split separator.text.toList text := by
  have hempty : separator.text.toList.isEmpty = decide (separator.text = "") := by
    rw [Bool.eq_iff_iff, List.isEmpty_iff, decide_eq_true_eq, String.toList_eq_nil_iff]
  cases separator with
  | undefined => exact absurd rfl h
  | _ => simp only [splitText, hempty, decide_eq_true_eq]

theorem joinItems_of_ne_undefined (h : separator ≠ undefined) (items : List Value) :
    joinItems items separator = String.intercalate separator.text (items.map templateText) := by
  cases separator with
  | undefined => exact absurd rfl h
  | _ => rfl

/-- Texts are joined as they are. -/
theorem map_templateText_string (texts : List String) :
    (texts.map string).map templateText = texts := by
  rw [List.map_map]
  exact List.map_id'' (fun _ => rfl) texts

/-- The pieces with the separator between them are the text. -/
theorem joinItems_splitText (text : List Char) (separator : Value) :
    joinItems (((splitText text separator).map String.ofList).map string) separator =
      .ofList text := by
  by_cases h : separator = undefined
  · subst h
    show String.intercalate "," [String.ofList text] = .ofList text
    exact String.intercalate_singleton
  · rw [joinItems_of_ne_undefined h, map_templateText_string, ← String.toList_inj,
      String.toList_intercalate, String.toList_ofList, List.map_map,
      List.map_id'' (f := String.toList ∘ String.ofList) fun _ => String.toList_ofList,
      splitText_of_ne_undefined h]
    split
    next hempty =>
      rw [hempty]
      exact Text.intercalate_nil_map_singleton text
    next => exact Text.intercalate_split _ text

theorem not_contains_of_mem_splitText (h : separator ≠ undefined) (hne : separator.text ≠ "")
    {text piece : List Char} (hpiece : piece ∈ splitText text separator) :
    Text.contains piece separator.text.toList = false := by
  rw [splitText_of_ne_undefined h, if_neg hne] at hpiece
  rw [← Bool.not_eq_true, Text.contains_iff_infix]
  exact Text.not_infix_of_mem_split (mt String.toList_eq_nil_iff.mp hne) hpiece

/-- No item of an array is under the name of the method. -/
theorem property_array_join (items : List Value) : (array items).property "join" = undefined := rfl

end Value

/-- A text, split and joined again, compared with what it was. -/
def Expr.rejoined (text separator : Expr) : Expr :=
  .binary .strictEq
    (.methodCall (.methodCall text "split" [separator] false) "join" [separator] false) text

/-- **Joining undoes splitting.** A text is an array of texts when it is split, and that array is the
text when it is joined with the same separator, whatever the separator is. A separator that has a
string form which is not empty occurs in none of the pieces. -/
theorem join_undoes_split (s : String) (x : Value) :
    ∃ pieces : List String,
      (Value.string s).method? "split" [x] = some (.ok (.array (pieces.map .string))) ∧
      (Value.array (pieces.map .string)).method? "join" [x] = some (.ok (.string s)) ∧
      (x ≠ .undefined → x.text ≠ "" → ∀ piece ∈ pieces,
        (Value.string piece).method? "includes" [x] = some (.ok (.bool false))) ∧
      ∀ (env : Environment) (limits : Limits) (text separator : Expr),
        Plain.HasValue env text (.string s) → Plain.HasValue env separator x →
        limits.Suffice env (text.rejoined separator) →
        (evaluate env limits (text.rejoined separator)).1 = .ok (.bool true) := by
  have hsplit : (Value.string s).method? "split" [x] =
      some (.ok (.array (((Value.splitText s.toList x).map String.ofList).map .string))) := by
    rw [List.map_map]
    rfl
  have hjoin : (Value.array (((Value.splitText s.toList x).map String.ofList).map .string)).method?
      "join" [x] = some (.ok (.string s)) := by
    have htext := Value.joinItems_splitText s.toList x
    rw [String.ofList_toList] at htext
    exact congrArg (fun t => some (Except.ok (Value.string t))) htext
  refine ⟨_, hsplit, hjoin, fun hx hne piece hpiece => ?_,
    fun env limits text separator htext hseparator hlimits => ?_⟩
  · obtain ⟨cs, hcs, rfl⟩ := List.mem_map.mp hpiece
    have hnot := Value.not_contains_of_mem_splitText hx hne hcs
    show some (Except.ok (Value.bool (Text.contains (String.ofList cs).toList x.text.toList))) = _
    rw [String.toList_ofList, hnot]
  · have harguments := Plain.evalAll_cons hseparator Plain.evalAll_nil
    have hpieces := Plain.evalLink_method_string htext harguments hsplit
    have hwhole := Plain.evalLink_method hpieces rfl
      (fun f => by rw [Value.property_array_join]; exact nofun) harguments hjoin false
    have hlaw := Plain.evalLink_binary .strictEq hwhole htext
    have hequal : BinaryOp.strictEq.apply (.string s) (.string s) = .bool true := by
      simp [BinaryOp.apply, Value.strictEquals]
    rw [hequal] at hlaw
    exact hlaw.evaluate hlimits

/-- Occurrences that overlap: the first of them is cut out, and the separator is also at the end. -/
theorem join_undoes_split_of_overlapping_occurrences :
    let scope : Scope := .ofFields [("s", .string "aaabaa"), ("x", .string "aa")]
    (Value.string "aaabaa").method? "split" [.string "aa"] =
        some (.ok (.array [.string "", .string "ab", .string ""])) ∧
      (Value.string "ab").method? "includes" [.string "aa"] = some (.ok (.bool false)) ∧
      (evaluate ⟨scope, ⟨0, 0⟩⟩ ⟨7, 4⟩ ((Expr.identifier "s").rejoined (.identifier "x"))).1 =
        .ok (.bool true) := by
  intro scope
  obtain ⟨pieces, hsplit, -, hnone, hlaw⟩ := join_undoes_split "aaabaa" (.string "aa")
  have hpieces : (Value.string "aaabaa").method? "split" [.string "aa"] =
      some (.ok (.array [.string "", .string "ab", .string ""])) := rfl
  have hmem : Value.string "ab" ∈ pieces.map Value.string := by
    rw [← Value.array.inj (Except.ok.inj (Option.some.inj (hpieces.symm.trans hsplit)))]
    simp
  obtain ⟨piece, hpiece, ⟨rfl⟩⟩ := List.mem_map.mp hmem
  exact ⟨hpieces, hnone nofun (by decide) _ hpiece,
    hlaw ⟨scope, ⟨0, 0⟩⟩ ⟨7, 4⟩ _ _ (Plain.evalLink_identifier rfl) (Plain.evalLink_identifier rfl)
      (suffice_of_nodes_le (by decide) (by decide))⟩

end TemplateExpr
