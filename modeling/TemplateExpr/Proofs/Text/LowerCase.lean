import Mathlib.Data.List.TakeWhile
import Mathlib.Tactic.Push
import TemplateExpr.Eval.Methods
import TemplateExpr.Library.Call

/-!
# The lower case of a part of a text

The lower case form of a text is the forms of its characters one after the other, and only the form
of a capital sigma depends on what stands around it: it is another one at the end of a word. So a
part of a text comes out the same within it and alone exactly if each sigma of the part ends a word
in both or in neither (`lowerWithin_eq_iff`).

A part is settled if it shows by itself, of each of its sigmas, whether that ends a word. A search in
lower case finds the settled texts wherever they stand, and of any other text there is a place where
it is not found (`search_finds_settled_texts`).
-/

namespace TemplateExpr

namespace Text

/-! ## The end of a word -/

/-- Whether a sigma between these characters, the last of those before it first, ends a word. -/
def endsWord (before after : List Char) : Bool := startsCased before && !startsCased after

/-- Some character decides whether what stands here starts with case. -/
def Decides (cs : List Char) : Prop := ∃ c ∈ cs, ¬ isCaseIgnorable c

instance (cs : List Char) : Decidable (Decides cs) :=
  inferInstanceAs (Decidable (∃ c ∈ cs, ¬ isCaseIgnorable c))

theorem startsCased_append_of_decides {cs : List Char} (h : Decides cs) (cs' : List Char) :
    startsCased (cs ++ cs') = startsCased cs := by
  obtain ⟨c, hc, hcase⟩ := h
  have hne : cs.dropWhile isCaseIgnorable ≠ [] := fun hnil =>
    hcase (List.dropWhile_eq_nil_iff.mp hnil c hc)
  obtain ⟨first, rest, hdrop⟩ := List.exists_cons_of_ne_nil hne
  simp [startsCased, List.dropWhile_append, hdrop]

theorem startsCased_append_of_not_decides {cs : List Char} (h : ¬ Decides cs) (cs' : List Char) :
    startsCased (cs ++ cs') = startsCased cs' := by
  have hall : ∀ c ∈ cs, isCaseIgnorable c := fun c hc =>
    Decidable.not_not.mp fun hcase => h ⟨c, hc, hcase⟩
  rw [startsCased, List.dropWhile_append_of_pos hall, startsCased]

theorem startsCased_of_not_decides {cs : List Char} (h : ¬ Decides cs) : startsCased cs = false := by
  have hnil := startsCased_append_of_not_decides h []
  rwa [List.append_nil] at hnil

/-! ## Within a text -/

/-- The lower case form of a character between others, the last of those before it first. -/
def lowerAt (before : List Char) (c : Char) (after : List Char) : List Char :=
  if c = 'Σ' then if endsWord before after then ['ς'] else ['σ'] else lowerChar c

/-- The lower case form of a part of a text, between the characters `before`, the last of them
first, and the characters `after`. -/
def lowerWithin (before after : List Char) : List Char → List Char
  | [] => []
  | c :: cs => lowerAt before c (cs ++ after) ++ lowerWithin (c :: before) after cs

theorem lowerFrom_append (before cs after : List Char) :
    lowerFrom before (cs ++ after) =
      lowerWithin before after cs ++ lowerFrom (cs.reverse ++ before) after := by
  induction cs generalizing before with
  | nil => rfl
  | cons c cs ih =>
    have hstep : lowerFrom before (c :: (cs ++ after)) =
        lowerAt before c (cs ++ after) ++ lowerFrom (c :: before) (cs ++ after) := rfl
    rw [List.cons_append, hstep, ih, lowerWithin, List.append_assoc, List.reverse_cons,
      List.append_assoc, List.singleton_append]

theorem toLower_eq_lowerWithin (cs : List Char) : toLower cs = lowerWithin [] [] cs := by
  have happend := lowerFrom_append [] cs []
  rwa [List.append_nil, lowerFrom, List.append_nil] at happend

/-- The form of a part stands in the form of the whole. -/
theorem lowerWithin_infix_toLower (before cs after : List Char) :
    lowerWithin before.reverse after cs <:+: toLower (before ++ cs ++ after) := by
  rw [toLower, List.append_assoc, lowerFrom_append, lowerFrom_append, List.append_nil,
    ← List.append_assoc]
  exact List.infix_append _ _ _

/-- What stands around a character makes no difference to the length of its form. -/
theorem length_lowerAt (before before' after after' : List Char) (c : Char) :
    (lowerAt before c after).length = (lowerAt before' c after').length := by
  unfold lowerAt
  split
  · split <;> split <;> rfl
  · rfl

theorem length_lowerWithin (before before' after after' cs : List Char) :
    (lowerWithin before after cs).length = (lowerWithin before' after' cs).length := by
  induction cs generalizing before before' with
  | nil => rfl
  | cons c cs ih =>
    rw [lowerWithin, lowerWithin, List.length_append, List.length_append, ih _ (c :: before'),
      length_lowerAt before before']

theorem lowerAt_eq_iff {before before' after after' : List Char} {c : Char} :
    lowerAt before c after = lowerAt before' c after' ↔
      (c = 'Σ' → endsWord before after = endsWord before' after') := by
  unfold lowerAt
  by_cases hc : c = 'Σ'
  · cases endsWord before after <;> cases endsWord before' after' <;> simp [hc]
  · simp [hc]

/-- Each sigma of a text ends a word in the one surroundings exactly if it does in the other. -/
def SigmasAlike (cs before after before' after' : List Char) : Prop :=
  ∀ front back, cs = front ++ 'Σ' :: back →
    endsWord (front.reverse ++ before) (back ++ after) =
      endsWord (front.reverse ++ before') (back ++ after')

theorem sigmasAlike_cons {c : Char} {cs before after before' after' : List Char} :
    SigmasAlike (c :: cs) before after before' after' ↔
      (c = 'Σ' → endsWord before (cs ++ after) = endsWord before' (cs ++ after')) ∧
        SigmasAlike cs (c :: before) after (c :: before') after' := by
  constructor
  · refine fun h => ⟨fun hc => h [] cs (by rw [hc]; rfl), fun front back hcs => ?_⟩
    simpa using h (c :: front) back (by rw [hcs]; rfl)
  · rintro ⟨hhead, htail⟩ front back hcs
    cases front with
    | nil =>
      obtain ⟨rfl, rfl⟩ := List.cons.inj hcs
      exact hhead rfl
    | cons c' front =>
      obtain ⟨rfl, rfl⟩ := List.cons.inj hcs
      simpa using htail front back rfl

/-- **Only the sigmas that end a word in one place and not in the other make a difference.** -/
theorem lowerWithin_eq_iff {cs before after before' after' : List Char} :
    lowerWithin before after cs = lowerWithin before' after' cs ↔
      SigmasAlike cs before after before' after' := by
  induction cs generalizing before before' with
  | nil => simp [lowerWithin, SigmasAlike]
  | cons c cs ih =>
    rw [sigmasAlike_cons, ← ih, ← lowerAt_eq_iff, lowerWithin, lowerWithin]
    refine ⟨fun h => ?_, fun ⟨hhead, htail⟩ => by rw [hhead, htail]⟩
    exact List.append_inj h (length_lowerAt before before' _ _ c)

/-! ## Settled texts -/

/-- A text shows by itself, of each of its sigmas, whether that ends a word: if a letter goes on
behind it, if no letter stands before it, or if a letter stands before it and none goes on. -/
def Settled (cs : List Char) : Prop :=
  ∀ front back, cs = front ++ 'Σ' :: back →
    startsCased back ∨ Decides front.reverse ∧ (¬ startsCased front.reverse ∨ Decides back)

theorem Settled.sigmasAlike {cs : List Char} (h : Settled cs) (before after : List Char) :
    SigmasAlike cs before after [] [] := by
  intro front back hcs
  rw [List.append_nil, List.append_nil]
  unfold endsWord
  rcases h front back hcs with hcased | ⟨hfront, hrest⟩
  · have hback : Decides back := Decidable.not_not.mp fun hnot => by
      rw [startsCased_of_not_decides hnot] at hcased
      cases hcased
    rw [startsCased_append_of_decides hback, hcased, Bool.not_true, Bool.and_false, Bool.and_false]
  · rw [startsCased_append_of_decides hfront]
    rcases hrest with hnone | hback
    · rw [Bool.not_eq_true] at hnone
      rw [hnone, Bool.false_and, Bool.false_and]
    · rw [startsCased_append_of_decides hback]

/-! ## Texts that are not settled -/

/-- A letter to put in front of a text or behind it. -/
structure IsPlainLetter (c : Char) : Prop where
  cased : isCased c
  decides : ¬ isCaseIgnorable c
  lower : ∀ before after, lowerAt before c after = [c]

theorem isPlainLetter_a : IsPlainLetter 'a' :=
  ⟨by decide, by decide, fun _ _ => rfl⟩

theorem isPlainLetter_b : IsPlainLetter 'b' :=
  ⟨by decide, by decide, fun _ _ => rfl⟩

/-- Whichever character has to be avoided, there is a letter. -/
theorem exists_isPlainLetter (avoided : Option Char) :
    ∃ c, IsPlainLetter c ∧ avoided ≠ some c := by
  by_cases ha : avoided = some 'a'
  · exact ⟨'b', isPlainLetter_b, by rw [ha]; decide⟩
  · exact ⟨'a', isPlainLetter_a, ha⟩

theorem IsPlainLetter.startsCased_cons {c : Char} (h : IsPlainLetter c) (cs : List Char) :
    startsCased (c :: cs) := by
  rw [startsCased, List.dropWhile_cons_of_neg h.decides]
  exact h.cased

/-- Of texts of one length, only the same one stands behind a character that is not its first. -/
theorem eq_of_infix_cons {cs cs' : List Char} {c : Char} (hpart : cs <:+: c :: cs')
    (hlength : cs.length = cs'.length) (hfirst : cs.head? ≠ some c) : cs = cs' := by
  rcases List.infix_cons_iff.mp hpart with hfront | hbehind
  · cases cs with
    | nil => exact (List.length_eq_zero_iff.mp hlength.symm).symm
    | cons first rest => exact absurd (congrArg some (List.cons_prefix_cons.mp hfront).1) hfirst
  · exact hbehind.eq_of_length hlength

/-- Likewise in front of a character that is not its last. -/
theorem eq_of_infix_concat {cs cs' : List Char} {c : Char} (hpart : cs <:+: cs' ++ [c])
    (hlength : cs.length = cs'.length) (hlast : cs.getLast? ≠ some c) : cs = cs' := by
  have hreverse : cs.reverse <:+: c :: cs'.reverse := by
    rw [← List.reverse_concat]
    exact List.reverse_infix.mpr hpart
  have heq := eq_of_infix_cons hreverse (by simpa using hlength) (by simpa using hlast)
  exact List.reverse_inj.mp heq

/-- A letter in front of a sigma with which a word may end lets the word end there. -/
theorem not_infix_toLower_cons {cs front back : List Char} (hcs : cs = front ++ 'Σ' :: back)
    (hfront : ¬ Decides front.reverse) (hback : startsCased back = false) :
    ∃ c, ¬ toLower cs <:+: toLower (c :: cs) := by
  obtain ⟨c, hc, havoided⟩ := exists_isPlainLetter (toLower cs).head?
  refine ⟨c, fun hpart => ?_⟩
  have hwhole : toLower (c :: cs) = c :: lowerWithin [c] [] cs := by
    rw [toLower_eq_lowerWithin, lowerWithin, hc.lower, List.singleton_append]
  rw [hwhole] at hpart
  rw [toLower_eq_lowerWithin] at hpart havoided
  have heq := eq_of_infix_cons hpart (length_lowerWithin _ _ _ _ cs) havoided
  have halike := lowerWithin_eq_iff.mp heq front back hcs
  simp only [endsWord, List.append_nil, startsCased_append_of_not_decides hfront,
    startsCased_of_not_decides hfront, hback, hc.startsCased_cons []] at halike
  cases halike

/-- A letter behind a sigma with which a word ends lets the word go on. -/
theorem not_infix_toLower_concat {cs front back : List Char} (hcs : cs = front ++ 'Σ' :: back)
    (hfront : startsCased front.reverse) (hback : ¬ Decides back) :
    ∃ c, ¬ toLower cs <:+: toLower (cs ++ [c]) := by
  obtain ⟨c, hc, havoided⟩ := exists_isPlainLetter (toLower cs).getLast?
  refine ⟨c, fun hpart => ?_⟩
  have hwhole : toLower (cs ++ [c]) = lowerWithin [] [c] cs ++ [c] := by
    have hletter : lowerFrom (cs.reverse ++ []) [c] = [c] := by
      show lowerAt _ c [] ++ [] = [c]
      rw [hc.lower, List.append_nil]
    rw [toLower, lowerFrom_append, hletter]
  rw [hwhole] at hpart
  rw [toLower_eq_lowerWithin] at hpart havoided
  have heq := eq_of_infix_concat hpart (length_lowerWithin _ _ _ _ cs) havoided
  have halike := lowerWithin_eq_iff.mp heq front back hcs
  simp only [endsWord, List.append_nil, startsCased_append_of_not_decides hback,
    startsCased_of_not_decides hback, hfront, hc.startsCased_cons []] at halike
  cases halike

/-- A text that is not settled is lost from the lower case form of one that it is part of. -/
theorem exists_not_infix_toLower {cs : List Char} (h : ¬ Settled cs) :
    ∃ before after, ¬ toLower cs <:+: toLower (before ++ cs ++ after) := by
  unfold Settled at h
  push Not at h
  obtain ⟨front, back, hcs, hback, hrest⟩ := h
  by_cases hfront : Decides front.reverse
  · obtain ⟨hcased, hnot⟩ := hrest hfront
    obtain ⟨c, hc⟩ := not_infix_toLower_concat hcs hcased hnot
    exact ⟨[], [c], hc⟩
  · obtain ⟨c, hc⟩ := not_infix_toLower_cons hcs hfront (by simpa using hback)
    exact ⟨[c], [], by simpa using hc⟩

end Text

/-! ## The search -/

theorem includes_eq_true_iff {s t : String} :
    (Value.string s).method? "includes" [.string t] = some (.ok (.bool true)) ↔
      ∃ before after, before ++ t.toList ++ after = s.toList := by
  have hmethod : (Value.string s).method? "includes" [.string t] =
      some (.ok (.bool (Text.contains s.toList t.toList))) := rfl
  rw [hmethod]
  simp only [Option.some.injEq, Except.ok.injEq, Value.bool.injEq, Text.contains_iff_infix]
  rfl

theorem call_contains_eq_true_iff {now : Instant} {s t : String} :
    Formula.contains.call now [.string s, .string t] = .ok (.bool true) ↔
      Text.toLower t.toList <:+: Text.toLower s.toList := by
  have hcall : Formula.contains.call now [.string s, .string t] =
      .ok (.bool (Text.contains (Text.toLower s.toList) (Text.toLower t.toList))) := rfl
  rw [hcall]
  simp only [Except.ok.injEq, Value.bool.injEq, Text.contains_iff_infix]

/-- **What a search without regard to case finds.** An occurrence of a text is found if every sigma
of the text ends a word there exactly if it does in the text alone. So the texts that are found
wherever they occur are the settled ones. -/
theorem search_finds_settled_texts (now : Instant) (t : String) :
    (∀ before after : List Char,
      Text.SigmasAlike t.toList before.reverse after [] [] →
      Formula.contains.call now [.string (.ofList (before ++ t.toList ++ after)), .string t] =
        .ok (.bool true)) ∧
    (Text.Settled t.toList ↔ ∀ s : String,
      (Value.string s).method? "includes" [.string t] = some (.ok (.bool true)) →
      Formula.contains.call now [.string s, .string t] = .ok (.bool true)) := by
  have hfound : ∀ before after : List Char,
      Text.SigmasAlike t.toList before.reverse after [] [] →
      Formula.contains.call now [.string (.ofList (before ++ t.toList ++ after)), .string t] =
        .ok (.bool true) := by
    intro before after halike
    rw [call_contains_eq_true_iff, String.toList_ofList, Text.toLower_eq_lowerWithin t.toList,
      ← Text.lowerWithin_eq_iff.mpr halike]
    exact Text.lowerWithin_infix_toLower before t.toList after
  refine ⟨hfound, fun hsettled s hincludes => ?_, fun h => ?_⟩
  · obtain ⟨before, after, hs⟩ := includes_eq_true_iff.mp hincludes
    have hcall := hfound before after (hsettled.sigmasAlike before.reverse after)
    rwa [hs, String.ofList_toList] at hcall
  · by_contra hsettled
    obtain ⟨before, after, hlost⟩ := Text.exists_not_infix_toLower hsettled
    have hcall := h (.ofList (before ++ t.toList ++ after))
      (includes_eq_true_iff.mpr ⟨before, after, String.toList_ofList.symm⟩)
    rw [call_contains_eq_true_iff, String.toList_ofList] at hcall
    exact hlost hcall

/-- The end of the longer word is found, at its second occurrence; a part in which a letter goes on
behind the sigma is found anywhere. -/
theorem search_finds_settled_texts_in_word :
    Formula.contains.call ⟨0, 0⟩ [.string "ΦΙΛΟΣΟΦΟΣ", .string "ΟΣ"] = .ok (.bool true) ∧
      Formula.contains.call ⟨0, 0⟩ [.string "ΦΙΛΟΣΟΦΟΣ", .string "ΟΣΟ"] = .ok (.bool true) := by
  have hsettled : Text.Settled "ΟΣΟ".toList := by
    intro front back hcs
    have hpart : ['Ο', 'Σ', 'Ο'] = front ++ 'Σ' :: back := hcs
    match front with
    | [] => simp at hpart
    | [_] =>
      obtain rfl : back = ['Ο'] := by simp_all
      exact .inl (by decide +kernel)
    | [_, _] => simp at hpart
    | _ :: _ :: _ :: front => simp at hpart
  refine ⟨(search_finds_settled_texts ⟨0, 0⟩ "ΟΣ").1 "ΦΙΛΟΣΟΦ".toList []
    (Text.lowerWithin_eq_iff.mp (by decide +kernel)), ?_⟩
  exact (search_finds_settled_texts ⟨0, 0⟩ "ΟΣΟ").2.mp hsettled "ΦΙΛΟΣΟΦΟΣ"
    (includes_eq_true_iff.mpr ⟨"ΦΙΛ".toList, "ΦΟΣ".toList, rfl⟩)

/-- The sigma ends a word in the part, but not in the text. -/
theorem not_search_finds_every_part :
    ¬ ∀ (now : Instant) (s t : String),
      (Value.string s).method? "includes" [.string t] = some (.ok (.bool true)) →
      Formula.contains.call now [.string s, .string t] = .ok (.bool true) := by
  intro h
  have hcall := h ⟨0, 0⟩ "ΑΣΑ" "ΑΣ" (includes_eq_true_iff.mpr ⟨[], ['Α'], rfl⟩)
  rw [call_contains_eq_true_iff, ← Text.contains_iff_infix] at hcall
  have hlost : Text.contains (Text.toLower "ΑΣΑ".toList) (Text.toLower "ΑΣ".toList) = false := by
    decide +kernel
  rw [hlost] at hcall
  cases hcall

end TemplateExpr
