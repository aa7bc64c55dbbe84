import TemplateExpr.Proofs.Denylist.Constructs
import TemplateExpr.Proofs.Evaluator.Depth
import TemplateExpr.Proofs.Syntax.Acceptance
import TemplateExpr.Proofs.Syntax.Sources

/-!
# The names that pass the denylist

The denylist looks at a text and knows nothing of tokens and trees. Every name in a tree stands in
the text, though, and the name of a method has a gap and a parenthesis behind it there, which is just
what the denylist looks for. So no method of an expression that passes is called one of the words
that may not be called, nor has a name that ends in one (`denylist_guarantees`).
-/

namespace TemplateExpr

namespace Denylist

/-- The characters contain a word, without regard to case. -/
def Mentions (name word : String) : Prop :=
  ∃ written, Spells written word ∧ written <:+: name.toList

/-- The characters end in a word, without regard to case. -/
def EndsIn (name word : String) : Prop :=
  ∃ written, Spells written word ∧ written <:+ name.toList

/-- The name of a node, if it has one, is none that the denylist is about. -/
def Harmless : Expr → Prop
  | .identifier name | .field _ name _ => ¬ Mentions name bareWord
  | .methodCall _ name _ _ => ¬ Mentions name bareWord ∧ ∀ word ∈ callWords, ¬ EndsIn name word
  | _ => True

theorem not_mentions_of_within {cs : List Char} {name : String} (h : ¬ Contains cs)
    (hname : name.toList <:+: cs) : ¬ Mentions name bareWord := by
  rintro ⟨written, hspells, hwithin⟩
  exact h ⟨written, .bare hspells, hwithin.trans hname⟩

theorem not_endsIn_of_within {cs gap : List Char} {name word : String} (h : ¬ Contains cs)
    (hword : word ∈ callWords) (hgap : IsGap gap)
    (hname : name.toList ++ (gap ++ ['(']) <:+: cs) : ¬ EndsIn name word := by
  rintro ⟨written, hspells, front, hfront⟩
  refine h ⟨written ++ (gap ++ ['(']), .call hword hspells hgap, ?_⟩
  rw [← hfront, List.append_assoc] at hname
  exact (List.suffix_append _ _).isInfix.trans hname

/-- A name that comes from the tokens of a text that is not refused is harmless. -/
theorem harmless_of_sourced {position : Nat} {cs : List Char} {ts : List Token} {node : Expr}
    (hlexes : Lexer.Lexes position cs (ts.map .ok)) (h : ¬ Contains cs)
    (hnode : Grammar.Sourced ts node) : Harmless node := by
  have htiles := hlexes.tiles
  cases node with
  | identifier name =>
    obtain ⟨t, ht, hkind⟩ := hnode
    have hlexeme := hlexes.spelled t ht
    rw [hkind] at hlexeme
    have hlexeme : t.lexeme = name := hlexeme
    exact not_mentions_of_within h (hlexeme ▸ htiles.lexeme_within ht)
  | field receiver name optional =>
    obtain ⟨t, ht, -, rfl⟩ := hnode
    exact not_mentions_of_within h (htiles.lexeme_within ht)
  | methodCall receiver name arguments optional =>
    obtain ⟨t, opening, hpair, -, rfl, hopening⟩ := hnode
    have ht : t ∈ ts := hpair.subset List.mem_cons_self
    have hlexeme := hlexes.spelled opening (hpair.subset (by simp))
    rw [hopening] at hlexeme
    have hlexeme : opening.lexeme = "(" := hlexeme
    obtain ⟨gap, hgap, hwritten⟩ := htiles.pair_within hpair
    rw [hlexeme] at hwritten
    exact ⟨not_mentions_of_within h (htiles.lexeme_within ht),
      fun word hword => not_endsIn_of_within h hword hgap hwritten⟩
  | _ => trivial

end Denylist

/-- **What the denylist guarantees.** It refuses exactly the texts that contain one of its constructs,
so it refuses every text around a refused one. In the tree of an expression that passes, no name
contains the word that may not occur, and no method has a name that ends in a word that may not be
called. -/
theorem denylist_guarantees (text : String) :
    (refuseDangerous text = .error (.dangerous text) ↔ Denylist.Contains text.toList) ∧
    (refuseDangerous text = .ok () ↔ ¬ Denylist.Contains text.toList) ∧
    (∀ before behind, refuseDangerous text = .error (.dangerous text) →
      refuseDangerous (before ++ text ++ behind) = .error (.dangerous (before ++ text ++ behind))) ∧
    ∀ maxDepth e, refuseDangerous text = .ok () → parse text maxDepth = .ok e →
      ∀ node ∈ e.subtrees, Denylist.Harmless node := by
  refine ⟨refuseDangerous_eq_error_iff, refuseDangerous_eq_ok_iff, ?_, ?_⟩
  · intro before behind h
    rw [refuseDangerous_eq_error_iff] at h ⊢
    refine h.mono ?_
    rw [String.toList_append, String.toList_append]
    exact List.infix_append _ _ _
  · intro maxDepth e hpasses hparse node hnode
    obtain ⟨ts, htokens, hts⟩ := exists_tokens_of_parse_eq_ok hparse
    have hsourced := (expression_of_parseTokens_eq_ok hts).allSourced node hnode
    exact Denylist.harmless_of_sourced (tokenize_eq_ok_iff.mp htokens)
      (refuseDangerous_eq_ok_iff.mp hpasses) hsourced

/-- A blank does not hide a call, and the letters of a word that may not be called do no harm where
nothing is called. -/
theorem denylist_guarantees_of_evaluate :
    let refused := "x.reEVAL \n("
    let passed := "o.evaluate(p.constructor)"
    refuseDangerous refused = .error (.dangerous refused) ∧
      refuseDangerous ("[" ++ refused ++ ")]") = .error (.dangerous ("[" ++ refused ++ ")]")) ∧
      refuseDangerous passed = .ok () ∧
      ∃ e, parse passed 8 = .ok e ∧ ∀ node ∈ e.subtrees, Denylist.Harmless node := by
  intro refused passed
  have hrefused : refuseDangerous refused = .error (.dangerous refused) := by decide +kernel
  have hpassed : refuseDangerous passed = .ok () := by decide +kernel
  have hok : (parse passed 8).isOk := by decide +kernel
  obtain ⟨e, hparse⟩ : ∃ e, parse passed 8 = .ok e := by
    cases hparse : parse passed 8 with
    | ok e => exact ⟨e, rfl⟩
    | error error =>
      rw [hparse] at hok
      cases hok
  exact ⟨hrefused, (denylist_guarantees refused).2.2.1 "[" ")]" hrefused, hpassed, e, hparse,
    (denylist_guarantees passed).2.2.2 8 e hpassed hparse⟩

end TemplateExpr
