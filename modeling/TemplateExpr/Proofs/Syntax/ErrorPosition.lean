import TemplateExpr.Proofs.Syntax.Acceptance
import TemplateExpr.Proofs.Syntax.Detection

/-!
# Where errors of syntax are

Every function of the parser finds errors at once (`Detects`) with the phrases of its nonterminal.
For whole lists of tokens that is a statement about the parser alone: an error is at the first
token behind which the tokens cannot be continued to any that are accepted (`BreaksAt`), and if
there is no such token the error is at the end (`ErrorAt`). The end is behind the last token, with
one exception: where a key of an object is missing, it is at the brace or comma before.

What a phrase builds does not matter here, so links and operators are taken without what they are
behind (`AreLinks`, `AreOperators`).
-/

namespace TemplateExpr

open Grammar

namespace Grammar

/-! ## Some phrase of each kind -/

variable {ts : List Token} {e : Expr}

theorem Primary.linked (h : Primary ts e) : Linked ts e := by
  simpa using Linked.links h .none

theorem Operation.loosen {tiers : List Tier} (h : Operation tiers ts e) (tier : Tier) :
    Operation (tier :: tiers) ts e := by
  simpa using Operation.chain h (.none : Operators tier tiers e [] e)

theorem Power.operation (h : Power ts e) (tiers : List Tier) : Operation tiers ts e := by
  induction tiers with
  | nil => exact .power h
  | cons tier tiers ih => exact ih.loosen tier

theorem Linked.operation (h : Linked ts e) (tiers : List Tier) : Operation tiers ts e :=
  (Power.unary (.operand h)).operation tiers

/-- A name alone. -/
def someName : Token := ⟨.name "x", 0, "x"⟩

theorem unary_someName : Unary [someName] (.identifier "x") := .operand (Primary.name rfl).linked

theorem operation_someName (tiers : List Tier) : Operation tiers [someName] (.identifier "x") :=
  (Power.unary unary_someName).operation tiers

theorem expression_someName : Expression [someName] (.identifier "x") :=
  .operation (operation_someName _)

/-! ## Parts that do not depend on what they are behind -/

/-- The tokens are operators with their right operands, behind any left operand. -/
def AreOperators (tier : Tier) (tiers : List Tier) (ts : List Token) : Prop :=
  ∀ left, ∃ e, Operators tier tiers left ts e

/-- The tokens are links, behind any receiver. -/
def AreLinks (ts : List Token) : Prop := ∀ receiver, ∃ e, Links receiver ts e

theorem Links.areLinks {receiver : Expr} {ts : List Token} {e : Expr} :
    Links receiver ts e → AreLinks ts
  | .none, receiver' => ⟨receiver', .none⟩
  | .call hopening harguments hclosing more, receiver' => by
    obtain ⟨e', he'⟩ := Links.areLinks more (.call receiver' _)
    exact ⟨e', .call hopening harguments hclosing he'⟩
  | .index hopening hkey hclosing more, receiver' => by
    obtain ⟨e', he'⟩ := Links.areLinks more (.index receiver' _)
    exact ⟨e', .index hopening hkey hclosing he'⟩
  | .field hpoint hword hfield more, receiver' => by
    obtain ⟨e', he'⟩ := Links.areLinks more (.field receiver' _ _)
    exact ⟨e', .field hpoint hword hfield he'⟩
  | .method hpoint hword hopening harguments hclosing more, receiver' => by
    obtain ⟨e', he'⟩ := Links.areLinks more (.methodCall receiver' _ _ _)
    exact ⟨e', .method hpoint hword hopening harguments hclosing he'⟩

theorem not_startsWith_leftParen {t : Token} {symbol : Symbol} (h : t.Is symbol)
    (hsymbol : symbol ≠ .leftParen) : ¬ StartsWith .leftParen (t :: ts) :=
  stops_cons h (by simpa using hsymbol) .leftParen (List.mem_singleton.mpr rfl)

/-- Behind a name, a call is the call of a method. -/
theorem AreLinks.point {point word : Token} {optional : Bool}
    (hpoint : point.Is (if optional then .questionDot else .dot)) (hword : word.IsWord)
    (h : AreLinks ts) : AreLinks (point :: word :: ts) := by
  intro receiver
  obtain ⟨e, he⟩ := h (.field receiver word.lexeme optional)
  by_cases hparen : StartsWith .leftParen ts
  · cases he with
    | none => exact absurd hparen not_startsWith_nil
    | call hopening harguments hclosing more =>
      obtain ⟨e', he'⟩ := more.areLinks (.methodCall receiver word.lexeme _ optional)
      exact ⟨e', .method hpoint hword hopening harguments hclosing he'⟩
    | index hopening _ _ _ => exact absurd hparen (not_startsWith_leftParen hopening (by decide))
    | field hpoint' _ _ _ => exact absurd hparen (not_startsWith_leftParen hpoint' (by grind))
    | method hpoint' _ _ _ _ _ => exact absurd hparen (not_startsWith_leftParen hpoint' (by grind))
  · exact ⟨e, .field hpoint hword hparen he⟩

end Grammar

namespace Parser

variable {ι : Type} {N : Nat} {last? : Option Token} {size : ι → Nat}

/-! ## Lists and literals -/

/-- The tokens are a phrase with the given symbol behind it. -/
def Closed {α γ : Type} (G : List Token → γ → Prop) (closing : Symbol) (ts : List Token) (_ : α) :
    Prop :=
  ∃ ts' t c, ts = ts' ++ [t] ∧ t.Is closing ∧ G ts' c

theorem detects_closing {closing : Symbol} {cause : SyntaxCause} (hcause : cause ≠ .objectKey) :
    Detects N last? size (fun _ => expect closing cause)
      fun ts _ => ∃ t : Token, ts = [t] ∧ t.Is closing :=
  detects_expect hcause fun t ht => ⟨t, rfl, ht⟩

theorem Detects.closed {α β γ : Type} {p : ι → Parser β} {G : List Token → γ → Prop}
    {G' : List Token → α → Prop} {closing : Symbol} {cause : SyntaxCause}
    (hp : Detects N last? size p (Phrase G)) (hcause : cause ≠ .objectKey) {f : β → α}
    (hG' : ∀ ts t c b, G ts c → t.Is closing → G' (ts ++ [t]) (f b)) :
    Detects N last? size (fun x => do let b ← p x; expect closing cause; return f b) G' := by
  refine hp.bind (R := fun b ts a => ∃ t : Token, ts = [t] ∧ t.Is closing ∧ a = f b)
    (fun b => ?_) (fun b => ⟨[⟨.symbol closing, 0, ""⟩], f b, _, rfl, rfl, rfl⟩) ?_
  · refine (detects_closing hcause).map ?_
    rintro _ _ ⟨t, rfl, ht⟩
    exact ⟨t, rfl, ht, rfl⟩
  · rintro ts b _ _ ⟨c, hc⟩ ⟨t, rfl, ht, rfl⟩
    exact hG' ts t c b hc ht

/-- The key of an entry, or none. Here alone a token is taken before it is refused, and the end of
the tokens is reported at the token before. -/
theorem detects_key {α : Type} {G : List Token → α → Prop} {before : Token}
    {f : ι → Option (Token × TokenKind) → Parser α} (sizeNext : ι → Nat)
    (hsize : ∀ x, size x ≤ sizeNext x + 1) (hG : Begins G [])
    (hopens : before.Is .leftBrace ∨ before.Is .comma)
    (hend : ∀ x, f x none = fail before.position .objectKey)
    (hbad : ∀ x t, keyOf? t = none → f x (some (t, t.kind)) = fail t.position .objectKey)
    (hgood : ∀ t name, keyOf? t = some name → ∀ M < N,
      Detects M none sizeNext (fun x => f x (some (t, t.kind))) fun ts => G (t :: ts)) :
    Detects N (some before) size (fun x => accept? some >>= f x) G := by
  intro x bounds rest depth hN hx
  cases rest with
  | nil =>
    have hrun : (accept? some >>= f x) bounds ⟨[], depth⟩ =
        .error (.syntactic before.position .objectKey) ⟨[], depth⟩ := by
      rw [run_bind, run_accept?_none (fun t ht => by cases ht)]
      simp only [hend]
      rfl
    exact (ends_of_eq_error hrun).mpr (.key hG rfl hopens)
  | cons t rest =>
    cases hkey : keyOf? t with
    | none =>
      have hrun : ∀ y bounds left, (accept? some >>= f y) bounds ⟨t :: left, depth⟩ =
          .error (.syntactic t.position .objectKey) ⟨left, depth⟩ := by
        intro y bounds left
        rw [run_bind, run_accept?_some rfl]
        simp only [hbad y t hkey]
        rfl
      have hrefuses : Refuses size (fun x => accept? some >>= f x) bounds.maxDepth depth [t]
          (.syntactic t.position .objectKey) := fun y stop left _ => ⟨_, hrun y _ left⟩
      exact (ends_of_eq_error (hrun x bounds rest)).mpr (.token rfl hG hrefuses)
    | some name =>
      refine DetectsAt.take (hgood t name hkey rest.length hN).anywhere hsize
        (fun y bounds left => ?_) hx
      rw [run_bind, run_accept?_some rfl]

section

variable {self : ι → Parser Expr} (hself : Detects N none size self (Phrase Expression))
include hself

theorem detects_itemsWithin (closing : Symbol) :
    Detects N none (fun y : ι × Nat => min (size y.1) y.2)
      (fun y => itemsWithin (self y.1) closing y.2)
      (Phrase fun ts es => ts ≠ [] ∧ Items ts es) := by
  have hlast : ∀ ts e, Expression ts e → ∃ es, ts ≠ [] ∧ Items ts es := by
    intro ts e he
    refine ⟨[e], ?_, .last he⟩
    rintro rfl
    exact not_expression_nil he
  induction N using Nat.strongRecOn with
  | ind N ih =>
    refine Detects.of_succ_of_ne_nil (W := fun x n => itemsWithin (self x) closing n)
      (fun x n => min (size x) n) (fun _ => Nat.min_zero _) (fun _ ⟨_, h, _⟩ => h rfl) ?_ ?_
    · have hself' : Detects 0 none (fun x => min (size x) 0) self (Phrase Expression) :=
        (hself.mono (Nat.zero_le _)).restrict id fun _ => Nat.min_le_left _ _
      refine hself'.map ?_
      rintro ts _ ⟨e, he⟩
      exact hlast ts e he
    · have hself' : Detects N none (fun y : ι × Nat => min (size y.1) (y.2 + 1))
          (fun y => self y.1) (Phrase Expression) :=
        hself.restrict Prod.fst fun _ => Nat.min_le_left _ _
      simp only [itemsWithin]
      refine hself'.complete hlast fun e => ?_
      refine detects_accept (fun y => min (size y.1) y.2) (fun y => by omega)
        (detects_pure (completes_nil hlast _)) ?_
      intro comma hcomma M hM
      simp only [if_true]
      refine detects_nextIs fun found => ?_
      cases found with
      | true => exact detects_pure fun ts₁ e he => ⟨[e], by simp, .more he hcomma .none⟩
      | false =>
        simp only [Bool.false_eq_true, if_false]
        refine (ih M hM (hself.mono (Nat.le_of_lt hM))).anywhere.map ?_
        rintro ts _ ⟨es, -, hes⟩ ts₁ e he
        exact ⟨e :: es, by simp, .more he hcomma hes⟩

theorem detects_items {closing : Symbol} {cause : SyntaxCause} (hcause : cause ≠ .objectKey) :
    Detects N none size (fun x => items (self x) closing cause) (Closed Items closing) := by
  simp only [items]
  refine detects_nextIs fun found => ?_
  cases found with
  | true =>
    refine (detects_closing hcause).map ?_
    rintro _ _ ⟨t, rfl, ht⟩
    exact ⟨[], t, [], rfl, ht, .none⟩
  | false =>
    simp only [Bool.false_eq_true, if_false]
    exact Detects.counted (W := fun x n => itemsWithin (self x) closing n >>= _)
      ((detects_itemsWithin hself closing).closed hcause fun ts t es _ hes ht =>
        ⟨ts, t, es, rfl, ht, hes.2⟩)

theorem detects_entryValue {key : Token} {name : String} (hkey : key.IsKey name) :
    Detects N none size (fun x => entryValue (self x) key)
      (Phrase fun ts e => Entry (key :: ts) name e) := by
  simp only [entryValue]
  refine detects_accept size (fun x => Nat.le_succ _) ?_ ?_
  · have hfail : Detects N none size (fun _ => (failHere .objectColon : Parser Expr))
        (Phrase fun ts e => Entry (key :: ts) name e) := by
      refine detects_failHere (by decide) ⟨[⟨.symbol .colon, 0, ""⟩, someName], .null, ?_⟩
      exact ⟨_, .pair hkey rfl expression_someName⟩
    simp only [Bool.false_eq_true, if_false]
    cases hkey with
    | name h =>
      simp only [h]
      exact detects_pure ⟨_, .short h⟩
    | string h => simpa only [h] using hfail
    | number h => simpa only [h] using hfail
    | keyword h => simpa only [h] using hfail
  · intro colon hcolon M hM
    simp only [if_true]
    refine (hself.mono (Nat.le_of_lt hM)).anywhere.imp ?_
    rintro ts _ ⟨e, he⟩
    exact ⟨e, .pair hkey hcolon he⟩

theorem detects_entriesWithin {before : Token} (hopens : before.Is .leftBrace ∨ before.Is .comma) :
    Detects N (some before) (fun y : ι × Nat => min (size y.1) y.2)
      (fun y => entriesWithin (self y.1) before.position y.2)
      (Phrase fun ts entries => ts ≠ [] ∧ Entries ts entries) := by
  have hbegins : Begins (Phrase (fun ts entries => ts ≠ [] ∧ Entries ts entries) :
      List Token → List (String × Expr) → Prop) [] :=
    ⟨[someName], [], _, by simp, .last (.short rfl)⟩
  induction N using Nat.strongRecOn generalizing before with
  | ind N ih =>
    refine Detects.of_succ_of_ne_nil (W := fun x n => entriesWithin (self x) before.position n)
      (fun x n => min (size x) n) (fun _ => Nat.min_zero _) (fun _ ⟨_, h, _⟩ => h rfl) ?_ ?_
    · intro x bounds rest depth hN _
      rw [List.length_eq_zero_iff.mp (Nat.le_zero.mp hN)]
      exact .key hbegins rfl hopens
    · simp only [entriesWithin]
      refine detects_key (fun y => min (size y.1) y.2) (fun y => by omega) hbegins hopens
        (fun _ => rfl) (fun x t ht => by simp only [ht]) ?_
      intro key name hname M hM
      have hkey := keyOf?_eq_some_iff.mp hname
      simp only [hname]
      have hvalue : Detects M none (fun y : ι × Nat => min (size y.1) y.2)
          (fun y => entryValue (self y.1) key) (Phrase fun ts e => Entry (key :: ts) name e) :=
        (detects_entryValue (hself.mono (Nat.le_of_lt hM)) hkey).restrict Prod.fst
          fun _ => Nat.min_le_left _ _
      have hlast : ∀ ts e, Entry (key :: ts) name e →
          ∃ entries, key :: ts ≠ [] ∧ Entries (key :: ts) entries :=
        fun ts e he => ⟨[(name, e)], by simp, .last he⟩
      show Detects M none _ _
        (Phrase fun ts entries => key :: ts ≠ [] ∧ Entries (key :: ts) entries)
      refine hvalue.complete hlast fun e => ?_
      refine detects_accept? (fun y => min (size y.1) y.2) (fun y => by omega)
        (detects_pure (completes_nil hlast _)) ?_
      intro comma _ hcomma K hK
      have hcomma : comma.Is .comma := symbol_eq_some_iff.mp hcomma
      refine detects_nextIs fun found => ?_
      cases found with
      | true => exact detects_pure fun ts₁ e he => ⟨[(name, e)], by simp, .more he hcomma .none⟩
      | false =>
        simp only [Bool.false_eq_true, if_false]
        refine (ih K (by omega) (hself.mono (by omega)) (.inr hcomma)).map ?_
        rintro ts _ ⟨entries, -, hentries⟩ ts₁ e he
        exact ⟨(name, e) :: entries, by simp, .more he hcomma hentries⟩

theorem detects_objectLiteral {brace : Token} (hbrace : brace.Is .leftBrace) :
    Detects N (some brace) size (fun x => objectLiteral (self x) brace.position)
      (Closed Entries .rightBrace) := by
  simp only [objectLiteral]
  refine detects_nextIs fun found => ?_
  cases found with
  | true =>
    refine (detects_closing (by decide)).map ?_
    rintro _ _ ⟨t, rfl, ht⟩
    exact ⟨[], t, [], rfl, ht, .none⟩
  | false =>
    simp only [Bool.false_eq_true, if_false]
    exact Detects.counted (W := fun x n => entriesWithin (self x) brace.position n >>= _)
      ((detects_entriesWithin hself (.inl hbrace)).closed (by decide) fun ts t entries _ h ht =>
        ⟨ts, t, entries, rfl, ht, h.2⟩)

end

theorem detects_misplaced {G : List Token → Expr → Prop} (hG : Begins G []) :
    Detects N last? size (fun _ => primary.misplaced) G :=
  detects_failure .unexpectedEnd (by decide) hG (fun _ _ _ _ _ => ⟨_, rfl⟩) fun _ _ _ => ⟨_, rfl⟩

section

variable {self : ι → Parser Expr} (hself : ∀ M < N, Detects M none size self (Phrase Expression))
include hself

theorem detects_primary :
    Detects N none (fun x => size x + 1) (fun x => primary (self x)) (Phrase Primary) := by
  simp only [primary]
  refine detects_accept? size (fun x => Nat.le_refl _)
    (detects_misplaced ⟨[someName], .null, _, .name rfl⟩) ?_
  intro t kind hopening M hM
  cases opening?_eq_some hopening
  cases hkind : t.kind with
  | number n => exact detects_pure ⟨_, .number hkind⟩
  | string s => exact detects_pure ⟨_, .string hkind⟩
  | name name => exact detects_pure ⟨_, .name hkind⟩
  | keyword word =>
    cases word with
    | «true» => exact detects_pure ⟨.bool true, .constant hkind (by simp [constants])⟩
    | «false» => exact detects_pure ⟨.bool false, .constant hkind (by simp [constants])⟩
    | null => exact detects_pure ⟨.null, .constant hkind (by simp [constants])⟩
    | undefined => exact detects_pure ⟨.undefined, .constant hkind (by simp [constants])⟩
    | typeof =>
      rw [hkind] at hopening
      cases hopening
  | symbol symbol =>
    have hsymbol : symbol = .leftParen ∨ symbol = .leftBracket ∨ symbol = .leftBrace := by
      rw [hkind] at hopening
      by_contra hother
      simp only [primary.opening?, if_neg hother] at hopening
      cases hopening
    rcases hsymbol with rfl | rfl | rfl
    · refine (hself M hM).anywhere.closed (by decide) fun ts closing e _ he hclosing => ?_
      exact ⟨e, .parentheses hkind he hclosing⟩
    · refine (detects_items (hself M hM) (by decide)).anywhere.map ?_
      rintro _ _ ⟨ts, closing, es, rfl, hclosing, hes⟩
      exact ⟨.array es, .array hkind hes hclosing⟩
    · refine (detects_objectLiteral (hself M hM) hkind).imp ?_
      rintro _ _ ⟨ts, closing, entries, rfl, hclosing, hentries⟩
      exact ⟨.object entries, .object hkind hentries hclosing⟩

end

/-! ## Operators -/

section

variable {operand : ι → Parser Expr} {tier : Tier} {tiers : List Tier}

theorem detects_operatorStep (hoperand : Detects N none size operand (Phrase (Operation tiers)))
    (left : Expr) : Detects N none size (fun x => operatorStep tier (operand x) left)
      (Lengthens (AreOperators tier tiers)) := by
  simp only [operatorStep]
  refine detects_accept? size (fun _ => Nat.le_succ _) (detects_pure rfl) ?_
  intro operator build hkind M hM
  obtain ⟨symbol, hoperator, hbuild⟩ := ofKind?_level_eq_some_iff.mp hkind
  refine ((hoperand.mono (Nat.le_of_lt hM)).anywhere.map ?_).deepen
  rintro ts right ⟨e, he⟩
  refine ⟨by simp, fun ts' hmore left => ?_⟩
  obtain ⟨e', he'⟩ := hmore (build left e)
  exact ⟨e', .more hoperator hbuild he he'⟩

theorem detects_leftChain (hoperand : Detects N none size operand (Phrase (Operation tiers))) :
    Detects N none size (fun x => leftChain tier.level (operand x))
      (Phrase (Operation (tier :: tiers))) := by
  simp only [leftChain_eq_chain]
  refine Detects.chain hoperand (fun left => ⟨left, .none⟩) (fun _ _ _ _ => rfl)
    (detects_operatorStep hoperand) ?_
  rintro ts₁ left ts₂ e ⟨e₁, he₁⟩ hmore
  obtain ⟨e₂, he₂⟩ := hmore e₁
  exact ⟨e₂, .chain he₁ he₂⟩

theorem detects_unaryWithin (hoperand : Detects N none size operand (Phrase Linked)) :
    Detects N none (fun y : ι × Nat => min (size y.1) y.2)
      (fun y => unaryWithin (operand y.1) y.2) (Phrase Unary) := by
  induction N using Nat.strongRecOn with
  | ind N ih =>
    have hempty : ∀ e, ¬ Unary [] e := fun e he => absurd he.opened.length_pos (Nat.lt_irrefl 0)
    refine Detects.of_succ_of_ne_nil (W := fun x n => unaryWithin (operand x) n)
      (fun x n => min (size x) n) (fun _ => Nat.min_zero _) (fun _ ⟨e, he⟩ => hempty e he) ?_ ?_
    · exact detects_failHere (by decide) ⟨[someName], .null, _, unary_someName⟩
    · simp only [unaryWithin]
      refine detects_accept? (fun y : ι × Nat => min (size y.1) y.2) (fun y => by omega) ?_ ?_
      · refine (hoperand.restrict Prod.fst fun _ => Nat.min_le_left _ _).imp ?_
        rintro ts _ ⟨e, he⟩
        exact ⟨e, .operand he⟩
      · intro t op hkind M hM
        refine (ih M hM (hoperand.mono (Nat.le_of_lt hM))).nested.anywhere.map ?_
        rintro ts _ ⟨e, he⟩
        exact ⟨.unary op e, .sign (unaryOp?_eq_some_iff.mp hkind) he⟩

theorem detects_unary (hoperand : Detects N none size operand (Phrase Linked)) :
    Detects N none size (fun x => unary (operand x)) (Phrase Unary) :=
  Detects.counted (W := fun x n => unaryWithin (operand x) n) (detects_unaryWithin hoperand)

theorem detects_exponentWithin (hoperand : Detects N none size operand (Phrase Unary)) :
    Detects N none (fun y : ι × Nat => min (size y.1) y.2)
      (fun y => exponentWithin (operand y.1) y.2) (Phrase Power) := by
  induction N using Nat.strongRecOn with
  | ind N ih =>
    have hempty : ∀ e, ¬ Power [] e := fun e he => absurd he.opened.length_pos (Nat.lt_irrefl 0)
    refine Detects.of_succ_of_ne_nil (W := fun x n => exponentWithin (operand x) n)
      (fun x n => min (size x) n) (fun _ => Nat.min_zero _) (fun _ ⟨e, he⟩ => hempty e he) ?_ ?_
    · exact detects_failHere (by decide) ⟨[someName], .null, _, .unary unary_someName⟩
    · have hbase : Detects N none (fun y : ι × Nat => min (size y.1) (y.2 + 1))
          (fun y => operand y.1) (Phrase Unary) :=
        hoperand.restrict Prod.fst fun _ => Nat.min_le_left _ _
      simp only [exponentWithin]
      refine hbase.complete (fun ts e he => ⟨e, .unary he⟩) fun base => ?_
      refine detects_accept (fun y => min (size y.1) y.2) (fun y => by omega)
        (detects_pure (completes_nil (fun ts e he => ⟨e, .unary he⟩) _)) ?_
      intro operator hoperator M hM
      simp only [if_true]
      refine (ih M hM (hoperand.mono (Nat.le_of_lt hM))).nested.anywhere.map ?_
      rintro ts _ ⟨e, he⟩ ts₁ e₁ he₁
      exact ⟨.binary .pow e₁ e, .power he₁ hoperator he⟩

theorem detects_exponent (hoperand : Detects N none size operand (Phrase Unary)) :
    Detects N none size (fun x => exponent (operand x)) (Phrase Power) :=
  Detects.counted (W := fun x n => exponentWithin (operand x) n) (detects_exponentWithin hoperand)

end

/-! ## Links -/

theorem detects_propertyName : Detects N last? size (fun _ => propertyName)
    fun ts _ => ∃ word : Token, ts = [word] ∧ word.IsWord := by
  simp only [propertyName]
  refine detects_accept? size (fun _ => Nat.le_succ _) ?_ ?_
  · exact detects_failHere (by decide) ⟨[someName], "", someName, rfl, .name rfl⟩
  · intro word _ hword M _
    exact detects_pure ⟨word, rfl, wordOf?_eq_some_iff.mp hword⟩

/-- What is behind the point of a link. -/
theorem detects_point {self : ι → Parser Expr}
    (hself : Detects N none size self (Phrase Expression)) {point : Token} {optional : Bool}
    (hpoint : point.Is (if optional then .questionDot else .dot)) (receiver : Expr) :
    Detects N last? size (fun x => do
        let name ← propertyName
        if ← accept .leftParen then
          let arguments ← items (self x) .rightParen .argumentsEnd
          return some (Expr.methodCall receiver name arguments optional)
        else return some (Expr.field receiver name optional))
      fun ts => Lengthens AreLinks (point :: ts) := by
  have hfield : ∀ word : Token, word.IsWord → ∀ ts', AreLinks ts' →
      AreLinks (point :: word :: ([] ++ ts')) :=
    fun word hword ts' hmore => hmore.point hpoint hword
  refine detects_propertyName.bind (R := fun _ ts next? => next?.isSome = true ∧
    ∀ word : Token, word.IsWord → ∀ ts', AreLinks ts' → AreLinks (point :: word :: (ts ++ ts')))
    (fun name => ?_) (fun name => ⟨[], some receiver, rfl, hfield⟩) ?_
  · refine detects_accept size (fun _ => Nat.le_succ _) ?_ ?_
    · exact detects_pure ⟨rfl, hfield⟩
    · intro opening hopening M hM
      simp only [if_true]
      refine (detects_items (hself.mono (Nat.le_of_lt hM)) (by decide)).anywhere.map ?_
      rintro _ _ ⟨ts, closing, es, rfl, hclosing, hes⟩
      refine ⟨rfl, fun word hword ts' hmore receiver => ?_⟩
      obtain ⟨e, he⟩ := hmore (.methodCall receiver word.lexeme es optional)
      exact ⟨e, by simpa using Links.method hpoint hword hopening hes hclosing he⟩
  · rintro _ name ts (_ | next) ⟨word, rfl, hword⟩ ⟨hsome, hlinks⟩
    · cases hsome
    · exact ⟨by simp, fun ts' hmore => hlinks word hword ts' hmore⟩

section

variable {self : ι → Parser Expr} (hself : ∀ M < N, Detects M none size self (Phrase Expression))
include hself

theorem detects_link (receiver : Expr) :
    Detects N none (fun x => size x + 1) (fun x => link (self x) receiver)
      (Lengthens AreLinks) := by
  simp only [link]
  refine detects_accept? size (fun _ => Nat.le_refl _) (detects_pure rfl) ?_
  intro t symbol hlink M hM
  obtain ⟨hsymbol, hmem⟩ := link?_eq_some_iff.mp hlink
  refine Detects.deepen ?_
  simp only [linkSymbols, List.mem_cons, List.not_mem_nil, or_false] at hmem
  rcases hmem with rfl | rfl | rfl | rfl
  · refine (detects_items (hself M hM) (by decide)).anywhere.map ?_
    rintro _ _ ⟨ts, closing, es, rfl, hclosing, hes⟩
    refine ⟨by simp, fun ts' hmore receiver => ?_⟩
    obtain ⟨e, he⟩ := hmore (.call receiver es)
    exact ⟨e, by simpa using Links.call hsymbol hes hclosing he⟩
  · have hpoint : t.Is (if false then .questionDot else .dot) := hsymbol
    exact detects_point (hself M hM) hpoint receiver
  · have hpoint : t.Is (if true then .questionDot else .dot) := hsymbol
    exact detects_point (hself M hM) hpoint receiver
  · refine (hself M hM).anywhere.closed (by decide) fun ts closing key _ hkey hclosing => ?_
    refine ⟨by simp, fun ts' hmore receiver => ?_⟩
    obtain ⟨e, he⟩ := hmore (.index receiver key)
    exact ⟨e, by simpa using Links.index hsymbol hkey hclosing he⟩

theorem detects_linked :
    Detects N none (fun x => size x + 1) (fun x => linked (self x)) (Phrase Linked) := by
  simp only [linked]
  refine Detects.chain (detects_primary hself) (fun receiver => ⟨receiver, .none⟩)
    (fun _ _ _ _ => rfl) (detects_link hself) ?_
  rintro ts₁ _ ts₂ _ ⟨receiver, hreceiver⟩ hmore
  obtain ⟨e, he⟩ := hmore receiver
  exact ⟨e, .links hreceiver he⟩

/-! ## Expressions -/

theorem detects_operation (tiers : List Tier) :
    Detects N none (fun x => size x + 1) (fun x => operation (self x) tiers)
      (Phrase (Operation tiers)) := by
  induction tiers with
  | nil =>
    refine (detects_exponent (detects_unary (detects_linked hself))).imp ?_
    rintro ts _ ⟨e, he⟩
    exact ⟨e, .power he⟩
  | cons tier tiers ih =>
    simp only [operation_cons]
    exact detects_leftChain ih

theorem detects_conditional :
    Detects N none (fun x => size x + 1) (fun x => conditional (self x)) (Phrase Expression) := by
  have hcondition : ∀ ts e, Operation Tier.all ts e → ∃ e', Expression ts e' :=
    fun ts e he => ⟨e, .operation he⟩
  simp only [conditional, binary_eq_operation]
  refine (detects_operation hself Tier.all).complete hcondition fun condition => ?_
  refine detects_accept size (fun _ => Nat.le_refl _)
    (detects_pure (completes_nil hcondition _)) ?_
  intro question hquestion M hM
  simp only [if_true]
  -- The colon and what is behind it do not depend on the condition.
  have halternate : ∀ consequent, Detects M none size (fun x => do
      expect .colon .conditionalColon
      let alternate ← self x
      return Expr.conditional condition consequent alternate)
      fun ts _ => ∃ colon ts₃ e₃, ts = colon :: ts₃ ∧ colon.Is .colon ∧ Expression ts₃ e₃ := by
    intro consequent
    refine (detects_closing (by decide)).bind (R := fun _ => Phrase Expression)
      (fun _ => (hself M hM).map fun _ _ h => h)
      (fun _ => ⟨[someName], .null, _, expression_someName⟩) ?_
    rintro _ _ ts₃ _ ⟨colon, rfl, hcolon⟩ ⟨e₃, he₃⟩
    exact ⟨colon, ts₃, e₃, rfl, hcolon, he₃⟩
  refine (hself M hM).anywhere.bind halternate (fun consequent => ?_) ?_
  · exact ⟨_, .null, ⟨.symbol .colon, 0, ""⟩, [someName], _, rfl, rfl, expression_someName⟩
  · rintro ts₂ _ _ _ ⟨e₂, he₂⟩ ⟨colon, ts₃, e₃, rfl, hcolon, he₃⟩ ts₁ e₁ he₁
    exact ⟨.conditional e₁ e₂ e₃, .conditional he₁ hquestion he₂ hcolon he₃⟩

end

/-- **The parser of expressions finds errors at once.** -/
theorem detects_expression (N : Nat) :
    Detects N none (fun n : Nat => n) expression (Phrase Expression) := by
  have hfamily : Detects N none (fun y : Unit × Nat => y.2) (fun y => expression y.2)
      (Phrase Expression) := by
    induction N using Nat.strongRecOn with
    | ind N ih =>
      refine Detects.of_succ_of_ne_nil (W := fun _ n => expression n) (fun _ n => n)
        (fun _ => rfl) (fun _ ⟨e, he⟩ => not_expression_nil he) ?_ ?_
      · simp only [expression]
        exact (detects_failHere (by decide) ⟨[someName], .null, _, expression_someName⟩).nested
      · simp only [expression]
        exact (detects_conditional ih).nested
  exact hfamily.restrict (fun n => ((), n)) fun _ => Nat.le_refl _

end Parser

/-! ## Viable tokens -/

variable {tokens : List Token} {maxDepth position : Nat} {cause : SyntaxCause} {t : Token}

/-- Under some limit, the parser accepts the tokens with some others behind them. -/
def Viable (tokens : List Token) : Prop :=
  ∃ more maxDepth e, parseTokens (tokens ++ more) maxDepth = .ok e

/-- The token is the first one that the tokens cannot be continued behind. -/
def BreaksAt (tokens : List Token) (t : Token) : Prop :=
  ∃ before after, tokens = before ++ t :: after ∧ Viable before ∧ ¬ Viable (before ++ [t])

theorem viable_of_expression (more : List Token) {e : Expr} (h : Expression (tokens ++ more) e) :
    Viable tokens :=
  ⟨more, 2 * (tokens ++ more).length + 1, e, (parseTokens_eq_ok_iff (Nat.lt_succ_self _)).mpr h⟩

theorem viable_of_begins
    (h : Parser.Begins (Parser.Phrase Expression : List Token → Expr → Prop) tokens) :
    Viable tokens := by
  obtain ⟨more, -, e, he⟩ := h
  exact viable_of_expression more he

/-- If the tokens fail under one limit whatever is behind them, and not because of the limit, no
limit helps. -/
theorem not_viable_of_fails (maxDepth : Nat)
    (h : ∀ more, ∃ position cause,
      parseTokens (tokens ++ more) maxDepth = .error (.syntactic position cause)) :
    ¬ Viable tokens := by
  rintro ⟨more, limit, e, hok⟩
  obtain ⟨position, cause, hfails⟩ := h more
  have he : Expression (tokens ++ more) e := expression_of_parseTokens_eq_ok hok
  rcases parseTokens_eq_ok_or_exhausted he maxDepth with hok | hexhausted
  · rw [hfails] at hok
    cases hok
  · rw [hfails] at hexhausted
    cases hexhausted

theorem BreaksAt.not_viable (h : BreaksAt tokens t) : ¬ Viable tokens := by
  obtain ⟨before, after, rfl, -, hbreaks⟩ := h
  rintro ⟨more, limit, e, hok⟩
  exact hbreaks ⟨after ++ more, limit, e, by simpa using hok⟩

/-- Where an error of syntax is: at the token where the tokens break off, or behind the last one if
there is no such token. But a key that is missing there is reported at the brace or comma before
it. -/
inductive ErrorAt (tokens : List Token) : Nat → SyntaxCause → Prop where
  | breaks {t : Token} {cause : SyntaxCause} (h : BreaksAt tokens t) :
      ErrorAt tokens t.position cause
  | stop {cause : SyntaxCause} (h : Viable tokens) (hcause : cause ≠ .objectKey) :
      ErrorAt tokens (stopOf tokens) cause
  | key {t : Token} (h : Viable tokens) (hlast : tokens.getLast? = some t)
      (hopens : t.Is .leftBrace ∨ t.Is .comma) : ErrorAt tokens t.position .objectKey

theorem errorAt_of_run_eq_error {now : Cursor}
    (h : Parser.expression tokens.length ⟨maxDepth, stopOf tokens⟩ ⟨tokens, 0⟩ =
      .error (.syntactic position cause) now) : ErrorAt tokens position cause := by
  have hhalts := Parser.detects_expression tokens.length tokens.length ⟨maxDepth, stopOf tokens⟩
    tokens 0 (Nat.le_refl _) (Nat.le_refl _)
  rw [Parser.DetectsAt, Parser.ends_of_eq_error h] at hhalts
  cases hhalts with
  | @token before after t _ hrest hbefore hrefuses =>
    refine .breaks ⟨before, after, hrest, viable_of_begins hbefore, ?_⟩
    refine not_viable_of_fails maxDepth fun more => ?_
    obtain ⟨now, hrun⟩ := hrefuses (before ++ [t] ++ more).length (stopOf (before ++ [t] ++ more))
      more (Nat.le_refl _)
    exact ⟨t.position, cause, by rw [parseTokens_of_ne_nil (by simp), hrun]⟩
  | stop hbegins hcause => exact .stop (viable_of_begins hbegins) hcause
  | @key t hbegins hlast hopens =>
    rw [Option.or_none] at hlast
    exact .key (viable_of_begins hbegins) hlast hopens

/-- The tokens up to the one that is left are an expression, and they are taken as one whatever is
behind that token. -/
theorem breaksAt_of_run_eq_ok {e : Expr} {after : List Token} {depth : Nat}
    (h : Parser.expression tokens.length ⟨maxDepth, stopOf tokens⟩ ⟨tokens, 0⟩ =
      .ok e ⟨t :: after, depth⟩) : BreaksAt tokens t := by
  have hread := Parser.detects_expression tokens.length tokens.length ⟨maxDepth, stopOf tokens⟩
    tokens 0 (Nat.le_refl _) (Nat.le_refl _)
  rw [Parser.DetectsAt, Parser.ends_of_eq_ok h] at hread
  obtain ⟨before, hbefore, ⟨e', he'⟩, htakes⟩ := hread
  have hviable : Viable before := viable_of_expression [] (by simpa using he')
  refine ⟨before, after, hbefore, hviable, not_viable_of_fails maxDepth fun more => ?_⟩
  have hrun := htakes (before ++ t :: more).length (stopOf (before ++ t :: more)) (t :: more) rfl
    (Nat.le_refl _)
  refine ⟨t.position, .unexpectedToken t.lexeme, ?_⟩
  rw [List.append_assoc, List.singleton_append, parseTokens_of_ne_nil (by simp), hrun]

theorem errorAt_of_parseTokens_eq_error
    (h : parseTokens tokens maxDepth = .error (.syntactic position cause)) :
    ErrorAt tokens position cause := by
  by_cases htokens : tokens = []
  · subst htokens
    cases h
    have hviable : Viable [] := viable_of_expression [someName] expression_someName
    exact .stop hviable (by decide)
  · rw [parseTokens_of_ne_nil htokens] at h
    cases hrun : Parser.expression tokens.length ⟨maxDepth, stopOf tokens⟩ ⟨tokens, 0⟩ with
    | error error now =>
      rw [hrun] at h
      cases h
      exact errorAt_of_run_eq_error hrun
    | ok e now =>
      obtain ⟨left, depth⟩ := now
      cases left with
      | nil =>
        rw [hrun] at h
        cases h
      | cons t after =>
        rw [hrun] at h
        cases h
        exact .breaks (breaksAt_of_run_eq_ok hrun)

/-- **Errors of syntax are where the tokens break off**, for every text that has tokens and under
every limit. -/
theorem parse_fails_where_tokens_break_off (text : String) (maxDepth : Nat) (tokens : List Token)
    (position : Nat) (cause : SyntaxCause) (htokens : tokenize text = .ok tokens)
    (hfails : parse text maxDepth = .error (.syntactic position cause)) :
    ErrorAt tokens position cause := by
  have hparse : parse text maxDepth = parseTokens tokens maxDepth := by
    rw [parse, htokens]
    rfl
  rw [hparse] at hfails
  exact errorAt_of_parseTokens_eq_error hfails

/-- A field breaks off at a token that is no name. -/
theorem parse_fails_where_tokens_break_off_at_star :
    let name : Token := ⟨.name "a", 0, "a"⟩
    let point : Token := ⟨.symbol .dot, 1, "."⟩
    let star : Token := ⟨.symbol .star, 2, "*"⟩
    tokenize "a.*" = .ok [name, point, star] ∧
      parse "a.*" 10 = .error (.syntactic 2 .propertyName) ∧
      ∃ t, BreaksAt [name, point, star] t ∧ t.position = 2 := by
  intro name point star
  have htokens : tokenize "a.*" = .ok [name, point, star] := rfl
  have hfails : parse "a.*" 10 = .error (.syntactic 2 .propertyName) := rfl
  refine ⟨htokens, hfails, ?_⟩
  have herror := parse_fails_where_tokens_break_off _ 10 _ 2 .propertyName htokens hfails
  generalize hposition : 2 = position at herror
  generalize hcause : SyntaxCause.propertyName = cause at herror
  cases herror with
  | breaks hbreaks => exact ⟨_, hbreaks, rfl⟩
  | stop _ _ => exact absurd hposition (by decide)
  | key _ _ _ => cases hcause

/-- The error of an unclosed brace is at the brace, and not behind it. -/
theorem not_position_of_parse_behind_brace :
    ¬ ∀ (text : String) (maxDepth : Nat) (tokens : List Token) (position : Nat)
        (cause : SyntaxCause), tokenize text = .ok tokens →
      parse text maxDepth = .error (.syntactic position cause) →
      (∃ t, BreaksAt tokens t ∧ position = t.position) ∨
        Viable tokens ∧ position = stopOf tokens := by
  intro h
  let brace : Token := ⟨.symbol .leftBrace, 0, "\x7b"⟩
  have hviable : Viable [brace] := ⟨[⟨.symbol .rightBrace, 1, "\x7d"⟩], 10, .object [], rfl⟩
  have htokens : tokenize "\x7b" = .ok [brace] := rfl
  have hfails : parse "\x7b" 10 = .error (.syntactic 0 .objectKey) := rfl
  rcases h _ _ _ _ _ htokens hfails with ⟨t, hbreaks, -⟩ | ⟨-, hposition⟩
  · exact hbreaks.not_viable hviable
  · exact absurd hposition (by decide)

end TemplateExpr
