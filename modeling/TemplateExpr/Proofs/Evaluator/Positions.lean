import TemplateExpr.Proofs.Eval.Paths
import TemplateExpr.Proofs.Evaluator.Boundary
import TemplateExpr.Proofs.Syntax.ErrorPosition
import TemplateExpr.Proofs.Text.Units
import TemplateExpr.Proofs.Value.Slices

/-!
# Positions in texts

`indexOf` and `length` count code units, and `slice` counts characters. So what is cut out where a
text was found is that text as long as all characters up to its end are in the basic plane, where the
two counts are the same, and need not be so behind others (`slice_at_indexOf`).
-/

namespace TemplateExpr

open Grammar

/-! ## The expression -/

/-- Cuts `t` out of `s` where it is found there, and compares. -/
def positionLaw : String := "s.slice(s.indexOf(t), s.indexOf(t) + t.length) === t"

/-- The first position of `t` in `s`. -/
def indexOfExpr : Expr := .methodCall (.identifier "s") "indexOf" [.identifier "t"] false

def positionLawExpr : Expr :=
  .binary .strictEq
    (.methodCall (.identifier "s") "slice"
      [indexOfExpr, .binary .add indexOfExpr (.field (.identifier "t") "length" false)] false)
    (.identifier "t")

/-- The tokens of `s.indexOf(t)` from an offset on. -/
def indexOfTokens (offset : Nat) : List Token :=
  [⟨.name "s", offset, "s"⟩, ⟨.symbol .dot, offset + 1, "."⟩,
    ⟨.name "indexOf", offset + 2, "indexOf"⟩, ⟨.symbol .leftParen, offset + 9, "("⟩,
    ⟨.name "t", offset + 10, "t"⟩, ⟨.symbol .rightParen, offset + 11, ")"⟩]

/-- The tokens of `t.length` from an offset on. -/
def lengthTokens (offset : Nat) : List Token :=
  [⟨.name "t", offset, "t"⟩, ⟨.symbol .dot, offset + 1, "."⟩,
    ⟨.name "length", offset + 2, "length"⟩]

def positionLawTokens : List Token :=
  [⟨.name "s", 0, "s"⟩, ⟨.symbol .dot, 1, "."⟩, ⟨.name "slice", 2, "slice"⟩,
    ⟨.symbol .leftParen, 7, "("⟩] ++
    (indexOfTokens 8 ++ ⟨.symbol .comma, 20, ","⟩ ::
      (indexOfTokens 22 ++ ⟨.symbol .plus, 35, "+"⟩ :: lengthTokens 37)) ++
    [⟨.symbol .rightParen, 45, ")"⟩, ⟨.symbol .strictEqual, 47, "==="⟩, ⟨.name "t", 51, "t"⟩]

theorem tokenize_positionLaw : tokenize positionLaw = .ok positionLawTokens := by
  have htokens : (tokenize positionLaw).toOption = some positionLawTokens := by decide +kernel
  cases hresult : tokenize positionLaw with
  | error e =>
    rw [hresult] at htokens
    cases htokens
  | ok ts =>
    rw [hresult] at htokens
    exact congrArg Except.ok (Option.some.inj htokens)

namespace Grammar

theorem linked_name (x : String) (offset : Nat) :
    Linked [⟨.name x, offset, x⟩] (.identifier x) :=
  (Primary.name rfl).linked

/-- A method call on a name; where the tokens are makes no difference. -/
theorem linked_method {ts : List Token} {arguments : List Expr} (x method : String)
    (i j k l m : Nat) (h : Items ts arguments) :
    Linked (⟨.name x, i, x⟩ :: ⟨.symbol .dot, j, "."⟩ :: ⟨.name method, k, method⟩ ::
      ⟨.symbol .leftParen, l, "("⟩ :: (ts ++ [⟨.symbol .rightParen, m, ")"⟩]))
      (.methodCall (.identifier x) method arguments false) := by
  have hname : Primary [⟨.name x, i, x⟩] (.identifier x) := .name rfl
  have hpoint : Token.Is ⟨.symbol .dot, j, "."⟩ (if false then .questionDot else .dot) := rfl
  have hword : Token.IsWord ⟨.name method, k, method⟩ := .name rfl
  have hopening : Token.Is ⟨.symbol .leftParen, l, "("⟩ .leftParen := rfl
  have hclosing : Token.Is ⟨.symbol .rightParen, m, ")"⟩ .rightParen := rfl
  exact .links hname (.method hpoint hword hopening h hclosing .none)

theorem linked_indexOfTokens (offset : Nat) : Linked (indexOfTokens offset) indexOfExpr :=
  linked_method "s" "indexOf" _ _ _ _ _ (.last (.operation ((linked_name "t" _).operation _)))

theorem linked_lengthTokens (offset : Nat) :
    Linked (lengthTokens offset) (.field (.identifier "t") "length" false) := by
  have hname : Primary [⟨.name "t", offset, "t"⟩] (.identifier "t") := .name rfl
  have hpoint : Token.Is ⟨.symbol .dot, offset + 1, "."⟩
      (if false then .questionDot else .dot) := rfl
  have hword : Token.IsWord ⟨.name "length", offset + 2, "length"⟩ := .name rfl
  exact .links hname (.field hpoint hword not_startsWith_nil .none)

/-- One operator between two operands. -/
theorem Operation.binary {tier : Tier} {tiers : List Tier} {ts₁ ts₂ : List Token} {operator : Token}
    {symbol : Symbol} {build : Expr → Expr → Expr} {left right : Expr}
    (hleft : Operation tiers ts₁ left) (hoperator : operator.Is symbol)
    (hbuild : (symbol, build) ∈ tier.operators) (hright : Operation tiers ts₂ right) :
    Operation (tier :: tiers) (ts₁ ++ operator :: ts₂) (build left right) := by
  simpa using Operation.chain hleft (.more hoperator hbuild hright .none)

theorem expression_positionLawTokens : Expression positionLawTokens positionLawExpr := by
  have hplus : Token.Is ⟨.symbol .plus, 35, "+"⟩ .plus := rfl
  have hequal : Token.Is ⟨.symbol .strictEqual, 47, "==="⟩ .strictEqual := rfl
  have hcomma : Token.Is ⟨.symbol .comma, 20, ","⟩ .comma := rfl
  have hsum : Operation [.additive, .multiplicative]
      (indexOfTokens 22 ++ ⟨.symbol .plus, 35, "+"⟩ :: lengthTokens 37)
      (.binary .add indexOfExpr (.field (.identifier "t") "length" false)) :=
    .binary ((linked_indexOfTokens 22).operation _) hplus (by simp [Tier.operators])
      ((linked_lengthTokens 37).operation _)
  have hstop := ((((hsum.loosen .comparison).loosen .equality).loosen .and).loosen .or).loosen
    .nullish
  have harguments := Items.more (.operation ((linked_indexOfTokens 8).operation _)) hcomma
    (.last (.operation hstop))
  have hslice := linked_method "s" "slice" 0 1 2 7 45 harguments
  have hsides : (Symbol.strictEqual, Expr.binary .strictEq) ∈ Tier.equality.operators := by
    simp [Tier.operators]
  have hlaw : Operation [.equality, .comparison, .additive, .multiplicative] _ _ :=
    .binary (hslice.operation _) hequal hsides ((linked_name "t" 51).operation _)
  exact .operation (((hlaw.loosen .and).loosen .or).loosen .nullish)

theorem parse_positionLaw {maxDepth : Nat} (hdepth : 48 < maxDepth) :
    parse positionLaw maxDepth = .ok positionLawExpr :=
  parse_of_tokens tokenize_positionLaw
    ((parseTokens_eq_ok_iff hdepth).mpr expression_positionLawTokens)

end Grammar

/-! ## The value -/

theorem Text.unitLength_add_le_of_cutAt? {part cs before after : List Char}
    (h : cutAt? part cs = some (before, after)) :
    unitLength before + unitLength part ≤ unitLength cs := by
  rw [← cutAt?_eq_some h, unitLength_append, unitLength_append]
  exact Nat.le_add_right _ _

section

variable {s t : String} {before after : List Char}
  (hcut : Text.cutAt? t.toList s.toList = some (before, after))
include hcut

theorem method_indexOf :
    (Value.string s).method? "indexOf" [.string t] =
      some (.ok (.number (.ofNat (Text.unitLength before)))) := by
  have hindex : Value.indexOfText s.toList t.toList = .ofNat (Text.unitLength before) := by
    rw [Value.indexOfText, hcut]
  rw [← hindex]
  rfl

/-- What the expression compares with `t`: the characters from a count of units on. -/
theorem method_slice (hlength : Text.unitLength s.toList < 2 ^ 53) :
    (Value.string s).method? "slice"
        [.number (.ofNat (Text.unitLength before)),
          .number (.ofNat (Text.unitLength before + Text.unitLength t.toList))] =
      some (.ok (.string (.ofList ((s.toList.drop (Text.unitLength before)).take
        (Text.unitLength t.toList))))) := by
  have hle := Text.unitLength_add_le_of_cutAt? hcut
  have hslice := Value.slice_ofNat s.toList (Nat.lt_of_le_of_lt (Nat.le_of_add_right_le hle) hlength)
    (Nat.lt_of_le_of_lt hle hlength)
  rw [List.drop_take, Nat.add_sub_cancel_left] at hslice
  rw [← hslice]
  rfl

theorem Plain.eval_positionLawExpr {env : Environment}
    (hs : env.scope.lookup? "s" = some (.string s)) (ht : env.scope.lookup? "t" = some (.string t))
    (hlength : Text.unitLength s.toList < 2 ^ 53) :
    (Eval.eval env positionLawExpr : Plain Value) =
      Except.ok (.bool (decide ((s.toList.drop (Text.unitLength before)).take
        (Text.unitLength t.toList) = t.toList))) := by
  have hle := Text.unitLength_add_le_of_cutAt? hcut
  have hname := evalLink_identifier hs
  have hpart := evalLink_identifier ht
  have hstart := evalLink_method_string hname (evalAll_cons hpart evalAll_nil) (method_indexOf hcut)
  have hunits := evalLink_field hpart rfl "length" false
  have hstop := evalLink_binary .add hstart hunits
  have hsum : BinaryOp.add.apply (.number (.ofNat (Text.unitLength before)))
      ((Value.string t).property "length") =
        .number (.ofNat (Text.unitLength before + Text.unitLength t.toList)) :=
    congrArg Value.number (Number.ofNat_add_ofNat (Nat.lt_of_le_of_lt hle hlength))
  rw [hsum] at hstop
  have hslice := evalLink_method_string hname (evalAll_cons hstart (evalAll_cons hstop evalAll_nil))
    (method_slice hcut hlength)
  have hlaw := evalLink_binary .strictEq hslice hpart
  have hequal (cs : List Char) : BinaryOp.strictEq.apply (.string (.ofList cs)) (.string t) =
      .bool (decide (cs = t.toList)) := by
    have hsame : (String.ofList cs == t) = decide (cs = t.toList) := by
      rw [beq_eq_decide, decide_eq_decide, ← String.toList_inj, String.toList_ofList]
    rw [← hsame]
    simp [BinaryOp.apply, Value.strictEquals]
  rw [hequal] at hlaw
  exact congrArg (Eval.orUndefined (m := Plain)) hlaw

/-- The expression has its value in any scope that binds the two names. -/
theorem evaluateExpression_positionLaw {ev : Evaluator} (now : Instant) (options : EvalOptions)
    (hs : ev.scope.lookup? "s" = some (.string s)) (ht : ev.scope.lookup? "t" = some (.string t))
    (hsteps : ({} : Config).maxSteps ≤ ev.config.maxSteps)
    (hdepth : ({} : Config).maxDepth ≤ ev.config.maxDepth)
    (hlength : Text.unitLength s.toList < 2 ^ 53) :
    ev.evaluateExpression now options positionLaw =
      .ok (.bool (decide ((s.toList.drop (Text.unitLength before)).take
        (Text.unitLength t.toList) = t.toList))) := by
  have htrimmed : Text.trimmed positionLaw = positionLaw := by decide +kernel
  have hharmless : isDangerous positionLaw = false := by decide +kernel
  have hsafe : ¬ ev.IsDangerous options positionLaw := by
    rintro ⟨-, hdangerous⟩
    rw [htrimmed, hharmless] at hdangerous
    cases hdangerous
  have hparse : parse (Text.trimmed positionLaw) ev.config.maxDepth = .ok positionLawExpr := by
    rw [htrimmed]
    exact Grammar.parse_positionLaw (Nat.lt_of_lt_of_le (by decide) hdepth)
  have hsize : positionLawExpr.nodes = 13 ∧ positionLawExpr.height = 5 := by
    simp [positionLawExpr, indexOfExpr, Expr.nodes, Expr.subtrees, Expr.subtreesOfList, Expr.height,
      Expr.heightOfList]
  refine ev.evaluateExpression_of_parse now hsafe hparse ?_ ?_
    (Plain.eval_positionLawExpr hcut hs ht hlength)
  · exact hsize.1 ▸ Nat.le_trans (by decide) hsteps
  · exact hsize.2 ▸ Nat.le_trans (by decide) hdepth

end

/-- **What is cut out where a text was found.** If `s` includes `t`, then `indexOf` counts the code
units before its first occurrence. The slice takes that number, and the number of units of `t`, for
numbers of characters, and the comparison holds exactly if `t` stands there. Behind characters of the
basic plane it does exactly if `t` is in the basic plane as well, or what comes after it is empty. -/
theorem slice_at_indexOf (ev : Evaluator) (now : Instant) (options : EvalOptions) (s t : String)
    (hs : ev.scope.lookup? "s" = some (.string s)) (ht : ev.scope.lookup? "t" = some (.string t))
    (hincludes : (Value.string s).method? "includes" [.string t] = some (.ok (.bool true)))
    (hsteps : ({} : Config).maxSteps ≤ ev.config.maxSteps)
    (hdepth : ({} : Config).maxDepth ≤ ev.config.maxDepth)
    (hlength : Text.unitLength s.toList < 2 ^ 53) :
    ∃ before after : List Char, before ++ t.toList ++ after = s.toList ∧
      (∀ before' after' : List Char, before' ++ t.toList ++ after' = s.toList →
        before.length ≤ before'.length) ∧
      (Value.string s).method? "indexOf" [.string t] =
        some (.ok (.number (.ofNat (Text.unitLength before)))) ∧
      ev.evaluateExpression now options positionLaw =
        .ok (.bool (decide ((s.toList.drop (Text.unitLength before)).take
          (Text.unitLength t.toList) = t.toList))) ∧
      ((∀ c ∈ before, Text.IsBasic c) →
        (ev.evaluateExpression now options positionLaw = .ok (.bool true) ↔
          (∀ c ∈ t.toList, Text.IsBasic c) ∨ after = [])) := by
  have hfound : Text.contains s.toList t.toList = true :=
    Value.bool.inj (Except.ok.inj (Option.some.inj hincludes))
  obtain ⟨⟨before, after⟩, hcut⟩ := Option.isSome_iff_exists.mp hfound
  have hparts := Text.cutAt?_eq_some hcut
  have hvalue := evaluateExpression_positionLaw hcut now options hs ht hsteps hdepth hlength
  refine ⟨before, after, hparts, fun _ _ => Text.length_le_of_cutAt? hcut, method_indexOf hcut, hvalue,
    fun hbefore => ?_⟩
  rw [hvalue, ← Text.take_drop_unitLength_iff hbefore, hparts]
  simp

/-- An occurrence in the middle of a text. -/
theorem slice_at_indexOf_of_basic_text :
    Evaluator.evaluateExpression
      ⟨Scope.empty.extend [("s", .string "größer"), ("t", .string "öß")], {}⟩ ⟨0, 0⟩ {}
      "s.slice(s.indexOf(t), s.indexOf(t) + t.length) === t" = .ok (.bool true) := by
  obtain ⟨before, after, hparts, -, -, -, hbasic⟩ := slice_at_indexOf
    ⟨Scope.empty.extend [("s", .string "größer"), ("t", .string "öß")], {}⟩ ⟨0, 0⟩ {}
    "größer" "öß" rfl rfl rfl (by decide) (by decide) (by decide)
  have hall : ∀ c ∈ "größer".toList, Text.IsBasic c :=
    Text.unitLength_eq_length_iff.mp (by decide)
  refine (hbasic fun c hc => hall c ?_).mpr (.inl (Text.unitLength_eq_length_iff.mp (by decide)))
  rw [← hparts]
  exact List.mem_append_left _ (List.mem_append_left _ hc)

/-- The occurrence is behind a character of two units, so the slice starts behind the end. -/
theorem not_slice_at_indexOf :
    ¬ ∀ (ev : Evaluator) (now : Instant) (options : EvalOptions) (s t : String),
      ev.scope.lookup? "s" = some (.string s) → ev.scope.lookup? "t" = some (.string t) →
      (Value.string s).method? "includes" [.string t] = some (.ok (.bool true)) →
      ({} : Config).maxSteps ≤ ev.config.maxSteps → ({} : Config).maxDepth ≤ ev.config.maxDepth →
      ev.evaluateExpression now options positionLaw = .ok (.bool true) := by
  intro h
  have htrue := h ⟨Scope.empty.extend [("s", .string "😀a"), ("t", .string "a")], {}⟩ ⟨0, 0⟩ {}
    "😀a" "a" rfl rfl rfl (by decide) (by decide)
  have hcut : Text.cutAt? "a".toList "😀a".toList = some (['😀'], []) := by decide
  have hvalue := @evaluateExpression_positionLaw _ _ _ _ hcut
    ⟨Scope.empty.extend [("s", .string "😀a"), ("t", .string "a")], {}⟩ ⟨0, 0⟩ {} rfl rfl
    (by decide) (by decide) (by decide)
  rw [htrue] at hvalue
  have hsame := Value.bool.inj (Except.ok.inj hvalue)
  revert hsame
  decide

end TemplateExpr
