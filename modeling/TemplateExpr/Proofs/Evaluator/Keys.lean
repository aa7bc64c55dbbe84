import TemplateExpr.Proofs.Eval.Paths
import TemplateExpr.Proofs.Evaluator.Boundary
import TemplateExpr.Proofs.Syntax.ErrorPosition
import TemplateExpr.Proofs.Syntax.Quoted

/-!
# Keys as literals

Every key of an object can be written: as a literal between the brackets of an index it reaches the
value under it, whatever characters it has (`string_literals_reach_keys`).
-/

namespace TemplateExpr

open Grammar

namespace Lexer

theorem scanToken_data (cs : List Char) :
    scanToken 'd' ("ata".toList ++ '[' :: cs) = ⟨.ok (.name "data"), "data".toList, '[' :: cs⟩ := by
  have hword : ∀ c ∈ "ata".toList, continuesWord c := List.all_eq_true.mp (by decide +kernel)
  have hstop : ∀ c ∈ ('[' :: cs).head?, ¬ continuesWord c := by
    rintro _ ⟨⟩
    decide +kernel
  have hquote : ¬ ('d' = '"' ∨ 'd' = '\'') := by decide
  have hnumber : ¬ ('d'.isDigit ∨
      'd' = '.' ∧ scanSymbol.startsWithDigit ("ata".toList ++ '[' :: cs)) := by
    rintro (h | ⟨h, -⟩) <;> revert h <;> decide
  have hstarts : startsWord 'd' := by decide +kernel
  have hname : Keyword.ofText? (.ofList ('d' :: "ata".toList)) = none := by decide
  rw [scanToken_eq, if_neg hquote, if_neg hnumber, scanOther, if_pos hstarts, scanWord,
    takeWhile_append_of_stop hword hstop, dropWhile_append_of_stop hword hstop, hname]
  rfl

end Lexer

/-- The tokens of an index on `data` with a literal for its key. -/
def dataIndexTokens (quote : Char) (s : String) : List Token :=
  [⟨.name "data", 0, "data"⟩, ⟨.symbol .leftBracket, 4, "["⟩, ⟨.string s, 5, quoted quote s⟩,
    ⟨.symbol .rightBracket, 5 + (quoted quote s).length, "]"⟩]

section

variable {quote : Char} (hquote : IsQuote quote) (s : String)
include hquote

theorem lexes_dataIndex :
    Lexer.Lexes 0 ("data[".toList ++ ((quoted quote s).toList ++ [']']))
      ((dataIndexTokens quote s).map .ok) := by
  have hclosing : Lexer.Lexes (5 + (quoted quote s).length) [']']
      [.ok ⟨.symbol .rightBracket, 5 + (quoted quote s).length, "]"⟩] :=
    @Lexer.Lexes.token _ [] [] ']' _ _ isGap_nil (by decide) rfl (.stop isGap_nil)
  have hkey := Lexer.Lexes.quoted hquote s hclosing
  have hopening :=
    @Lexer.Lexes.token 4 [] _ '[' (.symbol .leftBracket) _ isGap_nil (by decide) rfl hkey
  have hscan := Lexer.scanToken_data ((quoted quote s).toList ++ [']'])
  have hname := @Lexer.Lexes.token 0 [] ("ata".toList ++ '[' :: ((quoted quote s).toList ++ [']']))
    'd' (.name "data") _ isGap_nil (by decide) (by rw [hscan]) (by rw [hscan]; exact hopening)
  rw [hscan] at hname
  exact hname

theorem tokenize_dataIndex :
    tokenize ("data[" ++ quoted quote s ++ "]") = .ok (dataIndexTokens quote s) := by
  rw [tokenize_eq_ok_iff]
  simpa using lexes_dataIndex hquote s

omit hquote in
theorem expression_dataIndexTokens :
    Expression (dataIndexTokens quote s) (.index (.identifier "data") (.string s)) := by
  have hkey : Expression [⟨.string s, 5, quoted quote s⟩] (.string s) :=
    .operation ((Primary.string rfl).linked.operation _)
  have hopening : Token.Is ⟨.symbol .leftBracket, 4, "["⟩ .leftBracket := rfl
  have hclosing : Token.Is ⟨.symbol .rightBracket, 5 + (quoted quote s).length, "]"⟩ .rightBracket :=
    rfl
  have hlinks : Links (.identifier "data") _ (.index (.identifier "data") (.string s)) :=
    .index hopening hkey hclosing .none
  have hname : Primary [⟨.name "data", 0, "data"⟩] (.identifier "data") := .name rfl
  exact .operation ((Linked.links hname hlinks).operation _)

theorem parse_dataIndex {maxDepth : Nat} (hdepth : 8 < maxDepth) :
    parse ("data[" ++ quoted quote s ++ "]") maxDepth =
      .ok (.index (.identifier "data") (.string s)) :=
  parse_of_tokens (tokenize_dataIndex hquote s)
    ((parseTokens_eq_ok_iff hdepth).mpr (expression_dataIndexTokens s))

omit hquote in
theorem trimmed_dataIndex :
    Text.trimmed ("data[" ++ quoted quote s ++ "]") = "data[" ++ quoted quote s ++ "]" := by
  have htext : ("data[" ++ quoted quote s ++ "]").toList =
      'd' :: (("ata[".toList ++ (quoted quote s).toList) ++ [']']) := by
    simp
  rw [Text.trimmed, htext, Text.trim_cons_concat (by decide) (by decide), ← htext,
    String.ofList_toList]

end

namespace Plain

/-- A name that is bound to an object, with a text for an index, reads the field of that name. -/
theorem eval_index_string {env : Environment} {x : String} {fields : List (String × Value)}
    (hx : env.scope.lookup? x = some (.object fields)) (s : String) :
    (Eval.eval env (.index (.identifier x) (.string s)) : Plain Value) =
      Except.ok ((Fields.get? fields s).getD .undefined) := by
  have hlink := bind_link_of_ok (evalLink_identifier hx) fun v =>
    Eval.withReceiver false s v (pure (v.property s))
  exact congrArg (Eval.orUndefined (m := Plain)) hlink

end Plain

/-- **Every key of an object is reached by a literal.** A text between quotes of either kind, with a
backslash before each backslash and each quote of that kind, is one token, whose string is the text.
Behind a name that is bound to an object it is an index that reads the value under that key, or
undefined if there is none, within limits that are not lower than the default ones. -/
theorem string_literals_reach_keys {quote : Char} (hquote : IsQuote quote) (s : String) :
    lex (quoted quote s) = [.ok ⟨.string s, 0, quoted quote s⟩] ∧
    ∀ (ev : Evaluator) (now : Instant) (options : EvalOptions) (fields : List (String × Value)),
      ev.scope.lookup? "data" = some (.object fields) → ¬ ev.sanitizes options →
      ({} : Config).maxSteps ≤ ev.config.maxSteps → ({} : Config).maxDepth ≤ ev.config.maxDepth →
      ev.evaluateExpression now options ("data[" ++ quoted quote s ++ "]") =
        .ok ((Fields.get? fields s).getD .undefined) := by
  refine ⟨lex_quoted hquote s, fun ev now options fields hdata hsanitizes hsteps hdepth => ?_⟩
  have hsafe : ¬ ev.IsDangerous options ("data[" ++ quoted quote s ++ "]") :=
    fun h => hsanitizes h.1
  have hparse := parse_dataIndex hquote s (Nat.lt_of_lt_of_le (by decide) hdepth)
  have hsize : (Expr.index (.identifier "data") (.string s)).nodes = 3 ∧
      (Expr.index (.identifier "data") (.string s)).height = 2 := by
    simp [Expr.nodes, Expr.subtrees, Expr.height]
  refine ev.evaluateExpression_of_parse now hsafe ((trimmed_dataIndex s).symm ▸ hparse) ?_ ?_
    (Plain.eval_index_string hdata s)
  · exact hsize.1 ▸ Nat.le_trans (by decide) hsteps
  · exact hsize.2 ▸ Nat.le_trans (by decide) hdepth

/-- A key with a quote, a backslash before an `n`, and a line break. -/
theorem string_literals_reach_keys_of_escapes :
    quoted '"' "a\"\\n\n" = "\"a\\\"\\\\n\n\"" ∧
      lex "\"a\\\"\\\\n\n\"" = [.ok ⟨.string "a\"\\n\n", 0, "\"a\\\"\\\\n\n\""⟩] ∧
      Evaluator.evaluateExpression
        ⟨Scope.empty.extend [("data", .object [("a\"\\n\n", .bool true)])], { sanitize := false }⟩
        ⟨0, 0⟩ {} "data[\"a\\\"\\\\n\n\"]" = .ok (.bool true) := by
  obtain ⟨hlex, hread⟩ := string_literals_reach_keys (.inl rfl : IsQuote '"') "a\"\\n\n"
  have hquoted : quoted '"' "a\"\\n\n" = "\"a\\\"\\\\n\n\"" := by decide
  have hvalue := hread
    ⟨Scope.empty.extend [("data", .object [("a\"\\n\n", .bool true)])], { sanitize := false }⟩
    ⟨0, 0⟩ {} [("a\"\\n\n", .bool true)] rfl (by decide) (by decide) (by decide)
  rw [hquoted] at hlex hvalue
  exact ⟨hquoted, hlex, hvalue⟩

end TemplateExpr
