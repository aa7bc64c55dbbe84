import TemplateExpr.Proofs.Text.Runs
import TemplateExpr.Syntax.Lexer

/-!
# The tokens of a text tile it

What stands between the tokens of a text is blank, so the text is their lexemes with gaps between
them, each lexeme at the position of its token (`Tiling`). A text with a malformed token is tiled in
the same way up to that token (`tokens_tile_text`).

* `Lexer.Lexes` — the scan as a relation, without a bound on the number of tokens.
* `tokenize_eq_ok_iff` — the tokens of a text are those of this relation.
* `Tiles` — gaps and lexemes in turn, from which the facts about single characters are read off.
-/

namespace TemplateExpr

/-! ## Gaps and lexemes -/

/-- Characters that may stand between two tokens. -/
def IsGap (cs : List Char) : Prop := ∀ c ∈ cs, Text.isBlank c

instance (cs : List Char) : Decidable (IsGap cs) :=
  List.decidableBAll _ cs

theorem isGap_nil : IsGap [] := fun _ hc => absurd hc List.not_mem_nil

theorem isGap_takeWhile (cs : List Char) : IsGap (cs.takeWhile Text.isBlank) :=
  fun _ hc => List.mem_takeWhile_imp hc

/-- The text that starts with the characters `lead`, and in which each lexeme has the characters
given with its token behind it. -/
def spread (lead : List Char) (pieces : List (Token × List Char)) : List Char :=
  lead ++ pieces.flatMap fun piece => piece.1.lexeme.toList ++ piece.2

/-- The characters of a text from the given position on are gaps and lexemes in turn, and the tokens
are where their lexemes are. -/
inductive Tiles : Nat → List Char → List Token → Prop where
  | gap {position : Nat} {gap : List Char} (hgap : IsGap gap) : Tiles position gap []
  | token {position : Nat} {gap cs : List Char} {t : Token} {ts : List Token} (hgap : IsGap gap)
      (hstart : t.position = position + gap.length) (more : Tiles t.stop cs ts) :
      Tiles position (gap ++ (t.lexeme.toList ++ cs)) (t :: ts)

/-- The tokens tile a text. -/
structure Tiling (cs : List Char) (ts : List Token) : Prop where
  /-- The text is the lexemes with gaps before, between and behind them. -/
  spread : ∃ lead pieces, IsGap lead ∧ (∀ piece ∈ pieces, IsGap piece.2) ∧
    pieces.map Prod.fst = ts ∧ cs = spread lead pieces
  /-- A lexeme starts where its token does. -/
  lexeme : ∀ t ∈ ts, t.lexeme.toList <+: cs.drop t.position
  /-- Tokens come in the order of the text and do not overlap. -/
  order : ts.Pairwise fun t u => t.stop ≤ u.position
  /-- A character that belongs to no lexeme is blank. -/
  outside : ∀ i (hi : i < cs.length), (∀ t ∈ ts, i < t.position ∨ t.stop ≤ i) → Text.isBlank cs[i]

namespace Tiles

variable {position : Nat} {cs : List Char} {ts : List Token}

theorem exists_spread (h : Tiles position cs ts) :
    ∃ lead pieces, IsGap lead ∧ (∀ piece ∈ pieces, IsGap piece.2) ∧ pieces.map Prod.fst = ts ∧
      cs = spread lead pieces := by
  induction h with
  | @gap _ gap hgap => exact ⟨gap, [], hgap, by simp, rfl, by simp [TemplateExpr.spread]⟩
  | @token _ gap _ t _ hgap _ _ ih =>
    obtain ⟨lead, pieces, hlead, hpieces, rfl, rfl⟩ := ih
    refine ⟨gap, (t, lead) :: pieces, hgap, ?_, rfl, by simp [TemplateExpr.spread]⟩
    exact List.forall_mem_cons.mpr ⟨hlead, hpieces⟩

/-- A token is at the position where its lexeme starts, counted from the start of the tiles. -/
theorem lexeme_at_position (h : Tiles position cs ts) :
    ∀ t ∈ ts, position ≤ t.position ∧ t.lexeme.toList <+: cs.drop (t.position - position) := by
  induction h with
  | gap _ => exact fun t ht => absurd ht List.not_mem_nil
  | @token position gap cs t ts _ hstart _ ih =>
    refine List.forall_mem_cons.mpr ⟨⟨by omega, ?_⟩, fun u hu => ?_⟩
    · rw [show t.position - position = gap.length by omega, List.drop_left]
      exact List.prefix_append _ _
    · obtain ⟨hle, hfront⟩ := ih u hu
      have hstop : t.stop = position + gap.length + t.lexeme.toList.length := by
        rw [Token.stop, hstart, String.length_toList]
      have hskip : u.position - position =
          (gap ++ t.lexeme.toList).length + (u.position - t.stop) := by
        rw [List.length_append]
        omega
      refine ⟨by omega, ?_⟩
      rw [← List.append_assoc, hskip, ← List.drop_drop, List.drop_left]
      exact hfront

theorem pairwise_stop_le (h : Tiles position cs ts) :
    ts.Pairwise fun t u => t.stop ≤ u.position := by
  induction h with
  | gap _ => exact List.Pairwise.nil
  | token _ _ more ih => exact ih.cons fun u hu => (more.lexeme_at_position u hu).1

theorem isBlank_of_outside (h : Tiles position cs ts) :
    ∀ i (hi : i < cs.length), (∀ t ∈ ts, position + i < t.position ∨ t.stop ≤ position + i) →
      Text.isBlank cs[i] := by
  induction h with
  | gap hgap => exact fun i hi _ => hgap _ (List.getElem_mem hi)
  | @token position gap cs t ts hgap hstart _ ih =>
    intro i hi houtside
    obtain ⟨ht, hts⟩ := List.forall_mem_cons.mp houtside
    have hstop : t.stop = position + gap.length + t.lexeme.toList.length := by
      rw [Token.stop, hstart, String.length_toList]
    simp only [List.length_append] at hi
    rcases Nat.lt_or_ge i gap.length with hlt | hge
    · rw [List.getElem_append_left hlt]
      exact hgap _ (List.getElem_mem hlt)
    · have hbehind : t.lexeme.toList.length ≤ i - gap.length := by omega
      rw [List.getElem_append_right hge, List.getElem_append_right hbehind]
      refine ih _ (by omega) fun u hu => ?_
      have hu := hts u hu
      omega

/-- Tiles from the start of a text are a tiling of it. -/
theorem tiling (h : Tiles 0 cs ts) : Tiling cs ts where
  spread := h.exists_spread
  lexeme := fun t ht => (h.lexeme_at_position t ht).2
  order := h.pairwise_stop_le
  outside := fun i hi houtside => h.isBlank_of_outside i hi (by simpa using houtside)

end Tiles

/-! ## The scan as a relation -/

namespace Lexer

/-- What the scanners find in the text that starts at the given position. -/
inductive Lexes : Nat → List Char → List (Except ExprError Token) → Prop where
  | stop {position : Nat} {gap : List Char} (hgap : IsGap gap) : Lexes position gap []
  | token {position : Nat} {gap cs : List Char} {c : Char} {kind : TokenKind}
      {found : List (Except ExprError Token)} (hgap : IsGap gap) (hc : ¬ Text.isBlank c)
      (hscan : (scanToken c cs).outcome = .ok kind)
      (more : Lexes (position + gap.length + (scanToken c cs).read.length) (scanToken c cs).rest
        found) :
      Lexes position (gap ++ c :: cs)
        (.ok ⟨kind, position + gap.length, .ofList (scanToken c cs).read⟩ :: found)
  | malformed {position : Nat} {gap cs : List Char} {c : Char} {cause : LexicalCause}
      {found : List (Except ExprError Token)} (hgap : IsGap gap) (hc : ¬ Text.isBlank c)
      (hscan : (scanToken c cs).outcome = .error cause)
      (more : Lexes (position + gap.length + (scanToken c cs).read.length) (scanToken c cs).rest
        found) :
      Lexes position (gap ++ c :: cs) (.error (.lexical (position + gap.length) cause) :: found)

/-- A text has no more tokens than characters, so its length is bound enough. -/
theorem lexes_lexFrom {n position : Nat} {cs : List Char} (h : cs.length ≤ n) :
    Lexes position cs (lexFrom n position cs) := by
  induction n generalizing position cs with
  | zero =>
    have hnil : cs = [] := List.eq_nil_of_length_eq_zero (Nat.le_zero.mp h)
    subst hnil
    exact .stop isGap_nil
  | succ n ih =>
    have hgap := isGap_takeWhile cs
    have hcs := List.takeWhile_append_dropWhile (p := Text.isBlank) (l := cs)
    unfold lexFrom
    cases hrest : cs.dropWhile Text.isBlank with
    | nil =>
      rw [hrest, List.append_nil] at hcs
      rw [hcs] at hgap
      exact .stop hgap
    | cons c rest =>
      have hc : ¬ Text.isBlank c := by
        have hne : cs.dropWhile Text.isBlank ≠ [] := by simp [hrest]
        simpa [hrest] using List.head_dropWhile_not Text.isBlank hne
      have hlength : (scanToken c rest).rest.length ≤ n := by
        have hscan := length_rest_scanToken_lt c rest
        have hcount := congrArg List.length hcs
        simp only [hrest, List.length_append, List.length_cons] at hcount hscan
        omega
      rw [hrest] at hcs
      simp only
      cases hscan : (scanToken c rest).outcome with
      | ok kind => simpa only [hcs] using @Lexes.token position _ _ _ _ _ hgap hc hscan (ih hlength)
      | error cause =>
        simpa only [hcs] using @Lexes.malformed position _ _ _ _ _ hgap hc hscan (ih hlength)

theorem lexFrom_append_cons {gap : List Char} {c : Char} (hgap : IsGap gap)
    (hc : ¬ Text.isBlank c) (n position : Nat) (cs : List Char) :
    lexFrom (n + 1) position (gap ++ c :: cs) =
      (match (scanToken c cs).outcome with
        | .ok kind => .ok ⟨kind, position + gap.length, .ofList (scanToken c cs).read⟩
        | .error cause => .error (.lexical (position + gap.length) cause)) ::
      lexFrom n (position + gap.length + (scanToken c cs).read.length) (scanToken c cs).rest := by
  have hfront : ∀ c' ∈ (c :: cs).head?, ¬ Text.isBlank c' := by simpa using hc
  have hrest := dropWhile_append_of_stop hgap hfront
  have hblanks := takeWhile_append_of_stop hgap hfront
  cases hscan : (scanToken c cs).outcome <;> simp only [lexFrom, hrest, hblanks, hscan]

theorem Lexes.eq_lexFrom {n position : Nat} {cs : List Char}
    {found : List (Except ExprError Token)} (h : Lexes position cs found) (hn : cs.length ≤ n) :
    lexFrom n position cs = found := by
  induction h generalizing n with
  | @stop position gap hgap =>
    cases n with
    | zero => rfl
    | succ n => rw [lexFrom, List.dropWhile_eq_nil_iff.mpr hgap]
  | @token position gap cs c kind found hgap hc hscan _ ih
  | @malformed position gap cs c cause found hgap hc hscan _ ih =>
    have hlt := length_rest_scanToken_lt c cs
    simp only [List.length_append, List.length_cons] at hn hlt
    obtain ⟨n, rfl⟩ := Nat.exists_eq_add_of_le' (show 1 ≤ n by omega)
    rw [lexFrom_append_cons hgap hc, ih (by omega)]
    simp only [hscan]

end Lexer

theorem Tiles.append_gap {position : Nat} {cs gap : List Char} {ts : List Token}
    (h : Tiles position cs ts) (hgap : IsGap gap) : Tiles position (cs ++ gap) ts := by
  induction h with
  | gap hlast => exact .gap (List.forall_mem_append.mpr ⟨hlast, hgap⟩)
  | token hbefore hstart _ ih => simpa using Tiles.token hbefore hstart ih

namespace Lexer

theorem read_append_rest (c : Char) (cs : List Char) :
    (scanToken c cs).read ++ (scanToken c cs).rest = c :: cs := splits_scanToken c cs

/-- **The tokens that are found first tile the text in front of the others.** -/
theorem Lexes.exists_tiles {position : Nat} {cs : List Char} {ts : List Token}
    {others : List (Except ExprError Token)} (h : Lexes position cs (ts.map .ok ++ others)) :
    ∃ done left, cs = done ++ left ∧ Tiles position done ts ∧
      Lexes (position + done.length) left others := by
  induction ts generalizing position cs with
  | nil => exact ⟨[], cs, rfl, .gap isGap_nil, by simpa using h⟩
  | cons t ts ih =>
    cases h with
    | @token _ gap cs c kind _ hgap _ _ more =>
      obtain ⟨done, left, hrest, htiles, hleft⟩ := ih more
      refine ⟨gap ++ ((scanToken c cs).read ++ done), left, ?_, ?_, ?_⟩
      · rw [List.append_assoc, List.append_assoc, ← hrest, read_append_rest]
      · have htoken := @Tiles.token position gap done
          ⟨kind, position + gap.length, .ofList (scanToken c cs).read⟩ ts hgap rfl
        simp only [Token.stop, String.length_ofList, String.toList_ofList] at htoken
        exact htoken htiles
      · simpa only [List.length_append, Nat.add_assoc] using hleft

/-- If there are no others, the tokens tile the whole text. -/
theorem Lexes.tiles {position : Nat} {cs : List Char} {ts : List Token}
    (h : Lexes position cs (ts.map .ok)) : Tiles position cs ts := by
  rw [← List.append_nil (ts.map _)] at h
  obtain ⟨done, left, rfl, htiles, hleft⟩ := h.exists_tiles
  cases hleft with
  | stop hgap => exact htiles.append_gap hgap

/-- If an error comes next, they tile the text up to its position. -/
theorem Lexes.tiles_before_error {cs : List Char} {ts : List Token} {error : ExprError}
    {others : List (Except ExprError Token)}
    (h : Lexes 0 cs (ts.map .ok ++ .error error :: others)) :
    ∃ position cause, error = .lexical position cause ∧ position < cs.length ∧
      Tiles 0 (cs.take position) ts := by
  obtain ⟨done, left, rfl, htiles, hleft⟩ := h.exists_tiles
  cases hleft with
  | @malformed _ gap rest c cause _ hgap _ _ _ =>
    refine ⟨_, cause, rfl, ?_, ?_⟩
    · simp only [List.length_append, List.length_cons]
      omega
    · rw [Nat.zero_add, ← List.length_append, ← List.append_assoc, List.take_left]
      exact htiles.append_gap hgap

end Lexer

/-! ## Texts -/

theorem lexes_lex (text : String) : Lexer.Lexes 0 text.toList (lex text) :=
  Lexer.lexes_lexFrom (Nat.le_refl _)

theorem mapM_id_map_ok (ts : List Token) :
    (ts.map .ok : List (Except ExprError Token)).mapM id = .ok ts := by
  induction ts with
  | nil => rfl
  | cons t ts ih =>
    rw [List.map_cons, List.mapM_cons, ih]
    rfl

/-- Outcomes are all of them tokens, or there is a first error, which is what collecting them ends
with. -/
theorem eq_map_ok_or_mapM_id_eq_error (found : List (Except ExprError Token)) :
    (∃ ts : List Token, found = ts.map .ok) ∨
      ∃ (ts : List Token) (error : ExprError) (others : List (Except ExprError Token)),
        found = ts.map .ok ++ .error error :: others ∧ found.mapM id = .error error := by
  induction found with
  | nil => exact .inl ⟨[], rfl⟩
  | cons outcome found ih =>
    cases outcome with
    | error error => exact .inr ⟨[], error, found, rfl, rfl⟩
    | ok t =>
      rcases ih with ⟨ts, rfl⟩ | ⟨ts, error, others, hfound, herror⟩
      · exact .inl ⟨t :: ts, rfl⟩
      · refine .inr ⟨t :: ts, error, others, by rw [hfound]; rfl, ?_⟩
        rw [List.mapM_cons, herror]
        rfl

theorem lex_of_tokenize_eq_ok {text : String} {ts : List Token} (h : tokenize text = .ok ts) :
    lex text = ts.map .ok := by
  rcases eq_map_ok_or_mapM_id_eq_error (lex text) with ⟨ts', hlex⟩ | ⟨_, error, _, _, herror⟩
  · rw [tokenize, hlex, mapM_id_map_ok] at h
    cases h
    exact hlex
  · rw [tokenize, herror] at h
    cases h

theorem lex_of_tokenize_eq_error {text : String} {error : ExprError}
    (h : tokenize text = .error error) :
    ∃ (ts : List Token) (others : List (Except ExprError Token)),
      lex text = ts.map .ok ++ .error error :: others := by
  rcases eq_map_ok_or_mapM_id_eq_error (lex text) with ⟨ts, hlex⟩ | ⟨ts, _, others, hlex, herror⟩
  · rw [tokenize, hlex, mapM_id_map_ok] at h
    cases h
  · rw [tokenize, herror] at h
    cases h
    exact ⟨ts, others, hlex⟩

theorem tokenize_eq_ok_iff {text : String} {ts : List Token} :
    tokenize text = .ok ts ↔ Lexer.Lexes 0 text.toList (ts.map .ok) := by
  constructor
  · intro h
    exact lex_of_tokenize_eq_ok h ▸ lexes_lex text
  · intro h
    have hlex : lex text = ts.map .ok := h.eq_lexFrom (Nat.le_refl _)
    rw [tokenize, hlex, mapM_id_map_ok]

/-- **The tokens of a text tile it.** If the text has a malformed token, the tokens before it tile
the text up to the position of the error. -/
theorem tokens_tile_text (text : String) :
    match tokenize text with
    | .ok ts => Tiling text.toList ts
    | .error error => ∃ position cause ts others, error = .lexical position cause ∧
        lex text = ts.map .ok ++ .error error :: others ∧ position < text.length ∧
        Tiling (text.toList.take position) ts := by
  cases htokens : tokenize text with
  | ok ts => exact (tokenize_eq_ok_iff.mp htokens).tiles.tiling
  | error error =>
    obtain ⟨ts, others, hlex⟩ := lex_of_tokenize_eq_error htokens
    have hlexes := lexes_lex text
    rw [hlex] at hlexes
    obtain ⟨position, cause, herror, hposition, htiles⟩ := hlexes.tiles_before_error
    refine ⟨position, cause, ts, others, herror, hlex, ?_, htiles.tiling⟩
    rwa [String.length_toList] at hposition

end TemplateExpr
