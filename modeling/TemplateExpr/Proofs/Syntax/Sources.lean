import Mathlib.Data.List.Infix
import TemplateExpr.Proofs.Syntax.Edges
import TemplateExpr.Proofs.Syntax.Extent
import TemplateExpr.Proofs.Syntax.Tree

/-!
# Where the names of a tree come from

A name in a tree is the lexeme of a token that the tree was read from, and behind the name of a
method the next token is the opening parenthesis (`Grammar.Sourced`). With the tokens of a text this
places every name in the text itself: the name of a method is followed there by a gap and a
parenthesis (`Tiles.pair_within`).
-/

namespace TemplateExpr

namespace Grammar

/-! ## Names and tokens -/

/-- The name of a node, if it has one, is the lexeme of one of the tokens. -/
def Sourced (ts : List Token) : Expr → Prop
  | .identifier name => ∃ t ∈ ts, t.kind = .name name
  | .field _ name _ => ∃ t ∈ ts, t.IsWord ∧ t.lexeme = name
  | .methodCall _ name _ _ =>
    ∃ t opening, [t, opening] <:+: ts ∧ t.IsWord ∧ t.lexeme = name ∧ opening.Is .leftParen
  | _ => True

theorem Sourced.mono {ts ts' : List Token} {node : Expr} (h : Sourced ts node)
    (hts : ts <:+: ts') : Sourced ts' node := by
  cases node with
  | identifier name =>
    obtain ⟨t, ht, hname⟩ := h
    exact ⟨t, hts.subset ht, hname⟩
  | field receiver name optional =>
    obtain ⟨t, ht, hname⟩ := h
    exact ⟨t, hts.subset ht, hname⟩
  | methodCall receiver name arguments optional =>
    obtain ⟨t, opening, hpair, hname⟩ := h
    exact ⟨t, opening, hpair.trans hts, hname⟩
  | _ => trivial

/-- All of the nodes are sourced. -/
def AllSourced (ts : List Token) (nodes : List Expr) : Prop := ∀ node ∈ nodes, Sourced ts node

namespace AllSourced

variable {ts ts' : List Token} {node : Expr} {nodes nodes' : List Expr}

theorem nil : AllSourced ts [] := fun _ hnode => absurd hnode List.not_mem_nil

theorem cons (h : Sourced ts node) (hnodes : AllSourced ts nodes) :
    AllSourced ts (node :: nodes) := List.forall_mem_cons.mpr ⟨h, hnodes⟩

/-- There may be other tokens in front. -/
theorem behind (h : AllSourced ts nodes) (before : List Token) : AllSourced (before ++ ts) nodes :=
  fun node hnode => (h node hnode).mono (List.suffix_append before ts).isInfix

/-- There may be other tokens behind. -/
theorem before (h : AllSourced ts nodes) (behind : List Token) : AllSourced (ts ++ behind) nodes :=
  fun node hnode => (h node hnode).mono (List.prefix_append ts behind).isInfix

theorem skip (h : AllSourced ts nodes) (t : Token) : AllSourced (t :: ts) nodes := h.behind [t]

theorem join (h : AllSourced ts nodes) (h' : AllSourced ts' nodes') :
    AllSourced (ts ++ ts') (nodes ++ nodes') :=
  List.forall_mem_append.mpr ⟨h.before ts', h'.behind ts⟩

theorem operator {tier : Tier} {symbol : Symbol} {build : Expr → Expr → Expr} {left right : Expr}
    (h : (symbol, build) ∈ tier.operators) (hleft : AllSourced ts left.subtrees)
    (hright : AllSourced ts' right.subtrees) :
    AllSourced (ts ++ ts') (build left right).subtrees := by
  have hboth := hleft.join hright
  have hbuild : (∃ op, build = .binary op) ∨ ∃ op, build = .logical op := by
    cases tier <;> simp [Tier.operators] at h <;> grind
  rcases hbuild with ⟨op, rfl⟩ | ⟨op, rfl⟩ <;> exact .cons trivial hboth

theorem constant {word : Keyword} {e : Expr} (h : (word, e) ∈ constants) :
    AllSourced ts e.subtrees := by
  simp only [constants, List.mem_cons, Prod.mk.injEq, List.not_mem_nil, or_false] at h
  rcases h with ⟨-, rfl⟩ | ⟨-, rfl⟩ | ⟨-, rfl⟩ | ⟨-, rfl⟩ <;> exact .cons trivial .nil

end AllSourced

-- The recursion is on the derivation. Behind an operand or a receiver, the tokens that it was read
-- from come before those of the derivation.
mutual

/-- **The names of an expression come from its tokens.** -/
theorem Expression.allSourced {ts : List Token} {e : Expr} :
    Expression ts e → AllSourced ts e.subtrees
  | .operation h => Operation.allSourced h
  | @Expression.conditional _ _ _ question colon _ _ _ condition _ consequent _ alternate => by
    have hbranches :=
      (Expression.allSourced consequent).join ((Expression.allSourced alternate).skip colon)
    rw [Expr.subtrees, List.append_assoc]
    exact .cons trivial ((Operation.allSourced condition).join (hbranches.skip question))

theorem Operation.allSourced {tiers : List Tier} {ts : List Token} {e : Expr} :
    Operation tiers ts e → AllSourced ts e.subtrees
  | .power h => Power.allSourced h
  | .chain first more => Operators.allSourced more (Operation.allSourced first)

theorem Operators.allSourced {tier : Tier} {tiers : List Tier} {left : Expr} {ts before : List Token}
    {e : Expr} :
    Operators tier tiers left ts e → AllSourced before left.subtrees →
      AllSourced (before ++ ts) e.subtrees
  | .none, hleft => by simpa using hleft
  | @Operators.more _ _ _ _ operator _ _ _ _ _ _ hbuild operand more, hleft => by
    have hoperation := AllSourced.operator hbuild hleft ((Operation.allSourced operand).skip operator)
    simpa using Operators.allSourced more hoperation

theorem Power.allSourced {ts : List Token} {e : Expr} : Power ts e → AllSourced ts e.subtrees
  | .unary h => Unary.allSourced h
  | .power hbase _ hexponent =>
    .cons trivial ((Unary.allSourced hbase).join ((Power.allSourced hexponent).skip _))

theorem Unary.allSourced {ts : List Token} {e : Expr} : Unary ts e → AllSourced ts e.subtrees
  | .operand h => Linked.allSourced h
  | .sign _ h => .cons trivial ((Unary.allSourced h).skip _)

theorem Linked.allSourced {ts : List Token} {e : Expr} : Linked ts e → AllSourced ts e.subtrees
  | .links hreceiver more => Links.allSourced more (Primary.allSourced hreceiver)

theorem Links.allSourced {receiver : Expr} {ts before : List Token} {e : Expr} :
    Links receiver ts e → AllSourced before receiver.subtrees →
      AllSourced (before ++ ts) e.subtrees
  | .none, hreceiver => by simpa using hreceiver
  | @Links.call _ _ opening closing _ _ _ _ harguments _ more, hreceiver => by
    have hnodes := hreceiver.join (((Items.allSourced harguments).before [closing]).skip opening)
    simpa using Links.allSourced more (.cons trivial hnodes)
  | @Links.index _ _ opening closing _ _ _ _ hkey _ more, hreceiver => by
    have hnodes := hreceiver.join (((Expression.allSourced hkey).before [closing]).skip opening)
    simpa using Links.allSourced more (.cons trivial hnodes)
  | @Links.field _ point word _ _ _ _ hword _ more, hreceiver => by
    have hname : word ∈ before ++ [point, word] := by simp
    have hnodes := hreceiver.before [point, word]
    simpa using Links.allSourced more (.cons ⟨word, hname, hword, rfl⟩ hnodes)
  | @Links.method ts₁ _ point word opening closing _ _ _ _ _ hword hopening harguments _ more,
      hreceiver => by
    have hpair : [word, opening] <:+: before ++ point :: word :: opening :: (ts₁ ++ [closing]) :=
      ⟨before ++ [point], ts₁ ++ [closing], by simp⟩
    have harguments := (Items.allSourced harguments).before [closing]
    have hnodes := hreceiver.join (((harguments.skip opening).skip word).skip point)
    simpa using Links.allSourced more (.cons ⟨word, opening, hpair, hword, rfl, hopening⟩ hnodes)

theorem Primary.allSourced {ts : List Token} {e : Expr} : Primary ts e → AllSourced ts e.subtrees
  | .number _ | .string _ => .cons trivial .nil
  | .name h => .cons ⟨_, List.mem_singleton_self _, h⟩ .nil
  | .constant _ hconstant => .constant hconstant
  | .parentheses _ h _ => ((Expression.allSourced h).before _).skip _
  | .array _ helements _ => .cons trivial (((Items.allSourced helements).before _).skip _)
  | .object _ hentries _ => .cons trivial (((Entries.allSourced hentries).before _).skip _)

theorem Items.allSourced {ts : List Token} {es : List Expr} :
    Items ts es → AllSourced ts (Expr.subtreesOfList es)
  | .none => .nil
  | .last h => by simpa [Expr.subtreesOfList] using Expression.allSourced h
  | .more h _ more => (Expression.allSourced h).join ((Items.allSourced more).skip _)

theorem Entry.allSourced {ts : List Token} {name : String} {e : Expr} :
    Entry ts name e → AllSourced ts e.subtrees
  | .pair _ _ h => ((Expression.allSourced h).skip _).skip _
  | .short h => .cons ⟨_, List.mem_singleton_self _, h⟩ .nil

theorem Entries.allSourced {ts : List Token} {entries : List (String × Expr)} :
    Entries ts entries → AllSourced ts (Expr.subtreesOfEntries entries)
  | .none => .nil
  | .last h => by simpa [Expr.subtreesOfEntries] using Entry.allSourced h
  | .more h _ more => (Entry.allSourced h).join ((Entries.allSourced more).skip _)

end

end Grammar

/-! ## Lexemes -/

/-- The characters of a token are those that its kind asks for, if it asks for any. -/
def TokenKind.Spelled (lexeme : String) : TokenKind → Prop
  | .name word => lexeme = word
  | .keyword word => lexeme = word.text
  | .symbol s => lexeme = s.text
  | .number _ | .string _ => True

namespace Lexer

/-- What a scanner took is spelled as what it made of it. -/
def Spells (scan : Scan TokenKind) : Prop :=
  ∀ kind, scan.outcome = .ok kind → kind.Spelled (.ofList scan.read)

variable {c : Char} {cs : List Char}

theorem spells_scanDecimal : Spells (scanNumber.scanDecimal c cs) := by
  intro kind h
  simp only [scanNumber.scanDecimal] at h
  split at h
  · cases h
    trivial
  · cases h

theorem spells_scanNumber : Spells (scanNumber c cs) := by
  fun_cases scanNumber c cs with
  | case1 x rest _ digits outcome =>
    intro kind h
    simp only [outcome] at h
    split at h
    · cases h
      trivial
    · cases h
  | case2 => exact spells_scanDecimal
  | case3 => exact spells_scanDecimal

theorem text_eq_of_ofText?_eq_some {word : String} {keyword : Keyword}
    (h : Keyword.ofText? word = some keyword) : keyword.text = word := by
  unfold Keyword.ofText? at h
  simpa using List.find?_some h

theorem spells_scanWord : Spells (scanWord c cs) := by
  intro kind h
  simp only [scanWord] at h ⊢
  split at h
  · rename_i keyword hkeyword
    cases h
    exact (text_eq_of_ofText?_eq_some hkeyword).symm
  · cases h
    rfl

theorem spells_scanSymbol : Spells (scanSymbol c cs) := by
  unfold Spells
  fun_cases scanSymbol c cs <;> intro kind h <;> cases h <;> rfl

theorem spells_scanToken : Spells (scanToken c cs) := by
  fun_cases scanToken c cs with
  | case1 _ scan =>
    intro kind h
    simp only at h
    cases hvalue : scan.outcome with
    | error cause =>
      rw [hvalue] at h
      cases h
    | ok value =>
      rw [hvalue] at h
      cases h
      trivial
  | case2 => exact spells_scanNumber
  | case3 => exact spells_scanWord
  | case4 => exact spells_scanSymbol

/-- The tokens of a text are spelled as their kinds ask. -/
theorem Lexes.spelled {position : Nat} {cs : List Char} {ts : List Token}
    (h : Lexes position cs (ts.map .ok)) : ∀ t ∈ ts, t.kind.Spelled t.lexeme := by
  induction ts generalizing position cs with
  | nil => exact fun t ht => absurd ht List.not_mem_nil
  | cons t ts ih =>
    cases h with
    | token _ _ hscan more =>
      exact List.forall_mem_cons.mpr ⟨spells_scanToken _ hscan, ih more⟩

end Lexer

/-! ## Texts -/

namespace Tiles

variable {position : Nat} {cs : List Char} {ts : List Token}

theorem lexeme_within (h : Tiles position cs ts) {t : Token} (ht : t ∈ ts) :
    t.lexeme.toList <:+: cs :=
  (h.lexeme_at_position t ht).2.isInfix.trans (List.drop_suffix _ _).isInfix

/-- Two tokens in a row have a gap between their lexemes. -/
theorem pair_within (h : Tiles position cs ts) {t u : Token} (hpair : [t, u] <:+: ts) :
    ∃ gap, IsGap gap ∧ t.lexeme.toList ++ (gap ++ u.lexeme.toList) <:+: cs := by
  induction h with
  | gap hgap => simp at hpair
  | @token _ before cs t' ts _ _ more ih =>
    rcases List.infix_cons_iff.mp hpair with hfront | hwithin
    · obtain ⟨rest, hrest⟩ := hfront
      obtain ⟨rfl, rfl⟩ := List.cons.inj hrest
      cases more with
      | @token _ gap cs _ _ hgap _ _ => exact ⟨gap, hgap, before, cs, by simp⟩
    · obtain ⟨gap, hgap, hwritten⟩ := ih hwithin
      refine ⟨gap, hgap, hwritten.trans ?_⟩
      rw [← List.append_assoc]
      exact (List.suffix_append _ _).isInfix

end Tiles

end TemplateExpr
