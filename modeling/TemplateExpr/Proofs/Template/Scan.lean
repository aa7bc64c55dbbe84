import TemplateExpr.Proofs.Template.Tokens

/-!
# What a scan finds

The pieces of a text satisfy the laws of `Split`: they are the text when put together, none is
empty, a token is closed at the first closing brace, and literals are as long as possible. Where a
literal holds the start of a token, there is no token to be found.

* `Cuts` — the scan as a relation, without a bound on the number of tokens.
* `Cuts.literal_stop` — a literal ends where the first token of the text behind it starts.
* `split_segments` — the laws, from these two.
* `single?_eq_some_iff_segments` — the shortcut for a text that is one token agrees with the scan.
-/

namespace TemplateExpr

namespace Template

/-! ## The scan as a relation -/

/-- A text cut at its first token, and the text behind that token cut again. -/
inductive Cuts : List Char → List Segment → Prop where
  | last {cs : List Char} (h : cutToken? cs = none) : Cuts cs (literal cs)
  | next {cs before source rest : List Char} {segs : List Segment}
      (h : cutToken? cs = some (before, source, rest)) (tail : Cuts rest segs) :
      Cuts cs (literal before ++ .token source :: segs)

theorem length_lt_of_cutToken? {cs before source rest : List Char}
    (h : cutToken? cs = some (before, source, rest)) : rest.length < cs.length := by
  rw [← cutToken?_eq_some h]
  simp only [Segment.raw, List.length_append, List.length_cons]
  omega

/-- A text has no more tokens than characters, so its length is bound enough. -/
theorem cuts_segmentsWithin {n : Nat} {cs : List Char} (h : cs.length ≤ n) :
    Cuts cs (segmentsWithin n cs) := by
  induction n generalizing cs with
  | zero =>
    have hnil : cs = [] := List.eq_nil_of_length_eq_zero (Nat.le_zero.mp h)
    subst hnil
    exact .last rfl
  | succ n ih =>
    unfold segmentsWithin
    split
    · rename_i hcut
      exact .last hcut
    · rename_i before source rest hcut
      have hrest : rest.length < cs.length := length_lt_of_cutToken? hcut
      exact .next hcut (ih (by omega))

theorem cuts_segments (cs : List Char) : Cuts cs (segments cs) :=
  cuts_segmentsWithin (Nat.le_refl cs.length)

/-! ## The first token -/

/-- **No token starts before the first one.** -/
theorem body?_eq_none_of_lt {cs pre tail : List Char} (hcs : cs = pre ++ '$' :: '{' :: tail)
    (h : ∀ before found, cutToken? cs = some (before, found) → pre.length < before.length) :
    body? tail = none := by
  fun_induction cutToken? cs generalizing pre with
  | case1 => simp at hcs
  | case2 cs source rest hbody => exact absurd (h _ _ rfl) (Nat.not_lt_zero _)
  | case3 cs hbody ih =>
    cases pre with
    | nil =>
      cases hcs
      exact hbody
    | cons c pre =>
      obtain ⟨-, hcs'⟩ := List.cons.inj hcs
      refine ih hcs' fun before found hfound => ?_
      simpa [hfound] using h ('$' :: before) found
  | case4 c cs hno ih =>
    cases pre with
    | nil =>
      obtain ⟨rfl, rfl⟩ := List.cons.inj hcs
      exact absurd rfl (hno _ rfl)
    | cons c' pre =>
      obtain ⟨-, hcs'⟩ := List.cons.inj hcs
      refine ih hcs' fun before found hfound => ?_
      simpa [hfound] using h (c :: before) found

theorem body?_of_cutToken? {cs before source rest : List Char}
    (h : cutToken? cs = some (before, source, rest)) : source ≠ [] ∧ '}' ∉ source := by
  fun_induction cutToken? cs generalizing before with
  | case1 => cases h
  | case2 cs source' rest' hbody =>
    cases h
    exact source_ne_nil_of_body? hbody
  | case3 cs _ ih =>
    simp only [Option.map_eq_some_iff, Prod.exists, Prod.mk.injEq] at h
    obtain ⟨b, s, r, hcut, -, rfl, rfl⟩ := h
    exact ih hcut
  | case4 c cs _ ih =>
    simp only [Option.map_eq_some_iff, Prod.exists, Prod.mk.injEq] at h
    obtain ⟨b, s, r, hcut, -, rfl, rfl⟩ := h
    exact ih hcut

/-- Behind its start a token is missing if it would be empty, or is never closed. -/
theorem body?_eq_none_iff {tail : List Char} :
    body? tail = none ↔ tail.head? = some '}' ∨ '}' ∉ tail := by
  constructor
  · intro hnone
    by_contra hclosed
    obtain ⟨hhead, hmem⟩ := not_or.mp hclosed
    obtain ⟨source, rest, rfl, hsource⟩ := List.eq_append_cons_of_mem (not_not.mp hmem)
    have hne : source ≠ [] := by
      rintro rfl
      exact hhead rfl
    rw [body?_append hne hsource rest] at hnone
    cases hnone
  · intro h
    rw [Option.eq_none_iff_forall_ne_some]
    rintro ⟨source, rest⟩ hbody
    obtain ⟨rfl, hne, hsource⟩ := body?_eq_some_iff.mp hbody
    obtain ⟨c, source, rfl⟩ := List.exists_cons_of_ne_nil hne
    rcases h with hhead | hmem
    · cases hhead
      exact hsource List.mem_cons_self
    · exact hmem (by simp)

/-! ## The laws of a split -/

/-- What the pieces of a text are. -/
structure Split (cs : List Char) (segs : List Segment) : Prop where
  /-- Nothing is lost. -/
  joined : segs.flatMap Segment.raw = cs
  /-- A token has an expression, and ends at the first closing brace. -/
  token {source : List Char} : .token source ∈ segs →
    (Segment.token source).raw = ['$', '{'] ++ source ++ ['}'] ∧ source ≠ [] ∧ '}' ∉ source
  literal_ne_nil {text : List Char} : .literal text ∈ segs → text ≠ []
  /-- Literals are as long as possible. -/
  literals_apart {a b : List Char} : ¬ [.literal a, .literal b] <:+: segs
  /-- Where a literal holds the start of a token, the text behind that start is no token. -/
  literal_unopened {text pre post tail : List Char} {after : List Segment} :
    (.literal text :: after) <:+ segs → text = pre ++ '$' :: post →
    post ++ after.flatMap Segment.raw = '{' :: tail → tail.head? = some '}' ∨ '}' ∉ tail

theorem literal_of_ne_nil {text : List Char} (h : text ≠ []) : literal text = [.literal text] := by
  rw [literal, if_neg (by simpa using h)]

theorem mem_literal {text : List Char} {segment : Segment} :
    segment ∈ literal text ↔ text ≠ [] ∧ segment = .literal text := by
  by_cases h : text = []
  · simp [literal, h]
  · rw [literal_of_ne_nil h, List.mem_singleton, and_iff_right h]

namespace Cuts

variable {cs text : List Char} {segs after : List Segment}

theorem joined (h : Cuts cs segs) : segs.flatMap Segment.raw = cs := by
  induction h with
  | last => exact flatMap_raw_literal _
  | next hcut _ ih =>
    rw [List.flatMap_append, flatMap_raw_literal, List.flatMap_cons, ih]
    exact cutToken?_eq_some hcut

theorem token {source : List Char} (h : Cuts cs segs) (hmem : .token source ∈ segs) :
    source ≠ [] ∧ '}' ∉ source := by
  induction h with
  | last => simp [mem_literal] at hmem
  | next hcut _ ih =>
    rw [List.mem_append, List.mem_cons, mem_literal] at hmem
    rcases hmem with ⟨-, hliteral⟩ | hhead | htail
    · cases hliteral
    · cases hhead
      exact body?_of_cutToken? hcut
    · exact ih htail

/-- **A literal ends where the first token from its start on begins**, or at the end of the text if
there is none. -/
theorem literal_stop (h : Cuts cs segs) (hsuffix : .literal text :: after <:+ segs) :
    text ≠ [] ∧
      (after = [] ∧ cutToken? text = none ∨
        ∃ source rest, after = .token source :: rest ∧
          cutToken? (text ++ after.flatMap Segment.raw) =
            some (text, source, rest.flatMap Segment.raw)) := by
  induction h with
  | @last cs hcut =>
    by_cases hcs : cs = []
    · simp [literal, hcs] at hsuffix
    · rw [literal_of_ne_nil hcs, List.suffix_cons_iff, List.suffix_nil] at hsuffix
      rcases hsuffix with hhere | hnone
      · cases hhere
        exact ⟨hcs, .inl ⟨rfl, hcut⟩⟩
      · cases hnone
  | @next cs before source rest segs hcut htail ih =>
    -- behind the literal, only the pieces of the rest of the text can start with one
    have hbehind : .literal text :: after <:+ .token source :: segs →
        .literal text :: after <:+ segs := by
      intro hsuffix
      rcases List.suffix_cons_iff.mp hsuffix with hhere | hrest
      · cases hhere
      · exact hrest
    by_cases hbefore : before = []
    · simp only [literal, hbefore, List.isEmpty_nil, if_true, List.nil_append] at hsuffix
      exact ih (hbehind hsuffix)
    · rw [literal_of_ne_nil hbefore, List.singleton_append, List.suffix_cons_iff] at hsuffix
      rcases hsuffix with hhere | hrest
      · cases hhere
        refine ⟨hbefore, .inr ⟨source, segs, rfl, ?_⟩⟩
        rw [List.flatMap_cons, htail.joined, cutToken?_eq_some hcut, hcut]
      · exact ih (hbehind hrest)

theorem split (h : Cuts cs segs) : Split cs segs where
  joined := h.joined
  token hmem := ⟨rfl, h.token hmem⟩
  literal_ne_nil := by
    intro text hmem
    obtain ⟨before, after, rfl⟩ := List.append_of_mem hmem
    exact (h.literal_stop (List.suffix_append before _)).1
  literals_apart := by
    rintro a b ⟨before, after, rfl⟩
    have hsuffix : .literal a :: .literal b :: after <:+
        before ++ [.literal a, .literal b] ++ after := by
      rw [List.append_assoc]
      exact List.suffix_append before _
    rcases (h.literal_stop hsuffix).2 with ⟨hnil, -⟩ | ⟨source, rest, htoken, -⟩
    · cases hnil
    · cases htoken
  literal_unopened := by
    intro text pre post tail after hsuffix htext htail
    have hsplit : text ++ after.flatMap Segment.raw = pre ++ '$' :: '{' :: tail := by
      rw [htext, List.append_assoc, List.cons_append, htail]
    rw [← body?_eq_none_iff]
    refine body?_eq_none_of_lt hsplit fun before found hfound => ?_
    have hlength : pre.length < text.length := by simp [htext]
    rcases (h.literal_stop hsuffix).2 with ⟨rfl, hnone⟩ | ⟨source, rest, -, hcut⟩
    · rw [List.flatMap_nil, List.append_nil, hnone] at hfound
      cases hfound
    · rw [hcut, Option.some.injEq, Prod.mk.injEq] at hfound
      exact hfound.1 ▸ hlength

end Cuts

/-- **The scan satisfies every law of a split.** -/
theorem split_segments (cs : List Char) : Split cs (segments cs) := (cuts_segments cs).split

/-! ## A text that is one token -/

theorem segments_raw {source : List Char} (hne : source ≠ []) (hclosed : '}' ∉ source) :
    segments (Segment.token source).raw = [.token source] := by
  have hcut : cutToken? (Segment.token source).raw = some ([], source, []) := by
    simpa using cutToken?_raw hne hclosed []
  have hrest : ∀ n, segmentsWithin n [] = [] := segmentsWithin_eq_literal rfl
  show segmentsWithin (_ + 1) _ = _
  rw [segmentsWithin, hcut]
  simp only [hrest]
  rfl

/-- The shortcut for a text that is one token finds what the scan finds. -/
theorem single?_eq_some_iff_segments {cs source : List Char} :
    single? cs = some source ↔
      segments cs = [.token source] ∧ (Segment.token source).raw = cs := by
  rw [single?_eq_some_iff]
  constructor
  · rintro ⟨rfl, hne, hclosed⟩
    exact ⟨segments_raw hne hclosed, rfl⟩
  · rintro ⟨hsegments, hraw⟩
    have htoken : .token source ∈ segments cs := by simp [hsegments]
    exact ⟨hraw.symm, ((split_segments cs).token htoken).2⟩

end Template

end TemplateExpr
