/-!
# Templates

A template is text with tokens in it: an expression between a dollar sign with an opening brace and
the next closing brace. The expression has at least one character; empty braces, and braces that
are never closed, are literal text.

Scanning loses nothing: `segments` splits a text, and the pieces, written one after the other, are
the text again (`flatMap_raw_segments`).
-/

namespace TemplateExpr

/-- A piece of a template. -/
inductive Segment where
  | literal (text : List Char)
  /-- A token with the expression in its braces. -/
  | token (source : List Char)
deriving DecidableEq

namespace Segment

/-- A piece as the template has it. -/
def raw : Segment → List Char
  | literal text => text
  | token source => '$' :: '{' :: (source ++ ['}'])

end Segment

namespace Template

/-- Whether the start of a token occurs in a text. -/
def hasToken : List Char → Bool
  | [] => false
  | c :: cs => ['$', '{'].isPrefixOf (c :: cs) || hasToken cs

/-- The expression in the braces of a token, behind the opening one, and the text behind it. -/
def body? (cs : List Char) : Option (List Char × List Char) :=
  match cs.takeWhile (· != '}'), cs.dropWhile (· != '}') with
  | c :: source, _ :: rest => some (c :: source, rest)
  | _, _ => none

/-- The text before the first token, its expression, and the text behind it. -/
def cutToken? : List Char → Option (List Char × List Char × List Char)
  | [] => none
  | '$' :: '{' :: cs =>
    match body? cs with
    | some (source, rest) => some ([], source, rest)
    | none => (cutToken? ('{' :: cs)).map fun (before, found) => ('$' :: before, found)
  | c :: cs => (cutToken? cs).map fun (before, found) => (c :: before, found)

/-- A literal piece, unless it is empty. -/
def literal (text : List Char) : List Segment := if text.isEmpty then [] else [.literal text]

/-- The pieces of a text with at most the given number of tokens. -/
def segmentsWithin : Nat → List Char → List Segment
  | 0, cs => literal cs
  | n + 1, cs =>
    match cutToken? cs with
    | none => literal cs
    | some (before, source, rest) =>
      literal before ++ .token source :: segmentsWithin n rest

/-- The pieces of a text, in order. -/
def segments (cs : List Char) : List Segment := segmentsWithin cs.length cs

/-- The expression of a text that is one token and nothing else. -/
def single? : List Char → Option (List Char)
  | '$' :: '{' :: cs =>
    match body? cs with
    | some (source, []) => some source
    | _ => none
  | _ => none

theorem body?_eq_some {cs source rest : List Char} (h : body? cs = some (source, rest)) :
    source ++ '}' :: rest = cs := by
  have happ := List.takeWhile_append_dropWhile (p := (· != '}')) (l := cs)
  unfold body? at h
  split at h
  · rename_i c source' d rest' htake hdrop
    simp only [Option.some.injEq, Prod.mk.injEq] at h
    have hd : d = '}' := by
      have := List.head?_dropWhile_not (p := (· != '}')) (l := cs)
      simpa [hdrop] using this
    rw [htake, hdrop, h.1, h.2, hd] at happ
    exact happ
  · cases h

theorem cutToken?_eq_some {cs before source rest : List Char}
    (h : cutToken? cs = some (before, source, rest)) :
    before ++ ((Segment.token source).raw ++ rest) = cs := by
  fun_induction cutToken? cs generalizing before with
  | case1 => cases h
  | case2 cs source' rest' hbody =>
    simp only [Option.some.injEq, Prod.mk.injEq] at h
    obtain ⟨rfl, rfl, rfl⟩ := h
    simpa [Segment.raw] using body?_eq_some hbody
  | case3 cs _ ih =>
    simp only [Option.map_eq_some_iff, Prod.exists, Prod.mk.injEq] at h
    obtain ⟨b, s, r, hcut, rfl, rfl, rfl⟩ := h
    simpa using ih hcut
  | case4 c cs _ ih =>
    simp only [Option.map_eq_some_iff, Prod.exists, Prod.mk.injEq] at h
    obtain ⟨b, s, r, hcut, rfl, rfl, rfl⟩ := h
    simpa using ih hcut

theorem flatMap_raw_literal (text : List Char) : (literal text).flatMap Segment.raw = text := by
  unfold literal
  split
  · rename_i h
    simp [List.isEmpty_iff.mp h]
  · simp [Segment.raw]

theorem flatMap_raw_segmentsWithin (n : Nat) (cs : List Char) :
    (segmentsWithin n cs).flatMap Segment.raw = cs := by
  induction n generalizing cs with
  | zero => exact flatMap_raw_literal cs
  | succ n ih =>
    unfold segmentsWithin
    split
    · exact flatMap_raw_literal cs
    · rename_i before source rest h
      rw [List.flatMap_append, flatMap_raw_literal, List.flatMap_cons, ih]
      exact cutToken?_eq_some h

theorem flatMap_raw_segments (cs : List Char) : (segments cs).flatMap Segment.raw = cs :=
  flatMap_raw_segmentsWithin cs.length cs

end Template

end TemplateExpr
