import TemplateExpr.Console.Session
import TemplateExpr.Proofs.Syntax.Tiling

/-!
# What the lines of a session ask for

Two kinds of lines do more than print: those that bind a name (`Binds`) and those that end the
session (`Quits`). Both are described by the words of the line alone, and the reading of lines as
requests agrees with the descriptions (`ofLine_eq_bind_iff`, `ofLine_eq_quit_iff`).
-/

namespace TemplateExpr.Console.Session

/-! ## Words -/

/-- A text is a word, or a word with a blank and more behind it. -/
inductive Cuts : List Char → List Char → Option (List Char) → Prop where
  | whole {word : List Char} (hword : ∀ c ∈ word, ¬ Text.isBlank c) : Cuts word word none
  | blank {word behind : List Char} {c : Char} (hword : ∀ c ∈ word, ¬ Text.isBlank c)
      (hc : Text.isBlank c) : Cuts (word ++ c :: behind) word (some behind)

theorem cuts_cutAtBlank (cs : List Char) : Cuts cs (cutAtBlank cs).1 (cutAtBlank cs).2 := by
  have hcs : cs.takeWhile (!Text.isBlank ·) ++ cs.dropWhile (!Text.isBlank ·) = cs :=
    List.takeWhile_append_dropWhile
  have hword : ∀ c ∈ cs.takeWhile (!Text.isBlank ·), ¬ Text.isBlank c := by
    intro c hc
    simpa using List.mem_takeWhile_imp hc
  unfold cutAtBlank
  cases hrest : cs.dropWhile (!Text.isBlank ·) with
  | nil =>
    have hcuts := Cuts.whole hword
    rw [hrest, List.append_nil] at hcs
    rw [hcs] at hcuts ⊢
    exact hcuts
  | cons c rest =>
    have hc : Text.isBlank c := by
      have hne : cs.dropWhile (!Text.isBlank ·) ≠ [] := by simp [hrest]
      simpa [hrest] using List.head_dropWhile_not (!Text.isBlank ·) hne
    have hcuts := @Cuts.blank _ rest c hword hc
    rw [hrest] at hcs
    rw [hcs] at hcuts
    exact hcuts

/-- There is one way to cut a text at its first blank. -/
theorem cutAtBlank_eq_iff {cs word : List Char} {behind : Option (List Char)} :
    cutAtBlank cs = (word, behind) ↔ Cuts cs word behind := by
  constructor
  · intro h
    have hcuts := cuts_cutAtBlank cs
    rwa [h] at hcuts
  · intro h
    cases h with
    | whole hword =>
      have hfree : ∀ c ∈ cs, (!Text.isBlank c) := by simpa using hword
      rw [cutAtBlank, List.takeWhile_eq_self_iff.mpr hfree, List.dropWhile_eq_nil_iff.mpr hfree]
      rfl
    | @blank _ behind c hword hc =>
      have hfree : ∀ c ∈ word, (!Text.isBlank c) := by simpa using hword
      have hstop : ∀ d ∈ (c :: behind).head?, ¬ (!Text.isBlank d) := by simpa using hc
      rw [cutAtBlank, takeWhile_append_of_stop hfree hstop, dropWhile_append_of_stop hfree hstop]
      rfl

/-! ## Commands -/

/-- What a command asks for, given what stands behind it. -/
def command (word : String) (arguments : Option (List Char)) : Request :=
  match word with
  | ":quit" | ":q" | ":exit" => .quit
  | ":help" | ":h" => .help
  | ":set" => readBind arguments
  | ":ctx" => .bindings
  | ":functions" => .functions
  | word => .unknown word

theorem readBind_of_cuts {cs name text : List Char} (h : Cuts cs name (some text)) (hname : name ≠ [])
    (htext : Text.trim text ≠ []) :
    readBind (some cs) = .bind (.ofList name) (.ofList (Text.trim text)) := by
  have hcut := cutAtBlank_eq_iff.mpr h
  simp [readBind, hcut, hname, htext]

theorem readBind_cases (arguments : Option (List Char)) :
    readBind arguments = .incompleteBind ∨
      ∃ cs name text, arguments = some cs ∧ Cuts cs name (some text) ∧ name ≠ [] ∧
        readBind arguments = .bind (.ofList name) (.ofList (Text.trim text)) := by
  cases arguments with
  | none => exact .inl rfl
  | some cs =>
    unfold readBind
    split
    · rename_i name text hcut
      have hcuts : Cuts cs name (some text) := cutAtBlank_eq_iff.mp hcut
      simp only
      split
      · exact .inl rfl
      · rename_i hempty
        have hname : name ≠ [] := by
          rintro rfl
          exact hempty rfl
        exact .inr ⟨cs, name, text, rfl, hcuts, hname, rfl⟩
    · exact .inl rfl

theorem readBind_ne_quit (arguments : Option (List Char)) : readBind arguments ≠ .quit := by
  rcases readBind_cases arguments with h | ⟨_, _, _, _, _, _, h⟩ <;> rw [h] <;> simp

theorem command_eq_quit_iff {word : String} {arguments : Option (List Char)} :
    command word arguments = .quit ↔ word ∈ [":quit", ":q", ":exit"] := by
  unfold command
  split <;> simp_all [readBind_ne_quit]

theorem command_eq_bind_iff {word name json : String} {arguments : Option (List Char)} :
    command word arguments = .bind name json ↔
      word = ":set" ∧ readBind arguments = .bind name json := by
  unfold command
  split <;> simp_all

/-- A line that starts with a colon is a command. -/
theorem ofLine_of_cuts {line : String} {word : List Char} {behind : Option (List Char)}
    (h : Cuts (Text.trim line.toList) (':' :: word) behind) :
    Request.ofLine line = command (.ofList (':' :: word)) behind := by
  have hcut := cutAtBlank_eq_iff.mpr h
  obtain ⟨cs, hcs⟩ : ∃ cs, Text.trim line.toList = ':' :: cs := by
    generalize Text.trim line.toList = cs at h
    cases h <;> exact ⟨_, rfl⟩
  rw [hcs] at hcut
  unfold Request.ofLine
  simp only [hcs, hcut]
  rfl

/-- Every other line has nothing in it or is evaluated. -/
theorem ofLine_cases (line : String) :
    (∃ word behind, Cuts (Text.trim line.toList) (':' :: word) behind) ∨
      Request.ofLine line = .nothing ∨ (∃ text, Request.ofLine line = .template text) ∨
      ∃ text, Request.ofLine line = .expression text := by
  unfold Request.ofLine
  split
  · exact .inr (.inl rfl)
  · rename_i cs hcs
    have hcuts := cuts_cutAtBlank (':' :: cs)
    have hcolon : (cutAtBlank (':' :: cs)).1 = ':' :: cs.takeWhile (!Text.isBlank ·) := rfl
    rw [hcolon, ← hcs] at hcuts
    exact .inl ⟨_, _, hcuts⟩
  · split
    · exact .inr (.inr (.inl ⟨_, rfl⟩))
    · exact .inr (.inr (.inr ⟨_, rfl⟩))

/-! ## Quitting and binding -/

/-- The line ends the session. -/
inductive Quits (line : String) : Prop where
  | command {word : String} {behind : Option (List Char)} (hword : word ∈ [":quit", ":q", ":exit"])
      (hline : Cuts (Text.trim line.toList) word.toList behind) : Quits line

/-- The line binds a name to a value: without the blanks at its ends, and cut at its first two
blanks, it is `:set`, the name, and a JSON document with any blanks around it. -/
inductive Binds (line : String) : String → Value → Prop where
  | set {arguments name json : List Char} {document : Json}
      (hline : Cuts (Text.trim line.toList) ":set".toList (some arguments))
      (hname : Cuts arguments name (some json)) (hne : name ≠ [])
      (hjson : Json.ofText? (.ofList (Text.trim json)) = some document) :
      Binds line (.ofList name) (.ofJson document)

theorem ofLine_eq_quit_iff {line : String} : Request.ofLine line = .quit ↔ Quits line := by
  constructor
  · intro h
    rcases ofLine_cases line with ⟨word, behind, hcuts⟩ | hline | ⟨text, hline⟩ | ⟨text, hline⟩
    · rw [ofLine_of_cuts hcuts, command_eq_quit_iff] at h
      exact ⟨h, by simpa using hcuts⟩
    all_goals
      rw [hline] at h
      cases h
  · rintro ⟨hword, hcuts⟩
    simp only [List.mem_cons, List.not_mem_nil, or_false] at hword
    rcases hword with rfl | rfl | rfl <;> exact ofLine_of_cuts hcuts

theorem ofLine_of_binds {line name : String} {v : Value} (h : Binds line name v) :
    ∃ json document, Request.ofLine line = .bind name json ∧ Json.ofText? json = some document ∧
      v = .ofJson document := by
  obtain @⟨arguments, name, json, document, hline, hname, hne, hjson⟩ := h
  have htext : Text.trim json ≠ [] := by
    intro hempty
    rw [hempty] at hjson
    cases hjson
  refine ⟨_, document, ?_, hjson, rfl⟩
  exact (ofLine_of_cuts hline).trans (readBind_of_cuts hname hne htext)

theorem binds_of_ofLine_eq_bind {line name json : String} {document : Json}
    (h : Request.ofLine line = .bind name json) (hjson : Json.ofText? json = some document) :
    Binds line name (.ofJson document) := by
  rcases ofLine_cases line with ⟨word, behind, hcuts⟩ | hline | ⟨text, hline⟩ | ⟨text, hline⟩
  · rw [ofLine_of_cuts hcuts, command_eq_bind_iff] at h
    obtain ⟨hword, hread⟩ := h
    rcases readBind_cases behind with hread' | ⟨cs, name', text, rfl, hcuts', hne, hread'⟩
    · rw [hread'] at hread
      cases hread
    · rw [hread'] at hread
      cases hread
      have hset : ":set".toList = ':' :: word := by rw [← hword, String.toList_ofList]
      exact .set (hset ▸ hcuts) hcuts' hne hjson
  all_goals
    rw [hline] at h
    cases h

end TemplateExpr.Console.Session
