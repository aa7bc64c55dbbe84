import TemplateExpr.Proofs.Syntax.Runs

/-!
# Errors are found at once

A parser reads from left to right and decides by the next token. So if a run fails at a token, every
run that meets the same tokens up to that one fails there, whatever is behind it. And if the tokens
before it begin a phrase, the error is at the first token that cannot go on. `Detects` says this of
a family of parsers, whose members differ only in how many tokens they have room for, and of the
phrases they read. Each way to put parsers together has one rule.

Both halves are needed together: that the tokens behind a result do not matter is what carries the
refusal of a part to the whole, and that the parts of a phrase can be completed carries its
beginning.
-/

namespace TemplateExpr

namespace Parser

variable {α β γ δ ι κ : Type} {bounds : Bounds} {last? last?' : Option Token} {rest : List Token}
  {N depth depth' : Nat} {size : ι → Nat} {size' : κ → Nat} {p : ι → Parser α}
  {G : List Token → α → Prop} {G' : List Token → β → Prop}

/-- The tokens are the beginning of a phrase. -/
def Begins (G : List Token → α → Prop) (ts : List Token) : Prop := ∃ more a, G (ts ++ more) a

/-- The tokens are a phrase, whatever it builds. -/
def Phrase (G : List Token → γ → Prop) (ts : List Token) (_ : α) : Prop := ∃ c, G ts c

/-- Behind any phrase of the first kind, the tokens complete one of the second. -/
def Completes (G : List Token → γ → Prop) (G' : List Token → δ → Prop) (ts : List Token) (_ : α) :
    Prop :=
  ∀ ts₁ c, G ts₁ c → ∃ d, G' (ts₁ ++ ts) d

theorem completes_nil {G : List Token → γ → Prop} {G' : List Token → δ → Prop}
    (h : ∀ ts c, G ts c → ∃ d, G' ts d) (a : α) : Completes G G' [] a := by
  intro ts c hc
  rw [List.append_nil]
  exact h ts c hc

/-- In front of the given token, or of none, every member of a family with room for them takes the
given tokens and returns the given value, with the given depth behind it. -/
def Takes (size : ι → Nat) (p : ι → Parser α) (maxDepth depth : Nat) (ts : List Token)
    (next? : Option Token) (a : α) (depth' : Nat) : Prop :=
  ∀ x stop left, left.head? = next? → (ts ++ left).length ≤ size x →
    p x ⟨maxDepth, stop⟩ ⟨ts ++ left, depth⟩ = .ok a ⟨left, depth'⟩

/-- Every member of a family with room for them fails on the given tokens, whatever is behind
them. -/
def Refuses (size : ι → Nat) (p : ι → Parser α) (maxDepth depth : Nat) (ts : List Token)
    (e : ExprError) : Prop :=
  ∀ x stop left, (ts ++ left).length ≤ size x →
    ∃ now, p x ⟨maxDepth, stop⟩ ⟨ts ++ left, depth⟩ = .error e now

/-- Where a run fails: where the limit stops it, at a token that the tokens up to there are refused
with, or at the end. There the position is the one behind the last token, except that a missing key
is reported at the brace or comma before it. If that is not among the tokens of the run, it is the
last token before them. -/
inductive Halts (bounds : Bounds) (last? : Option Token) (begins : List Token → Prop)
    (refuses : List Token → ExprError → Prop) (rest : List Token) : ExprError → Prop where
  | limit : Halts bounds last? begins refuses rest (.exhausted bounds.maxDepth)
  | token {before after : List Token} {t : Token} {cause : SyntaxCause}
      (hrest : rest = before ++ t :: after) (hbegins : begins before)
      (hrefuses : refuses (before ++ [t]) (.syntactic t.position cause)) :
      Halts bounds last? begins refuses rest (.syntactic t.position cause)
  | stop {cause : SyntaxCause} (hbegins : begins rest) (hcause : cause ≠ .objectKey) :
      Halts bounds last? begins refuses rest (.syntactic bounds.stop cause)
  | key {t : Token} (hbegins : begins rest) (hlast : rest.getLast?.or last? = some t)
      (hopens : t.Is .leftBrace ∨ t.Is .comma) :
      Halts bounds last? begins refuses rest (.syntactic t.position .objectKey)

/-- What a run of a parser that finds errors at once ends with. -/
def DetectsAt (last? : Option Token) (size : ι → Nat) (p : ι → Parser α) (G : List Token → α → Prop)
    (x : ι) (bounds : Bounds) (rest : List Token) (depth : Nat) : Prop :=
  Ends (p x) bounds ⟨rest, depth⟩
    (fun a now => ∃ ts, rest = ts ++ now.rest ∧ G ts a ∧
      Takes size p bounds.maxDepth depth ts now.rest.head? a now.depth)
    (Halts bounds last? (Begins G) (Refuses size p bounds.maxDepth depth) rest)

/-- On up to `N` tokens, a family of parsers finds errors at once. -/
def Detects (N : Nat) (last? : Option Token) (size : ι → Nat) (p : ι → Parser α)
    (G : List Token → α → Prop) : Prop :=
  ∀ x bounds rest depth, rest.length ≤ N → rest.length ≤ size x →
    DetectsAt last? size p G x bounds rest depth

/-! ## Parts in their context -/

section

variable {begins begins' : List Token → Prop} {refuses refuses' : List Token → ExprError → Prop}
  {e : ExprError}

/-- An error in a part is an error of the whole, behind what is done. -/
theorem Halts.behind (done : List Token) (h : Halts bounds last? begins refuses rest e)
    (hbegins : ∀ ts, begins ts → begins' (done ++ ts))
    (hrefuses : ∀ ts e, ts ≠ [] → ts.head? = rest.head? → refuses ts e → refuses' (done ++ ts) e)
    (hlast : ∀ t, last? = some t → done.getLast?.or last?' = some t) :
    Halts bounds last?' begins' refuses' (done ++ rest) e := by
  cases h with
  | limit => exact .limit
  | @token before after t cause hrest hstart hrefused =>
    subst hrest
    refine .token (List.append_assoc done before (t :: after)).symm (hbegins _ hstart) ?_
    rw [List.append_assoc]
    refine hrefuses _ _ (by simp) ?_ hrefused
    cases before <;> rfl
  | stop hstart hcause => exact .stop (hbegins _ hstart) hcause
  | @key t hstart ht hopens =>
    refine .key (hbegins _ hstart) ?_ hopens
    rw [List.getLast?_append]
    cases hrest : rest.getLast? with
    | some _ =>
      rw [hrest] at ht
      exact ht
    | none =>
      rw [hrest] at ht
      exact hlast t ht

theorem Halts.imp (h : Halts bounds last? begins refuses rest e)
    (hbegins : ∀ ts, begins ts → begins' ts) (hrefuses : ∀ ts e, refuses ts e → refuses' ts e) :
    Halts bounds last? begins' refuses' rest e :=
  Halts.behind [] h hbegins (fun ts e _ _ => hrefuses ts e) fun _ hlast => hlast

/-- Where there are no tokens, none is refused. -/
theorem Halts.of_nil (h : Halts bounds last? begins refuses [] e) :
    Halts bounds last? begins refuses' [] e := by
  cases h with
  | limit => exact .limit
  | token hrest _ _ => exact absurd hrest (by simp)
  | stop hstart hcause => exact .stop hstart hcause
  | key hstart hlast hopens => exact .key hstart hlast hopens

end

/-- If behind some tokens one family does what another does without them, it finds errors at once
where the other does. -/
theorem DetectsAt.behind {q : κ → Parser α} {G' : List Token → α → Prop} (done : List Token)
    (h : ∀ x, rest.length ≤ size x → DetectsAt last? size p G x bounds rest depth)
    (hrun : ∀ y stop left, left.head? = rest.head? → (done ++ left).length ≤ size' y →
      ∃ x, left.length ≤ size x ∧ q y ⟨bounds.maxDepth, stop⟩ ⟨done ++ left, depth'⟩ =
        p x ⟨bounds.maxDepth, stop⟩ ⟨left, depth⟩)
    (hG : ∀ ts a, G ts a → G' (done ++ ts) a)
    (hlast : ∀ t, last? = some t → done.getLast?.or last?' = some t)
    {y : κ} (hy : (done ++ rest).length ≤ size' y) :
    DetectsAt last?' size' q G' y bounds (done ++ rest) depth' := by
  obtain ⟨x, hx, hsame⟩ := hrun y bounds.stop rest rfl hy
  have hsame : q y bounds ⟨done ++ rest, depth'⟩ = p x bounds ⟨rest, depth⟩ := hsame
  unfold DetectsAt Ends
  rw [hsame]
  refine Ends.mono (h x hx) ?_ ?_
  · intro a now hdone
    obtain ⟨ts, rfl, hGts, htakes⟩ := hdone
    refine ⟨done ++ ts, (List.append_assoc _ _ _).symm, hG ts a hGts, ?_⟩
    intro y stop left hleft hlength
    rw [List.append_assoc] at hlength ⊢
    obtain ⟨x, hx, hsame⟩ := hrun y stop (ts ++ left) (by simp [hleft]) hlength
    rw [hsame]
    exact htakes x stop left hleft hx
  · intro e hhalts
    refine Halts.behind done hhalts ?_ ?_ hlast
    · intro ts hbegins
      obtain ⟨more, a, hGts⟩ := hbegins
      exact ⟨more, a, by rw [List.append_assoc]; exact hG _ a hGts⟩
    · intro ts e hts hhead hrefuses y stop left hlength
      have hnext : (ts ++ left).head? = rest.head? := by
        rw [← hhead]
        cases ts with
        | nil => exact absurd rfl hts
        | cons t ts => rfl
      rw [List.append_assoc] at hlength ⊢
      obtain ⟨x, hx, hsame⟩ := hrun y stop (ts ++ left) hnext hlength
      rw [hsame]
      exact hrefuses x stop left hx

/-- The same, behind one token. -/
theorem DetectsAt.take {t : Token} {sizeNext : ι → Nat} {q : ι → Parser α} {x : ι}
    (h : Detects rest.length (some t) sizeNext p fun ts => G (t :: ts))
    (hsize : ∀ y, size y ≤ sizeNext y + 1)
    (hrun : ∀ y bounds left, q y bounds ⟨t :: left, depth⟩ = p y bounds ⟨left, depth⟩)
    (hx : (t :: rest).length ≤ size x) : DetectsAt last? size q G x bounds (t :: rest) depth := by
  refine DetectsAt.behind [t] (fun y hy => h y bounds rest depth (Nat.le_refl _) hy) ?_
    (fun _ _ h => h) (fun _ hlast => hlast) hx
  intro y stop left _ hlength
  rw [List.length_append, List.length_singleton] at hlength
  exact ⟨y, by have := hsize y; omega, hrun y _ left⟩

theorem Detects.imp {G' : List Token → α → Prop} (h : Detects N last? size p G)
    (hG : ∀ ts a, G ts a → G' ts a) : Detects N last? size p G' := by
  intro x bounds rest depth hN hsize
  refine DetectsAt.behind [] (fun x hx => h x bounds rest depth hN hx) ?_ hG ?_ hsize
  · exact fun y stop left _ hleft => ⟨y, hleft, rfl⟩
  · exact fun _ hlast => hlast

theorem Detects.mono {M : Nat} (h : Detects N last? size p G) (hM : M ≤ N) :
    Detects M last? size p G :=
  fun x bounds rest depth hlength => h x bounds rest depth (Nat.le_trans hlength hM)

/-- Some members of a family, with less room. -/
theorem Detects.restrict (h : Detects N none size p G) (f : κ → ι)
    (hf : ∀ y, size' y ≤ size (f y)) : Detects N last? size' (fun y => p (f y)) G := by
  intro y bounds rest depth hN hsize
  refine DetectsAt.behind [] (fun x hx => h x bounds rest depth hN hx) ?_ (fun _ _ h => h) ?_ hsize
  · exact fun y stop left _ hleft => ⟨f y, Nat.le_trans hleft (hf y), rfl⟩
  · intro _ hlast
    cases hlast

/-- What does not need the token before it can stand behind any. -/
theorem Detects.anywhere (h : Detects N none size p G) : Detects N last? size p G :=
  h.restrict id fun _ => Nat.le_refl _

/-! ## Steps -/

theorem detects_pure {a : α} (hG : G [] a) : Detects N last? size (fun _ => pure a) G :=
  fun _ _ _ _ _ _ => ⟨[], rfl, hG, fun _ _ _ _ _ => rfl⟩

/-- A parser that fails at the next token, or behind the last one. -/
theorem detects_failure {cause : Token → SyntaxCause} (atStop : SyntaxCause)
    (hcause : atStop ≠ .objectKey) (hG : Begins G [])
    (hcons : ∀ x bounds t rest depth, ∃ now,
      p x bounds ⟨t :: rest, depth⟩ = .error (.syntactic t.position (cause t)) now)
    (hnil : ∀ x bounds depth, ∃ now,
      p x bounds ⟨[], depth⟩ = .error (.syntactic bounds.stop atStop) now) :
    Detects N last? size p G := by
  intro x bounds rest depth _ _
  unfold DetectsAt Ends
  cases rest with
  | nil =>
    obtain ⟨now, hrun⟩ := hnil x bounds depth
    rw [hrun]
    exact .stop hG hcause
  | cons t rest =>
    obtain ⟨now, hrun⟩ := hcons x bounds t rest depth
    rw [hrun]
    have hrefuses : Refuses size p bounds.maxDepth depth [t] (.syntactic t.position (cause t)) :=
      fun y stop left _ => hcons y _ t left depth
    exact .token rfl hG hrefuses

theorem detects_failHere {cause : SyntaxCause} (hcause : cause ≠ .objectKey) (hG : Begins G []) :
    Detects N last? size (fun _ => (failHere cause : Parser α)) G :=
  detects_failure cause hcause hG (fun _ _ _ _ _ => ⟨_, rfl⟩) fun _ _ _ => ⟨_, rfl⟩

section

variable {s : TokenKind → Option γ} {t : Token} {c : γ}

theorem run_accept?_none (h : Rejects s rest) :
    accept? s bounds ⟨rest, depth⟩ = .ok none ⟨rest, depth⟩ := by
  cases rest with
  | nil => rfl
  | cons t rest =>
    have hkind : s t.kind = none := h t rfl
    rw [accept?, run_bind, run_get]
    simp only [hkind]
    rfl

theorem run_accept?_some (h : s t.kind = some c) :
    accept? s bounds ⟨t :: rest, depth⟩ = .ok (some (t, c)) ⟨rest, depth⟩ := by
  rw [accept?, run_bind, run_get]
  simp only [h]
  rfl

theorem run_nextIs {symbol : Symbol} : nextIs symbol bounds ⟨rest, depth⟩ =
    .ok (rest.head?.any fun t => t.kind = .symbol symbol) ⟨rest, depth⟩ := by
  cases rest <;> rfl

end

/-! ## Parsers put together -/

/-- One parser after another, where the tokens that the first takes count. What the second reads can
always be completed. -/
theorem Detects.bind_of_length {f : ι → α → Parser β} {R : α → List Token → β → Prop}
    (hp : Detects N last? size p G) (sizeNext : α → ι → Nat)
    (hsize : ∀ ts a, G ts a → ∀ x, size x ≤ sizeNext a x + ts.length)
    (hf : ∀ ts a M, G ts a → M + ts.length ≤ N →
      Detects M none (sizeNext a) (fun x => f x a) (R a))
    (hnext : ∀ a, ∃ ts b, R a ts b)
    (hjoin : ∀ ts₁ a ts₂ b, G ts₁ a → R a ts₂ b → G' (ts₁ ++ ts₂) b) :
    Detects N last? size (fun x => p x >>= f x) G' := by
  intro x bounds rest depth hN hx
  have hfirst := hp x bounds rest depth hN hx
  unfold DetectsAt at hfirst
  cases hrun : p x bounds ⟨rest, depth⟩ with
  | error e now =>
    rw [ends_of_eq_error hrun] at hfirst
    have hwhole : (p x >>= f x) bounds ⟨rest, depth⟩ = .error e now := by rw [run_bind, hrun]
    refine (ends_of_eq_error hwhole).mpr (hfirst.imp ?_ ?_)
    · intro ts hbegins
      obtain ⟨more, a, hG⟩ := hbegins
      obtain ⟨ts₂, b, hR⟩ := hnext a
      exact ⟨more ++ ts₂, b, by rw [← List.append_assoc]; exact hjoin _ a _ b hG hR⟩
    · intro ts e hrefuses y stop left hlength
      obtain ⟨now, hrun⟩ := hrefuses y stop left hlength
      exact ⟨now, by simp only [run_bind, hrun]⟩
  | ok a now =>
    rw [ends_of_eq_ok hrun] at hfirst
    obtain ⟨ts₁, rfl, hG, htakes⟩ := hfirst
    have hleft : now.rest.length + ts₁.length ≤ N := by
      rw [List.length_append] at hN
      omega
    refine DetectsAt.behind ts₁
      (fun y hy => hf ts₁ a _ hG hleft y bounds now.rest now.depth (Nat.le_refl _) hy) ?_
      (fun ts b hR => hjoin ts₁ a ts b hG hR) (fun _ hlast => by cases hlast) hx
    intro y stop left hhead hlength
    refine ⟨y, ?_, ?_⟩
    · have hy := hsize ts₁ a hG y
      rw [List.length_append] at hlength
      omega
    · rw [run_bind, htakes y stop left hhead hlength]

/-- One parser after another. -/
theorem Detects.bind {f : ι → α → Parser β} {R : α → List Token → β → Prop}
    (hp : Detects N last? size p G) (hf : ∀ a, Detects N none size (fun x => f x a) (R a))
    (hnext : ∀ a, ∃ ts b, R a ts b)
    (hjoin : ∀ ts₁ a ts₂ b, G ts₁ a → R a ts₂ b → G' (ts₁ ++ ts₂) b) :
    Detects N last? size (fun x => p x >>= f x) G' :=
  hp.bind_of_length (fun _ => size) (fun _ _ _ _ => Nat.le_add_right _ _)
    (fun _ a _ _ hM => (hf a).mono (Nat.le_trans (Nat.le_add_right _ _) hM)) hnext hjoin

/-- Something is made of the result. -/
theorem Detects.map {g : α → β} (hp : Detects N last? size p G)
    (hG : ∀ ts a, G ts a → G' ts (g a)) :
    Detects N last? size (fun x => p x >>= fun a => pure (g a)) G' := by
  refine hp.bind (R := fun a ts b => ts = [] ∧ b = g a) (fun a => detects_pure ⟨rfl, rfl⟩)
    (fun a => ⟨[], g a, rfl, rfl⟩) ?_
  intro ts₁ a ts₂ b hts₁ hnone
  obtain ⟨rfl, rfl⟩ := hnone
  rw [List.append_nil]
  exact hG ts₁ a hts₁

/-- A phrase that may be complete before what is behind it is read. -/
theorem Detects.complete [Nonempty β] {f : ι → α → Parser β} {G : List Token → γ → Prop}
    {G' : List Token → δ → Prop} (hp : Detects N last? size p (Phrase G))
    (hnil : ∀ ts c, G ts c → ∃ d, G' ts d)
    (hf : ∀ a, Detects N none size (fun x => f x a) (Completes G G')) :
    Detects N last? size (fun x => p x >>= f x) (Phrase G') := by
  obtain ⟨b⟩ := ‹Nonempty β›
  refine hp.bind hf (fun _ => ⟨[], b, completes_nil hnil b⟩) ?_
  rintro ts₁ _ ts₂ _ ⟨c, hc⟩ hcompletes
  exact hcompletes ts₁ c hc

section

variable {symbol : Symbol}

/-- A decision by the next token, which is taken if it is suitable. -/
theorem detects_accept? {s : TokenKind → Option γ} {f : ι → Option (Token × γ) → Parser α}
    (sizeNext : ι → Nat) (hsize : ∀ x, size x ≤ sizeNext x + 1)
    (hnone : Detects N last? size (fun x => f x none) G)
    (hsome : ∀ t c, s t.kind = some c → ∀ M < N,
      Detects M (some t) sizeNext (fun x => f x (some (t, c))) fun ts => G (t :: ts)) :
    Detects N last? size (fun x => accept? s >>= f x) G := by
  intro x bounds rest depth hN hx
  by_cases hrest : Rejects s rest
  · refine DetectsAt.behind [] (fun y hy => hnone y bounds rest depth hN hy) ?_ (fun _ _ h => h)
      (fun _ hlast => hlast) hx
    intro y stop left hhead hlength
    have hleft : Rejects s left := by
      unfold Rejects
      rw [hhead]
      exact hrest
    exact ⟨y, hlength, by rw [run_bind, List.nil_append, run_accept?_none hleft]⟩
  · cases rest with
    | nil => exact absurd (fun t ht => by cases ht) hrest
    | cons t rest =>
      obtain ⟨c, hc⟩ : ∃ c, s t.kind = some c := by
        rw [← Option.ne_none_iff_exists']
        intro hkind
        exact hrest fun t' ht' => by cases ht'; exact hkind
      refine DetectsAt.take (hsome t c hc rest.length hN) hsize (fun y bounds left => ?_) hx
      rw [run_bind, run_accept?_some hc]

theorem detects_accept {f : ι → Bool → Parser α} (sizeNext : ι → Nat)
    (hsize : ∀ x, size x ≤ sizeNext x + 1)
    (hfalse : Detects N last? size (fun x => f x false) G)
    (htrue : ∀ t : Token, t.Is symbol → ∀ M < N,
      Detects M (some t) sizeNext (fun x => f x true) fun ts => G (t :: ts)) :
    Detects N last? size (fun x => accept symbol >>= f x) G := by
  have haccept : ∀ x, accept symbol >>= f x =
      accept? (fun kind => if kind = .symbol symbol then some () else none) >>=
        fun found => f x found.isSome := fun x => by simp [accept]
  simp only [haccept]
  exact detects_accept? sizeNext hsize hfalse fun t _ hkind M hM =>
    htrue t (symbol_eq_some_iff.mp hkind) M hM

theorem detects_expect {cause : SyntaxCause} (hcause : cause ≠ .objectKey) {G : List Token → Prop}
    (hG : ∀ t : Token, t.Is symbol → G [t]) :
    Detects N last? size (fun _ => expect symbol cause) fun ts _ => G ts := by
  refine detects_accept size (fun _ => Nat.le_succ _) ?_ ?_
  · exact detects_failHere hcause ⟨[⟨.symbol symbol, 0, ""⟩], ⟨⟩, hG _ rfl⟩
  · exact fun t ht M _ => detects_pure (hG t ht)

/-- A decision by the next token, which is left where it is. -/
theorem detects_nextIs {f : ι → Bool → Parser α}
    (hf : ∀ found, Detects N last? size (fun x => f x found) G) :
    Detects N last? size (fun x => nextIs symbol >>= f x) G := by
  intro x bounds rest depth hN hx
  let found := rest.head?.any fun t => t.kind = .symbol symbol
  refine DetectsAt.behind [] (fun y hy => hf found y bounds rest depth hN hy) ?_
    (fun _ _ h => h) (fun _ hlast => hlast) hx
  intro y stop left hhead hlength
  exact ⟨y, hlength, by rw [run_bind, List.nil_append, run_nextIs, hhead]⟩

theorem Detects.deepen (hp : Detects N last? size p G) :
    Detects N last? size (fun x => deepen >>= fun _ => p x) G := by
  intro x bounds rest depth hN hx
  by_cases hlimit : bounds.maxDepth < depth + 1
  · unfold DetectsAt
    rw [ends_bind, ends_deepen, if_pos hlimit]
    exact .limit
  · refine DetectsAt.behind [] (fun y hy => hp y bounds rest (depth + 1) hN hy) ?_
      (fun _ _ h => h) (fun _ hlast => hlast) hx
    intro y stop left _ hlength
    exact ⟨y, hlength, by rw [run_bind, run_deepen, if_neg hlimit]; rfl⟩

/-- Only the depth behind a result is another. -/
theorem Detects.redepth {q : ι → Parser α} (hp : Detects N last? size p G)
    (level : Nat → Nat → Nat)
    (hok : ∀ x bounds rest depth a now, p x bounds ⟨rest, depth⟩ = .ok a now →
      q x bounds ⟨rest, depth⟩ = .ok a ⟨now.rest, level depth now.depth⟩)
    (herror : ∀ x bounds rest depth e now, p x bounds ⟨rest, depth⟩ = .error e now →
      ∃ now', q x bounds ⟨rest, depth⟩ = .error e now') : Detects N last? size q G := by
  intro x bounds rest depth hN hx
  have hbase := hp x bounds rest depth hN hx
  unfold DetectsAt at hbase ⊢
  cases hrun : p x bounds ⟨rest, depth⟩ with
  | error e now =>
    obtain ⟨now', hrun'⟩ := herror _ _ _ _ _ _ hrun
    rw [ends_of_eq_error hrun] at hbase
    refine (ends_of_eq_error hrun').mpr (hbase.imp (fun _ h => h) ?_)
    intro ts e hrefuses y stop left hlength
    obtain ⟨now, hrun⟩ := hrefuses y stop left hlength
    exact herror _ _ _ _ _ _ hrun
  | ok a now =>
    rw [ends_of_eq_ok hrun] at hbase
    obtain ⟨ts, hrest, hG, htakes⟩ := hbase
    refine (ends_of_eq_ok (hok _ _ _ _ _ _ hrun)).mpr ⟨ts, hrest, hG, ?_⟩
    intro y stop left hhead hlength
    exact hok _ _ _ _ _ _ (htakes y stop left hhead hlength)

theorem Detects.nested (hp : Detects N last? size p G) :
    Detects N last? size (fun x => nested (p x)) G := by
  refine Detects.deepen (hp.redepth (fun _ now => now - 1) ?_ ?_)
  · intro x bounds rest depth a now hrun
    simp only [hrun]
  · intro x bounds rest depth e now hrun
    exact ⟨{ now with depth := now.depth - 1 }, by simp only [hrun]⟩

end

/-! ## Counted rounds -/

section

variable {W : ι → Nat → Parser α}

/-- The count of rounds is the number of tokens that are left. -/
theorem Detects.counted
    (h : Detects N last? (fun y : ι × Nat => min (size y.1) y.2) (fun y => W y.1 y.2) G) :
    Detects N last? size (fun x => do W x (← get).rest.length) G := by
  intro x bounds rest depth hN hx
  refine DetectsAt.behind [] (fun y hy => h y bounds rest depth hN hy) ?_ (fun _ _ h => h)
    (fun _ hlast => hlast) hx
  intro y stop left _ hlength
  exact ⟨(y, left.length), Nat.le_min.mpr ⟨hlength, Nat.le_refl _⟩, rfl⟩

/-- Where tokens are left, a count that they fit in is not used up. -/
theorem Detects.of_succ (size : ι → Nat → Nat) (hzero : ∀ x, size x 0 = 0)
    (hnil : ∀ y bounds depth, DetectsAt last? (fun y : ι × Nat => size y.1 y.2)
      (fun y => W y.1 y.2) G y bounds [] depth)
    (hsucc : Detects N last? (fun y : ι × Nat => size y.1 (y.2 + 1)) (fun y => W y.1 (y.2 + 1)) G) :
    Detects N last? (fun y : ι × Nat => size y.1 y.2) (fun y => W y.1 y.2) G := by
  intro y bounds rest depth hN hy
  cases rest with
  | nil => exact hnil y bounds depth
  | cons t rest =>
    refine DetectsAt.behind [] (fun y hy => hsucc y bounds (t :: rest) depth hN hy) ?_
      (fun _ _ h => h) (fun _ hlast => hlast) hy
    rintro ⟨x, n⟩ stop left hhead hlength
    cases left with
    | nil => cases hhead
    | cons t left =>
      cases n with
      | zero =>
        rw [hzero] at hlength
        exact absurd hlength (by simp)
      | succ n => exact ⟨(x, n), hlength, rfl⟩

/-- If no phrase is empty, only the error counts where no tokens are left. -/
theorem DetectsAt.of_nil {q : κ → Parser α} {x : ι} {y : κ} (hG : ∀ a, ¬ G [] a)
    (h : DetectsAt last? size p G x bounds [] depth)
    (hrun : q y bounds ⟨[], depth⟩ = p x bounds ⟨[], depth⟩) :
    DetectsAt last? size' q G y bounds [] depth := by
  unfold DetectsAt Ends at h ⊢
  rw [hrun]
  refine Ends.mono h ?_ fun e hhalts => hhalts.of_nil
  intro a now hdone
  obtain ⟨ts, hts, hGts, -⟩ := hdone
  obtain ⟨rfl, -⟩ := List.append_eq_nil_iff.mp hts.symm
  exact absurd hGts (hG a)

theorem Detects.of_succ_of_ne_nil (size : ι → Nat → Nat) (hzero : ∀ x, size x 0 = 0)
    (hG : ∀ a, ¬ G [] a) (hfirst : Detects 0 last? (fun x => size x 0) (fun x => W x 0) G)
    (hsucc : Detects N last? (fun y : ι × Nat => size y.1 (y.2 + 1)) (fun y => W y.1 (y.2 + 1)) G) :
    Detects N last? (fun y : ι × Nat => size y.1 y.2) (fun y => W y.1 y.2) G := by
  refine Detects.of_succ size hzero ?_ hsucc
  rintro ⟨x, n⟩ bounds depth
  cases n with
  | zero => exact (hfirst x bounds [] depth (Nat.zero_le _) (Nat.zero_le _)).of_nil hG rfl
  | succ n => exact (hsucc (x, n) bounds [] depth (Nat.zero_le _) (Nat.zero_le _)).of_nil hG rfl

end

/-! ## Chains -/

/-- What one step of a chain reads: nothing, or tokens that lengthen what follows them. -/
def Lengthens (L : List Token → Prop) (ts : List Token) : Option α → Prop
  | none => ts = []
  | some _ => ts ≠ [] ∧ ∀ ts', L ts' → L (ts ++ ts')

theorem Detects.rounds {step : ι → α → Parser (Option α)} {L : List Token → Prop} (hL : L [])
    (hnil : ∀ x a bounds depth, step x a bounds ⟨[], depth⟩ = .ok none ⟨[], depth⟩)
    (hstep : ∀ a, Detects N none size (fun x => step x a) (Lengthens L)) (a : α) :
    Detects N none (fun y : ι × Nat => min (size y.1) y.2)
      (fun y => chain.rounds (step y.1) y.2 a) fun ts _ => L ts := by
  induction N using Nat.strongRecOn generalizing a with
  | ind N ih =>
    have hend : ∀ x n bounds depth, chain.rounds (step x) n a bounds ⟨[], depth⟩ =
        .ok a ⟨[], depth⟩ := by
      intro x n bounds depth
      cases n with
      | zero => rfl
      | succ n =>
        rw [chain.rounds, run_bind, hnil]
        rfl
    refine Detects.of_succ (W := fun x n => chain.rounds (step x) n a) (fun x n => min (size x) n)
      (fun _ => Nat.min_zero _) ?_ ?_
    · rintro ⟨x, n⟩ bounds depth
      refine (ends_of_eq_ok (hend x n bounds depth)).mpr ⟨[], rfl, hL, ?_⟩
      rintro ⟨y, m⟩ stop left hhead _
      rw [List.head?_eq_none_iff.mp hhead]
      exact hend y m _ depth
    · have hstep' : Detects N none (fun y : ι × Nat => min (size y.1) (y.2 + 1))
          (fun y => step y.1 a) (Lengthens L) :=
        (hstep a).restrict Prod.fst fun _ => Nat.min_le_left _ _
      refine hstep'.bind_of_length
        (fun next? y => min (size y.1) (if next?.isSome then y.2 else y.2 + 1))
        (R := fun next? ts _ => L ts ∧ (next? = none → ts = [])) ?_ ?_ ?_ ?_
      · rintro ts (_ | next) hread y
        · simp
        · have hpos := List.length_pos_of_ne_nil hread.1
          simp only [Option.isSome_some, if_true]
          omega
      · rintro ts (_ | next) M hread hM
        · exact detects_pure ⟨hL, fun _ => rfl⟩
        · have hpos := List.length_pos_of_ne_nil hread.1
          exact (ih M (by omega) (fun a => (hstep a).mono (by omega)) next).imp fun ts _ hts =>
            ⟨hts, by simp⟩
      · exact fun _ => ⟨[], a, hL, fun _ => rfl⟩
      · rintro ts₁ (_ | next) ts₂ _ hread ⟨hts₂, hnone⟩
        · rw [hread, hnone rfl]
          exact hL
        · exact hread.2 ts₂ hts₂

theorem Detects.chain {first : ι → Parser α} {step : ι → α → Parser (Option α)}
    {L : List Token → Prop} {G₁ : List Token → α → Prop} (hfirst : Detects N last? size first G₁)
    (hL : L []) (hnil : ∀ x a bounds depth, step x a bounds ⟨[], depth⟩ = .ok none ⟨[], depth⟩)
    (hstep : ∀ a, Detects N none size (fun x => step x a) (Lengthens L))
    (hjoin : ∀ ts₁ a ts₂ b, G₁ ts₁ a → L ts₂ → G (ts₁ ++ ts₂) b) :
    Detects N last? size (fun x => chain (first x) (step x)) G := by
  refine hfirst.bind (R := fun _ ts _ => L ts) (fun a => ?_) (fun a => ⟨[], a, hL⟩) hjoin
  have hrounds := Detects.counted (W := fun x n => chain.rounds (step x) n a)
    (Detects.rounds hL hnil hstep a)
  refine hrounds.redepth (fun depth _ => depth) ?_ ?_
  · intro x bounds rest depth b now hrun
    have hrun : chain.rounds (step x) rest.length a bounds ⟨rest, depth⟩ = .ok b now := hrun
    show (chain.rounds (step x) rest.length a >>= fun b => do
      modify fun now => { now with depth := depth }
      return b) bounds ⟨rest, depth⟩ = _
    rw [run_bind, hrun]
    rfl
  · intro x bounds rest depth e now hrun
    have hrun : chain.rounds (step x) rest.length a bounds ⟨rest, depth⟩ = .error e now := hrun
    refine ⟨now, ?_⟩
    show (chain.rounds (step x) rest.length a >>= fun b => do
      modify fun now => { now with depth := depth }
      return b) bounds ⟨rest, depth⟩ = _
    rw [run_bind, hrun]

end Parser

end TemplateExpr
