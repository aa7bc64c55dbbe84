import TemplateExpr.Proofs.Console.Requests
import TemplateExpr.Proofs.Evaluator.Dependence
import TemplateExpr.Proofs.Scope.Flatten

/-!
# What a session keeps from line to line

A session is a run of lines, each answered at a moment of its own. A line leaves the evaluator as it
is, unless it binds a name (`next_of_binds`, `next_of_not_binds`), so after any number of lines the
evaluator is the one at the start with the bindings of these lines written into it, one after the
other (`after_eq_extend`). What a line prints is a function of the line, the visible bindings and the
configuration, and of the moment only if the line names a function that tells the time
(`reply_of_alike`, `reply_of_timeless`). The farewell comes once, at the end
(`session_runs_until_quit`).
-/

namespace TemplateExpr.Console.Session

/-! ## One line -/

/-- What a line prints at the given moment. -/
def reply (ev : Evaluator) (line : Instant × String) : String :=
  (answer line.1 ev (Request.ofLine line.2)).1

/-- The evaluator behind a line. -/
def next (ev : Evaluator) (line : Instant × String) : Evaluator :=
  (answer line.1 ev (Request.ofLine line.2)).2

variable {ev ev' : Evaluator} {line : Instant × String} {lines : List (Instant × String)}

/-- A line that binds a name writes this binding. -/
theorem next_of_binds {name : String} {v : Value} (h : Binds line.2 name v) :
    next ev line = ev.extend [(name, v)] := by
  obtain ⟨json, document, hrequest, hjson, rfl⟩ := ofLine_of_binds h
  simp only [next, hrequest, answer, hjson]

/-- Any other line leaves the evaluator as it is. -/
theorem next_of_not_binds (h : ∀ name v, ¬ Binds line.2 name v) : next ev line = ev := by
  unfold next
  cases hrequest : Request.ofLine line.2 with
  | bind name json =>
    cases hjson : Json.ofText? json with
    | none => simp only [answer, hjson]
    | some document => exact absurd (binds_of_ofLine_eq_bind hrequest hjson) (h _ _)
  | _ => rfl

/-! ## What a line reads -/

/-- The sources of the expressions that a request evaluates. -/
def Request.sources : Request → List String
  | .template text => Template.tokens text.toList
  | .expression text => [text]
  | _ => []

/-- The name stands in an expression of the line. -/
def Names (config : Config) (line name : String) : Prop :=
  ∃ source ∈ (Request.ofLine line).sources, ∃ e,
    parse (Text.trimmed source) config.maxDepth = .ok e ∧ name ∈ e.referencedNames

theorem reply_congr (hconfig : ev.config = ev'.config)
    (hlisting : ev.scope.flatten = ev'.scope.flatten) {now now' : Instant} {line : String}
    (hrun : ∀ source ∈ (Request.ofLine line).sources,
      ev.run now (Text.trimmed source) = ev'.run now' (Text.trimmed source)) :
    reply ev (now, line) = reply ev' (now', line) := by
  unfold reply
  generalize Request.ofLine line = request at hrun
  cases request with
  | bind name json => simp only [answer]; cases Json.ofText? json <;> rfl
  | bindings => simp only [answer, hlisting]
  | template text =>
    have htemplate : ∀ options, ev.evaluate now options (.string text) =
      ev'.evaluate now' options (.string text) := Evaluator.evaluate_congr hconfig hrun
    simp only [answer, htemplate]
  | expression text =>
    have htext := hrun text (List.mem_singleton_self text)
    simp only [answer, Evaluator.evaluateExpression_congr hconfig htext]
  | _ => rfl

/-- **What a line prints depends on the evaluator only through its configuration and the visible
bindings.** -/
theorem reply_of_alike (h : ev.Alike ev') (line : Instant × String) :
    reply ev' line = reply ev line :=
  (reply_congr h.config h.listing fun _ _ => Evaluator.run_eq_of_alike h line.1 _).symm

/-- **It depends on the moment only through the functions that tell the time.** -/
theorem reply_of_timeless (hscope : ev.scope.Timeless) {line : String}
    (h : ∀ f : Formula, f.ReadsClock → ¬ Names ev.config line f.name) (now now' : Instant) :
    reply ev (now, line) = reply ev (now', line) := by
  refine reply_congr rfl rfl fun source hsource => ?_
  refine Evaluator.run_eq_of_timeless hscope (fun e hparse f hf hname => ?_) now now'
  exact h f hf ⟨source, hsource, e, hparse, hname⟩

theorem timeless_next (h : ev.scope.Timeless) (line : Instant × String) :
    (next ev line).scope.Timeless := by
  by_cases hbinds : ∃ name v, Binds line.2 name v
  · obtain ⟨name, v, hbinds⟩ := hbinds
    rw [next_of_binds hbinds]
    intro other w hw
    change (ev.scope.set name v).lookup? other = some w at hw
    rw [Scope.lookup?_set] at hw
    split at hw
    · cases hw
      cases hbinds
      exact Value.timeless_ofJson _
    · exact h other w hw
  · rw [next_of_not_binds fun name v hline => hbinds ⟨name, v, hline⟩]
    exact h

/-! ## Any number of lines -/

/-- What lines print, one after the other. -/
def replies : Evaluator → List (Instant × String) → List String
  | _, [] => []
  | ev, line :: lines => reply ev line :: replies (next ev line) lines

/-- The evaluator behind lines. -/
def after (ev : Evaluator) (lines : List (Instant × String)) : Evaluator := lines.foldl next ev

/-- The bindings that lines make, in their order. -/
inductive Bindings : List String → List (String × Value) → Prop where
  | none : Bindings [] []
  | binds {line : String} {lines : List String} {name : String} {v : Value}
      {pairs : List (String × Value)} (h : Binds line name v) (more : Bindings lines pairs) :
      Bindings (line :: lines) ((name, v) :: pairs)
  | keeps {line : String} {lines : List String} {pairs : List (String × Value)}
      (h : ∀ name v, ¬ Binds line name v) (more : Bindings lines pairs) :
      Bindings (line :: lines) pairs

theorem exists_bindings (lines : List String) : ∃ pairs, Bindings lines pairs := by
  induction lines with
  | nil => exact ⟨[], .none⟩
  | cons line lines ih =>
    obtain ⟨pairs, hpairs⟩ := ih
    by_cases h : ∃ name v, Binds line name v
    · obtain ⟨name, v, hbinds⟩ := h
      exact ⟨(name, v) :: pairs, .binds hbinds hpairs⟩
    · exact ⟨pairs, .keeps (fun name v hbinds => h ⟨name, v, hbinds⟩) hpairs⟩

/-- **Lines write their bindings, and change nothing else.** -/
theorem after_eq_extend {pairs : List (String × Value)} (h : Bindings (lines.map Prod.snd) pairs)
    (ev : Evaluator) : after ev lines = ev.extend pairs := by
  induction lines generalizing ev pairs with
  | nil =>
    cases h
    rfl
  | cons line lines ih =>
    show after (next ev line) lines = _
    cases h with
    | binds hbinds more => rw [next_of_binds hbinds, ih more]; rfl
    | keeps hkeeps more => rw [next_of_not_binds hkeeps, ih more]

theorem config_after (ev : Evaluator) (lines : List (Instant × String)) :
    (after ev lines).config = ev.config := by
  obtain ⟨pairs, hpairs⟩ := exists_bindings (lines.map Prod.snd)
  rw [after_eq_extend hpairs]
  rfl

theorem timeless_after (h : ev.scope.Timeless) (lines : List (Instant × String)) :
    (after ev lines).scope.Timeless := by
  induction lines generalizing ev with
  | nil => exact h
  | cons line lines ih => exact ih (timeless_next h line)

/-! ## The end -/

theorem transcript_of_quits (h : Quits line.2) (unread : List (Instant × String)) :
    transcript ev (line :: unread) = farewell := by
  have hrequest := ofLine_eq_quit_iff.mpr h
  obtain ⟨now, line⟩ := line
  simp only [transcript, hrequest, if_true]
  rfl

/-- Lines up to a request to quit are answered one after the other. -/
theorem transcript_append (h : ∀ line ∈ lines, ¬ Quits line.2) (ev : Evaluator)
    (unread : List (Instant × String)) :
    transcript ev (lines ++ unread) =
      String.join (replies ev lines) ++ transcript (after ev lines) unread := by
  induction lines generalizing ev with
  | nil => exact String.empty_append.symm
  | cons line lines ih =>
    obtain ⟨hline, hlines⟩ := List.forall_mem_cons.mp h
    obtain ⟨now, line⟩ := line
    have hrequest : Request.ofLine line ≠ .quit := fun hquit => hline (ofLine_eq_quit_iff.mp hquit)
    have hcons : transcript ev ((now, line) :: (lines ++ unread)) =
        reply ev (now, line) ++ transcript (next ev (now, line)) (lines ++ unread) := by
      simp only [transcript, hrequest, if_false]
      rfl
    rw [List.cons_append, hcons, ih hlines, replies, String.join_cons, String.append_assoc]
    rfl

/-! ### Nothing else is answered with the farewell

The other answers have a character that the farewell does not have. The exception are the numbers,
which do not have its first letter. -/

theorem ne_farewell_of_mem {text : String} {c : Char} (hc : c ∉ farewell.toList)
    (h : c ∈ text.toList) : text ≠ farewell := by
  rintro rfl
  exact hc h

theorem ne_farewell_of_not_mem {text : String} (h : 'G' ∉ text.toList) :
    text ++ "\n" ≠ farewell := by
  intro heq
  have hmem : 'G' ∈ (text ++ "\n").toList := heq ▸ by decide
  rw [String.toList_append, List.mem_append] at hmem
  exact hmem.elim h (by decide)

theorem initial_not_mem_toDigits (n : Nat) : 'G' ∉ Nat.toDigits 10 n := by
  intro hmem
  exact absurd (Nat.isDigit_of_mem_toDigits (by decide) (by decide) hmem) (by decide)

theorem initial_not_mem_positional {digits : List Char} (h : 'G' ∉ digits) (exponent : Int) :
    'G' ∉ Layout.json.positional digits exponent := by
  have htake : ∀ n, 'G' ∉ digits.take n := fun n hmem => h (List.mem_of_mem_take hmem)
  have hdrop : ∀ n, 'G' ∉ digits.drop n := fun n hmem => h (List.mem_of_mem_drop hmem)
  unfold Layout.positional
  split
  · simp [Layout.zeros, h, Layout.json]
  · simp only
    split
    · simp [htake, hdrop]
    · simp [Layout.zeros, h]

theorem initial_not_mem_scientific {digits : List Char} (h : 'G' ∉ digits) (lead : Int) :
    'G' ∉ Layout.json.scientific digits lead := by
  have hlead := initial_not_mem_toDigits lead.natAbs
  unfold Layout.scientific
  simp only
  split <;> split <;> simp_all [Layout.json]

theorem initial_not_mem_chars (n : Number) : 'G' ∉ Layout.json.chars n := by
  cases n with
  | nan => decide
  | infinite negative => cases negative <;> decide
  | finite x =>
    unfold Layout.chars Layout.magnitude
    simp only
    split
    · cases x.negative <;> decide
    · rw [List.mem_append, not_or]
      refine ⟨by cases x.negative <;> decide, ?_⟩
      split
      · exact initial_not_mem_positional (initial_not_mem_toDigits _) _
      · exact initial_not_mem_scientific (initial_not_mem_toDigits _) _

theorem initial_not_mem_numberText (n : Json.Numeral) : 'G' ∉ (Json.numberText n).toList := by
  unfold Json.numberText
  split
  · rw [Int.toString_eq_repr, Int.repr_eq_if]
    split <;> simp [Nat.repr_eq_ofList_toDigits, initial_not_mem_toDigits]
  · rw [Layout.text, String.toList_ofList]
    exact initial_not_mem_chars _

theorem render_ne_farewell (v : Value) : render v ++ "\n" ≠ farewell := by
  cases v with
  | undefined | null => decide
  | bool b => cases b <;> decide
  | function f => cases f <;> decide
  | number n =>
    refine ne_farewell_of_not_mem ?_
    simp only [render, Value.toJson, Value.numberToJson, Json.pretty]
    split
    · split
      · rw [Json.prettyAt]
        exact initial_not_mem_numberText _
      · rw [Json.prettyAt]
        exact initial_not_mem_numberText _
    · decide
  | string s =>
    refine ne_farewell_of_mem (c := '"') (by decide) ?_
    simp [render, Value.toJson, Json.pretty, Json.prettyAt, Json.quoted]
  | array items =>
    refine ne_farewell_of_mem (c := '[') (by decide) ?_
    simp only [render, Value.toJson, Json.pretty, Json.prettyAt, Json.bracketed]
    split <;> simp
  | object fields =>
    refine ne_farewell_of_mem (c := '\x7b') (by decide) ?_
    simp only [render, Value.toJson, Json.pretty, Json.prettyAt, Json.bracketed]
    split <;> simp

/-- Only a request to quit is answered with the farewell. -/
theorem reply_ne_farewell (h : ¬ Quits line.2) (ev : Evaluator) : reply ev line ≠ farewell := by
  have hblank : ' ' ∉ farewell.toList := by decide
  have herror : ∀ message, errorLine message ≠ farewell := fun message =>
    ne_farewell_of_mem hblank (by simp [errorLine])
  have hresult : ∀ result, resultLine result ≠ farewell := by
    intro result
    cases result with
    | ok v => exact render_ne_farewell v
    | error e => exact herror _
  unfold reply
  cases hrequest : Request.ofLine line.2 with
  | quit => exact absurd (ofLine_eq_quit_iff.mp hrequest) h
  | nothing =>
    show "" ≠ farewell
    decide
  | help =>
    show helpText ≠ farewell
    decide
  | bind name json =>
    simp only [answer]
    split
    · exact ne_farewell_of_mem hblank (by simp)
    · exact herror _
  | incompleteBind => exact herror _
  | bindings =>
    simp only [answer]
    cases ev.scope.flatten with
    | nil => decide
    | cons field fields => exact ne_farewell_of_mem hblank (by simp [String.join_cons])
  | functions =>
    refine ne_farewell_of_mem hblank ?_
    simp only [answer, String.toList_append, List.mem_append]
    exact .inl (.inl (by decide))
  | unknown command => exact herror _
  | template text =>
    simp only [answer]
    exact hresult _
  | expression text =>
    simp only [answer]
    exact hresult _

/-- A session answers the lines up to the first request to quit. -/
theorem exists_answered (lines : List (Instant × String)) :
    ∃ answered unread, lines = answered ++ unread ∧ (∀ line ∈ answered, ¬ Quits line.2) ∧
      ∀ line ∈ unread.head?, Quits line.2 := by
  induction lines with
  | nil => exact ⟨[], [], rfl, by simp, by simp⟩
  | cons line lines ih =>
    by_cases h : Quits line.2
    · exact ⟨[], line :: lines, rfl, by simp, by simpa using h⟩
    · obtain ⟨answered, unread, rfl, hanswered, hunread⟩ := ih
      exact ⟨line :: answered, unread, rfl, List.forall_mem_cons.mpr ⟨h, hanswered⟩, hunread⟩

theorem transcript_of_head_quits {unread : List (Instant × String)}
    (h : ∀ line ∈ unread.head?, Quits line.2) (ev : Evaluator) :
    transcript ev unread = farewell := by
  cases unread with
  | nil => rfl
  | cons line unread => exact transcript_of_quits (h line rfl) unread

/-- **Only successful bindings change a session, and it ends at the first request to quit.** The
lines before that, each at its moment, are answered one after the other, then comes the farewell,
which is no answer to any of them. After any number of these lines the evaluator is the first one
with the bindings that the lines make written into it in their order, and what the next line prints
depends on the visible bindings and the configuration. The moment makes a difference to a line with
the name of one of the two functions that tell the time, or if a binding holds such a function to
begin with. -/
theorem session_runs_until_quit (ev : Evaluator) (lines : List (Instant × String)) :
    ∃ answered unread, lines = answered ++ unread ∧
      (∀ line ∈ answered, ¬ Quits line.2) ∧ (∀ line ∈ unread.head?, Quits line.2) ∧
      transcript ev lines = String.join (replies ev answered) ++ farewell ∧
      (∀ done left, answered = done ++ left → ∃ pairs, Bindings (done.map Prod.snd) pairs ∧
        after ev done = ev.extend pairs ∧ (after ev done).config = ev.config ∧
        ∀ name, (after ev done).scope.lookup? name =
          (Fields.lastWrite? pairs name).or (ev.scope.lookup? name)) ∧
      ∀ done line left, answered = done ++ line :: left →
        reply (after ev done) line ≠ farewell ∧
        (∀ ev', (after ev done).Alike ev' → reply ev' line = reply (after ev done) line) ∧
        (ev.scope.Timeless → ¬ Names ev.config line.2 "TODAY" → ¬ Names ev.config line.2 "NOW" →
          ∀ now, reply (after ev done) (now, line.2) = reply (after ev done) line) := by
  obtain ⟨answered, unread, rfl, hanswered, hunread⟩ := exists_answered lines
  refine ⟨answered, unread, rfl, hanswered, hunread, ?_, ?_, ?_⟩
  · rw [transcript_append hanswered, transcript_of_head_quits hunread]
  · rintro done left -
    obtain ⟨pairs, hpairs⟩ := exists_bindings (done.map Prod.snd)
    have hafter := after_eq_extend hpairs ev
    refine ⟨pairs, hpairs, hafter, config_after ev done, fun name => ?_⟩
    rw [hafter]
    exact Scope.lookup?_extend ev.scope pairs name
  · rintro done line left rfl
    have hline : ¬ Quits line.2 := hanswered line (by simp)
    refine ⟨reply_ne_farewell hline _, fun ev' h => reply_of_alike h line, ?_⟩
    intro hscope htoday hnow now
    refine reply_of_timeless (timeless_after hscope done) (fun f hf => ?_) now line.1
    rw [config_after]
    rcases hf with rfl | rfl
    · exact hnow
    · exact htoday

/-- Neither the failing expression nor the incomplete binding touches `a`, and the last line is not
read. -/
example :
    let now : Instant := ⟨0, 0⟩
    transcript (.ofScope .empty) [(now, ":set a [1]"), (now, "a[0] +"), (now, ":set a"),
        (now, "a[0]"), (now, " :q now"), (now, "a")] =
      "a = [1]\n"
        ++ "Error: Failed to evaluate expression \"a[0] +\": "
        ++ "Parser error at position 6: Unexpected end of expression\n"
        ++ "Error: usage: :set <name> <json>\n"
        ++ "1\n"
        ++ "Goodbye!\n" := by
  decide +kernel

end TemplateExpr.Console.Session
