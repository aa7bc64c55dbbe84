import TemplateExpr.Proofs.Eval.Outcome

/-!
# Chains that are given up

Links stand one behind the other: the receiver of each is the expression with the links before it.
An optional link on a nullish receiver gives up its chain, and every link behind it passes that on
before it looks at what it has of its own, an index or arguments. What is left of the evaluation is
the receiver, nested below one visit for each link (`GivenUp`).

* `GivenUp.link` — one more link keeps a chain given up.
* `givenUp_linked` — so do all links behind an optional one on a nullish receiver.
* `optional_link_cuts_chain` — such a chain is undefined, whatever is written in its links.
-/

namespace TemplateExpr

namespace Expr

/-- What can stand behind a receiver. -/
inductive Link where
  | field (name : String) (optional : Bool)
  | index (key : Expr)
  | method (name : String) (arguments : List Expr) (optional : Bool)
  | call (arguments : List Expr)

namespace Link

/-- A receiver with a link behind it. -/
def on (receiver : Expr) : Link → Expr
  | field name optional => .field receiver name optional
  | index key => .index receiver key
  | method name arguments optional => .methodCall receiver name arguments optional
  | call arguments => .call receiver arguments

/-- The links that can give up a chain. -/
inductive IsOptional : Link → Prop where
  | field (name : String) : IsOptional (field name true)
  | method (name : String) (arguments : List Expr) : IsOptional (method name arguments true)

end Link

/-- A receiver with links behind it, from left to right. -/
def linked (receiver : Expr) (links : List Link) : Expr := links.foldl Link.on receiver

end Expr

open TemplateExpr.Expr (Link)

theorem Value.exists_missing?_of_isNullish {v : Value} (h : v.isNullish) :
    ∃ missing, v.missing? = some missing := by
  cases v with
  | undefined => exact ⟨.undefined, rfl⟩
  | null => exact ⟨.null, rfl⟩
  | _ => cases h

/-! ## Evaluations at another depth -/

/-- The same run, so many levels deeper. -/
def Run.deeper {α : Type} (run : Run α) (levels : Nat) : Run α :=
  { run with visits := run.visits.map (· + levels) }

namespace Unbounded

/-- Where a computation starts makes no difference to it but for the depth of its visits. -/
def deeperCorrespondence : Correspondence Unbounded Unbounded where
  Rel p q := ∀ depth levels, p (depth + levels) = (q depth).deeper levels
  pure _ _ _ := rfl
  map f p q h depth levels := by
    show Unbounded.bind p (fun a => pure (f a)) (depth + levels) =
      (Unbounded.bind q (fun a => pure (f a)) depth).deeper levels
    simp only [Unbounded.bind, h, Run.deeper]
    cases (q depth).outcome <;> simp [pure]
  bind {_ _ p q f g} h hf depth levels := by
    show Unbounded.bind p f (depth + levels) = (Unbounded.bind q g depth).deeper levels
    simp only [Unbounded.bind, h, Run.deeper]
    cases (q depth).outcome with
    | error e => rfl
    | ok a => simp [hf, Run.deeper]
  fail _ _ _ := rfl
  visit {_ p q} h depth levels := by
    show Unbounded.visit p (depth + levels) = (Unbounded.visit q depth).deeper levels
    simp only [Unbounded.visit, Nat.add_right_comm depth levels 1, h, Run.deeper, List.map_cons]

variable {env : Environment} {e receiver : Expr} {n : Nat} {visits : List Nat}

/-- A chain of so many links is given up: each of them is visited, and below them there are the
given visits and no others. -/
def GivenUp (env : Environment) (e : Expr) (links : Nat) (visits : List Nat) : Prop :=
  ∀ depth, (Eval.evalLink env e : Unbounded (Option Value)) depth =
    ⟨.ok none, List.range' (depth + 1) links ++ visits.map (· + (depth + links))⟩

/-- A link does nothing behind a chain that was given up. -/
theorem visit_link_of_none {p : Unbounded (Option Value)} {next : Value → Unbounded (Option Value)}
    {depth : Nat} (h : p (depth + 1) = ⟨.ok none, visits⟩) :
    (Machine.visit (p >>= fun | none => pure none | some v => next v) : Unbounded (Option Value))
      depth = ⟨.ok none, (depth + 1) :: visits⟩ := by
  show Unbounded.visit (Unbounded.bind p _) depth = _
  simp only [Unbounded.visit, Unbounded.bind, h]
  simp [pure]

/-- An optional link gives up the chain behind a nullish receiver, or one that was given up. -/
theorem visit_optional_of_nullish {p : Unbounded (Option Value)} {next : Value → Unbounded Value}
    {key : String} {depth : Nat} {v? : Option Value} (h : p (depth + 1) = ⟨.ok v?, visits⟩)
    (hnullish : (v?.getD .undefined).isNullish) :
    (Machine.visit (p >>= fun
        | none => pure none
        | some v => Eval.withReceiver true key v (next v)) : Unbounded (Option Value)) depth =
      ⟨.ok none, (depth + 1) :: visits⟩ := by
  cases v? with
  | none => exact visit_link_of_none h
  | some v =>
    have hv : v.isNullish := hnullish
    obtain ⟨missing, hmissing⟩ := Value.exists_missing?_of_isNullish hv
    show Unbounded.visit (Unbounded.bind p _) depth = _
    simp only [Unbounded.visit, Unbounded.bind, h, Eval.withReceiver, hmissing]
    simp [pure]

/-- The visits of a chain that is given up, with one more link above them. -/
theorem range'_visits_succ (depth n : Nat) (visits : List Nat) :
    (depth + 1) :: (List.range' (depth + 1 + 1) n ++ visits.map (· + (depth + 1 + n))) =
      List.range' (depth + 1) (n + 1) ++ visits.map (· + (depth + (n + 1))) := by
  rw [List.range'_succ, List.cons_append, Nat.add_assoc depth 1 n, Nat.add_comm 1 n]

/-- **One more link keeps a chain given up**, and adds its own visit only. -/
theorem GivenUp.link (h : GivenUp env e n visits) (link : Link) :
    GivenUp env (link.on e) (n + 1) visits := by
  intro depth
  rw [← range'_visits_succ]
  cases link with
  | field name optional => exact visit_link_of_none (h (depth + 1))
  | index key => exact visit_link_of_none (h (depth + 1))
  | method name arguments optional => exact visit_link_of_none (h (depth + 1))
  | call arguments => exact visit_link_of_none (h (depth + 1))

theorem GivenUp.linked (h : GivenUp env e n visits) (links : List Link) :
    GivenUp env (e.linked links) (n + links.length) visits := by
  induction links generalizing e n with
  | nil => exact h
  | cons link links ih =>
    have hlinks := ih (h.link link)
    rwa [Nat.add_assoc, Nat.add_comm 1] at hlinks

/-- An optional link on a nullish receiver gives up the chain. -/
theorem givenUp_on {first : Link} (hfirst : first.IsOptional) {v? : Option Value}
    (hreceiver : (Eval.evalLink env receiver : Unbounded (Option Value)) 0 = ⟨.ok v?, visits⟩)
    (hnullish : (v?.getD .undefined).isNullish) :
    GivenUp env (first.on receiver) 1 visits := by
  intro depth
  have hbelow : (Eval.evalLink env receiver : Unbounded (Option Value)) (depth + 1) =
      ⟨.ok v?, visits.map (· + (depth + 1))⟩ := by
    rw [← Nat.zero_add (depth + 1), deeperCorrespondence.evalLink env receiver 0, hreceiver]
    simp [Run.deeper]
  cases hfirst with
  | field name => exact visit_optional_of_nullish hbelow hnullish
  | method name arguments => exact visit_optional_of_nullish hbelow hnullish

/-- **Behind an optional link on a nullish receiver every chain is given up.** -/
theorem givenUp_linked {first : Link} (hfirst : first.IsOptional) (links : List Link)
    {v? : Option Value}
    (hreceiver : (Eval.evalLink env receiver : Unbounded (Option Value)) 0 = ⟨.ok v?, visits⟩)
    (hnullish : (v?.getD .undefined).isNullish) :
    GivenUp env (receiver.linked (first :: links)) (first :: links).length visits := by
  have h := (givenUp_on hfirst hreceiver hnullish).linked links
  rwa [Nat.add_comm] at h

end Unbounded

/-! ## Chains within limits -/

/-- An expression that evaluates to a value does so as a link, unless that value is undefined
because its chain was given up. -/
theorem exists_evalLink_of_unboundedRun {env : Environment} {e : Expr} {v : Value}
    (h : (unboundedRun env e).outcome = .ok v) :
    ∃ v?, v?.getD .undefined = v ∧ (Eval.evalLink env e : Unbounded (Option Value)) 0 =
      ⟨.ok v?, (unboundedRun env e).visits⟩ := by
  change (Unbounded.bind (Eval.evalLink env e) (fun v? => pure (v?.getD .undefined)) 0).outcome =
    _ at h
  show ∃ v?, _ ∧ _ = Run.mk _
    (Unbounded.bind (Eval.evalLink env e) (fun v? => pure (v?.getD .undefined)) 0).visits
  unfold Unbounded.bind at h ⊢
  generalize (Eval.evalLink env e : Unbounded (Option Value)) 0 = run at h ⊢
  obtain ⟨outcome, visits⟩ := run
  cases outcome with
  | error error => cases h
  | ok v? =>
    cases h
    exact ⟨v?, rfl, by simp [pure]⟩

/-- The run of a chain that is given up: its links one below the other, and then its receiver. -/
theorem unboundedRun_linked {env : Environment} {first : Link} (hfirst : first.IsOptional)
    (links : List Link) {receiver : Expr} {v : Value}
    (hreceiver : (unboundedRun env receiver).outcome = .ok v) (hnullish : v.isNullish) :
    unboundedRun env (receiver.linked (first :: links)) =
      ⟨.ok .undefined, List.range' 1 (first :: links).length ++
        (unboundedRun env receiver).visits.map (· + (first :: links).length)⟩ := by
  obtain ⟨v?, rfl, hlink⟩ := exists_evalLink_of_unboundedRun hreceiver
  have hgivenUp := Unbounded.givenUp_linked hfirst links hlink hnullish 0
  show Unbounded.bind (Eval.evalLink env _) (fun v? => pure (v?.getD .undefined)) 0 = _
  unfold Unbounded.bind
  simp only [hgivenUp, Nat.zero_add]
  simp [pure]

/-- One step and one level for each link, beyond what the receiver takes, are enough. -/
theorem suffice_linked {env : Environment} {enough limits : Limits} {first : Link}
    (hfirst : first.IsOptional) (links : List Link) {receiver : Expr} {v : Value} {steps : Nat}
    (hreceiver : evaluate env enough receiver = (.ok v, steps)) (hnullish : v.isNullish)
    (hsteps : enough.maxSteps + (first :: links).length ≤ limits.maxSteps)
    (hdepth : enough.maxDepth + (first :: links).length ≤ limits.maxDepth) :
    limits.Suffice env (receiver.linked (first :: links)) := by
  obtain ⟨houtcome, hlength, hle, hdepths⟩ := run_of_evaluate_eq_ok hreceiver
  have hrun := unboundedRun_linked hfirst links houtcome hnullish
  have hnone : limits.firstRefused? 0
      (unboundedRun env (receiver.linked (first :: links))).visits = none := by
    rw [hrun, Limits.firstRefused?_eq_none_iff (by simp at hsteps ⊢; omega)]
    intro depth hmem
    simp only [List.mem_append, List.mem_range', List.mem_map] at hmem
    rcases hmem with ⟨i, hi, rfl⟩ | ⟨below, hbelow, rfl⟩
    · omega
    · have := hdepths below hbelow
      omega
  intro limit hstopped
  rw [evaluate_eq_firstRefused?, hnone, hrun] at hstopped
  cases hstopped

/-- **An optional link cuts the whole rest of its chain.** Where the receiver of an optional link is
nullish, a chain with any links behind it is undefined, in the steps of the receiver and one for each
link. The visits of its links and of its receiver are all there are, so the indices and arguments in
the links are not evaluated: a chain of as many other links comes to the same within any limits. -/
theorem optional_link_cuts_chain (env : Environment) (first : Link) (links : List Link)
    (receiver : Expr) (enough : Limits) (v : Value) (steps : Nat) (hfirst : first.IsOptional)
    (hreceiver : evaluate env enough receiver = (.ok v, steps)) (hnullish : v.isNullish) :
    let chain := receiver.linked (first :: links)
    let count := (first :: links).length
    (∀ limits : Limits, limits.Suffice env chain →
      evaluate env limits chain = (.ok .undefined, steps + count)) ∧
    (∀ limits : Limits, enough.maxSteps + count ≤ limits.maxSteps →
      enough.maxDepth + count ≤ limits.maxDepth → limits.Suffice env chain) ∧
    (unboundedRun env chain).visits =
      List.range' 1 count ++ (unboundedRun env receiver).visits.map (· + count) ∧
    ∀ (first' : Link) (links' : List Link), first'.IsOptional → links'.length = links.length →
      ∀ limits : Limits, evaluate env limits (receiver.linked (first' :: links')) =
        evaluate env limits chain := by
  intro chain count
  obtain ⟨houtcome, hlength, -, -⟩ := run_of_evaluate_eq_ok hreceiver
  have hrun := unboundedRun_linked hfirst links houtcome hnullish
  refine ⟨fun limits hlimits => ?_, fun limits => suffice_linked hfirst links hreceiver hnullish,
    congrArg Run.visits hrun, fun first' links' hfirst' hcount limits => ?_⟩
  · rw [evaluate_eq_of_suffice hlimits, hrun, List.length_append, List.length_range',
      List.length_map, hlength, Nat.add_comm]
  · have hrun' := unboundedRun_linked hfirst' links' houtcome hnullish
    rw [List.length_cons, hcount, ← List.length_cons, ← hrun] at hrun'
    rw [evaluate_eq_firstRefused?, evaluate_eq_firstRefused?, hrun']

/-- The receiver is a chain that is given up itself; names without a meaning, a call of what is no
function and a property of null stand in the links behind it. -/
theorem optional_link_cuts_chain_of_unbound_names :
    let env : Environment := ⟨.ofFields [("a", .object [("b", .null)])], ⟨0, 0⟩⟩
    let receiver : Expr := .field (.field (.identifier "a") "b" false) "c" true
    let unbound : Expr := .identifier "unbound"
    let first : Link := .method "d" [unbound] true
    let links : List Link := [.index (.field .null "e" false), .call [.call unbound [unbound]],
      .field "f" false, .method "g" [unbound, unbound] false]
    evaluate env ⟨3, 3⟩ receiver = (.ok .undefined, 3) ∧
      evaluate env ⟨8, 8⟩ (receiver.linked (first :: links)) = (.ok .undefined, 8) := by
  intro env receiver unbound first links
  have hreceiver : evaluate env ⟨3, 3⟩ receiver = (.ok .undefined, 3) := by rfl
  have hchain := optional_link_cuts_chain env first links receiver ⟨3, 3⟩ .undefined 3
    (.method "d" [unbound]) hreceiver rfl
  exact ⟨hreceiver, hchain.1 ⟨8, 8⟩ (hchain.2.1 ⟨8, 8⟩ (Nat.le_refl 8) (Nat.le_refl 8))⟩

end TemplateExpr
