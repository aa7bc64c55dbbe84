import TemplateExpr.Error

/-!
# Computations with an environment and a state

The evaluator and the parser both read an environment, change a state, and fail without losing it.
What a sequence of two computations does, and what a function does on a result, is the same for
both.
-/

namespace TemplateExpr

variable {ρ ε σ α β : Type}

theorem run_bind (p : ReaderT ρ (EStateM ε σ) α) (f : α → ReaderT ρ (EStateM ε σ) β) (r : ρ)
    (s : σ) :
    (p >>= f) r s =
      match p r s with
      | .ok a s => f a r s
      | .error e s => .error e s := by
  show EStateM.bind (p r) (fun a => f a r) s = _
  unfold EStateM.bind
  cases p r s <;> rfl

theorem run_map (p : ReaderT ρ (EStateM ε σ) α) (f : α → β) (r : ρ) (s : σ) :
    (f <$> p) r s =
      match p r s with
      | .ok a s => .ok (f a) s
      | .error e s => .error e s := by
  show EStateM.map f (p r) s = _
  unfold EStateM.map
  cases p r s <;> rfl

theorem run_get (r : ρ) (s : σ) : (get : ReaderT ρ (EStateM ε σ) σ) r s = .ok s s := rfl

end TemplateExpr
