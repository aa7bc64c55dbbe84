import TemplateExpr.Value.Basic

/-!
# Scopes

A scope is its own bindings and those of the scopes around it. It is a value: a scope made from
another one holds the bindings the other had at that moment, and writing changes the innermost
bindings of one scope and nothing else. A name means its innermost binding (`lookup?`).
-/

namespace TemplateExpr

/-- Bindings in nested scopes. -/
structure Scope where
  /-- The innermost bindings. -/
  locals : Fields Value
  /-- The bindings of the scopes around it, the nearest first. -/
  enclosing : List (Fields Value)

namespace Scope

/-- The scope without bindings. -/
def empty : Scope := ⟨[], []⟩

instance : Inhabited Scope := ⟨empty⟩

/-- A scope with the given bindings and none around it. -/
def ofFields (fields : Fields Value) : Scope := ⟨fields, []⟩

/-- All bindings, the innermost first. -/
def frames (scope : Scope) : List (Fields Value) := scope.locals :: scope.enclosing

/-- What a name means: its innermost binding. -/
def lookup? (scope : Scope) (name : String) : Option Value :=
  scope.frames.findSome? (·.get? name)

/-- What a name means, undefined for one that is not bound. -/
def get (scope : Scope) (name : String) : Value := (scope.lookup? name).getD .undefined

def has (scope : Scope) (name : String) : Bool := (scope.lookup? name).isSome

/-- Writes an innermost binding. -/
def set (scope : Scope) (name : String) (value : Value) : Scope :=
  { scope with locals := scope.locals.insert name value }

/-- Writes innermost bindings, one after the other. -/
def extend (scope : Scope) (pairs : List (String × Value)) : Scope :=
  { scope with locals := scope.locals.insertAll pairs }

/-- A scope inside this one. -/
def child (scope : Scope) (pairs : List (String × Value)) : Scope :=
  ⟨Fields.ofPairs pairs, scope.frames⟩

/-- The scope around this one. -/
def parent? (scope : Scope) : Option Scope :=
  match scope.enclosing with
  | [] => none
  | locals :: enclosing => some ⟨locals, enclosing⟩

/-- Every visible binding: the outermost first, and in its place the innermost value. -/
def flatten (scope : Scope) : Fields Value :=
  scope.frames.foldr (fun frame flat => flat.insertAll frame) []

/-- Every visible name, in ascending order. -/
def names (scope : Scope) : List String := scope.flatten.keys.mergeSort fun a b => !(b < a)

theorem lookup?_child (scope : Scope) (pairs : List (String × Value)) (name : String) :
    (scope.child pairs).lookup? name =
      ((Fields.ofPairs pairs).get? name).or (scope.lookup? name) := by
  simp only [lookup?, child, frames, List.findSome?_cons]
  cases (Fields.ofPairs pairs).get? name <;> rfl

theorem lookup?_set (scope : Scope) (name : String) (value : Value) (other : String) :
    (scope.set name value).lookup? other =
      if name = other then some value else scope.lookup? other := by
  simp only [lookup?, set, frames, List.findSome?_cons, Fields.get?_insert]
  by_cases h : name = other <;> simp [h]

end Scope

end TemplateExpr
