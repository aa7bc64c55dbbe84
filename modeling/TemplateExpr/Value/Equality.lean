import TemplateExpr.Value.Coercion

/-!
# The two equalities of values

`strictEquals` compares kind and content. Objects are compared without regard to the order of
their fields: each field of one has an equal one in the other, and there are as many. Numbers are
compared as numbers, so not-a-number equals nothing and the two zeros are equal.

`looseEquals` brings the two sides to a common kind first. It needs no recursion: the nullish values are
equal to each other alone, a boolean counts as a number, an array or object beside a number or a
text counts as its string form, and a number beside a text compares as a number.
-/

namespace TemplateExpr.Value

mutual

/-- Equality of kind and content. -/
def strictEquals : Value → Value → Bool
  | undefined, undefined => true
  | null, null => true
  | bool a, bool b => a == b
  | number a, number b => a.equal b
  | string a, string b => a == b
  | array as, array bs => itemsEqual as bs
  | object as, object bs => as.length == bs.length && fieldsWithin as bs
  | function a, function b => a == b
  | _, _ => false

/-- Equality item by item. -/
def itemsEqual : List Value → List Value → Bool
  | [], [] => true
  | a :: as, b :: bs => strictEquals a b && itemsEqual as bs
  | _, _ => false

/-- Every field on the left has an equal field on the right. -/
def fieldsWithin : Fields Value → Fields Value → Bool
  | [], _ => true
  | (key, a) :: as, bs =>
    (match Fields.get? bs key with
      | some b => strictEquals a b
      | none => false) && fieldsWithin as bs

end

theorem strictEquals_number_iff {x : Number} {v : Value} :
    (number x).strictEquals v ↔ ∃ y, v = number y ∧ x.equal y := by
  cases v <;> simp [strictEquals]

/-- A boolean counts as the number zero or one. -/
def boolAsNumber : Value → Value
  | bool b => number (if b then 1 else 0)
  | other => other

/-- Equality after bringing both sides to a common kind. -/
def looseEquals (a b : Value) : Bool :=
  if a.isNullish || b.isNullish then a.isNullish && b.isNullish
  else
    match a.boolAsNumber, b.boolAsNumber with
    | number x, string s => x.equal (.ofText s)
    | string s, number y => (Number.ofText s).equal y
    | array items, number y => (Number.ofText (array items).text).equal y
    | object fields, number y => (Number.ofText (object fields).text).equal y
    | number x, array items => x.equal (.ofText (array items).text)
    | number x, object fields => x.equal (.ofText (object fields).text)
    | array items, string t => (array items).text == t
    | object fields, string t => (object fields).text == t
    | string s, array items => s == (array items).text
    | string s, object fields => s == (object fields).text
    | a, b => strictEquals a b

/-- Strict equality for which not-a-number equals itself, as a search for an item uses it. -/
def sameItem (a b : Value) : Bool :=
  match a, b with
  | number .nan, number .nan => true
  | a, b => strictEquals a b

end TemplateExpr.Value
