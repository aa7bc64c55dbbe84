import TemplateExpr.Library.Call
import TemplateExpr.Proofs.Calendar.Moments
import TemplateExpr.Proofs.Number.FixedPlaces

/-!
# The library, access by access

The functions of the library once more, with every access that might fail written as one that does
(`Checked.call?`): the slice of a substring, the pairs of a `SWITCH`, the cuts in a number with fixed
places, and the 64-bit words in which dates are counted. None of them ever fails, whatever the
arguments are, and casts that saturate make no difference (`Checked.call?_eq`).
-/

namespace TemplateExpr

open Library

namespace Checked

/-! ## Slices -/

def substring? (arguments : Arguments) : Option String := do
  let text := chars arguments 0
  let start := clamp text.length (arguments.arg 1).toNumber
  let stop :=
    match arguments.arg 2 with
    | .undefined => text.length
    | length => clamp text.length (.ofNat start + length.toNumber)
  return .ofList (← slice? text start (max stop start))

theorem clamp_le (length : Nat) (n : Number) : clamp length n ≤ length := by
  unfold clamp
  split
  · exact Nat.zero_le length
  · split <;> omega
  · split <;> omega

/-- A slice that would stop before it starts is empty. -/
theorem slice?_max {α : Type} {items : List α} {start stop : Nat} (hstart : start ≤ items.length)
    (hstop : stop ≤ items.length) :
    slice? items start (max stop start) = some ((items.take stop).drop start) := by
  rw [slice?_eq (Nat.le_max_right stop start) (Nat.max_le.mpr ⟨hstop, hstart⟩)]
  rcases Nat.le_total start stop with h | h
  · rw [Nat.max_eq_left h]
  · rw [Nat.max_eq_right h, List.drop_take_self, List.drop_eq_nil_of_le (by simp; omega)]

theorem substring?_eq (arguments : Arguments) :
    substring? arguments = some (substring arguments) := by
  unfold substring? substring
  dsimp only
  rw [slice?_max (clamp_le _ _)]
  · rfl
  · split
    · exact Nat.le_refl _
    · exact clamp_le _ _

/-! ## Pairs -/

/-- Looks at so many pairs of cases and values, from one of them on, and then for a value without a
case. -/
def chooseFrom? (subject : Value) (cases : List Value) : Nat → Nat → Option Value
  | 0, _ => do if cases.length % 2 = 1 then cases[← sub? cases.length 1]? else return .undefined
  | pairs + 1, i => do
    let pair ← slice? cases (2 * i) (2 * i + 2)
    if (← pair[0]?).strictEquals subject then pair[1]? else chooseFrom? subject cases pairs (i + 1)

def switch? (arguments : Arguments) : Option Value :=
  let cases := (slice? arguments 1 arguments.length).getD []
  chooseFrom? (arguments.arg 0) cases (cases.length / 2) 0

theorem chooseFrom?_eq (subject : Value) : ∀ (rest front : List Value) {i : Nat},
    front.length = 2 * i →
      chooseFrom? subject (front ++ rest) (rest.length / 2) i = some (choose subject rest)
  | [], front, i, hfront => by
    have heven : (front ++ []).length % 2 ≠ 1 := by
      rw [List.append_nil]
      omega
    exact if_neg heven
  | [fallback], front, i, hfront => by
    have hodd : (front ++ [fallback]).length % 2 = 1 := by
      rw [List.length_append, List.length_singleton]
      omega
    have hlast : sub? (front ++ [fallback]).length 1 = some front.length := by simp [sub?]
    rw [show [fallback].length / 2 = 0 by simp, chooseFrom?, if_pos hodd, hlast]
    simp [choose]
  | case :: value :: rest, front, i, hfront => by
    have hpairs : (case :: value :: rest).length / 2 = rest.length / 2 + 1 := by
      simp only [List.length_cons]
      omega
    have hpair : slice? (front ++ case :: value :: rest) (2 * i) (2 * i + 2) =
        some [case, value] := by
      rw [slice?_eq (by omega) (by simp; omega), ← hfront, List.take_length_add_append,
        List.drop_left]
      rfl
    have hnext := chooseFrom?_eq subject rest (front ++ [case, value]) (i := i + 1) (by simp; omega)
    rw [List.append_assoc] at hnext
    rw [hpairs, chooseFrom?, hpair, choose]
    show (if case.strictEquals subject then some value else _) = _
    split
    · rfl
    · exact hnext

theorem switch?_eq (arguments : Arguments) : switch? arguments = some (switch arguments) := by
  have hcases : (slice? arguments 1 arguments.length).getD [] = List.drop 1 arguments := by
    cases arguments with
    | nil => rfl
    | cons subject cases => simp [slice?]
  unfold switch? switch
  rw [hcases]
  exact chooseFrom?_eq (arguments.arg 0) (List.drop 1 arguments) [] rfl

/-! ## Fixed places -/

def fixed? (n : Number) (places : Nat) : Option String :=
  match n with
  | .finite x =>
    if x.units < Nat.pow 10 21 * Number.unitsPerOne then do
      let negative := x.negative && x.significand != 0
      return .ofList ((if negative then ['-'] else []) ++ (← fixedMagnitude? x places))
    else some n.text
  | n => some n.text

def withPlaces? (value places : Number) : Option (Except ExprError String) :=
  match places.places? with
  | some places => (fixed? value places).map .ok
  | none => some (.error (.type .fractionDigits))

theorem fixed?_eq (n : Number) (places : Nat) : fixed? n places = some (n.fixed places) := by
  cases n with
  | finite x =>
    simp only [fixed?, Number.fixed, fixedMagnitude?_eq]
    split <;> rfl
  | _ => rfl

theorem withPlaces?_eq (value places : Number) :
    withPlaces? value places = some (withPlaces value places) := by
  unfold withPlaces? withPlaces
  cases places.places? with
  | none => rfl
  | some places => simp only [fixed?_eq, Option.map_some]

/-! ## Dates -/

/-- The moment that a value stands for, its milliseconds cast to a word. -/
def toInstant? : Value → Option Instant
  | .number (.finite x) => Instant.ofMillis? (saturate x.toInt)
  | .string s => Instant.ofText? s
  | _ => none

def datePart (part : Date → Int) (arguments : Arguments) : Number :=
  match toInstant? (arguments.arg 0) with
  | some t => .ofInt (part t.date)
  | none => .nan

/-- The milliseconds from one moment to another, a word, and their magnitude, another one. -/
def millisBetween? (start finish : Instant) : Option Nat := do
  let millis ← word? ((start.nanosUntil finish).tdiv Instant.nanosPerMilli)
  return (← word? millis.natAbs).toNat

def dateDiff? (arguments : Arguments) : Option Number :=
  match toInstant? (arguments.arg 0), toInstant? (arguments.arg 1) with
  | some start, some finish => do
    let millis ← millisBetween? start finish
    return (Number.ofNat millis / .ofNat Instant.millisPerDay).ceil
  | _, _ => some .nan

def dateAdd (arguments : Arguments) : Except ExprError String :=
  match toInstant? (arguments.arg 0), (arguments.arg 1).toNumber with
  | some start, .finite days =>
    match start.addDays? (saturate days.toInt) with
    | some t => .ok t.date.text
    | none => .error (.type .invalidDate)
  | _, _ => .error (.type .invalidDate)

theorem toInstant?_eq (v : Value) : toInstant? v = v.toInstant? := by
  cases v with
  | number n =>
    cases n with
    | finite x =>
      rw [toInstant?, Value.toInstant?]
      exact apply_saturate (fun _ => Instant.ofMillis?_eq_none) x.toInt
    | _ => rfl
  | _ => rfl

theorem millisBetween?_eq {start finish : Instant} (hstart : start.NearCalendar)
    (hfinish : finish.NearCalendar) :
    millisBetween? start finish = some (start.millisBetween finish) := by
  have hlt := Instant.millisBetween_lt hstart hfinish
  have hmillis := Instant.natAbs_tdiv_nanosUntil start finish
  have hword : word? ((start.nanosUntil finish).tdiv Instant.nanosPerMilli) =
      some ((start.nanosUntil finish).tdiv Instant.nanosPerMilli) :=
    word?_eq (by rwa [hmillis])
  have hmagnitude : word? (start.millisBetween finish : Nat) =
      some (start.millisBetween finish : Int) :=
    word?_eq (by rwa [Int.natAbs_natCast])
  rw [millisBetween?, hword, Option.bind_eq_bind, Option.bind_some, hmillis, hmagnitude]
  generalize start.millisBetween finish = millis
  rfl

theorem dateDiff?_eq (arguments : Arguments) :
    dateDiff? arguments = some (Library.dateDiff arguments) := by
  unfold dateDiff? Library.dateDiff
  rw [toInstant?_eq, toInstant?_eq]
  cases hstart : (arguments.arg 0).toInstant? with
  | none => rfl
  | some start =>
    cases hfinish : (arguments.arg 1).toInstant? with
    | none => rfl
    | some finish =>
      dsimp only
      rw [millisBetween?_eq (Instant.nearCalendar_of_toInstant? hstart)
        (Instant.nearCalendar_of_toInstant? hfinish), Option.bind_eq_bind, Option.bind_some,
        Option.pure_def]

theorem dateAdd_eq (arguments : Arguments) : dateAdd arguments = Library.dateAdd arguments := by
  unfold dateAdd Library.dateAdd dateAdd?
  rw [toInstant?_eq]
  cases hstart : (arguments.arg 0).toInstant? with
  | none => rfl
  | some start =>
    cases (arguments.arg 1).toNumber with
    | finite days =>
      have hnear := Instant.nearCalendar_of_toInstant? hstart
      have hdays := apply_saturate (fun _ => Instant.addDays?_eq_none hnear) days.toInt
      dsimp only
      rw [hdays]
      cases hadd : start.addDays? days.toInt <;> simp [hadd]
    | _ => rfl

/-! ## Calls -/

/-- The value of a formula function, unless an access fails on the way to it. -/
def call? (now : Instant) (f : Formula) (arguments : Arguments) : Option (Except ExprError Value) :=
  match f with
  | .dateAdd => some ((dateAdd arguments).map .string)
  | .dateDiff => (dateDiff? arguments).map (.ok <| .number ·)
  | .day => some (.ok (.number (datePart (fun d => d.day) arguments)))
  | .fixed =>
    (withPlaces? ((arguments.arg 0).numberOr 0) ((arguments.arg 1).numberOr 2)).map (·.map .string)
  | .month => some (.ok (.number (datePart (fun d => d.month) arguments)))
  | .percent =>
    (withPlaces? ((arguments.arg 0).numberOr 0 * 100) ((arguments.arg 1).numberOr 0)).map
      (·.map fun s => .string (s ++ "%"))
  | .substring => (substring? arguments).map (.ok <| .string ·)
  | .switch => (switch? arguments).map .ok
  | .year => some (.ok (.number (datePart (·.year) arguments)))
  -- The others look at their arguments and at items one by one.
  | f => some (f.call now arguments)

theorem datePart_eq (part : Date → Int) (arguments : Arguments) :
    datePart part arguments = Library.datePart part arguments := by
  cases hmoment : (arguments.arg 0).toInstant? <;>
    simp only [datePart, Library.datePart, toInstant?_eq, hmoment]

/-- No access of any function fails, and no cast makes a difference. -/
theorem call?_eq (now : Instant) (f : Formula) (arguments : Arguments) :
    call? now f arguments = some (f.call now arguments) := by
  cases f with
  | dateAdd =>
    rw [call?, dateAdd_eq, Formula.call]
    cases Library.dateAdd arguments <;> rfl
  | dateDiff =>
    rw [call?, dateDiff?_eq]
    rfl
  | day | month | year =>
    rw [call?, datePart_eq]
    rfl
  | fixed =>
    rw [call?, withPlaces?_eq, Formula.call, Library.fixed]
    cases withPlaces ((arguments.arg 0).numberOr 0) ((arguments.arg 1).numberOr 2) <;> rfl
  | percent =>
    rw [call?, withPlaces?_eq, Formula.call, Library.percent]
    cases withPlaces ((arguments.arg 0).numberOr 0 * 100) ((arguments.arg 1).numberOr 0) <;> rfl
  | substring =>
    rw [call?, substring?_eq]
    rfl
  | switch =>
    rw [call?, switch?_eq]
    rfl
  | _ => rfl

end Checked

end TemplateExpr
