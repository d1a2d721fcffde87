import BalancerFlows.Number.Decimal

/-!
# Moments in TOML

A moment is a date, a time of day, or both, and then may say how far it is from universal time. It
is kept as its text in one form: a `T` before the time, no zeros behind the last place of a second,
and a plus sign before a distance of zero.
-/
namespace BalancerFlows.Toml

def isDecimal (c : Char) : Bool :=
  (Decimal.digit? c).isSome

namespace Moment

/-- Where a moment is written: bare, as a value of its own, or quoted, in a text that stands for
one. A quoted one may have a blank before its time, and be a whole day away. -/
inductive Form where
  | bare | quoted
  deriving Repr, DecidableEq, Inhabited

def Form.lastHour : Form → Nat
  | bare => 23
  | quoted => 24

/-- Whether a distance of hours and minutes may be given. -/
def Form.allows (form : Form) (hours minutes : Nat) : Bool :=
  match form with
  | bare => hours ≤ 23 && minutes ≤ 59
  | quoted => 60 * hours + minutes ≤ 60 * 24

/-- Whether a character stands between a date and a time. -/
def Form.separates (form : Form) (c : Char) : Bool :=
  c = 'T' || c = 't' || (form = quoted && c = ' ')

/-- Two digits as a number from `low` to `high`. -/
def two? (low high : Nat) (a b : Char) : Option Nat := do
  let n ← Decimal.read? [a, b]
  if low ≤ n ∧ n ≤ high then some n else none

def daysOf (year month : Nat) : Nat :=
  if month = 2 then
    if year % 4 = 0 ∧ (year % 100 ≠ 0 ∨ year % 400 = 0) then 29 else 28
  else if month = 4 ∨ month = 6 ∨ month = 9 ∨ month = 11 then 30 else 31

/-- A date, in its only form. -/
def date? : List Char → Option (List Char)
  | [y₁, y₂, y₃, y₄, '-', m₁, m₂, '-', d₁, d₂] => do
      let year ← Decimal.read? [y₁, y₂, y₃, y₄]
      let month ← two? 1 12 m₁ m₂
      let _ ← two? 1 (daysOf year month) d₁ d₂
      return [y₁, y₂, y₃, y₄, '-', m₁, m₂, '-', d₁, d₂]
  | _ => none

/-- The places of a second: at most nine count, and zeros at the end are left out. -/
def places? : List Char → Option (List Char)
  | [] => some []
  | '.' :: digits =>
      if digits.isEmpty || !digits.all isDecimal then none
      else
        let kept := ((digits.take 9).reverse.dropWhile (· = '0')).reverse
        some (if kept.isEmpty then [] else '.' :: kept)
  | _ => none

def time? (form : Form) : List Char → Option (List Char)
  | h₁ :: h₂ :: ':' :: m₁ :: m₂ :: ':' :: s₁ :: s₂ :: rest => do
      let _ ← two? 0 form.lastHour h₁ h₂
      let _ ← two? 0 59 m₁ m₂
      let _ ← two? 0 60 s₁ s₂
      return [h₁, h₂, ':', m₁, m₂, ':', s₁, s₂] ++ (← places? rest)
  | _ => none

def twoDigits (n : Nat) : List Char :=
  [Decimal.digitChar (n / 10 % 10), Decimal.digitChar (n % 10)]

def offset? (form : Form) : List Char → Option (List Char)
  | [z] => if z = 'Z' ∨ z = 'z' then some ['Z'] else none
  | [sign, h₁, h₂, ':', m₁, m₂] => do
      if sign ≠ '+' ∧ sign ≠ '-' then none
      let hours ← two? 0 99 h₁ h₂
      let minutes ← two? 0 99 m₁ m₂
      if form.allows hours minutes then
        let total := 60 * hours + minutes
        let sign := if total = 0 then '+' else sign
        return sign :: twoDigits (total / 60) ++ ':' :: twoDigits (total % 60)
      else none
  | _ => none

/-- A time of day with an optional distance from universal time. -/
def offsetTime? (form : Form) (cs : List Char) : Option (List Char) :=
  let isStart := fun c => c = 'Z' || c = 'z' || c = '+' || c = '-'
  match cs.span fun c => !isStart c with
  | (time, []) => time? form time
  | (time, offset) => do return (← time? form time) ++ (← offset? form offset)

/-- A date with an optional time behind it, or a time alone. -/
def read? (form : Form) (cs : List Char) : Option String :=
  String.ofList <$>
    match cs.drop 10 with
    | [] => date? cs <|> time? form cs
    | mark :: rest =>
        if form.separates mark then do
          return (← date? (cs.take 10)) ++ 'T' :: (← offsetTime? form rest)
        else time? form cs

end Moment

end BalancerFlows.Toml
