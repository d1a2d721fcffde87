import BalancerFlows.Number.Decimal

/-!
# Points in time

A number of microseconds since the start of 1970, written as a date and a time of day in universal
time. The date is counted in eras of 400 years, each of which has 146097 days.
-/
namespace BalancerFlows.Clock

structure Date where
  year : Nat
  month : Nat
  day : Nat
  deriving Repr, DecidableEq, Inhabited

/-- The date of a day counted from the first of March of year 0. Years start in March here, so that
a leap day comes last. -/
def Date.ofMarchDay (n : Nat) : Date :=
  let era := n / 146097
  let inEra := n % 146097
  let year := (inEra - inEra / 1460 + inEra / 36524 - inEra / 146096) / 365
  let inYear := inEra - (365 * year + year / 4 - year / 100)
  let month := (5 * inYear + 2) / 153
  let day := inYear - (153 * month + 2) / 5 + 1
  let isNextYear := 10 ≤ month
  { year := era * 400 + year + (if isNextYear then 1 else 0)
    month := if isNextYear then month - 9 else month + 3
    day }

/-- The date of a day counted from the start of 1970. -/
def Date.ofDay (n : Nat) : Date :=
  .ofMarchDay (n + 719468)

example : Date.ofDay 0 = ⟨1970, 1, 1⟩ ∧ Date.ofDay 19782 = ⟨2024, 2, 29⟩ := by
  decide

/-- A number with zeros in front, up to a width. -/
def padded (width n : Nat) : String :=
  let digits := Decimal.digits n
  String.ofList (List.replicate (width - digits.length) '0' ++ digits)

def text (micros : Nat) : String :=
  let seconds := micros / 1000000
  let d := Date.ofDay (seconds / 86400)
  let ofDay := seconds % 86400
  padded 4 d.year ++ "-" ++ padded 2 d.month ++ "-" ++ padded 2 d.day ++ "T" ++
    padded 2 (ofDay / 3600) ++ ":" ++ padded 2 (ofDay / 60 % 60) ++ ":" ++ padded 2 (ofDay % 60) ++
    "." ++ padded 6 (micros % 1000000) ++ "Z"

end BalancerFlows.Clock
