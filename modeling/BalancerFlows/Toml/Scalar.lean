import BalancerFlows.Toml.Moment
import BalancerFlows.Toml.Tree

/-!
# Scalars in TOML

A scalar without quotes is a run of letters, digits and a few marks. It is a truth value, a whole
number, a floating-point number, or a moment, which may have a blank between its date and its time.
-/
namespace BalancerFlows.Toml

/-- Digits with single underscores between them: the digits alone. -/
def joined? (isDigit : Char → Bool) : List Char → Option (List Char)
  | [] => none
  | [c] => if isDigit c then some [c] else none
  | c :: '_' :: rest => if isDigit c then (joined? isDigit rest).map (c :: ·) else none
  | c :: rest => if isDigit c then (joined? isDigit rest).map (c :: ·) else none

/-- The value of a digit of a base up to 16. -/
def digitBelow? (base : Nat) (c : Char) : Option Nat := do
  let d ← Decimal.digit? c <|>
    (if 97 ≤ c.toNat ∧ c.toNat ≤ 102 then some (c.toNat - 87)
     else if 65 ≤ c.toNat ∧ c.toNat ≤ 70 then some (c.toNat - 55) else none)
  if d < base then some d else none

/-- The value of digits of a base, with underscores between them. -/
def based? (base : Nat) (cs : List Char) : Option Nat := do
  let digits ← joined? (fun c => (digitBelow? base c).isSome) cs
  digits.foldlM (fun n c => (digitBelow? base c).map (base * n + ·)) 0

/-- The digits of a decimal number; only zero itself starts with a zero. -/
def whole? (cs : List Char) : Option (List Char) := do
  let digits ← joined? isDecimal cs
  if digits.head? = some '0' ∧ digits.length ≠ 1 then none else some digits

def splitSign : List Char → Bool × List Char
  | '-' :: cs => (true, cs)
  | '+' :: cs => (false, cs)
  | cs => (false, cs)

/-- A whole number: decimal with an optional sign, or hexadecimal, octal or binary without one. -/
def integer? (cs : List Char) : Option Int := do
  let n : Int ← match cs with
    | '0' :: 'x' :: cs => (based? 16 cs).map Int.ofNat
    | '0' :: 'o' :: cs => (based? 8 cs).map Int.ofNat
    | '0' :: 'b' :: cs => (based? 2 cs).map Int.ofNat
    | cs => do
        let (negative, cs) := splitSign cs
        let n ← Decimal.read? (← whole? cs)
        return if negative then -Int.ofNat n else Int.ofNat n
  if Decimal.fitsSigned n then some n else none

def isExponentMark (c : Char) : Bool :=
  c = 'e' || c = 'E'

/-- The exponent part, checked and without underscores. -/
def exponentPart? : List Char → Option (List Char)
  | [] => some []
  | mark :: cs =>
      if isExponentMark mark then
        let sign := cs.takeWhile fun c => c = '+' || c = '-'
        if 1 < sign.length then none
        else (joined? isDecimal (cs.drop sign.length)).map fun digits => 'e' :: sign ++ digits
      else none

/-- The places behind the point and the exponent, checked and without underscores; at least one of
the two is there. -/
def fractionPart? : List Char → Option (List Char)
  | '.' :: cs => do
      let (places, rest) := cs.span fun c => !isExponentMark c
      return '.' :: (← joined? isDecimal places) ++ (← exponentPart? rest)
  | [] => none
  | cs => exponentPart? cs

/-- A floating-point number; a numeral above all of them is refused. -/
def real? (cs : List Char) : Option Binary64 := do
  let (negative, cs) := splitSign cs
  if cs = "inf".toList then return .infinity negative
  if cs = "nan".toList then return .nan
  let (head, rest) := cs.span fun c => c ≠ '.' && !isExponentMark c
  let x ← Binary64.readUnsigned? negative ((← whole? head) ++ (← fractionPart? rest))
  if x = .infinity false then none else some x

/-- What a scalar without quotes and blanks stands for. -/
def scalarValue? (cs : List Char) : Option Node :=
  if cs = "true".toList then some (.value (.bool true))
  else if cs = "false".toList then some (.value (.bool false))
  else
    (integer? cs).map (.value ∘ .int) <|> (real? cs).map (.value ∘ .real) <|>
      (Moment.read? .bare cs).map .moment

def isScalarChar (c : Char) : Bool :=
  c.isAlphanum || c = '+' || c = '-' || c = '.' || c = ':' || c = '_'

/-- A scalar without quotes; a date and a time with a blank between them are one. -/
def scalarAt? (cs : List Char) : Option (Node × List Char) :=
  let (first, rest) := cs.span isScalarChar
  let joinedWithTime := do
    let _ ← Moment.date? first
    match rest with
    | ' ' :: rest =>
        let (second, rest) := rest.span isScalarChar
        return (Node.moment (← Moment.read? .bare (first ++ 'T' :: second)), rest)
    | _ => none
  joinedWithTime <|> (scalarValue? first).map (·, rest)

end BalancerFlows.Toml
