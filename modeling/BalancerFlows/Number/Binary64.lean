import BalancerFlows.Number.Decimal

/-!
# Binary floating-point numbers of 64 bits

A number is kept as `mantissa · 2^exponent`, so reading a decimal, rounding to a whole number
and finding the shortest decimal are exact computations on natural numbers.
-/
namespace BalancerFlows

/-- A binary floating-point number. Finite values have a mantissa below `2^53` and an exponent
from `-1074` to `971`, and the mantissa is at least `2^52` unless the exponent is `-1074`. -/
inductive Binary64 where
  | nan
  | infinity (negative : Bool)
  | finite (negative : Bool) (mantissa : Nat) (exponent : Int)
  deriving Repr, DecidableEq, Inhabited

namespace Binary64

/-- `a / b` rounded to the nearest integer, a half to the even one. -/
def divEven (a b : Nat) : Nat :=
  let q := a / b
  let r := a % b
  if 2 * r < b then q else if b < 2 * r then q + 1 else q + q % 2

/-- Two to the power `e`, and 1 for a negative exponent. -/
def twoTo (e : Int) : Nat :=
  Nat.pow 2 e.toNat

/-- Ten to the power `e`, and 1 for a negative exponent. -/
def tenTo (e : Int) : Nat :=
  Nat.pow 10 e.toNat

/-- The value of `num / den` in units of `2^exponent`, rounded to even. -/
def scaled (num den : Nat) (exponent : Int) : Nat :=
  divEven (num * twoTo (-exponent)) (den * twoTo exponent)

/-- The exponent whose unit gives `num / den` a mantissa of 53 bits, and `-1074` for values too
small for that. -/
def exponentOf (num den : Nat) : Int :=
  let guess : Int := Int.ofNat num.log2 - Int.ofNat den.log2 - 52
  let fits := den * twoTo (guess + 52) ≤ num * twoTo (-(guess + 52))
  max (-1074) (if fits then guess else guess - 1)

/-- The number nearest to `num / den`, a half to the even mantissa. -/
def ofRatio (negative : Bool) (num den : Nat) : Binary64 :=
  if num = 0 then finite negative 0 (-1074)
  else
    let e := exponentOf num den
    let m := scaled num den e
    if m = twoTo 53 then
      if 971 ≤ e then infinity negative else finite negative (twoTo 52) (e + 1)
    else if 971 < e then infinity negative
    else finite negative m e

/-- The number nearest to `digits · 10^exponent`. Values beyond every number in reach are
settled by their size alone. -/
def ofDecimal (negative : Bool) (digits : Nat) (exponent : Int) : Binary64 :=
  if digits = 0 then finite negative 0 (-1074)
  else
    let size := exponent + (Decimal.digits digits).length
    if 400 < size then infinity negative
    else if size < -400 then finite negative 0 (-1074)
    else ofRatio negative (digits * tenTo exponent) (tenTo (-exponent))

/-- The nearest whole number, a half away from zero; `none` for infinities and for what is no
number. -/
def round? : Binary64 → Option Int
  | finite negative m e =>
      let n := if 0 ≤ e then m * twoTo e
        else (2 * m + twoTo (-e)) / (2 * twoTo (-e))
      some (if negative then -Int.ofNat n else Int.ofNat n)
  | _ => none

/-- The nearest natural number below `bound`: negative values and what is no number give 0, and
values out of range the largest. -/
def saturate (bound : Nat) (x : Binary64) : Nat :=
  match x with
  | nan => 0
  | infinity negative => if negative then 0 else bound - 1
  | finite .. => match x.round? with
    | some n => min n.toNat (bound - 1)
    | none => 0

/-- A positive decimal `digits · 10^exponent`. -/
structure Scientific where
  digits : Nat
  exponent : Int
  deriving Repr, DecidableEq, Inhabited

/-- The value `x · 10^p · 2^q` as a numerator and a denominator, so that values are compared by
cross products. -/
def fraction (x : Nat) (p q : Int) : Nat × Nat :=
  (x * tenTo p * twoTo q, tenTo (-p) * twoTo (-q))

def fractionLt (a b : Nat × Nat) : Bool :=
  a.1 * b.2 < b.1 * a.2

/-- Whether the decimal reads back as the finite number of mantissa `m` and exponent `e`: it lies
between the midpoints to the two neighbours, which count when the mantissa is even. -/
def readsBack (m : Nat) (e : Int) (d : Scientific) : Bool :=
  let value := fraction d.digits d.exponent 0
  let low := if m = twoTo 52 ∧ -1074 < e then fraction (4 * m - 1) 0 (e - 2)
    else fraction (2 * m - 1) 0 (e - 1)
  let high := fraction (2 * m + 1) 0 (e - 1)
  if m % 2 = 0 then !fractionLt value low && !fractionLt high value
  else fractionLt low value && fractionLt value high

/-- The number of digits before the decimal point of `m · 2^e`, or minus the zeros behind it. -/
def magnitude (m : Nat) (e : Int) : Int :=
  let (num, den) := fraction m 0 e
  if den ≤ num then (Decimal.digits (num / den)).length
  else 1 - Int.ofNat (Decimal.digits (den / num)).length +
    (if tenTo ((Decimal.digits (den / num)).length - 1) * num = den then 1 else 0)

/-- The best decimal of `n` digits, if one reads back: of the two neighbours on that grid, the
nearer, and halfway between them the one above. -/
def ofLength? (m : Nat) (e : Int) (n : Nat) : Option Scientific :=
  let unit := magnitude m e - Int.ofNat n
  let (num, den) := fraction m (-unit) e
  let below : Scientific := ⟨num / den, unit⟩
  let above : Scientific := ⟨num / den + 1, unit⟩
  match readsBack m e below && below.digits ≠ 0, readsBack m e above with
  | true, true => some (if 2 * (num % den) < den then below else above)
  | true, false => some below
  | false, true => some above
  | false, false => none

/-- The shortest decimal that reads back, and of those the nearest; 17 digits always suffice. -/
def shortest (m : Nat) (e : Int) : Scientific :=
  ((List.range 17).findSome? fun i => ofLength? m e (i + 1)).getD ⟨m, 0⟩

/-- Drops the zeros at the end of the digits into the exponent. -/
def Scientific.trim (d : Scientific) : Scientific :=
  if h : d.digits ≠ 0 ∧ d.digits % 10 = 0 then
    Scientific.trim ⟨d.digits / 10, d.exponent + 1⟩
  else d
termination_by d.digits
decreasing_by omega

/-- The digits with the point set, and never an exponent. -/
def Scientific.positional (d : Scientific) : String :=
  let ds := Decimal.digits d.digits
  if 0 ≤ d.exponent then String.ofList (ds ++ List.replicate d.exponent.toNat '0')
  else
    let places := (-d.exponent).toNat
    if places < ds.length then
      String.ofList (ds.take (ds.length - places) ++ '.' :: ds.drop (ds.length - places))
    else String.ofList ('0' :: '.' :: (List.replicate (places - ds.length) '0' ++ ds))

/-- The shortest text that reads back, in positional notation without a trailing point. -/
def text : Binary64 → String
  | nan => "NaN"
  | infinity negative => if negative then "-inf" else "inf"
  | finite negative m e =>
      (if negative then "-" else "") ++
        (if m = 0 then "0" else (shortest m e).trim.positional)

/-- The shortest text that reads back, always with an exponent; infinities have none. -/
def exponentText? : Binary64 → Option String
  | finite negative m e =>
      let d := if m = 0 then ⟨0, 0⟩ else (shortest m e).trim
      some ((if negative then "-" else "") ++ Decimal.text d.digits ++ "e" ++ toString d.exponent)
  | _ => none

def takeDigits (cs : List Char) : List Char × List Char :=
  cs.span fun c => (Decimal.digit? c).isSome

/-- The exponent part of a numeral: nothing, or a mark, an optional sign and digits. -/
def readExponent? : List Char → Option Int
  | [] => some 0
  | c :: cs =>
      if c = 'e' ∨ c = 'E' then
        match cs with
        | '+' :: ds => (Decimal.read? ds).map Int.ofNat
        | '-' :: ds => (Decimal.read? ds).map fun n => -Int.ofNat n
        | ds => (Decimal.read? ds).map Int.ofNat
      else none

/-- A numeral without sign: digits with an optional point, at least one digit in all, and an
optional exponent. -/
def readUnsigned? (negative : Bool) (cs : List Char) : Option Binary64 := do
  let (whole, rest) := takeDigits cs
  let (places, rest) := match rest with
    | '.' :: rest => takeDigits rest
    | rest => ([], rest)
  let digits ← Decimal.read? (whole ++ places)
  let exponent ← readExponent? rest
  return ofDecimal negative digits (exponent - places.length)

/-- ASCII letters in lower case; every other character stays. -/
def lower (cs : List Char) : List Char :=
  cs.map Char.toLower

/-- A numeral or a name of a special value, after the sign. -/
def readMagnitude? (negative : Bool) (cs : List Char) : Option Binary64 :=
  if lower cs = "inf".toList ∨ lower cs = "infinity".toList then some (infinity negative)
  else if lower cs = "nan".toList then some nan
  else readUnsigned? negative cs

/-- The number a text stands for: an optional sign, then a decimal numeral or one of `inf`,
`infinity` and `nan` in any case. -/
def read? (s : String) : Option Binary64 :=
  match s.toList with
  | '+' :: cs => readMagnitude? false cs
  | '-' :: cs => readMagnitude? true cs
  | cs => readMagnitude? false cs

end Binary64

end BalancerFlows
