import BalancerFlows.Json.Basic

/-!
# Reading JSON text

`Json.parse?` reads one value that fills the whole text. A numeral without fraction and exponent
is a whole number when it lies from `-2^63` to `2^64 - 1`; every other numeral, `-0` included, is
a floating-point number. Of two members with one name the later one counts.
-/
namespace BalancerFlows.Json.Reader

def skipBlanks (cs : List Char) : List Char :=
  cs.dropWhile fun c => c = ' ' || c = '\t' || c = '\n' || c = '\r'

def hexValue? (c : Char) : Option Nat :=
  let n := c.toNat
  if 48 ≤ n ∧ n ≤ 57 then some (n - 48)
  else if 97 ≤ n ∧ n ≤ 102 then some (n - 87)
  else if 65 ≤ n ∧ n ≤ 70 then some (n - 55)
  else none

def hexUnit? : List Char → Option (Nat × List Char)
  | a :: b :: c :: d :: rest => do
      let a ← hexValue? a
      let b ← hexValue? b
      let c ← hexValue? c
      let d ← hexValue? d
      return (4096 * a + 256 * b + 16 * c + d, rest)
  | _ => none

/-- The character of a `\u` escape; a high surrogate needs its low partner right behind it. -/
def escapedUnit? (cs : List Char) : Option (Char × List Char) := do
  let (unit, rest) ← hexUnit? cs
  if 0xD800 ≤ unit ∧ unit ≤ 0xDBFF then
    match rest with
    | '\\' :: 'u' :: rest => do
        let (low, rest) ← hexUnit? rest
        if 0xDC00 ≤ low ∧ low ≤ 0xDFFF then
          return (Char.ofNat (0x10000 + (unit - 0xD800) * 0x400 + (low - 0xDC00)), rest)
        else none
    | _ => none
  else if 0xDC00 ≤ unit ∧ unit ≤ 0xDFFF then none
  else return (Char.ofNat unit, rest)

/-- The character behind a backslash, other than `u`. -/
def shortEscape? (c : Char) : Option Char :=
  match c with
  | '"' => some '"'
  | '\\' => some '\\'
  | '/' => some '/'
  | 'b' => some '\x08'
  | 'f' => some '\x0c'
  | 'n' => some '\n'
  | 'r' => some '\r'
  | 't' => some '\t'
  | _ => none

/-- The rest of a quoted text, behind its first quote; `taken` holds what was read, reversed. -/
def text? : Nat → List Char → List Char → Option (String × List Char)
  | 0, _, _ => none
  | _ + 1, _, [] => none
  | fuel + 1, taken, c :: cs =>
      if c = '"' then some (String.ofList taken.reverse, cs)
      else if c = '\\' then
        match cs with
        | 'u' :: cs => do
            let (c, rest) ← escapedUnit? cs
            text? fuel (c :: taken) rest
        | c :: cs => do
            let c ← shortEscape? c
            text? fuel (c :: taken) cs
        | [] => none
      else if c.toNat < 32 then none
      else text? fuel (c :: taken) cs

/-- Whether a character can stand in a numeral. -/
def isNumeral (c : Char) : Bool :=
  c = '-' || c = '+' || c = '.' || c = 'e' || c = 'E' || (Decimal.digit? c).isSome

/-- No digits follow a leading zero, and there is a digit on both sides of a point. -/
def isWellFormed (whole rest : List Char) : Bool :=
  (match whole with
    | [] => false
    | ['0'] => true
    | '0' :: _ => false
    | _ => true) &&
  (match rest with
    | '.' :: rest => !(Binary64.takeDigits rest).1.isEmpty
    | _ => true)

/-- The number that a numeral without its minus sign stands for. -/
def magnitude? (negative : Bool) (cs : List Char) : Option Json :=
  let (whole, rest) := Binary64.takeDigits cs
  if !isWellFormed whole rest then none
  else if rest.isEmpty then do
    let n ← Decimal.read? whole
    if negative then
      if n ≠ 0 ∧ Decimal.fitsSigned (-Int.ofNat n) then return .int (-Int.ofNat n)
      else return .float (Binary64.ofDecimal true n 0)
    else if n < UInt64.size then return .int n
    else return .float (Binary64.ofDecimal false n 0)
  else match Binary64.readUnsigned? negative cs with
    | some (.infinity _) => none
    | some x => some (.float x)
    | none => none

def number? (cs : List Char) : Option Json :=
  match cs with
  | '-' :: cs => magnitude? true cs
  | cs => magnitude? false cs

def word? (word : List Char) (value : Json) (cs : List Char) : Option (Json × List Char) :=
  if word.isPrefixOf cs then some (value, cs.drop word.length) else none

mutual

/-- A value, behind any blanks, and what follows. -/
def value? : Nat → List Char → Option (Json × List Char)
  | 0, _ => none
  | fuel + 1, cs =>
      match skipBlanks cs with
      | [] => none
      | '"' :: cs => do
          let (s, rest) ← text? (cs.length + 1) [] cs
          return (.str s, rest)
      | '[' :: cs =>
          match skipBlanks cs with
          | ']' :: rest => some (.arr [], rest)
          | cs => do
              let (items, rest) ← items? fuel cs
              return (.arr items, rest)
      | '\x7b' :: cs =>
          match skipBlanks cs with
          | '\x7d' :: rest => some (.obj [], rest)
          | cs => do
              let (members, rest) ← members? fuel [] cs
              return (.obj members, rest)
      | 'n' :: cs => word? "null".toList .null ('n' :: cs)
      | 't' :: cs => word? "true".toList (.bool true) ('t' :: cs)
      | 'f' :: cs => word? "false".toList (.bool false) ('f' :: cs)
      | cs => do
          let (numeral, rest) := cs.span isNumeral
          let n ← number? numeral
          return (n, rest)

/-- One or more items up to the closing bracket. -/
def items? : Nat → List Char → Option (List Json × List Char)
  | 0, _ => none
  | fuel + 1, cs => do
      let (item, rest) ← value? fuel cs
      match skipBlanks rest with
      | ',' :: rest => do
          let (items, rest) ← items? fuel rest
          return (item :: items, rest)
      | ']' :: rest => return ([item], rest)
      | _ => none

/-- One or more members up to the closing brace, added to those read so far. -/
def members? : Nat → List (String × Json) → List Char →
    Option (List (String × Json) × List Char)
  | 0, _, _ => none
  | fuel + 1, taken, cs =>
      match skipBlanks cs with
      | '"' :: cs => do
          let (key, rest) ← text? (cs.length + 1) [] cs
          match skipBlanks rest with
          | ':' :: rest => do
              let (value, rest) ← value? fuel rest
              let taken := setMember key value taken
              match skipBlanks rest with
              | ',' :: rest => members? fuel taken rest
              | '\x7d' :: rest => return (taken, rest)
              | _ => none
          | _ => none
      | _ => none

end

end Reader

def parse? (s : String) : Option Json := do
  let cs := s.toList
  let (value, rest) ← Reader.value? (2 * cs.length + 2) cs
  if (Reader.skipBlanks rest).isEmpty then some value else none

end BalancerFlows.Json
