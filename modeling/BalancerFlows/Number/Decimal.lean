/-!
# Decimal numerals

Natural numbers written in decimal and read back. `read?_digits` says that reading undoes
writing; `unsigned?` and `signed?` add the sign and the range that a bounded field allows.
-/
namespace BalancerFlows.Decimal

def digitChar (d : Nat) : Char :=
  Char.ofNat (48 + d)

/-- The digit a character stands for; only the ten of ASCII count. -/
def digit? (c : Char) : Option Nat :=
  if 48 ≤ c.toNat ∧ c.toNat ≤ 57 then some (c.toNat - 48) else none

/-- The decimal digits of a number, without leading zeros. -/
def digits (n : Nat) : List Char :=
  if n < 10 then [digitChar n] else digits (n / 10) ++ [digitChar (n % 10)]
termination_by n
decreasing_by omega

def text (n : Nat) : String :=
  String.ofList (digits n)

/-- Continues a numeral: the value of `acc` followed by the given digits. -/
def readOnto : Nat → List Char → Option Nat
  | acc, [] => some acc
  | acc, c :: cs => do
      let d ← digit? c
      readOnto (10 * acc + d) cs

/-- The value of one or more digits; leading zeros are allowed. -/
def read? : List Char → Option Nat
  | [] => none
  | cs => readOnto 0 cs

/-- Digits with an optional plus sign, below `bound`. -/
def unsigned? (bound : Nat) (s : String) : Option Nat := do
  let n ← match s.toList with
    | '+' :: cs => read? cs
    | cs => read? cs
  if n < bound then some n else none

/-- Whether an integer fits 64 bits with a sign: it lies from `-2^63` to `2^63 - 1`. -/
def fitsSigned (n : Int) : Bool :=
  Int64.minValue.toInt ≤ n && n ≤ Int64.maxValue.toInt

/-- Digits with an optional sign that fit 64 bits. -/
def signed? (s : String) : Option Int := do
  let n ← match s.toList with
    | '+' :: cs => (read? cs).map Int.ofNat
    | '-' :: cs => (read? cs).map fun n => -Int.ofNat n
    | cs => (read? cs).map Int.ofNat
  if fitsSigned n then some n else none

theorem digit?_digitChar {d : Nat} (h : d < 10) : digit? (digitChar d) = some d := by
  have : ∀ d, d < 10 → digit? (digitChar d) = some d := by decide
  exact this d h

theorem readOnto_append (acc : Nat) (xs ys : List Char) :
    readOnto acc (xs ++ ys) = (readOnto acc xs).bind fun n => readOnto n ys := by
  induction xs generalizing acc with
  | nil => rfl
  | cons c cs ih =>
      simp only [List.cons_append, readOnto]
      cases digit? c with
      | none => rfl
      | some d => exact ih _

theorem readOnto_digits (n : Nat) : readOnto 0 (digits n) = some n := by
  induction n using digits.induct with
  | case1 n h =>
      rw [digits, if_pos h]
      simp [readOnto, digit?_digitChar h]
  | case2 n h ih =>
      rw [digits, if_neg h, readOnto_append, ih]
      simp only [Option.bind_some, readOnto, digit?_digitChar (Nat.mod_lt n (by omega : 0 < 10))]
      simp only [Option.bind_eq_bind, Option.bind_some, Option.some.injEq]
      omega

theorem digits_ne_nil (n : Nat) : digits n ≠ [] := by
  rw [digits]
  split <;> simp

/-- Reading undoes writing. -/
theorem read?_digits (n : Nat) : read? (digits n) = some n := by
  cases h : digits n with
  | nil => exact absurd h (digits_ne_nil n)
  | cons c cs => rw [read?, ← h]; exact readOnto_digits n; simp

end BalancerFlows.Decimal
