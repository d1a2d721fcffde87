import BalancerFlows.Text.Invisible

/-!
# Blanks and quotes

What stands around a text. Blanks are the characters that count as white space (Unicode 17): the
blanks and line ends of ASCII, and those of other scripts and of typesetting. A quoted text stands
between double quotes, on one line and without characters that cannot be seen: quotes and
backslashes are escaped, and what shows no glyph is written by its number.
-/
namespace BalancerFlows.Text

/-- The ranges of blanks, both ends included, in ascending order. -/
def blankRanges : List (Nat × Nat) :=
  [(0x9, 0xD), (0x20, 0x20), (0x85, 0x85), (0xA0, 0xA0), (0x1680, 0x1680), (0x2000, 0x200A),
   (0x2028, 0x2029), (0x202F, 0x202F), (0x205F, 0x205F), (0x3000, 0x3000)]

def isBlank (c : Char) : Bool :=
  blankRanges.any fun range => range.1 ≤ c.toNat && c.toNat ≤ range.2

/-- A text without the blanks in front of it and behind it. -/
def trim (cs : List Char) : List Char :=
  ((cs.dropWhile isBlank).reverse.dropWhile isBlank).reverse

/-- The hexadecimal digits of a number, without leading zeros. -/
def hexDigits (n : Nat) : List Char :=
  Nat.toDigits 16 n

def byNumber (c : Char) : List Char :=
  ['\\', 'u', '\x7b'] ++ hexDigits c.toNat ++ ['\x7d']

def quotedChar (c : Char) : List Char :=
  match c with
  | '\x00' => ['\\', '0']
  | '\t' => ['\\', 't']
  | '\r' => ['\\', 'r']
  | '\n' => ['\\', 'n']
  | '"' => ['\\', '"']
  | '\\' => ['\\', '\\']
  | c =>
      if c.toNat < 32 || c.toNat = 127 then byNumber c
      else if 128 ≤ c.toNat && isInvisible c then byNumber c
      else [c]

def quoted (s : String) : String :=
  String.ofList ('"' :: s.toList.flatMap quotedChar ++ ['"'])

end BalancerFlows.Text
