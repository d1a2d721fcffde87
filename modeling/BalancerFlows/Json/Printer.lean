import BalancerFlows.Json.Basic

/-!
# JSON text

Values printed on one line, and printed over several lines with an indent of two blanks. Characters
beyond ASCII are written as they are; control characters, quotes and backslashes are escaped.
-/
namespace BalancerFlows.Json

def hexDigit (n : Nat) : Char :=
  if n < 10 then Char.ofNat (48 + n) else Char.ofNat (87 + n)

def escapeChar (c : Char) : List Char :=
  match c with
  | '"' => ['\\', '"']
  | '\\' => ['\\', '\\']
  | '\n' => ['\\', 'n']
  | '\r' => ['\\', 'r']
  | '\t' => ['\\', 't']
  | '\x08' => ['\\', 'b']
  | '\x0c' => ['\\', 'f']
  | c =>
      if c.toNat < 32 then
        ['\\', 'u', '0', '0', hexDigit (c.toNat / 16), hexDigit (c.toNat % 16)]
      else [c]

def quote (s : String) : String :=
  String.ofList ('"' :: (s.toList.flatMap escapeChar ++ ['"']))

/-- A number with a fraction or exponent; what is no number is written as null. -/
def floatText (x : Binary64) : String :=
  x.exponentText?.getD "null"

mutual

/-- The text of a value on one line. -/
def compact : Json → String
  | null => "null"
  | bool b => if b then "true" else "false"
  | int n => toString n
  | float x => floatText x
  | str s => quote s
  | arr items => "[" ++ compactItems items ++ "]"
  | obj members => "\x7b" ++ compactMembers members ++ "\x7d"

def compactItems : List Json → String
  | [] => ""
  | [j] => compact j
  | j :: js => compact j ++ "," ++ compactItems js

def compactMembers : List (String × Json) → String
  | [] => ""
  | [(k, v)] => quote k ++ ":" ++ compact v
  | (k, v) :: rest => quote k ++ ":" ++ compact v ++ "," ++ compactMembers rest

end

/-- A line break followed by the blanks of a depth. -/
def lineBreak (depth : Nat) : String :=
  String.ofList ('\n' :: List.replicate (2 * depth) ' ')

mutual

/-- The text of a value over several lines, at a depth. -/
def indented (depth : Nat) : Json → String
  | arr [] => "[]"
  | arr items => "[" ++ indentedItems (depth + 1) items ++ lineBreak depth ++ "]"
  | obj [] => "\x7b\x7d"
  | obj members => "\x7b" ++ indentedMembers (depth + 1) members ++ lineBreak depth ++ "\x7d"
  | j => compact j

def indentedItems (depth : Nat) : List Json → String
  | [] => ""
  | [j] => lineBreak depth ++ indented depth j
  | j :: js => lineBreak depth ++ indented depth j ++ "," ++ indentedItems depth js

def indentedMembers (depth : Nat) : List (String × Json) → String
  | [] => ""
  | [(k, v)] => lineBreak depth ++ quote k ++ ": " ++ indented depth v
  | (k, v) :: rest =>
      lineBreak depth ++ quote k ++ ": " ++ indented depth v ++ "," ++
        indentedMembers depth rest

end

def pretty (j : Json) : String :=
  indented 0 j

end BalancerFlows.Json
