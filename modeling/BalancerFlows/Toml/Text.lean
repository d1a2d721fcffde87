import BalancerFlows.Json.Reader

/-!
# Text in TOML

Blanks, comments and line ends, the four kinds of quoted text, and keys. Each reader takes the
characters that are left and gives back what it read and what is left then.
-/
namespace BalancerFlows.Toml

def isBlank (c : Char) : Bool :=
  c = ' ' || c = '\t'

def skipBlanks (cs : List Char) : List Char :=
  cs.dropWhile isBlank

/-- A character of a comment or a text: no control character but the tab. -/
def isPlain (c : Char) : Bool :=
  c = '\t' || (32 ≤ c.toNat && c.toNat ≠ 127)

def skipComment : List Char → List Char
  | '#' :: cs => cs.dropWhile isPlain
  | cs => cs

/-- What is behind a line end. -/
def lineEnd? : List Char → Option (List Char)
  | '\n' :: cs => some cs
  | '\r' :: '\n' :: cs => some cs
  | _ => none

def skipGap : Nat → List Char → List Char
  | 0, cs => cs
  | fuel + 1, cs =>
      match lineEnd? (skipComment (skipBlanks cs)) with
      | some rest => skipGap fuel rest
      | none => skipBlanks cs

/-- Skips the blanks and line ends behind a backslash at the end of a line. -/
def skipBreak : Nat → List Char → List Char
  | 0, cs => cs
  | fuel + 1, cs =>
      match lineEnd? (skipBlanks cs) with
      | some rest => skipBreak fuel rest
      | none => skipBlanks cs

def hexNumber? : List Char → Option Nat :=
  List.foldlM (fun n c => (Json.Reader.hexValue? c).map (16 * n + ·)) 0

/-- The character of that number, if there is one. -/
def scalar? (n : Nat) : Option Char :=
  if h : n.isValidChar then some (Char.ofNatAux n h) else none

/-- The character of an escape of so many digits. -/
def numbered? (count : Nat) (cs : List Char) : Option (Char × List Char) := do
  let digits := cs.take count
  if digits.length < count then none
  let c ← scalar? (← hexNumber? digits)
  return (c, cs.drop count)

/-- The character of an escape, behind its backslash. -/
def escape? : List Char → Option (Char × List Char)
  | 'u' :: cs => numbered? 4 cs
  | 'U' :: cs => numbered? 8 cs
  | '"' :: cs => some ('"', cs)
  | '\\' :: cs => some ('\\', cs)
  | 'b' :: cs => some ('\x08', cs)
  | 'f' :: cs => some ('\x0c', cs)
  | 'n' :: cs => some ('\n', cs)
  | 'r' :: cs => some ('\r', cs)
  | 't' :: cs => some ('\t', cs)
  | _ => none

/-- A text that was read, and what is left. `taken` is the text, reversed. -/
def close (taken rest : List Char) : Option (String × List Char) :=
  some (String.ofList taken.reverse, rest)

/-- The rest of a text in double quotes. -/
def basic? : Nat → List Char → List Char → Option (String × List Char)
  | 0, _, _ => none
  | _ + 1, taken, '"' :: rest => close taken rest
  | fuel + 1, taken, '\\' :: cs => do
      let (c, rest) ← escape? cs
      basic? fuel (c :: taken) rest
  | fuel + 1, taken, c :: cs => if isPlain c then basic? fuel (c :: taken) cs else none
  | _ + 1, _, [] => none

def literal? (cs : List Char) : Option (String × List Char) :=
  match cs.span fun c => isPlain c && c ≠ '\'' with
  | (inside, '\'' :: rest) => some (String.ofList inside, rest)
  | _ => none

/-- What a run of quotes in a text over several lines means: the text ends with three of them, and
up to two more before these belong to it. -/
def quoteRun (quote : Char) (cs : List Char) : Nat × Bool × List Char :=
  let run := min 5 (cs.takeWhile (· = quote)).length
  (if run < 3 then run else run - 3, 3 ≤ run, cs.drop run)

/-- The rest of a text in three double quotes. -/
def longBasic? : Nat → List Char → List Char → Option (String × List Char)
  | 0, _, _ => none
  | fuel + 1, taken, '"' :: cs =>
      let (count, ends, rest) := quoteRun '"' ('"' :: cs)
      let taken := List.replicate count '"' ++ taken
      if ends then close taken rest else longBasic? fuel taken rest
  | fuel + 1, taken, '\\' :: cs =>
      if (lineEnd? (skipBlanks cs)).isSome then longBasic? fuel taken (skipBreak (fuel + 1) cs)
      else do
        let (c, rest) ← escape? cs
        longBasic? fuel (c :: taken) rest
  | fuel + 1, taken, c :: cs =>
      match lineEnd? (c :: cs) with
      | some rest => longBasic? fuel ('\n' :: taken) rest
      | none => if isPlain c then longBasic? fuel (c :: taken) cs else none
  | _ + 1, _, [] => none

def longLiteral? : Nat → List Char → List Char → Option (String × List Char)
  | 0, _, _ => none
  | fuel + 1, taken, '\'' :: cs =>
      let (count, ends, rest) := quoteRun '\'' ('\'' :: cs)
      let taken := List.replicate count '\'' ++ taken
      if ends then close taken rest else longLiteral? fuel taken rest
  | fuel + 1, taken, c :: cs =>
      match lineEnd? (c :: cs) with
      | some rest => longLiteral? fuel ('\n' :: taken) rest
      | none => if isPlain c then longLiteral? fuel (c :: taken) cs else none
  | _ + 1, _, [] => none

/-- A line end right behind the opening quotes is no part of the text. -/
def skipFirstLineEnd (cs : List Char) : List Char :=
  (lineEnd? cs).getD cs

/-- A text of any of the four kinds. -/
def quoted? : List Char → Option (String × List Char)
  | '"' :: '"' :: '"' :: cs => longBasic? (cs.length + 1) [] (skipFirstLineEnd cs)
  | '\'' :: '\'' :: '\'' :: cs => longLiteral? (cs.length + 1) [] (skipFirstLineEnd cs)
  | '"' :: cs => basic? (cs.length + 1) [] cs
  | '\'' :: cs => literal? cs
  | _ => none

/-- A character of a key without quotes. -/
def isBare (c : Char) : Bool :=
  c.isAlphanum || c = '_' || c = '-'

def keyPart? : List Char → Option (String × List Char)
  | '"' :: cs => basic? (cs.length + 1) [] cs
  | '\'' :: cs => literal? cs
  | cs =>
      match cs.span isBare with
      | ([], _) => none
      | (name, rest) => some (String.ofList name, rest)

/-- A key of one or more parts with points between them, behind and before blanks. The number of
parts is below the first argument. -/
def key? : Nat → List Char → Option (List String × List Char)
  | 0, _ => none
  | parts + 1, cs => do
      let (part, rest) ← keyPart? (skipBlanks cs)
      match skipBlanks rest with
      | '.' :: rest => do
          let (more, rest) ← key? parts rest
          return (part :: more, rest)
      | rest => return ([part], rest)

end BalancerFlows.Toml
