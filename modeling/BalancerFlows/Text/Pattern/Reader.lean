import BalancerFlows.Text.Pattern.Basic
import BalancerFlows.Toml.Text

/-!
# Reading patterns

The written form of patterns: characters stand for themselves, a point for any of them, brackets
enclose sets, `*`, `+` and `?` repeat and are lazy with a question mark behind them, a bar separates
choices, and parentheses group. Each reader takes the characters that are left and gives back what
it read and what is left then.
-/
namespace BalancerFlows.Pattern

/-- A class a letter stands for behind a backslash, and whether it is the class or all others. -/
def namedClass? : Char → Option (Bool × CharClass)
  | 'd' => some (false, .digit)
  | 'D' => some (true, .digit)
  | 's' => some (false, .blank)
  | 'S' => some (true, .blank)
  | 'w' => some (false, .word)
  | 'W' => some (true, .word)
  | _ => none

/-- The character an escape stands for, behind its backslash. -/
def escaped? : List Char → Option (Char × List Char)
  | 'a' :: cs => some ('\x07', cs)
  | 'f' :: cs => some ('\x0c', cs)
  | 'n' :: cs => some ('\n', cs)
  | 'r' :: cs => some ('\r', cs)
  | 't' :: cs => some ('\t', cs)
  | 'v' :: cs => some ('\x0b', cs)
  | 'x' :: cs => Toml.numbered? 2 cs
  | 'u' :: cs => Toml.numbered? 4 cs
  | 'U' :: cs => Toml.numbered? 8 cs
  | c :: cs => if c.toNat < 128 && !c.isAlphanum && c ≠ '<' && c ≠ '>' then some (c, cs) else none
  | [] => none

/-- An escape outside of brackets, behind its backslash. -/
def escape? : List Char → Option (Pattern × List Char)
  | 'A' :: cs => some (.start, cs)
  | 'z' :: cs => some (.stop, cs)
  | c :: cs =>
      match namedClass? c with
      | some (isNegated, named) => some (.one (.ofClass isNegated named), cs)
      | none => (escaped? (c :: cs)).map fun (c, rest) => (.one (.single c), rest)
  | [] => none

/-- A character within brackets, as itself or by an escape. -/
def setChar? : List Char → Option (Char × List Char)
  | '\\' :: cs => escaped? cs
  | c :: cs => some (c, cs)
  | [] => none

/-- Whether a hyphen follows that stands between the ends of a range. -/
def isRange : List Char → Bool
  | '-' :: c :: _ => c ≠ ']' && c ≠ '-'
  | _ => false

/-- A class within brackets: a named one, one character, or all from one to another. -/
def setItem? : List Char → Option ((Bool × CharClass) × List Char)
  | [] => none
  | '[' :: _ => none
  | c :: cs => do
      if c = '\\' then
        if let some named := cs.head?.bind namedClass? then
          if isRange (cs.drop 1) then none
          return (named, cs.drop 1)
      let (first, rest) ← setChar? (c :: cs)
      if isRange rest then
        let (last, rest) ← setChar? (rest.drop 1)
        if first ≤ last then some ((false, .range first last), rest) else none
      else return ((false, .range first first), rest)

/-- Whether the characters start with a mark that joins sets, which are not read. -/
def joinsSets : List Char → Bool
  | '&' :: '&' :: _ | '-' :: '-' :: _ | '~' :: '~' :: _ => true
  | _ => false

/-- The classes of a set up to its closing bracket, added to those before them. -/
def setItems? : Nat → CharSet → List Char → Option (CharSet × List Char)
  | 0, _, _ => none
  | fuel + 1, set, cs =>
      match cs with
      | ']' :: rest => some (set, rest)
      | cs =>
          if joinsSets cs then none
          else do
            let ((isOther, named), rest) ← setItem? cs
            setItems? fuel
              (if isOther then { set with outside := set.outside ++ [named] }
               else { set with inside := set.inside ++ [named] }) rest

/-- A set behind its opening bracket. Hyphens and a closing bracket stand for themselves when they
come first. -/
def set? (cs : List Char) : Option (CharSet × List Char) :=
  let isNegated := cs.head? = some '^'
  let cs := if isNegated then cs.drop 1 else cs
  let hyphens := cs.takeWhile (· = '-')
  let cs := cs.drop hyphens.length
  let first := hyphens.take 1 ++ if hyphens.isEmpty && cs.head? = some ']' then [']'] else []
  let cs := if first = [']'] then cs.drop 1 else cs
  setItems? (cs.length + 1) { isNegated, inside := first.map fun c => .range c c } cs

/-- A pattern with the repetitions behind it. -/
def repeated (p : Pattern) : List Char → Pattern × List Char
  | '*' :: '?' :: cs => repeated (star false p) cs
  | '+' :: '?' :: cs => repeated (plus false p) cs
  | '?' :: '?' :: cs => repeated (optional false p) cs
  | '*' :: cs => repeated (star true p) cs
  | '+' :: cs => repeated (plus true p) cs
  | '?' :: cs => repeated (optional true p) cs
  | cs => (p, cs)

mutual

/-- Choices with bars between them. -/
def choice? : Nat → List Char → Option (Pattern × List Char)
  | 0, _ => none
  | fuel + 1, cs => do
      let (first, rest) ← chain? fuel cs
      match rest with
      | '|' :: rest => do
          let (others, rest) ← choice? fuel rest
          return (either first others, rest)
      | rest => return (first, rest)

/-- Parts that follow each other, up to a bar, a closing parenthesis or the end. -/
def chain? : Nat → List Char → Option (Pattern × List Char)
  | 0, _ => none
  | fuel + 1, cs =>
      match cs with
      | [] => some (empty, [])
      | '|' :: _ | ')' :: _ => some (empty, cs)
      | cs => do
          let (part, rest) ← part? fuel cs
          let (part, rest) := repeated part rest
          let (others, rest) ← chain? fuel rest
          return (part.andThen others, rest)

def part? : Nat → List Char → Option (Pattern × List Char)
  | 0, _ => none
  | _ + 1, [] => none
  | fuel + 1, c :: cs =>
      match c with
      | '(' =>
          let inside := match cs with
            | '?' :: ':' :: cs => cs
            | cs => cs
          match choice? fuel inside with
          | some (p, ')' :: rest) => some (p, rest)
          | _ => none
      | '[' => (set? cs).map fun (set, rest) => (.one set, rest)
      | '\\' => escape? cs
      | '.' => some (.one .notLineEnd, cs)
      | '^' => some (start, cs)
      | '$' => some (stop, cs)
      | '*' | '+' | '?' | '\x7b' => none
      | c => some (.one (.single c), cs)

end

def read? (s : String) : Option Pattern :=
  match choice? (3 * s.length + 3) s.toList with
  | some (p, []) => some p
  | _ => none

end BalancerFlows.Pattern
