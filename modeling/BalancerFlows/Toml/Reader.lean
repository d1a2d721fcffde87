import BalancerFlows.Toml.Scalar
import BalancerFlows.Toml.Text
import BalancerFlows.Toml.Tree

/-!
# Reading TOML

`Toml.parse?` reads a document of version 1.0 as one layer. Lists and inline tables nest less than
eighty deep, and a key has fewer than eighty parts.
-/
namespace BalancerFlows.Toml

/-- How deep values may nest, and how many parts a key may have. -/
def depthLimit : Nat := 80

/-- A key, and the value behind its sign of equality. -/
def entryWith? (value? : List Char → Option (Node × List Char)) (cs : List Char) :
    Option (Entry × List Char) := do
  let (key, rest) ← key? (depthLimit - 1) cs
  match rest with
  | '=' :: rest =>
      let (value, rest) ← value? (skipBlanks rest)
      return ({ key, value }, rest)
  | _ => none

/-- The items of a list up to its closing bracket, behind any gap. -/
def itemsWith? (value? : List Char → Option (Node × List Char)) :
    Nat → List Char → Option (List Node × List Char)
  | 0, _ => none
  | fuel + 1, cs =>
      match skipGap (fuel + 1) cs with
      | ']' :: rest => some ([], rest)
      | cs => do
          let (item, rest) ← value? cs
          match skipGap (fuel + 1) rest with
          | ']' :: rest => return ([item], rest)
          | ',' :: rest => do
              let (items, rest) ← itemsWith? value? fuel rest
              return (item :: items, rest)
          | _ => none

/-- One or more entries of an inline table up to its closing brace. -/
def entriesWith? (value? : List Char → Option (Node × List Char)) :
    Nat → List Char → Option (List Entry × List Char)
  | 0, _ => none
  | fuel + 1, cs => do
      let (entry, rest) ← entryWith? value? cs
      match skipBlanks rest with
      | '\x7d' :: rest => return ([entry], rest)
      | ',' :: rest => do
          let (entries, rest) ← entriesWith? value? fuel rest
          return (entry :: entries, rest)
      | _ => none

def inlineTable? (entries : List Entry) : Option Node := do
  return .whole (← Nodes.putEntries [] entries)

/-- A value, with lists and inline tables in it at most so deep. -/
def value? : (depth : Nat) → List Char → Option (Node × List Char)
  | depth, '[' :: cs =>
      match depth with
      | 0 => none
      | depth + 1 => do
          let (items, rest) ← itemsWith? (value? depth) (cs.length + 1) cs
          return (.list items, rest)
  | depth, '\x7b' :: cs =>
      match depth with
      | 0 => none
      | depth + 1 =>
          match skipBlanks cs with
          | '\x7d' :: rest => some (.whole [], rest)
          | cs => do
              let (entries, rest) ← entriesWith? (value? depth) (cs.length + 1) cs
              return (← inlineTable? entries, rest)
  | _, '"' :: cs => do
      let (s, rest) ← quoted? ('"' :: cs)
      return (.value (.text s), rest)
  | _, '\'' :: cs => do
      let (s, rest) ← quoted? ('\'' :: cs)
      return (.value (.text s), rest)
  | _, cs => scalarAt? cs

/-- What a line of a document says. -/
inductive Line where
  | nothing
  | header (h : Header)
  | entry (e : Entry)
  deriving Repr, Inhabited

/-- The key of a header, and what follows its closing brackets. -/
def headerKey? (isListed : Bool) (cs : List Char) : Option (Line × List Char) := do
  let (key, rest) ← key? (depthLimit - 1) cs
  match isListed, rest with
  | false, ']' :: rest => return (.header { key, isListed }, rest)
  | true, ']' :: ']' :: rest => return (.header { key, isListed }, rest)
  | _, _ => none

/-- What a line says, without its comment. -/
def line? : List Char → Option (Line × List Char)
  | '[' :: '[' :: cs => headerKey? true cs
  | '[' :: cs => headerKey? false cs
  | cs =>
      if cs.isEmpty || cs.head? = some '#' || (lineEnd? cs).isSome then some (.nothing, cs)
      else do
        let (entry, rest) ← entryWith? (value? (depthLimit - 1)) cs
        return (.entry entry, rest)

def lines? : Nat → List Char → Option (List Line)
  | 0, _ => none
  | fuel + 1, cs => do
      let (line, rest) ← line? (skipBlanks cs)
      match skipComment (skipBlanks rest) with
      | [] => return [line]
      | rest => do return line :: (← lines? fuel (← lineEnd? rest))

/-- The entries before the first header, and the sections. -/
def split : List Line → List Entry × List Section
  | [] => ([], [])
  | .nothing :: rest => split rest
  | .entry e :: rest =>
      let (entries, sections) := split rest
      (e :: entries, sections)
  | .header header :: rest =>
      let (entries, sections) := split rest
      ([], { header, entries } :: sections)

/-- The text without a byte order mark in front. -/
def skipMark : List Char → List Char
  | '\uFEFF' :: cs => cs
  | cs => cs

/-- Reads a document. Its root is a table and no moment. -/
def parse? (text : String) : Option Layer := do
  let cs := skipMark text.toList
  let (entries, sections) := split (← lines? (cs.length + 1) cs)
  match ← plainTable? (← Nodes.build entries sections) with
  | .table members => some members
  | _ => none

end BalancerFlows.Toml
