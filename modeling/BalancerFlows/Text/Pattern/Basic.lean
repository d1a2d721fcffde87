import BalancerFlows.Text.Alphanumeric
import BalancerFlows.Text.Basic

/-!
# Patterns

Patterns for texts. A search goes through the text once and keeps all ways of reading it that are
still open, the preferred ones first. As soon as one way has read the whole pattern, the ways that
come after it are given up. `Pattern.matchesEnd` asks whether a way that is still open then has
read the whole pattern when the text ends, so `remove` is found at the end of `remove` and not in
`remove_target`, where the way that found it leads no further.
-/
namespace BalancerFlows

/-- A class of characters. -/
inductive CharClass where
  | range (first last : Char)
  | digit
  | blank
  | word
  deriving Repr, DecidableEq, Inhabited

namespace CharClass

def contains : CharClass → Char → Bool
  | range first last, c => first ≤ c && c ≤ last
  | digit, c => c.isDigit
  | blank, c => Text.isBlank c
  | word, c => Text.isAlphanumeric c || c = '_'

end CharClass

/-- A set of characters: those of some classes and those outside some others, or all but these. -/
structure CharSet where
  isNegated : Bool
  inside : List CharClass
  outside : List CharClass := []
  deriving Repr, DecidableEq, Inhabited

namespace CharSet

def ofClass (isNegated : Bool) (c : CharClass) : CharSet :=
  { isNegated, inside := [c] }

def single (c : Char) : CharSet :=
  ofClass false (.range c c)

def notLineEnd : CharSet :=
  ofClass true (.range '\n' '\n')

def contains (s : CharSet) (c : Char) : Bool :=
  s.isNegated != (s.inside.any (·.contains c) || s.outside.any (!·.contains c))

end CharSet

/-- A pattern. Where it may go on or stop, a greedy one prefers to go on. -/
inductive Pattern where
  | empty
  | one (set : CharSet)
  /-- The start of the text. -/
  | start
  /-- The end of the text. -/
  | stop
  | seq (first second : Pattern)
  | either (first second : Pattern)
  | optional (isGreedy : Bool) (body : Pattern)
  /-- Once or more. -/
  | plus (isGreedy : Bool) (body : Pattern)
  /-- Any number of times more, after one that read something. -/
  | more (isGreedy : Bool) (body : Pattern)
  deriving Repr, DecidableEq, Inhabited

namespace Pattern

def andThen : Pattern → Pattern → Pattern
  | empty, q => q
  | p, empty => p
  | p, q => seq p q

/-- Whether a pattern can be read without a character. -/
def isNullable : Pattern → Bool
  | empty | start | stop | optional .. | more .. => true
  | one _ => false
  | seq p q => p.isNullable && q.isNullable
  | either p q => p.isNullable || q.isNullable
  | plus _ p => p.isNullable

def star (isGreedy : Bool) (p : Pattern) : Pattern :=
  if p.isNullable then optional isGreedy (plus isGreedy p) else more isGreedy p

/-- One way to go on with a pattern. -/
inductive Way where
  /-- The pattern has been read. -/
  | done
  /-- A character of the set comes next, and then the rest. -/
  | reads (set : CharSet) (rest : Pattern)
  /-- The text ends here, and then comes the rest. -/
  | ends (rest : Pattern)
  deriving Repr, DecidableEq, Inhabited

/-- The way on, with something behind what is left. A way that is done is what `atDone` says. -/
def Way.followedBy (next : Pattern) (atDone : List Way) : Way → List Way
  | done => atDone
  | reads set rest => [reads set (rest.andThen next)]
  | ends rest => [ends (rest.andThen next)]

/-- Two kinds of ways in the order of preference. -/
def preferring (isGreedy : Bool) (goingOn stopping : List Way) : List Way :=
  if isGreedy then goingOn ++ stopping else stopping ++ goingOn

/-- The ways to go on, the preferred ones first. -/
def ways (atStart : Bool) : Pattern → List Way
  | empty => [.done]
  | one set => [.reads set empty]
  | start => if atStart then [.done] else []
  | stop => [.ends empty]
  | seq p q => (p.ways atStart).flatMap (Way.followedBy q (q.ways atStart))
  | either p q => p.ways atStart ++ q.ways atStart
  | optional isGreedy p => preferring isGreedy (p.ways atStart) [.done]
  | plus isGreedy p => (p.ways atStart).flatMap (Way.followedBy (more isGreedy p) [.done])
  | more isGreedy p =>
      preferring isGreedy ((p.ways atStart).flatMap (Way.followedBy (more isGreedy p) [])) [.done]

/-- Whether a pattern can be read at the end of the text. -/
def readsEnd (atStart : Bool) : Pattern → Bool
  | empty | stop | optional .. | more .. => true
  | one _ => false
  | start => atStart
  | seq p q => p.readsEnd atStart && q.readsEnd atStart
  | either p q => p.readsEnd atStart || q.readsEnd atStart
  | plus _ p => p.readsEnd atStart

/-- Adds a way behind the others, unless it is among them. -/
def addNew (kept : List Way) (w : Way) : List Way :=
  if w ∈ kept then kept else kept ++ [w]

/-- Keeps the first of equal ways. -/
def distinct (ws : List Way) : List Way :=
  ws.foldl addNew []

/-- The ways that are given up to no other: those before the first that is done. -/
def live (ws : List Way) : List Way :=
  ws.takeWhile (· ≠ .done)

/-- The ways one way has behind a character. -/
def Way.next (c : Char) : Way → List Way
  | reads set rest => if set.contains c then rest.ways false else []
  | done | ends _ => []

/-- The search behind a character: the ways on, and whether the pattern may still start later. -/
def advance (p : Pattern) (search : List Way × Bool) (c : Char) : List Way × Bool :=
  let (ws, mayStart) := search
  let mayStart := mayStart && !ws.contains .done
  let next := (live ws).flatMap (Way.next c)
  (distinct (next ++ if mayStart then p.ways false else []), mayStart)

/-- Whether a way is done when the text ends. -/
def Way.isOver (atStart : Bool) : Way → Bool
  | done => true
  | reads .. => false
  | ends rest => rest.readsEnd atStart

/-- Whether a search through a text has read the pattern when the text ends. -/
def matchesEnd (p : Pattern) (text : String) : Bool :=
  let (ws, _) := text.toList.foldl p.advance (distinct (p.ways true), true)
  ws.any (Way.isOver text.isEmpty)

end Pattern

end BalancerFlows
