import BalancerFlows.Journal.Span
import BalancerFlows.Text.Pattern.Reader

/-!
# Filters

Which events are let through. A filter is a list of directives, and of two that are alike in all
but their level the later one counts. A directive that is only about targets, or about a field
without saying its value, decides about events: of those that fit an event the most specific one
does, and an event that none fits is held back. A directive that is about a span or a field opens
the spans it fits, and within an open span events are let through up to its level, whatever the
other directives say.
-/
namespace BalancerFlows

/-- The name of a level or its number, 0 being none at all. -/
def Level.ofText? (s : String) : Option (Option Level) :=
  match Decimal.unsigned? UInt64.size s with
  | some 0 => some none
  | some 1 => some (some .error)
  | some 2 => some (some .warn)
  | some 3 => some (some .info)
  | some 4 => some (some .debug)
  | some 5 => some (some .trace)
  | _ =>
      match String.ofList (Binary64.lower s.toList) with
      | "off" => some none
      | "error" => some (some .error)
      | "warn" => some (some .warn)
      | "info" => some (some .info)
      | "debug" => some (some .debug)
      | "trace" => some (some .trace)
      | _ => none

/-- What a field has to be: a number, a text that a pattern is found at the end of, or something no
span says, such as a truth value. -/
inductive FieldTest where
  | number (value : Int)
  | pattern (text : String) (pattern : Pattern)
  | never
  deriving Repr, DecidableEq, Inhabited

namespace FieldTest

/-- Reads the text behind a field: a truth value, a whole number of 64 bits, another number, or a
pattern. -/
def ofText? (s : String) : Option FieldTest :=
  if s = "true" ∨ s = "false" then some never
  else
    match (Decimal.unsigned? UInt64.size s).map Int.ofNat <|> Decimal.signed? s with
    | some n => some (number n)
    | none =>
        match Binary64.read? s with
        | some _ => some never
        | none => (Pattern.read? s).map (pattern s)

def accepts : FieldTest → SpanValue → Bool
  | number n, .number value => n = value
  | pattern _ p, .text value => p.matchesEnd value
  | _, _ => false

end FieldTest

/-- A field that a directive is about, by its name alone or with what it has to be. -/
structure FieldCondition where
  name : String
  test : Option FieldTest
  deriving Repr, DecidableEq, Inhabited

/-- What a directive is about: all targets or those that start with some text, and perhaps the
spans of a name and the events or spans with a field. -/
structure Scope where
  target : Option String := none
  span : Option String := none
  field : Option FieldCondition := none
  deriving Repr, DecidableEq, Inhabited

/-- Up to which level events are let through in a scope; without a threshold none is. -/
structure Directive where
  scope : Scope
  threshold : Option Level
  deriving Repr, DecidableEq, Inhabited

abbrev Filter := List Directive

namespace Scope

def isForEvents (s : Scope) : Bool :=
  s.span.isNone && (s.field.bind FieldCondition.test).isNone

def isForSpans (s : Scope) : Bool :=
  s.span.isSome || s.field.isSome

def testsField (s : Scope) : Bool :=
  (s.field.bind FieldCondition.test).isSome

def hasTarget (s : Scope) (target : String) : Bool :=
  match s.target with
  | none => true
  | some start => start.toList.isPrefixOf target.toList

def hasEvent (s : Scope) (e : Event) : Bool :=
  s.hasTarget e.target && match s.field with
    | none => true
    | some condition => e.fieldNames.contains condition.name

def meets (span : Span) (condition : FieldCondition) : Bool :=
  match span.fields.lookup condition.name with
  | none => false
  | some value => condition.test.all (·.accepts value)

def hasSpan (s : Scope) (span : Span) : Bool :=
  s.hasTarget span.target && s.span.all (· = span.name) && s.field.all (meets span)

/-- How closely the scope names its targets; one for all targets names none. -/
def reach (s : Scope) : Nat :=
  match s.target with
  | none => 0
  | some start => start.length + 1

/-- Whether the scope comes before another that fits the same event: it names the target more
closely, or as closely and a field, or as closely and a field that comes later in order. -/
def precedes (s other : Scope) : Bool :=
  if s.reach ≠ other.reach then other.reach < s.reach
  else match s.field, other.field with
    | some field, some otherField => otherField.name < field.name
    | some _, none => true
    | none, _ => false

end Scope

namespace Directive

/-- A character a directive can start with. -/
def isStart (c : Char) : Bool :=
  Text.isAlphanumeric c || c = '[' || c = '-' || c = ':' || c = '_'

/-- The level at the end of a directive, behind a sign of equality. Without the sign or without a
text behind it every level is let through; with it, no blanks are around the directive. -/
def level? (isPadded : Bool) : List Char → Option (Option Level)
  | [] => some (some .trace)
  | '=' :: level =>
      if isPadded then none
      else if level.isEmpty then some (some .trace)
      else Level.ofText? (String.ofList level)
  | _ => none

/-- A directive of one word: a level for all targets, or a target at every level. -/
def ofWord (word : String) : Directive :=
  match Level.ofText? word with
  | some threshold => { scope := {}, threshold }
  | none => { scope := { target := some word }, threshold := some .trace }

/-- The field between braces: a name, and what it has to be behind a sign of equality. -/
def field? (cs : List Char) : Option FieldCondition :=
  match cs.splitOn '=' with
  | [] | [[]] => none
  | [name] => some { name := String.ofList name, test := none }
  | name :: test :: _ => do
      return { name := String.ofList name, test := some (← FieldTest.ofText? (String.ofList test)) }

/-- The span and the field between brackets, behind the opening one, and what is left behind the
closing one. -/
def brackets? (target : Option String) (cs : List Char) : Option (Scope × List Char) :=
  match cs.span fun c => c ≠ ']' && c ≠ '\x7b' with
  | (span, ']' :: rest) => some ({ target, span := some (String.ofList span) }, rest)
  | (span, '\x7b' :: rest) =>
      match rest.span (· ≠ '\x7d') with
      | (field, '\x7d' :: ']' :: rest) => do
          let span := if span.isEmpty then none else some (String.ofList span)
          return ({ target, span, field := some (← field? field) }, rest)
      | _ => none
  | _ => none

/-- Reads a directive. Blanks around a word belong to it. When there are blanks in front of a
directive with brackets, it is about no span there is. -/
def parse? (cs : List Char) : Option Directive := do
  let inner := Text.trim cs
  let isPadded := inner ≠ cs
  guard (inner.head?.any isStart)
  let (head, rest) := inner.span fun c => c ≠ '=' && c ≠ '['
  let target := if head.isEmpty then none else some (String.ofList head)
  match rest with
  | [] => return ofWord (String.ofList cs)
  | '[' :: rest => do
      let (scope, level) ← brackets? target rest
      let scope := if cs.head?.any Text.isBlank then { scope with span := some "" } else scope
      return { scope, threshold := ← level? isPadded level }
  | level => return { scope := { target }, threshold := ← level? isPadded level }

def rank (d : Directive) : Nat :=
  (d.threshold.map Level.rank).getD 0

end Directive

namespace Filter

/-- The parts of a text between commas; empty parts are left out. -/
def parts (s : String) : List (List Char) :=
  (s.toList.splitOn ',').filter fun part => !part.isEmpty

/-- Reads a filter; one directive that cannot be read spoils it. -/
def parse? (s : String) : Option Filter :=
  (parts s).mapM Directive.parse?

def upTo (level : Level) : Filter :=
  [{ scope := {}, threshold := some level }]

/-- The directives that no later one takes the place of. -/
def current : Filter → Filter
  | [] => []
  | d :: rest => if rest.any (·.scope = d.scope) then current rest else d :: current rest

/-- The one of two directives that comes before the other. -/
def closer (best : Option Directive) (d : Directive) : Option Directive :=
  match best with
  | none => some d
  | some b => if d.scope.precedes b.scope then some d else some b

/-- The directive that decides about an event. -/
def deciding? (f : Filter) (e : Event) : Option Directive :=
  (f.current.filter fun d => d.scope.isForEvents && d.scope.hasEvent e).foldl closer none

/-- Whether the directives about events let an event through. -/
def letsEvent (f : Filter) (e : Event) : Bool :=
  match f.deciding? e with
  | some d => e.level.rank ≤ d.rank
  | none => false

/-- Whether spans are looked at: some directive lets through as much, or what the fields of spans
are has to be known. -/
def seesSpans (f : Filter) : Bool :=
  f.any fun d => d.scope.testsField || Span.level.rank ≤ d.rank

/-- How much is let through within a span because of it. -/
def openRank (f : Filter) (s : Span) : Nat :=
  (f.current.filter fun d => d.scope.isForSpans && d.scope.hasSpan s).foldl
    (fun rank d => max rank d.rank) 0

def lets (f : Filter) (o : Occurrence) : Bool :=
  f.letsEvent o.event ||
    (f.seesSpans && o.spans.any fun s => o.event.level.rank ≤ f.openRank s)

end Filter

end BalancerFlows
