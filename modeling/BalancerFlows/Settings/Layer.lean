import BalancerFlows.Keyed
import BalancerFlows.Number.Binary64

/-!
# Layers of settings

Settings are gathered from layers: each gives values under keys, and a later layer wins. A table
laid over a table changes only the members it names; any other value replaces what was there. The
key of a value may be a path, such as `retry.max_attempts`, and the value then goes to that place.
A place in a list may be counted from its end, and has to be in the list then.
-/
namespace BalancerFlows

/-- A value as a layer gives it, before it is read as what a setting needs. -/
inductive RawValue where
  | absent
  | bool (value : Bool)
  | int (value : Int)
  | real (value : Binary64)
  | text (value : String)
  | list (items : List RawValue)
  | table (members : List (String × RawValue))
  deriving Repr, Inhabited

/-- One step of a path, below its root. A place below zero is counted from the end of a list. -/
inductive PathStep where
  | child (name : String)
  | place (index : Int)
  deriving Repr, DecidableEq, Inhabited

namespace RawValue

/-- The members of a table; other values have none. -/
def members : RawValue → Keyed String RawValue
  | table ms => ms
  | _ => []

def items : RawValue → List RawValue
  | list is => is
  | _ => []

/-- The value under a name, absent if there is none. -/
def member (v : RawValue) (name : String) : RawValue :=
  (v.members.get? name).getD absent

mutual

/-- What is in a place after a value was laid over what was there before. -/
def laidOver (current : RawValue) : RawValue → RawValue
  | table ms => overlay current ms
  | value => value

/-- Lays members over a value, one after the other. A value that is no table becomes one. -/
def overlay (current : RawValue) : List (String × RawValue) → RawValue
  | [] => current
  | (name, value) :: rest =>
      overlay (table (current.members.put name (laidOver (current.member name) value))) rest

end

/-- The items of a list, filled up so that a position exists. -/
def filled (position : Nat) (is : List RawValue) : List RawValue :=
  is ++ List.replicate (position + 1 - is.length) absent

/-- The position of a place in a list of so many items. -/
def position? (index : Int) (length : Nat) : Option Nat :=
  if 0 ≤ index then some index.toNat
  else if index.natAbs ≤ length then some (length - index.natAbs)
  else none

/-- Lays a value over what is at the end of a path; what is in a place of a list is replaced. On
the way, what is missing is made, and what is no table or list is replaced by one; only a place
before the start of a list cannot be made. -/
def put (value : RawValue) : List PathStep → RawValue → Option RawValue
  | [], v => some (laidOver v value)
  | .child name :: rest, v => do
      return table (v.members.put name (← put value rest (v.member name)))
  | .place index :: rest, v => do
      let position ← position? index v.items.length
      let is := filled position v.items
      let item := if rest.isEmpty then absent else is.getD position absent
      return list (is.set position (← put value rest item))

theorem laidOver_of_not_table {current value : RawValue} (h : ∀ ms, value ≠ table ms) :
    laidOver current value = value := by
  cases value with
  | table ms => exact absurd rfl (h ms)
  | _ => simp [laidOver]

@[simp] theorem members_table (ms : List (String × RawValue)) : (table ms).members = ms := rfl

end RawValue

namespace PathStep

/-- Whether a character can stand in a name of a path. -/
def isNameChar (c : Char) : Bool :=
  c.isAlphanum || c = ' ' || c = '_' || c = '-'

/-- The index in brackets: digits behind an optional minus sign, with blanks around them. -/
def index? (cs : List Char) : Option Int :=
  let isBlank := fun c => c = ' ' || c = '\t'
  let numeral := (cs.dropWhile isBlank).takeWhile fun c => !isBlank c
  let behind := (cs.dropWhile isBlank).dropWhile fun c => !isBlank c
  if behind.all isBlank then do
    let n ← match numeral with
      | '-' :: digits => (Decimal.read? digits).map fun n => -Int.ofNat n
      | digits => (Decimal.read? digits).map Int.ofNat
    if Decimal.fitsSigned n then some n else none
  else none

/-- The steps behind the root of a path. -/
def behindRoot? : Nat → List Char → Option (List PathStep)
  | _, [] => some []
  | 0, _ => none
  | fuel + 1, '.' :: cs =>
      match cs.span isNameChar with
      | ([], _) => none
      | (name, rest) => (behindRoot? fuel rest).map (child (String.ofList name) :: ·)
  | fuel + 1, '[' :: cs =>
      match cs.span (· ≠ ']') with
      | (inside, ']' :: rest) => do
          let index ← index? inside
          return place index :: (← behindRoot? fuel rest)
      | _ => none
  | _, _ => none

/-- The steps a key consists of; a key that is no path is one name as it stands. -/
def ofKey (key : String) : List PathStep :=
  match key.toList.span isNameChar with
  | ([], _) => [child key]
  | (root, rest) =>
      match behindRoot? rest.length rest with
      | some steps => child (String.ofList root) :: steps
      | none => [child key]

end PathStep

abbrev Layer := List (String × RawValue)

namespace Layer

/-- ASCII letters in lower case: keys are compared without regard to case. -/
def lowerKey (key : String) : String :=
  String.ofList (key.toList.map Char.toLower)

mutual

/-- A value whose tables have all their keys in lower case. -/
def lowered : RawValue → RawValue
  | .list items => .list (loweredItems items)
  | .table members => .table (loweredMembers members)
  | value => value

def loweredItems : List RawValue → List RawValue
  | [] => []
  | v :: rest => lowered v :: loweredItems rest

def loweredMembers : List (String × RawValue) → List (String × RawValue)
  | [] => []
  | (name, value) :: rest => (lowerKey name, lowered value) :: loweredMembers rest

end

/-- Lays a layer over what earlier layers gave. -/
def layOver (root : RawValue) (layer : Layer) : Option RawValue :=
  (loweredMembers layer).foldlM
    (fun v entry => RawValue.put entry.2 (PathStep.ofKey entry.1) v) root

end Layer

end BalancerFlows
