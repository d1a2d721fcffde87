import BalancerFlows.Vocabulary
import BalancerFlows.Json.Basic

/-!
# Wire forms

How values are written as JSON and read back. A record is an object of its members, and may also
be given as the array of its members in order; members with other names are ignored. A member may
be `required`, `optional` (absent means null) or `defaulted`. Reading refuses with `none` and
gives no reason.
-/
namespace BalancerFlows

/-- A type with a JSON form. -/
class Wire (α : Type) where
  encode : α → Json
  decode : Json → Option α

export Wire (encode decode)

namespace Json

/-- The whole number a value is, if it lies from `low` to `high`. -/
def intWithin (low high : Int) : Json → Option Int
  | int n => if low ≤ n ∧ n ≤ high then some n else none
  | _ => none

def decodeItems {α : Type} [Wire α] : List Json → Option (List α)
  | [] => some []
  | j :: js => do
      let a ← decode j
      let as ← decodeItems js
      return a :: as

end Json

instance : Wire Json where
  encode j := j
  decode j := some j

instance : Wire Bool where
  encode b := .bool b
  decode
    | .bool b => some b
    | _ => none

instance : Wire String where
  encode s := .str s
  decode
    | .str s => some s
    | _ => none

instance : Wire Int64 where
  encode n := .int n.toInt
  decode j := (j.intWithin Int64.minValue.toInt Int64.maxValue.toInt).map Int64.ofInt

instance : Wire UInt16 where
  encode n := .int n.toNat
  decode j := (j.intWithin 0 (UInt16.size - 1)).map fun n => UInt16.ofNat n.toNat

instance : Wire UInt32 where
  encode n := .int n.toNat
  decode j := (j.intWithin 0 (UInt32.size - 1)).map fun n => UInt32.ofNat n.toNat

instance : Wire UInt64 where
  encode n := .int n.toNat
  decode j := (j.intWithin 0 (UInt64.size - 1)).map fun n => UInt64.ofNat n.toNat

instance {α : Type} [Wire α] : Wire (List α) where
  encode as := .arr (as.map encode)
  decode
    | .arr items => Json.decodeItems items
    | _ => none

instance {α : Type} [Wire α] : Wire (Option α) where
  encode
    | none => .null
    | some a => encode a
  decode
    | .null => some none
    | j => (decode j).map some

/-- A member of a vocabulary is its text; an object whose only member has that name and no value
is read as well. -/
instance (priority := low) {α : Type} [Vocabulary α] : Wire α where
  encode a := .str (text a)
  decode
    | .str s => Vocabulary.ofText? s
    | .obj [(s, .null)] => Vocabulary.ofText? s
    | _ => none

/-- The members of a record that is being read: by name, or those still to come by place. -/
inductive Members where
  | named (members : List (String × Json))
  | placed (items : List Json)
  deriving Repr

/-- A reader of some members of a record. -/
abbrev Reading := StateT Members Option

namespace Members

/-- The members of an object or of an array. -/
def of? : Json → Option Members
  | .obj members => some (.named members)
  | .arr items => some (.placed items)
  | _ => none

/-- Nothing was left over: an array may not be longer than its record. -/
def isUsedUp : Members → Bool
  | .named _ => true
  | .placed items => items.isEmpty

/-- The value of the next member, which is looked up by name in an object. -/
def next (name : String) : Members → Option Json × Members
  | .named members => (members.lookup name, .named members)
  | .placed [] => (none, .placed [])
  | .placed (j :: js) => (some j, .placed js)

end Members

def required {α : Type} [Wire α] (name : String) : Reading α := fun m =>
  match m.next name with
  | (some j, rest) => (decode j).map (·, rest)
  | (none, _) => none

/-- A member that may be absent from an object, which reads as null. -/
def optional {α : Type} [Wire α] (name : String) : Reading (Option α) := fun m =>
  match m, m.next name with
  | _, (some j, rest) => (decode j).map (·, rest)
  | .named _, (none, rest) => some (none, rest)
  | .placed _, (none, _) => none

/-- A member that takes a fixed value when it is absent; null does not count as absent. -/
def defaulted {α : Type} [Wire α] (name : String) (default : α) : Reading α := fun m =>
  match m.next name with
  | (some j, rest) => (decode j).map (·, rest)
  | (none, rest) => some (default, rest)

def readRecord {α : Type} (reader : Reading α) (j : Json) : Option α := do
  let members ← Members.of? j
  let (a, rest) ← reader members
  if rest.isUsedUp then some a else none

@[simp] theorem Members.next_named (name : String) (ms : List (String × Json)) :
    (Members.named ms).next name = (ms.lookup name, .named ms) := rfl

/-- A record read from an object never complains about members it does not know. -/
theorem readRecord_obj {α : Type} (reader : Reading α) (ms : List (String × Json)) :
    readRecord reader (.obj ms) = (do
      let (a, rest) ← reader (.named ms)
      if rest.isUsedUp then some a else none) := rfl

end BalancerFlows
