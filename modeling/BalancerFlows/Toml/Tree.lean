import BalancerFlows.Settings.Layer
import BalancerFlows.Toml.Moment

/-!
# The tree of a TOML document

Headers and dotted keys build one tree. It remembers how each table came about, because a table
under a header may be opened only once, and dotted keys may extend only tables made by dotted keys.
-/
namespace BalancerFlows.Toml

/-- How a table came about: under a header of its own, on the way to one, or by dotted keys. -/
inductive Origin where
  | header | passed | dotted
  deriving Repr, DecidableEq, Inhabited

/-- A part of a document: a value, which stays as it is, a table, or a list of tables under doubled
headers. -/
inductive Node where
  /-- A truth value, a number or a quoted text. -/
  | value (v : RawValue)
  | moment (text : String)
  | list (items : List Node)
  /-- A table within one value. -/
  | whole (members : List (String × Node))
  | table (origin : Origin) (members : List (String × Node))
  | tables (items : List (List (String × Node)))
  deriving Repr, Inhabited

/-- The members of a table that is being built. -/
abbrev Nodes := Keyed String Node

structure Entry where
  key : List String
  value : Node
  deriving Repr, Inhabited

structure Header where
  key : List String
  isListed : Bool
  deriving Repr, Inhabited

/-- A header and the entries below it. -/
structure Section where
  header : Header
  entries : List Entry
  deriving Repr, Inhabited

namespace Nodes

def addNew (nodes : Nodes) (name : String) (node : Node) : Option Nodes :=
  match nodes.get? name with
  | some _ => none
  | none => some (nodes.put name node)

def changeLast (f : Nodes → Option Nodes) : List Nodes → Option (List Nodes)
  | [] => none
  | [last] => do return [← f last]
  | first :: rest => do return first :: (← changeLast f rest)

/-- Puts a value under a key. A key of several parts goes through tables made by dotted keys, or
makes them. -/
def putEntry (value : Node) (mayEnd : Bool) : (key : List String) → Nodes → Option Nodes
  | [], _ => none
  | [name], nodes => if mayEnd then addNew nodes name value else none
  | name :: rest, nodes =>
      match nodes.get? name with
      | none => do
          return nodes.put name (.table .dotted (← putEntry value true rest []))
      | some (.table .passed inner) => do
          return nodes.put name (.table .passed (← putEntry value false rest inner))
      | some (.table .dotted inner) => do
          return nodes.put name (.table .dotted (← putEntry value true rest inner))
      | some (.tables items) => do
          return nodes.put name (.tables (← changeLast (putEntry value false rest) items))
      | some _ => none

def putEntries (nodes : Nodes) (entries : List Entry) : Option Nodes :=
  entries.foldlM (fun nodes e => putEntry e.value true e.key nodes) nodes

/-- Opens the table of a header at its last part, and fills it. A table that was only passed so far
goes behind the others. -/
def openTable (s : Section) (name : String) (nodes : Nodes) : Option Nodes :=
  if s.header.isListed then
    match nodes.get? name with
    | none => do return nodes.put name (.tables [← putEntries [] s.entries])
    | some (.tables items) => do
        return nodes.put name (.tables (items ++ [← putEntries [] s.entries]))
    | some _ => none
  else
    match nodes.get? name with
    | none => do return nodes.put name (.table .header (← putEntries [] s.entries))
    | some (.table .passed inner) => do
        return (nodes.erase name).put name (.table .header (← putEntries inner s.entries))
    | some _ => none

/-- Goes to the table of a header, through tables of any origin and the last of listed ones. -/
def putSection (s : Section) : (key : List String) → Nodes → Option Nodes
  | [], _ => none
  | [name], nodes => openTable s name nodes
  | name :: rest, nodes =>
      match nodes.get? name with
      | none => do return nodes.put name (.table .passed (← putSection s rest []))
      | some (.table origin inner) => do
          return nodes.put name (.table origin (← putSection s rest inner))
      | some (.tables items) => do
          return nodes.put name (.tables (← changeLast (putSection s rest) items))
      | some _ => none

/-- The tree of a document: the entries before the first header, and the sections. -/
def build (entries : List Entry) (sections : List Section) : Option Nodes := do
  let nodes ← putEntries [] entries
  sections.foldlM (fun nodes s => putSection s s.header.key nodes) nodes

end Nodes

/-- The key that marks a table as a moment when it is the first. -/
def momentKey : String :=
  "$__toml_private_datetime"

/-- The moment a value stands for under its key: a quoted text that reads as one. -/
def Node.asMoment? : Node → Option RawValue
  | .value (.text s) => (Moment.read? .quoted s.toList).map .text
  | _ => none

mutual

/-- A node as a value; a moment is its text. -/
def Node.plain? : Node → Option RawValue
  | .value v => some v
  | .moment s => some (.text s)
  | .list items => (plainItems? items).map .list
  | .whole members | .table _ members => plainTable? members
  | .tables items => (plainTables? items).map .list

/-- A table as a value; one that is marked as a moment has to be one. -/
def plainTable? : List (String × Node) → Option RawValue
  | [] => some (.table [])
  | (name, node) :: rest =>
      if name = momentKey then node.asMoment?
      else do return .table ((name, ← node.plain?) :: (← plainMembers? rest))

def plainMembers? : List (String × Node) → Option (List (String × RawValue))
  | [] => some []
  | (name, node) :: rest => do return (name, ← node.plain?) :: (← plainMembers? rest)

def plainItems? : List Node → Option (List RawValue)
  | [] => some []
  | node :: rest => do return (← node.plain?) :: (← plainItems? rest)

def plainTables? : List (List (String × Node)) → Option (List RawValue)
  | [] => some []
  | members :: rest => do return (← plainTable? members) :: (← plainTables? rest)

end

end BalancerFlows.Toml
