import BalancerFlows.Settings.Basic
import BalancerFlows.Settings.Layer
import BalancerFlows.Toml.Reader

/-!
# Loading settings

Settings come from three layers: the standard values, a TOML file if there is one, and the
variables of the environment that start with `LBFLOW__`. What the layers give together is read
leniently (a whole number may be given as a float, a truth value or a text) and then validated.
-/
namespace BalancerFlows

namespace RawValue

/-- The words that count as 1, in lower case. -/
def trueWords : List String := ["true", "on", "yes"]

def falseWords : List String := ["false", "off", "no"]

/-- A value as a number of 64 bits: a whole number in range, a float rounded and cut off, a truth
value, or a text that is a word for one or a numeral. -/
def word64? : RawValue → Option UInt64
  | int n => if 0 ≤ n ∧ n < UInt64.size then some (UInt64.ofNat n.toNat) else none
  | real x => some (UInt64.ofNat (x.saturate UInt64.size))
  | bool b => some (if b then 1 else 0)
  | text s =>
      if Layer.lowerKey s ∈ trueWords then some 1
      else if Layer.lowerKey s ∈ falseWords then some 0
      else (Decimal.unsigned? UInt64.size s).map UInt64.ofNat
  | _ => none

/-- A value as a number of 32 bits: its number of 64 bits, if that is in range. -/
def word32? (v : RawValue) : Option UInt32 := do
  let n ← v.word64?
  if n.toNat < UInt32.size then some n.toUInt32 else none

/-- A value as a text; numbers and truth values are written out. -/
def text? : RawValue → Option String
  | text s => some s
  | int n => some (toString n)
  | real x => some x.text
  | bool b => some (toString b)
  | _ => none

end RawValue

/-- The members of a section that is being read: by name, or those still to come by place. -/
inductive RawSection where
  | named (members : List (String × RawValue))
  | placed (items : List RawValue)
  deriving Repr, Inhabited

/-- A reader of some members of a section. -/
abbrev SectionReading := StateT RawSection Option

namespace RawSection

def of? : RawValue → Option RawSection
  | .table members => some (named members)
  | .list items => some (placed items)
  | _ => none

def next (name : String) : RawSection → Option RawValue × RawSection
  | named members => (Keyed.get? members name, named members)
  | placed [] => (none, placed [])
  | placed (v :: rest) => (some v, placed rest)

/-- A member that takes a standard value when it is missing. -/
def setting {α : Type} (read : RawValue → Option α) (name : String) (standard : α) :
    SectionReading α := fun s =>
  match s.next name with
  | (some v, rest) => (read v).map (·, rest)
  | (none, rest) => some (standard, rest)

/-- Reads a section; members it does not know are ignored. -/
def read {α : Type} (reader : SectionReading α) (v : RawValue) : Option α := do
  let (a, _) ← reader (← of? v)
  return a

end RawSection

namespace Settings

open RawSection (setting)

def readDatabase : RawValue → Option DatabaseSettings :=
  RawSection.read do
    let standard : DatabaseSettings := {}
    return { url := ← setting RawValue.text? "url" standard.url
             maxConnections :=
               ← setting RawValue.word32? "max_connections" standard.maxConnections }

def readLimits : RawValue → Option BatchLimits :=
  RawSection.read do
    let standard : BatchLimits := {}
    return { addTargets := ← setting RawValue.word64? "add_targets" standard.addTargets
             removeTargets := ← setting RawValue.word64? "remove_targets" standard.removeTargets
             modifyWeight := ← setting RawValue.word64? "modify_weight" standard.modifyWeight
             modifyPort := ← setting RawValue.word64? "modify_port" standard.modifyPort
             deleteListeners :=
               ← setting RawValue.word64? "delete_listeners" standard.deleteListeners }

def readRetry : RawValue → Option RetryPolicy :=
  RawSection.read do
    let standard : RetryPolicy := {}
    return { maxAttempts := ← setting RawValue.word32? "max_attempts" standard.maxAttempts
             minSleepMs := ← setting RawValue.word64? "min_sleep_ms" standard.minSleepMs
             maxSleepMs := ← setting RawValue.word64? "max_sleep_ms" standard.maxSleepMs }

def ofRaw? : RawValue → Option Settings :=
  RawSection.read do
    let standard : Settings := {}
    return { database := ← setting readDatabase "database" standard.database
             limits := ← setting readLimits "batch_limits" standard.limits
             retry := ← setting readRetry "retry" standard.retry
             defaultSource := ← setting RawValue.text? "default_source" standard.defaultSource }

def rawCount (n : Nat) : RawValue :=
  .int n

/-- Settings as the first layer. -/
def toRaw (s : Settings) : RawValue :=
  .table
    [("database", .table
      [("url", .text s.database.url),
        ("max_connections", rawCount s.database.maxConnections.toNat)]),
     ("batch_limits", .table
      [("add_targets", rawCount s.limits.addTargets.toNat),
       ("remove_targets", rawCount s.limits.removeTargets.toNat),
       ("modify_weight", rawCount s.limits.modifyWeight.toNat),
       ("modify_port", rawCount s.limits.modifyPort.toNat),
       ("delete_listeners", rawCount s.limits.deleteListeners.toNat)]),
     ("retry", .table
      [("max_attempts", rawCount s.retry.maxAttempts.toNat),
       ("min_sleep_ms", rawCount s.retry.minSleepMs.toNat),
       ("max_sleep_ms", rawCount s.retry.maxSleepMs.toNat)]),
     ("default_source", .text s.defaultSource)]

end Settings

abbrev Environment := List (String × String)

namespace Environment

/-- What a variable has to start with to give a setting, in lower case. -/
def marker : List Char := "lbflow__".toList

/-- A name with each pair of underscores turned into the point of a path. -/
def dotted : List Char → List Char
  | '_' :: '_' :: cs => '.' :: dotted cs
  | c :: cs => c :: dotted cs
  | [] => []

/-- The key a variable gives a value for, if it gives one. -/
def keyOf? (name : String) : Option String :=
  let name := (Layer.lowerKey name).toList
  if marker.isPrefixOf name then some (String.ofList (dotted (name.drop marker.length))) else none

/-- What the text of a variable stands for: a truth value, a whole number, a float, or itself. -/
def valueOf (s : String) : RawValue :=
  if Layer.lowerKey s = "true" then .bool true
  else if Layer.lowerKey s = "false" then .bool false
  else match Decimal.signed? s, Binary64.read? s with
    | some n, _ => .int n
    | none, some x => .real x
    | none, none => .text s

def layer (e : Environment) : Layer :=
  e.filterMap fun (name, value) => (keyOf? name).map fun key => (key, valueOf value)

end Environment

/-- The file settings are loaded from. -/
inductive SettingsFile where
  | unreadable
  | content (text : String)
  deriving Repr, DecidableEq, Inhabited

inductive LoadFailure where
  /-- The file cannot be read, or a value is not of the kind its setting needs. -/
  | malformed
  /-- A key counts from the end of a list to a place before its start. -/
  | misplaced
  /-- The settings were read and are refused. -/
  | refused (objection : Settings.Objection)
  deriving Repr, DecidableEq, Inhabited

namespace Settings

def fileLayer? : Option SettingsFile → Option Layer
  | none => some []
  | some .unreadable => none
  | some (.content text) => Toml.parse? text

/-- What the layers give together: standard values, the file, the environment. -/
def gather (file : Layer) (e : Environment) : Option RawValue := do
  Layer.layOver (← Layer.layOver ({} : Settings).toRaw file) e.layer

def load (file : Option SettingsFile) (e : Environment) : Except LoadFailure Settings :=
  match fileLayer? file with
  | none => .error .malformed
  | some layer =>
      match (gather layer e).map ofRaw? with
      | none => .error .misplaced
      | some none => .error .malformed
      | some (some s) =>
          match s.objection? with
          | some objection => .error (.refused objection)
          | none => .ok s

end Settings

end BalancerFlows
