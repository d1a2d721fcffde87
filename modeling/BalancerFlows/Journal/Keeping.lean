import BalancerFlows.Journal.Filter

/-!
# Keeping a journal

In which form events are written down, and which of them. Both follow from the environment, unless
a journal is kept already: then that one goes on and takes every event.
-/
namespace BalancerFlows

/-- An event as one record: its level, its target, and its fields with the message among them. -/
def Event.toJson (e : Event) : Json :=
  .obj [("level", .str e.level.text), ("target", .str e.target),
    ("fields", .obj (("message", .str e.message) :: e.fields))]

inductive JournalForm where
  | text | json
  deriving Repr, DecidableEq, Inhabited

/-- A journal: its form, and what it takes. Without a filter it takes everything. -/
structure Journal where
  form : JournalForm
  filter : Option Filter
  deriving Repr, DecidableEq, Inhabited

namespace Journal

def valueOf? (environment : List (String × String)) (name : String) : Option String :=
  environment.lookup name

/-- The name of the surroundings the program runs in. -/
def surroundings (environment : List (String × String)) : String :=
  (valueOf? environment "LBFLOW_ENV" <|> valueOf? environment "APP_ENV").getD "development"

/-- The level in these surroundings: production is quieter. -/
def standardLevel (surroundings : String) : Level :=
  if surroundings = "production" then .info else .debug

def levelName (level : Level) : String :=
  String.ofList (Binary64.lower level.text.toList)

/-- The filter: the one that is asked for, if it can be read, else the one of the surroundings. -/
def filterFor (environment : List (String × String)) : Filter :=
  ((valueOf? environment "RUST_LOG").bind Filter.parse?).getD
    (Filter.upTo (standardLevel (surroundings environment)))

def formFor (environment : List (String × String)) : JournalForm :=
  match valueOf? environment "LBFLOW_LOG_FORMAT" with
  | some form => if Binary64.lower form.toList = "json".toList then .json else .text
  | none => .text

def ofEnvironment (environment : List (String × String)) : Journal :=
  { form := formFor environment, filter := some (filterFor environment) }

/-- What the start of a journal reports: that another is kept already, and the surroundings. -/
def startEvents (isKept : Bool) (environment : List (String × String)) : List Event :=
  let name := surroundings environment
  (if isKept then [Event.journalKept] else []) ++
    [.loggingStarted name (levelName (standardLevel name))]

def takes (j : Journal) (o : Occurrence) : Bool :=
  match j.filter with
  | none => true
  | some f => f.lets o

def entries (j : Journal) (occurrences : List Occurrence) : List Event :=
  (occurrences.filter j.takes).map Occurrence.event

end Journal

end BalancerFlows
