import BalancerFlows.Failure
import BalancerFlows.Flow

/-!
# Settings

How many items one cloud call may carry, how often tasks are retried, and which source a batch is
recorded under. `validate` refuses settings under which no flow could be built or run.
-/
namespace BalancerFlows

/-- Where rows are stored, and over how many connections. -/
structure DatabaseSettings where
  url : String := "postgresql://localhost/lbflow_development"
  maxConnections : UInt32 := 10
  deriving Repr, DecidableEq, Inhabited

/-- The most items the cloud accepts in one call, by operation. -/
structure BatchLimits where
  addTargets : UInt64 := 100
  removeTargets : UInt64 := 100
  modifyWeight : UInt64 := 500
  modifyPort : UInt64 := 100
  deleteListeners : UInt64 := 20
  deriving Repr, DecidableEq, Inhabited

namespace BatchLimits

/-- The limit of an operation. A rule binding is one call each; the targets of a bound group are
registered under the limit for added targets. -/
def limitFor (l : BatchLimits) : Operation → UInt64
  | .addTarget => l.addTargets
  | .removeTarget => l.removeTargets
  | .modifyTargetWeight => l.modifyWeight
  | .modifyTargetPort => l.modifyPort
  | .deleteListener => l.deleteListeners
  | .bindTargetGroup => 1

end BatchLimits

structure Settings where
  database : DatabaseSettings := {}
  limits : BatchLimits := {}
  retry : RetryPolicy := {}
  defaultSource : String := "api"
  deriving Repr, DecidableEq, Inhabited

instance : Wire DatabaseSettings where
  encode d := .obj [("url", encode d.url), ("max_connections", encode d.maxConnections)]
  decode := readRecord do
    let standard : DatabaseSettings := {}
    return { url := ← defaulted "url" standard.url,
             maxConnections := ← defaulted "max_connections" standard.maxConnections }

instance : Wire BatchLimits where
  encode l := .obj [("add_targets", encode l.addTargets),
    ("remove_targets", encode l.removeTargets),
    ("modify_weight", encode l.modifyWeight), ("modify_port", encode l.modifyPort),
    ("delete_listeners", encode l.deleteListeners)]
  decode := readRecord do
    let standard : BatchLimits := {}
    return { addTargets := ← defaulted "add_targets" standard.addTargets,
             removeTargets := ← defaulted "remove_targets" standard.removeTargets,
             modifyWeight := ← defaulted "modify_weight" standard.modifyWeight,
             modifyPort := ← defaulted "modify_port" standard.modifyPort,
             deleteListeners := ← defaulted "delete_listeners" standard.deleteListeners }

instance : Wire Settings where
  encode s := .obj [("database", encode s.database), ("batch_limits", encode s.limits),
    ("retry", encode s.retry), ("default_source", encode s.defaultSource)]
  decode := readRecord do
    let standard : Settings := {}
    return { database := ← defaulted "database" standard.database,
             limits := ← defaulted "batch_limits" standard.limits,
             retry := ← defaulted "retry" standard.retry,
             defaultSource := ← defaulted "default_source" standard.defaultSource }

namespace Settings

/-- Why settings cannot be used. -/
inductive Objection where
  | zero (name : String)
  | inverted (least most : UInt64)
  deriving Repr, DecidableEq, Inhabited

def Objection.toFailure : Objection → Failure
  | zero name => .configuration (name ++ " must be greater than zero")
  | inverted least most =>
      .configuration ("retry.min_sleep_ms (" ++ toString least ++
        ") exceeds retry.max_sleep_ms (" ++ toString most ++ ")")

/-- The values that must not be zero, with their names, in the order they are looked at: the
limits first and the connections after the retry range. -/
def limitFields (s : Settings) : List (String × UInt64) :=
  [("batch_limits.add_targets", s.limits.addTargets),
   ("batch_limits.remove_targets", s.limits.removeTargets),
   ("batch_limits.modify_weight", s.limits.modifyWeight),
   ("batch_limits.modify_port", s.limits.modifyPort),
   ("batch_limits.delete_listeners", s.limits.deleteListeners)]

def objection? (s : Settings) : Option Objection :=
  match s.limitFields.find? fun f => f.2 = 0 with
  | some field => some (.zero field.1)
  | none =>
      if s.retry.maxAttempts = 0 then some (.zero "retry.max_attempts")
      else if s.retry.maxSleepMs < s.retry.minSleepMs then
        some (.inverted s.retry.minSleepMs s.retry.maxSleepMs)
      else if s.database.maxConnections = 0 then some (.zero "database.max_connections")
      else none

def validate (s : Settings) : Except Failure Unit :=
  match s.objection? with
  | some o => .error o.toFailure
  | none => .ok ()

end Settings

end BalancerFlows
