import BalancerFlows.Batch.Record
import BalancerFlows.Flow

/-!
# Events

What is reported while flows are built, one constructor per kind of event. `level`, `target`,
`message` and `fields` give the form in which an event is written; a field without a value is
left out.
-/
namespace BalancerFlows

/-- How important an event is, from the most to the least important. -/
inductive Level where
  | error | warn | info | debug | trace
  deriving Repr, DecidableEq, Inhabited

namespace Level

def text : Level → String
  | error => "ERROR"
  | warn => "WARN"
  | info => "INFO"
  | debug => "DEBUG"
  | trace => "TRACE"

/-- How much is let through at a level, counted from the most important. -/
def rank : Level → Nat
  | error => 1
  | warn => 2
  | info => 3
  | debug => 4
  | trace => 5

end Level

/-- One finished attempt to build a flow. -/
structure OperationRecord where
  operation : String
  resource : String
  flow : Option Int64
  status : String
  taskCount : UInt64
  detailCount : UInt64
  /-- How long the attempt took, when it was measured. -/
  durationMs : Option UInt64 := none
  details : Option String := none
  deriving Repr, DecidableEq, Inhabited

inductive Event where
  | loggingStarted (environment level : String)
  | journalKept
  | settingsLoading (path : String)
  | operation (record : OperationRecord)
  | detailsCreated (batch : Int64) (work : Operation) (count : Nat)
  | taskChained (id : ActionId) (action : Action) (count : Nat) (behind : List ActionId)
  | resourceOwned (resource : String) (owner : Int64) (kind : LockKind)
  | lockTaken (resource : String) (flow : Int64) (kind : LockKind)
  | lockHeld (resource : String) (flow : Int64)
  | lockLost (resource : String) (flow owner : Int64)
  | lockReleased (resource : String) (flow : Int64) (released : Bool)
  | unwindFailed (count : Nat) (cause failure : Failure)
  | unwound (count : Nat) (cause : Failure)
  | buildStarted (tasks items : Nat)
  | flowAssembled (flow : Int64) (tasks details : Nat)
  | settledLocally (count : Nat)
  | workFailed (resource : String) (failure : Failure)
  | batchProcessed (batch : Int64) (flows settled failures : Nat)
  deriving Repr, DecidableEq, Inhabited

namespace Event

def level : Event → Level
  | unwindFailed .. => .error
  | resourceOwned .. | lockLost .. | unwound .. | workFailed .. => .warn
  | loggingStarted .. | operation _ | lockTaken .. | buildStarted .. | flowAssembled ..
  | batchProcessed .. => .info
  | journalKept | settingsLoading _ | detailsCreated .. | taskChained .. | lockHeld ..
  | lockReleased .. | settledLocally _ => .debug

/-- The part of the program an event is filed under. -/
def target : Event → String
  | loggingStarted .. | journalKept | operation _ => "lbflow_core::logging"
  | settingsLoading _ => "lbflow_core::config"
  | detailsCreated .. => "lbflow_core::orchestration::detail_factory"
  | taskChained .. => "lbflow_core::orchestration::chain_builder"
  | resourceOwned .. | lockTaken .. | lockHeld .. | lockLost .. | lockReleased .. =>
      "lbflow_core::orchestration::resource_gate"
  | unwindFailed .. | unwound .. => "lbflow_core::orchestration::failure_unwind"
  | buildStarted .. => "lbflow_core::orchestration::flow_builder"
  | flowAssembled .. => "lbflow_core::orchestration::flow_assembler"
  | settledLocally _ => "lbflow_core::orchestration::local_resolver"
  | workFailed .. | batchProcessed .. => "lbflow_core::orchestration::request_processor"

def message : Event → String
  | loggingStarted .. => "🔧 STRUCTURED LOGGING: Initialized"
  | journalKept =>
      "Global tracing subscriber already initialized - continuing with existing subscriber"
  | settingsLoading _ => "Loading flow configuration file"
  | operation _ => "🧩 FLOW_OPERATION"
  | detailsCreated .. => "Created task management details"
  | taskChained .. => "Chained task"
  | resourceOwned .. => "Resource is owned by another flow"
  | lockTaken .. => "Locked resource for flow"
  | lockHeld .. => "Flow already owns resource"
  | lockLost .. => "Lost lock race for resource"
  | lockReleased .. => "Released resource lock"
  | unwindFailed .. => "Failed to unwind task management details"
  | unwound .. => "Unwound task management details"
  | buildStarted .. => "Building flow"
  | flowAssembled .. => "Assembled flow"
  | settledLocally _ => "Resolved unbound items locally"
  | workFailed .. => "Batch work failed for resource"
  | batchProcessed .. => "Processed batch request"

/-- The ids a task waits for, as a bracketed list. -/
def behindText (ids : List ActionId) : String :=
  "[" ++ ", ".intercalate (ids.map fun id => "ActionId(\"" ++ id.text ++ "\")") ++ "]"

def countField (name : String) (count : Nat) : String × Json :=
  (name, .int count)

/-- A field that is written only when it has a value. -/
def field? {α : Type} [Wire α] (name : String) : Option α → List (String × Json)
  | none => []
  | some a => [(name, encode a)]

def recordFields (r : OperationRecord) : List (String × Json) :=
  [("operation", encode r.operation), ("resource_id", encode r.resource)] ++
    field? "flow_id" r.flow ++
    [("status", encode r.status), ("task_count", encode r.taskCount),
      ("detail_count", encode r.detailCount)] ++
    field? "duration_ms" r.durationMs ++ field? "details" r.details

def fields : Event → List (String × Json)
  | loggingStarted environment level =>
      [("environment", encode environment), ("level", encode level)]
  | journalKept => []
  | settingsLoading path => [("path", encode path)]
  | operation record => recordFields record
  | detailsCreated batch work count =>
      [("task_management_id", encode batch), ("task_type", encode work),
        countField "detail_count" count]
  | taskChained id action count behind =>
      [("action_id", encode id), ("action_name", encode action), countField "detail_count" count,
        ("depends_on", .str (behindText behind))]
  | resourceOwned resource owner kind =>
      [("resource_id", encode resource), ("owner_flow_id", encode owner),
        ("lock_kind", encode kind)]
  | lockTaken resource flow kind =>
      [("resource_id", encode resource), ("flow_id", encode flow), ("lock_kind", encode kind)]
  | lockHeld resource flow => [("resource_id", encode resource), ("flow_id", encode flow)]
  | lockLost resource flow owner =>
      [("resource_id", encode resource), ("flow_id", encode flow),
        ("owner_flow_id", encode owner)]
  | lockReleased resource flow released =>
      [("resource_id", encode resource), ("flow_id", encode flow), ("released", encode released)]
  | unwindFailed count cause failure =>
      [countField "detail_count" count, ("cause", .str cause.message),
        ("error", .str failure.message)]
  | unwound count cause => [countField "detail_count" count, ("cause", .str cause.message)]
  | buildStarted tasks items => [countField "task_count" tasks, countField "item_count" items]
  | flowAssembled flow tasks details =>
      [("flow_id", encode flow), countField "task_count" tasks,
        countField "detail_count" details]
  | settledLocally count => [countField "detail_count" count]
  | workFailed resource failure =>
      [("resource_id", encode resource), ("error", .str failure.message)]
  | batchProcessed batch flows settled failures =>
      [("task_management_id", encode batch), countField "flow_count" flows,
        countField "resolved_locally" settled, countField "failure_count" failures]

/-- The names of all fields an event of its kind may have: the message, and also those that are
left out now or are never written. -/
def fieldNames (e : Event) : List String :=
  "message" :: match e with
    | loggingStarted .. => "pid" :: e.fields.map Prod.fst
    | operation _ =>
        ["operation", "resource_id", "flow_id", "status", "task_count", "detail_count",
          "duration_ms", "details", "timestamp"]
    | e => e.fields.map Prod.fst

end Event

end BalancerFlows
