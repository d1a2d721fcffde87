import BalancerFlows.CloudRequest
import BalancerFlows.TextMap

/-!
# Flows and their tasks

A flow is a set of tasks with dependencies, stored for one resource and one operation. Tasks are
numbered by a counter that is a plain value: issuing hands back the id and the advanced counter.
-/
namespace BalancerFlows

/-- The name of a task within its flow. -/
structure ActionId where
  text : String
  deriving Repr, DecidableEq, Inhabited

namespace ActionId

/-- The number of a counted id; `none` for ids that are no number below `2^64`. -/
def sequence? (id : ActionId) : Option UInt64 :=
  (Decimal.unsigned? UInt64.size id.text).map UInt64.ofNat

end ActionId

/-- A counter of task ids. -/
structure Numbering where
  next : UInt64 := 1
  step : UInt64 := 1
  deriving Repr, DecidableEq, Inhabited

namespace Numbering

/-- A counter from `start` in steps of `step`; a step of zero would repeat ids and counts as
one. -/
def withStep (start step : UInt64) : Numbering :=
  { next := start, step := max step 1 }

/-- The next id and the advanced counter, or nothing when the counter cannot advance below
`2^64`. -/
def issue? (n : Numbering) : Option (ActionId × Numbering) :=
  if n.next.toNat + n.step.toNat < UInt64.size then
    some (⟨Decimal.text n.next.toNat⟩, { n with next := n.next + n.step })
  else none

/-- How many ids were issued since the counter stood at `start`. -/
def issued (n : Numbering) (start : UInt64) : Nat :=
  (n.next.toNat - start.toNat) / n.step.toNat

end Numbering

/-- How often and after which pause the executor tries again. -/
structure RetryPolicy where
  maxAttempts : UInt32 := 3
  minSleepMs : UInt64 := 100
  maxSleepMs : UInt64 := 500
  deriving Repr, DecidableEq, Inhabited

namespace RetryPolicy

/-- Whether a pause is within the policy's range, both ends included. -/
def allows (r : RetryPolicy) (ms : UInt64) : Bool :=
  r.minSleepMs ≤ ms && ms ≤ r.maxSleepMs

def isEmpty (r : RetryPolicy) : Bool :=
  r.maxSleepMs < r.minSleepMs

end RetryPolicy

structure FlowTask where
  id : ActionId
  action : Action
  params : TaskParams
  dependsOn : List ActionId
  retry : RetryPolicy
  deriving Repr, DecidableEq, Inhabited

/-- A task whose action is that of its request, behind at most one other task. -/
def FlowTask.ofParams (id : ActionId) (params : TaskParams) (behind : Option ActionId)
    (retry : RetryPolicy) : FlowTask :=
  { id, action := params.request.action, params, dependsOn := behind.toList, retry }

structure NewFlow where
  operation : Operation
  shareData : TextMap
  tasks : List FlowTask
  deriving Repr, DecidableEq, Inhabited

structure Flow where
  id : Int64
  operation : Operation
  state : FlowState
  shareData : TextMap
  tasks : List FlowTask
  deriving Repr, DecidableEq, Inhabited

namespace Flow

def task? (f : Flow) (id : ActionId) : Option FlowTask :=
  f.tasks.find? fun t => t.id = id

/-- The tasks that wait for no other. -/
def roots (f : Flow) : List FlowTask :=
  f.tasks.filter fun t => t.dependsOn.isEmpty

end Flow

instance : Wire ActionId where
  encode id := .str id.text
  decode
    | .str s => some ⟨s⟩
    | _ => none

instance : Wire RetryPolicy where
  encode r := .obj [("max_attempts", encode r.maxAttempts), ("min_sleep_ms", encode r.minSleepMs),
    ("max_sleep_ms", encode r.maxSleepMs)]
  decode := readRecord do
    let standard : RetryPolicy := {}
    return { maxAttempts := ← defaulted "max_attempts" standard.maxAttempts,
             minSleepMs := ← defaulted "min_sleep_ms" standard.minSleepMs,
             maxSleepMs := ← defaulted "max_sleep_ms" standard.maxSleepMs }

instance : Wire FlowTask where
  encode t := .obj [("action_id", encode t.id), ("action_name", encode t.action),
    ("params", encode t.params), ("depends_on", encode t.dependsOn), ("retry", encode t.retry)]
  decode := readRecord do
    return { id := ← required "action_id", action := ← required "action_name",
             params := ← required "params", dependsOn := ← required "depends_on",
             retry := ← required "retry" }

instance : Wire NewFlow where
  encode f := .obj [("flow_type", encode f.operation), ("share_data", encode f.shareData),
    ("tasks", encode f.tasks)]
  decode := readRecord do
    return { operation := ← required "flow_type", shareData := ← required "share_data",
             tasks := ← required "tasks" }

def Flow.toJson (f : Flow) : Json :=
  .obj [("id", encode f.id), ("flow_type", encode f.operation), ("state", encode f.state),
    ("share_data", encode f.shareData), ("tasks", encode f.tasks)]

end BalancerFlows
