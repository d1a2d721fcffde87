import BalancerFlows.Flow
import BalancerFlows.Detail

/-!
# Summaries

Short forms of long listings: a task in one line, and details in runs that differ in nothing but
their ids and parameters.
-/
namespace BalancerFlows

/-- A task without its payload. -/
structure TaskLine where
  id : ActionId
  action : Action
  dependsOn : List ActionId
  items : Nat
  detailCount : Nat
  firstDetail : Option Int64
  lastDetail : Option Int64
  deriving Repr, DecidableEq, Inhabited

def FlowTask.line (t : FlowTask) : TaskLine :=
  { id := t.id, action := t.action, dependsOn := t.dependsOn
    items := t.params.request.itemCount
    detailCount := t.params.detailIds.length
    firstDetail := t.params.detailIds.head?
    lastDetail := t.params.detailIds.getLast? }

def TaskLine.toJson (l : TaskLine) : Json :=
  .obj [("action_id", encode l.id), ("action_name", encode l.action),
    ("depends_on", encode l.dependsOn), ("items", .int l.items), ("details", .int l.detailCount),
    ("first_detail", encode l.firstDetail), ("last_detail", encode l.lastDetail)]

/-- Consecutive details that share everything but id and parameters. -/
structure DetailRun where
  first : Detail
  last : Detail
  deriving Repr, DecidableEq, Inhabited

namespace DetailRun

/-- What the details of a run share, as one of them without its id and parameters. -/
def shared (d : Detail) : Detail :=
  { d with id := 0, param := .null }

/-- Puts a detail in front: into the first run, or as a run of its own. -/
def cons (d : Detail) : List DetailRun → List DetailRun
  | [] => [{ first := d, last := d }]
  | run :: rest =>
      if shared d = shared run.first then { run with first := d } :: rest
      else { first := d, last := d } :: run :: rest

def ofDetails (details : List Detail) : List DetailRun :=
  details.foldr cons []

/-- A run as JSON: the ids it spans, and what its details share. -/
def toJson (r : DetailRun) : Json :=
  .obj [("from", encode r.first.id), ("to", encode r.last.id),
    ("same", .obj [("task_management_id", encode r.first.batch),
      ("business_id", encode r.first.business), ("task_type", encode r.first.operation),
      ("flow_id", encode r.first.flow), ("action_id", encode r.first.action),
      ("state", encode r.first.state), ("reason", encode r.first.reason)])]

end DetailRun

end BalancerFlows
