import BalancerFlows.Detail.Writing
import BalancerFlows.Plan

/-!
# Chains

Calls become tasks one after the other: the details of a call are created, the next task id is
issued, and the task waits for the one before it and for no other. A call whose details cannot be
created leaves the chain as it was.
-/
namespace BalancerFlows

/-- The tasks built so far, with their details. -/
structure Chain where
  scope : DetailScope
  vendor : Vendor
  retry : RetryPolicy
  numbering : Numbering := {}
  /-- The task the next one waits for. -/
  last : Option ActionId := none
  tasks : List FlowTask := []
  details : List Detail := []
  deriving Repr, DecidableEq, Inhabited

namespace Chain

/-- The task of a call, once its details exist and its id is issued. -/
def taskFor (c : Chain) (id : ActionId) (details : List Detail) (request : CloudRequest) :
    FlowTask :=
  .ofParams id { vendor := c.vendor, detailIds := details.map Detail.id, request } c.last c.retry

def extend (c : Chain) (task : FlowTask) (details : List Detail) (numbering : Numbering) : Chain :=
  { c with
    numbering
    last := some task.id
    tasks := c.tasks ++ [task]
    details := c.details ++ details.map (Detail.bindAction task.id) }

/-- Puts a task behind the chain for a call whose details exist. -/
def append (c : Chain) (details : List Detail) (request : CloudRequest) :
    Program (FlowTask × Chain) :=
  match c.numbering.issue? with
  | none => .overflow
  | some (id, numbering) => do
      let task := c.taskFor id details request
      Work.report (.taskChained id task.action details.length task.dependsOn)
      return (task, c.extend task details numbering)

/-- Puts one call behind the chain and gives back its task. -/
def push (c : Chain) (call : PlannedCall) : Work (FlowTask × Chain) := do
  let details ← c.scope.create call.params
  c.append details call.request

/-- What pushing several calls led to: the chain as far as it got, and why it stopped there. -/
structure Pushed where
  chain : Chain
  outcome : Except Failure Unit

/-- Puts calls behind the chain in order, up to the first that fails. -/
def pushAll (c : Chain) : List PlannedCall → Program Pushed
  | [] => return { chain := c, outcome := .ok () }
  | call :: rest => do
      match ← Work.outcome (c.push call) with
      | .ok (_, longer) => longer.pushAll rest
      | .error failure => return { chain := c, outcome := .error failure }

@[simp] theorem extend_tasks (c : Chain) (task : FlowTask) (details : List Detail)
    (numbering : Numbering) :
    (c.extend task details numbering).tasks = c.tasks ++ [task] := rfl

@[simp] theorem extend_last (c : Chain) (task : FlowTask) (details : List Detail)
    (numbering : Numbering) : (c.extend task details numbering).last = some task.id := rfl

end Chain

end BalancerFlows
