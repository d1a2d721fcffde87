import BalancerFlows.Detail.Writing
import BalancerFlows.Gate

/-!
# Assembly

Turning built tasks into a flow the executor may run, in this order: the flow is created, its
details are bound to it, the bindings and the further resources are written, the resource is
locked, and only then the flow becomes pending. Whoever sees the lock finds the details; a flow
that does not get the lock stays `init` and never runs.
-/
namespace BalancerFlows

/-- A flow about to be stored, and the lock it needs. -/
structure FlowDraft where
  operation : Operation
  resource : ResourceKey
  lockKind : LockKind
  vendor : Vendor
  account : String
  tasks : List FlowTask
  subResources : List ResourceKey
  deriving Repr, DecidableEq, Inhabited

namespace FlowDraft

/-- What all tasks of the flow are told. -/
def shareData (d : FlowDraft) : TextMap :=
  .ofList [("lb_id", d.resource.id), ("vendor", text d.vendor), ("account_id", d.account)]

def newFlow (d : FlowDraft) : NewFlow :=
  { operation := d.operation, shareData := d.shareData, tasks := d.tasks }

def lock (d : FlowDraft) (flow : Int64) : Lock :=
  { resource := d.resource, flow, kind := d.lockKind }

def subFlows (d : FlowDraft) (flow : Int64) : List SubFlow :=
  d.subResources.map fun resource => { flow, resource }

/-- A flow that is to be made pending is no longer in the state it was created in. -/
def notActivated (flow : Int64) : Failure :=
  .aborted ("flow " ++ toString flow ++ " left the init state before activation")

/-- Makes a created flow pending: bindings, further resources, lock, state. -/
def activate (d : FlowDraft) (flow : Flow) (details : List Detail) : Work Flow := do
  Detail.writeBindings details
  Work.askStore (.timed "create_sub_flow_relations") (.createSubFlows (d.subFlows flow.id))
  let _ ← Gate.acquire (d.lock flow.id)
  let moved ← Work.askStore (.timed "cas_flow_state") (.moveFlow flow.id .init .pending)
  if moved then
    Work.report (.flowAssembled flow.id flow.tasks.length details.length)
    return { flow with state := .pending }
  else throw (notActivated flow.id)

/-- What an assembly led to. The details are bound to the flow as soon as it exists, also when a
later step fails. -/
structure Assembled where
  outcome : Except Failure Flow
  details : List Detail

/-- Stores the flow and makes it pending. -/
def assemble (d : FlowDraft) (details : List Detail) : Program Assembled :=
  Program.within (.assembling d.resource.id d.operation) do
    if d.tasks.isEmpty then
      return { outcome := .error (.invalidParameter "cannot assemble a flow without tasks")
               details }
    match ← Work.outcome (Work.askStore (.timed "create_flow") (.createFlow d.newFlow)) with
    | .error failure => return { outcome := .error failure, details }
    | .ok flow =>
        let bound := details.map (Detail.bindFlow flow.id)
        return { outcome := ← Work.outcome (d.activate flow bound), details := bound }

end FlowDraft

end BalancerFlows
