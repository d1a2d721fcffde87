import BalancerFlows.Assembly
import BalancerFlows.Chain
import BalancerFlows.Job
import BalancerFlows.Unwind

/-!
# Constructing a flow

One flow for one resource: look at the gate, chain the calls of the plan, assemble the flow. An
owned resource stops the construction before anything is written; any later failure unwinds the
details of the construction. Each construction reports one operation record, which says whether
it was rejected, built or failed.
-/
namespace BalancerFlows

/-- For whom a flow is built, and which resource it will own. -/
structure FlowScope where
  resource : ResourceKey
  account : String
  batch : Int64
  vendor : Vendor
  business : Int64
  deriving Repr, DecidableEq, Inhabited

namespace FlowScope

def details (s : FlowScope) (operation : Operation) : DetailScope :=
  { batch := s.batch, business := s.business, operation }

def ofBalancer (balancer account : String) (batch : Int64) (vendor : Vendor) (business : Int64) :
    FlowScope :=
  { resource := { id := balancer, kind := .loadBalancer }, account, batch, vendor, business }

end FlowScope

/-- A flow that was built, with the ids of all its details. -/
structure Built where
  flow : Int64
  taskCount : Nat
  details : List Int64
  deriving Repr, DecidableEq, Inhabited

namespace Construction

def recordFor (scope : FlowScope) (operation : Operation) (status : String) : OperationRecord :=
  { operation := text operation, resource := scope.resource.id, flow := none, status
    taskCount := 0, detailCount := 0 }

/-- Reports that the gate turned a construction away. -/
def reportRejected (scope : FlowScope) (operation : Operation) (failure : Failure) :
    Program Unit :=
  Work.report (.operation { recordFor scope operation "rejected" with
    details := some failure.message })

def reportBuilt (scope : FlowScope) (operation : Operation) (flow : Flow) (detailCount : Nat) :
    Program Unit :=
  Work.report (.operation { recordFor scope operation "built" with
    flow := some flow.id
    taskCount := .ofNat flow.tasks.length
    detailCount := .ofNat detailCount })

/-- Reports a construction that failed after it got past the gate. -/
def reportFailed (scope : FlowScope) (operation : Operation) (failure : Failure)
    (unwound : Unwound) : Program Unit :=
  Work.report (.operation { recordFor scope operation "failed" with
    flow := unwound.details.head?.bind Detail.flow
    detailCount := .ofNat unwound.marked
    details := some failure.message })

def draft (scope : FlowScope) (plan : Plan) (tasks : List FlowTask) : FlowDraft :=
  { operation := plan.operation, resource := scope.resource, lockKind := plan.operation.lockKind
    vendor := scope.vendor, account := scope.account, tasks, subResources := plan.subResources }

def chain (scope : FlowScope) (retry : RetryPolicy) (plan : Plan) : Chain :=
  { scope := scope.details plan.operation, vendor := scope.vendor, retry }

/-- Chains the calls and assembles the flow. The details are those that exist, whatever the
outcome. -/
def assemble (scope : FlowScope) (retry : RetryPolicy) (plan : Plan) :
    Program FlowDraft.Assembled := do
  let pushed ← (chain scope retry plan).pushAll plan.calls
  match pushed.outcome with
  | .error failure => return { outcome := .error failure, details := pushed.chain.details }
  | .ok () => (draft scope plan pushed.chain.tasks).assemble pushed.chain.details

/-- Reports a success, or unwinds the details and reports the failure. -/
def conclude (scope : FlowScope) (operation : Operation) (a : FlowDraft.Assembled) :
    Program (Except Failure Built) :=
  match a.outcome with
  | .ok flow => do
      reportBuilt scope operation flow a.details.length
      return .ok { flow := flow.id, taskCount := flow.tasks.length
                   details := a.details.map Detail.id }
  | .error failure => do
      let unwound ← Unwind.run failure a.details
      reportFailed scope operation failure unwound
      return .error failure

def build (scope : FlowScope) (retry : RetryPolicy) (plan : Plan) : Work Built :=
  Work.within (.building scope.resource.id plan.operation) <| ExceptT.mk do
    match ← Work.outcome (Gate.ensureFree scope.resource) with
    | .error failure =>
        reportRejected scope plan.operation failure
        return .error failure
    | .ok () =>
        Work.report (.buildStarted plan.taskCount plan.itemCount)
        conclude scope plan.operation (← assemble scope retry plan)

/-- Plans a job on the resource of the scope and builds its flow. A refused plan makes no call. -/
def buildJob (settings : Settings) (scope : FlowScope) (job : Job) : Work Built := do
  let plan ← Work.ofExcept (job.planUnder scope.resource.id settings.limits)
  build scope settings.retry plan

end Construction

end BalancerFlows
