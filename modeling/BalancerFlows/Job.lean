import BalancerFlows.Plan

/-!
# Jobs

What one flow is to do on one load balancer. A job and a limit determine the flow's plan.
-/
namespace BalancerFlows

/-- The change one flow makes. -/
inductive Job where
  | modifyWeight (weight : UInt32) (groups : List BoundTargets)
  | modifyPort (port : UInt16) (groups : List BoundTargets)
  | removeTargets (groups : List BoundTargets)
  | addTargets (groups : List BoundSpecs)
  | deleteListeners (balancer : LoadBalancer) (listeners : List Listener)
  | bindTargetGroups (groups : List BoundSpecs)
  deriving Repr, DecidableEq, Inhabited

namespace Job

def operation : Job → Operation
  | modifyWeight .. => .modifyTargetWeight
  | modifyPort .. => .modifyTargetPort
  | removeTargets _ => .removeTarget
  | addTargets _ => .addTarget
  | deleteListeners .. => .deleteListener
  | bindTargetGroups _ => .bindTargetGroup

/-- The operation whose limit holds for the job's calls: the targets of a bound group are added
targets. -/
def limitedAs : Job → Operation
  | bindTargetGroups _ => .addTarget
  | job => job.operation

/-- The job's calls on a load balancer. A deletion names its load balancer itself. -/
def plan (balancer : String) (limit : Nat) : Job → Except Failure Plan
  | modifyWeight weight groups => Plan.modifyWeight balancer limit weight groups
  | modifyPort port groups => Plan.modifyPort balancer limit port groups
  | removeTargets groups => Plan.removeTargets balancer limit groups
  | addTargets groups => Plan.addTargets balancer limit groups
  | deleteListeners balancer listeners => Plan.deleteListeners balancer limit listeners
  | bindTargetGroups groups => Plan.bindTargetGroups balancer limit groups

def planUnder (balancer : String) (limits : BatchLimits) (job : Job) : Except Failure Plan :=
  job.plan balancer (limits.limitFor job.limitedAs).toNat

end Job

end BalancerFlows
