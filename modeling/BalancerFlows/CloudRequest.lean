import BalancerFlows.Inventory

/-!
# Cloud requests

The payload of one task: what its executor sends to the cloud in one call. A request is written
with the name of its action beside the payload, so it is never read as another kind of request.
-/
namespace BalancerFlows

/-- An existing target as a cloud call addresses it. -/
structure TargetRef where
  target : String
  instanceId : String
  port : UInt16
  deriving Repr, DecidableEq, Inhabited

/-- A listener as a cloud call addresses it. -/
structure ListenerRef where
  listener : String
  cloudId : String
  deriving Repr, DecidableEq, Inhabited

namespace Target

def ref (t : Target) : TargetRef :=
  { target := t.id, instanceId := t.instanceId, port := t.port }

end Target

def Listener.ref (l : Listener) : ListenerRef :=
  { listener := l.id, cloudId := l.cloudId }

/-- One call to the cloud. -/
inductive CloudRequest where
  | registerTargets (binding : Binding) (targets : List TargetSpec)
  | deregisterTargets (binding : Binding) (targets : List TargetRef)
  | modifyTargetWeight (binding : Binding) (weight : UInt32) (targets : List TargetRef)
  | modifyTargetPort (binding : Binding) (port : UInt16) (targets : List TargetRef)
  | deleteListeners (balancerCloudId : String) (listeners : List ListenerRef)
  | bindTargetGroupRule (binding : Binding)
  deriving Repr, DecidableEq, Inhabited

namespace CloudRequest

def action : CloudRequest → Action
  | registerTargets .. => .registerTargets
  | deregisterTargets .. => .deregisterTargets
  | modifyTargetWeight .. => .modifyTargetWeight
  | modifyTargetPort .. => .modifyTargetPort
  | deleteListeners .. => .deleteListeners
  | bindTargetGroupRule _ => .bindTargetGroupRule

/-- The number of cloud items in the request; a rule binding is one item. -/
def itemCount : CloudRequest → Nat
  | registerTargets _ targets => targets.length
  | deregisterTargets _ targets => targets.length
  | modifyTargetWeight _ _ targets => targets.length
  | modifyTargetPort _ _ targets => targets.length
  | deleteListeners _ listeners => listeners.length
  | bindTargetGroupRule _ => 1

def binding? : CloudRequest → Option Binding
  | registerTargets b _ | deregisterTargets b _ | modifyTargetWeight b _ _
  | modifyTargetPort b _ _ | bindTargetGroupRule b => some b
  | deleteListeners .. => none

end CloudRequest

instance : Wire TargetRef where
  encode r := .obj [("target_id", encode r.target), ("cloud_inst_id", encode r.instanceId),
    ("port", encode r.port)]
  decode := readRecord do
    return { target := ← required "target_id", instanceId := ← required "cloud_inst_id",
             port := ← required "port" }

instance : Wire ListenerRef where
  encode r := .obj [("listener_id", encode r.listener), ("cloud_id", encode r.cloudId)]
  decode := readRecord do
    return { listener := ← required "listener_id", cloudId := ← required "cloud_id" }

namespace CloudRequest

/-- The payload, without the name of the action. -/
def payload : CloudRequest → Json
  | registerTargets binding targets =>
      .obj [("binding", encode binding), ("targets", encode targets)]
  | deregisterTargets binding targets =>
      .obj [("binding", encode binding), ("targets", encode targets)]
  | modifyTargetWeight binding weight targets =>
      .obj [("binding", encode binding), ("new_weight", encode weight),
        ("targets", encode targets)]
  | modifyTargetPort binding port targets =>
      .obj [("binding", encode binding), ("new_port", encode port), ("targets", encode targets)]
  | deleteListeners balancerCloudId listeners =>
      .obj [("lb_cloud_id", encode balancerCloudId), ("listeners", encode listeners)]
  | bindTargetGroupRule binding => .obj [("binding", encode binding)]

def ofPayload? : Action → Json → Option CloudRequest
  | .registerTargets => readRecord do
      return .registerTargets (← required "binding") (← required "targets")
  | .deregisterTargets => readRecord do
      return .deregisterTargets (← required "binding") (← required "targets")
  | .modifyTargetWeight => readRecord do
      return .modifyTargetWeight (← required "binding") (← required "new_weight")
        (← required "targets")
  | .modifyTargetPort => readRecord do
      return .modifyTargetPort (← required "binding") (← required "new_port")
        (← required "targets")
  | .deleteListeners => readRecord do
      return .deleteListeners (← required "lb_cloud_id") (← required "listeners")
  | .bindTargetGroupRule => readRecord do
      return .bindTargetGroupRule (← required "binding")

end CloudRequest

/-- The action and its payload, before the payload is read as the action says. -/
structure TaggedPayload where
  action : Action
  payload : Json
  deriving Repr, DecidableEq

def TaggedPayload.ofJson? : Json → Option TaggedPayload :=
  readRecord do
    return { action := ← required "action", payload := ← required "payload" }

instance : Wire CloudRequest where
  encode r := .obj [("action", encode r.action), ("payload", r.payload)]
  decode j := do
    let tagged ← TaggedPayload.ofJson? j
    CloudRequest.ofPayload? tagged.action tagged.payload

/-- What is stored on a task for its executor: the vendor, the items it settles and the call. -/
structure TaskParams where
  vendor : Vendor
  detailIds : List Int64
  request : CloudRequest
  deriving Repr, DecidableEq, Inhabited

instance : Wire TaskParams where
  encode p := .obj [("vendor", encode p.vendor), ("detail_ids", encode p.detailIds),
    ("request", encode p.request)]
  decode := readRecord do
    return { vendor := ← required "vendor", detailIds := ← required "detail_ids",
             request := ← required "request" }

end BalancerFlows
