import BalancerFlows.Batch.Record
import BalancerFlows.Chunks
import BalancerFlows.CloudRequest
import BalancerFlows.Settings.Basic

/-!
# Plans

Everything about a flow that can be decided without the store: the input is checked, cut into
chunks of at most the limit, each chunk is checked for repeated items, and each becomes one cloud
request with one parameter record per item. A refused plan has written nothing.
-/
namespace BalancerFlows

/-- One call to the cloud with the parameters of its items. -/
structure PlannedCall where
  params : List Json
  request : CloudRequest
  deriving Repr, DecidableEq, Inhabited

/-- Existing targets of one bound group. -/
structure BoundTargets where
  binding : Binding
  targets : List Target
  deriving Repr, DecidableEq, Inhabited

structure BoundSpecs where
  binding : Binding
  targets : List TargetSpec
  deriving Repr, DecidableEq, Inhabited

/-- The calls of one flow in order, and the further resources they touch. -/
structure Plan where
  operation : Operation
  calls : List PlannedCall
  subResources : List ResourceKey
  deriving Repr, DecidableEq, Inhabited

namespace Plan

def itemCount (p : Plan) : Nat :=
  p.calls.foldl (fun n c => n + c.params.length) 0

def taskCount (p : Plan) : Nat :=
  p.calls.length

def maxWeight : UInt32 := 100

/-- Weights go from 0 to `maxWeight`. -/
def checkWeight (weight : UInt32) : Except Failure Unit :=
  if maxWeight < weight then
    .error (.invalidParameter ("weight " ++ toString weight ++ " is outside 0..=" ++
      toString maxWeight))
  else .ok ()

/-- Port 0 is no port. -/
def checkPort (port : UInt16) : Except Failure Unit :=
  if port = 0 then .error (.invalidParameter "port must be within 1..=65535") else .ok ()

/-- A new target names an instance and has a port and a weight in range. -/
def checkSpec (s : TargetSpec) : Except Failure Unit := do
  if s.instanceId.isEmpty then
    throw (.invalidParameter "target cloud instance id is empty")
  checkPort s.port
  checkWeight s.weight

/-- Every new target is fit, the first that is not being reported. -/
def checkSpecs : List TargetSpec → Except Failure Unit
  | [] => .ok ()
  | s :: rest => do
      checkSpec s
      checkSpecs rest

/-- A flow of one load balancer works on bindings of that load balancer only. -/
def checkBinding (balancer : String) (b : Binding) : Except Failure Unit :=
  if b.balancer = balancer then .ok ()
  else .error (.invalidParameter ("target group " ++ b.group ++ " is bound to load balancer " ++
    b.balancer ++ ", not " ++ balancer))

def noItems (operation : Operation) : Failure :=
  .invalidParameter ("no items to " ++ text operation)

/-- The parameter record of an existing target. -/
def targetParam (t : Target) : Json :=
  .obj [("target_group_id", encode t.group), ("target_id", encode t.id),
    ("cloud_inst_id", encode t.instanceId), ("ip", encode t.ip), ("port", encode t.port),
    ("weight", encode t.weight)]

def weightParam (weight : UInt32) (t : Target) : Json :=
  (targetParam t).withMember "new_weight" (encode weight)

def portParam (port : UInt16) (t : Target) : Json :=
  (targetParam t).withMember "new_port" (encode port)

/-- The parameter record of a new target of a group. -/
def specParam (group : String) (s : TargetSpec) : Json :=
  .obj [("target_group_id", encode group), ("cloud_inst_id", encode s.instanceId),
    ("ip", encode s.ip), ("port", encode s.port), ("weight", encode s.weight)]

def listenerParam (l : Listener) : Json :=
  .obj [("listener_id", encode l.id), ("cloud_id", encode l.cloudId),
    ("protocol", encode l.protocol), ("port", encode l.port)]

/-- The parameter record of a rule binding, with the number of targets that will follow it. -/
def ruleParam (b : Binding) (targetCount : Nat) : Json :=
  .obj [("target_group_id", encode b.group), ("listener_id", encode b.listener),
    ("rule_cloud_id", encode b.ruleCloudId), ("target_count", .int targetCount)]

/-- The label of an instance that may appear once per call. -/
def instanceLabel : String := "cloud instance"

/-- The label of an instance and port that may appear once per call. -/
def endpointLabel : String := "cloud instance and port"

def targetEndpoint (t : Target) : String :=
  t.instanceId ++ ":" ++ toString t.port

def specEndpoint (s : TargetSpec) : String :=
  s.instanceId ++ ":" ++ toString s.port

/-- The sub-resource a target group is. -/
def groupKey (group : String) : ResourceKey :=
  { id := group, kind := .targetGroup }

/-- How the items of a bound group become calls. -/
structure CallShape (α : Type) where
  label : String
  key : α → String
  call : Binding → List α → PlannedCall

/-- One call per chunk, refused at the first chunk with a repeated key. -/
def groupCalls {α : Type} (shape : CallShape α) (binding : Binding) :
    List (List α) → Except Failure (List PlannedCall)
  | [] => .ok []
  | chunk :: rest => do
      ensureUnique shape.label shape.key chunk
      let calls ← groupCalls shape binding rest
      return shape.call binding chunk :: calls

/-- The calls of all groups in order. Every binding is checked, and a group without items adds
neither a call nor a sub-resource. -/
def boundCalls {α : Type} (shape : CallShape α) (balancer : String) (limit : Nat) :
    List (Binding × List α) → Except Failure (List PlannedCall × List ResourceKey)
  | [] => .ok ([], [])
  | (binding, items) :: rest => do
      checkBinding balancer binding
      if items.isEmpty then boundCalls shape balancer limit rest
      else
        let calls ← groupCalls shape binding (chunksOf limit items)
        let (more, keys) ← boundCalls shape balancer limit rest
        return (calls ++ more, groupKey binding.group :: keys)

/-- Keeps the first occurrence of every element. -/
def firstOccurrences {α : Type} [DecidableEq α] (items : List α) : List α :=
  items.foldl (fun kept a => if a ∈ kept then kept else kept ++ [a]) []

/-- The plan of an operation on bound groups; at least one group has to have an item. -/
def ofGroups {α : Type} (operation : Operation) (shape : CallShape α) (balancer : String)
    (limit : Nat) (groups : List (Binding × List α)) : Except Failure Plan := do
  let (calls, keys) ← boundCalls shape balancer limit groups
  if calls.isEmpty then throw (noItems operation)
  return { operation, calls, subResources := firstOccurrences keys }

/-- A call that changes the weight of targets. -/
def weightShape (weight : UInt32) : CallShape Target where
  label := instanceLabel
  key := Target.instanceId
  call binding targets :=
    { params := targets.map (weightParam weight)
      request := .modifyTargetWeight binding weight (targets.map Target.ref) }

def portShape (port : UInt16) : CallShape Target where
  label := instanceLabel
  key := Target.instanceId
  call binding targets :=
    { params := targets.map (portParam port)
      request := .modifyTargetPort binding port (targets.map Target.ref) }

def removalShape : CallShape Target where
  label := endpointLabel
  key := targetEndpoint
  call binding targets :=
    { params := targets.map targetParam
      request := .deregisterTargets binding (targets.map Target.ref) }

def registrationCall (binding : Binding) (specs : List TargetSpec) : PlannedCall :=
  { params := specs.map (specParam binding.group)
    request := .registerTargets binding specs }

/-- Registration of new targets, each endpoint once per call. -/
def registrationShape : CallShape TargetSpec where
  label := endpointLabel
  key := specEndpoint
  call := registrationCall

/-- The pairs of binding and items of bound targets. -/
def targetGroups (groups : List BoundTargets) : List (Binding × List Target) :=
  groups.map fun g => (g.binding, g.targets)

def specGroups (groups : List BoundSpecs) : List (Binding × List TargetSpec) :=
  groups.map fun g => (g.binding, g.targets)

def modifyWeight (balancer : String) (limit : Nat) (weight : UInt32)
    (groups : List BoundTargets) : Except Failure Plan := do
  checkWeight weight
  ofGroups .modifyTargetWeight (weightShape weight) balancer limit (targetGroups groups)

def modifyPort (balancer : String) (limit : Nat) (port : UInt16) (groups : List BoundTargets) :
    Except Failure Plan := do
  checkPort port
  ofGroups .modifyTargetPort (portShape port) balancer limit (targetGroups groups)

/-- Takes bound targets out of the cloud. -/
def removeTargets (balancer : String) (limit : Nat) (groups : List BoundTargets) :
    Except Failure Plan :=
  ofGroups .removeTarget removalShape balancer limit (targetGroups groups)

def addTargets (balancer : String) (limit : Nat) (groups : List BoundSpecs) :
    Except Failure Plan := do
  checkSpecs (groups.flatMap BoundSpecs.targets)
  ofGroups .addTarget registrationShape balancer limit (specGroups groups)

def listenerCall (balancer : LoadBalancer) (listeners : List Listener) : PlannedCall :=
  { params := listeners.map listenerParam
    request := .deleteListeners balancer.cloudId (listeners.map Listener.ref) }

/-- One call per chunk of listeners, refused at the first chunk that names one twice. -/
def listenerCalls (balancer : LoadBalancer) :
    List (List Listener) → Except Failure (List PlannedCall)
  | [] => .ok []
  | chunk :: rest => do
      ensureUnique "listener" Listener.id chunk
      let calls ← listenerCalls balancer rest
      return listenerCall balancer chunk :: calls

def foreignListener (l : Listener) (balancer : String) : Failure :=
  .invalidParameter ("listener " ++ l.id ++ " belongs to load balancer " ++ l.balancer ++
    ", not " ++ balancer)

/-- Deletes listeners of one load balancer. Every listener is a sub-resource. -/
def deleteListeners (balancer : LoadBalancer) (limit : Nat) (listeners : List Listener) :
    Except Failure Plan := do
  if listeners.isEmpty then throw (noItems .deleteListener)
  match listeners.find? fun l => l.balancer ≠ balancer.id with
  | some l => throw (foreignListener l balancer.id)
  | none =>
      let calls ← listenerCalls balancer (chunksOf limit listeners)
      return { operation := .deleteListener, calls
               subResources := listeners.map fun l => { id := l.id, kind := .listener } }

/-- The rule binding of a group, followed by the registration of its targets. -/
def bindingCalls (limit : Nat) (g : BoundSpecs) : List PlannedCall :=
  { params := [ruleParam g.binding g.targets.length]
    request := .bindTargetGroupRule g.binding } ::
    (chunksOf limit g.targets).map (registrationCall g.binding)

/-- One group of a binding plan is fit: it belongs to the load balancer, all its targets are fit,
and no endpoint occurs twice in the whole group. -/
def checkGroup (balancer : String) (g : BoundSpecs) : Except Failure Unit := do
  checkBinding balancer g.binding
  checkSpecs g.targets
  ensureUnique endpointLabel specEndpoint g.targets

/-- The calls of all groups in order; no group may come twice. `bound` are the groups so far. -/
def groupBindings (balancer : String) (limit : Nat) :
    (bound : List String) → List BoundSpecs → Except Failure (List PlannedCall)
  | _, [] => .ok []
  | bound, g :: rest => do
      checkGroup balancer g
      if g.binding.group ∈ bound then
        throw (.duplicated ("target group " ++ g.binding.group ++
          " is bound twice in one request"))
      let calls ← groupBindings balancer limit (g.binding.group :: bound) rest
      return bindingCalls limit g ++ calls

/-- Binds target groups to listener rules and registers their targets behind each rule. -/
def bindTargetGroups (balancer : String) (limit : Nat) (groups : List BoundSpecs) :
    Except Failure Plan := do
  if groups.isEmpty then throw (noItems .bindTargetGroup)
  let calls ← groupBindings balancer limit [] groups
  return { operation := .bindTargetGroup, calls
           subResources := groups.map fun g => groupKey g.binding.group }

end Plan

instance : Wire BoundTargets where
  encode g := .obj [("binding", encode g.binding), ("targets", encode g.targets)]
  decode := readRecord do
    return { binding := ← required "binding", targets := ← required "targets" }

instance : Wire BoundSpecs where
  encode g := .obj [("binding", encode g.binding), ("targets", encode g.targets)]
  decode := readRecord do
    return { binding := ← required "binding", targets := ← required "targets" }

instance : Wire PlannedCall where
  encode c := .obj [("detail_params", encode c.params), ("request", encode c.request)]
  decode := readRecord do
    return { params := ← required "detail_params", request := ← required "request" }

end BalancerFlows
