import BalancerFlows.Batch.Request
import BalancerFlows.Job
import BalancerFlows.LocalChange
import BalancerFlows.Program

/-!
# Routing a batch

The ids of a request become records of the catalog, and the work is split: the items of a group
without binding are changed locally, and the items of bound groups go to the load balancer the
group is bound to, one job per load balancer. Everything named has to exist and to belong to the
vendor and account of the request. Nothing is written.
-/
namespace BalancerFlows

/-- Work on one group that was never pushed to the cloud. -/
inductive LocalJob where
  | remove (group : String) (targets : List Target)
  | modify (group : String) (change : TargetChange) (targets : List Target)
  | add (group : String) (specs : List TargetSpec)
  deriving Repr, DecidableEq, Inhabited

def LocalJob.group : LocalJob → String
  | remove group _ | modify group _ _ | add group _ => group

/-- The work of a batch: changes of unbound groups, and one job per load balancer. -/
structure Routed where
  unbound : List LocalJob := []
  bound : List (String × Job) := []
  deriving Repr, DecidableEq, Inhabited

namespace Routing

/-- Asks the catalog, under the name of the call. -/
def ask (c : CatalogCall) : Work c.Answer :=
  Work.askCatalog (.timed c.name) c

def foreign (kind id : String) (vendor : Vendor) (account : String) (r : BatchRequest) : Failure :=
  .invalidParameter (kind ++ " " ++ id ++ " belongs to " ++ text vendor ++ "/" ++ account ++
    ", not " ++ text r.vendor ++ "/" ++ r.account)

def checkOwner (kind id : String) (vendor : Vendor) (account : String) (r : BatchRequest) :
    Except Failure Unit :=
  if vendor = r.vendor ∧ account = r.account then .ok ()
  else .error (foreign kind id vendor account r)

/-- The target group of that id, which has to belong to the requester. -/
def group (r : BatchRequest) (id : String) : Work TargetGroup := do
  match ← ask (.getGroup id) with
  | none => throw (.notFound ("target group " ++ id))
  | some g =>
      Work.ofExcept (checkOwner "target group" g.id g.vendor g.account r)
      return g

def balancer (r : BatchRequest) (id : String) : Work LoadBalancer := do
  match ← ask (.getBalancer id) with
  | none => throw (.notFound ("load balancer " ++ id))
  | some b =>
      Work.ofExcept (checkOwner "load balancer" b.id b.vendor b.account r)
      return b

/-- Refuses ids that were not found, naming all of them. -/
def ensureFound (kind : String) (requested found : List String) : Except Failure Unit :=
  match requested.filter fun id => id ∉ found with
  | [] => .ok ()
  | missing => .error (.notFound (kind ++ " " ++ ", ".intercalate missing))

/-- How the items of a group are changed, without and with a binding. -/
structure TargetRoute where
  unbound : (group : String) → (targets : List Target) → LocalJob
  bound : (groups : List BoundTargets) → Job

def weightRoute (weight : UInt32) : TargetRoute where
  unbound group targets := .modify group (.weight weight) targets
  bound groups := .modifyWeight weight groups

def portRoute (port : UInt16) : TargetRoute where
  unbound group targets := .modify group (.port port) targets
  bound groups := .modifyPort port groups

def removalRoute : TargetRoute where
  unbound := .remove
  bound := .removeTargets

/-- The groups looked at so far: those without binding, and those with one by load balancer. -/
structure SplitGroups where
  unbound : List (String × List Target) := []
  bound : Keyed String (List BoundTargets) := []

/-- Looks the groups up one by one and puts each on its side. -/
def splitGroups (r : BatchRequest) : SplitGroups → List (String × List Target) → Work SplitGroups
  | s, [] => return s
  | s, (id, targets) :: rest => do
      let _ ← group r id
      match ← ask (.findBinding id) with
      | none => splitGroups r { s with unbound := s.unbound ++ [(id, targets)] } rest
      | some binding =>
          splitGroups r { s with bound := s.bound.pushTo binding.balancer { binding, targets } }
            rest

/-- Routes existing targets: by group in the order of the request, and the bound groups by load
balancer. -/
def targets (r : BatchRequest) (route : TargetRoute) (ids : List String) : Work Routed := do
  let found ← ask (.listTargets ids)
  Work.ofExcept (ensureFound "target" ids (found.map Target.id))
  let split ← splitGroups r {} (Keyed.gather Target.group found)
  return { unbound := split.unbound.map fun g => route.unbound g.1 g.2
           bound := split.bound.map fun g => (g.1, route.bound g.2) }

def newTargets (r : BatchRequest) (id : String) (specs : List TargetSpec) : Work Routed := do
  let _ ← group r id
  match ← ask (.findBinding id) with
  | none => return { unbound := [.add id specs] }
  | some binding =>
      return { bound := [(binding.balancer, .addTargets [{ binding, targets := specs }])] }

def listeners (r : BatchRequest) (id : String) (ids : List String) : Work Routed := do
  let b ← balancer r id
  let found ← ask (.listListeners ids)
  Work.ofExcept (ensureFound "listener" ids (found.map Listener.id))
  return { bound := [(b.id, .deleteListeners b found)] }

def alreadyBound (b : Binding) : Failure :=
  .notUpdatable ("target group " ++ b.group ++ " is already bound to listener " ++ b.listener)

def otherCloudId (l : Listener) (b : Binding) : Failure :=
  .invalidParameter ("listener " ++ l.id ++ " has cloud id " ++ l.cloudId ++ ", binding names " ++
    b.listenerCloudId)

/-- The listener of a binding is on its load balancer, under the cloud id the binding carries. -/
def checkListener (b : Binding) (l : Listener) : Except Failure Unit :=
  if l.balancer ≠ b.balancer then .error (Plan.foreignListener l b.balancer)
  else if l.cloudId ≠ b.listenerCloudId then .error (otherCloudId l b)
  else .ok ()

def bindingListener (b : Binding) : Work Unit := do
  match (← ask (.listListeners [b.listener])).find? fun l => l.id = b.listener with
  | none => throw (.notFound ("listener " ++ b.listener))
  | some l => Work.ofExcept (checkListener b l)

/-- A wanted binding with the targets its group has. -/
def newBinding (r : BatchRequest) (b : Binding) : Work BoundSpecs := do
  let _ ← group r b.group
  match ← ask (.findBinding b.group) with
  | some existing => throw (alreadyBound existing)
  | none =>
      let _ ← balancer r b.balancer
      bindingListener b
      let targets ← ask (.listGroupTargets b.group)
      return { binding := b, targets := targets.map Target.spec }

def newBindings (r : BatchRequest) : List Binding → Work (List BoundSpecs)
  | [] => return []
  | b :: rest => do
      let g ← newBinding r b
      return g :: (← newBindings r rest)

def bindings (r : BatchRequest) (wanted : List Binding) : Work Routed := do
  let groups ← newBindings r wanted
  return { bound := (Keyed.gather (fun g => g.binding.balancer) groups).map fun g =>
             (g.1, .bindTargetGroups g.2) }

def route (r : BatchRequest) : Work Routed :=
  match r.command with
  | .modifyWeight ids weight => targets r (weightRoute weight) ids
  | .modifyPort ids port => targets r (portRoute port) ids
  | .removeTargets ids => targets r removalRoute ids
  | .addTargets id specs => newTargets r id specs
  | .deleteListeners id ids => listeners r id ids
  | .bindTargetGroups wanted => bindings r wanted

end Routing

end BalancerFlows
