import BalancerFlows.Json.Wire

/-!
# Load balancer inventory

The records a catalog answers with: load balancers, their listeners, target groups, the places
target groups are attached to, and the targets in them.
-/
namespace BalancerFlows

structure LoadBalancer where
  id : String
  cloudId : String
  vendor : Vendor
  account : String
  region : String
  deriving Repr, DecidableEq, Inhabited

structure Listener where
  id : String
  cloudId : String
  balancer : String
  protocol : String
  port : UInt16
  deriving Repr, DecidableEq, Inhabited

structure TargetGroup where
  id : String
  name : String
  vendor : Vendor
  account : String
  deriving Repr, DecidableEq, Inhabited

/-- Where a target group is attached on the cloud side; layer-7 listeners attach through a rule.
A group without binding was never pushed to the cloud. -/
structure Binding where
  group : String
  balancer : String
  balancerCloudId : String
  listener : String
  listenerCloudId : String
  ruleCloudId : Option String
  deriving Repr, DecidableEq, Inhabited

/-- What a target is made of, before it has an id and a group. -/
structure TargetSpec where
  instanceId : String
  ip : String
  port : UInt16
  weight : UInt32
  deriving Repr, DecidableEq, Inhabited

structure Target where
  id : String
  group : String
  instanceId : String
  ip : String
  port : UInt16
  weight : UInt32
  deriving Repr, DecidableEq, Inhabited

/-- A target to be added to a group; the catalog chooses its id. -/
structure NewTarget where
  group : String
  instanceId : String
  ip : String
  port : UInt16
  weight : UInt32
  deriving Repr, DecidableEq, Inhabited

/-- A change of one target; what is not named stays. -/
structure TargetPatch where
  id : String
  port : Option UInt16 := none
  weight : Option UInt32 := none
  deriving Repr, DecidableEq, Inhabited

namespace Target

def spec (t : Target) : TargetSpec :=
  { instanceId := t.instanceId, ip := t.ip, port := t.port, weight := t.weight }

end Target

/-- The target with the named fields replaced; the id of the patch is not looked at. -/
def TargetPatch.apply (p : TargetPatch) (t : Target) : Target :=
  { t with port := p.port.getD t.port, weight := p.weight.getD t.weight }

instance : Wire LoadBalancer where
  encode b := .obj [("id", encode b.id), ("cloud_id", encode b.cloudId),
    ("vendor", encode b.vendor), ("account_id", encode b.account), ("region", encode b.region)]
  decode := readRecord do
    return { id := ← required "id", cloudId := ← required "cloud_id",
             vendor := ← required "vendor", account := ← required "account_id",
             region := ← required "region" }

instance : Wire Listener where
  encode l := .obj [("id", encode l.id), ("cloud_id", encode l.cloudId),
    ("lb_id", encode l.balancer), ("protocol", encode l.protocol), ("port", encode l.port)]
  decode := readRecord do
    return { id := ← required "id", cloudId := ← required "cloud_id",
             balancer := ← required "lb_id", protocol := ← required "protocol",
             port := ← required "port" }

instance : Wire TargetGroup where
  encode g := .obj [("id", encode g.id), ("name", encode g.name), ("vendor", encode g.vendor),
    ("account_id", encode g.account)]
  decode := readRecord do
    return { id := ← required "id", name := ← required "name", vendor := ← required "vendor",
             account := ← required "account_id" }

instance : Wire Binding where
  encode b := .obj [("target_group_id", encode b.group), ("lb_id", encode b.balancer),
    ("lb_cloud_id", encode b.balancerCloudId), ("listener_id", encode b.listener),
    ("listener_cloud_id", encode b.listenerCloudId), ("rule_cloud_id", encode b.ruleCloudId)]
  decode := readRecord do
    return { group := ← required "target_group_id", balancer := ← required "lb_id",
             balancerCloudId := ← required "lb_cloud_id", listener := ← required "listener_id",
             listenerCloudId := ← required "listener_cloud_id",
             ruleCloudId := ← optional "rule_cloud_id" }

instance : Wire TargetSpec where
  encode s := .obj [("cloud_inst_id", encode s.instanceId), ("ip", encode s.ip),
    ("port", encode s.port), ("weight", encode s.weight)]
  decode := readRecord do
    return { instanceId := ← required "cloud_inst_id", ip := ← required "ip",
             port := ← required "port", weight := ← required "weight" }

instance : Wire Target where
  encode t := .obj [("id", encode t.id), ("target_group_id", encode t.group),
    ("cloud_inst_id", encode t.instanceId), ("ip", encode t.ip), ("port", encode t.port),
    ("weight", encode t.weight)]
  decode := readRecord do
    return { id := ← required "id", group := ← required "target_group_id",
             instanceId := ← required "cloud_inst_id", ip := ← required "ip",
             port := ← required "port", weight := ← required "weight" }

instance : Wire NewTarget where
  encode t := .obj [("target_group_id", encode t.group), ("cloud_inst_id", encode t.instanceId),
    ("ip", encode t.ip), ("port", encode t.port), ("weight", encode t.weight)]
  decode := readRecord do
    return { group := ← required "target_group_id", instanceId := ← required "cloud_inst_id",
             ip := ← required "ip", port := ← required "port", weight := ← required "weight" }

instance : Wire TargetPatch where
  encode p := .obj [("id", encode p.id), ("port", encode p.port), ("weight", encode p.weight)]
  decode := readRecord do
    return { id := ← required "id", port := ← optional "port", weight := ← optional "weight" }

end BalancerFlows
