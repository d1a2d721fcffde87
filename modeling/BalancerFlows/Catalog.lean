import BalancerFlows.Failure
import BalancerFlows.Inventory
import BalancerFlows.Keyed

/-!
# The catalog

The load balancer inventory by id, read to turn the ids of a request into records, and written
only for targets of groups that were never pushed to the cloud.
-/
namespace BalancerFlows

/-- The inventory. Bindings are kept under the id of their group. -/
structure Catalog where
  balancers : Keyed String LoadBalancer := []
  groups : Keyed String TargetGroup := []
  bindings : Keyed String Binding := []
  targets : Keyed String Target := []
  listeners : Keyed String Listener := []
  /-- The number of the target that the catalog has named last; it wraps around. -/
  named : UInt64 := 0
  deriving Repr, DecidableEq, Inhabited

/-- Records to be put into a catalog. -/
structure Stock where
  balancers : List LoadBalancer := []
  groups : List TargetGroup := []
  bindings : List Binding := []
  targets : List Target := []
  listeners : List Listener := []
  deriving Repr, DecidableEq, Inhabited

inductive CatalogCall where
  | getBalancer (id : String)
  | getGroup (id : String)
  | findBinding (group : String)
  | listTargets (ids : List String)
  | listGroupTargets (group : String)
  | listListeners (ids : List String)
  | createTargets (news : List NewTarget)
  | updateTargets (patches : List TargetPatch)
  | deleteTargets (ids : List String)
  deriving Repr, DecidableEq

namespace CatalogCall

@[reducible] def Answer : CatalogCall → Type
  | getBalancer _ => Option LoadBalancer
  | getGroup _ => Option TargetGroup
  | findBinding _ => Option Binding
  | listTargets _ => List Target
  | listGroupTargets _ => List Target
  | listListeners _ => List Listener
  | createTargets _ => List Target
  | updateTargets _ => Unit
  | deleteTargets _ => Unit

def name : CatalogCall → String
  | getBalancer _ => "get_load_balancer"
  | getGroup _ => "get_target_group"
  | findBinding _ => "find_target_group_binding"
  | listTargets _ => "list_targets"
  | listGroupTargets _ => "list_targets_by_group"
  | listListeners _ => "list_listeners"
  | createTargets _ => "create_targets"
  | updateTargets _ => "update_targets"
  | deleteTargets _ => "delete_targets"

end CatalogCall

namespace Catalog

/-- Puts a record in; a record of the same id is replaced. -/
def insertTarget (c : Catalog) (t : Target) : Catalog :=
  { c with targets := c.targets.put t.id t }

/-- Puts records in, kind by kind; of two with one id the later one stays. -/
def insert (c : Catalog) (s : Stock) : Catalog :=
  { c with
    balancers := s.balancers.foldl (fun t b => t.put b.id b) c.balancers
    groups := s.groups.foldl (fun t g => t.put g.id g) c.groups
    bindings := s.bindings.foldl (fun t b => t.put b.group b) c.bindings
    targets := s.targets.foldl (fun m t => m.put t.id t) c.targets
    listeners := s.listeners.foldl (fun t l => t.put l.id l) c.listeners }

def groupTargets (c : Catalog) (group : String) : List Target :=
  (c.targets.values.filter fun t => t.group = group).mergeSort fun a b => a.id ≤ b.id

def sortedTargets (c : Catalog) : List Target :=
  c.targets.values.mergeSort fun a b => a.id ≤ b.id

def nthName (n : UInt64) : String :=
  "target-" ++ toString n.toNat

/-- The new targets with the ids that follow the one with the number `named`. -/
def nameTargets (named : UInt64) : List NewTarget → List Target
  | [] => []
  | n :: rest =>
      { id := nthName (named + 1), group := n.group, instanceId := n.instanceId, ip := n.ip
        port := n.port, weight := n.weight } :: nameTargets (named + 1) rest

def createTargets (c : Catalog) (news : List NewTarget) : List Target × Catalog :=
  let created := nameTargets c.named news
  (created, { created.foldl insertTarget c with named := c.named + .ofNat news.length })

def missingTarget (id : String) : Failure :=
  .notFound ("target " ++ id)

/-- Applies patches in order up to the first whose target is missing; those before it stay
applied. -/
def updateTargets (c : Catalog) : List TargetPatch → Except Failure Unit × Catalog
  | [] => (.ok (), c)
  | p :: rest =>
      match c.targets.get? p.id with
      | none => (.error (missingTarget p.id), c)
      | some _ => updateTargets { c with targets := c.targets.update p.id p.apply } rest

/-- Drops targets; ids that name none are ignored. -/
def deleteTargets (c : Catalog) (ids : List String) : Catalog :=
  { c with targets := ids.foldl Keyed.erase c.targets }

def perform (c : Catalog) : (call : CatalogCall) → Except Failure call.Answer × Catalog
  | .getBalancer id => (.ok (c.balancers.get? id), c)
  | .getGroup id => (.ok (c.groups.get? id), c)
  | .findBinding group => (.ok (c.bindings.get? group), c)
  | .listTargets ids => (.ok (ids.filterMap c.targets.get?), c)
  | .listGroupTargets group => (.ok (c.groupTargets group), c)
  | .listListeners ids => (.ok (ids.filterMap c.listeners.get?), c)
  | .createTargets news =>
      let (created, c) := c.createTargets news
      (.ok created, c)
  | .updateTargets patches => c.updateTargets patches
  | .deleteTargets ids => (.ok (), c.deleteTargets ids)

end Catalog

instance : Wire Stock where
  encode s := .obj [("load_balancers", encode s.balancers), ("target_groups", encode s.groups),
    ("bindings", encode s.bindings), ("targets", encode s.targets),
    ("listeners", encode s.listeners)]
  decode := readRecord do
    return { balancers := ← defaulted "load_balancers" [], groups := ← defaulted "target_groups" [],
             bindings := ← defaulted "bindings" [], targets := ← defaulted "targets" [],
             listeners := ← defaulted "listeners" [] }

end BalancerFlows
