import BalancerFlows.Failure
import BalancerFlows.Flow

/-!
# Batch records, locks and sub-flows

The remaining rows of the store: one record per accepted request, one lock per resource that a
flow owns, and the rows that say which further resources a flow touches.
-/
namespace BalancerFlows

structure NewBatch where
  business : Int64
  vendor : Vendor
  account : String
  source : String
  operation : Operation
  deriving Repr, DecidableEq, Inhabited

/-- A stored batch, with the flows built for it once they are attached. -/
structure Batch where
  id : Int64
  business : Int64
  vendor : Vendor
  account : String
  source : String
  operation : Operation
  flows : List Int64 := []
  deriving Repr, DecidableEq, Inhabited

def NewBatch.store (n : NewBatch) (id : Int64) : Batch :=
  { id, business := n.business, vendor := n.vendor, account := n.account, source := n.source,
    operation := n.operation }

/-- A resource as locks and sub-flow rows name it. -/
structure ResourceKey where
  id : String
  kind : ResourceKind
  deriving Repr, DecidableEq, Inhabited

/-- The one flow that may change a resource, and the change in progress. -/
structure Lock where
  resource : ResourceKey
  flow : Int64
  kind : LockKind
  deriving Repr, DecidableEq, Inhabited

def Lock.busy (l : Lock) : Failure :=
  .busy l.resource.id l.resource.kind l.flow l.kind

structure SubFlow where
  flow : Int64
  resource : ResourceKey
  deriving Repr, DecidableEq, Inhabited

instance : Wire NewBatch where
  encode n := .obj [("business_id", encode n.business), ("vendor", encode n.vendor),
    ("account_id", encode n.account), ("source", encode n.source),
    ("task_type", encode n.operation)]
  decode := readRecord do
    return { business := ← required "business_id", vendor := ← required "vendor",
             account := ← required "account_id", source := ← required "source",
             operation := ← required "task_type" }

/-- A stored batch is only ever written. -/
def Batch.toJson (b : Batch) : Json :=
  .obj [("id", encode b.id), ("business_id", encode b.business), ("vendor", encode b.vendor),
    ("account_id", encode b.account), ("source", encode b.source),
    ("task_type", encode b.operation), ("flow_ids", encode b.flows)]

instance : Wire ResourceKey where
  encode k := .obj [("resource_id", encode k.id), ("resource_type", encode k.kind)]
  decode := readRecord do
    return { id := ← required "resource_id", kind := ← required "resource_type" }

instance : Wire Lock where
  encode l := .obj [("resource_id", encode l.resource.id),
    ("resource_type", encode l.resource.kind),
    ("flow_id", encode l.flow), ("lock_kind", encode l.kind)]
  decode := readRecord do
    let key : ResourceKey := { id := ← required "resource_id", kind := ← required "resource_type" }
    return { resource := key, flow := ← required "flow_id", kind := ← required "lock_kind" }

instance : Wire SubFlow where
  encode s := .obj [("flow_id", encode s.flow), ("resource_id", encode s.resource.id),
    ("resource_type", encode s.resource.kind)]
  decode := readRecord do
    let flow ← required "flow_id"
    let key : ResourceKey := { id := ← required "resource_id", kind := ← required "resource_type" }
    return { flow, resource := key }

end BalancerFlows
