import BalancerFlows.Flow

/-!
# Item records

One detail per item that a batch changes. A detail starts `pending`; the ones bound to a task are
settled by the executor, all others before the request returns. A patch replaces the fields it
names, so patches of different fields commute.
-/
namespace BalancerFlows

/-- What all details of one piece of work have in common. -/
structure DetailScope where
  batch : Int64
  business : Int64
  operation : Operation
  deriving Repr, DecidableEq, Inhabited

structure NewDetail where
  batch : Int64
  business : Int64
  operation : Operation
  param : Json
  deriving Repr, DecidableEq, Inhabited

structure Detail where
  id : Int64
  batch : Int64
  business : Int64
  operation : Operation
  param : Json
  flow : Option Int64 := none
  action : Option ActionId := none
  state : DetailState := .pending
  reason : Option String := none
  deriving Repr, DecidableEq, Inhabited

/-- A change of one detail; what is not named stays. -/
structure DetailPatch where
  id : Int64
  flow : Option Int64 := none
  action : Option ActionId := none
  state : Option DetailState := none
  reason : Option String := none
  deriving Repr, DecidableEq, Inhabited

def DetailScope.detail (s : DetailScope) (param : Json) : NewDetail :=
  { batch := s.batch, business := s.business, operation := s.operation, param }

def NewDetail.store (n : NewDetail) (id : Int64) : Detail :=
  { id, batch := n.batch, business := n.business, operation := n.operation, param := n.param }

namespace DetailPatch

/-- The detail with the named fields replaced; the id of the patch is not looked at. -/
def apply (p : DetailPatch) (d : Detail) : Detail :=
  { d with
    flow := p.flow <|> d.flow
    action := p.action <|> d.action
    state := p.state.getD d.state
    reason := p.reason <|> d.reason }

/-- Settles a detail, with a reason or without touching it. -/
def settle (id : Int64) (state : DetailState) (reason : Option String) : DetailPatch :=
  { id, state := some state, reason }

@[simp] theorem apply_id (p : DetailPatch) (d : Detail) : (p.apply d).id = d.id := rfl
@[simp] theorem apply_batch (p : DetailPatch) (d : Detail) : (p.apply d).batch = d.batch := rfl
@[simp] theorem apply_param (p : DetailPatch) (d : Detail) : (p.apply d).param = d.param := rfl

end DetailPatch

namespace Detail

/-- The patch that writes the flow and task a detail is bound to. -/
def bindingPatch (d : Detail) : DetailPatch :=
  { id := d.id, flow := d.flow, action := d.action }

def bindAction (id : ActionId) (d : Detail) : Detail :=
  { d with action := some id }

def bindFlow (flow : Int64) (d : Detail) : Detail :=
  { d with flow := some flow }

/-- A pending detail failed for a reason; a settled one stays as it is. -/
def failIfPending (reason : String) (d : Detail) : Detail :=
  if d.state = .pending then { d with state := .failed, reason := some reason } else d

end Detail

instance : Wire DetailScope where
  encode s := .obj [("task_management_id", encode s.batch), ("business_id", encode s.business),
    ("task_type", encode s.operation)]
  decode := readRecord do
    return { batch := ← required "task_management_id", business := ← required "business_id",
             operation := ← required "task_type" }

instance : Wire NewDetail where
  encode n := .obj [("task_management_id", encode n.batch), ("business_id", encode n.business),
    ("task_type", encode n.operation), ("param", n.param)]
  decode := readRecord do
    return { batch := ← required "task_management_id", business := ← required "business_id",
             operation := ← required "task_type", param := ← required "param" }

instance : Wire Detail where
  encode d := .obj [("id", encode d.id), ("task_management_id", encode d.batch),
    ("business_id", encode d.business), ("task_type", encode d.operation), ("param", d.param),
    ("flow_id", encode d.flow), ("action_id", encode d.action), ("state", encode d.state),
    ("reason", encode d.reason)]
  decode := readRecord do
    return { id := ← required "id", batch := ← required "task_management_id",
             business := ← required "business_id", operation := ← required "task_type",
             param := ← required "param", flow := ← optional "flow_id",
             action := ← optional "action_id", state := ← required "state",
             reason := ← optional "reason" }

instance : Wire DetailPatch where
  encode p := .obj [("id", encode p.id), ("flow_id", encode p.flow),
    ("action_id", encode p.action), ("state", encode p.state), ("reason", encode p.reason)]
  decode := readRecord do
    return { id := ← required "id", flow := ← optional "flow_id",
             action := ← optional "action_id", state := ← optional "state",
             reason := ← optional "reason" }

end BalancerFlows
