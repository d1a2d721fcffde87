import BalancerFlows.Batch.Record
import BalancerFlows.Detail
import BalancerFlows.Keyed

/-!
# The store

Tables of batches, details, flows, locks and sub-flow rows, and the calls on them. A call is the
unit of atomicity: it happens as a whole or not at all, and nothing spans two calls. A store can be
told to refuse calls; a refused call is counted and changes no row.
-/
namespace BalancerFlows

/-- Rows under ids that count up from 1. -/
structure Table (α : Type) where
  rows : Keyed Int64 α := []
  created : Nat := 0
  deriving Repr, DecidableEq, Inhabited

namespace Table

variable {α : Type}

def nextId (t : Table α) : Int64 :=
  Int64.ofNat (t.created + 1)

/-- Adds the row made for the next id. -/
def add (t : Table α) (make : Int64 → α) : α × Table α :=
  let row := make t.nextId
  (row, { rows := t.rows.put t.nextId row, created := t.created + 1 })

def addAll (t : Table α) : List (Int64 → α) → List α × Table α
  | [] => ([], t)
  | make :: makes =>
      let (row, t) := t.add make
      let (rows, t) := t.addAll makes
      (row :: rows, t)

def get? (t : Table α) (id : Int64) : Option α :=
  t.rows.get? id

/-- Changes the row of that id, if there is one. -/
def update (t : Table α) (id : Int64) (change : α → α) : Table α :=
  { t with rows := t.rows.update id change }

def values (t : Table α) : List α :=
  t.rows.values

end Table

structure Tables where
  batches : Table Batch := {}
  details : Table Detail := {}
  flows : Table Flow := {}
  locks : Keyed ResourceKey Lock := []
  subFlows : List SubFlow := []
  deriving Repr, DecidableEq, Inhabited

/-- The stored form of a new flow: it is not yet visible to the executor. -/
def NewFlow.store (n : NewFlow) (id : Int64) : Flow :=
  { id, operation := n.operation, state := .init, shareData := n.shareData, tasks := n.tasks }

/-- What became of an attempt to take a lock. -/
inductive LockAttempt where
  | created (lock : Lock)
  | conflict (owner : Lock)
  deriving Repr, DecidableEq, Inhabited

namespace Tables

def missingBatch (id : Int64) : Failure :=
  .notFound ("task management " ++ toString id)

/-- Replaces the flows of a batch. -/
def attachFlows (t : Tables) (batch : Int64) (flows : List Int64) :
    Except Failure Unit × Tables :=
  match t.batches.get? batch with
  | none => (.error (missingBatch batch), t)
  | some _ => (.ok (), { t with batches := t.batches.update batch fun b => { b with flows } })

def detailsOf (t : Tables) (batch : Int64) : List Detail :=
  t.details.values.filter fun d => d.batch = batch

def detailsIn (t : Tables) (state : DetailState) : List Detail :=
  t.details.values.filter fun d => d.state = state

/-- Applies patches in order; a patch of an unknown detail has no effect. -/
def patchDetails (details : Table Detail) (patches : List DetailPatch) : Table Detail :=
  patches.foldl (fun t p => t.update p.id p.apply) details

/-- Moves a flow from one state to another, if it exists and is in the first. -/
def moveFlow (t : Tables) (id : Int64) (expected target : FlowState) : Bool × Tables :=
  match t.flows.get? id with
  | some f =>
      if f.state = expected then
        (true, { t with flows := t.flows.update id fun f => { f with state := target } })
      else (false, t)
  | none => (false, t)

/-- Takes a lock unless the resource has an owner. -/
def takeLock (t : Tables) (lock : Lock) : LockAttempt × Tables :=
  match t.locks.get? lock.resource with
  | some owner => (.conflict owner, t)
  | none => (.created lock, { t with locks := t.locks.put lock.resource lock })

/-- Drops the lock of a resource, if that flow holds it. -/
def releaseLock (t : Tables) (resource : ResourceKey) (flow : Int64) : Bool × Tables :=
  match t.locks.get? resource with
  | some owner =>
      if owner.flow = flow then (true, { t with locks := t.locks.erase resource })
      else (false, t)
  | none => (false, t)

/-- Adds the rows that are not there yet. -/
def addSubFlows (subFlows : List SubFlow) (rows : List SubFlow) : List SubFlow :=
  rows.foldl (fun kept r => if r ∈ kept then kept else kept ++ [r]) subFlows

/-- Sub-flow rows by resource id, then by the text of the kind. -/
def subFlowLe (a b : SubFlow) : Bool :=
  a.resource.id < b.resource.id ||
    (a.resource.id = b.resource.id && text a.resource.kind ≤ text b.resource.kind)

/-- The sub-flow rows of a flow, sorted by resource. -/
def subFlowsOf (t : Tables) (flow : Int64) : List SubFlow :=
  (t.subFlows.filter fun r => r.flow = flow).mergeSort subFlowLe

def lockLe (a b : Lock) : Bool :=
  a.resource.id < b.resource.id ||
    (a.resource.id = b.resource.id && text a.resource.kind ≤ text b.resource.kind)

def sortedLocks (t : Tables) : List Lock :=
  t.locks.values.mergeSort lockLe

end Tables

inductive StoreCall where
  | createBatch (new : NewBatch)
  | getBatch (id : Int64)
  | attachFlows (batch : Int64) (flows : List Int64)
  | createDetails (news : List NewDetail)
  | listDetails (batch : Int64)
  | updateDetails (patches : List DetailPatch)
  | createFlow (new : NewFlow)
  | getFlow (id : Int64)
  | moveFlow (id : Int64) (expected target : FlowState)
  | findLock (resource : ResourceKey)
  | takeLock (lock : Lock)
  | releaseLock (resource : ResourceKey) (flow : Int64)
  | createSubFlows (rows : List SubFlow)
  | listSubFlows (flow : Int64)
  deriving Repr, DecidableEq

/-- The kinds of call that are counted and can be refused. -/
inductive StoreOp where
  | createBatch | attachFlows | createDetails | updateDetails | createFlow | moveFlow | findLock
  | takeLock | createSubFlows
  deriving Repr, DecidableEq, Inhabited

instance : Vocabulary StoreOp where
  all := [.createBatch, .attachFlows, .createDetails, .updateDetails, .createFlow, .moveFlow,
    .findLock, .takeLock, .createSubFlows]
  text
    | .createBatch => "create_task_management"
    | .attachFlows => "attach_flows"
    | .createDetails => "create_task_details"
    | .updateDetails => "update_task_details"
    | .createFlow => "create_flow"
    | .moveFlow => "cas_flow_state"
    | .findLock => "find_resource_relation"
    | .takeLock => "create_resource_relation"
    | .createSubFlows => "create_sub_flow_relations"

namespace StoreCall

@[reducible] def Answer : StoreCall → Type
  | createBatch _ => Batch
  | getBatch _ => Option Batch
  | attachFlows .. => Unit
  | createDetails _ => List Detail
  | listDetails _ => List Detail
  | updateDetails _ => Unit
  | createFlow _ => Flow
  | getFlow _ => Option Flow
  | moveFlow .. => Bool
  | findLock _ => Option Lock
  | takeLock _ => LockAttempt
  | releaseLock .. => Bool
  | createSubFlows _ => Unit
  | listSubFlows _ => List SubFlow

def name : StoreCall → String
  | createBatch _ => "create_task_management"
  | getBatch _ => "get_task_management"
  | attachFlows .. => "attach_flows"
  | createDetails _ => "create_task_details"
  | listDetails _ => "list_task_details"
  | updateDetails _ => "update_task_details"
  | createFlow _ => "create_flow"
  | getFlow _ => "get_flow"
  | moveFlow .. => "cas_flow_state"
  | findLock _ => "find_resource_relation"
  | takeLock _ => "try_create_resource_relation"
  | releaseLock .. => "delete_resource_relation"
  | createSubFlows _ => "create_sub_flow_relations"
  | listSubFlows _ => "list_sub_flow_relations"

/-- The kind under which a call is counted. Plain reads, releases and calls with nothing to write
are not counted. -/
def op? : StoreCall → Option StoreOp
  | createBatch _ => some .createBatch
  | attachFlows .. => some .attachFlows
  | createDetails news => if news.isEmpty then none else some .createDetails
  | updateDetails patches => if patches.isEmpty then none else some .updateDetails
  | createFlow _ => some .createFlow
  | moveFlow .. => some .moveFlow
  | findLock _ => some .findLock
  | takeLock _ => some .takeLock
  | createSubFlows rows => if rows.isEmpty then none else some .createSubFlows
  | getBatch _ | listDetails _ | getFlow _ | releaseLock .. | listSubFlows _ => none

end StoreCall

namespace Tables

/-- Carries out a call on the rows. -/
def carryOut (t : Tables) : (c : StoreCall) → Except Failure c.Answer × Tables
  | .createBatch new =>
      let (batch, batches) := t.batches.add new.store
      (.ok batch, { t with batches })
  | .getBatch id => (.ok (t.batches.get? id), t)
  | .attachFlows batch flows => t.attachFlows batch flows
  | .createDetails news =>
      let (created, details) := t.details.addAll (news.map NewDetail.store)
      (.ok created, { t with details })
  | .listDetails batch => (.ok (t.detailsOf batch), t)
  | .updateDetails patches => (.ok (), { t with details := patchDetails t.details patches })
  | .createFlow new =>
      let (flow, flows) := t.flows.add new.store
      (.ok flow, { t with flows })
  | .getFlow id => (.ok (t.flows.get? id), t)
  | .moveFlow id expected target =>
      let (moved, t) := t.moveFlow id expected target
      (.ok moved, t)
  | .findLock resource => (.ok (t.locks.get? resource), t)
  | .takeLock lock =>
      let (attempt, t) := t.takeLock lock
      (.ok attempt, t)
  | .releaseLock resource flow =>
      let (released, t) := t.releaseLock resource flow
      (.ok released, t)
  | .createSubFlows rows => (.ok (), { t with subFlows := addSubFlows t.subFlows rows })
  | .listSubFlows flow => (.ok (t.subFlowsOf flow), t)

end Tables

/-- Which calls of a kind are refused: all of them, or only the one with that number. -/
structure Refusal where
  nth : Option Nat := none
  message : String
  deriving Repr, DecidableEq, Inhabited

/-- What is wrong with a store at the moment. -/
structure Faults where
  refusals : Keyed StoreOp Refusal := []
  /-- Every lock looks free, as if read just before it was taken. -/
  staleReads : Bool := false
  /-- Every new flow is cancelled right after its creation. -/
  cancelOnCreate : Bool := false
  deriving Repr, DecidableEq, Inhabited

namespace Faults

def refuse (f : Faults) (op : StoreOp) (message : String) : Faults :=
  { f with refusals := f.refusals.put op { message } }

/-- Refuses the `n`-th call of a kind, counted from 1 over all calls made so far. -/
def refuseNth (f : Faults) (op : StoreOp) (n : Nat) (message : String) : Faults :=
  { f with refusals := f.refusals.put op { nth := some n, message } }

def refuseNone (f : Faults) : Faults :=
  { f with refusals := [] }

end Faults

/-- The rows, what is wrong with the store, and how often each kind of call was made, in words that
wrap around. -/
structure Store where
  tables : Tables := {}
  faults : Faults := {}
  counts : Keyed StoreOp UInt64 := []
  deriving Repr, DecidableEq, Inhabited

namespace Store

def callCount (s : Store) (op : StoreOp) : Nat :=
  ((s.counts.get? op).getD 0).toNat

def countCall (s : Store) (op : StoreOp) : Store :=
  { s with counts := s.counts.put op ((s.counts.get? op).getD 0 + 1) }

/-- The failure of a call that has just been counted, if it is to be refused. -/
def refusal? (s : Store) (op : StoreOp) : Option Failure :=
  match s.faults.refusals.get? op with
  | some r =>
      match r.nth with
      | none => some (.aborted r.message)
      | some n => if n = s.callCount op then some (.aborted r.message) else none
  | none => none

/-- Carries out a call that is not refused. -/
def carryOut (s : Store) (c : StoreCall) : Except Failure c.Answer × Store :=
  let (answer, tables) := s.tables.carryOut c
  (answer, { s with tables })

/-- Counts a call and carries it out unless it is refused. -/
def attempt (s : Store) (c : StoreCall) : Except Failure c.Answer × Store :=
  match c.op? with
  | none => s.carryOut c
  | some op =>
      let s := s.countCall op
      match s.refusal? op with
      | some failure => (.error failure, s)
      | none => s.carryOut c

/-- Cancels a flow that was just created; when that is refused, so is the creation. -/
def cancelCreated (s : Store) (flow : Flow) : Except Failure Flow × Store :=
  match s.attempt (.moveFlow flow.id .init .cancelled) with
  | (.ok _, s) => (.ok flow, s)
  | (.error failure, s) => (.error failure, s)

/-- Makes one call under the store's present faults. -/
def perform (s : Store) : (c : StoreCall) → Except Failure c.Answer × Store
  | .findLock resource =>
      match s.attempt (.findLock resource) with
      | (.ok found, s) => (.ok (if s.faults.staleReads then none else found), s)
      | (.error failure, s) => (.error failure, s)
  | .createFlow new =>
      match s.attempt (.createFlow new) with
      | (.ok flow, s) => if s.faults.cancelOnCreate then s.cancelCreated flow else (.ok flow, s)
      | (.error failure, s) => (.error failure, s)
  | c => s.attempt c

end Store

end BalancerFlows
