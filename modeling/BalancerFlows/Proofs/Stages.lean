import BalancerFlows.Proofs.Recording

/-!
# Stages of a construction

A construction writes its rows in a fixed order and can stop before each call. `Stage` names how
far it has come; `Stage.tables` are the tables there, computed from the plan and from the tables
before, and `Stage.Awaits` is the call it makes next. Where it stops, an unwinding may still fail
the details, so the tables also depend on the reason that unwinding gave, if there was one.
-/
namespace BalancerFlows

namespace Tables

def withSubFlows (t : Tables) (rows : List SubFlow) : Tables :=
  { t with subFlows := addSubFlows t.subFlows rows }

/-- The tables with a lock, unless the resource has an owner. -/
def withLock (t : Tables) (lock : Lock) : Tables :=
  { t with
    locks := match t.locks.get? lock.resource with
      | none => t.locks.put lock.resource lock
      | some _ => t.locks }

theorem takeLock_snd (t : Tables) (lock : Lock) : (t.takeLock lock).2 = t.withLock lock := by
  unfold takeLock withLock
  cases t.locks.get? lock.resource <;> rfl

theorem withLock_of_free {t : Tables} {lock : Lock} (free : t.locks.get? lock.resource = none) :
    (t.withLock lock).locks = t.locks.put lock.resource lock := by
  unfold withLock
  rw [free]

theorem withLock_of_owned {t : Tables} {lock owner : Lock}
    (found : t.locks.get? lock.resource = some owner) : (t.withLock lock).locks = t.locks := by
  unfold withLock
  rw [found]

theorem withFlow_moved (t : Tables) (new : NewFlow) (state target : FlowState) :
    (t.withFlow new state).flows.update t.flows.nextId (fun f => { f with state := target }) =
      (t.withFlow new target).flows :=
  Table.update_add t.flows (fun id => { new.store id with state }) fun f =>
    { f with state := target }

end Tables

namespace Construction

/-- A detail that a construction creates, and the task that lists it. -/
structure Entry where
  new : NewDetail
  task : ActionId

namespace Entry

def created (e : Entry) (id : Int64) : Detail :=
  e.new.store id

def named (e : Entry) (id : Int64) : Detail :=
  (e.created id).bindAction e.task

def bound (flow : Int64) (e : Entry) (id : Int64) : Detail :=
  (e.named id).bindFlow flow

end Entry

/-- The details of a call whose task has that number. -/
def callEntries (scope : DetailScope) (number : Nat) (call : PlannedCall) : List Entry :=
  call.params.map fun param => { new := scope.detail param, task := ⟨Decimal.text number⟩ }

/-- The details of calls in order, behind a number of other tasks. -/
def entries (scope : DetailScope) : Nat → List PlannedCall → List Entry
  | _, [] => []
  | n, call :: rest => callEntries scope (n + 1) call ++ entries scope (n + 1) rest

theorem entries_append (scope : DetailScope) (n : Nat) (calls more : List PlannedCall) :
    entries scope n (calls ++ more) =
      entries scope n calls ++ entries scope (n + calls.length) more := by
  induction calls generalizing n with
  | nil => rfl
  | cons call rest ih =>
      have shift : n + 1 + rest.length = n + (rest.length + 1) := by omega
      simp [entries, ih, shift]

theorem length_le_length_entries (scope : DetailScope) (n : Nat) {calls : List PlannedCall}
    (filled : ∀ call ∈ calls, call.params ≠ []) :
    calls.length ≤ (entries scope n calls).length := by
  induction calls generalizing n with
  | nil => simp
  | cons call rest ih =>
      obtain ⟨some_params, others⟩ := List.forall_mem_cons.1 filled
      have more := ih (n + 1) others
      have here := List.length_pos_iff.2 some_params
      simp only [entries, callEntries, List.length_append, List.length_map, List.length_cons]
      omega

/-- A construction as it is begun. -/
structure Undertaking where
  scope : FlowScope
  plan : Plan
  faults : Faults
  before : Tables

namespace Undertaking

variable (u : Undertaking)

def flow : Int64 :=
  u.before.flows.nextId

def details : DetailScope :=
  u.scope.details u.plan.operation

def entries (calls : List PlannedCall) : List Entry :=
  Construction.entries u.details 0 calls

def draft (tasks : List FlowTask) : FlowDraft :=
  Construction.draft u.scope u.plan tasks

/-- What is made of the details of some calls under the ids that they get. -/
def made {α : Type} (make : Entry → Int64 → α) (calls : List PlannedCall) : List α :=
  Table.label u.before.details.created ((u.entries calls).map make)

/-- The tasks are those of the plan's calls, and list the details of these. -/
structure Drawn (tasks : List FlowTask) : Prop where
  listing : Listing tasks (u.made Entry.named u.plan.calls)
  requests : tasks.map (fun task => task.params.request) = u.plan.calls.map PlannedCall.request

/-- The look at the gate has found the resource free, or may have been stale. -/
def Admitted : Prop :=
  u.before.locks.get? u.scope.resource = none ∨ u.faults.staleReads = true

/-- The states in which the store may leave a new flow. -/
def Fresh (state : FlowState) : Prop :=
  state = .init ∨ state = .cancelled ∧ u.faults.cancelOnCreate = true

/-- Nobody but the flow itself owns the resource. -/
def Unopposed : Prop :=
  ∀ owner, u.before.locks.get? u.scope.resource = some owner → owner.flow = u.flow

theorem Fresh.ne_pending {u : Undertaking} {state : FlowState} (fresh : u.Fresh state) :
    state ≠ .pending := by
  rcases fresh with rfl | ⟨rfl, -⟩ <;> decide

theorem Drawn.nonempty {u : Undertaking} {tasks : List FlowTask} (drawn : u.Drawn tasks)
    (calls : u.plan.calls ≠ []) : tasks ≠ [] := by
  intro none
  have lengths := congrArg List.length drawn.requests
  rw [none, List.length_map, List.length_map] at lengths
  exact calls (List.length_eq_zero_iff.1 lengths.symm)

theorem exists_of_mem_made {u : Undertaking} {α : Type} {make : Entry → Int64 → α}
    {calls : List PlannedCall} {a : α} (mem : a ∈ u.made make calls) :
    ∃ e ∈ u.entries calls, ∃ id, a = make e id := by
  obtain ⟨one, one_mem, id, rfl⟩ := Table.exists_make_of_mem_label mem
  obtain ⟨e, e_mem, rfl⟩ := List.mem_map.1 one_mem
  exact ⟨e, e_mem, id, rfl⟩

theorem made_append {α : Type} (make : Entry → Int64 → α) (calls : List PlannedCall)
    (call : PlannedCall) :
    u.made make (calls ++ [call]) = u.made make calls ++
      Table.label (u.before.details.created + (u.entries calls).length)
        ((callEntries u.details (calls.length + 1) call).map make) := by
  have one : u.entries (calls ++ [call]) =
      u.entries calls ++ callEntries u.details (calls.length + 1) call := by
    simp [entries, entries_append, Construction.entries]
  rw [made, one, List.map_append, Table.label_append, List.length_map]
  rfl

theorem map_made {α β : Type} (f : α → β) (make : Entry → Int64 → α)
    (calls : List PlannedCall) :
    (u.made make calls).map f = u.made (fun e id => f (make e id)) calls := by
  rw [made, Table.map_label, List.map_map]
  rfl

end Undertaking

/-- How far a construction has come. -/
inductive Stage where
  /-- Nothing was written. -/
  | waiting
  /-- The details of these calls exist. -/
  | chaining (done : List PlannedCall)
  /-- All details and the flow exist. -/
  | stored (tasks : List FlowTask) (state : FlowState)
  /-- The details are bound to the flow. -/
  | bound (tasks : List FlowTask) (state : FlowState)
  /-- The further resources are written. -/
  | associated (tasks : List FlowTask) (state : FlowState)
  /-- The flow has its lock. -/
  | locked (tasks : List FlowTask) (state : FlowState)
  /-- The flow may run, and the construction has succeeded. -/
  | active (tasks : List FlowTask)

namespace Stage

variable (u : Undertaking)

/-- The calls whose details exist. -/
def done : Stage → List PlannedCall
  | waiting => []
  | chaining done => done
  | stored .. | bound .. | associated .. | locked .. | active .. => u.plan.calls

def row (stage : Stage) (e : Entry) (id : Int64) : Detail :=
  match stage with
  | waiting | chaining _ | stored .. => e.created id
  | bound .. | associated .. | locked .. | active .. => e.bound u.flow id

/-- All that is stored beside the new details in the end, with the flow in some state. -/
def owning (tasks : List FlowTask) (state : FlowState) : Tables :=
  ((u.before.withFlow (u.draft tasks).newFlow state).withSubFlows
    ((u.draft tasks).subFlows u.flow)).withLock ((u.draft tasks).lock u.flow)

/-- What is stored beside the new details. -/
def beside : Stage → Tables
  | waiting | chaining _ => u.before
  | stored tasks state | bound tasks state => u.before.withFlow (u.draft tasks).newFlow state
  | associated tasks state =>
      (u.before.withFlow (u.draft tasks).newFlow state).withSubFlows
        ((u.draft tasks).subFlows u.flow)
  | locked tasks state => owning u tasks state
  | active tasks => owning u tasks .pending

/-- The tables at a stage, whose details were unwound for a reason or not. -/
def tables (reason : Option String) (stage : Stage) : Tables :=
  (stage.beside u).withDetails
    ((u.entries (stage.done u)).map fun e id => (stage.row u e id).unwound reason)

/-- A construction can come to that stage. As long as it can still fail, the flow is in the state in
which the store has left it. -/
def Proper : Stage → Prop
  | waiting => True
  | chaining done => u.Admitted ∧ done <+: u.plan.calls
  | stored tasks state | bound tasks state | associated tasks state =>
      u.Admitted ∧ u.Drawn tasks ∧ u.Fresh state
  | locked tasks state => u.Admitted ∧ u.Drawn tasks ∧ u.Fresh state ∧ u.Unopposed
  | active tasks => u.Admitted ∧ u.Drawn tasks ∧ u.Unopposed

/-- The call that comes next. Behind the last stage there is none. -/
def Awaits : Stage → Call → Prop
  | waiting, c => c = .store (.findLock u.scope.resource)
  | chaining done, c =>
      (∃ call rest, u.plan.calls = done ++ call :: rest ∧
        c = .store (.createDetails (call.params.map u.details.detail))) ∨
      done = u.plan.calls ∧ ∃ tasks, u.Drawn tasks ∧
        c = .store (.createFlow (u.draft tasks).newFlow)
  | stored .., c =>
      c = .store (.updateDetails
        ((u.made (Entry.bound u.flow) u.plan.calls).map Detail.bindingPatch))
  | bound tasks _, c => c = .store (.createSubFlows ((u.draft tasks).subFlows u.flow))
  | associated tasks _, c => c = .store (.takeLock ((u.draft tasks).lock u.flow))
  | locked .., c => c = .store (.moveFlow u.flow .init .pending)
  | active .., _ => False

/-- The call whose failure leaves a construction at a stage. A creation that fails with the
cancellation of the flow has stored the flow. -/
def StopsAt (stage : Stage) (c : Call) : Prop :=
  stage.Awaits u c ∨ u.faults.cancelOnCreate = true ∧ ∃ tasks, stage = stored tasks .init ∧
    c = .store (.createFlow (u.draft tasks).newFlow)

/-- Why a construction can fail at a stage. Nothing but an owner of the resource is a complaint
about the request, and behind the gate only one that was not seen there. -/
inductive Cause : Stage → Failure → Prop
  | machinery (stage : Stage) {failure : Failure} (machinery : failure.isPrecondition = false) :
      Cause stage failure
  | owned {owner : Lock} (found : u.before.locks.get? u.scope.resource = some owner) :
      Cause waiting owner.busy
  | lost {owner : Lock} (tasks : List FlowTask) (state : FlowState)
      (found : u.before.locks.get? u.scope.resource = some owner) (other : owner.flow ≠ u.flow)
      (stale : u.faults.staleReads = true) : Cause (associated tasks state) owner.busy

section Tables

variable {u}

@[simp] theorem row_id (stage : Stage) (e : Entry) (id : Int64) : (stage.row u e id).id = id := by
  cases stage <;> rfl

theorem beside_details (stage : Stage) : (stage.beside u).details = u.before.details := by
  cases stage <;> rfl

theorem get?_details {stage : Stage} {reason : Option String} (before : u.before.Numbered)
    (after : (stage.tables u reason).Numbered) {p : Entry × Int64}
    (mem : p ∈ u.made Prod.mk (stage.done u)) :
    (stage.tables u reason).details.get? p.2 =
      some ((stage.row u p.1 p.2).unwound reason) := by
  have own : ∀ make ∈ (u.entries (stage.done u)).map
      (fun e id => (stage.row u e id).unwound reason), ∀ id, (make id).id = id := by
    simp
  have new : (stage.row u p.1 p.2).unwound reason ∈ (u.before.details.addAll
      ((u.entries (stage.done u)).map fun e id => (stage.row u e id).unwound reason)).1 := by
    rw [Table.addAll_fst]
    have rows := List.mem_map_of_mem (f := fun p => (stage.row u p.1 p.2).unwound reason) mem
    rwa [Undertaking.map_made] at rows
  have after := after.details
  rw [tables, Tables.withDetails, beside_details] at after ⊢
  have found := Table.get?_addAll_new before.details own after new
  rwa [Detail.unwound_id, row_id] at found

theorem tables_created (done : List PlannedCall) (call : PlannedCall) :
    (((chaining done).tables u none).carryOut
        (.createDetails (call.params.map u.details.detail))).2 =
      (chaining (done ++ [call])).tables u none := by
  have one : u.entries (done ++ [call]) =
      u.entries done ++ callEntries u.details (done.length + 1) call := by
    simp [Undertaking.entries, entries_append, Construction.entries]
  have news : (callEntries u.details (done.length + 1) call).map Entry.created =
      (call.params.map u.details.detail).map NewDetail.store := by
    rw [callEntries, List.map_map, List.map_map]
    rfl
  have rows : (u.before.details.addAll ((u.entries (done ++ [call])).map Entry.created)).2 =
      ((u.before.details.addAll ((u.entries done).map Entry.created)).2.addAll
        ((call.params.map u.details.detail).map NewDetail.store)).2 := by
    rw [one, List.map_append, Table.addAll_append, news]
  exact congrArg (fun details => { u.before with details }) rows.symm

theorem created_details (done : List PlannedCall) (call : PlannedCall) :
    (((chaining done).tables u none).details.addAll
        ((call.params.map u.details.detail).map NewDetail.store)).1.map
          (Detail.bindAction ⟨Decimal.text (done.length + 1)⟩) =
      Table.label (u.before.details.created + (u.entries done).length)
        ((callEntries u.details (done.length + 1) call).map Entry.named) := by
  have created : ((chaining done).tables u none).details.created =
      u.before.details.created + (u.entries done).length := by
    simp [tables, Tables.withDetails, beside, Stage.done]
  rw [Table.addAll_fst, Table.map_label, created]
  simp [callEntries, Function.comp_def]
  rfl

theorem tables_withFlow (tasks : List FlowTask) (state : FlowState) :
    ((chaining u.plan.calls).tables u none).withFlow (u.draft tasks).newFlow state =
      (stored tasks state).tables u none := rfl

theorem tables_bound {tasks : List FlowTask} {state : FlowState}
    (fits : ((stored tasks state).tables u none).Fits) :
    (((stored tasks state).tables u none).carryOut (.updateDetails
        ((u.made (Entry.bound u.flow) u.plan.calls).map Detail.bindingPatch))).2 =
      (bound tasks state).tables u none := by
  rw [Undertaking.map_made]
  exact Tables.withDetails_patched ((stored tasks state).beside u) (u.entries u.plan.calls)
    Entry.created (fun e id => (e.bound u.flow id).bindingPatch) (fun _ _ _ => rfl) fits

theorem tables_associated (tasks : List FlowTask) (state : FlowState) :
    (((bound tasks state).tables u none).carryOut
        (.createSubFlows ((u.draft tasks).subFlows u.flow))).2 =
      (associated tasks state).tables u none := rfl

theorem tables_locked (tasks : List FlowTask) (state : FlowState) :
    (((associated tasks state).tables u none).carryOut
        (.takeLock ((u.draft tasks).lock u.flow))).2 =
      (locked tasks state).tables u none :=
  Tables.takeLock_snd _ _

theorem get?_owning_flow (tasks : List FlowTask) (state : FlowState) :
    (owning u tasks state).flows.get? u.flow =
      some { (u.draft tasks).newFlow.store u.flow with state } := by
  have found := Tables.get?_withFlow u.before (u.draft tasks).newFlow state u.flow
  rw [if_pos (show u.before.flows.nextId = u.flow from rfl)] at found
  exact found

theorem get?_active_flow (tasks : List FlowTask) (reason : Option String) :
    ((active tasks).tables u reason).flows.get? u.flow =
      some { (u.draft tasks).newFlow.store u.flow with state := .pending } :=
  get?_owning_flow tasks .pending

/-- Making the flow pending; one that was cancelled stays so. -/
theorem tables_moved (tasks : List FlowTask) (state : FlowState) :
    ((locked tasks state).tables u none).carryOut (.moveFlow u.flow .init .pending) =
      if state = .init then (.ok true, (active tasks).tables u none)
      else (.ok false, (locked tasks state).tables u none) := by
  have moved := Tables.withFlow_moved u.before (u.draft tasks).newFlow state .pending
  have stored : ((locked tasks state).tables u none).flows.get? u.flow =
      some { (u.draft tasks).newFlow.store u.flow with state } := get?_owning_flow tasks state
  simp only [Tables.carryOut, Tables.moveFlow, stored]
  by_cases first : state = .init
  · rw [if_pos first, if_pos first]
    exact congrArg
      (fun flows => (Except.ok true, { (locked tasks state).tables u none with flows })) moved
  · rw [if_neg first, if_neg first]

end Tables

end Stage

end Construction

end BalancerFlows
