import BalancerFlows.Proofs.Calm
import BalancerFlows.Proofs.Stages

/-!
# What a construction builds where nothing is wrong

Where nothing is wrong, a construction turns on its plan and on the owner of its resource, and on
nothing else that is stored: an owner stops it before anything is written, and otherwise the flow is
built that the plan means. Rows only lend it their ids, so flows are compared by their outlines.
Main statements: `Construction.exec_build_of_owned` and `Construction.exec_build`.
-/
namespace BalancerFlows

/-- The task without the ids of its details, of which only the number is left. -/
def FlowTask.outline (t : FlowTask) : FlowTask :=
  { t with params := { t.params with detailIds := t.params.detailIds.map fun _ => 0 } }

/-- The flow without its own id and those of its details. -/
def Flow.outline (f : Flow) : Flow :=
  { f with id := 0, tasks := f.tasks.map FlowTask.outline }

/-- What the task of a call is told, as far as it does not depend on rows. -/
def PlannedCall.outline (call : PlannedCall) (vendor : Vendor) : TaskParams :=
  { vendor, detailIds := call.params.map fun _ => 0, request := call.request }

/-- The outlines of the tasks of calls that come behind a number of others. -/
def outlinesBehind (vendor : Vendor) (retry : RetryPolicy) :
    Nat → Option ActionId → List PlannedCall → List FlowTask
  | _, _, [] => []
  | n, behind, call :: rest =>
      let id : ActionId := ⟨Decimal.text (n + 1)⟩
      .ofParams id (call.outline vendor) behind retry ::
        outlinesBehind vendor retry (n + 1) (some id) rest

theorem outlinesBehind_ne_nil {vendor : Vendor} {retry : RetryPolicy} {n : Nat}
    {behind : Option ActionId} {calls : List PlannedCall} (some_calls : calls ≠ []) :
    outlinesBehind vendor retry n behind calls ≠ [] := by
  cases calls with
  | nil => exact absurd rfl some_calls
  | cons call rest => exact List.cons_ne_nil _ _

variable {refused : Keyed String String}

theorem DetailScope.length_news (scope : DetailScope) (params : List Json) (t : Tables) :
    (scope.news params t).length = params.length := by
  rw [news, rows, Table.length_label, List.length_map]

namespace Chain

variable (c : Chain) (call : PlannedCall) (rest : List PlannedCall) (s : Contents)

def created : Contents :=
  { s with tables := s.tables.withDetails (c.scope.rows call.params id) }

/-- The chain with the task of a call, whose details are new. -/
def lengthened (id : ActionId) (numbering : Numbering) : Chain :=
  c.extend (c.taskFor id (c.scope.news call.params s.tables) call.request)
    (c.scope.news call.params s.tables) numbering

theorem exec_pushAll_cons : (c.pushAll (call :: rest)).exec refused s =
    match c.numbering.issue? with
    | none => (none, c.created call s)
    | some (id, numbering) =>
        ((c.lengthened call s id numbering).pushAll rest).exec refused (c.created call s) := by
  have details := c.scope.exec_create refused call.params s
  have pushed : Program.exec refused (c.push call) s =
      Program.exec refused (liftM (c.append (c.scope.news call.params s.tables) call.request) :
        Work (FlowTask × Chain)) (c.created call s) := Work.exec_bind_of_ok details
  rw [pushAll, Program.exec_bind, Work.outcome, ExceptT.run, pushed, Work.exec_lift, append]
  cases c.numbering.issue? with
  | none => rfl
  | some issued => rfl

theorem outline_taskFor (id : ActionId) :
    (c.taskFor id (c.scope.news call.params s.tables) call.request).outline =
      .ofParams id (call.outline c.vendor) c.last c.retry := by
  have ids : ((c.scope.news call.params s.tables).map Detail.id).map (fun _ => 0) =
      call.params.map fun _ => (0 : Int64) := by
    rw [List.map_const', List.map_const', List.length_map, DetailScope.length_news]
  rw [FlowTask.outline, taskFor, FlowTask.ofParams, PlannedCall.outline, ids]
  rfl

variable {c call rest s}

theorem created_details : (c.created call s).tables.details.created =
    s.tables.details.created + call.params.length := by
  simp [created, Tables.withDetails, DetailScope.rows]

/-- Each task has details, so there are task ids as long as there are ids for details. -/
theorem room_of_exec {calls : List PlannedCall} (filled : ∀ call ∈ calls, call.params ≠ [])
    (step : c.numbering.step = 1)
    (next : c.numbering.next.toNat ≤ s.tables.details.created + 1)
    (fits : ((c.pushAll calls).exec refused s).2.tables.Fits) :
    c.numbering.next.toNat + calls.length < 2 ^ 64 := by
  -- The counter of tasks never gets ahead of that of details.
  induction calls generalizing c s with
  | nil =>
      have details := fits.details
      simp only [pushAll, Program.exec_pure] at details
      simp only [List.length_nil]
      omega
  | cons call rest ih =>
      obtain ⟨some_params, others⟩ := List.forall_mem_cons.1 filled
      have more := List.length_pos_iff.2 some_params
      have count : (c.created call s).tables.details.created =
          s.tables.details.created + call.params.length := created_details
      rw [exec_pushAll_cons] at fits
      cases issued : c.numbering.issue? with
      | none =>
          rw [issued] at fits
          have room : (c.created call s).tables.details.created < 2 ^ 63 := fits.details
          have exhausted : 2 ^ 64 ≤ c.numbering.next.toNat + 1 := Numbering.exhausted step issued
          omega
      | some pair =>
          obtain ⟨id, numbering⟩ := pair
          rw [issued] at fits
          obtain ⟨-, advanced, step'⟩ := Numbering.issue_first step issued
          have advanced : (c.lengthened call s id numbering).numbering.next.toNat =
              c.numbering.next.toNat + 1 := advanced
          have room := ih others step' (by omega) fits
          simp only [List.length_cons]
          omega

/-- The chain goes on with the tasks of the calls, in their order. -/
theorem exec_pushAll (refused : Keyed String String) (calls : List PlannedCall) {n : Nat}
    (step : c.numbering.step = 1) (next : c.numbering.next.toNat = n + 1)
    (room : n + 1 + calls.length < 2 ^ 64) : ∃ longer details,
      (c.pushAll calls).exec refused s = (some { chain := longer, outcome := .ok () },
        { s with tables := { s.tables with details } }) ∧
      longer.tasks.map FlowTask.outline = c.tasks.map FlowTask.outline ++
        outlinesBehind c.vendor c.retry n c.last calls := by
  induction calls generalizing c s n with
  | nil => exact ⟨c, s.tables.details, rfl, (List.append_nil _).symm⟩
  | cons call rest ih =>
      rw [List.length_cons] at room
      cases issued : c.numbering.issue? with
      | none =>
          have exhausted : 2 ^ 64 ≤ c.numbering.next.toNat + 1 := Numbering.exhausted step issued
          omega
      | some pair =>
          obtain ⟨id, numbering⟩ := pair
          obtain ⟨named, advanced, step'⟩ := Numbering.issue_first step issued
          rw [next] at named advanced
          obtain ⟨longer, details, ended, outlines⟩ :=
            ih (c := c.lengthened call s id numbering) (s := c.created call s) step' advanced
              (by omega)
          refine ⟨longer, details, ?_, ?_⟩
          · rw [exec_pushAll_cons, issued]
            exact ended
          · have task := c.outline_taskFor call s id
            rw [outlines, lengthened, extend_tasks, List.map_append, List.map_singleton, task,
              List.append_assoc, named]
            rfl

end Chain

namespace Gate

theorem exec_ensureFree_of_free {resource : ResourceKey} {s : Contents}
    (free : s.tables.locks.get? resource = none) :
    Program.exec refused (ensureFree resource) s = (some (.ok ()), s) := by
  have found : s.tables.carryOut (.findLock resource) = (.ok none, s.tables) := by
    rw [Tables.carryOut, free]
  rw [ensureFree, Work.exec_within, owner?,
    Work.exec_bind_of_ok (Work.exec_askStore_of_ok found)]
  rfl

theorem exec_ensureFree_of_owned {resource : ResourceKey} {owner : Lock} {s : Contents}
    (owned : s.tables.locks.get? resource = some owner) :
    Program.exec refused (ensureFree resource) s = (some (.error owner.busy), s) := by
  have found : s.tables.carryOut (.findLock resource) = (.ok (some owner), s.tables) := by
    rw [Tables.carryOut, owned]
  rw [ensureFree, Work.exec_within, owner?,
    Work.exec_bind_of_ok (Work.exec_askStore_of_ok found)]
  rfl

theorem exec_acquire_of_free {wanted : Lock} {s : Contents}
    (free : s.tables.locks.get? wanted.resource = none) :
    Program.exec refused (acquire wanted) s = (some (.ok wanted), { s with
      tables := { s.tables with locks := s.tables.locks.put wanted.resource wanted } }) := by
  have taken : s.tables.carryOut (.takeLock wanted) = (.ok (.created wanted),
      { s.tables with locks := s.tables.locks.put wanted.resource wanted }) := by
    rw [Tables.carryOut, Tables.takeLock, free]
  rw [acquire, Work.exec_within, Work.exec_bind_of_ok (Work.exec_askStore_of_ok taken)]
  rfl

end Gate

namespace FlowDraft

variable {d : FlowDraft} {s : Contents}

theorem exec_activate (refused : Keyed String String) {flow : Flow} (details : List Detail)
    (free : s.tables.locks.get? d.resource = none)
    (stored : s.tables.flows.get? flow.id = some flow) (first : flow.state = .init) : ∃ t,
      Program.exec refused (d.activate flow details) s =
        (some (.ok { flow with state := .pending }), { s with tables := t }) ∧
      t.flows = s.tables.flows.update flow.id (fun f => { f with state := .pending }) ∧
      t.locks = s.tables.locks.put d.resource (d.lock flow.id) ∧
      t.batches = s.tables.batches := by
  let bound : Tables := { s.tables with
    details := Tables.patchDetails s.tables.details (details.map Detail.bindingPatch) }
  let related : Tables := { bound with
    subFlows := Tables.addSubFlows bound.subFlows (d.subFlows flow.id) }
  let locked : Tables := { related with
    locks := related.locks.put d.resource (d.lock flow.id) }
  let started : Tables := { locked with
    flows := locked.flows.update flow.id fun f => { f with state := .pending } }
  have start : locked.carryOut (.moveFlow flow.id .init .pending) = (.ok true, started) := by
    have stored : locked.flows.get? flow.id = some flow := stored
    simp only [Tables.carryOut, Tables.moveFlow, stored, if_pos first, started]
  have bind : Program.exec refused (Detail.writeBindings details) s =
    (some (.ok ()), { s with tables := bound }) := rfl
  have relate : Program.exec refused (Work.askStore (.timed "create_sub_flow_relations")
      (.createSubFlows (d.subFlows flow.id))) { s with tables := bound } =
        (some (.ok ()), { s with tables := related }) := rfl
  have lock : Program.exec refused (Gate.acquire (d.lock flow.id)) { s with tables := related } =
    (some (.ok (d.lock flow.id)), { s with tables := locked }) := Gate.exec_acquire_of_free free
  refine ⟨started, ?_, rfl, rfl, rfl⟩
  rw [activate, Work.exec_bind_of_ok bind, Work.exec_bind_of_ok relate, Work.exec_bind_of_ok lock,
    Work.exec_bind_of_ok (Work.exec_askStore_of_ok start)]
  rfl

theorem exec_assemble (refused : Keyed String String) (details : List Detail)
    (some_tasks : d.tasks ≠ [])
    (free : s.tables.locks.get? d.resource = none) : ∃ t,
      (d.assemble details).exec refused s = (some
        { outcome := .ok { d.newFlow.store s.tables.flows.nextId with state := .pending }
          details := details.map (Detail.bindFlow s.tables.flows.nextId) },
        { s with tables := t }) ∧
      t.flows = (s.tables.withFlow d.newFlow .pending).flows ∧
      t.locks = s.tables.locks.put d.resource (d.lock s.tables.flows.nextId) ∧
      t.batches = s.tables.batches := by
  let new := d.newFlow.store s.tables.flows.nextId
  let stored : Tables := s.tables.withFlow d.newFlow .init
  have create : Program.exec refused (Work.askStore (.timed "create_flow") (.createFlow d.newFlow))
      s = (some (.ok new), { s with tables := stored }) := rfl
  have found : stored.flows.get? new.id = some new :=
    (Tables.get?_withFlow ..).trans (if_pos rfl)
  obtain ⟨t, activated, flows, locks, batches⟩ := exec_activate refused
    (s := { s with tables := stored }) (details.map (Detail.bindFlow new.id)) free found rfl
  refine ⟨t, ?_, ?_, locks, batches⟩
  · rw [assemble, Program.exec_within, if_neg (by simpa using some_tasks)]
    refine (Program.exec_bind_of_some create).trans ?_
    exact Program.exec_bind_of_some activated
  · rw [flows]
    exact Tables.withFlow_moved s.tables d.newFlow .init .pending

end FlowDraft

namespace Construction

variable {scope : FlowScope} {retry : RetryPolicy} {plan : Plan} {s : Contents}

/-- A construction for an owned resource is turned away before anything is written. -/
theorem exec_build_of_owned {owner : Lock}
    (owned : s.tables.locks.get? scope.resource = some owner) :
    Program.exec refused (build scope retry plan) s = (some (.error owner.busy), s) := by
  rw [build, Work.exec_within]
  exact Program.exec_bind_of_some (Gate.exec_ensureFree_of_owned owned)

/-- A construction that gets past the gate goes on with the tasks of its calls. -/
theorem exec_build_of_free (free : s.tables.locks.get? scope.resource = none) :
    Program.exec refused (build scope retry plan) s =
      Program.exec refused (assemble scope retry plan >>= conclude scope plan.operation) s := by
  rw [build, Work.exec_within]
  exact Program.exec_bind_of_some (Gate.exec_ensureFree_of_free free)

/-- The outline of the flow that is built for a plan. The batch does not matter. -/
def outline (scope : FlowScope) (retry : RetryPolicy) (plan : Plan) : Flow :=
  { id := 0, operation := plan.operation, state := .pending
    shareData := (draft scope plan []).shareData
    tasks := outlinesBehind scope.vendor retry 0 none plan.calls }

/-- What a construction for a free resource comes to. -/
structure Builds (scope : FlowScope) (retry : RetryPolicy) (plan : Plan) (s : Contents)
    (r : Option (Except Failure Built)) (s' : Contents) : Prop where
  built : ∃ taskCount details,
    r = some (.ok { flow := s.tables.flows.nextId, taskCount, details })
  flow : ∃ new : NewFlow, s'.tables.flows = (s.tables.withFlow new .pending).flows ∧
    Flow.outline { new.store s.tables.flows.nextId with state := .pending } =
      outline scope retry plan
  locks : s'.tables.locks = s.tables.locks.put scope.resource
    { resource := scope.resource, flow := s.tables.flows.nextId, kind := plan.operation.lockKind }
  batches : s'.tables.batches = s.tables.batches

/-- Nothing but the plan and the scope matters where the resource is free. -/
theorem exec_build (free : s.tables.locks.get? scope.resource = none) (calls : plan.calls ≠ [])
    (room : plan.calls.length + 1 < 2 ^ 64) :
    Builds scope retry plan s (Program.exec refused (build scope retry plan) s).1
      (Program.exec refused (build scope retry plan) s).2 := by
  obtain ⟨longer, details, pushed, outlines⟩ := Chain.exec_pushAll refused plan.calls
    (c := chain scope retry plan) (s := s) (n := 0) rfl rfl (by omega)
  have outlines : longer.tasks.map FlowTask.outline =
    outlinesBehind scope.vendor retry 0 none plan.calls := outlines
  have some_tasks : longer.tasks ≠ [] := by
    intro none
    rw [none] at outlines
    exact outlinesBehind_ne_nil calls outlines.symm
  obtain ⟨t, assembled, flows, locks, batches⟩ := FlowDraft.exec_assemble refused longer.details
    (d := draft scope plan longer.tasks)
    (s := { s with tables := { s.tables with details } }) some_tasks free
  have ended : Program.exec refused (build scope retry plan) s = (some (.ok
      { flow := s.tables.flows.nextId, taskCount := longer.tasks.length
        details := (longer.details.map (Detail.bindFlow s.tables.flows.nextId)).map Detail.id }),
      { s with tables := t }) := by
    rw [exec_build_of_free free, assemble, bind_assoc, Program.exec_bind_of_some pushed]
    exact Program.exec_bind_of_some assembled
  rw [ended]
  refine ⟨⟨_, _, rfl⟩, ⟨_, flows, ?_⟩, locks, batches⟩
  rw [outline, ← outlines]
  rfl

/-- A construction that ends within the id counters has room for its task ids. -/
theorem room_of_exec_build (filled : ∀ call ∈ plan.calls, call.params ≠ [])
    (free : s.tables.locks.get? scope.resource = none)
    (fits : (Program.exec refused (build scope retry plan) s).2.tables.Fits) :
    plan.calls.length + 1 < 2 ^ 64 := by
  rw [exec_build_of_free free] at fits
  have fits := Program.fits_of_exec_bind (Program.fits_of_exec_bind fits)
  have room := Chain.room_of_exec filled rfl (Nat.le_add_left 1 _) fits
  have one : (chain scope retry plan).numbering.next.toNat = 1 := rfl
  omega

end Construction

end BalancerFlows
