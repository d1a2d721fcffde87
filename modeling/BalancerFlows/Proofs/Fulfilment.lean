import BalancerFlows.Proofs.Chunking
import BalancerFlows.Proofs.Histories
import BalancerFlows.Proofs.Routing
import BalancerFlows.Proofs.Working

/-!
# Changes of targets, carried out

A request to change or remove targets names them by id, in any order and as often as it likes. When
it is processed without failure, each target is recorded as often as it was named, each record is
settled at once or listed by one task, and the tasks address the targets of bound groups, within the
limit and one group at a time. Main statement: `target_changes_fulfilled`.
-/
namespace BalancerFlows

def CloudRequest.refs : CloudRequest → List TargetRef
  | deregisterTargets _ targets | modifyTargetWeight _ _ targets | modifyTargetPort _ _ targets =>
      targets
  | registerTargets .. | deleteListeners .. | bindTargetGroupRule _ => []

def Flow.refs (f : Flow) : List TargetRef :=
  f.tasks.flatMap fun task => task.params.request.refs

def Detail.targetNames (ds : List Detail) : List (Option Json) :=
  ds.map fun d => d.param.member? "target_id"

def Command.targetIds? : Command → Option (List String)
  | modifyWeight ids _ | modifyPort ids _ | removeTargets ids => some ids
  | addTargets .. | deleteListeners .. | bindTargetGroups _ => none

/-- The task addresses some of the requested targets, all of one group, which is bound to the load
balancer of the flow. -/
structure Addresses (limit : Nat) (c : Catalog) (ids : List String) (f : Flow) (task : FlowTask)
    (group : String) (binding : Binding) (targets : List Target) : Prop where
  bound : c.bindings.get? group = some binding
  on : f.balancer? = some binding.balancer
  through : task.params.request.binding? = some binding
  refs : task.params.request.refs = targets.map Target.ref
  requested : ∀ t ∈ targets, t ∈ c.found ids ∧ t.group = group
  chunked : 1 ≤ targets.length ∧ targets.length ≤ max limit 1

/-- A change of existing targets: how it is routed, how its calls look, and what is recorded. -/
structure Order where
  operation : Operation
  route : Routing.TargetRoute
  shape : Plan.CallShape Target
  param : Target → Json
  unbound : ∀ group targets, (route.unbound group targets).params = targets.map param
  bound : ∀ balancer limits groups plan,
    (route.bound groups).planUnder balancer limits = .ok plan →
      plan.calls = Plan.groupedCalls shape (limits.limitFor operation).toNat
        (Plan.targetGroups groups)
  params : ∀ b targets, (shape.call b targets).params = targets.map param
  binding : ∀ b targets, (shape.call b targets).request.binding? = some b
  refs : ∀ b targets, (shape.call b targets).request.refs = targets.map Target.ref
  names : ∀ t, (param t).member? "target_id" = some (.str t.id)

namespace Order

def weight (value : UInt32) : Order where
  operation := .modifyTargetWeight
  route := Routing.weightRoute value
  shape := Plan.weightShape value
  param := Plan.weightParam value
  unbound _ _ := rfl
  bound _ _ _ _ planned := by
    obtain ⟨-, -, planned⟩ := Except.bind_eq_ok_iff.1 planned
    exact (Plan.ofGroups_spec planned).1
  params _ _ := rfl
  binding _ _ := rfl
  refs _ _ := rfl
  names _ := Json.lookup_setMember_of_ne (by decide) _ _

def port (value : UInt16) : Order where
  operation := .modifyTargetPort
  route := Routing.portRoute value
  shape := Plan.portShape value
  param := Plan.portParam value
  unbound _ _ := rfl
  bound _ _ _ _ planned := by
    obtain ⟨-, -, planned⟩ := Except.bind_eq_ok_iff.1 planned
    exact (Plan.ofGroups_spec planned).1
  params _ _ := rfl
  binding _ _ := rfl
  refs _ _ := rfl
  names _ := Json.lookup_setMember_of_ne (by decide) _ _

def removal : Order where
  operation := .removeTarget
  route := Routing.removalRoute
  shape := Plan.removalShape
  param := Plan.targetParam
  unbound _ _ := rfl
  bound _ _ _ _ planned := (Plan.ofGroups_spec planned).1
  params _ _ := rfl
  binding _ _ := rfl
  refs _ _ := rfl
  names _ := rfl

end Order

theorem Command.exists_order {r : BatchRequest} {ids : List String}
    (asked : r.command.targetIds? = some ids) : ∃ order : Order,
      order.operation = r.command.operation ∧
        Routing.route r = Routing.targets r order.route ids := by
  unfold Routing.route
  cases command : r.command with
  | modifyWeight targets value =>
      rw [command] at asked
      cases asked
      exact ⟨.weight value, rfl, rfl⟩
  | modifyPort targets value =>
      rw [command] at asked
      cases asked
      exact ⟨.port value, rfl, rfl⟩
  | removeTargets targets =>
      rw [command] at asked
      cases asked
      exact ⟨.removal, rfl, rfl⟩
  | addTargets group specs =>
      rw [command] at asked
      cases asked
  | deleteListeners balancer listeners =>
      rw [command] at asked
      cases asked
  | bindTargetGroups bindings =>
      rw [command] at asked
      cases asked

theorem Plan.targetGroups_items (groups : List BoundTargets) :
    (targetGroups groups).flatMap Prod.snd = groups.flatMap BoundTargets.targets := by
  rw [targetGroups, List.flatMap_map]

namespace Order

variable (o : Order)

/-- The flow carries the order out on the bound groups of one load balancer. -/
structure CarriedOut (limit : Nat) (g : String × List BoundTargets) (f : Flow) : Prop where
  on : f.balancer? = some g.1
  calls : f.tasks.map (fun task => task.params.request) =
    (Plan.groupedCalls o.shape limit (Plan.targetGroups g.2)).map PlannedCall.request

variable {o}

theorem CarriedOut.refs {limit : Nat} {g : String × List BoundTargets} {f : Flow}
    (h : o.CarriedOut limit g f) :
    f.refs = (g.2.flatMap BoundTargets.targets).map Target.ref := by
  have requests := congrArg (List.flatMap CloudRequest.refs) h.calls
  rw [List.flatMap_map, List.flatMap_map,
    Plan.flatMap_groupedCalls (f := fun call => call.request.refs) o.refs,
    Plan.targetGroups_items] at requests
  exact requests

theorem CarriedOut.task {limit : Nat} {g : String × List BoundTargets} {f : Flow}
    (h : o.CarriedOut limit g f) {task : FlowTask} (mem : task ∈ f.tasks) :
    ∃ b ∈ g.2, ∃ chunk ∈ chunksOf limit b.targets,
      task.params.request.binding? = some b.binding ∧
        task.params.request.refs = chunk.map Target.ref := by
  have request : task.params.request ∈
      (Plan.groupedCalls o.shape limit (Plan.targetGroups g.2)).map PlannedCall.request := by
    rw [← h.calls]
    exact List.mem_map_of_mem mem
  obtain ⟨call, planned, same⟩ := List.mem_map.1 request
  obtain ⟨_, group, planned⟩ := List.mem_flatMap.1 planned
  obtain ⟨b, b_mem, rfl⟩ := List.mem_map.1 group
  obtain ⟨chunk, chunk_mem, rfl⟩ := List.mem_map.1 planned
  rw [← same]
  exact ⟨b, b_mem, chunk, chunk_mem, o.binding _ _, o.refs _ _⟩

/-- The targets of an order, those of unbound groups first. -/
def inOrder (c : Catalog) (ids : List String) : List Target :=
  (Routing.unboundGroups c (Routing.groupsOf c ids)).flatMap Prod.snd ++
    (Routing.boundOf c ids).flatMap fun g => g.2.flatMap BoundTargets.targets

variable {faults : Faults}

theorem yields_unbound (scope : DetailScope) (g : String × List Target) (s : Contents) :
    Work.Yields faults
      (fun y s' => ∃ ds, ∃ _ : Unit, True ∧
        y.Gains scope.batch (g.2.map o.param) s.tables s'.tables ds [])
      (Submission.localPiece scope (o.route.unbound g.1 g.2)).work s := by
  apply Work.Yields.map
  apply (LocalChange.yields_runLocalJob scope (o.route.unbound g.1 g.2) s).mono
  intro r s' ended ids ok
  obtain ⟨ds, gains⟩ := ended ids ok
  rw [o.unbound] at gains
  exact ⟨ds, (), trivial, gains⟩

theorem yields_bound (settings : Settings) (r : BatchRequest) (batch : Int64)
    (g : String × List BoundTargets) (s : Contents) :
    Work.Yields faults
      (fun y s' => ∃ ds f, o.CarriedOut (settings.limits.limitFor o.operation).toNat g f ∧
        y.Gains batch ((g.2.flatMap BoundTargets.targets).map o.param) s.tables s'.tables ds [f])
      (Submission.boundPiece settings r batch (g.1, o.route.bound g.2)).work s := by
  apply Work.Yields.map
  apply (Construction.yields_buildJob settings (Submission.flowScope r batch g.1)
    (o.route.bound g.2) s).mono
  intro r s' ended built ok
  obtain ⟨plan, planned, ds, f, serves, gains⟩ := ended built ok
  have calls := o.bound _ _ _ _ planned
  rw [calls, Plan.flatMap_groupedCalls o.params, Plan.targetGroups_items] at gains
  exact ⟨ds, f, ⟨serves.on, calls ▸ serves.calls⟩, gains⟩

/-- What the work on an order adds if none of it fails: a record for each target, and a flow for
each load balancer. -/
theorem yields_pieces (c : Catalog) (ids : List String) (settings : Settings) (r : BatchRequest)
    (batch : Int64) (s : Contents) : Program.Yields faults
      (fun sub s' => sub.failures = [] →
        ∃ (y : Yield) (ds : List Detail) (parts : List ((String × List BoundTargets) × Flow)),
          sub = ({ batch } : Submission).absorb y ∧
          parts.map Prod.fst = Routing.boundOf c ids ∧
          (∀ p ∈ parts,
            o.CarriedOut (settings.limits.limitFor o.operation).toNat p.1 p.2) ∧
          y.Gains batch ((inOrder c ids).map o.param) s.tables s'.tables ds
            (parts.map Prod.snd))
      (Submission.workAll { batch }
        (Submission.pieces settings r (Routing.targetWork c o.route ids) batch)) s := by
  have loops := Submission.workAll_then_runJobs settings r { batch }
    ((Routing.targetWork c o.route ids).unbound.map
      (Submission.localPiece (Submission.localScope r batch)))
    (Routing.targetWork c o.route ids).bound
  rw [Submission.pieces, ← loops, Routing.targetWork, List.map_map]
  -- First the local jobs, which build no flow, then a flow for each load balancer.
  apply Program.Yields.bind (Submission.yields_workAll
    (fun g s => yields_unbound (Submission.localScope r batch) g s) { batch } s)
  intro sub s₁ first
  rw [Submission.runJobs_eq, List.map_map]
  apply (Submission.yields_workAll
    (fun g s => yields_bound settings r sub.batch g s) sub s₁).mono
  intro sub' s' second smooth
  obtain ⟨smooth_first, y', ds', parts', rfl, all, carried, gains'⟩ := second smooth
  obtain ⟨-, y, ds, parts, rfl, -, -, gains⟩ := first smooth_first
  have gains := gains.append gains'
  have none : (parts.flatMap fun _ => ([] : List Flow)) = [] := by simp
  have flows : (parts'.flatMap fun p => [p.2]) = parts'.map Prod.snd := List.map_eq_flatMap.symm
  rw [none, flows, List.nil_append] at gains
  refine ⟨y.append y', ds ++ ds', parts', ?_, all, carried, ?_⟩
  · simp [Submission.absorb, Yield.append]
  · rw [inOrder, List.map_append, List.map_flatMap, List.map_flatMap]
    exact gains

theorem yields_prepare {ids : List String} (settings : Settings) (r : BatchRequest)
    (routes : Routing.route r = Routing.targets r o.route ids) (s : Contents) :
    Work.Yields faults
      (fun ready s' => ready.1 = Routing.targetWork s.catalog o.route ids ∧
        ready.2 = s.tables.batches.nextId ∧
        (∀ id ∈ ids, id ∈ (s.catalog.found ids).map Target.id) ∧
        Submission.SameWork s.tables s'.tables)
      (Submission.prepare settings r) s := by
  apply Work.yields_check
  intro _ _
  rw [routes]
  apply Work.Yields.bind (Routing.yields_targets r o.route ids)
  rintro work s₁ ⟨rfl, found, -, rfl⟩
  apply Work.Yields.bind (Submission.yields_createBatch _ _ s₁)
  rintro b s₂ ⟨id, same⟩
  exact Work.yields_pure ⟨rfl, id, found, same⟩

theorem yields_process {ids : List String} (settings : Settings) (r : BatchRequest)
    (routes : Routing.route r = Routing.targets r o.route ids) (s : Contents) :
    Work.Yields faults
      (fun sub s' => sub.failures = [] →
        (∀ id ∈ ids, id ∈ (s.catalog.found ids).map Target.id) ∧
        ∃ (y : Yield) (ds : List Detail) (parts : List ((String × List BoundTargets) × Flow)),
          sub = ({ batch := s.tables.batches.nextId } : Submission).absorb y ∧
          parts.map Prod.fst = Routing.boundOf s.catalog ids ∧
          (∀ p ∈ parts,
            o.CarriedOut (settings.limits.limitFor o.operation).toNat p.1 p.2) ∧
          y.Gains s.tables.batches.nextId ((inOrder s.catalog ids).map o.param) s.tables
            s'.tables ds (parts.map Prod.snd))
      (Submission.process settings r) s := by
  rw [Submission.process_eq]
  apply Program.Yields.within
  apply Work.Yields.bind (yields_prepare settings r routes s)
  rintro ⟨work, batch⟩ s₁ ⟨rfl, rfl, found, same⟩
  apply Work.Yields.bind (Work.yields_lift (yields_pieces s.catalog ids settings r _ s₁))
  intro sub s₂ worked
  apply (Submission.yields_attach _ sub s₂).mono
  rintro _ s' attached sub' rfl smooth
  obtain ⟨rfl, same'⟩ := attached sub' rfl
  obtain ⟨y, ds, parts, rfl, all, carried, gains⟩ := worked smooth
  exact ⟨found, y, ds, parts, rfl, all, carried,
    gains.beside same.1.symm same.2.symm same'.1 same'.2⟩

section Parts

variable {c : Catalog} {ids : List String} {limit : Nat}
  {parts : List ((String × List BoundTargets) × Flow)}
  (all : parts.map Prod.fst = Routing.boundOf c ids)
  (carried : ∀ p ∈ parts, o.CarriedOut limit p.1 p.2)
include all carried

/-- The flows address the requested targets of bound groups. -/
theorem refs_perm : ((parts.map Prod.snd).flatMap Flow.refs).Perm
    (((c.found ids).filter (Routing.Bound c)).map Target.ref) := by
  have each : (parts.map Prod.snd).flatMap Flow.refs =
      (parts.map Prod.fst).flatMap fun g => (g.2.flatMap BoundTargets.targets).map Target.ref := by
    rw [List.flatMap_map, List.flatMap_map]
    exact List.flatMap_congr fun p mem => (carried p mem).refs
  rw [each, all, ← List.map_flatMap]
  exact Routing.boundOf_perm.map Target.ref

theorem task_addresses {f : Flow} (mem : f ∈ parts.map Prod.snd) {task : FlowTask}
    (task_mem : task ∈ f.tasks) : ∃ group binding targets,
      Addresses limit c ids f task group binding targets := by
  obtain ⟨⟨⟨balancer, groups⟩, _⟩, p_mem, rfl⟩ := List.mem_map.1 mem
  have listed : (balancer, groups) ∈ Routing.boundOf c ids := by
    rw [← all]
    exact List.mem_map_of_mem p_mem
  obtain ⟨b, b_mem, chunk, chunk_mem, binding, refs⟩ := (carried _ p_mem).task task_mem
  obtain ⟨group, looked, on, own⟩ := Routing.binding_of_mem_boundOf listed b_mem
  have items : ∀ t ∈ chunk, t ∈ b.targets := fun t => mem_of_mem_chunksOf chunk_mem
  refine ⟨group, b.binding, chunk, looked, ?_, binding, refs, ?_,
    length_of_mem_chunksOf chunk_mem⟩
  · rw [on]
    exact (carried _ p_mem).on
  · intro t t_mem
    have bound := Routing.boundOf_perm.mem_iff.1 (List.mem_flatMap.2
      ⟨_, listed, List.mem_flatMap.2 ⟨b, b_mem, items t t_mem⟩⟩)
    exact ⟨(List.mem_filter.1 bound).1, own t (items t t_mem)⟩

/-- There is one flow for each load balancer that a requested target is behind. -/
theorem balancers : ∃ names : List String,
    (parts.map Prod.snd).map Flow.balancer? = names.map some ∧ names.Nodup ∧
      ∀ name, name ∈ names ↔
        ∃ t ∈ c.found ids, ∃ b, c.bindings.get? t.group = some b ∧ b.balancer = name := by
  refine ⟨(Routing.boundOf c ids).keys, ?_, Keyed.nodup_gather _ _,
    fun _ => Routing.mem_keys_boundOf⟩
  rw [← all, Keyed.keys, List.map_map, List.map_map, List.map_map]
  exact List.map_congr_left fun p mem => (carried p mem).on

end Parts

theorem records_perm {c : Catalog} {ids : List String} (found : (c.found ids).map Target.id = ids)
    {ds : List Detail} (params : ds.map Detail.param = (inOrder c ids).map o.param) :
    (Detail.targetNames ds).Perm (ids.map fun id => some (.str id)) := by
  have records : Detail.targetNames ds =
      (inOrder c ids).map fun t => some (.str t.id) := by
    have members := congrArg (List.map (Json.member? "target_id")) params
    rw [List.map_map, List.map_map] at members
    exact members.trans (List.map_congr_left fun t _ => o.names t)
  have requested : (ids.map fun id => some (.str id)) =
      (c.found ids).map fun t => some (Json.str t.id) := by
    conv_lhs => rw [← found]
    rw [List.map_map]
    rfl
  rw [records, requested]
  exact Routing.requested_perm.map _

end Order

/-- A request for existing targets was carried out: what was recorded, and which flows were built.
The records are all that their batch has, if no detail named a batch before it was created. -/
structure Fulfilled (limit : Nat) (c : Catalog) (ids : List String) (s : Submission)
    (before after : Tables) (ds : List Detail) (fs : List Flow) : Prop
    extends Tables.Grown before after ds fs where
  new : s.batch = before.batches.nextId
  batch : ∀ d ∈ ds, d.batch = s.batch
  only : (∀ d ∈ before.details.values, d.batch ∈ before.batches.rows.keys) →
    after.detailsOf s.batch = ds
  built : s.flows = fs.map Flow.id
  found : (c.found ids).map Target.id = ids
  records : (Detail.targetNames ds).Perm (ids.map fun id => some (.str id))
  shared : (s.settled ++ fs.flatMap Flow.listed).Perm (ds.map Detail.id)
  once : (s.settled ++ fs.flatMap Flow.listed).Nodup
  refs : (fs.flatMap Flow.refs).Perm (((c.found ids).filter (Routing.Bound c)).map Target.ref)
  tasks : ∀ f ∈ fs, ∀ task ∈ f.tasks, ∃ group binding targets,
    Addresses limit c ids f task group binding targets
  balancers : ∃ names : List String, fs.map Flow.balancer? = names.map some ∧ names.Nodup ∧
    ∀ name, name ∈ names ↔
      ∃ t ∈ c.found ids, ∃ b, c.bindings.get? t.group = some b ∧ b.balancer = name

/-- New details of a new batch are all it has, if those before were of batches that existed. -/
theorem Tables.Grown.detailsOf {before after : Tables} {ds : List Detail} {fs : List Flow}
    (h : before.Grown after ds fs) {batch : Int64} (new : batch ∉ before.batches.rows.keys)
    (own : ∀ d ∈ ds, d.batch = batch)
    (named : ∀ d ∈ before.details.values, d.batch ∈ before.batches.rows.keys) :
    after.detailsOf batch = ds := by
  have others : before.details.values.filter (fun d => d.batch = batch) = [] := by
    rw [List.filter_eq_nil_iff]
    intro d mem same
    exact new (of_decide_eq_true same ▸ named d mem)
  have all : ds.filter (fun d => d.batch = batch) = ds :=
    List.filter_eq_self.2 fun d mem => decide_eq_true (own d mem)
  rw [Tables.detailsOf, h.details, List.filter_append, others, all, List.nil_append]

theorem Tables.Grown.nodup {before after : Tables} {ds : List Detail} {fs : List Flow}
    (h : before.Grown after ds fs) (numbered : after.Numbered) : (ds.map Detail.id).Nodup := by
  have ascending := numbered.details.values_ascending
  rw [h.details] at ascending
  exact List.pairwise_map.2
    ((List.pairwise_append.1 ascending).2.1.imp fun lt => Int64.ne_of_lt lt)

/-- A request to change or remove targets that is processed without failure records each target as
often as it was named, settles each record or lists it in one task, and addresses each target of a
bound group in a task of the one flow for its load balancer. -/
theorem target_changes_fulfilled {deadline : Option Nat} {settings : Settings} {r : BatchRequest}
    {ids : List String} {w w' : World} {s : Submission} (asked : r.command.targetIds? = some ids)
    (reachable : w.store.tables.Reachable) (stocked : w.catalog.Reachable)
    (returned : Program.run deadline (Submission.process settings r) w = (some (.ok s), w'))
    (smooth : s.failures = []) (fits : w'.store.tables.Fits) :
    ∃ ds fs, Fulfilled (settings.limits.limitFor r.command.operation).toNat w.catalog ids s
      w.store.tables w'.store.tables ds fs := by
  obtain ⟨order, operation, routes⟩ := Command.exists_order asked
  have reachable' := Program.reachable_run deadline (Submission.process settings r) reachable
  rw [returned] at reachable'
  have numbered := reachable.numbered (Program.fits_of_run returned fits)
  have numbered' := reachable'.numbered fits
  obtain ⟨found, y, ds, parts, rfl, all, carried, gains⟩ :=
    (order.yields_process settings r routes w.contents).run numbered returned fits s rfl smooth
  rw [operation] at carried
  have requested := Catalog.ids_found stocked.filed found
  have grown : w.store.tables.Grown w'.store.tables ds (parts.map Prod.snd) := gains.toGrown
  exact ⟨ds, parts.map Prod.snd, {
    toGrown := grown
    new := rfl
    batch := gains.batch
    only := grown.detailsOf numbered.batches.nextId_notMem gains.batch
    built := gains.built
    found := requested
    records := Order.records_perm requested gains.params
    shared := gains.shared
    once := gains.shared.nodup_iff.2 (grown.nodup numbered')
    refs := Order.refs_perm all carried
    tasks := fun _ mem _ task_mem => Order.task_addresses all carried mem task_mem
    balancers := Order.balancers all carried }⟩

def removalOf (ids : List String) : BatchRequest :=
  { business := 7, vendor := .tCloud, account := "acc", source := none
    command := .removeTargets ids }

def stockedTarget (id group : String) : Target :=
  { id, group, instanceId := "i-1", ip := "10.0.0.1", port := 80, weight := 10 }

/-- Two groups with targets, one of them behind a load balancer. -/
def twoGroups : Stock where
  groups := [
    { id := "tg-2", name := "web", vendor := .tCloud, account := "acc" },
    { id := "tg-3", name := "spare", vendor := .tCloud, account := "acc" }]
  bindings := [{
    group := "tg-2", balancer := "lb-2", balancerCloudId := "c-lb-2", listener := "li-2"
    listenerCloudId := "c-li-2", ruleCloudId := none }]
  targets := [stockedTarget "t-2" "tg-2", stockedTarget "t-3" "tg-3"]

/-- The target of the group without binding is named twice. -/
theorem target_changes_fulfilled_twoGroups :
    ∃ (s : Submission) (w' : World) (ds : List Detail) (fs : List Flow),
      s.settled = [1, 2] ∧ s.flows = [1] ∧ w'.store.tables.detailsOf s.batch = ds ∧
        Fulfilled 100 (World.insert {} twoGroups).catalog ["t-3", "t-2", "t-3"] s {}
          w'.store.tables ds fs := by
  have ended : (Program.run none (Submission.process {} (removalOf ["t-3", "t-2", "t-3"]))
      (World.insert {} twoGroups)).1 =
        some (.ok { batch := 1, flows := [1], settled := [1, 2] }) := by
    decide +kernel
  have fits : (Program.run none (Submission.process {} (removalOf ["t-3", "t-2", "t-3"]))
      (World.insert {} twoGroups)).2.store.tables.Fits := by
    decide +kernel
  obtain ⟨ds, fs, fulfilled⟩ := target_changes_fulfilled rfl .empty (.insert _ .empty)
    (Prod.ext ended rfl) rfl fits
  have only := fulfilled.only (List.forall_mem_nil _)
  exact ⟨_, _, ds, fs, rfl, rfl, only, fulfilled⟩

/-- Groups to change, and a flow that was built before for a batch that there is not yet. -/
def earlierFlow : World :=
  { afterRemoval with catalog := (World.insert {} twoGroups).catalog }

/-- A detail of an earlier flow can name the batch before it is created, and is then one of its
details. -/
theorem not_records_alone :
    ¬ ∀ (deadline : Option Nat) (settings : Settings) (r : BatchRequest) (ids : List String)
      (w w' : World) (s : Submission), r.command.targetIds? = some ids →
      w.store.tables.Reachable → w.catalog.Reachable →
      Program.run deadline (Submission.process settings r) w = (some (.ok s), w') →
      s.failures = [] → w'.store.tables.Fits →
        (Detail.targetNames (w'.store.tables.detailsOf s.batch)).Perm
          (ids.map fun id => some (.str id)) := by
  intro alone
  have reachable : earlierFlow.store.tables.Reachable :=
    Program.reachable_run (w := {}) none _ .empty
  have stocked : earlierFlow.catalog.Reachable := .insert _ .empty
  have ended : (Program.run none (Submission.process {} (removalOf ["t-2"])) earlierFlow).1 =
      some (.ok { batch := 1, flows := [2] }) := by
    decide +kernel
  have fits : (Program.run none (Submission.process {} (removalOf ["t-2"]))
      earlierFlow).2.store.tables.Fits := by
    decide +kernel
  have same := alone none {} _ _ _ _ _ rfl reachable stocked (Prod.ext ended rfl) rfl fits
  have two : (Detail.targetNames ((Program.run none (Submission.process {} (removalOf ["t-2"]))
      earlierFlow).2.store.tables.detailsOf 1)).length = 2 := by
    decide +kernel
  exact absurd (two.symm.trans same.length_eq) (by decide)

end BalancerFlows
