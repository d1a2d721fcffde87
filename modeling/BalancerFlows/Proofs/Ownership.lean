import BalancerFlows.Proofs.Calls
import BalancerFlows.Proofs.Footprints

/-!
# Which load balancer a flow acts on

A plan checks every binding and every listener against a load balancer: a deletion against the one
it names itself, every other job against the one it is planned for. A flow that is built owns the
load balancer of its scope, so a flow that deletes listeners acts on what it owns just if both are
the same, which nothing checks. A request names the load balancer of the listeners once, so this
does not concern what is routed from it. Main statements: `Construction.built_flow_acts` and
`Routing.yields_own_subjects`.
-/
namespace BalancerFlows

namespace Job

/-- The load balancer that a job is carried out on: a deletion names it itself. -/
def subject (planned : String) : Job → String
  | deleteListeners balancer _ => balancer.id
  | _ => planned

/-- A request of the job acts on that load balancer: the binding that it carries is one of it, or
it deletes listeners of it and the job names it. -/
def ActsOn (job : Job) (balancer : String) : CloudRequest → Prop
  | .deleteListeners cloudId refs => ∃ b listeners,
      job = .deleteListeners b listeners ∧ b.id = balancer ∧ b.cloudId = cloudId ∧
        ∃ deleted : List Listener, refs = deleted.map Listener.ref ∧
          ∀ l ∈ deleted, l ∈ listeners ∧ l.balancer = balancer
  | request => ∃ b, request.binding? = some b ∧ b.balancer = balancer

theorem actsOn_of_binding {job : Job} {balancer : String} {request : CloudRequest} {b : Binding}
    (carried : request.binding? = some b) (same : b.balancer = balancer) :
    job.ActsOn balancer request := by
  cases request with
  | deleteListeners cloudId refs => cases carried
  | _ => exact ⟨b, carried, same⟩

end Job

namespace Plan

theorem balancer_of_checkBinding {balancer : String} {b : Binding} {u : Unit}
    (h : checkBinding balancer b = .ok u) : b.balancer = balancer := by
  unfold checkBinding at h
  split at h
  next same => exact same
  next => cases h

theorem boundCalls_balancer {α : Type} {shape : CallShape α} {balancer : String} {limit : Nat}
    {groups : List (Binding × List α)} {result : List PlannedCall × List ResourceKey}
    (h : boundCalls shape balancer limit groups = .ok result) :
    ∀ g ∈ groups, g.1.balancer = balancer := by
  induction groups generalizing result with
  | nil => simp
  | cons g rest ih =>
      obtain ⟨b, items⟩ := g
      obtain ⟨u, checked, h⟩ := Except.bind_eq_ok_iff.1 h
      have first := balancer_of_checkBinding checked
      split at h
      · exact List.forall_mem_cons.2 ⟨first, ih h⟩
      · obtain ⟨calls, -, h⟩ := Except.bind_eq_ok_iff.1 h
        obtain ⟨more, others, -⟩ := Except.bind_eq_ok_iff.1 h
        exact List.forall_mem_cons.2 ⟨first, ih others⟩

theorem ofGroups_balancer {α : Type} {shape : CallShape α} {operation : Operation}
    {balancer : String} {limit : Nat} {groups : List (Binding × List α)} {p : Plan}
    (h : ofGroups operation shape balancer limit groups = .ok p) :
    ∀ g ∈ groups, g.1.balancer = balancer := by
  obtain ⟨result, calls, -⟩ := Except.bind_eq_ok_iff.1 h
  exact boundCalls_balancer calls

theorem groupBindings_balancer {balancer : String} {limit : Nat} {bound : List String}
    {groups : List BoundSpecs} {calls : List PlannedCall}
    (h : groupBindings balancer limit bound groups = .ok calls) :
    ∀ g ∈ groups, g.binding.balancer = balancer := by
  induction groups generalizing bound calls with
  | nil => simp
  | cons g rest ih =>
      obtain ⟨u, fit, h⟩ := Except.bind_eq_ok_iff.1 h
      obtain ⟨u', checked, -⟩ := Except.bind_eq_ok_iff.1 fit
      split at h
      · cases h
      · obtain ⟨more, others, -⟩ := Except.bind_eq_ok_iff.1 h
        exact List.forall_mem_cons.2 ⟨balancer_of_checkBinding checked, ih others⟩

/-- The calls on bound groups act on the load balancer they are planned for. -/
theorem ofGroups_acts {α : Type} {shape : CallShape α}
    (carries : ∀ b items, (shape.call b items).request.binding? = some b) {operation : Operation}
    {balancer : String} {limit : Nat} {groups : List (Binding × List α)} {p : Plan}
    (h : ofGroups operation shape balancer limit groups = .ok p) (job : Job) :
    ∀ c ∈ p.calls, job.ActsOn balancer c.request := by
  intro c mem
  rw [(ofGroups_spec h).1] at mem
  obtain ⟨g, g_mem, mem⟩ := List.mem_flatMap.1 mem
  obtain ⟨chunk, -, rfl⟩ := List.mem_map.1 mem
  exact Job.actsOn_of_binding (carries _ _) (ofGroups_balancer h g g_mem)

end Plan

theorem Job.acts_of_planned {balancer : String} {limit : Nat} {job : Job} {p : Plan}
    (h : job.plan balancer limit = .ok p) :
    ∀ c ∈ p.calls, job.ActsOn (job.subject balancer) c.request := by
  cases job with
  | modifyWeight weight groups =>
      obtain ⟨-, -, h⟩ := Except.bind_eq_ok_iff.1 h
      exact Plan.ofGroups_acts (fun _ _ => rfl) h _
  | modifyPort port groups =>
      obtain ⟨-, -, h⟩ := Except.bind_eq_ok_iff.1 h
      exact Plan.ofGroups_acts (fun _ _ => rfl) h _
  | removeTargets groups => exact Plan.ofGroups_acts (fun _ _ => rfl) h _
  | addTargets groups =>
      obtain ⟨-, -, h⟩ := Except.bind_eq_ok_iff.1 h
      exact Plan.ofGroups_acts (fun _ _ => rfl) h _
  | deleteListeners b listeners =>
      obtain ⟨-, own, calls⟩ := Plan.deleteListeners_spec h
      intro c mem
      rw [calls] at mem
      obtain ⟨chunk, chunk_mem, rfl⟩ := List.mem_map.1 mem
      refine ⟨b, listeners, rfl, rfl, rfl, chunk, rfl, fun l l_mem => ?_⟩
      have listed := mem_of_mem_chunksOf chunk_mem l_mem
      exact ⟨listed, own l listed⟩
  | bindTargetGroups groups =>
      obtain ⟨-, planned⟩ := Plan.bindTargetGroups_spec h
      intro c mem
      rw [Plan.groupBindings_spec planned] at mem
      obtain ⟨g, g_mem, mem⟩ := List.mem_flatMap.1 mem
      have same := Plan.groupBindings_balancer planned g g_mem
      rcases List.mem_cons.1 mem with rfl | mem
      · exact Job.actsOn_of_binding rfl same
      · obtain ⟨chunk, -, rfl⟩ := List.mem_map.1 mem
        exact Job.actsOn_of_binding rfl same

namespace Job

/-- A plan has no call that acts on another load balancer than the job is carried out on. -/
theorem subject_of_actsOn {balancer : String} {limit : Nat} {job : Job} {p : Plan}
    (h : job.plan balancer limit = .ok p) {c : PlannedCall} (mem : c ∈ p.calls)
    (acts : job.ActsOn balancer c.request) : job.subject balancer = balancer := by
  cases job with
  | deleteListeners b listeners =>
      obtain ⟨-, -, calls⟩ := Plan.deleteListeners_spec h
      rw [calls] at mem
      obtain ⟨chunk, -, rfl⟩ := List.mem_map.1 mem
      obtain ⟨b', listeners', same, named, -⟩ := acts
      cases same
      exact named
  | _ => rfl

end Job

/-- Every job is carried out on the load balancer that it is put under. -/
def Routed.OwnSubjects (work : Routed) : Prop :=
  ∀ entry ∈ work.bound, entry.2.subject entry.1 = entry.1

namespace Routing

variable {faults : Faults} (r : BatchRequest) (s : Contents)

theorem yields_targets_own {route : TargetRoute} (ids : List String)
    (own : ∀ groups balancer, (route.bound groups).subject balancer = balancer) :
    Work.Yields faults (fun work _ => work.OwnSubjects) (targets r route ids) s := by
  refine Work.yields_after fun found _ => Work.yields_after fun _ _ =>
    Work.yields_after fun split _ => Work.yields_pure ?_
  intro entry mem
  obtain ⟨g, -, rfl⟩ := List.mem_map.1 mem
  exact own _ _

/-- A request names the load balancer of the listeners that it deletes once, so nothing that is
routed from it is put under another load balancer than it is carried out on. -/
theorem yields_own_subjects :
    Work.Yields faults (fun work _ => work.OwnSubjects) (route r) s := by
  unfold route
  split
  · exact yields_targets_own r s _ fun _ _ => rfl
  · exact yields_targets_own r s _ fun _ _ => rfl
  · exact yields_targets_own r s _ fun _ _ => rfl
  · refine Work.yields_after fun _ _ => Work.yields_after fun found _ => ?_
    cases found with
    | none => exact Work.yields_pure (List.forall_mem_nil _)
    | some b => exact Work.yields_pure (List.forall_mem_singleton.2 rfl)
  · exact Work.yields_after fun b _ => Work.yields_after fun _ _ => Work.yields_after fun _ _ =>
      Work.yields_pure (List.forall_mem_singleton.2 rfl)
  · refine Work.yields_after fun groups _ => Work.yields_pure ?_
    intro entry mem
    obtain ⟨g, -, rfl⟩ := List.mem_map.1 mem
    rfl

end Routing

namespace Construction

/-- At its last stage a construction has a lock of the flow. -/
theorem Stage.exists_lock {u : Undertaking} {tasks : List FlowTask}
    (proper : (Stage.active tasks).Proper u) (reason : Option String) :
    ∃ l, ((Stage.active tasks).tables u reason).locks.get? u.scope.resource = some l ∧
      l.flow = u.flow := by
  obtain ⟨-, -, own⟩ := proper
  cases found : u.before.locks.get? u.scope.resource with
  | none =>
      have locks : ((Stage.active tasks).tables u reason).locks =
          u.before.locks.put u.scope.resource ((u.draft tasks).lock u.flow) :=
        Tables.withLock_of_free found
      rw [locks]
      exact ⟨_, Keyed.get?_put .., rfl⟩
  | some owner =>
      have locks : ((Stage.active tasks).tables u reason).locks = u.before.locks :=
        Tables.withLock_of_owned found
      rw [locks]
      exact ⟨owner, found, own owner found⟩

/-- A job that is built was planned, and its construction has come to its last stage. -/
theorem active_of_buildJob {deadline : Option Nat} {settings : Settings} {scope : FlowScope}
    {job : Job} {w w' : World} {built : Built} (numbered : w.store.tables.Numbered)
    (returned : Program.run deadline (buildJob settings scope job) w = (some (.ok built), w'))
    (fits : w'.store.tables.Fits) :
    ∃ plan, job.planUnder scope.resource.id settings.limits = .ok plan ∧
      built.flow = w.store.tables.flows.nextId ∧ ∃ tasks,
        (begun scope plan w).Drawn tasks ∧
        (Stage.active tasks).Proper (begun scope plan w) ∧
        w'.store.tables = (Stage.active tasks).tables (begun scope plan w) none := by
  unfold buildJob at returned
  cases planned : job.planUnder scope.resource.id settings.limits with
  | error failure =>
      rw [planned] at returned
      cases congrArg Prod.fst returned
  | ok plan =>
      rw [planned] at returned
      have returned : Program.run deadline (build scope settings.retry plan) w =
        (some (.ok built), w') := returned
      obtain ⟨-, ends⟩ := ends_run deadline scope settings.retry (Job.plan_complete planned)
        numbered (by rwa [returned])
      rw [returned] at ends
      obtain ⟨tasks, drawn, underway, rfl⟩ := ends
      exact ⟨plan, rfl, rfl, tasks, drawn, underway.proper, underway.tables⟩

/-- A flow that was built for a load balancer owns it, and each of its tasks acts on the load
balancer that the job is carried out on. So it acts on the one it owns just if a deletion names
that one. -/
theorem built_flow_acts {deadline : Option Nat} {settings : Settings} {balancer account : String}
    {batch business : Int64} {vendor : Vendor} {job : Job} {w w' : World} {built : Built}
    (reachable : w.store.tables.Reachable)
    (returned : Program.run deadline
      (buildJob settings (.ofBalancer balancer account batch vendor business) job) w =
        (some (.ok built), w'))
    (fits : w'.store.tables.Fits) :
    ∃ f l, w'.store.tables.flows.get? built.flow = some f ∧ f.state = .pending ∧
      w'.store.tables.locks.get? { id := balancer, kind := .loadBalancer } = some l ∧
      l.flow = built.flow ∧
      (∀ task ∈ f.tasks, job.ActsOn (job.subject balancer) task.params.request) ∧
      ((∀ task ∈ f.tasks, job.ActsOn balancer task.params.request) ↔
        job.subject balancer = balancer) := by
  have numbered := reachable.numbered (Program.fits_of_run returned fits)
  obtain ⟨plan, planned, flow, tasks, drawn, proper, tables⟩ :=
    active_of_buildJob numbered returned fits
  obtain ⟨l, held, own⟩ := Stage.exists_lock proper none
  have stored := Stage.get?_active_flow tasks none
    (u := begun (.ofBalancer balancer account batch vendor business) plan w)
  have call : ∀ task ∈ tasks, ∃ c ∈ plan.calls, c.request = task.params.request := by
    intro task mem
    have request := List.mem_map_of_mem (f := fun task => task.params.request) mem
    rw [drawn.requests] at request
    exact List.mem_map.1 request
  have acts : ∀ task ∈ tasks, job.ActsOn (job.subject balancer) task.params.request := by
    intro task mem
    obtain ⟨c, c_mem, same⟩ := call task mem
    exact same ▸ Job.acts_of_planned planned c c_mem
  rw [← tables] at held stored
  have stored := (congrArg w'.store.tables.flows.get? flow).trans stored
  refine ⟨_, l, stored, rfl, held, own.trans flow.symm, acts, ?_, ?_⟩
  · intro owned
    obtain ⟨task, mem⟩ := List.exists_mem_of_ne_nil tasks
      (drawn.nonempty (Job.plan_complete planned).nonempty)
    obtain ⟨c, c_mem, same⟩ := call task mem
    exact Job.subject_of_actsOn planned c_mem (same ▸ owned task mem)
  · intro same
    rw [same] at acts
    exact acts

theorem built_flow_acts_oneRemoval :
    ∃ f, afterRemoval.store.tables.flows.get? 1 = some f ∧
      ∀ task ∈ f.tasks, oneRemoval.ActsOn "lb-1" task.params.request := by
  have built : (Program.run none
      (buildJob {} (.ofBalancer "lb-1" "acc" 1 .tCloud 7) oneRemoval) {}).1 =
        some (.ok { flow := 1, taskCount := 1, details := [1] }) := by
    decide +kernel
  have fits : afterRemoval.store.tables.Fits := by
    decide +kernel
  obtain ⟨f, l, stored, -, -, -, -, acts⟩ := built_flow_acts .empty (Prod.ext built rfl) fits
  exact ⟨f, stored, acts.2 rfl⟩

/-- A listener of another load balancer than the flow will own is to be deleted. -/
def foreignDeletion : Job :=
  .deleteListeners
    { id := "lb-2", cloudId := "c-lb-2", vendor := .tCloud, account := "acc", region := "r-1" }
    [{ id := "li-2", cloudId := "c-li-2", balancer := "lb-2", protocol := "TCP", port := 80 }]

def afterForeignDeletion : World :=
  (Program.run none (buildJob {} (.ofBalancer "lb-1" "acc" 1 .tCloud 7) foreignDeletion) {}).2

/-- A flow that deletes listeners can act on a load balancer that it does not own. -/
theorem not_acts_on_owned :
    ¬ ∀ (deadline : Option Nat) (settings : Settings) (balancer account : String)
      (batch business : Int64) (vendor : Vendor) (job : Job) (w w' : World) (built : Built)
      (f : Flow), Reached w → w'.store.tables.Fits →
      Program.run deadline
        (buildJob settings (.ofBalancer balancer account batch vendor business) job) w =
          (some (.ok built), w') →
      w'.store.tables.flows.get? built.flow = some f →
        ∀ task ∈ f.tasks, job.ActsOn balancer task.params.request := by
  intro owned
  have built : (Program.run none
      (buildJob {} (.ofBalancer "lb-1" "acc" 1 .tCloud 7) foreignDeletion) {}).1 =
        some (.ok { flow := 1, taskCount := 1, details := [1] }) := by
    decide +kernel
  have fits : afterForeignDeletion.store.tables.Fits := by
    decide +kernel
  have requests : (afterForeignDeletion.store.tables.flows.get? 1).map
      (fun f => f.tasks.map fun task => task.params.request) =
        some [.deleteListeners "c-lb-2" [{ listener := "li-2", cloudId := "c-li-2" }]] := by
    decide +kernel
  obtain ⟨f, found, requests⟩ := Option.map_eq_some_iff.1 requests
  obtain ⟨task, mem, request⟩ := List.mem_map.1 (requests ▸ List.mem_singleton_self _)
  have acts := owned none {} "lb-1" "acc" 1 7 .tCloud foreignDeletion {} afterForeignDeletion _ f
    (.start {} rfl) fits (Prod.ext built rfl) found task mem
  rw [request] at acts
  obtain ⟨b, listeners, same, named, -⟩ := acts
  cases same
  exact absurd named (by decide)

end Construction

end BalancerFlows
