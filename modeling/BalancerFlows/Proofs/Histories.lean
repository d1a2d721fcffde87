import BalancerFlows.Proofs.CrossReference
import BalancerFlows.Proofs.Processing

/-!
# Histories of calls

Requests are processed, flows are built and locks are released one after the other, under faults,
deadlines and delays that may be others each time. A pending flow and its details agree in every
respect whatever was refused, cut off or left half-done before, and no detail is listed twice. Main
statement: `Reached.tidy`, by which every call keeps what this follows from.
-/
namespace BalancerFlows

/-- The worlds that calls lead to from no rows at all. Anything but the rows may change between two
calls. -/
inductive Reached : World → Prop
  | start (w : World) (empty : w.store.tables = {}) : Reached w
  | elsewhere {w : World} (w' : World) (same : w'.store.tables = w.store.tables) :
      Reached w → Reached w'
  | process {w : World} (deadline : Option Nat) (settings : Settings) (r : BatchRequest) :
      Reached w → Reached (Program.run deadline (Submission.process settings r) w).2
  | build {w : World} (deadline : Option Nat) (settings : Settings) (scope : FlowScope)
      (job : Job) :
      Reached w → Reached (Program.run deadline (Construction.buildJob settings scope job) w).2
  | release {w : World} (deadline : Option Nat) (resource : ResourceKey) (flow : Int64) :
      Reached w → Reached (Program.run deadline (Gate.release resource flow) w).2

/-- A flow whose tasks form a chain of their own, and whose details are those that its tasks list,
in this order, all of one batch and still to be worked on. -/
structure Flow.Whole (f : Flow) (t : Tables) : Prop extends Chained f.tasks where
  nonempty : 0 < f.tasks.length
  details : ∀ task ∈ f.tasks,
    (t.details.values.filter fun d => d.flow = some f.id ∧ d.action = some task.id).map Detail.id =
      task.params.detailIds
  pending : ∀ d ∈ t.details.values, d.flow = some f.id → d.state = .pending
  together : ∃ batch, ∀ d ∈ t.details.values, d.flow = some f.id → d.batch = batch

/-- The terms of a run that is alone: it may claim any resource. -/
def Terms.alone : Terms :=
  .faulty fun _ => True

theorem hosts_alone : Terms.alone.Hosts fun _ => True :=
  Terms.hosts_faulty _

theorem covers_alone : Terms.alone.Covers fun _ _ _ => True :=
  Terms.covers_faulty _

namespace Reached

/-- What holds between two calls. -/
structure Tidy (t : Tables) : Prop where
  numbered : t.Numbered
  references : CrossReferenced t
  owned : t.Owned

theorem Tidy.path {o : Own} {t t' : Tables} (h : Tidy t) (path : Terms.alone.Path {} t o t') :
    Tidy t' := by
  constructor
  · exact path.numbered h.numbered
  · exact path.crossReferenced id h.references
  · exact path.keeps (fun _ _ _ write later numbered numbered' =>
      write.owned numbered numbered' later) h.owned

theorem Tidy.process {deadline : Option Nat} {settings : Settings} {r : BatchRequest} {w : World}
    (h : Tidy w.store.tables)
    (fits : (Program.run deadline (Submission.process settings r) w).2.store.tables.Fits) :
    Tidy (Program.run deadline (Submission.process settings r) w).2.store.tables := by
  have keeps := Submission.keeps_pieces hosts_alone (fun _ => trivial) settings r
  have always : Program.Always deadline (fun _ _ _ => True) (Submission.process settings r) w :=
    Program.always_of_forall (fun _ _ _ => trivial) _ w
  have processed := Submission.process_run hosts_alone covers_alone keeps always h.numbered fits
  exact processed.keeps (fun path before => before.path path) h

theorem Tidy.build {deadline : Option Nat} {settings : Settings} {scope : FlowScope} {job : Job}
    {w : World} (h : Tidy w.store.tables)
    (fits :
      (Program.run deadline (Construction.buildJob settings scope job) w).2.store.tables.Fits) :
    Tidy (Program.run deadline (Construction.buildJob settings scope job) w).2.store.tables := by
  have keeps : Program.Keeps Terms.alone (Construction.Delivered Terms.alone scope.resource)
      (Construction.buildJob settings scope job) {} w.store.tables :=
    Construction.keeps_buildJob hosts_alone settings job trivial _
  have always : Program.Always deadline (fun _ _ _ => True)
      (Construction.buildJob settings scope job) w :=
    Program.always_of_forall (fun _ _ _ => trivial) _ w
  obtain ⟨o, path, -⟩ := keeps.run covers_alone always h.numbered fits
  exact h.path path

theorem Tidy.release {t : Tables} (h : Tidy t) (resource : ResourceKey) (flow : Int64) :
    Tidy (t.releaseLock resource flow).2 := by
  constructor
  · exact Tables.numbered_releaseLock h.numbered resource flow
  · rcases t.releaseLock_cases resource flow with same | ⟨l, -, -, same⟩
    · rw [same]
      exact h.references
    · rw [same]
      exact h.references.of_same_rows rfl rfl
  · exact Tables.owned_releaseLock h.owned resource flow

/-- Calls keep the tables tidy while the rows fit. -/
theorem tidy {w : World} (h : Reached w) (fits : w.store.tables.Fits) : Tidy w.store.tables := by
  induction h with
  | start w empty =>
      rw [empty]
      exact ⟨Tables.numbered_empty, crossReferenced_empty, by simp [Tables.Owned, Keyed.get?]⟩
  | elsewhere w' same _ ih =>
      rw [same] at fits ⊢
      exact ih fits
  | process deadline settings r _ ih =>
      have before := ih (fits.of_later (Program.later_run deadline _ _))
      exact before.process fits
  | build deadline settings scope job _ ih =>
      have before := ih (fits.of_later (Program.later_run deadline _ _))
      exact before.build fits
  | @release w deadline resource flow _ ih =>
      have before := ih (fits.of_later (Program.later_run deadline _ _))
      rw [(Gate.run_release deadline resource flow w).2]
      exact before.release resource flow

end Reached

/-- The details that name a task are those that it lists, in the same order. -/
theorem CrossReferenced.details_of_task {t : Tables} (h : CrossReferenced t)
    (numbered : t.Numbered) {f : Flow} (stored : t.flows.get? f.id = some f)
    (linked : f.Linked t) {task : FlowTask} (mem : task ∈ f.tasks) :
    (t.details.values.filter fun d => d.flow = some f.id ∧ d.action = some task.id).map Detail.id =
      task.params.detailIds := by
  obtain ⟨batch, bound⟩ := linked.bound
  have ascending : task.params.detailIds.Pairwise (· < ·) :=
    (List.pairwise_flatMap.1 linked.ascending).1 task mem
  have sorted : ((t.details.values.filter fun d =>
      d.flow = some f.id ∧ d.action = some task.id).map Detail.id).Pairwise (· < ·) :=
    List.pairwise_map.2 (numbered.details.values_ascending.sublist List.filter_sublist)
  -- Both lists ascend, so they are equal if they have the same members.
  refine sorted.eq_of_mem_iff ascending fun id => ?_
  constructor
  · intro named
    obtain ⟨d, d_mem, rfl⟩ := List.mem_map.1 named
    obtain ⟨d_mem, names⟩ := List.mem_filter.1 d_mem
    obtain ⟨flow, action⟩ := of_decide_eq_true names
    have found := numbered.details.mem_values.1 d_mem
    obtain ⟨f', f_stored, other, other_mem, names, listed⟩ := h.bound d.id d f.id found flow
    rw [stored, Option.some.injEq] at f_stored
    subst f_stored
    rw [action, Option.some.injEq] at names
    exact linked.chained.eq_of_id_eq mem other_mem names ▸ listed
  · intro listed
    obtain ⟨d, found, flow, action, -⟩ := bound task mem id listed
    have own := Tables.numbered_detail_id numbered found
    have d_mem : d ∈ t.details.values := numbered.details.mem_values.2 (own.symm ▸ found)
    exact List.mem_map.2 ⟨d, List.mem_filter.2 ⟨d_mem, decide_eq_true ⟨flow, action⟩⟩, own⟩

theorem CrossReferenced.whole {t : Tables} (h : CrossReferenced t) (numbered : t.Numbered)
    {f : Flow} (mem : f ∈ t.flows.values) (pending : f.state = .pending) : f.Whole t := by
  have stored := numbered.flows.mem_values.1 mem
  have linked := h.linked f.id f stored pending
  obtain ⟨batch, bound⟩ := linked.bound
  have named : ∀ d ∈ t.details.values, d.flow = some f.id →
      d.state = .pending ∧ d.batch = batch := by
    intro d d_mem flow
    have found := numbered.details.mem_values.1 d_mem
    obtain ⟨f', f_stored, task, task_mem, -, listed⟩ := h.bound d.id d f.id found flow
    rw [stored, Option.some.injEq] at f_stored
    subst f_stored
    obtain ⟨d', found', -, -, pending, batch⟩ := bound task task_mem d.id listed
    rw [found, Option.some.injEq] at found'
    exact found' ▸ ⟨pending, batch⟩
  exact {
    toChained := linked.chained
    nonempty := List.length_pos_of_ne_nil linked.nonempty
    details := fun task task_mem => h.details_of_task numbered stored linked task_mem
    pending := fun d d_mem flow => (named d d_mem flow).1
    together := ⟨batch, fun d d_mem flow => (named d d_mem flow).2⟩ }

/-- Whatever was called before, under whatever faults, each pending flow is whole, and no detail is
listed twice by all flows there are. -/
theorem pending_flows_whole {w : World} (reached : Reached w) (fits : w.store.tables.Fits) :
    (∀ f ∈ w.store.tables.flows.values, f.state = .pending → f.Whole w.store.tables) ∧
      (w.store.tables.flows.values.flatMap Flow.listed).Nodup := by
  have tidy := reached.tidy fits
  constructor
  · intro f mem pending
    exact tidy.references.whole tidy.numbered mem pending
  · exact tidy.references.once

/-- One target behind a load balancer is to be removed. -/
def oneRemoval : Job :=
  .removeTargets [{
    binding := {
      group := "tg-1", balancer := "lb-1", balancerCloudId := "c-lb-1", listener := "li-1"
      listenerCloudId := "c-li-1", ruleCloudId := none }
    targets := [{
      id := "t-1", group := "tg-1", instanceId := "i-1", ip := "10.0.0.1", port := 80
      weight := 10 }] }]

def afterRemoval : World :=
  (Program.run none
    (Construction.buildJob {} (.ofBalancer "lb-1" "acc" 1 .tCloud 7) oneRemoval) {}).2

/-- Three targets behind a load balancer are to be removed, two of one group and one of another. -/
def threeRemovals : Job :=
  .removeTargets ([("tg-1", ["t-1", "t-2"]), ("tg-2", ["t-3"])].map fun (group, ids) => {
    binding := {
      group, balancer := "lb-1", balancerCloudId := "c-lb-1", listener := "li-1"
      listenerCloudId := "c-li-1", ruleCloudId := none }
    targets := ids.map fun id =>
      { id, group, instanceId := "i-" ++ id, ip := "10.0.0.1", port := 80, weight := 10 } })

def afterThreeRemovals : World :=
  (Program.run none
    (Construction.buildJob {} (.ofBalancer "lb-1" "acc" 1 .tCloud 7) threeRemovals) {}).2

theorem pending_flows_whole_afterThreeRemovals :
    ∃ f ∈ afterThreeRemovals.store.tables.flows.values, f.state = .pending ∧
      f.tasks.map (fun task => task.params.detailIds) = [[1, 2], [3]] ∧
      f.Whole afterThreeRemovals.store.tables := by
  have reached : Reached afterThreeRemovals := .build none {} _ threeRemovals (.start {} rfl)
  have fits : afterThreeRemovals.store.tables.Fits := by
    decide +kernel
  have runs : ∃ f ∈ afterThreeRemovals.store.tables.flows.values, f.state = .pending ∧
      f.tasks.map (fun task => task.params.detailIds) = [[1, 2], [3]] := by
    decide +kernel
  obtain ⟨f, mem, pending, listed⟩ := runs
  exact ⟨f, mem, pending, listed, (pending_flows_whole reached fits).1 f mem pending⟩

end BalancerFlows
