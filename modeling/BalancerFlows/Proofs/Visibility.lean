import BalancerFlows.Proofs.Footprints

/-!
# What others see of a construction

Rows are written in an order that keeps a reader from finding a name without what it names. After
each call of a construction, and whatever has failed: a flow that is stored lists stored details
only; whoever finds the lock finds the flow with all its tasks, their details bound to it, and the
further resources; and a flow that may run has its lock.
-/
namespace BalancerFlows.Construction

/-- What a reader finds between two calls of a construction of a flow. -/
structure Coherent (scope : FlowScope) (plan : Plan) (flow : Int64) (t : Tables) : Prop where
  listed : ∀ f, t.flows.get? flow = some f → ∀ id ∈ f.listed, id ∈ t.details.rows.keys
  locked : ∀ owner, t.locks.get? scope.resource = some owner → owner.flow = flow →
    ∃ f, t.flows.get? flow = some f ∧
      f.tasks.map (fun task => task.params.request) = plan.calls.map PlannedCall.request ∧
      (∀ task ∈ f.tasks, ∀ id ∈ task.params.detailIds, ∃ d, t.details.get? id = some d ∧
        d.flow = some flow ∧ d.action = some task.id) ∧
      ∀ resource ∈ plan.subResources, { flow, resource } ∈ t.subFlows
  pending : ∀ f, t.flows.get? flow = some f → f.state = .pending →
    ∃ owner, t.locks.get? scope.resource = some owner ∧ owner.flow = flow

theorem mem_addSubFlows {subFlows rows : List SubFlow} {r : SubFlow}
    (mem : r ∈ subFlows ∨ r ∈ rows) : r ∈ Tables.addSubFlows subFlows rows := by
  induction rows generalizing subFlows with
  | nil => exact mem.elim id fun none => absurd none List.not_mem_nil
  | cons first rest ih =>
      apply ih
      by_cases there : first ∈ subFlows
      · simp only [there, if_true]
        rcases mem with mem | mem
        · exact .inl mem
        · rcases List.mem_cons.1 mem with rfl | mem
          · exact .inl there
          · exact .inr mem
      · simp only [there, if_false, List.mem_append, List.mem_singleton]
        rcases mem with mem | mem
        · exact .inl (.inl mem)
        · rcases List.mem_cons.1 mem with rfl | mem
          · exact .inl (.inr rfl)
          · exact .inr mem

section

variable {u : Undertaking} {stage : Stage} {reason : Option String}

/-- What a task lists is stored under the id it is listed by, as a detail of that task. -/
theorem listed_row {tasks : List FlowTask} (drawn : u.Drawn tasks)
    (done : stage.done u = u.plan.calls) (before : u.before.Numbered)
    (after : (stage.tables u reason).Numbered) {task : FlowTask} (mem : task ∈ tasks) {id : Int64}
    (listed : id ∈ task.params.detailIds) :
    ∃ e : Entry, e.task = task.id ∧ (stage.tables u reason).details.get? id =
      some ((stage.row u e id).unwound reason) := by
  obtain ⟨d, d_mem, names, rfl⟩ := drawn.listing.exists_detail mem listed
  have pairs := Undertaking.map_made u (fun p : Entry × Int64 => p.1.named p.2) Prod.mk u.plan.calls
  rw [← pairs] at d_mem
  obtain ⟨p, p_mem, rfl⟩ := List.mem_map.1 d_mem
  have row := Stage.get?_details before after (done ▸ p_mem)
  exact ⟨p.1, Option.some.inj names, row⟩

/-- A flow that has its lock is stored with its tasks and sub-flow rows, and its details are bound
to it. -/
theorem owning_of_last (proper : stage.Proper u) {tasks : List FlowTask}
    (last : (∃ state, stage = .locked tasks state) ∨ stage = .active tasks) :
    u.Drawn tasks ∧ stage.done u = u.plan.calls ∧
      (∀ e id, stage.row u e id = e.bound u.flow id) ∧
      ∃ state, stage.beside u = Stage.owning u tasks state := by
  rcases last with ⟨state, rfl⟩ | rfl
  · exact ⟨proper.2.1, rfl, fun _ _ => rfl, state, rfl⟩
  · exact ⟨proper.2.1, rfl, fun _ _ => rfl, .pending, rfl⟩

theorem coherent_of_visits (before : u.before.Numbered) (owned : u.before.Owned) {t : Tables}
    (visits : u.Visits t) : Coherent u.scope u.plan u.flow t := by
  obtain ⟨after, stage, reason, proper, rfl⟩ := visits
  have owner := owner_iff before owned proper reason
  refine ⟨?_, ?_, ?_⟩
  · intro f found id listed
    obtain ⟨drawn, done, -⟩ := flow_cases proper before found
    obtain ⟨task, mem, listed⟩ := Flow.mem_listed.1 listed
    obtain ⟨e, -, row⟩ := listed_row drawn done before after mem listed
    exact Keyed.mem_keys_of_get? row
  · intro l found own
    obtain ⟨tasks, last, -, -⟩ := (owner _ l).1 ⟨found, own⟩
    obtain ⟨drawn, done, bound, state, beside⟩ := owning_of_last proper last
    have flows : (stage.tables u reason).flows = (Stage.owning u tasks state).flows := by
      rw [← beside]
      rfl
    have subFlows : (stage.tables u reason).subFlows = (Stage.owning u tasks state).subFlows := by
      rw [← beside]
      rfl
    rw [flows, subFlows]
    refine ⟨_, Stage.get?_owning_flow tasks state, drawn.requests, ?_, ?_⟩
    · intro task mem id listed
      obtain ⟨e, names, row⟩ := listed_row drawn done before after mem listed
      rw [bound] at row
      refine ⟨_, row, ?_, ?_⟩
      · rw [Detail.unwound_flow]
        rfl
      · rw [Detail.unwound_action, ← names]
        rfl
    · intro resource mem
      exact mem_addSubFlows (.inr (List.mem_map_of_mem mem))
  · intro f found pending
    obtain ⟨-, -, fresh | ⟨last, -⟩⟩ := flow_cases proper before found
    · exact absurd pending fresh.ne_pending
    · exact ⟨_, (owner _ _).2 ⟨f.tasks, .inr last, rfl, rfl⟩⟩

end

/-- After each call of a construction, whatever fails, is cut off or dies, a reader finds nothing
named that is not there. -/
theorem construction_coherent {deadline : Option Nat} {scope : FlowScope} {retry : RetryPolicy}
    {job : Job} {balancer : String} {limit : Nat} {plan : Plan} {w : World} (reached : Reached w)
    (planned : job.plan balancer limit = .ok plan)
    (fits : (Program.run deadline (build scope retry plan) w).2.store.tables.Fits) :
    ∀ step ∈ Program.steps deadline (build scope retry plan) w,
      Coherent scope plan w.store.tables.flows.nextId step.after.tables := by
  have later := Program.later_run deadline (build scope retry plan) w
  have tidy := reached.tidy (fits.of_later later)
  obtain ⟨traced, -⟩ :=
    ends_run deadline scope retry (Job.plan_complete planned) tidy.numbered fits
  intro step mem
  exact coherent_of_visits tidy.numbered tidy.owned (traced step mem)

theorem construction_coherent_oneRemoval :
    ∃ step ∈ Program.steps none
        (build (.ofBalancer "lb-1" "acc" 1 .tCloud 7) {} oneRemovalPlan) {},
      (step.after.tables.locks.get? { id := "lb-1", kind := .loadBalancer }).map Lock.flow =
          some 1 ∧
        Coherent (.ofBalancer "lb-1" "acc" 1 .tCloud 7) oneRemovalPlan 1 step.after.tables := by
  have planned : oneRemoval.plan "lb-1" 20 = .ok oneRemovalPlan := by decide +kernel
  have fits : (Program.run none
      (build (.ofBalancer "lb-1" "acc" 1 .tCloud 7) {} oneRemovalPlan) {}).2.store.tables.Fits := by
    decide +kernel
  have seen : ∃ step ∈ Program.steps none
      (build (.ofBalancer "lb-1" "acc" 1 .tCloud 7) {} oneRemovalPlan) {},
        (step.after.tables.locks.get? { id := "lb-1", kind := .loadBalancer }).map Lock.flow =
          some 1 := by
    decide +kernel
  obtain ⟨step, mem, owned⟩ := seen
  exact ⟨step, mem, owned, construction_coherent (.start {} rfl) planned fits step mem⟩

end BalancerFlows.Construction
