import BalancerFlows.Proofs.Histories
import BalancerFlows.Proofs.Staging

/-!
# What a failed construction leaves behind

A construction that fails was stopped by one call, and leaves the rows of the stage that this call
was to end: its details, failed unless their unwinding was refused, the flow in the state in which
it was created, and whatever was written before. A lock is left behind only where nothing but the
change of state was missing.
-/
namespace BalancerFlows.Construction

/-- The construction as it is begun in a world. -/
def begun (scope : FlowScope) (plan : Plan) (w : World) : Undertaking :=
  { scope, plan, faults := w.store.faults, before := w.store.tables }

theorem Unwinding.tables {u : Undertaking} {stage : Stage} {failure : Failure}
    {after : List Step} {t : Tables} (h : Unwinding u stage failure after t) :
    ∃ reason, (reason = none ∨ reason = some failure.message) ∧ t = stage.tables u reason := by
  cases h with
  | idle => exact ⟨none, .inl rfl, rfl⟩
  | done => exact ⟨some failure.message, .inr rfl, rfl⟩
  | refused => exact ⟨none, .inl rfl, rfl⟩

/-- No call stops a construction behind its last stage. -/
theorem Fell.ne_active {u : Undertaking} {stage : Stage} {failure : Failure} {past : List Step}
    {t : Tables} (h : Fell u stage failure past t) (tasks : List FlowTask) :
    stage ≠ .active tasks := by
  intro last
  obtain ⟨-, stop, -, -, -, -, stops, -⟩ := h.trail
  rw [last] at stops
  rcases stops with awaited | ⟨-, others, created, -⟩
  · exact awaited
  · cases created

theorem ends_run (deadline : Option Nat) (scope : FlowScope) (retry : RetryPolicy) {plan : Plan}
    (complete : plan.Complete) {w : World} (numbered : w.store.tables.Numbered)
    (fits : (Program.run deadline (build scope retry plan) w).2.store.tables.Fits) :
    (begun scope plan w).Traced (Program.steps deadline (build scope retry plan) w) ∧
      Ends (begun scope plan w) (Program.steps deadline (build scope retry plan) w)
        (Program.run deadline (build scope retry plan) w).1
        (Program.run deadline (build scope retry plan) w).2.contents := by
  have ensured := ensures_build (u := begun scope plan w) (s := w.contents) retry complete rfl
    numbered
  exact ensured.run deadline numbered fits

section Locks

variable {u : Undertaking} (numbered : u.before.Numbered) (owned : u.before.Owned)
include numbered owned

/-- No lock names the flow before it exists. -/
theorem flow_ne_owner {k : ResourceKey} {l : Lock} (found : u.before.locks.get? k = some l) :
    l.flow ≠ u.flow := by
  intro same
  have stored := owned k l found
  rw [same] at stored
  exact numbered.flows.nextId_notMem stored

/-- The flow takes its lock only where the resource is free. -/
theorem Undertaking.Unopposed.free (unopposed : u.Unopposed) :
    u.before.locks.get? u.scope.resource = none := by
  cases found : u.before.locks.get? u.scope.resource with
  | none => rfl
  | some owner => exact absurd (unopposed owner found) (flow_ne_owner numbered owned found)

theorem owning_owner_iff (unopposed : u.Unopposed) (tasks : List FlowTask) (state : FlowState)
    (resource : ResourceKey) (owner : Lock) :
    (Stage.owning u tasks state).locks.get? resource = some owner ∧ owner.flow = u.flow ↔
      resource = u.scope.resource ∧ owner = (u.draft tasks).lock u.flow := by
  have locks : (Stage.owning u tasks state).locks =
      u.before.locks.put u.scope.resource ((u.draft tasks).lock u.flow) :=
    Tables.withLock_of_free (unopposed.free numbered owned)
  rw [locks]
  constructor
  · rintro ⟨found, own⟩
    by_cases same : u.scope.resource = resource
    · subst same
      rw [Keyed.get?_put, Option.some.injEq] at found
      exact ⟨rfl, found.symm⟩
    · rw [Keyed.get?_put_of_ne _ same] at found
      exact absurd own (flow_ne_owner numbered owned found)
  · rintro ⟨rfl, rfl⟩
    exact ⟨Keyed.get?_put .., rfl⟩

/-- The locks of a flow are the one it has taken at the last stages. -/
theorem owner_iff {stage : Stage} (proper : stage.Proper u) (reason : Option String)
    (resource : ResourceKey) (owner : Lock) :
    (stage.tables u reason).locks.get? resource = some owner ∧ owner.flow = u.flow ↔
      ∃ tasks, ((∃ state, stage = .locked tasks state) ∨ stage = .active tasks) ∧
        resource = u.scope.resource ∧ owner = (u.draft tasks).lock u.flow := by
  have earlier : (stage.tables u reason).locks = u.before.locks →
      ¬ ((stage.tables u reason).locks.get? resource = some owner ∧ owner.flow = u.flow) := by
    intro same held
    rw [same] at held
    exact flow_ne_owner numbered owned held.1 held.2
  cases stage with
  | locked tasks state =>
      apply (owning_owner_iff numbered owned proper.2.2.2 tasks state resource owner).trans
      simp
  | active tasks =>
      apply (owning_owner_iff numbered owned proper.2.2 tasks .pending resource owner).trans
      simp
  | _ =>
      have earlier := earlier rfl
      simpa using earlier

end Locks

/-- Where the flow is stored, its tasks are those of the plan. It is in the state in which it was
created unless it may run, which it may at the last stage only. -/
theorem flow_cases {u : Undertaking} {stage : Stage} {reason : Option String}
    (proper : stage.Proper u) (before : u.before.Numbered) {f : Flow}
    (found : (stage.tables u reason).flows.get? u.flow = some f) :
    u.Drawn f.tasks ∧ stage.done u = u.plan.calls ∧
      (u.Fresh f.state ∨ stage = .active f.tasks ∧ f.state = .pending) := by
  have old : u.before.flows.get? u.flow ≠ some f :=
    fun found => before.flows.nextId_notMem (Keyed.mem_keys_of_get? found)
  have new : ∀ tasks state,
      (u.before.withFlow (u.draft tasks).newFlow state).flows.get? u.flow = some f →
        f.tasks = tasks ∧ f.state = state := by
    intro tasks state found
    rcases Tables.withFlow_cases found with found | ⟨-, rfl⟩
    · exact absurd found old
    · exact ⟨rfl, rfl⟩
  cases stage with
  | waiting => exact absurd found old
  | chaining done => exact absurd found old
  | active tasks =>
      obtain ⟨rfl, state⟩ := new tasks .pending found
      exact ⟨proper.2.1, rfl, .inr ⟨rfl, state⟩⟩
  | stored tasks state | bound tasks state | associated tasks state =>
      obtain ⟨rfl, rfl⟩ := new tasks state found
      exact ⟨proper.2.1, rfl, .inl proper.2.2⟩
  | locked tasks state =>
      obtain ⟨rfl, rfl⟩ := new tasks state found
      exact ⟨proper.2.1, rfl, .inl proper.2.2.1⟩

/-- A construction that fails does so with the failure of the first step that stopped it, and
leaves the rows of the stage it had come to, with the details failed unless that was refused. The
flow, if it was stored, stays in the state in which it was created, and a lock names it only if the
change of this state was all that was missing. -/
theorem failed_construction_footprint {deadline : Option Nat} {scope : FlowScope}
    {retry : RetryPolicy} {job : Job} {balancer : String} {limit : Nat} {plan : Plan}
    {w w' : World} {failure : Failure} (reached : Reached w)
    (planned : job.plan balancer limit = .ok plan)
    (returned : Program.run deadline (build scope retry plan) w = (some (.error failure), w'))
    (fits : w'.store.tables.Fits) :
    ∃ stage, Fell (begun scope plan w) stage failure
        (Program.steps deadline (build scope retry plan) w) w'.store.tables ∧
      (∀ f, w'.store.tables.flows.get? w.store.tables.flows.nextId = some f →
        (begun scope plan w).Fresh f.state) ∧
      ∀ resource owner, w'.store.tables.locks.get? resource = some owner ∧
          owner.flow = w.store.tables.flows.nextId ↔
        ∃ tasks state, stage = .locked tasks state ∧ resource = scope.resource ∧
          owner = (draft scope plan tasks).lock w.store.tables.flows.nextId := by
  have tidy := reached.tidy (Program.fits_of_run returned fits)
  obtain ⟨-, ends⟩ := ends_run deadline scope retry (Job.plan_complete planned)
    tidy.numbered (by rwa [returned])
  rw [returned] at ends
  obtain ⟨stage, fell⟩ := ends
  obtain ⟨-, -, after, -, -, -, -, unwinding⟩ := fell.trail
  obtain ⟨reason, -, tables⟩ := unwinding.tables
  have tables : w'.store.tables = stage.tables (begun scope plan w) reason := tables
  refine ⟨stage, fell, fun f found => ?_, fun resource owner => ?_⟩
  · rw [tables] at found
    obtain ⟨-, -, fresh | ⟨last, -⟩⟩ := flow_cases fell.proper tidy.numbered found
    · exact fresh
    · exact absurd last (fell.ne_active f.tasks)
  · rw [tables]
    apply (owner_iff tidy.numbered tidy.owned fell.proper reason resource owner).trans
    constructor
    · rintro ⟨tasks, ⟨state, locked⟩ | last, on, own⟩
      · exact ⟨tasks, state, locked, on, own⟩
      · exact absurd last (fell.ne_active tasks)
    · rintro ⟨tasks, state, locked, on, own⟩
      exact ⟨tasks, .inl ⟨state, locked⟩, on, own⟩

def oneRemovalPlan : Plan :=
  (oneRemoval.plan "lb-1" 20).toOption.getD default

/-- The removal is built where no flow can be made pending. -/
def refusedActivation : Option (Except Failure Built) × World :=
  Program.run none (build (.ofBalancer "lb-1" "acc" 1 .tCloud 7) {} oneRemovalPlan)
    (World.setFaults {} fun f => f.refuse .moveFlow "gone")

theorem failed_construction_footprint_refusedActivation :
    refusedActivation.1 = some (.error (.aborted "gone")) ∧
      (∃ f, refusedActivation.2.store.tables.flows.get? 1 = some f ∧ f.state = .init) ∧
      ∃ tasks state, Fell (begun (.ofBalancer "lb-1" "acc" 1 .tCloud 7) oneRemovalPlan
          (World.setFaults {} fun f => f.refuse .moveFlow "gone"))
        (.locked tasks state) (.aborted "gone") (Program.steps none
          (build (.ofBalancer "lb-1" "acc" 1 .tCloud 7) {} oneRemovalPlan)
          (World.setFaults {} fun f => f.refuse .moveFlow "gone"))
        refusedActivation.2.store.tables := by
  have planned : oneRemoval.plan "lb-1" 20 = .ok oneRemovalPlan := by decide +kernel
  have failed : refusedActivation.1 = some (.error (.aborted "gone")) := by
    decide +kernel
  have fits : refusedActivation.2.store.tables.Fits := by
    decide +kernel
  obtain ⟨stage, fell, created, locks⟩ :=
    failed_construction_footprint (.start _ rfl) planned (Prod.ext failed rfl) fits
  obtain ⟨f, stored⟩ : ∃ f, refusedActivation.2.store.tables.flows.get? 1 = some f :=
    Option.isSome_iff_exists.1 (by decide +kernel)
  have first : f.state = .init := by
    rcases created f stored with first | ⟨-, cancels⟩
    · exact first
    · cases cancels
  obtain ⟨l, held⟩ : ∃ l, refusedActivation.2.store.tables.locks.get?
      { id := "lb-1", kind := .loadBalancer } = some l :=
    Option.isSome_iff_exists.1 (by decide +kernel)
  have own : l.flow = 1 := by
    have flow : (refusedActivation.2.store.tables.locks.get?
      { id := "lb-1", kind := .loadBalancer }).map Lock.flow = some 1 := by decide +kernel
    simpa [held] using flow
  obtain ⟨tasks, state, rfl, -⟩ := (locks _ l).1 ⟨held, own⟩
  exact ⟨failed, ⟨f, stored, first⟩, tasks, state, fell⟩

/-- The load balancer is owned since its target was removed, but the lock is not seen before it is
wanted. -/
def unseenRemoval : World :=
  afterRemoval.setFaults fun f => { f with staleReads := true }

end BalancerFlows.Construction
