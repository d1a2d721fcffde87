import BalancerFlows.Proofs.Attachment
import BalancerFlows.Proofs.Footprints
import BalancerFlows.Proofs.Reporting
import BalancerFlows.Proofs.Staging

/-!
# What operation records tell

An operation record is made after the fact, from what is left of the chain, so that it agrees with
the store has to be followed through every way in which a construction can end. `Amounts` counts
what steps have done: the details and the flow that they created, and the details that they failed.
Each part of a construction is followed once, along any path through it, and its value agrees with
the amounts (`Construction.Leaves`). `Construction.Tells` says of a record that it agrees with the
steps and with the outcome. Main statement: `constructions_recorded`.
-/
namespace BalancerFlows

/-! ## What steps have done -/

namespace Step

def details : Step → List Detail
  | ⟨.store (.createDetails _), .ok created, _, _⟩ => created
  | _ => []

def flow? : Step → Option Flow
  | ⟨.store (.createFlow _), .ok flow, _, _⟩ => some flow
  | _ => none

def failed : Step → List Int64
  | ⟨.store (.updateDetails patches), .ok _, _, _⟩ =>
      (patches.filter fun p => p.state = some .failed).map DetailPatch.id
  | _ => []

end Step

/-- The details, the flow and the number of failed details that some steps have come to. -/
structure Amounts (steps : List Step) (details : List Detail) (flow : Option Flow) (marked : Nat) :
    Prop where
  details : steps.flatMap Step.details = details
  flow : steps.findSome? Step.flow? = flow
  marked : (steps.flatMap Step.failed).length = marked

/-- The call neither creates a detail or a flow nor fails a detail. -/
def Call.Idle : Call → Prop
  | store (.createDetails _) | store (.createFlow _) => False
  | store (.updateDetails patches) => ∀ p ∈ patches, p.state ≠ some .failed
  | _ => True

namespace Amounts

theorem nil : Amounts [] [] none 0 :=
  ⟨rfl, rfl, rfl⟩

theorem append {first rest : List Step} {early late : List Detail} {flow later : Option Flow}
    {m n : Nat} (h : Amounts first early flow m) (h' : Amounts rest late later n) :
    Amounts (first ++ rest) (early ++ late) (flow.or later) (m + n) := by
  constructor
  · rw [List.flatMap_append, h.details, h'.details]
  · rw [List.findSome?_append, h.flow, h'.flow]
  · rw [List.flatMap_append, List.length_append, h.marked, h'.marked]

theorem after {first rest : List Step} {details : List Detail} {flow : Option Flow} {m : Nat}
    (h : Amounts rest details flow m) (nothing : Amounts first [] none 0) :
    Amounts (first ++ rest) details flow m := by
  simpa using nothing.append h

theorem before {first rest : List Step} {details : List Detail} {flow : Option Flow} {m : Nat}
    (h : Amounts first details flow m) (nothing : Amounts rest [] none 0) :
    Amounts (first ++ rest) details flow m := by
  simpa using h.append nothing

theorem of_idle {steps : List Step} (idle : ∀ step ∈ steps, step.call.Idle) :
    Amounts steps [] none 0 := by
  induction steps with
  | nil => exact nil
  | cons step rest ih =>
      obtain ⟨first, others⟩ := List.forall_mem_cons.1 idle
      refine (ih others).after (?_ : Amounts [step] [] none 0)
      obtain ⟨call, outcome, s, s'⟩ := step
      cases call with
      | catalog c => exact ⟨rfl, rfl, rfl⟩
      | store c =>
          cases c with
          | createDetails news => exact first.elim
          | createFlow new => exact first.elim
          | updateDetails patches =>
              cases outcome with
              | error failure => exact ⟨rfl, rfl, rfl⟩
              | ok _ =>
                  have none : (patches.filter fun p => p.state = some .failed) = [] :=
                    List.filter_eq_nil_iff.2 fun p mem => by simpa using first p mem
                  exact ⟨rfl, rfl, by simp [Step.failed, none]⟩
          | _ => exact ⟨rfl, rfl, rfl⟩

end Amounts

/-! ## The parts of a construction -/

section Parts

variable {steps : List Step} {records : List OperationRecord}

theorem Gate.course_ensureFree {resource : ResourceKey} {r : Option (Except Failure Unit)}
    (h : Program.Course (ensureFree resource) steps r records) : records = [] ∧ ∃ look,
      steps = [look] ∧ look.call = .store (.findLock resource) ∧
      ((∃ failure, r = some (.error failure) ∧ look.failure? = some failure) ∨
        r = some (.ok ()) ∧ look.failure? = none) := by
  obtain ⟨faults, s, s', ⟨failure, -, rfl, rfl, rfl⟩ | ⟨owner, rest, -, rfl, next⟩⟩ :=
    Work.course_ask_bind h.of_within
  · exact ⟨rfl, _, rfl, rfl, .inl ⟨failure, rfl, rfl⟩⟩
  · cases owner with
    | none =>
        cases next
        exact ⟨rfl, _, rfl, rfl, .inr ⟨rfl, rfl⟩⟩
    | some owner =>
        cases next with
        | report rest =>
            cases rest
            exact ⟨rfl, _, rfl, rfl, .inl ⟨owner.busy, rfl, rfl⟩⟩

/-- Details are created all together, still without a flow, or not at all. -/
theorem DetailScope.course_create {scope : DetailScope} {params : List Json}
    {r : Option (Except Failure (List Detail))} (filled : params ≠ [])
    (h : Program.Course (scope.create params) steps r records) : records = [] ∧
      ((∃ failure, r = some (.error failure) ∧ Amounts steps [] none 0) ∨
        ∃ created, r = some (.ok created) ∧ Amounts steps created none 0 ∧ created ≠ [] ∧
          ∀ d ∈ created, d.flow = none) := by
  unfold create at h
  rw [if_neg (by simpa using filled)] at h
  obtain ⟨faults, s, s', ⟨failure, -, rfl, rfl, rfl⟩ | ⟨created, rest, answered, rfl, next⟩⟩ :=
    Work.course_ask_bind h
  · exact ⟨rfl, .inl ⟨failure, rfl, rfl, rfl, rfl⟩⟩
  · cases next with
    | report rest =>
        cases rest
        refine ⟨rfl, .inr ⟨created, rfl, ⟨List.append_nil _, rfl, rfl⟩, ?_⟩⟩
        have plain : StoreCall.Plain (.createDetails (params.map scope.detail)) := trivial
        rcases answered.plain_cases plain with ⟨_, -, refused, -⟩ | ⟨done, -⟩
        · cases refused
        have rows : created =
            (s.tables.details.addAll ((params.map scope.detail).map NewDetail.store)).1 :=
          Except.ok.inj done
        constructor
        · rintro rfl
          have lengths := congrArg List.length rows
          simp only [Table.addAll_length, List.length_map, List.length_nil] at lengths
          exact filled (List.length_eq_zero_iff.1 lengths.symm)
        · intro d mem
          rw [rows] at mem
          obtain ⟨make, stored, id, rfl⟩ := Table.exists_make_of_mem_addAll mem
          obtain ⟨new, -, rfl⟩ := List.mem_map.1 stored
          rfl

/-- A chain as it stands after some details were created: it has them in order, none has a flow yet,
and its tasks are counted. -/
structure Chain.Keeps (c : Chain) (created : List Detail) : Prop where
  step : c.numbering.step = 1
  next : c.numbering.next.toNat = c.tasks.length + 1
  ids : c.details.map Detail.id = created.map Detail.id
  unbound : ∀ d ∈ c.details, d.flow = none
  filled : c.tasks ≠ [] → c.details ≠ []

theorem Chain.Keeps.extend {c : Chain} {created more : List Detail} (h : c.Keeps created)
    {id : ActionId} {numbering : Numbering} (issued : c.numbering.issue? = some (id, numbering))
    (some_detail : more ≠ []) (unbound : ∀ d ∈ more, d.flow = none) (task : FlowTask) :
    (c.extend task more numbering).Keeps (created ++ more) := by
  obtain ⟨-, next, step⟩ := Numbering.issue_first h.step issued
  refine ⟨step, ?_, ?_, ?_, ?_⟩
  · rw [extend_tasks, List.length_append, List.length_singleton, ← h.next]
    exact next
  · have same : (more.map (Detail.bindAction task.id)).map Detail.id = more.map Detail.id := by
      rw [List.map_map]
      rfl
    rw [Chain.extend, List.map_append, List.map_append, h.ids, same]
  · intro d mem
    rcases List.mem_append.1 mem with mem | mem
    · exact h.unbound d mem
    · obtain ⟨before, before_mem, rfl⟩ := List.mem_map.1 mem
      exact unbound before before_mem
  · exact fun _ none => some_detail (List.map_eq_nil_iff.1 (List.append_eq_nil_iff.1 none).2)

/-- A task is put behind the chain unless the task ids are at their end. -/
theorem Chain.course_append {c : Chain} {created more : List Detail} (keeps : c.Keeps created)
    (some_detail : more ≠ []) (unbound : ∀ d ∈ more, d.flow = none) {request : CloudRequest}
    {r : Option (FlowTask × Chain)} (h : (c.append more request).Course steps r records) :
    steps = [] ∧ records = [] ∧ (r = none ∧ UInt64.size ≤ c.tasks.length + 2 ∨
      ∃ task longer, r = some (task, longer) ∧ longer.Keeps (created ++ more) ∧
        longer.tasks.length = c.tasks.length + 1) := by
  unfold append at h
  split at h
  next exhausted =>
    cases h
    have full := Numbering.exhausted keeps.step exhausted
    rw [keeps.next] at full
    exact ⟨rfl, rfl, .inl ⟨rfl, full⟩⟩
  next id numbering issued =>
    cases h with
    | report rest =>
        cases rest
        exact ⟨rfl, rfl, .inr ⟨_, _, rfl, keeps.extend issued some_detail unbound _, by simp⟩⟩

/-- Pushing a call dies at the end of the task ids, fails and does nothing, or adds a task and its
details. -/
theorem Chain.course_push {c : Chain} {created : List Detail} (keeps : c.Keeps created)
    {call : PlannedCall} (filled : call.params ≠ [])
    {r : Option (Except Failure (FlowTask × Chain))}
    (h : Program.Course (c.push call) steps r records) : records = [] ∧
      (r = none ∧ UInt64.size ≤ c.tasks.length + 2 ∨
        (∃ failure, r = some (.error failure) ∧ Amounts steps [] none 0) ∨
        ∃ task longer more, r = some (.ok (task, longer)) ∧ Amounts steps more none 0 ∧
          longer.Keeps (created ++ more) ∧ longer.tasks.length = c.tasks.length + 1) := by
  rcases Work.course_bind h with ⟨rfl, course⟩ | ⟨failure, rfl, course⟩ |
    ⟨first, rest, early, late, more, rfl, rfl, course, next⟩
  · obtain ⟨-, ⟨_, none, -⟩ | ⟨_, none, -⟩⟩ := DetailScope.course_create filled course
    · cases none
    · cases none
  · obtain ⟨rfl, ⟨_, same, amounts⟩ | ⟨_, none, -⟩⟩ := DetailScope.course_create filled course
    · exact ⟨rfl, .inr (.inl ⟨failure, rfl, amounts⟩)⟩
    · cases none
  · obtain ⟨rfl, ⟨_, none, -⟩ | ⟨_, same, amounts, some_detail, unbound⟩⟩ :=
      DetailScope.course_create filled course
    · cases none
    cases same
    obtain ⟨r', appended, rfl⟩ := Work.course_lift next
    obtain ⟨rfl, rfl, ⟨rfl, full⟩ | ⟨task, longer, rfl, keeps', count⟩⟩ :=
      course_append keeps some_detail unbound appended
    · exact ⟨rfl, .inl ⟨rfl, full⟩⟩
    · exact ⟨rfl, .inr (.inr ⟨task, longer, more, rfl, amounts.before .nil, keeps', count⟩)⟩

/-- The chain keeps the details of all calls that were pushed, up to the first that fails. -/
theorem Chain.course_pushAll {c : Chain} {created : List Detail} (keeps : c.Keeps created)
    {calls : List PlannedCall} (filled : ∀ call ∈ calls, call.params ≠ []) {r : Option Chain.Pushed}
    (h : (c.pushAll calls).Course steps r records) : records = [] ∧
      (r = none ∧ UInt64.size ≤ c.tasks.length + calls.length + 1 ∨
        ∃ pushed more, r = some pushed ∧ Amounts steps more none 0 ∧
          pushed.chain.Keeps (created ++ more)) := by
  induction calls generalizing c created steps records with
  | nil =>
      cases h
      exact ⟨rfl, .inr ⟨_, [], rfl, .nil, by rwa [List.append_nil]⟩⟩
  | cons call rest ih =>
      obtain ⟨first, others⟩ := List.forall_mem_cons.1 filled
      rcases h.of_bind with ⟨rfl, course⟩ | ⟨steps₁, steps₂, early, late, outcome, rfl, rfl, course,
        next⟩
      · obtain ⟨rfl, ⟨-, full⟩ | ⟨_, none, -⟩ | ⟨_, _, _, none, -⟩⟩ :=
          course_push keeps first course
        · refine ⟨rfl, .inl ⟨rfl, ?_⟩⟩
          rw [List.length_cons]
          omega
        · cases none
        · cases none
      · obtain ⟨rfl, ⟨none, -⟩ | ⟨failure, same, amounts⟩ |
          ⟨task, longer, more, same, amounts, keeps', count⟩⟩ := course_push keeps first course
        · cases none
        · cases same
          cases next
          exact ⟨rfl, .inr ⟨_, [], rfl, amounts.before .nil, by rwa [List.append_nil]⟩⟩
        · cases same
          obtain ⟨rfl, ⟨rfl, full⟩ | ⟨pushed, further, rfl, amounts', keeps''⟩⟩ :=
            ih keeps' others next
          · refine ⟨rfl, .inl ⟨rfl, ?_⟩⟩
            rw [List.length_cons]
            omega
          · refine ⟨rfl, .inr ⟨pushed, more ++ further, rfl, amounts.append amounts', ?_⟩⟩
            rwa [← List.append_assoc]

theorem FlowDraft.mute_activate (d : FlowDraft) (flow : Flow) (details : List Detail) :
    Work.Mute Call.Idle (fun f => f.id = flow.id ∧ f.tasks = flow.tasks)
      (d.activate flow details) := by
  have bindings : Call.Idle (.store (.updateDetails (details.map Detail.bindingPatch))) := by
    intro p mem
    obtain ⟨detail, -, rfl⟩ := List.mem_map.1 mem
    exact nofun
  refine Work.mute_bind (Work.mute_ask bindings) fun _ _ =>
    Work.mute_bind (Work.mute_ask trivial) fun _ _ =>
    Work.mute_bind (V := fun _ => True) ?_ fun _ _ =>
    Work.mute_bind (Work.mute_ask trivial) fun moved _ => ?_
  · refine Program.mute_within.2 (Work.mute_bind (Work.mute_ask trivial) fun attempt _ => ?_)
    cases attempt with
    | created lock => exact ⟨rfl, fun _ _ => trivial⟩
    | conflict owner =>
        simp only [Gate.settle]
        split
        · exact ⟨rfl, fun _ _ => trivial⟩
        · exact ⟨rfl, fun _ _ => trivial⟩
  · cases moved with
    | false => exact fun _ refused => by cases refused
    | true => exact ⟨rfl, fun f same => by cases same; exact ⟨rfl, rfl⟩⟩

/-- An assembly leaves the details as they are and fails, or binds them all to the flow that it has
created. -/
theorem FlowDraft.course_assemble {d : FlowDraft} {details : List Detail} {r : Option Assembled}
    (h : (d.assemble details).Course steps r records) : records = [] ∧ ∃ a, r = some a ∧
      ((∃ failure, a = { outcome := .error failure, details } ∧ Amounts steps [] none 0) ∨
        ∃ flow, a.details = details.map (Detail.bindFlow flow.id) ∧ Amounts steps [] (some flow) 0 ∧
          d.tasks ≠ [] ∧ ∀ f, a.outcome = .ok f → f.id = flow.id ∧ f.tasks = flow.tasks) := by
  have h := h.of_within
  split at h
  next empty =>
    cases h
    exact ⟨rfl, _, rfl, .inl ⟨_, rfl, .nil⟩⟩
  next some_task =>
    have some_task : d.tasks ≠ [] := by simpa using some_task
    obtain ⟨faults, s, s', outcome, rest, answered, rfl, next⟩ := Work.course_ask h
    cases outcome with
    | error failure =>
        cases next
        exact ⟨rfl, _, rfl, .inl ⟨failure, rfl, rfl, rfl, rfl⟩⟩
    | ok flow =>
        obtain ⟨later, nothing, a, rfl, idle, kept, -, last⟩ :=
          (d.mute_activate flow _).course_bind next
        cases last
        have stored : Amounts [⟨.store (.createFlow d.newFlow), .ok flow, s, s'⟩] []
          (some flow) 0 := ⟨rfl, rfl, rfl⟩
        refine ⟨rfl, _, rfl, .inr ⟨flow, rfl, ?_, some_task, kept⟩⟩
        exact stored.before ((Amounts.of_idle idle).before .nil)

/-- An unwinding says how many details it has failed, and leaves their flows alone. -/
theorem Unwind.course_run {cause : Failure} {details : List Detail} {r : Option Unwound}
    (h : (run cause details).Course steps r records) : records = [] ∧ ∃ u, r = some u ∧
      Amounts steps [] none u.marked ∧ u.details.map Detail.flow = details.map Detail.flow := by
  unfold run at h
  simp only at h
  split at h
  · cases h
    exact ⟨rfl, _, rfl, .nil, rfl⟩
  · obtain ⟨faults, s, s', outcome, rest, -, rfl, next⟩ := Work.course_ask h
    cases outcome with
    | error failure =>
        cases next with
        | report rest =>
            cases rest
            exact ⟨rfl, _, rfl, ⟨rfl, rfl, rfl⟩, rfl⟩
    | ok _ =>
        cases next with
        | report rest =>
            cases rest
            refine ⟨rfl, _, rfl, ⟨rfl, rfl, ?_⟩, ?_⟩
            · have all : (patches cause.message details).filter (fun p => p.state = some .failed) =
                  patches cause.message details := by
                refine List.filter_eq_self.2 fun p mem => ?_
                obtain ⟨d, -, rfl⟩ := List.mem_map.1 mem
                rfl
              simp [Step.failed, all]
            · rw [List.map_map]
              refine List.map_congr_left fun d _ => ?_
              simp only [Function.comp, Detail.failIfPending]
              split <;> rfl

end Parts

/-- The plan has more calls than there are task ids. -/
def Plan.Overflows (p : Plan) : Prop :=
  UInt64.size ≤ p.calls.length + 1

theorem Detail.head_flow (details : List Detail) :
    details.head?.bind Detail.flow = (details.map Detail.flow).head?.join := by
  cases details <;> rfl

theorem Detail.head_unbound {details : List Detail} (unbound : ∀ d ∈ details, d.flow = none) :
    details.head?.bind Detail.flow = none := by
  cases details with
  | nil => rfl
  | cons d rest => exact unbound d List.mem_cons_self

namespace Construction

variable {scope : FlowScope} {retry : RetryPolicy} {plan : Plan} {steps : List Step}
  {records : List OperationRecord}

/-- What is left of the chain agrees with what some steps have come to: the details are those
created, the first one tells the flow, and an assembled flow is the one created. -/
structure Leaves (steps : List Step) (a : FlowDraft.Assembled) (created : List Detail)
    (flow : Option Flow) : Prop where
  amounts : Amounts steps created flow 0
  ids : a.details.map Detail.id = created.map Detail.id
  bound : a.details.head?.bind Detail.flow = flow.map Flow.id
  assembled : ∀ f, a.outcome = .ok f → ∃ stored, flow = some stored ∧ f.id = stored.id ∧
    f.tasks = stored.tasks

theorem chain_keeps : (chain scope retry plan).Keeps [] :=
  ⟨rfl, rfl, rfl, List.forall_mem_nil _, fun none => absurd rfl none⟩

theorem course_assemble (filled : ∀ call ∈ plan.calls, call.params ≠ [])
    {r : Option FlowDraft.Assembled} (h : (assemble scope retry plan).Course steps r records) :
    records = [] ∧ (r = none ∧ plan.Overflows ∨
      ∃ a created flow, r = some a ∧ Leaves steps a created flow) := by
  rcases h.of_bind with ⟨rfl, course⟩ | ⟨first, rest, early, late, pushed, rfl, rfl, course, next⟩
  · obtain ⟨rfl, ⟨-, full⟩ | ⟨_, _, none, -⟩⟩ := Chain.course_pushAll chain_keeps filled course
    · exact ⟨rfl, .inl ⟨rfl, by simpa [Plan.Overflows, chain] using full⟩⟩
    · cases none
  · obtain ⟨rfl, ⟨none, -⟩ | ⟨_, created, same, amounts, keeps⟩⟩ :=
      Chain.course_pushAll chain_keeps filled course
    · cases none
    cases same
    cases stopped : pushed.outcome with
    | error failure =>
        rw [stopped] at next
        cases next
        exact ⟨rfl, .inr ⟨_, created, none, rfl, amounts.before .nil, keeps.ids,
          Detail.head_unbound keeps.unbound, fun _ built => by cases built⟩⟩
    | ok _ =>
        rw [stopped] at next
        obtain ⟨rfl, a, rfl, ⟨failure, rfl, later⟩ | ⟨flow, bound, later, some_task, kept⟩⟩ :=
          FlowDraft.course_assemble next
        · exact ⟨rfl, .inr ⟨_, created, none, rfl, amounts.before later, keeps.ids,
            Detail.head_unbound keeps.unbound, fun _ built => by cases built⟩⟩
        · refine ⟨rfl, .inr ⟨a, created, some flow, rfl, ?_, ?_, ?_, ?_⟩⟩
          · simpa using amounts.append later
          · rw [bound, List.map_map]
            exact keeps.ids
          · rw [bound]
            cases all : pushed.chain.details with
            | nil => exact absurd all (keeps.filled some_task)
            | cons d rest => rfl
          · exact fun f built => ⟨flow, rfl, kept f built⟩

/-- The first step was the look at the gate, and its failure stopped the construction. -/
def TurnedAway (scope : FlowScope) (steps : List Step) : Prop :=
  ∃ look, steps.head? = some look ∧ look.call = .store (.findLock scope.resource) ∧
    look.failure? ≠ none

/-- An operation record agrees with what the steps of a construction have done and with what the
construction has returned. -/
structure Tells (scope : FlowScope) (plan : Plan) (steps : List Step)
    (outcome : Except Failure Built) (record : OperationRecord) : Prop where
  operation : record.operation = text plan.operation
  resource : record.resource = scope.resource.id
  status : record.status = "built" ∨ record.status = "rejected" ∨ record.status = "failed"
  built_iff : record.status = "built" ↔ ∃ built, outcome = .ok built
  rejected_iff : record.status = "rejected" ↔ TurnedAway scope steps
  built : ∀ built, outcome = .ok built → ∃ flow, steps.findSome? Step.flow? = some flow ∧
    record.flow = some flow.id ∧ record.taskCount = .ofNat flow.tasks.length ∧
    record.detailCount = .ofNat (steps.flatMap Step.details).length ∧ record.details = none ∧
    built = { flow := flow.id, taskCount := flow.tasks.length
              details := (steps.flatMap Step.details).map Detail.id }
  rejected : record.status = "rejected" →
    record.flow = none ∧ record.taskCount = 0 ∧ record.detailCount = 0
  failed : record.status = "failed" → record.flow = (steps.findSome? Step.flow?).map Flow.id ∧
    record.taskCount = 0 ∧ record.detailCount = .ofNat (steps.flatMap Step.failed).length
  error : ∀ failure, outcome = .error failure → record.details = some failure.message

namespace Tells

theorem of_built {flow f : Flow} {details : List Detail} (admitted : ¬ TurnedAway scope steps)
    (stored : steps.findSome? Step.flow? = some flow) (id : f.id = flow.id)
    (tasks : f.tasks = flow.tasks)
    (ids : details.map Detail.id = (steps.flatMap Step.details).map Detail.id) :
    Tells scope plan steps
      (.ok { flow := f.id, taskCount := f.tasks.length, details := details.map Detail.id })
      { recordFor scope plan.operation "built" with
        flow := some f.id
        taskCount := .ofNat f.tasks.length
        detailCount := .ofNat details.length } where
  operation := rfl
  resource := rfl
  status := .inl rfl
  built_iff := ⟨fun _ => ⟨_, rfl⟩, fun _ => rfl⟩
  rejected_iff :=
    ⟨fun (same : "built" = "rejected") => absurd same (by decide),
      fun away => absurd away admitted⟩
  built built returned := by
    cases returned
    have count := congrArg List.length ids
    rw [List.length_map, List.length_map] at count
    exact ⟨flow, stored, by rw [id], by rw [tasks], by rw [count], rfl, by rw [id, tasks, ids]⟩
  rejected := fun (same : "built" = "rejected") => absurd same (by decide)
  failed := fun (same : "built" = "failed") => absurd same (by decide)
  error := nofun

theorem of_rejected {failure : Failure} (away : TurnedAway scope steps) :
    Tells scope plan steps (.error failure)
      { recordFor scope plan.operation "rejected" with details := some failure.message } where
  operation := rfl
  resource := rfl
  status := .inr (.inl rfl)
  built_iff := ⟨fun (same : "rejected" = "built") => absurd same (by decide), nofun⟩
  rejected_iff := ⟨fun _ => away, fun _ => rfl⟩
  built := nofun
  rejected _ := ⟨rfl, rfl, rfl⟩
  failed := fun (same : "rejected" = "failed") => absurd same (by decide)
  error _ same := by cases same; rfl

theorem of_failed {failure : Failure} (admitted : ¬ TurnedAway scope steps) {flow : Option Int64}
    {marked : Nat} (stored : flow = (steps.findSome? Step.flow?).map Flow.id)
    (unwound : (steps.flatMap Step.failed).length = marked) :
    Tells scope plan steps (.error failure)
      { recordFor scope plan.operation "failed" with
        flow
        detailCount := .ofNat marked
        details := some failure.message } where
  operation := rfl
  resource := rfl
  status := .inr (.inr rfl)
  built_iff := ⟨fun (same : "failed" = "built") => absurd same (by decide), nofun⟩
  rejected_iff :=
    ⟨fun (same : "failed" = "rejected") => absurd same (by decide),
      fun away => absurd away admitted⟩
  built := nofun
  rejected := fun (same : "failed" = "rejected") => absurd same (by decide)
  failed _ := ⟨stored, rfl, by rw [unwound]⟩
  error _ same := by cases same; rfl

end Tells

/-- What comes of an assembly is reported once. -/
theorem course_conclude {a : FlowDraft.Assembled} {before after : List Step}
    {created : List Detail} {flow : Option Flow} (leaves : Leaves before a created flow)
    (admitted : ¬ TurnedAway scope (before ++ after)) {r : Option (Except Failure Built)}
    (h : (conclude scope plan.operation a).Course after r records) :
    ∃ outcome record, r = some outcome ∧ records = [record] ∧
      Tells scope plan (before ++ after) outcome record := by
  unfold conclude at h
  cases result : a.outcome with
  | ok f =>
      rw [result] at h
      cases h with
      | report rest =>
          cases rest
          have amounts := leaves.amounts.before .nil
          obtain ⟨stored, rfl, id, tasks⟩ := leaves.assembled f result
          refine ⟨_, _, rfl, rfl, .of_built admitted amounts.flow id tasks ?_⟩
          rw [amounts.details]
          exact leaves.ids
  | error failure =>
      rw [result] at h
      rcases h.of_bind with ⟨rfl, course⟩ | ⟨first, rest, early, late, u, rfl, rfl, course, next⟩
      · obtain ⟨-, _, none, -⟩ := Unwind.course_run course
        cases none
      · obtain ⟨rfl, _, same, unwinds, flows⟩ := Unwind.course_run course
        cases same
        cases next with
        | report rest =>
            cases rest
            have amounts := leaves.amounts.append (unwinds.before .nil)
            refine ⟨_, _, rfl, rfl, .of_failed admitted ?_ ?_⟩
            · rw [amounts.flow, Option.or_none, ← leaves.bound, Detail.head_flow, flows,
                ← Detail.head_flow]
            · rw [amounts.marked, Nat.zero_add]

/-- A construction reports what has come of it, once, unless it has too many calls to end. -/
theorem course_build (filled : ∀ call ∈ plan.calls, call.params ≠ [])
    {r : Option (Except Failure Built)}
    (h : Program.Course (build scope retry plan) steps r records) :
    r = none ∧ records = [] ∧ plan.Overflows ∨ ∃ outcome record, r = some outcome ∧
      records = [record] ∧ Tells scope plan steps outcome record := by
  have h := h.of_within
  rcases h.of_bind with ⟨rfl, course⟩ | ⟨first, rest, early, late, gate, rfl, rfl, course, next⟩
  · obtain ⟨-, _, -, -, ⟨_, none, -⟩ | ⟨none, -⟩⟩ := Gate.course_ensureFree course
    · cases none
    · cases none
  obtain ⟨rfl, look, rfl, asks, ⟨failure, same, failed⟩ | ⟨same, free⟩⟩ :=
    Gate.course_ensureFree course
  · cases same
    cases next with
    | report rest =>
        cases rest
        exact .inr ⟨_, _, rfl, rfl, .of_rejected ⟨look, rfl, asks, by simp [failed]⟩⟩
  · cases same
    cases next with
    | report next =>
        have looked : Amounts [look] [] none 0 := .of_idle (by simp [asks, Call.Idle])
        have next : (assemble scope retry plan >>= conclude scope plan.operation).Course _ _ _ :=
          next
        rcases next.of_bind with ⟨rfl, course⟩ |
          ⟨first, others, early, late, a, rfl, rfl, course, last⟩
        · obtain ⟨rfl, ⟨-, full⟩ | ⟨_, _, _, none, -⟩⟩ := course_assemble filled course
          · exact .inl ⟨rfl, rfl, full⟩
          · cases none
        · obtain ⟨rfl, ⟨none, -⟩ | ⟨_, created, flow, same, leaves⟩⟩ :=
            course_assemble filled course
          · cases none
          cases same
          have leaves : Leaves (look :: first) a created flow :=
            { leaves with amounts := leaves.amounts.after looked }
          refine .inr (course_conclude leaves ?_ last)
          rintro ⟨first, same, -, failed⟩
          cases same
          exact failed free

/-- A finished construction, and the record that was reported of it. -/
structure Account where
  scope : FlowScope
  plan : Plan
  steps : List Step
  outcome : Except Failure Built
  record : OperationRecord
  tells : Tells scope plan steps outcome record

def Account.item (a : Account) : FlowScope × Plan :=
  (a.scope, a.plan)

/-- There is one account for each item, in order, up to an item that has too many calls to end. -/
def Accounts (items : List (FlowScope × Plan)) (accounts : List Account) (ended : Bool) : Prop :=
  if ended then accounts.map Account.item = items
  else ∃ item rest, items = accounts.map Account.item ++ item :: rest ∧ item.2.Overflows

theorem Accounts.cons {items : List (FlowScope × Plan)} {accounts : List Account} {ended : Bool}
    (h : Accounts items accounts ended) (a : Account) :
    Accounts (a.item :: items) (a :: accounts) ended := by
  cases ended with
  | true => exact congrArg (a.item :: ·) h
  | false =>
      obtain ⟨item, rest, rfl, full⟩ := h
      exact ⟨item, rest, rfl, full⟩

theorem course_buildJob {settings : Settings} {job : Job} {r : Option (Except Failure Built)}
    (h : Program.Course (buildJob settings scope job) steps r records) :
    (∃ failure, job.planUnder scope.resource.id settings.limits = .error failure ∧
      r = some (.error failure) ∧ steps = [] ∧ records = []) ∨
    ∃ plan, job.planUnder scope.resource.id settings.limits = .ok plan ∧
      (r = none ∧ records = [] ∧ plan.Overflows ∨ ∃ a : Account, a.item = (scope, plan) ∧
        a.steps = steps ∧ r = some a.outcome ∧ records = [a.record]) := by
  unfold buildJob at h
  cases planned : job.planUnder scope.resource.id settings.limits with
  | error failure =>
      rw [planned] at h
      cases h
      exact .inl ⟨failure, rfl, rfl, rfl, rfl⟩
  | ok plan =>
      rw [planned] at h
      have h : Program.Course (build scope settings.retry plan) steps r records := h
      refine .inr ⟨plan, rfl, ?_⟩
      rcases course_build (Job.plan_complete planned).filled h with died |
        ⟨outcome, record, rfl, rfl, tells⟩
      · exact .inl died
      · exact .inr ⟨⟨scope, plan, steps, outcome, record, tells⟩, rfl, rfl, rfl, rfl⟩

end Construction

namespace Submission

open Construction (Account Accounts)

variable {settings : Settings} {r : BatchRequest} {steps : List Step}
  {records : List OperationRecord}

/-- What is to be constructed for the load balancers of a batch, where the plan is not refused. -/
def planned (settings : Settings) (r : BatchRequest) (batch : Int64) (jobs : List (String × Job)) :
    List (FlowScope × Plan) :=
  jobs.filterMap fun (balancer, job) =>
    let scope := flowScope r batch balancer
    (job.planUnder scope.resource.id settings.limits).toOption.map fun plan => (scope, plan)

theorem planned_refused {batch : Int64} {balancer : String} {job : Job} {failure : Failure}
    (refused : job.planUnder (flowScope r batch balancer).resource.id settings.limits =
      .error failure) (rest : List (String × Job)) :
    planned settings r batch ((balancer, job) :: rest) = planned settings r batch rest :=
  List.filterMap_cons_none (by
    simp only [refused]
    rfl)

theorem planned_ok {batch : Int64} {balancer : String} {job : Job} {plan : Plan}
    (ok : job.planUnder (flowScope r batch balancer).resource.id settings.limits = .ok plan)
    (rest : List (String × Job)) :
    planned settings r batch ((balancer, job) :: rest) =
      (flowScope r batch balancer, plan) :: planned settings r batch rest :=
  List.filterMap_cons_some (by
    simp only [ok]
    rfl)

theorem course_next {s : Submission} {balancer : String} {jobs : List (String × Job)}
    {outcome : Except Failure Built} {res : Option Submission}
    (h : Program.Course (match outcome with
      | .ok built => runJobs settings r { s with flows := s.flows ++ [built.flow] } jobs
      | .error failure => do runJobs settings r (← s.noteFailure balancer failure) jobs)
      steps res records) :
    ∃ s', s'.batch = s.batch ∧ (runJobs settings r s' jobs).Course steps res records := by
  cases outcome with
  | ok built => exact ⟨{ s with flows := s.flows ++ [built.flow] }, rfl, h⟩
  | error failure =>
      cases h with
      | report rest => exact ⟨{ s with failures := s.failures ++ [_] }, rfl, rest⟩

theorem course_runJobs {s : Submission} {jobs : List (String × Job)} {res : Option Submission}
    (h : (runJobs settings r s jobs).Course steps res records) : ∃ accounts : List Account,
      records = accounts.map Account.record ∧ accounts.flatMap Account.steps <+: steps ∧
      Accounts (planned settings r s.batch jobs) accounts res.isSome := by
  induction jobs generalizing s steps records with
  | nil =>
      cases h
      exact ⟨[], rfl, List.nil_prefix, rfl⟩
  | cons entry rest ih =>
      obtain ⟨balancer, job⟩ := entry
      rcases h.of_bind with ⟨rfl, course⟩ | ⟨first, others, early, late, outcome, rfl, rfl, course,
        next⟩
      · rcases Construction.course_buildJob course with ⟨_, -, none, -⟩ |
          ⟨plan, ok, ⟨-, rfl, full⟩ | ⟨_, -, -, none, -⟩⟩
        · cases none
        · exact ⟨[], rfl, List.nil_prefix, _, _, planned_ok ok rest, full⟩
        · cases none
      · obtain ⟨s', batch, next⟩ := course_next next
        obtain ⟨accounts, rfl, behind, all⟩ := ih next
        rw [batch] at all
        rcases Construction.course_buildJob course with ⟨_, refused, -, rfl, rfl⟩ |
          ⟨plan, ok, ⟨none, -⟩ | ⟨a, item, rfl, -, rfl⟩⟩
        · refine ⟨accounts, rfl, behind, ?_⟩
          rwa [planned_refused refused]
        · cases none
        · refine ⟨a :: accounts, rfl, ?_, ?_⟩
          · rw [List.flatMap_cons]
            exact (List.prefix_append_right_inj _).2 behind
          · rw [planned_ok ok, ← item]
            exact all.cons a

/-- Working off a batch reports what has become of its constructions, and nothing else. -/
theorem course_workOff {work : Routed} {batch : Int64} {res : Option (Except Failure Submission)}
    (h : Program.Course (workOff settings r work batch) steps res records) :
    ∃ accounts : List Account, records = accounts.map Account.record ∧
      accounts.flatMap Account.steps <:+: steps ∧
      Accounts (planned settings r batch work.bound) accounts res.isSome := by
  obtain ⟨first, later, s, rfl, -, kept, -, next⟩ :=
    (silent_runLocalJobs (localScope r batch) { batch } work.unbound).course_bind
      (Work.course_lift_bind h)
  have kept : s.batch = batch := kept
  rcases (Work.course_lift_bind next).of_bind with ⟨rfl, course⟩ |
    ⟨second, third, _, _, s', rfl, rfl, course, last⟩
  · obtain ⟨accounts, rfl, within, all⟩ := course_runJobs course
    rw [kept] at all
    exact ⟨accounts, rfl, within.isInfix.trans (List.suffix_append first later).isInfix, all⟩
  · obtain ⟨accounts, rfl, within, all⟩ := course_runJobs course
    rw [kept] at all
    have attached : Work.Silent (do
        Work.askStore (.timed "attach_flows") (.attachFlows batch s'.flows)
        Work.report (.batchProcessed batch s'.flows.length s'.settled.length s'.failures.length)
        return s') := Work.silent_bind (Work.silent_ask _ _) fun _ => ⟨rfl, fun _ _ => trivial⟩
    obtain ⟨rfl, -, _, rfl, -⟩ := attached.course last
    refine ⟨accounts, List.append_nil _, ?_, all⟩
    exact within.isInfix.trans ⟨first, third, by simp⟩

theorem silent_prepare : (prepare settings r).Silent :=
  Work.silent_check fun _ => Work.silent_bind (Routing.silent_route r) fun _ =>
    Work.silent_bind (Work.silent_ask _ _) fun _ => Work.silent_done _

/-- Processing a request reports nothing if it does not get to work, and else what has become of the
constructions. -/
theorem course_process {res : Option (Except Failure Submission)}
    (h : Program.Course (process settings r) steps res records) :
    (∃ failure, res = some (.error failure) ∧ records = [] ∧
      Program.Course (prepare settings r) steps (some (.error failure)) []) ∨
    ∃ first rest work batch, steps = first ++ rest ∧
      Program.Course (prepare settings r) first (some (.ok (work, batch))) [] ∧
      ∃ accounts : List Account, records = accounts.map Account.record ∧
        accounts.flatMap Account.steps <:+: rest ∧
        Accounts (planned settings r batch work.bound) accounts res.isSome := by
  rw [process_eq] at h
  rcases Work.course_bind h.of_within with ⟨rfl, course⟩ | ⟨failure, rfl, course⟩ |
    ⟨first, rest, early, late, ⟨work, batch⟩, rfl, rfl, course, next⟩
  · obtain ⟨-, -, _, none, -⟩ := silent_prepare.course course
    cases none
  · obtain ⟨rfl, -⟩ := silent_prepare.course course
    exact .inl ⟨failure, rfl, rfl, course⟩
  · obtain ⟨rfl, -⟩ := silent_prepare.course course
    rw [← workOff_eq] at next
    exact .inr ⟨first, rest, work, batch, rfl, course, course_workOff next⟩

end Submission

open Construction Submission in
/-- Every construction for a plan reports one operation record, and the record agrees with what the
calls of the construction have done and with what it has returned. A request that is processed
reports, in order, one such record for each load balancer whose plan is not refused, and nothing
else. Whatever is stored, whatever fails and however long the calls take, the only way not to report
is to have more calls than there are task ids. -/
theorem constructions_recorded {deadline : Option Nat} {w w' : World} {ms : List Moment} :
    (∀ {scope retry} {job : Job} {balancer limit plan r}, job.plan balancer limit = .ok plan →
      Program.Takes deadline (build scope retry plan) w ms r w' →
      r = none ∧ w'.records = w.records ∧ plan.Overflows ∨
      ∃ outcome record, r = some outcome ∧ w'.records = w.records ++ [record] ∧
        Tells scope plan (ms.map Moment.toStep) outcome record) ∧
    ∀ {settings r res}, Program.Takes deadline (process settings r) w ms res w' →
      (∃ failure, res = some (.error failure) ∧ w'.records = w.records ∧
        Program.Course (prepare settings r) (ms.map Moment.toStep) (some (.error failure)) []) ∨
      ∃ first rest work batch, ms.map Moment.toStep = first ++ rest ∧
        Program.Course (prepare settings r) first (some (.ok (work, batch))) [] ∧
        ∃ accounts : List Account, w'.records = w.records ++ accounts.map Account.record ∧
          accounts.flatMap Account.steps <:+: rest ∧
          Accounts (planned settings r batch work.bound) accounts res.isSome := by
  constructor
  · intro scope retry job balancer limit plan r planned took
    obtain ⟨records, reported, course⟩ := took.course
    rcases course_build (Job.plan_complete planned).filled course with ⟨rfl, rfl, full⟩ |
      ⟨outcome, record, rfl, rfl, tells⟩
    · exact .inl ⟨rfl, by rw [reported, List.append_nil], full⟩
    · exact .inr ⟨outcome, record, rfl, reported, tells⟩
  · intro settings r res took
    obtain ⟨records, reported, course⟩ := took.course
    rcases course_process course with ⟨failure, rfl, rfl, refused⟩ |
      ⟨first, rest, work, batch, made, ready, accounts, rfl, within, all⟩
    · exact .inl ⟨failure, rfl, by rw [reported, List.append_nil], refused⟩
    · exact .inr ⟨first, rest, work, batch, made, ready, accounts, reported, within, all⟩

open Construction Submission in
theorem constructions_recorded_unseenRemoval :
    (∃ outcome record, Tells (.ofBalancer "lb-1" "acc" 1 .tCloud 7) oneRemovalPlan
        ((Program.timeline none
          (build (.ofBalancer "lb-1" "acc" 1 .tCloud 7) {} oneRemovalPlan).run
            unseenRemoval).map Moment.toStep) outcome record ∧
      (record.status, record.flow, record.detailCount) = ("failed", some 2, 1)) ∧
    ∃ a : Account, a.record.status = "built" ∧
      (Program.run none (process {} oneDeletion) (World.insert {} oneListener)).2.records =
        [a.record] := by
  have planned : oneRemoval.plan "lb-1" 20 = .ok oneRemovalPlan := by decide +kernel
  have before : unseenRemoval.records.map (fun r => (r.status, r.flow, r.detailCount)) =
      [("built", some 1, 1)] := by
    decide +kernel
  have after : (Program.run none (build (.ofBalancer "lb-1" "acc" 1 .tCloud 7) {} oneRemovalPlan)
      unseenRemoval).2.records.map (fun r => (r.status, r.flow, r.detailCount)) =
        [("built", some 1, 1), ("failed", some 2, 1)] := by
    decide +kernel
  have processed : (Program.run none (process {} oneDeletion)
      (World.insert {} oneListener)).2.records.map OperationRecord.status = ["built"] := by
    decide +kernel
  constructor
  · rcases constructions_recorded.1 planned (Program.takes_run none
      (build (.ofBalancer "lb-1" "acc" 1 .tCloud 7) {} oneRemovalPlan).run unseenRemoval) with
      ⟨-, -, full⟩ | ⟨outcome, record, -, reported, tells⟩
    · exact absurd full (by unfold Plan.Overflows; decide +kernel)
    · have reported : (Program.run none
          (build (.ofBalancer "lb-1" "acc" 1 .tCloud 7) {} oneRemovalPlan)
            unseenRemoval).2.records = unseenRemoval.records ++ [record] := reported
      rw [reported, List.map_append, before] at after
      exact ⟨outcome, record, tells, by simpa using after⟩
  · rcases constructions_recorded.2 (Program.takes_run none (process {} oneDeletion).run
      (World.insert {} oneListener)) with ⟨_, -, same, -⟩ | ⟨-, -, -, -, -, -, accounts, same, -, -⟩
    · have same : (Program.run none (process {} oneDeletion)
        (World.insert {} oneListener)).2.records = [] := same
      rw [same] at processed
      cases processed
    · have same : (Program.run none (process {} oneDeletion)
        (World.insert {} oneListener)).2.records = accounts.map Account.record := same
      rw [same] at processed
      obtain ⟨a, rfl⟩ : ∃ a, accounts = [a] :=
        List.length_eq_one_iff.1 (by simpa using congrArg List.length processed)
      exact ⟨a, by simpa using processed, same⟩

end BalancerFlows
