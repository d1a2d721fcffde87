import BalancerFlows.Proofs.Processing

/-!
# Flows that are made pending

A flow is made pending by the last call of its construction, and stays so. `activations` lists the
flows that the calls of a run made pending, in order. Main statements:
`Submission.activates_workAll`, by which these are the flows that the work on a batch yields, and
`Program.Makes.woken`, by which they are the flows that may run after any run that only makes flows
pending, and could not before.
-/
namespace BalancerFlows

/-- The flow that a call has made pending. -/
def Call.activated? : (c : Call) → Except Failure c.Answer → Option Int64
  | .store (.moveFlow id _ target), outcome =>
      match outcome with
      | .ok moved => if moved ∧ target = .pending then some id else none
      | .error _ => none
  | _, _ => none

def activations (steps : List Step) : List Int64 :=
  steps.filterMap fun s => s.call.activated? s.outcome

theorem activations_concat (past : List Step) (s : Step) :
    activations (past ++ [s]) = activations past ++ (s.call.activated? s.outcome).toList := by
  rw [activations, List.filterMap_append]
  cases found : s.call.activated? s.outcome <;> simp [activations, found]

theorem Call.activated?_eq_none {c : Call}
    (other : ¬ ∃ id expected target, c = .store (.moveFlow id expected target))
    (outcome : Except Failure c.Answer) : c.activated? outcome = none := by
  cases c with
  | catalog c => rfl
  | store c =>
      cases c with
      | moveFlow id expected target => exact absurd ⟨id, expected, target, rfl⟩ other
      | _ => rfl

theorem Call.Still.activated?_eq {c : Call} (still : c.Still) (outcome : Except Failure c.Answer) :
    c.activated? outcome = none := by
  apply Call.activated?_eq_none
  rintro ⟨id, expected, target, rfl⟩
  exact still

namespace Program

variable {α β : Type} {faults : Faults} {before : List Int64}

/-- Where the flows made pending so far are `before`, those at the end are as the value says. -/
def Activates (faults : Faults) (before : List Int64) (ids : α → List Int64) (p : Program α) :
    Prop :=
  ∀ past s, activations past = before →
    p.Ensures faults (fun past r _ => ∀ a, r = some a → activations past = ids a) past s

theorem activates_done (faults : Faults) {ids : α → List Int64} {a : α} (h : before = ids a) :
    (done a).Activates faults before ids := by
  intro past s same a' returned
  cases returned
  exact same.trans h

theorem Activates.bind {mid : α → List Int64} {ids : β → List Int64} {p : Program α}
    {f : α → Program β} (first : p.Activates faults before mid)
    (next : ∀ a, (f a).Activates faults (mid a) ids) : (p >>= f).Activates faults before ids := by
  intro past s same
  apply (first past s same).bind
  · intro past s _ b none
    cases none
  · intro past a s reached
    exact next a past s (reached a rfl)

theorem Activates.within {span : Span} {ids : α → List Int64} {p : Program α}
    (h : p.Activates faults before ids) : (p.within span).Activates faults before ids :=
  fun past s same => ensures_within.2 (h past s same)

/-- A program that changes no state makes no flow pending. -/
theorem Makes.activates {p : Program α} {P : Call → Prop} (h : p.Makes P)
    (none : ∀ c outcome, P c → c.activated? outcome = none) :
    p.Activates faults before fun _ => before := by
  intro past s same
  have kept : p.Ensures faults (fun past _ _ => activations past = before) past s := by
    apply h.ensures (I := fun past _ => activations past = before) ?_ same
    intro past s c outcome s' of_kind same _ _
    rw [activations_concat, none c outcome of_kind]
    simpa using same
  exact kept.mono fun past r s same a _ => same

theorem Makes.activates_still {p : Program α} (h : p.Makes Call.Still) :
    p.Activates faults before fun _ => before :=
  h.activates fun _ outcome still => still.activated?_eq outcome

end Program

/-- The flows made pending by some work behind others: those of its value, and none if it fails. -/
def madeBy {α : Type} (before : List Int64) (ids : α → List Int64) :
    Except Failure α → List Int64
  | .ok a => before ++ ids a
  | .error _ => before

section Work

variable {α β : Type} {faults : Faults} {before : List Int64}

theorem Work.activates_bind {x : Work α} {f : α → Work β} {ids : β → List Int64}
    (first : Program.Makes Call.Still x)
    (next : ∀ a, Program.Activates faults before (madeBy before ids) (f a)) :
    Program.Activates faults before (madeBy before ids) (x >>= f : Work β) := by
  apply Program.Activates.bind first.activates_still
  intro r
  cases r with
  | error failure => exact Program.activates_done faults rfl
  | ok a => exact next a

theorem Work.activates_none {x : Work α} (h : Program.Makes Call.Still x) :
    Program.Activates faults before (madeBy before fun _ => []) x := by
  intro past s same
  apply (h.activates_still past s same).mono
  intro past r s unchanged a returned
  cases a with
  | error failure => exact unchanged _ returned
  | ok a => exact (unchanged _ returned).trans (List.append_nil _).symm

theorem Work.activates_map {x : Work α} {f : α → β} {ids : β → List Int64}
    (h : Program.Activates faults before (madeBy before fun a => ids (f a)) x) :
    Program.Activates faults before (madeBy before ids) (f <$> x : Work β) := by
  rw [map_eq_pure_bind]
  apply Program.Activates.bind h
  intro r
  cases r with
  | error failure => exact Program.activates_done faults rfl
  | ok a => exact Program.activates_done faults rfl

end Work

namespace FlowDraft

variable {faults : Faults} {before : List Int64}

theorem activates_start (flow : Flow) (details : List Detail) :
    Program.Activates faults before (madeBy before fun f => [f.id]) (start flow details) := by
  intro past s same outcome s' answered numbered'
  cases outcome with
  | error failure =>
      rintro _ ⟨⟩
      exact (activations_concat past _).trans ((List.append_nil _).trans same)
  | ok moved =>
      cases moved with
      | true =>
          rintro _ ⟨⟩
          exact (activations_concat past _).trans (congrArg (· ++ [flow.id]) same)
      | false =>
          rintro _ ⟨⟩
          exact (activations_concat past _).trans ((List.append_nil _).trans same)

theorem activates_assemble (d : FlowDraft) (details : List Detail) :
    (d.assemble details).Activates faults before
      fun a => madeBy before (fun f => [f.id]) a.outcome := by
  apply Program.Activates.within
  split
  · exact Program.activates_done faults rfl
  · have created : Program.Makes Call.Still
        (Work.askStore (.timed "create_flow") (.createFlow d.newFlow)) :=
      (Work.asks_timed trivial).makes
    apply Program.Activates.bind created.activates_still
    intro outcome
    cases outcome with
    | error failure => exact Program.activates_done faults rfl
    | ok flow =>
        have activated : Program.Activates faults before (madeBy before fun f => [f.id])
            (d.activate flow (details.map (Detail.bindFlow flow.id))) := by
          rw [activate_eq]
          exact Work.activates_bind
            ((d.asks_secure _ _).kind fun _ => Call.Secures.still).makes fun _ =>
              activates_start _ _
        exact activated.bind fun _ => Program.activates_done faults rfl

end FlowDraft

namespace Construction

variable {faults : Faults} {before : List Int64}

theorem activates_conclude (scope : FlowScope) (operation : Operation)
    (a : FlowDraft.Assembled) :
    (conclude scope operation a).Activates faults (madeBy before (fun f => [f.id]) a.outcome)
      (madeBy before fun built => [built.flow]) := by
  obtain ⟨outcome, details⟩ := a
  cases outcome with
  | ok flow => exact Program.activates_done faults rfl
  | error failure =>
      exact (((Unwind.asks_run failure details).kind fun _ noted =>
        noted.records.still).makes.activates_still).bind
        fun _ => Program.activates_done faults rfl

/-- A construction makes the flow pending that it returns, and none if it fails. -/
theorem activates_build (scope : FlowScope) (retry : RetryPolicy) (plan : Plan) :
    Program.Activates faults before (madeBy before fun built => [built.flow])
      (build scope retry plan) := by
  apply Program.Activates.within
  apply ((Gate.asks_ensureFree scope.resource).kind fun _ =>
    Call.Secures.still).makes.activates_still.bind
  intro outcome
  cases outcome with
  | error failure => exact Program.activates_done faults rfl
  | ok _ =>
      have assembled : (assemble scope retry plan).Activates faults before
          fun a => madeBy before (fun f => [f.id]) a.outcome := by
        apply ((Chain.asks_pushAll _ plan.calls).kind fun _ noted =>
          noted.records.still).makes.activates_still.bind
        intro pushed
        split
        · exact Program.activates_done faults rfl
        · exact FlowDraft.activates_assemble _ _
      exact assembled.bind (activates_conclude scope plan.operation)

theorem activates_buildJob (settings : Settings) (scope : FlowScope) (job : Job) :
    Program.Activates faults before (madeBy before fun built => [built.flow])
      (buildJob settings scope job) :=
  Work.activates_bind (x := Work.ofExcept _) trivial fun plan =>
    activates_build scope settings.retry plan

end Construction

namespace Submission

theorem asks_workAll {P : Guard → Call → Prop} {ps : List Piece}
    (all : ∀ p ∈ ps, Program.Asks P p.work) (s : Submission) : (workAll s ps).Asks P := by
  induction ps generalizing s with
  | nil => trivial
  | cons p rest ih =>
      obtain ⟨first, others⟩ := List.forall_mem_cons.1 all
      refine Program.Asks.bind first fun outcome => ?_
      cases outcome with
      | ok y => exact ih others _
      | error failure => exact ih others _

/-- The pieces of work of a batch touch no batch. -/
theorem asks_pieces (settings : Settings) (r : BatchRequest) (work : Routed) (batch : Int64) :
    ∀ p ∈ pieces settings r work batch, Program.Asks (Call.Suited Call.Inner) p.work := by
  intro p mem
  rcases List.mem_append.1 mem with mem | mem
  · obtain ⟨job, -, rfl⟩ := List.mem_map.1 mem
    exact Work.asks_map ((LocalChange.asks_runLocalJob _ job).kind fun _ => Call.Records.inner)
  · obtain ⟨entry, -, rfl⟩ := List.mem_map.1 mem
    exact Work.asks_map
      ((Construction.asks_buildJob settings _ entry.2).kind fun _ => Call.Builds.inner)

variable {faults : Faults}

theorem activates_pieces (settings : Settings) (r : BatchRequest) (work : Routed) (batch : Int64)
    (before : List Int64) : ∀ p ∈ pieces settings r work batch,
      Program.Activates faults before (madeBy before Yield.flows) p.work := by
  intro p mem
  rcases List.mem_append.1 mem with mem | mem
  · obtain ⟨job, -, rfl⟩ := List.mem_map.1 mem
    apply Work.activates_map
    exact Work.activates_none
      ((LocalChange.asks_runLocalJob _ job).kind fun _ => Call.Records.still).makes
  · obtain ⟨entry, -, rfl⟩ := List.mem_map.1 mem
    exact Work.activates_map (Construction.activates_buildJob settings _ entry.2)

theorem activates_workAll {ps : List Piece} (all : ∀ before, ∀ p ∈ ps,
    Program.Activates faults before (madeBy before Yield.flows) p.work) (s : Submission) :
    (workAll s ps).Activates faults s.flows Submission.flows := by
  induction ps generalizing s with
  | nil => exact Program.activates_done faults rfl
  | cons p rest ih =>
      have others : ∀ before, ∀ p ∈ rest,
          Program.Activates faults before (madeBy before Yield.flows) p.work :=
        fun before p mem => all before p (List.mem_cons_of_mem _ mem)
      apply Program.Activates.bind (all s.flows p List.mem_cons_self)
      intro outcome
      cases outcome with
      | ok y => exact ih others (s.absorb y)
      | error failure => exact ih others (s.fail { resource := p.resource, failure })

end Submission

namespace Tables

def MayRun (t : Tables) (id : Int64) : Prop :=
  ∃ f, t.flows.get? id = some f ∧ f.state = .pending

theorem mayRun_withFlow {t : Tables} (numbered : t.Numbered) (new : NewFlow) {state : FlowState}
    (hidden : state ≠ .pending) (id : Int64) : (t.withFlow new state).MayRun id ↔ t.MayRun id := by
  constructor
  · rintro ⟨f, found, pending⟩
    rcases withFlow_cases found with old | ⟨-, rfl⟩
    · exact ⟨f, old, pending⟩
    · exact absurd pending hidden
  · rintro ⟨f, found, pending⟩
    exact ⟨f, (get?_withFlow_of_mem numbered (Keyed.mem_keys_of_get? found)).trans found, pending⟩

/-- An attempt to make a flow pending does nothing or finds the flow as it was created. -/
theorem moveFlow_cases (t : Tables) (g : Int64) :
    t.moveFlow g .init .pending = (false, t) ∨ ∃ f, t.flows.get? g = some f ∧ f.state = .init ∧
      t.moveFlow g .init .pending =
        (true, { t with flows := t.flows.update g fun f => { f with state := .pending } }) := by
  unfold moveFlow
  split
  next f found =>
    split
    next first => exact .inr ⟨f, found, first, rfl⟩
    next => exact .inl rfl
  next => exact .inl rfl

theorem mayRun_moved {t : Tables} {g : Int64} {f : Flow} (stored : t.flows.get? g = some f)
    (id : Int64) :
    { t with flows := t.flows.update g fun f => { f with state := .pending } }.MayRun id ↔
      t.MayRun id ∨ g = id := by
  simp only [MayRun, Table.get?_update_eq]
  by_cases same : g = id
  · subst same
    simp [stored]
  · simp [same]

end Tables

/-- The flows that may run after a call are those that could before, and the one it made pending. -/
theorem Call.Answered.mayRun {faults : Faults} {c : Call} {s s' : Contents}
    {outcome : Except Failure c.Answer} (h : c.Answered faults s outcome s') (steady : c.Steady)
    (numbered : s.tables.Numbered) (id : Int64) :
    (s'.tables.MayRun id ↔ s.tables.MayRun id ∨ c.activated? outcome = some id) ∧
      (c.activated? outcome = some id → ¬ s.tables.MayRun id) := by
  have others : (s'.tables.MayRun id ↔ s.tables.MayRun id) → c.activated? outcome = none →
      (s'.tables.MayRun id ↔ s.tables.MayRun id ∨ c.activated? outcome = some id) ∧
        (c.activated? outcome = some id → ¬ s.tables.MayRun id) := by
    intro same none
    simp [same, none]
  by_cases moves : ∃ g expected target, c = .store (.moveFlow g expected target)
  · obtain ⟨g, expected, target, rfl⟩ := moves
    obtain ⟨rfl, rfl⟩ := steady
    cases h with
    | @store _ t t' outcome catalog answered =>
        cases answered with
        | refused c t machinery => exact others Iff.rfl rfl
        | done c t =>
            rcases t.moveFlow_cases g with same | ⟨f, stored, first, same⟩
            · refine others ?_ ?_
              · rw [Tables.carryOut, same]
              · simp [Call.activated?, Tables.carryOut, same]
            · simp only [Tables.carryOut, same]
              refine ⟨(Tables.mayRun_moved stored id).trans ?_, ?_⟩
              · simp [Call.activated?]
              · intro moved
                have own : g = id := by simpa [Call.activated?] using moved
                rintro ⟨f', found, pending⟩
                rw [← own, stored, Option.some.injEq] at found
                rw [← found, first] at pending
                cases pending
  · refine others ?_ (Call.activated?_eq_none moves outcome)
    rcases h.change with same | ⟨call, t, rfl, change, rfl⟩
    · rw [same]
    · cases change with
      | flow new hidden => exact Tables.mayRun_withFlow numbered new hidden id
      | move g expected target => exact absurd ⟨g, expected, target, rfl⟩ moves
      | _ => exact Iff.rfl

/-- Since a run was at `s₀`, the flows that its calls made pending are those that may run now and
could not before, and no call made one pending again. -/
structure Woken (s₀ : Contents) (past : List Step) (s : Contents) : Prop where
  numbered : s.tables.Numbered
  iff : ∀ id, s.tables.MayRun id ↔ s₀.tables.MayRun id ∨ id ∈ activations past
  new : ∀ id ∈ activations past, ¬ s₀.tables.MayRun id
  nodup : (activations past).Nodup

namespace Woken

variable {s₀ s s' : Contents} {past : List Step}

theorem refl (numbered : s.tables.Numbered) : Woken s [] s :=
  ⟨numbered, by simp [activations], by simp [activations], List.nodup_nil⟩

theorem step {faults : Faults} {c : Call} {outcome : Except Failure c.Answer}
    (h : Woken s₀ past s) (steady : c.Steady) (answered : c.Answered faults s outcome s')
    (numbered' : s'.tables.Numbered) : Woken s₀ (past ++ [⟨c, outcome, s, s'⟩]) s' := by
  have now := fun id => (answered.mayRun steady h.numbered id).1
  have first := fun id => (answered.mayRun steady h.numbered id).2
  have other : ∀ id, c.activated? outcome = some id →
      ¬ s₀.tables.MayRun id ∧ id ∉ activations past := by
    intro id moved
    have asleep := first id moved
    rw [h.iff, not_or] at asleep
    exact asleep
  refine ⟨numbered', fun id => ?_, fun id mem => ?_, ?_⟩
  · rw [now, h.iff, activations_concat, List.mem_append, Option.mem_toList, or_assoc]
  · rw [activations_concat, List.mem_append, Option.mem_toList] at mem
    rcases mem with old | moved
    · exact h.new id old
    · exact (other id moved).1
  · rw [activations_concat]
    refine h.nodup.append (Option.toList_nodup _) fun id old moved => ?_
    exact (other id (Option.mem_toList.1 moved)).2 old

end Woken

theorem Program.Makes.woken {faults : Faults} {α : Type} {p : Program α}
    (steady : p.Makes Call.Steady) {s : Contents} (numbered : s.tables.Numbered) :
    p.Ensures faults (fun past _ s' => Woken s past s') [] s :=
  steady.ensures (fun steady woken answered numbered' => woken.step steady answered numbered')
    (.refl numbered)

end BalancerFlows
