import BalancerFlows.Proofs.Processing
import BalancerFlows.Proofs.Staging

/-!
# What the work on a batch adds

A piece of work that succeeds adds details, and a flow if it is one for a load balancer; each of
the details is either settled or listed by the flow. Pieces that all succeed add what each of them
adds, one after the other. However they end, the flows they have added are for some of them. Main
statements: `Submission.yields_workAll` and `Submission.ensures_workAll`.
-/
namespace BalancerFlows

/-- The tables with more details and flows. -/
structure Tables.Grown (t t' : Tables) (ds : List Detail) (fs : List Flow) : Prop where
  details : t'.details.values = t.details.values ++ ds
  flows : t'.flows.values = t.flows.values ++ fs

theorem Tables.Grown.trans {t t' t'' : Tables} {ds ds' : List Detail} {fs fs' : List Flow}
    (h : t.Grown t' ds fs) (k : t'.Grown t'' ds' fs') : t.Grown t'' (ds ++ ds') (fs ++ fs') := by
  constructor
  · rw [k.details, h.details, List.append_assoc]
  · rw [k.flows, h.flows, List.append_assoc]

/-- What a yield of the work on a batch stands for: details with these records, and flows. -/
structure Yield.Gains (y : Yield) (batch : Int64) (params : List Json) (t t' : Tables)
    (ds : List Detail) (fs : List Flow) : Prop extends Tables.Grown t t' ds fs where
  batch : ∀ d ∈ ds, d.batch = batch
  params : ds.map Detail.param = params
  built : y.flows = fs.map Flow.id
  shared : (y.settled ++ fs.flatMap Flow.listed).Perm (ds.map Detail.id)

theorem Yield.Gains.beside {y : Yield} {batch : Int64} {params : List Json} {t t' u u' : Tables}
    {ds : List Detail} {fs : List Flow} (h : y.Gains batch params t t' ds fs)
    (details : u.details = t.details) (flows : u.flows = t.flows)
    (details' : u'.details = t'.details) (flows' : u'.flows = t'.flows) :
    y.Gains batch params u u' ds fs := by
  refine ⟨⟨?_, ?_⟩, h.batch, h.params, h.built, h.shared⟩
  · rw [details, details', h.details]
  · rw [flows, flows', h.flows]

/-- What two yields come to. -/
def Yield.append (y y' : Yield) : Yield :=
  { settled := y.settled ++ y'.settled, flows := y.flows ++ y'.flows }

theorem Yield.Gains.append {y y' : Yield} {batch : Int64} {params params' : List Json}
    {t t' t'' : Tables} {ds ds' : List Detail} {fs fs' : List Flow}
    (h : y.Gains batch params t t' ds fs) (k : y'.Gains batch params' t' t'' ds' fs') :
    (y.append y').Gains batch (params ++ params') t t'' (ds ++ ds') (fs ++ fs') := by
  refine ⟨h.toGrown.trans k.toGrown, ?_, ?_, ?_, ?_⟩
  · exact List.forall_mem_append.2 ⟨h.batch, k.batch⟩
  · rw [List.map_append, h.params, k.params]
  · rw [List.map_append, ← h.built, ← k.built]
    rfl
  · have swap : (y.settled ++ y'.settled ++ (fs ++ fs').flatMap Flow.listed).Perm
        ((y.settled ++ fs.flatMap Flow.listed) ++ (y'.settled ++ fs'.flatMap Flow.listed)) := by
      rw [List.flatMap_append, List.append_assoc, List.append_assoc]
      exact (List.perm_append_comm_assoc _ _ _).append_left _
    rw [List.map_append]
    exact swap.trans (h.shared.append k.shared)

namespace Construction

theorem new_of_mem_entries {scope : DetailScope} {n : Nat} {calls : List PlannedCall} {e : Entry}
    (mem : e ∈ entries scope n calls) : ∃ param, e.new = scope.detail param := by
  induction calls generalizing n with
  | nil => cases mem
  | cons call rest ih =>
      rcases List.mem_append.1 mem with mem | mem
      · obtain ⟨param, -, rfl⟩ := List.mem_map.1 mem
        exact ⟨param, rfl⟩
      · exact ih mem

theorem params_entries (scope : DetailScope) (n : Nat) (calls : List PlannedCall) :
    (entries scope n calls).map (fun e => e.new.param) = calls.flatMap PlannedCall.params := by
  induction calls generalizing n with
  | nil => rfl
  | cons call rest ih =>
      rw [entries, List.map_append, ih, List.flatMap_cons]
      simp [callEntries, DetailScope.detail, Function.comp_def]

end Construction

namespace LocalChange

theorem yields_runLocalJob {faults : Faults} (scope : DetailScope) (job : LocalJob)
    (s : Contents) : Work.Yields faults
      (fun ids s' => ∃ ds, Yield.Gains { settled := ids } scope.batch job.params s.tables
        s'.tables ds [])
      (Submission.runLocalJob scope job) s := by
  intro numbered
  refine Program.yields_of_ensures (fun _ => (ensures_runLocalJob numbered job).and_numbered
    numbered) ?_ numbered
  rintro past r s' ⟨numbered', done⟩ ids rfl
  rcases done with ⟨failure, failed, -⟩ | ⟨rfl, tables⟩
  · cases failed
  · have fits := numbered'.toFits
    rw [tables] at fits ⊢
    have own : ∀ make ∈ scope.rows job.params Detail.succeed, ∀ id, (make id).id = id := by
      simp [DetailScope.rows, Detail.succeed, NewDetail.store]
    have values := Tables.values_withDetails numbered.details own fits
    refine ⟨_, ⟨values, (List.append_nil _).symm⟩, ?_, ?_, rfl, ?_⟩
    · intro d mem
      obtain ⟨make, make_mem, id, rfl⟩ := Table.exists_make_of_mem_label mem
      obtain ⟨param, -, rfl⟩ := List.mem_map.1 make_mem
      rfl
    · rw [Table.map_label, DetailScope.rows, List.map_map]
      exact (Table.label_const id s.tables.details.created job.params).trans (List.map_id _)
    · rw [Table.map_label, DetailScope.rows, List.map_map]
      simp only [List.flatMap_nil, List.append_nil]
      exact .refl _

end LocalChange

/-- Some of these items have got a flow each, in their order, and no other flow was added. -/
def Tables.Served {ι : Type} (serves : ι → Flow → Prop) (is : List ι) (t t' : Tables) : Prop :=
  ∃ built : List (ι × Flow), (built.map Prod.fst).Sublist is ∧ (∀ p ∈ built, serves p.1 p.2) ∧
    t'.flows.values = t.flows.values ++ built.map Prod.snd

namespace Tables.Served

variable {ι : Type} {serves : ι → Flow → Prop} {is js : List ι} {t t₁ t₂ : Tables}

theorem none (same : t₁.flows = t.flows) : Served serves is t t₁ :=
  ⟨[], List.nil_sublist is, by simp, by rw [same]; exact (List.append_nil _).symm⟩

theorem one {i : ι} {f : Flow} (h : serves i f)
    (flows : t₁.flows.values = t.flows.values ++ [f]) : Served serves [i] t t₁ :=
  ⟨[(i, f)], .refl _, by simpa using h, flows⟩

theorem append (h : Served serves is t t₁) (k : Served serves js t₁ t₂) :
    Served serves (is ++ js) t t₂ := by
  obtain ⟨built, some, good, flows⟩ := h
  obtain ⟨built', some', good', flows'⟩ := k
  refine ⟨built ++ built', ?_, List.forall_mem_append.2 ⟨good, good'⟩, ?_⟩
  · rw [List.map_append]
    exact some.append some'
  · rw [flows', flows, List.map_append, List.append_assoc]

theorem beside {u u₁ : Tables} (h : Served serves is t t₁) (same : t.flows = u.flows)
    (same' : u₁.flows = t₁.flows) : Served serves is u u₁ := by
  obtain ⟨built, some, good, flows⟩ := h
  refine ⟨built, some, good, ?_⟩
  rw [same', ← same, flows]

end Tables.Served

namespace Construction

/-- The flow is for that load balancer, and its tasks make the calls of the plan. -/
structure Serves (balancer : String) (plan : Plan) (f : Flow) : Prop where
  on : f.balancer? = some balancer
  calls : f.tasks.map (fun task => task.params.request) = plan.calls.map PlannedCall.request

/-- The flow that is drawn up serves its plan, whatever state it is in. -/
theorem Undertaking.Drawn.serves {u : Undertaking} {tasks : List FlowTask} (drawn : u.Drawn tasks)
    (state : FlowState) : Serves u.scope.resource.id u.plan
      { (u.draft tasks).newFlow.store u.flow with state } :=
  ⟨FlowDraft.shareData_balancer (u.draft tasks), drawn.requests⟩

theorem Underway.gains {u : Undertaking} {tasks : List FlowTask} {past : List Step} {s : Contents}
    (h : Underway u (.active tasks) past s) (before : u.before.Numbered) :
    ∃ ds f, Serves u.scope.resource.id u.plan f ∧
      Yield.Gains { flows := [u.flow] } u.scope.batch (u.plan.calls.flatMap PlannedCall.params)
        u.before s.tables ds [f] := by
  have drawn := h.proper.2.1
  have fits := h.numbered.toFits
  rw [h.tables] at fits
  have own : ∀ make ∈ (u.entries u.plan.calls).map (fun e id => (e.bound u.flow id).unwound none),
      ∀ id, (make id).id = id := by
    intro make mem id
    obtain ⟨e, -, rfl⟩ := List.mem_map.1 mem
    rfl
  have details := Tables.values_withDetails (t := (Stage.active tasks).beside u)
    before.details own fits
  have flows := Tables.values_withFlow before.flows.nextId_notMem (u.draft tasks).newFlow .pending
  refine ⟨u.made (Entry.bound u.flow) u.plan.calls, _, drawn.serves .pending, ⟨?_, ?_⟩, ?_, ?_,
    rfl, ?_⟩
  · rw [h.tables]
    exact details
  · rw [h.tables]
    exact flows
  · intro d mem
    obtain ⟨e, e_mem, id, rfl⟩ := Undertaking.exists_of_mem_made mem
    obtain ⟨param, new⟩ := new_of_mem_entries e_mem
    exact congrArg NewDetail.batch new
  · rw [Undertaking.map_made, ← params_entries u.details 0]
    exact Table.label_const _ _ _
  · have listed := drawn.listing.listed_eq
    rw [Undertaking.map_made] at listed ⊢
    simp only [List.nil_append, List.flatMap_singleton]
    exact .of_eq listed

/-- A construction that succeeds adds its flow and the details that this lists. -/
theorem yields_buildJob {faults : Faults} (settings : Settings) (scope : FlowScope) (job : Job)
    (s : Contents) : Work.Yields faults
      (fun built s' => ∃ plan, job.planUnder scope.resource.id settings.limits = .ok plan ∧
        ∃ ds f, Serves scope.resource.id plan f ∧ Yield.Gains { flows := [built.flow] }
          scope.batch (plan.calls.flatMap PlannedCall.params) s.tables s'.tables ds [f])
      (buildJob settings scope job) s := by
  apply Work.yields_check
  intro plan planned numbered
  have ends := ensures_build (u := { scope, plan, faults, before := s.tables }) (s := s)
    settings.retry (Job.plan_complete planned) rfl
  refine Program.yields_of_ensures ends ?_ numbered
  rintro past r s' ⟨-, ended⟩ built rfl
  obtain ⟨tasks, -, underway, rfl⟩ := ended
  exact ⟨plan, planned, underway.gains numbered⟩

theorem Undertaking.Visits.served {ι : Type} {serves : ι → Flow → Prop} {i : ι} {u : Undertaking}
    {t : Tables} (h : u.Visits t) (before : u.before.Numbered)
    (good : ∀ f, Serves u.scope.resource.id u.plan f → serves i f) :
    Tables.Served serves [i] u.before t := by
  obtain ⟨-, stage, reason, proper, rfl⟩ := h
  have stored : ∀ {tasks} state, u.Drawn tasks → (stage.tables u reason).flows =
      (u.before.withFlow (u.draft tasks).newFlow state).flows →
      Tables.Served serves [i] u.before (stage.tables u reason) := by
    intro tasks state drawn same
    refine .one (good _ (drawn.serves state)) ?_
    rw [same]
    exact Tables.values_withFlow before.flows.nextId_notMem _ _
  cases stage with
  | waiting => exact .none rfl
  | chaining done => exact .none rfl
  | stored tasks state => exact stored state proper.2.1 rfl
  | bound tasks state => exact stored state proper.2.1 rfl
  | associated tasks state => exact stored state proper.2.1 rfl
  | locked tasks state => exact stored state proper.2.1 rfl
  | active tasks => exact stored .pending proper.2.1 rfl

/-- However a construction ends, it has added at most one flow, which serves its plan. -/
theorem ensures_served {ι : Type} {serves : ι → Flow → Prop} {i : ι} {faults : Faults}
    {settings : Settings} {scope : FlowScope} {job : Job}
    (good : ∀ plan f, job.planUnder scope.resource.id settings.limits = .ok plan →
      Serves scope.resource.id plan f → serves i f)
    (past : List Step) {s : Contents} (numbered : s.tables.Numbered) :
    Program.Ensures faults (fun _ _ s' => Tables.Served serves [i] s.tables s'.tables)
      (buildJob settings scope job) past s := by
  apply Work.ensures_check
  · intro failure _
    exact .none rfl
  intro plan planned
  have traced := ensures_build (u := { scope, plan, faults, before := s.tables }) (s := s)
    settings.retry (Job.plan_complete planned) rfl numbered
  have ended := ((traced.and (Program.ensures_ending faults _ s)).behind past)
  rw [List.append_nil] at ended
  apply ended.mono
  rintro _ r s' ⟨own, -, ⟨traced, -⟩, ending⟩
  rcases ending with rfl | ⟨step, mem, rfl⟩
  · exact .none rfl
  · exact (traced step mem).served numbered (fun f => good plan f planned)

end Construction

namespace Submission

/-- Pieces of work that all succeed add what each of them adds, one after the other. -/
theorem yields_workAll {faults : Faults} {ι σ : Type} {batch : Int64} {piece : ι → Piece}
    {params : ι → List Json} {Adds : ι → σ → Prop} {flows : σ → List Flow} {is : List ι}
    (works : ∀ i s, Work.Yields faults
      (fun y s' => ∃ ds a, Adds i a ∧
        y.Gains batch (params i) s.tables s'.tables ds (flows a))
      (piece i).work s)
    (sub : Submission) (s : Contents) : Program.Yields faults
      (fun sub' s' => sub'.failures = [] → sub.failures = [] ∧
        ∃ (y : Yield) (ds : List Detail) (parts : List (ι × σ)), sub' = sub.absorb y ∧
          parts.map Prod.fst = is ∧ (∀ p ∈ parts, Adds p.1 p.2) ∧
          y.Gains batch (is.flatMap params) s.tables s'.tables ds
            (parts.flatMap fun p => flows p.2))
      (workAll sub (is.map piece)) s := by
  induction is generalizing sub s with
  | nil =>
      apply Program.yields_done
      intro smooth
      refine ⟨smooth, {}, [], [], by simp [absorb], rfl, by simp, ⟨?_, ?_⟩, ?_, rfl, rfl, .refl _⟩
      · exact (List.append_nil _).symm
      · exact (List.append_nil _).symm
      · simp
  | cons i rest ih =>
      rw [List.map_cons, workAll]
      apply Program.Yields.bind (works i s)
      intro outcome s₁ ended
      cases outcome with
      | error failure =>
          -- A failure is kept to the end, so this is none of the runs without one.
          apply (ih (sub.fail { resource := (piece i).resource, failure }) s₁).mono
          intro sub' s' worked smooth
          have none := (worked smooth).1
          simp [fail] at none
      | ok y =>
          obtain ⟨ds, a, adds, gains⟩ := ended y rfl
          apply (ih (sub.absorb y) s₁).mono
          intro sub' s' worked smooth
          obtain ⟨before, y', ds', parts, rfl, all, others, gains'⟩ := worked smooth
          refine ⟨before, y.append y', ds ++ ds', (i, a) :: parts, ?_, ?_, ?_, gains.append gains'⟩
          · simp [absorb, Yield.append]
          · rw [List.map_cons, all]
          · exact List.forall_mem_cons.2 ⟨adds, others⟩

theorem ensures_workAll {faults : Faults} {ι : Type} {piece : ι → Piece} {serves : ι → Flow → Prop}
    (works : ∀ i past s, s.tables.Numbered → Program.Ensures faults
      (fun _ _ s' => Tables.Served serves [i] s.tables s'.tables) (piece i).work past s)
    (is : List ι) (sub : Submission) {past : List Step} {s : Contents}
    (numbered : s.tables.Numbered) :
    (workAll sub (is.map piece)).Ensures faults
      (fun _ _ s' => Tables.Served serves is s.tables s'.tables) past s := by
  induction is generalizing sub past s with
  | nil => exact .none rfl
  | cons i rest ih =>
      rw [List.map_cons, workAll]
      apply ((works i past s numbered).and_numbered numbered).bind
      · rintro past s' ⟨-, served⟩
        exact served.append (.none rfl)
      rintro past outcome s' ⟨numbered', served⟩
      have others : ∀ sub : Submission, (workAll sub (rest.map piece)).Ensures faults
          (fun _ _ s'' => Tables.Served serves (i :: rest) s.tables s''.tables) past s' :=
        fun sub => (ih sub numbered').mono fun _ _ _ more => served.append more
      cases outcome with
      | ok y => exact others (sub.absorb y)
      | error failure => exact others (sub.fail { resource := (piece i).resource, failure })

/-- The details and the flows are the same. -/
def SameWork (t t' : Tables) : Prop :=
  t'.details = t.details ∧ t'.flows = t.flows

theorem yields_createBatch {faults : Faults} (guard : Guard) (new : NewBatch) (s : Contents) :
    Work.Yields faults
      (fun b s' => b.id = s.tables.batches.nextId ∧ SameWork s.tables s'.tables)
      (Work.askStore guard (.createBatch new)) s := by
  intro numbered past outcome s' answered numbered'
  refine ⟨numbered', fun r ended b ok => ?_⟩
  cases ended
  have plain : (StoreCall.createBatch new).Plain := trivial
  rcases answered.plain_cases plain with ⟨_, -, rfl, -⟩ | ⟨rfl, rfl⟩
  · cases ok
  · cases ok
    exact ⟨rfl, rfl, rfl⟩

theorem yields_attach {faults : Faults} (batch : Int64) (sub : Submission) (s : Contents) :
    Work.Yields faults (fun sub' s' => sub' = sub ∧ SameWork s.tables s'.tables)
      (attach batch sub) s := by
  have attached : Work.Yields faults (fun _ s' => SameWork s.tables s'.tables)
      (Work.askStore (.timed "attach_flows") (.attachFlows batch sub.flows)) s := by
    intro numbered past outcome s' answered numbered'
    refine ⟨numbered', fun r ended _ ok => ?_⟩
    cases answered with
    | store catalog answered =>
        cases answered with
        | refused => exact ⟨rfl, rfl⟩
        | done =>
            simp only [Tables.carryOut, Tables.attachFlows]
            split <;> exact ⟨rfl, rfl⟩
  unfold attach
  apply attached.bind
  intro _ s' same
  have returned : Work.Yields faults (fun sub' s' => sub' = sub ∧ SameWork s.tables s'.tables)
      (pure sub) s' := Work.yields_pure ⟨rfl, same⟩
  exact returned

end Submission

end BalancerFlows
