import BalancerFlows.Proofs.Attachment
import BalancerFlows.Proofs.LocalOutcomes
import BalancerFlows.Proofs.Outlines
import BalancerFlows.Proofs.RuleBindings

/-!
# Jobs of one request

Where nothing is wrong, no job of a request gets in the way of another: a job for a load balancer
takes the lock of that load balancer and no other, and a local job leaves what the others ask the
inventory for. So each job ends as it would by itself before anything else was done, and its flow,
if it gets one, is the same but for ids of rows. Main statement: `jobs_isolated`.
-/
namespace BalancerFlows

/-- No load balancer has two jobs, and all local jobs change targets that have to be there, or none
of them does. -/
structure Routed.Apart (work : Routed) : Prop where
  once : (work.bound.map Prod.fst).Nodup
  alike : (∀ job ∈ work.unbound, job.Patches) ∨ ∀ job ∈ work.unbound, ¬job.Patches

namespace Routing

variable {faults : Faults} {s : Contents} {r : BatchRequest}

theorem apart_targetWork (c : Catalog) (ids : List String) {route : TargetRoute}
    (alike : (∀ group targets, (route.unbound group targets).Patches) ∨
      ∀ group targets, ¬(route.unbound group targets).Patches) :
    (targetWork c route ids).Apart where
  once := by
    rw [targetWork, List.map_map]
    exact Keyed.nodup_gather _ _
  alike := by
    rw [targetWork, List.forall_mem_map, List.forall_mem_map]
    exact alike.imp (fun all g _ => all g.1 g.2) fun all g _ => all g.1 g.2

theorem apart_bindingWork (groups : List BoundSpecs) : (bindingWork groups).Apart where
  once := by
    rw [bindingWork, List.map_map]
    exact Keyed.nodup_gather _ _
  alike := .inl (List.forall_mem_nil _)

theorem yields_apart (r : BatchRequest) (s : Contents) :
    Work.Yields faults (fun work _ => work.Apart) (route r) s := by
  have ofTargets (route : TargetRoute) (ids : List String)
      (alike : (∀ group targets, (route.unbound group targets).Patches) ∨
        ∀ group targets, ¬(route.unbound group targets).Patches) :
      Work.Yields faults (fun work _ => work.Apart) (targets r route ids) s := by
    apply (yields_targets r route ids).mono
    rintro _ s' ended work rfl
    obtain ⟨-, -, -, rfl⟩ := ended work rfl
    exact apart_targetWork s.catalog ids alike
  cases asked : r.command with
  | modifyWeight ids weight =>
      rw [route, asked]
      exact ofTargets _ ids (.inl fun _ _ => trivial)
  | modifyPort ids port =>
      rw [route, asked]
      exact ofTargets _ ids (.inl fun _ _ => trivial)
  | removeTargets ids =>
      rw [route, asked]
      exact ofTargets _ ids (.inr fun _ _ => id)
  | addTargets id specs =>
      rw [route, asked]
      refine Work.yields_after fun _ _ => Work.yields_after fun binding _ => ?_
      cases binding with
      | none =>
          exact Work.yields_pure ⟨List.nodup_nil, .inr (List.forall_mem_singleton.2 fun h => h)⟩
      | some binding =>
          exact Work.yields_pure ⟨List.nodup_singleton _, .inl (List.forall_mem_nil _)⟩
  | deleteListeners id ids =>
      rw [route, asked]
      refine Work.yields_after fun _ _ => Work.yields_after fun _ _ => ?_
      refine Work.yields_after fun _ _ => ?_
      exact Work.yields_pure ⟨List.nodup_singleton _, .inl (List.forall_mem_nil _)⟩
  | bindTargetGroups wanted =>
      apply (yields_route_bindings asked).mono
      rintro _ s' ended work rfl
      obtain ⟨groups, -, rfl⟩ := ended work rfl
      exact apart_bindingWork groups

end Routing

theorem Call.Reads.exec_eq (refused : Keyed String String) {c : Call} (reads : c.Reads)
    (s : Contents) : (c.exec refused s).2 = s := by
  cases c with
  | store c => exact reads.elim
  | catalog c =>
      simp only [exec]
      cases refused.get? c.name with
      | some message => rfl
      | none =>
          cases c with
          | createTargets news => exact reads.elim
          | updateTargets patches => exact reads.elim
          | deleteTargets ids => exact reads.elim
          | _ => rfl

/-- Flows, locks and batches are the same. -/
structure Tables.Aside (t t' : Tables) : Prop where
  flows : t'.flows = t.flows
  locks : t'.locks = t.locks
  batches : t'.batches = t.batches

@[refl] theorem Tables.Aside.refl (t : Tables) : t.Aside t :=
  ⟨rfl, rfl, rfl⟩

theorem Tables.Aside.trans {t t' t'' : Tables} (h : t.Aside t') (k : t'.Aside t'') : t.Aside t'' :=
  ⟨k.flows.trans h.flows, k.locks.trans h.locks, k.batches.trans h.batches⟩

theorem Call.Records.exec_aside (refused : Keyed String String) {c : Call} (records : c.Records)
    (s : Contents) : s.tables.Aside (c.exec refused s).2.tables := by
  cases c with
  | catalog c =>
      simp only [exec]
      cases refused.get? c.name with
      | some message => exact ⟨rfl, rfl, rfl⟩
      | none => exact ⟨rfl, rfl, rfl⟩
  | store c =>
      cases c with
      | createDetails news => exact ⟨rfl, rfl, rfl⟩
      | updateDetails patches => exact ⟨rfl, rfl, rfl⟩
      | _ => exact records.elim

/-- What a piece of work ends with: a failure, or at most one flow. -/
inductive Piece.Ends (refused : Keyed String String) (p : Piece) (s s' : Contents) :
    Option JobFailure → Option Flow → Prop
  | failed {failure : Failure} (ended : Program.exec refused p.work s = (some (.error failure), s'))
      (flows : s'.tables.flows = s.tables.flows) :
      Ends refused p s s' (some { resource := p.resource, failure }) none
  | settled {ids : List Int64}
      (ended : Program.exec refused p.work s = (some (.ok { settled := ids }), s'))
      (flows : s'.tables.flows = s.tables.flows) : Ends refused p s s' none none
  | built {f : Flow} (ended : Program.exec refused p.work s = (some (.ok { flows := [f.id] }), s'))
      (flows : s'.tables.flows.values = s.tables.flows.values ++ [f]) :
      Ends refused p s s' none (some f)

namespace Submission

variable {refused : Keyed String String}

/-- What the work on a batch has added to a submission, and to what is stored. -/
structure Gained (sub sub' : Submission) (s s' : Contents) (failures : List JobFailure)
    (fs : List Flow) : Prop where
  batch : sub'.batch = sub.batch
  failures : sub'.failures = sub.failures ++ failures
  listed : sub'.flows = sub.flows ++ fs.map Flow.id
  flows : s'.tables.flows.values = s.tables.flows.values ++ fs

theorem Gained.refl (sub : Submission) (s : Contents) : Gained sub sub s s [] [] :=
  ⟨rfl, (List.append_nil _).symm, (List.append_nil _).symm, (List.append_nil _).symm⟩

theorem Gained.trans {sub sub₁ sub₂ : Submission} {s s₁ s₂ : Contents}
    {failures failures' : List JobFailure} {fs fs' : List Flow}
    (h : Gained sub sub₁ s s₁ failures fs) (k : Gained sub₁ sub₂ s₁ s₂ failures' fs') :
    Gained sub sub₂ s s₂ (failures ++ failures') (fs ++ fs') where
  batch := k.batch.trans h.batch
  failures := by rw [k.failures, h.failures, List.append_assoc]
  listed := by rw [k.listed, h.listed, List.map_append, List.append_assoc]
  flows := by rw [k.flows, h.flows, List.append_assoc]

theorem exec_workAll_cons {p : Piece} {s s' : Contents} {failure : Option JobFailure}
    {built : Option Flow} (ends : p.Ends refused s s' failure built) (sub : Submission)
    (rest : List Piece) : ∃ sub',
      (workAll sub (p :: rest)).exec refused s = (workAll sub' rest).exec refused s' ∧
      Gained sub sub' s s' failure.toList built.toList := by
  rw [workAll]
  cases ends with
  | failed ended flows =>
      exact ⟨_, Program.exec_bind_of_some ended, rfl, rfl, (List.append_nil _).symm,
        by rw [flows]; exact (List.append_nil _).symm⟩
  | settled ended flows =>
      exact ⟨_, Program.exec_bind_of_some ended, rfl, (List.append_nil _).symm, rfl,
        by rw [flows]; exact (List.append_nil _).symm⟩
  | built ended flows =>
      exact ⟨_, Program.exec_bind_of_some ended, rfl, (List.append_nil _).symm, rfl, flows⟩

/-- Pieces of work each of which ends in a way of its own, whatever the others before it did. -/
theorem exec_workAll {ι : Type} {piece : ι → Piece} {I : List ι → Contents → Prop}
    {failing : ι → Option JobFailure} {Q : ι → Option Flow → Prop}
    (step : ∀ i rest s, I (i :: rest) s →
      (Program.exec refused (piece i).work s).2.tables.Fits → ∃ built s',
        (piece i).Ends refused s s' (failing i) built ∧ Q i built ∧ I rest s')
    {items : List ι} {sub : Submission} {s : Contents} (before : I items s)
    (fits : ((workAll sub (items.map piece)).exec refused s).2.tables.Fits) :
    ∃ sub' s' builts, (workAll sub (items.map piece)).exec refused s = (some sub', s') ∧
      I [] s' ∧ List.Forall₂ Q items builts ∧
      Gained sub sub' s s' (items.filterMap failing) builts.reduceOption := by
  induction items generalizing sub s with
  | nil => exact ⟨sub, s, [], rfl, before, .nil, .refl sub s⟩
  | cons i rest ih =>
      rw [List.map_cons] at fits ⊢
      obtain ⟨built, s₁, ends, own, after⟩ := step i rest s before (Program.fits_of_exec_bind fits)
      obtain ⟨sub₁, goes_on, gained⟩ := exec_workAll_cons ends sub (rest.map piece)
      rw [goes_on] at fits ⊢
      obtain ⟨sub', s', builts, ended, done, others, gained'⟩ := ih after fits
      refine ⟨sub', s', built :: builts, ended, done, .cons own others, ?_⟩
      have failures : (i :: rest).filterMap failing =
          (failing i).toList ++ rest.filterMap failing := by
        rw [List.filterMap_cons]
        cases failing i <;> rfl
      have flows : (built :: builts).reduceOption = built.toList ++ builts.reduceOption := by
        cases built <;> rfl
      rw [failures, flows]
      exact gained.trans gained'

end Submission

/-- The failure that a piece of work ends with where this is stored. -/
def Piece.flaw (refused : Keyed String String) (s : Contents) (p : Piece) : Option JobFailure :=
  match (Program.exec refused p.work s).1 with
  | some (.error failure) => some { resource := p.resource, failure }
  | _ => none

section LocalJobs

variable {refused : Keyed String String}

theorem Submission.exec_localPiece (scope : DetailScope) (job : LocalJob) (s : Contents) :
    Program.exec refused (localPiece scope job).work s =
      ((Program.exec refused (runLocalJob scope job) s).1.map
        (Except.map fun ids => { settled := ids }),
      (Program.exec refused (runLocalJob scope job) s).2) :=
  Work.exec_map ..

theorem Submission.flaw_localPiece (scope : DetailScope) (job : LocalJob) (s : Contents) :
    (localPiece scope job).flaw refused s =
      match job.verdict scope.operation refused s with
      | .error failure => some { resource := job.group, failure }
      | .ok _ => none := by
  obtain ⟨r, t, c, ended, outcome, -⟩ := LocalJob.exec_run refused scope job s
  rw [Piece.flaw, exec_localPiece, ended, ← outcome]
  cases r with
  | error failure => rfl
  | ok ids => rfl

theorem Submission.flaw_localPiece_eq (scope : DetailScope) (job : LocalJob) {s s' : Contents}
    (same : job.Patches → s.catalog.targets.keys = s'.catalog.targets.keys) :
    (localPiece scope job).flaw refused s = (localPiece scope job).flaw refused s' := by
  rw [flaw_localPiece, flaw_localPiece, LocalJob.verdict_eq same]

/-- A local job ends as it would anywhere else where the same targets are. -/
theorem Submission.ends_localPiece (scope : DetailScope) (job : LocalJob) {s₀ s : Contents}
    (same : job.Patches → s.catalog.targets.keys = s₀.catalog.targets.keys) : ∃ s',
      (localPiece scope job).Ends refused s s' ((localPiece scope job).flaw refused s₀) none ∧
      s.tables.Aside s'.tables ∧
      (job.Patches → s'.catalog.targets.keys = s.catalog.targets.keys) := by
  obtain ⟨r, t, c, ended, outcome, kept⟩ := LocalJob.exec_run refused scope job s
  have aside := (LocalChange.asks_runLocalJob scope job).makes.exec
    (I := fun s' => s.tables.Aside s'.tables)
    (fun c s' records before => before.trans (records.exec_aside refused s')) (.refl _)
  rw [ended] at aside
  refine ⟨_, ?_, aside, kept⟩
  rw [flaw_localPiece, ← LocalJob.verdict_eq same, ← outcome]
  have ended := (exec_localPiece scope job s).trans (by rw [ended])
  cases r with
  | error failure => exact .failed ended aside.flows
  | ok ids => exact .settled ended aside.flows

/-- What holds between local jobs: the others find the targets they are to change. -/
def Submission.Undisturbing (s₀ : Contents) (jobs : List LocalJob) (s : Contents) : Prop :=
  s₀.tables.Aside s.tables ∧ ((∀ job ∈ jobs, ¬job.Patches) ∨
    (∀ job ∈ jobs, job.Patches) ∧ s.catalog.targets.keys = s₀.catalog.targets.keys)

theorem reduceOption_eq_nil {ι α : Type} {items : List ι} {builts : List (Option α)}
    (none : List.Forall₂ (fun _ built => built = none) items builts) :
    builts.reduceOption = [] := by
  induction none with
  | nil => rfl
  | cons first _ ih =>
      rw [first]
      exact ih

theorem Submission.exec_localPieces (scope : DetailScope) {jobs : List LocalJob} {s : Contents}
    (alike : (∀ job ∈ jobs, job.Patches) ∨ ∀ job ∈ jobs, ¬job.Patches) (sub : Submission)
    (fits : ((workAll sub (jobs.map (localPiece scope))).exec refused s).2.tables.Fits) :
    ∃ sub' s', (workAll sub (jobs.map (localPiece scope))).exec refused s = (some sub', s') ∧
      s.tables.Aside s'.tables ∧ Gained sub sub' s s'
        (jobs.filterMap fun job => (localPiece scope job).flaw refused s) [] := by
  have step : ∀ job rest s', Undisturbing s (job :: rest) s' →
      (Program.exec refused (localPiece scope job).work s').2.tables.Fits → ∃ built s'',
        (localPiece scope job).Ends refused s' s'' ((localPiece scope job).flaw refused s) built ∧
          built = none ∧ Undisturbing s rest s'' := by
    rintro job rest s' ⟨aside, alike⟩ -
    -- Jobs that change targets keep them all, and the others do not ask which there are.
    rcases alike with others | ⟨patching, same⟩
    · obtain ⟨plain, others⟩ := List.forall_mem_cons.1 others
      have same : job.Patches → s'.catalog.targets.keys = s.catalog.targets.keys :=
        fun patches => absurd patches plain
      obtain ⟨s'', ends, aside', -⟩ := ends_localPiece scope job same
      exact ⟨none, s'', ends, rfl, aside.trans aside', .inl others⟩
    · obtain ⟨patches, others⟩ := List.forall_mem_cons.1 patching
      obtain ⟨s'', ends, aside', kept⟩ := ends_localPiece scope job fun _ => same
      exact ⟨none, s'', ends, rfl, aside.trans aside', .inr ⟨others, (kept patches).trans same⟩⟩
  have before : Undisturbing s jobs s := ⟨.refl _, alike.symm.imp id fun all => ⟨all, rfl⟩⟩
  obtain ⟨sub', s', builts, ended, ⟨aside, -⟩, none, gained⟩ := exec_workAll step before fits
  rw [reduceOption_eq_nil none] at gained
  exact ⟨sub', s', ended, aside, gained⟩

end LocalJobs

section Balancers

variable {refused : Keyed String String} {settings : Settings} {r : BatchRequest} {s : Contents}

theorem Construction.exec_buildJob_of_unplanned {scope : FlowScope} {job : Job} {failure : Failure}
    (unplanned : job.planUnder scope.resource.id settings.limits = .error failure) :
    Program.exec refused (buildJob settings scope job) s = (some (.error failure), s) := by
  rw [buildJob, unplanned]
  rfl

theorem Construction.exec_buildJob_of_planned {scope : FlowScope} {job : Job} {plan : Plan}
    (planned : job.planUnder scope.resource.id settings.limits = .ok plan) :
    Program.exec refused (buildJob settings scope job) s =
      Program.exec refused (build scope settings.retry plan) s := by
  rw [buildJob, planned]
  rfl

/-- Why a job for a load balancer is refused: its plan is, or the load balancer has an owner. -/
def Submission.refusal (settings : Settings) (locks : Keyed ResourceKey Lock)
    (entry : String × Job) : Option Failure :=
  match entry.2.planUnder entry.1 settings.limits with
  | .error failure => some failure
  | .ok _ => (locks.get? { id := entry.1, kind := .loadBalancer }).map Lock.busy

/-- The failure that is noted for a job for a load balancer, if it is refused. -/
def Submission.flawOf (settings : Settings) (locks : Keyed ResourceKey Lock)
    (entry : String × Job) : Option JobFailure :=
  (refusal settings locks entry).map fun failure => { resource := entry.1, failure }

/-- A refused job leaves everything as it was. -/
theorem Submission.exec_buildJob_of_refused (refused : Keyed String String) (r : BatchRequest)
    {entry : String × Job} {failure : Failure}
    (refuses : refusal settings s.tables.locks entry = some failure) (batch : Int64) :
    Program.exec refused
        (Construction.buildJob settings (flowScope r batch entry.1) entry.2) s =
      (some (.error failure), s) := by
  unfold refusal at refuses
  cases planned : entry.2.planUnder entry.1 settings.limits with
  | error failure' =>
      rw [planned] at refuses
      cases refuses
      exact Construction.exec_buildJob_of_unplanned planned
  | ok plan =>
      rw [planned] at refuses
      obtain ⟨owner, owned, rfl⟩ := Option.map_eq_some_iff.1 refuses
      rw [Construction.exec_buildJob_of_planned planned]
      exact Construction.exec_build_of_owned owned

theorem Submission.unrefused_iff {locks : Keyed ResourceKey Lock} {entry : String × Job} :
    refusal settings locks entry = none ↔
      (∃ plan, entry.2.planUnder entry.1 settings.limits = .ok plan) ∧
        locks.get? { id := entry.1, kind := .loadBalancer } = none := by
  unfold refusal
  cases entry.2.planUnder entry.1 settings.limits with
  | error failure => simp
  | ok plan => simp

/-- The flow is what a job comes to, whose plan has no more calls than there are ids for tasks. -/
def Submission.Outlined (settings : Settings) (r : BatchRequest) (entry : String × Job)
    (f : Flow) : Prop :=
  ∃ plan, entry.2.planUnder entry.1 settings.limits = .ok plan ∧
    plan.calls.length + 1 < 2 ^ 64 ∧
    ∀ batch, f.outline = Construction.outline (flowScope r batch entry.1) settings.retry plan

/-- A job gets a flow just if it is not refused. -/
def Submission.Deserved (settings : Settings) (r : BatchRequest) (locks : Keyed ResourceKey Lock)
    (entry : String × Job) : Option Flow → Prop
  | none => refusal settings locks entry ≠ none
  | some f => refusal settings locks entry = none ∧ Outlined settings r entry f

/-- A job that is not refused comes to a flow, and takes the lock of its load balancer. -/
theorem Submission.exec_buildJob_of_unrefused (refused : Keyed String String) (r : BatchRequest)
    (batch : Int64) {entry : String × Job}
    (unrefused : refusal settings s.tables.locks entry = none) {plan : Plan}
    (planned : entry.2.planUnder entry.1 settings.limits = .ok plan)
    (room : plan.calls.length + 1 < 2 ^ 64) :
    Construction.Builds (flowScope r batch entry.1) settings.retry plan s
      (Program.exec refused
        (Construction.buildJob settings (flowScope r batch entry.1) entry.2) s).1
      (Program.exec refused
        (Construction.buildJob settings (flowScope r batch entry.1) entry.2) s).2 := by
  rw [Construction.exec_buildJob_of_planned planned]
  have complete := Job.plan_complete planned
  exact Construction.exec_build (unrefused_iff.1 unrefused).2 complete.nonempty room

/-- What holds between jobs for load balancers: those that still have to be worked on are owned as
they were at first. -/
structure Submission.Unclaimed (settings : Settings) (t₀ : Tables) (entries : List (String × Job))
    (s : Contents) : Prop where
  numbered : s.tables.Numbered
  once : (entries.map Prod.fst).Nodup
  locks : ∀ entry ∈ entries, refusal settings s.tables.locks entry = refusal settings t₀.locks entry
  batches : s.tables.batches = t₀.batches

theorem Submission.exec_boundPiece (batch : Int64) (entry : String × Job) :
    Program.exec refused (boundPiece settings r batch entry).work s =
      ((Program.exec refused
          (Construction.buildJob settings (flowScope r batch entry.1) entry.2) s).1.map
        (Except.map fun built => { flows := [built.flow] }),
      (Program.exec refused
        (Construction.buildJob settings (flowScope r batch entry.1) entry.2) s).2) :=
  Work.exec_map ..

theorem Submission.ends_boundPiece {t₀ : Tables} {batch : Int64} {entry : String × Job}
    {rest : List (String × Job)} (before : Unclaimed settings t₀ (entry :: rest) s)
    (fits : (Program.exec refused (boundPiece settings r batch entry).work s).2.tables.Fits) :
    ∃ built s', (boundPiece settings r batch entry).Ends refused s s'
        (flawOf settings t₀.locks entry) built ∧
      Deserved settings r t₀.locks entry built ∧
      Unclaimed settings t₀ rest s' := by
  obtain ⟨here, others⟩ := List.forall_mem_cons.1 before.locks
  obtain ⟨new, once⟩ := List.nodup_cons.1 before.once
  rw [exec_boundPiece] at fits
  rw [flawOf, ← here]
  cases refuses : refusal settings s.tables.locks entry with
  | some failure =>
      have ended := exec_buildJob_of_refused refused r refuses batch
      refine ⟨none, s, .failed ?_ rfl, ?_, before.numbered, once, others, before.batches⟩
      · rw [exec_boundPiece, ended]
        rfl
      · rw [Deserved, ← here, refuses]
        exact Option.some_ne_none _
  | none =>
      obtain ⟨⟨plan, planned⟩, free⟩ := unrefused_iff.1 refuses
      -- The ids of tasks last, since those of details do and each call has a detail.
      have room : plan.calls.length + 1 < 2 ^ 64 := by
        rw [Construction.exec_buildJob_of_planned planned] at fits
        exact Construction.room_of_exec_build (Job.plan_complete planned).filled free fits
      have builds := exec_buildJob_of_unrefused refused r batch refuses planned room
      have numbered := Program.numbered_exec _ before.numbered fits
      obtain ⟨taskCount, details, ended⟩ := builds.built
      obtain ⟨row, flows, outlined⟩ := builds.flow
      refine ⟨some { row.store s.tables.flows.nextId with state := .pending }, _, .built ?_ ?_,
        ⟨here.symm.trans refuses, plan, planned, room, fun batch => outlined⟩, numbered, once,
        fun other mem => ?_, builds.batches.trans before.batches⟩
      · rw [exec_boundPiece, ended]
        rfl
      · rw [flows]
        exact Tables.values_withFlow before.numbered.flows.nextId_notMem row .pending
      · -- Only the lock of this load balancer is new, and no job that is left is for it.
        have apart : (flowScope r batch entry.1).resource ≠
            { id := other.1, kind := .loadBalancer } := by
          intro same
          have same : entry.1 = other.1 := congrArg ResourceKey.id same
          exact new (same ▸ List.mem_map_of_mem mem)
        rw [← others other mem, builds.locks, refusal, Keyed.get?_put_of_ne _ apart, refusal]

theorem Submission.exec_boundPieces {entries : List (String × Job)} (numbered : s.tables.Numbered)
    (once : (entries.map Prod.fst).Nodup) {batch : Int64} {sub : Submission}
    (fits :
      ((workAll sub (entries.map (boundPiece settings r batch))).exec refused s).2.tables.Fits) :
    ∃ sub' s' builts, (workAll sub (entries.map (boundPiece settings r batch))).exec refused s =
        (some sub', s') ∧
      s'.tables.batches = s.tables.batches ∧
      List.Forall₂ (Deserved settings r s.tables.locks) entries builts ∧
      Gained sub sub' s s' (entries.filterMap (flawOf settings s.tables.locks))
        builts.reduceOption := by
  have before : Unclaimed settings s.tables entries s := ⟨numbered, once, fun _ _ => rfl, rfl⟩
  obtain ⟨sub', s', builts, ended, done, all, gained⟩ :=
    exec_workAll (fun entry rest s' => ends_boundPiece) before fits
  exact ⟨sub', s', builts, ended, done.batches, all, gained⟩

/-- Local jobs and jobs for load balancers that are apart do not get in each other's way. -/
theorem Submission.exec_pieces {work : Routed} (apart : work.Apart) (numbered : s.tables.Numbered)
    {batch : Int64} {sub : Submission} (same : sub.batch = batch)
    (fits : ((workAll sub (pieces settings r work batch)).exec refused s).2.tables.Fits) :
    ∃ sub' s' builts, (workAll sub (pieces settings r work batch)).exec refused s =
        (some sub', s') ∧
      s'.tables.batches = s.tables.batches ∧
      List.Forall₂ (Deserved settings r s.tables.locks) work.bound builts ∧
      Gained sub sub' s s'
        (work.unbound.filterMap
            (fun job => (localPiece (localScope r batch) job).flaw refused s) ++
          work.bound.filterMap (flawOf settings s.tables.locks))
        builts.reduceOption := by
  subst same
  -- The local jobs come first, and leave the locks as they were, which is all the others look at.
  have loops := workAll_then_runJobs settings r sub
    (work.unbound.map (localPiece (localScope r sub.batch))) work.bound
  rw [pieces, ← loops] at fits ⊢
  have first := Program.fits_of_exec_bind fits
  have numbered₁ := Program.numbered_exec _ numbered first
  obtain ⟨sub₁, s₁, ended, aside, gained⟩ := exec_localPieces _ apart.alike sub first
  rw [ended] at numbered₁
  rw [Program.exec_bind_of_some ended, runJobs_eq] at fits ⊢
  obtain ⟨sub', s', builts, ended', batches, deserved, gained'⟩ :=
    exec_boundPieces numbered₁ apart.once fits
  rw [aside.locks] at deserved gained'
  exact ⟨sub', s', builts, ended', batches.trans aside.batches, deserved, gained.trans gained'⟩

theorem Submission.exec_attach (refused : Keyed String String) {batch : Int64} {b : Batch}
    (sub : Submission) (found : s.tables.batches.get? batch = some b) : ∃ t,
      Program.exec refused (attach batch sub) s = (some (.ok sub), { s with tables := t }) ∧
      t.flows = s.tables.flows := by
  have attached : s.tables.carryOut (.attachFlows batch sub.flows) = (.ok (), { s.tables with
      batches := s.tables.batches.update batch fun b => { b with flows := sub.flows } }) := by
    rw [Tables.carryOut, Tables.attachFlows, found]
  exact ⟨_, Work.exec_bind_of_ok (Work.exec_askStore_of_ok attached), rfl⟩

theorem Submission.exec_process {work : Routed} (checked : r.command.check = .ok ())
    (routed : Program.exec refused (Routing.route r) s = (some (.ok work), s))
    (apart : work.Apart) (numbered : s.tables.Numbered)
    (fits : (Program.exec refused (process settings r) s).2.tables.Fits) :
    ∃ sub s' builts, Program.exec refused (process settings r) s = (some (.ok sub), s') ∧
      List.Forall₂ (Deserved settings r s.tables.locks) work.bound builts ∧
      sub.flows = builts.reduceOption.map Flow.id ∧
      s'.tables.flows.values = s.tables.flows.values ++ builts.reduceOption ∧
      sub.failures = work.unbound.filterMap
          (fun job => (localPiece (localScope r sub.batch) job).flaw refused s) ++
        work.bound.filterMap (flawOf settings s.tables.locks) := by
  let batch := s.tables.batches.nextId
  let s₁ : Contents := { s with tables :=
    { s.tables with batches := withBatch settings r [] s.tables.batches } }
  have prepared : Program.exec refused (prepare settings r) s = (some (.ok (work, batch)), s₁) := by
    rw [prepare, checked]
    exact Work.exec_bind_of_ok routed
  rw [process_eq, Work.exec_within, Submission.carryOut, Work.exec_bind_of_ok prepared, workOn]
    at fits ⊢
  have worked := Program.fits_of_exec_bind fits
  rw [Work.exec_lift] at worked
  have numbered₁ : s₁.tables.Numbered := Tables.numbered_carryOut numbered
    (.createBatch (newBatch settings r)) (worked.of_later (Program.later_exec _ s₁))
  obtain ⟨sub, s₂, builts, ended, batches, deserved, gained⟩ :=
    exec_pieces apart numbered₁ rfl worked
  have own : sub.batch = batch := gained.batch
  have found : s₂.tables.batches.get? batch = some (batchWith settings r [] batch) := by
    rw [batches]
    exact get?_withBatch settings r [] s.tables.batches
  obtain ⟨t, attached, flows⟩ := exec_attach refused sub found
  have lifted : Program.exec refused (liftM (workAll { batch } (pieces settings r work batch)) :
      Work Submission) s₁ = (some (.ok sub), s₂) := by
    rw [Work.exec_lift, ended]
    rfl
  refine ⟨sub, _, builts, (Work.exec_bind_of_ok lifted).trans attached, deserved, gained.listed,
    (congrArg Table.values flows).trans gained.flows, ?_⟩
  rw [own]
  refine gained.failures.trans (congrArg (· ++ _) (List.filterMap_congr fun job _ => ?_))
  exact flaw_localPiece_eq _ job fun _ => rfl

end Balancers

/-- The failure that a piece of work ends with if it is all that is done. -/
def Piece.failureAlone (w : World) (p : Piece) : Option JobFailure :=
  match (Program.run none p.work w).1 with
  | some (.error failure) => some { resource := p.resource, failure }
  | _ => none

theorem Piece.failureAlone_eq {w : World} (calm : w.store.Calm) (p : Piece) :
    p.failureAlone w = p.flaw w.catalogFaults w.contents := by
  rw [failureAlone, flaw, ← Program.run_calm calm]

namespace Submission

variable {settings : Settings} {r : BatchRequest} {w : World}

/-- What has become of the job for a load balancer is what would have become of it by itself,
whatever the batch. A flow has the same outline then. -/
inductive ComesTo (settings : Settings) (r : BatchRequest) (w : World) (entry : String × Job) :
    Option Flow → Prop
  | flow {plan : Plan} {f : Flow}
      (planned : entry.2.planUnder entry.1 settings.limits = .ok plan)
      (free : w.store.tables.locks.get? { id := entry.1, kind := .loadBalancer } = none)
      (pending : f.state = .pending) (on : f.balancer? = some entry.1)
      (outline : ∀ batch,
        f.outline = Construction.outline (flowScope r batch entry.1) settings.retry plan)
      (alone : ∀ batch, ∃ built w₀ f₀, Program.run none
          (Construction.buildJob settings (flowScope r batch entry.1) entry.2) w =
            (some (.ok built), w₀) ∧
        w₀.store.tables.flows.get? built.flow = some f₀ ∧ f₀.outline = f.outline) :
      ComesTo settings r w entry (some f)
  | refused {failure : Failure}
      (refuses : refusal settings w.store.tables.locks entry = some failure)
      (alone : ∀ batch, (Program.run none
          (Construction.buildJob settings (flowScope r batch entry.1) entry.2) w).1 =
        some (.error failure)) :
      ComesTo settings r w entry none

theorem Deserved.comesTo (calm : w.store.Calm) {entry : String × Job} {built : Option Flow}
    (deserved : Deserved settings r w.store.tables.locks entry built) :
    ComesTo settings r w entry built := by
  cases built with
  | none =>
      obtain ⟨failure, refuses⟩ := Option.ne_none_iff_exists'.1 deserved
      refine .refused refuses fun batch => ?_
      have ended := exec_buildJob_of_refused (s := w.contents) w.catalogFaults r refuses batch
      exact (Program.run_of_exec calm ended).1
  | some f =>
      obtain ⟨unrefused, plan, planned, room, outline⟩ := deserved
      refine .flow planned (unrefused_iff.1 unrefused).2 (congrArg Flow.state (outline 0)) ?_
        outline fun batch => ?_
      · exact (congrArg Flow.balancer? (outline 0)).trans (FlowDraft.shareData_balancer _)
      · obtain ⟨⟨taskCount, details, ended⟩, ⟨new, flows, outline'⟩, -, -⟩ :=
          exec_buildJob_of_unrefused (s := w.contents) w.catalogFaults r batch unrefused planned
            room
        obtain ⟨returned, after⟩ := Program.run_of_exec calm (Prod.ext ended rfl)
        refine ⟨_, _, _, Prod.ext returned rfl, ?_, outline'.trans (outline batch).symm⟩
        have flows := (congrArg (fun s => s.tables.flows) after).trans flows
        exact (congrArg (Table.get? · _) flows).trans ((Tables.get?_withFlow ..).trans (if_pos rfl))

/-- Where nothing is wrong with the store, and a request gets past its check and its routing, each
load balancer has one job, which gets a flow just if its plan succeeds and the load balancer had no
owner before. Flows and failures are those that each job would have come to by itself, in the order
of the jobs, and nothing else fails. -/
theorem jobs_isolated {work : Routed} {w₁ w' : World}
    {result : Option (Except Failure Submission)} (reachable : w.store.tables.Reachable)
    (calm : w.store.Calm) (checked : r.command.check = .ok ())
    (routed : Program.run none (Routing.route r) w = (some (.ok work), w₁))
    (ran : Program.run none (process settings r) w = (result, w'))
    (fits : w'.store.tables.Fits) :
    (work.bound.map Prod.fst).Nodup ∧ ∃ s builts, result = some (.ok s) ∧
      List.Forall₂ (ComesTo settings r w) work.bound builts ∧
      s.flows = builts.reduceOption.map Flow.id ∧
      w'.store.tables.flows.values = w.store.tables.flows.values ++ builts.reduceOption ∧
      s.failures = (work.unbound.filterMap fun job =>
          (localPiece (localScope r s.batch) job).failureAlone w) ++
        work.bound.filterMap fun entry => (refusal settings w.store.tables.locks entry).map
          fun failure => { resource := entry.1, failure } := by
  have numbered := reachable.numbered (Program.fits_of_run ran fits)
  have routing := Program.run_calm calm (Routing.route r)
  have processing := Program.run_calm calm (process settings r)
  rw [routed] at routing
  rw [ran] at processing
  -- Routing changes nothing, so what it led to is the work on what was stored before.
  have same : w₁.contents = w.contents := by
    have unchanged := (Routing.asks_route r).makes.exec (I := fun s => s = w.contents)
      (fun c s reads same => (reads.exec_eq w.catalogFaults s).trans same) rfl
    rwa [← routing] at unchanged
  have tables : w₁.store.tables = w.store.tables := congrArg Contents.tables same
  have fits₁ : w₁.store.tables.Fits := tables ▸ numbered.toFits
  have apart := (Routing.yields_apart r w.contents).run numbered routed fits₁ work rfl
  rw [same] at routing
  obtain ⟨sub, s', builts, ended, deserved, listed, flows, failures⟩ :=
    exec_process checked routing.symm apart numbered (by rw [← processing]; exact fits)
  rw [ended, Prod.mk.injEq] at processing
  obtain ⟨rfl, after⟩ := processing
  have flows := (congrArg (fun s => s.tables.flows.values) after).trans flows
  have fates := deserved.imp fun _ _ => Deserved.comesTo calm
  refine ⟨apart.once, sub, builts, rfl, fates, listed, flows, ?_⟩
  rw [failures]
  simp only [Piece.failureAlone_eq calm]
  rfl

/-- Two load balancers, of which a flow that binds a group owns the first. -/
def firstOwned : World :=
  (Program.run none (process {} (bindingOf [wantedOn "1" "tg-1"])) (World.insert {} twoBalancers)).2

/-- A group is wanted on each of the two. -/
def onBoth : BatchRequest :=
  bindingOf [wantedOn "1" "tg-1", wantedOn "2" "tg-2"]

def jobOn (number group : String) : String × Job :=
  ("lb-" ++ number, .bindTargetGroups [{ binding := wantedOn number group, targets := [] }])

/-- The owned one of two load balancers gets no flow, and the other the one it would get alone. -/
theorem jobs_isolated_firstOwned : ∃ w' s f,
    Program.run none (process {} onBoth) firstOwned = (some (.ok s), w') ∧
      ComesTo {} onBoth firstOwned (jobOn "1" "tg-1") none ∧
      ComesTo {} onBoth firstOwned (jobOn "2" "tg-2") (some f) ∧
      s.flows = [f.id] ∧ s.failures.map JobFailure.resource = ["lb-1"] := by
  have reachable : firstOwned.store.tables.Reachable :=
    Program.reachable_run (w := World.insert {} twoBalancers) none _ .empty
  have routed : (Program.run none (Routing.route onBoth) firstOwned).1 =
      some (.ok { bound := [jobOn "1" "tg-1", jobOn "2" "tg-2"] }) := by
    decide +kernel
  have fits : (Program.run none (process {} onBoth) firstOwned).2.store.tables.Fits := by
    decide +kernel
  have calm : firstOwned.store.Calm := ⟨⟨by decide +kernel, by decide +kernel⟩, by decide +kernel⟩
  obtain ⟨-, s, builts, ended, jobs, flows, -, failures⟩ := jobs_isolated reachable calm rfl
    (Prod.ext routed rfl) (Prod.ext rfl rfl) fits
  have owned :
      firstOwned.store.tables.locks.get? { id := "lb-1", kind := .loadBalancer } ≠ none := by
    decide +kernel
  have spare : refusal {} firstOwned.store.tables.locks (jobOn "2" "tg-2") = none := by
    decide +kernel
  obtain _ | ⟨first, _ | ⟨second, _ | _⟩⟩ := jobs
  cases first with
  | flow planned free => exact absurd free owned
  | refused refuses alone =>
      cases second with
      | refused refuses' _ =>
          rw [spare] at refuses'
          cases refuses'
      | flow planned free pending on outline alone' =>
          refine ⟨_, s, _, Prod.ext ended rfl, .refused refuses alone,
            .flow planned free pending on outline alone', flows, ?_⟩
          rw [failures]
          simp only [List.filterMap_nil, List.nil_append, List.filterMap_cons, refuses, spare]
          rfl

end Submission

end BalancerFlows
