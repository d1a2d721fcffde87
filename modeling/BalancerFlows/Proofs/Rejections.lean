import BalancerFlows.Proofs.Isolation
import BalancerFlows.Proofs.Objections
import BalancerFlows.Proofs.Racing
import BalancerFlows.Proofs.Resolution

/-!
# What requests are rejected for after all

What the check and the routing of a request let pass becomes proper jobs: values are in range, there
is something to do in each group, and each group is under its load balancer. So where nothing is
refused, the later checks can only find that something comes twice, and a construction can only find
that its load balancer has an owner. Main statement: `Submission.rejected_as_expected`.
-/
namespace BalancerFlows

namespace Command

/-- What a command has to be for it to be looked at further. -/
def Meant : Command → Prop
  | modifyWeight targets weight => targets ≠ [] ∧ weight ≤ 100
  | modifyPort targets port => targets ≠ [] ∧ port ≠ 0
  | removeTargets targets => targets ≠ []
  | addTargets group specs => group ≠ "" ∧ specs ≠ [] ∧ ∀ s ∈ specs, s.Fit
  | deleteListeners balancer listeners => balancer ≠ "" ∧ listeners ≠ []
  | bindTargetGroups bindings => bindings ≠ []

theorem decides_requireItems {α : Type} (name : String) (items : List α) :
    Decides (requireItems name items) (items ≠ []) :=
  (Decides.past (.invalidParameter _) trivial fun _ => .ok ()).congr (by simp)

theorem decides_requireId (name id : String) : Decides (requireId name id) (id ≠ "") :=
  (Decides.past (.invalidParameter _) trivial fun _ => .ok ()).congr (by simp)

theorem decides_check (command : Command) : Decides command.check command.Meant := by
  cases command with
  | modifyWeight targets weight =>
      exact (decides_requireItems _ targets).bind fun _ _ => Plan.decides_checkWeight weight
  | modifyPort targets port =>
      exact (decides_requireItems _ targets).bind fun _ _ => Plan.decides_checkPort port
  | removeTargets targets => exact decides_requireItems _ targets
  | addTargets group specs =>
      exact (decides_requireId _ group).bind fun _ _ =>
        (decides_requireItems _ specs).bind fun _ _ => Plan.decides_checkSpecs specs
  | deleteListeners balancer listeners =>
      exact (decides_requireId _ balancer).bind fun _ _ => decides_requireItems _ listeners
  | bindTargetGroups bindings => exact decides_requireItems _ bindings

/-- What the check of a command cannot see: a listener of another load balancer, or a target of a
group to be bound that no load balancer would take. -/
def Dubious (c : Catalog) : Command → Prop
  | deleteListeners balancer listeners =>
      ∃ id ∈ listeners, ∃ l, c.listeners.get? id = some l ∧ l.balancer ≠ balancer
  | bindTargetGroups bindings => ∃ b ∈ bindings, ∃ t ∈ c.targets.values, t.group = b.group ∧
      (t.instanceId = "" ∨ t.port = 0 ∨ 100 < t.weight)
  | _ => False

end Command

/-- The jobs are proper and find their targets, unless the request has a flaw. -/
structure Routed.Proper (r : BatchRequest) (c : Catalog) (work : Routed) : Prop where
  unbound : ∀ job ∈ work.unbound, job.Proper r.command.operation ∧ job.Finds c
  bound : ∀ entry ∈ work.bound, entry.2.Proper entry.1 ∨ r.command.Dubious c

namespace Routing

variable {faults : Faults} {s : Contents} {r : BatchRequest}

theorem proper_targetWork {c : Catalog} (orderly : c.Orderly) (ids : List String)
    {route : TargetRoute}
    (unbound : ∀ group targets, (∀ t ∈ targets, t.id ∈ c.targets.keys) →
      (route.unbound group targets).Proper r.command.operation ∧
        (route.unbound group targets).Finds c)
    (bound : ∀ balancer groups, Plan.Placed balancer (Plan.targetGroups groups) →
      (route.bound groups).Proper balancer) :
    (targetWork c route ids).Proper r c := by
  have grouped := grouped_targets orderly.bindings ids
  obtain ⟨-, filled⟩ := grouped.filled
  constructor
  · intro job mem
    obtain ⟨g, g_mem, rfl⟩ := List.mem_map.1 mem
    refine unbound g.1 g.2 fun t t_mem => ?_
    rw [grouped.groupTargets g g_mem] at t_mem
    obtain ⟨id, -, stored⟩ := List.mem_filterMap.1 (List.mem_of_mem_filter t_mem)
    rw [orderly.targets id t stored]
    exact Keyed.mem_keys_of_get? stored
  · intro entry mem
    obtain ⟨⟨balancer, groups⟩, g_mem, rfl⟩ := List.mem_map.1 mem
    obtain ⟨some_group, some_target⟩ := filled _ g_mem
    refine .inl (bound balancer groups ⟨?_, ?_⟩)
    · intro pair pair_mem
      obtain ⟨g, listed, rfl⟩ := List.mem_map.1 pair_mem
      obtain ⟨-, -, on, -⟩ := binding_of_mem_boundOf g_mem listed
      exact on
    · obtain ⟨g, listed⟩ := List.exists_mem_of_ne_nil groups some_group
      exact ⟨_, List.mem_map_of_mem listed, some_target g listed⟩

theorem yields_proper_targets (orderly : s.catalog.Orderly) (ids : List String)
    {route : TargetRoute}
    (unbound : ∀ group targets, (∀ t ∈ targets, t.id ∈ s.catalog.targets.keys) →
      (route.unbound group targets).Proper r.command.operation ∧
        (route.unbound group targets).Finds s.catalog)
    (bound : ∀ balancer groups, Plan.Placed balancer (Plan.targetGroups groups) →
      (route.bound groups).Proper balancer) :
    Work.Yields faults (fun work s' => s' = s ∧ work.Proper r s.catalog) (targets r route ids)
      s := by
  apply (yields_targets r route ids).mono
  intro _ s' routed work ok
  obtain ⟨same, -, -, rfl⟩ := routed work ok
  exact ⟨same, proper_targetWork orderly ids unbound bound⟩

theorem yields_proper_newTargets {group : String} {specs : List TargetSpec}
    (some_spec : specs ≠ []) (fit : ∀ s ∈ specs, s.Fit) :
    Work.Yields faults (fun work s' => s' = s ∧ work.Proper r s.catalog)
      (newTargets r group specs) s := by
  apply (yields_group r group).bind
  rintro _ s' ⟨rfl, -⟩
  apply (yields_ask (.findBinding group) rfl).bind
  rintro found s' ⟨rfl, -⟩
  cases found with
  | none =>
      refine Work.yields_pure ⟨rfl, ?_, List.forall_mem_nil _⟩
      exact List.forall_mem_singleton.2 ⟨fit, trivial⟩
  | some binding =>
      refine Work.yields_pure ⟨rfl, List.forall_mem_nil _, ?_⟩
      refine List.forall_mem_singleton.2 (.inl ⟨List.forall_mem_singleton.2 fit, ?_, ?_⟩)
      · exact List.forall_mem_singleton.2 rfl
      · exact ⟨_, List.mem_singleton_self _, some_spec⟩

/-- The load balancer that is found goes by the id that it is looked up by. -/
theorem yields_balancer_id (orderly : s.catalog.Orderly) (id : String) :
    Work.Yields faults (fun b s' => s' = s ∧ b.id = id) (balancer r id) s := by
  apply (yields_ask (.getBalancer id) rfl).bind
  rintro found s' ⟨rfl, looked⟩
  cases found with
  | none => exact Work.yields_throw _
  | some b =>
      exact Work.yields_check fun _ _ =>
        Work.yields_pure ⟨rfl, orderly.balancers id b (Except.ok.inj looked)⟩

theorem yields_proper_listeners {id : String} {ids : List String}
    (asked : r.command = .deleteListeners id ids) (orderly : s.catalog.Orderly)
    (some_id : ids ≠ []) :
    Work.Yields faults (fun work s' => s' = s ∧ work.Proper r s.catalog) (listeners r id ids)
      s := by
  apply (yields_balancer_id orderly id).bind
  rintro b s' ⟨rfl, rfl⟩
  apply (yields_ask (.listListeners ids) rfl).bind
  rintro found s' ⟨rfl, looked⟩
  have looked : ids.filterMap s'.catalog.listeners.get? = found := Except.ok.inj looked
  apply Work.yields_check
  intro _ all
  refine Work.yields_pure ⟨rfl, List.forall_mem_nil _, List.forall_mem_singleton.2 ?_⟩
  by_cases own : ∀ l ∈ found, l.balancer = b.id
  · refine .inl ⟨?_, own⟩
    rintro rfl
    obtain ⟨id, mem⟩ := List.exists_mem_of_ne_nil ids some_id
    exact absurd (mem_of_ensureFound all id mem) List.not_mem_nil
  · obtain ⟨l, mem, other⟩ := by
      simpa only [not_forall, exists_prop] using own
    obtain ⟨id, id_mem, stored⟩ := List.mem_filterMap.1 (looked ▸ mem)
    rw [asked]
    exact .inr ⟨id, id_mem, l, stored, other⟩

theorem fit_of_not_dubious {c : Catalog} {wanted : List Binding}
    (clear : ¬ (Command.bindTargetGroups wanted).Dubious c) {b : Binding} (mem : b ∈ wanted) :
    ∀ s ∈ (specsOf c b).targets, s.Fit := by
  intro s s_mem
  obtain ⟨t, t_mem, rfl⟩ := List.mem_map.1 s_mem
  obtain ⟨stored, own⟩ := List.mem_filter.1 (List.mem_mergeSort.1 t_mem)
  have fine : ¬ (t.instanceId = "" ∨ t.port = 0 ∨ 100 < t.weight) := fun flaw =>
    clear ⟨b, mem, t, stored, of_decide_eq_true own, flaw⟩
  rw [not_or, not_or] at fine
  exact ⟨fine.1, fine.2.1, UInt32.not_lt.1 fine.2.2⟩

/-- Groups to be bound become proper jobs, unless one of their targets is not fit. -/
theorem proper_bindingWork {c : Catalog} {wanted : List Binding}
    (asked : r.command = .bindTargetGroups wanted) :
    (bindingWork (wanted.map (specsOf c))).Proper r c := by
  refine ⟨List.forall_mem_nil _, fun entry mem => ?_⟩
  obtain ⟨⟨balancer, groups⟩, gathered, rfl⟩ := List.mem_map.1 mem
  by_cases flaw : r.command.Dubious c
  · exact .inr flaw
  · rw [asked] at flaw
    refine .inl ⟨Keyed.ne_nil_of_mem_gather gathered, fun g g_mem => ?_⟩
    refine ⟨Keyed.key_of_mem_gather gathered g g_mem, ?_⟩
    rw [Keyed.eq_filter_of_mem_gather gathered] at g_mem
    obtain ⟨b, b_mem, rfl⟩ := List.mem_map.1 (List.mem_of_mem_filter g_mem)
    exact fit_of_not_dubious flaw b_mem

/-- A request that is meant as it should be is routed to proper jobs. -/
theorem yields_proper (orderly : s.catalog.Orderly) (meant : r.command.Meant) :
    Work.Yields faults (fun work s' => s' = s ∧ work.Proper r s.catalog) (route r) s := by
  unfold route
  split
  next ids weight asked =>
    rw [asked] at meant
    apply yields_proper_targets orderly ids
    · intro group targets found
      rw [asked]
      exact ⟨⟨meant.2, rfl⟩, found⟩
    · exact fun balancer groups placed => ⟨meant.2, placed⟩
  next ids port asked =>
    rw [asked] at meant
    apply yields_proper_targets orderly ids
    · intro group targets found
      rw [asked]
      exact ⟨⟨meant.2, rfl⟩, found⟩
    · exact fun balancer groups placed => ⟨meant.2, placed⟩
  next ids asked =>
    apply yields_proper_targets orderly ids
    · exact fun _ _ _ => ⟨trivial, trivial⟩
    · exact fun _ _ placed => placed
  next group specs asked =>
    rw [asked] at meant
    exact yields_proper_newTargets meant.2.1 meant.2.2
  next id ids asked =>
    rw [asked] at meant
    exact yields_proper_listeners asked orderly meant.2
  next wanted asked =>
    apply (yields_bindables orderly r wanted).bind
    rintro groups s' ⟨rfl, rfl, -⟩
    exact Work.yields_pure ⟨rfl, proper_bindingWork asked⟩

end Routing

/-- Nothing that is asked of the world is refused. -/
structure World.Untroubled (w : World) : Prop where
  sound : w.store.Sound
  available : w.catalogFaults = []
  reachable : w.store.tables.Reachable

theorem World.Untroubled.note {w : World} (h : w.Untroubled) (o : Occurrence) :
    (w.note o).Untroubled :=
  ⟨h.sound, h.available, h.reachable⟩

theorem Program.untroubled_run {α : Type} (p : Program α) {w : World} (h : w.Untroubled) :
    (p.run none w).2.Untroubled where
  sound := p.run_keeps (I := fun w => w.store.Sound)
    (fun guard c sound => World.sound_call sound none guard c) (fun _ => id) h.sound
  available := by
    refine p.run_keeps (I := fun w => w.catalogFaults = []) ?_ (fun _ => id) h.available
    intro w guard c available
    cases c with
    | store c => exact available
    | catalog c => exact (w.call_catalog guard c).2.2.2.trans available
  reachable := p.reachable_run none h.reachable

/-- Where nothing is refused, a construction for a proper job only fails for something that comes
twice, or because somebody owns its load balancer. -/
theorem Construction.objectsTo_buildJob {settings : Settings} {scope : FlowScope} {job : Job}
    {w w' : World} {outcome : Except Failure Built} (untroubled : w.Untroubled)
    (ran : Program.run none (buildJob settings scope job) w = (some outcome, w'))
    (fits : w'.store.tables.Fits) : ObjectsTo outcome (¬ job.Proper scope.resource.id) := by
  have numbered := untroubled.reachable.numbered (Program.fits_of_run ran fits)
  unfold buildJob at ran
  cases planned : job.planUnder scope.resource.id settings.limits with
  | error refusal =>
      rw [planned] at ran
      cases ran
      exact .error (job.objectsTo_plan scope.resource.id _ refusal planned)
  | ok plan =>
      rw [planned] at ran
      have ran : Program.run none (build scope settings.retry plan) w = (some outcome, w') := ran
      rintro failure rfl
      have keeps : Program.Keeps .race (Finished .race scope.resource)
          (build scope settings.retry plan) {} w.store.tables :=
        keeps_build hosts_race settings.retry trivial (Job.plan_complete planned) _
      obtain ⟨o, -, blamed⟩ := keeps.run_governed (S := Store.Sound) governs_race
        (fun guard c sound => World.sound_call sound none guard c) untroubled.sound numbered
        (by rwa [ran]) (congrArg Prod.fst ran)
      obtain ⟨owner, -, rfl, -⟩ := blamed calm_race
      trivial

namespace LocalJob

variable {scope : DetailScope} {job : LocalJob} {w w' : World}

theorem verdict_of_run {outcome : Except Failure (List Int64)} (untroubled : w.Untroubled)
    (ran : Program.run none (Submission.runLocalJob scope job) w = (some outcome, w')) :
    outcome.map (fun _ => ()) = job.verdict scope.operation [] w.contents ∧
      (job.Patches → w'.catalog.targets.keys = w.catalog.targets.keys) := by
  have same := (LocalChange.asks_runLocalJob scope job).makes.run_records untroubled.sound
  rw [ran, untroubled.available] at same
  obtain ⟨outcome, t, c, ended, verdict, kept⟩ := exec_run [] scope job w.contents
  rw [ended, Prod.mk.injEq, Option.some.injEq] at same
  obtain ⟨rfl, left⟩ := same
  have left : w'.catalog = c := congrArg Contents.catalog left
  exact ⟨verdict, left ▸ kept⟩

theorem Finds.of_keys {c c' : Catalog} (h : job.Finds c)
    (same : job.Patches → c'.targets.keys = c.targets.keys) : job.Finds c' := by
  cases job with
  | modify group change targets => exact fun t mem => same trivial ▸ h t mem
  | remove group targets => trivial
  | add group specs => trivial

/-- Where nothing is refused, a proper job that finds its targets only fails for something that
comes twice. -/
theorem objectsTo_runLocalJob {outcome : Except Failure (List Int64)} (untroubled : w.Untroubled)
    (finds : job.Finds w.catalog)
    (ran : Program.run none (Submission.runLocalJob scope job) w = (some outcome, w')) :
    ObjectsTo outcome (¬ job.Proper scope.operation) := by
  obtain ⟨verdict, -⟩ := verdict_of_run untroubled ran
  have objects : ObjectsTo (job.verdict scope.operation [] w.contents)
      (¬ job.Proper scope.operation) := objectsTo_verdict finds
  rw [← verdict] at objects
  exact ObjectsTo.map_iff.1 objects

end LocalJob

namespace Submission

variable {settings : Settings} {r : BatchRequest} {w w' : World} {flaw : Prop}

theorem failures_workAll {deadline : Option Nat} {I : World → Prop} {ps : List Piece}
    (silent : ∀ {w : World} o, I w → I (w.note o))
    (works : ∀ p ∈ ps, ∀ w outcome w', I w →
      Program.run deadline p.work w = (some outcome, w') → w'.store.tables.Fits →
        I w' ∧ ObjectsTo outcome flaw)
    {sub sub' : Submission} (before : I w) (none_yet : ∀ f ∈ sub.failures, f.failure.Expected flaw)
    (ran : (workAll sub ps).run deadline w = (some sub', w')) (fits : w'.store.tables.Fits) :
    I w' ∧ ∀ f ∈ sub'.failures, f.failure.Expected flaw := by
  induction ps generalizing sub w with
  | nil =>
      cases ran
      exact ⟨before, none_yet⟩
  | cons p rest ih =>
      obtain ⟨first, others⟩ := List.forall_mem_cons.1 works
      rw [run_workAll_cons] at ran
      rcases worked : (Work.outcome p.work).run deadline w with ⟨_ | failure | y, w₁⟩
      · rw [worked] at ran
        cases ran
      · rw [worked] at ran
        have ran : (workAll (sub.fail { resource := p.resource, failure }) rest).run deadline
          (w₁.note { event := .workFailed p.resource failure }) = (some sub', w') := ran
        have fits₁ := Program.fits_of_run ran fits
        obtain ⟨kept, objects⟩ := first w _ w₁ before worked fits₁
        refine ih others (silent _ kept) ?_ ran
        exact List.forall_mem_append.2
          ⟨none_yet, List.forall_mem_singleton.2 (objects failure rfl)⟩
      · rw [worked] at ran
        have ran : (workAll (sub.absorb y) rest).run deadline w₁ = (some sub', w') := ran
        obtain ⟨kept, -⟩ := first w _ w₁ before worked (Program.fits_of_run ran fits)
        have none_yet : ∀ f ∈ (sub.absorb y).failures, f.failure.Expected flaw := none_yet
        exact ih others kept none_yet ran

theorem eq_of_attached {deadline : Option Nat} {batch : Int64} {sub s : Submission}
    (ran : Program.run deadline (attach batch sub) w = (some (.ok s), w')) : s = sub := by
  obtain ⟨_, w₁, -, reported⟩ := Work.exists_run_of_bind ran
  cases reported
  rfl

/-- A request that is processed has worked off its pieces, and attaching the flows changes nothing
in what is returned. -/
theorem run_process {deadline : Option Nat} {s : Submission}
    (ran : Program.run deadline (process settings r) w = (some (.ok s), w')) :
    ∃ work batch w₁ w₂, Program.run deadline (prepare settings r) w =
        (some (.ok (work, batch)), w₁) ∧
      (workAll { batch } (pieces settings r work batch)).run deadline w₁ = (some s, w₂) ∧
      w₂.store.tables.Later w'.store.tables := by
  rw [process_eq] at ran
  obtain ⟨events, same⟩ := Program.run_within deadline
    (.processing r.business r.command.operation) (carryOut settings r) w w.events
  have ended := same.symm.trans ran
  rw [Prod.mk.injEq] at ended
  obtain ⟨value, rfl⟩ := ended
  have carried : Program.run deadline (carryOut settings r) w =
    (some (.ok s), (Program.run deadline (carryOut settings r) w).2) := Prod.ext value rfl
  obtain ⟨⟨work, batch⟩, w₁, prepared, worked⟩ := Work.exists_run_of_bind carried
  obtain ⟨sub, w₂, worked, attached⟩ := Work.exists_run_of_bind worked
  obtain rfl := eq_of_attached attached
  refine ⟨work, batch, w₁, w₂, prepared, Work.run_of_lift worked, ?_⟩
  have later := Program.later_run deadline (attach batch s) w₂
  rwa [attached] at later

/-- Local jobs that change targets leave all of them where they are, so each job finds its own. -/
theorem expected_localPieces {scope : DetailScope} {jobs : List LocalJob}
    (untroubled : w.Untroubled)
    (alike : (∀ job ∈ jobs, job.Patches) ∨ ∀ job ∈ jobs, ¬ job.Patches)
    (proper : ∀ job ∈ jobs, job.Proper scope.operation ∧ job.Finds w.catalog)
    {sub sub' : Submission} (none_yet : ∀ f ∈ sub.failures, f.failure.Expected flaw)
    (ran : (workAll sub (jobs.map (localPiece scope))).run none w = (some sub', w'))
    (fits : w'.store.tables.Fits) :
    w'.Untroubled ∧ ∀ f ∈ sub'.failures, f.failure.Expected flaw := by
  refine And.imp_left And.left (failures_workAll
    (I := fun v => v.Untroubled ∧
      ((∀ job ∈ jobs, job.Patches) → v.catalog.targets.keys = w.catalog.targets.keys))
    (fun o kept => ⟨kept.1.note o, kept.2⟩) ?_
    ⟨untroubled, fun _ => rfl⟩ none_yet ran fits)
  rintro _ mem v outcome v' ⟨untroubled, same⟩ ran -
  obtain ⟨job, listed, rfl⟩ := List.mem_map.1 mem
  obtain ⟨own, finds⟩ := proper job listed
  have all_patch : job.Patches → ∀ job ∈ jobs, job.Patches :=
    fun patches => alike.resolve_right fun none => none job listed patches
  have finds : job.Finds v.catalog := finds.of_keys fun patches => same (all_patch patches)
  have after := Program.untroubled_run (localPiece scope job).work untroubled
  rw [ran] at after
  obtain ⟨result, ended, rfl⟩ := Work.exists_run_of_map ran
  obtain ⟨-, kept⟩ := LocalJob.verdict_of_run untroubled ended
  have objects := LocalJob.objectsTo_runLocalJob untroubled finds ended
  exact ⟨⟨after, fun all => (kept (all job listed)).trans (same all)⟩,
    ObjectsTo.map_iff.2 (objects.mono (absurd own))⟩

theorem expected_boundPieces {batch : Int64} {entries : List (String × Job)}
    (untroubled : w.Untroubled) (proper : ∀ entry ∈ entries, entry.2.Proper entry.1 ∨ flaw)
    {sub sub' : Submission} (none_yet : ∀ f ∈ sub.failures, f.failure.Expected flaw)
    (ran : (workAll sub (entries.map (boundPiece settings r batch))).run none w =
      (some sub', w'))
    (fits : w'.store.tables.Fits) : ∀ f ∈ sub'.failures, f.failure.Expected flaw := by
  refine (failures_workAll (I := World.Untroubled)
    (fun o kept => kept.note o) ?_ untroubled none_yet ran
    fits).2
  intro _ mem v outcome v' untroubled ran fits
  obtain ⟨entry, listed, rfl⟩ := List.mem_map.1 mem
  have after := Program.untroubled_run (boundPiece settings r batch entry).work untroubled
  rw [ran] at after
  obtain ⟨result, ended, rfl⟩ := Work.exists_run_of_map ran
  have objects := Construction.objectsTo_buildJob untroubled ended fits
  exact ⟨after, ObjectsTo.map_iff.2 (objects.mono (proper entry listed).resolve_left)⟩

theorem yields_proper_prepare {faults : Faults} {s : Contents} (orderly : s.catalog.Orderly) :
    Work.Yields faults (fun ready s' => s'.catalog = s.catalog ∧ ready.1.Proper r s.catalog ∧
      ready.1.Apart) (prepare settings r) s := by
  apply Work.yields_check
  intro _ checked
  have meant := r.command.decides_check.passes.1 ⟨_, checked⟩
  apply ((Routing.yields_proper orderly meant).and (Routing.yields_apart r s)).bind
  rintro work s' ⟨⟨rfl, proper⟩, apart⟩
  apply (Work.yields_askStore _ _).bind
  intro batch s' same
  exact Work.yields_pure ⟨same, proper, apart⟩

/-- Where neither the store nor the inventory refuses anything, whatever stale locks are read, and
there is no deadline: what is recorded as a failure of a request that is processed is that
something comes twice or that another flow owns the load balancer. A value is only complained about
if listeners are to be deleted of which one is on another load balancer, or groups are to be bound
of which one has a target without instance or with a port or weight out of range. -/
theorem rejected_as_expected {s : Submission} (reachable : w.store.tables.Reachable)
    (known : w.catalog.Reachable) (sound : w.store.Sound) (available : w.catalogFaults = [])
    (ran : Program.run none (process settings r) w = (some (.ok s), w'))
    (fits : w'.store.tables.Fits) :
    ∀ f ∈ s.failures, f.failure.Expected (r.command.Dubious w.catalog) := by
  have untroubled : w.Untroubled := ⟨sound, available, reachable⟩
  obtain ⟨work, batch, w₁, w₃, prepared, worked, later⟩ := run_process ran
  have fits₃ := fits.of_later later
  have fits₁ : w₁.store.tables.Fits := Program.fits_of_run worked fits₃
  have numbered := reachable.numbered (Program.fits_of_run ran fits)
  obtain ⟨same, proper, apart⟩ :=
    (yields_proper_prepare known.orderly).run numbered prepared fits₁ _ rfl
  have same : w₁.catalog = w.catalog := same
  have untroubled₁ := Program.untroubled_run (prepare settings r) untroubled
  rw [prepared] at untroubled₁
  rw [pieces, workAll_append] at worked
  obtain ⟨sub, w₂, locally, worked⟩ := Program.exists_run_of_bind worked
  obtain ⟨untroubled₂, expected⟩ := expected_localPieces untroubled₁ apart.alike
    (same ▸ proper.unbound) (List.forall_mem_nil _) locally (Program.fits_of_run worked fits₃)
  exact expected_boundPieces untroubled₂ proper.bound expected worked fits₃

/-- The first of two load balancers is owned by a flow, and the group that is wanted on the second
has a target without a port. -/
def ownedAndPortless : World :=
  World.insert {
    store := {
      tables := (({} : Store).perform (.takeLock {
        resource := { id := "lb-1", kind := .loadBalancer }, flow := 9
        kind := .targetGroupModify })).2.tables } } { twoBalancers with
    targets := [{
      id := "t-1", group := "tg-2", instanceId := "i-1", ip := "10.0.0.1", port := 0
      weight := 10 }] }

theorem rejected_as_expected_ownedAndPortless :
    ∃ s w', Program.run none (process {} onBoth) ownedAndPortless = (some (.ok s), w') ∧
      s.failures.map JobFailure.resource = ["lb-1", "lb-2"] ∧
      ∀ f ∈ s.failures, f.failure.Expected (onBoth.command.Dubious ownedAndPortless.catalog) := by
  have ended : (Program.run none (process {} onBoth) ownedAndPortless).1.map
      (fun result => result.toOption.map fun s => s.failures.map JobFailure.resource) =
        some (some ["lb-1", "lb-2"]) := by
    decide +kernel
  have fits : (Program.run none (process {} onBoth) ownedAndPortless).2.store.tables.Fits := by
    decide +kernel
  obtain ⟨result, value, ended⟩ := Option.map_eq_some_iff.1 ended
  obtain ⟨s, processed, failures⟩ := Option.map_eq_some_iff.1 ended
  obtain _ | s := result
  · cases processed
  cases processed
  exact ⟨_, _, Prod.ext value rfl, failures, rejected_as_expected (.call (s := {}) _ .empty)
    (.insert _ .empty) ⟨rfl, rfl⟩ rfl (Prod.ext value rfl) fits⟩

end Submission

end BalancerFlows
