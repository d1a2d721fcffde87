import BalancerFlows.Proofs.Ownership
import BalancerFlows.Proofs.RuleBindings

/-!
# What a request may touch

Every record that a request reaches is looked up and its owner compared before anything is written.
So a request that writes at all reaches only target groups of its own vendor and account, and so for
the load balancers and listeners that it names. What its flows carry was looked up then: no task
names another group. Main statement: `requests_authorised`.
-/
namespace BalancerFlows

theorem Keyed.Filed.insertAll {κ α : Type} [DecidableEq κ] {key : α → κ} {t : Keyed κ α}
    (h : Filed key t) (items : List α) :
    Filed key (items.foldl (fun t a => t.put (key a) a) t) :=
  List.foldlRecOn items _ h fun _ filed a _ => filed.put a

namespace Catalog

theorem perform_snd (c : Catalog) (call : CatalogCall) :
    ∃ targets named, (c.perform call).2 = { c with targets, named } := by
  cases call with
  | createTargets news =>
      have others : ∀ created : List Target, ∃ targets,
          created.foldl insertTarget c = { c with targets } := fun created =>
        List.foldlRecOn (motive := fun d => ∃ targets, d = { c with targets }) created _ ⟨_, rfl⟩
          fun _ ⟨_, same⟩ _ _ => same ▸ ⟨_, rfl⟩
      obtain ⟨targets, same⟩ := others (nameTargets c.named news)
      exact ⟨targets, c.named + UInt64.ofNat news.length,
        congrArg (fun d : Catalog => { d with named := c.named + UInt64.ofNat news.length }) same⟩
  | updateTargets patches =>
      have others : ∃ targets, (c.updateTargets patches).2 = { c with targets } := by
        induction patches generalizing c with
        | nil => exact ⟨_, rfl⟩
        | cons p rest ih =>
            unfold updateTargets
            split
            · exact ⟨_, rfl⟩
            · exact ih _
      obtain ⟨targets, same⟩ := others
      exact ⟨targets, c.named, same⟩
  | _ => exact ⟨_, _, rfl⟩

/-- Each record stands under its own id, and a binding under its group. -/
structure Orderly (c : Catalog) : Prop where
  balancers : Keyed.Filed LoadBalancer.id c.balancers
  groups : Keyed.Filed TargetGroup.id c.groups
  bindings : Keyed.Filed Binding.group c.bindings
  listeners : Keyed.Filed Listener.id c.listeners
  targets : Keyed.Filed Target.id c.targets

theorem Reachable.orderly {c : Catalog} (h : c.Reachable) : c.Orderly := by
  suffices others : Keyed.Filed LoadBalancer.id c.balancers ∧
      Keyed.Filed TargetGroup.id c.groups ∧ Keyed.Filed Binding.group c.bindings ∧
      Keyed.Filed Listener.id c.listeners from
    ⟨others.1, others.2.1, others.2.2.1, others.2.2.2, h.filed⟩
  induction h with
  | empty => exact ⟨nofun, nofun, nofun, nofun⟩
  | insert s _ ih =>
      obtain ⟨balancers, groups, bindings, listeners⟩ := ih
      exact ⟨balancers.insertAll _, groups.insertAll _, bindings.insertAll _,
        listeners.insertAll _⟩
  | @call c call _ ih =>
      obtain ⟨targets, named, same⟩ := c.perform_snd call
      rw [same]
      exact ih

end Catalog

namespace Command

def targets : Command → List String
  | modifyWeight targets _ | modifyPort targets _ | removeTargets targets => targets
  | _ => []

def bindings : Command → List Binding
  | bindTargetGroups bindings => bindings
  | _ => []

def balancers : Command → List String
  | deleteListeners balancer _ => [balancer]
  | bindTargetGroups bindings => bindings.map Binding.balancer
  | _ => []

/-- The groups that a command reaches: the one it adds to, those of its targets, those it binds. -/
def groups (c : Catalog) : Command → List String
  | addTargets group _ => [group]
  | command => (c.found command.targets).map Target.group ++ command.bindings.map Binding.group

end Command

/-- There is a load balancer of that id, of the vendor and account of the request. -/
def Routing.OwnsBalancer (r : BatchRequest) (c : Catalog) (id : String) : Prop :=
  ∃ b, c.balancers.get? id = some b ∧ b.vendor = r.vendor ∧ b.account = r.account

/-- The listener of a binding exists on its load balancer, under the cloud id that it carries. -/
def Binding.Fits (b : Binding) (c : Catalog) : Prop :=
  ∃ l, c.listeners.get? b.listener = some l ∧ l.id = b.listener ∧ l.balancer = b.balancer ∧
    l.cloudId = b.listenerCloudId

/-- All that a request reaches exists and belongs to its vendor and account. -/
structure BatchRequest.Authorised (r : BatchRequest) (c : Catalog) : Prop where
  targets : ∀ id ∈ r.command.targets, ∃ t, c.targets.get? id = some t ∧ t.id = id ∧
    t.group ∈ r.command.groups c
  groups : ∀ id ∈ r.command.groups c, ∃ g, c.groups.get? id = some g ∧ g.id = id ∧
    g.vendor = r.vendor ∧ g.account = r.account
  balancers : ∀ id ∈ r.command.balancers, ∃ b, c.balancers.get? id = some b ∧ b.id = id ∧
    b.vendor = r.vendor ∧ b.account = r.account
  listeners : ∀ b ∈ r.command.bindings, b.Fits c

def Job.bindings : Job → List Binding
  | .modifyWeight _ groups | .modifyPort _ groups | .removeTargets groups =>
      groups.map BoundTargets.binding
  | .addTargets groups | .bindTargetGroups groups => groups.map BoundSpecs.binding
  | .deleteListeners .. => []

def Routed.StaysWithin (groups : List String) (work : Routed) : Prop :=
  ∀ entry ∈ work.bound, ∀ b ∈ entry.2.bindings, b.group ∈ groups

/-- The groups of all bindings that the tasks carry are among these. -/
def Flow.StaysWithin (groups : List String) (f : Flow) : Prop :=
  ∀ task ∈ f.tasks, ∀ b, task.params.request.binding? = some b → b.group ∈ groups

namespace Plan

theorem ofGroups_bindings {α : Type} {shape : CallShape α}
    (carries : ∀ b items, (shape.call b items).request.binding? = some b) {operation : Operation}
    {balancer : String} {limit : Nat} {groups : List (Binding × List α)} {p : Plan}
    (h : ofGroups operation shape balancer limit groups = .ok p) {bindings : List Binding}
    (same : groups.map Prod.fst = bindings) :
    ∀ c ∈ p.calls, ∀ b, c.request.binding? = some b → b ∈ bindings := by
  intro c mem b carried
  rw [(ofGroups_spec h).1] at mem
  obtain ⟨g, g_mem, mem⟩ := List.mem_flatMap.1 mem
  obtain ⟨chunk, -, rfl⟩ := List.mem_map.1 mem
  rw [carries, Option.some.injEq] at carried
  exact same ▸ List.mem_map.2 ⟨g, g_mem, carried⟩

end Plan

/-- The calls of a plan carry no bindings but those of the job. -/
theorem Job.bindings_of_planned {balancer : String} {limit : Nat} {job : Job} {p : Plan}
    (h : job.plan balancer limit = .ok p) :
    ∀ c ∈ p.calls, ∀ b, c.request.binding? = some b → b ∈ job.bindings := by
  have targets (groups : List BoundTargets) :
      (Plan.targetGroups groups).map Prod.fst = groups.map BoundTargets.binding := by
    simp [Plan.targetGroups, Function.comp_def]
  have specs (groups : List BoundSpecs) :
      (Plan.specGroups groups).map Prod.fst = groups.map BoundSpecs.binding := by
    simp [Plan.specGroups, Function.comp_def]
  cases job with
  | modifyWeight weight groups =>
      obtain ⟨-, -, h⟩ := Except.bind_eq_ok_iff.1 h
      exact Plan.ofGroups_bindings (fun _ _ => rfl) h (targets groups)
  | modifyPort port groups =>
      obtain ⟨-, -, h⟩ := Except.bind_eq_ok_iff.1 h
      exact Plan.ofGroups_bindings (fun _ _ => rfl) h (targets groups)
  | removeTargets groups => exact Plan.ofGroups_bindings (fun _ _ => rfl) h (targets groups)
  | addTargets groups =>
      obtain ⟨-, -, h⟩ := Except.bind_eq_ok_iff.1 h
      exact Plan.ofGroups_bindings (fun _ _ => rfl) h (specs groups)
  | deleteListeners lb listeners =>
      obtain ⟨-, -, calls⟩ := Plan.deleteListeners_spec h
      intro c mem b carried
      rw [calls] at mem
      obtain ⟨chunk, -, rfl⟩ := List.mem_map.1 mem
      cases carried
  | bindTargetGroups groups =>
      obtain ⟨-, planned⟩ := Plan.bindTargetGroups_spec h
      intro c mem b carried
      rw [Plan.groupBindings_spec planned] at mem
      obtain ⟨g, g_mem, mem⟩ := List.mem_flatMap.1 mem
      rcases List.mem_cons.1 mem with rfl | mem
      · cases carried
        exact List.mem_map_of_mem g_mem
      · obtain ⟨chunk, -, rfl⟩ := List.mem_map.1 mem
        cases carried
        exact List.mem_map_of_mem g_mem

theorem Construction.Serves.staysWithin {balancer : String} {limits : BatchLimits} {plan : Plan}
    {f : Flow} {job : Job} {groups : List String} (serves : Serves balancer plan f)
    (planned : job.planUnder balancer limits = .ok plan)
    (within : ∀ b ∈ job.bindings, b.group ∈ groups) : f.StaysWithin groups := by
  intro task mem b carried
  have request := List.mem_map_of_mem (f := fun task => task.params.request) mem
  rw [serves.calls] at request
  obtain ⟨c, c_mem, same⟩ := List.mem_map.1 request
  exact within b (Job.bindings_of_planned planned c c_mem b (same ▸ carried))

namespace Routing

variable {faults : Faults} {s : Contents} {r : BatchRequest}

theorem yields_balancer (r : BatchRequest) (id : String) :
    Work.Yields faults (fun _ s' => s' = s ∧ OwnsBalancer r s.catalog id) (balancer r id) s := by
  apply Work.Yields.bind (yields_ask (.getBalancer id) rfl)
  rintro b s' ⟨rfl, looked⟩
  cases b with
  | none => exact Work.yields_throw _
  | some b =>
      exact Work.yields_check fun _ checked =>
        Work.yields_pure ⟨rfl, b, Except.ok.inj looked, checkOwner_eq_ok checked⟩

theorem checkListener_eq_ok {b : Binding} {l : Listener} {u : Unit}
    (h : checkListener b l = .ok u) : l.balancer = b.balancer ∧ l.cloudId = b.listenerCloudId := by
  unfold checkListener at h
  split at h
  · cases h
  next same =>
    split at h
    · cases h
    next same' => exact ⟨not_not.1 same, not_not.1 same'⟩

theorem yields_bindingListener (orderly : s.catalog.Orderly) (b : Binding) :
    Work.Yields faults (fun _ s' => s' = s ∧ b.Fits s.catalog) (bindingListener b) s := by
  apply Work.Yields.bind (yields_ask (.listListeners [b.listener]) rfl)
  rintro listed s' ⟨rfl, looked⟩
  split
  · exact Work.yields_throw _
  next l found =>
    have looked : [b.listener].filterMap s'.catalog.listeners.get? = listed :=
      Except.ok.inj looked
    have mem := looked ▸ List.mem_of_find?_eq_some found
    obtain ⟨id, same, stored⟩ := List.mem_filterMap.1 mem
    rw [List.mem_singleton.1 same] at stored
    cases checked : checkListener b l with
    | error failure => exact Work.yields_throw _
    | ok u =>
        exact Work.yields_pure
          ⟨rfl, l, stored, orderly.listeners _ l stored, checkListener_eq_ok checked⟩

/-- What a wanted binding has to be. -/
structure Bindable (r : BatchRequest) (c : Catalog) (b : Binding) : Prop where
  group : OwnsGroup r c b.group
  balancer : OwnsBalancer r c b.balancer
  listener : b.Fits c

/-- A wanted binding with the targets that the catalog has in its group. -/
def specsOf (c : Catalog) (b : Binding) : BoundSpecs :=
  { binding := b, targets := (c.groupTargets b.group).map Target.spec }

theorem yields_bindable (orderly : s.catalog.Orderly) (r : BatchRequest) (b : Binding) :
    Work.Yields faults (fun g s' => s' = s ∧ g = specsOf s.catalog b ∧ Bindable r s.catalog b)
      (newBinding r b) s := by
  apply (yields_group r b.group).bind
  rintro _ s' ⟨rfl, group⟩
  apply (yields_ask (.findBinding b.group) rfl).bind
  rintro existing s' ⟨rfl, -⟩
  cases existing with
  | some existing => exact Work.yields_throw _
  | none =>
      apply (yields_balancer r b.balancer).bind
      rintro _ s' ⟨rfl, balancer⟩
      apply (yields_bindingListener orderly b).bind
      rintro _ s' ⟨rfl, listener⟩
      apply (yields_ask (.listGroupTargets b.group) rfl).bind
      rintro targets s' ⟨rfl, listed⟩
      have listed : s'.catalog.groupTargets b.group = targets := Except.ok.inj listed
      subst listed
      exact Work.yields_pure ⟨rfl, rfl, group, balancer, listener⟩

theorem yields_bindables (orderly : s.catalog.Orderly) (r : BatchRequest)
    (wanted : List Binding) :
    Work.Yields faults (fun groups s' => s' = s ∧ groups = wanted.map (specsOf s.catalog) ∧
      ∀ b ∈ wanted, Bindable r s.catalog b) (newBindings r wanted) s := by
  induction wanted with
  | nil => exact Work.yields_pure ⟨rfl, rfl, by simp⟩
  | cons b rest ih =>
      apply (yields_bindable orderly r b).bind
      rintro g s' ⟨rfl, rfl, first⟩
      apply ih.bind
      rintro groups s' ⟨rfl, rfl, others⟩
      exact Work.yields_pure ⟨rfl, rfl, List.forall_mem_cons.2 ⟨first, others⟩⟩

theorem OwnsGroup.orderly {c : Catalog} (orderly : c.Orderly) {id : String}
    (h : OwnsGroup r c id) : ∃ g, c.groups.get? id = some g ∧ g.id = id ∧
      g.vendor = r.vendor ∧ g.account = r.account := by
  obtain ⟨g, stored, own⟩ := h
  exact ⟨g, stored, orderly.groups id g stored, own⟩

theorem OwnsBalancer.orderly {c : Catalog} (orderly : c.Orderly) {id : String}
    (h : OwnsBalancer r c id) : ∃ b, c.balancers.get? id = some b ∧ b.id = id ∧
      b.vendor = r.vendor ∧ b.account = r.account := by
  obtain ⟨b, stored, own⟩ := h
  exact ⟨b, stored, orderly.balancers id b stored, own⟩

/-- What routing a request comes to: all that it reaches is its own, and the work carries no
bindings of other groups. -/
def Granted (r : BatchRequest) (c : Catalog) (work : Routed) : Prop :=
  r.Authorised c ∧ work.StaysWithin (r.command.groups c)

section Targets

variable {ids : List String} {c : Catalog}

/-- The targets of a request are all found, and each group of one is the requester's. -/
structure TargetsOwn (r : BatchRequest) (c : Catalog) (ids : List String) : Prop where
  found : ∀ id ∈ ids, id ∈ (c.found ids).map Target.id
  owned : ∀ g ∈ groupsOf c ids, OwnsGroup r c g.1

theorem mem_keys_groupsOf {group : String} :
    group ∈ (c.found ids).map Target.group ↔ ∃ g ∈ groupsOf c ids, g.1 = group := by
  have keys := Keyed.mem_keys_gather Target.group (c.found ids) group
  rw [List.mem_map, ← keys]
  exact List.mem_map

/-- A job for a load balancer carries bindings of groups that have a target. -/
theorem group_of_mem_boundOf (orderly : c.Orderly) {balancer : String}
    {groups : List BoundTargets} (mem : (balancer, groups) ∈ boundOf c ids) {g : BoundTargets}
    (g_mem : g ∈ groups) : g.binding.group ∈ (c.found ids).map Target.group := by
  have gathered := Keyed.gather_perm (fun g : BoundTargets => g.binding.balancer)
    (boundGroups c (groupsOf c ids))
  have split : g ∈ boundGroups c (groupsOf c ids) :=
    gathered.mem_iff.1 (List.mem_flatMap.2 ⟨_, mem, g_mem⟩)
  obtain ⟨⟨group, targets⟩, listed, made⟩ := List.mem_filterMap.1 split
  obtain ⟨b, looked, rfl⟩ := Option.map_eq_some_iff.1 made
  exact mem_keys_groupsOf.2 ⟨_, listed, (orderly.bindings group b looked).symm⟩

theorem TargetsOwn.granted (h : TargetsOwn r c ids) (orderly : c.Orderly)
    (targets : r.command.targets = ids) (bindings : r.command.bindings = [])
    (balancers : r.command.balancers = [])
    (groups : r.command.groups c = (c.found ids).map Target.group) {route : TargetRoute}
    (carries : ∀ groups, (route.bound groups).bindings = groups.map BoundTargets.binding) :
    Granted r c (targetWork c route ids) := by
  refine ⟨⟨?_, ?_, ?_, ?_⟩, ?_⟩
  · intro id mem
    obtain ⟨t, t_mem, rfl⟩ := List.mem_map.1 (h.found id (targets ▸ mem))
    obtain ⟨other, -, stored⟩ := List.mem_filterMap.1 t_mem
    have own := orderly.targets other t stored
    exact ⟨t, own ▸ stored, rfl, groups ▸ List.mem_map_of_mem t_mem⟩
  · intro id mem
    rw [groups, mem_keys_groupsOf] at mem
    obtain ⟨g, listed, rfl⟩ := mem
    exact (h.owned g listed).orderly orderly
  · rw [balancers]
    simp
  · rw [bindings]
    simp
  · intro entry mem b carried
    obtain ⟨⟨balancer, bound⟩, listed, rfl⟩ := List.mem_map.1 mem
    rw [carries] at carried
    obtain ⟨g, g_mem, rfl⟩ := List.mem_map.1 carried
    exact groups ▸ group_of_mem_boundOf orderly listed g_mem

end Targets

theorem yields_granted_targets (orderly : s.catalog.Orderly) {route : TargetRoute}
    {ids : List String} (targets : r.command.targets = ids) (bindings : r.command.bindings = [])
    (balancers : r.command.balancers = [])
    (groups : r.command.groups s.catalog = (s.catalog.found ids).map Target.group)
    (carries : ∀ groups, (route.bound groups).bindings = groups.map BoundTargets.binding) :
    Work.Yields faults (fun work s' => s' = s ∧ Granted r s.catalog work)
      (Routing.targets r route ids) s := by
  apply (yields_targets r route ids).mono
  rintro _ s' ended work rfl
  obtain ⟨same, found, owned, rfl⟩ := ended work rfl
  have owns : TargetsOwn r s.catalog ids := ⟨found, owned⟩
  exact ⟨same, owns.granted orderly targets bindings balancers groups carries⟩

theorem yields_granted_newTargets (orderly : s.catalog.Orderly) {id : String}
    {specs : List TargetSpec} (asked : r.command = .addTargets id specs) :
    Work.Yields faults (fun work s' => s' = s ∧ Granted r s.catalog work) (newTargets r id specs)
      s := by
  apply (yields_group r id).bind
  rintro _ s' ⟨rfl, own⟩
  have authorised : r.Authorised s'.catalog := by
    refine ⟨?_, ?_, ?_, ?_⟩ <;> rw [asked]
    · simp [Command.targets]
    · exact List.forall_mem_singleton.2 (own.orderly orderly)
    · simp [Command.balancers]
    · simp [Command.bindings]
  apply (yields_ask (.findBinding id) rfl).bind
  rintro binding s' ⟨rfl, looked⟩
  have looked : s'.catalog.bindings.get? id = binding := Except.ok.inj looked
  cases binding with
  | none => exact Work.yields_pure ⟨rfl, authorised, List.forall_mem_nil _⟩
  | some binding =>
      refine Work.yields_pure ⟨rfl, authorised, List.forall_mem_singleton.2 ?_⟩
      rw [asked]
      intro b mem
      rw [List.mem_singleton.1 mem]
      exact List.mem_singleton.2 (orderly.bindings id binding looked)

theorem yields_granted_listeners (orderly : s.catalog.Orderly) {id : String} {ids : List String}
    (asked : r.command = .deleteListeners id ids) :
    Work.Yields faults (fun work s' => s' = s ∧ Granted r s.catalog work) (listeners r id ids)
      s := by
  apply (yields_balancer r id).bind
  rintro b s' ⟨rfl, own⟩
  apply (yields_ask (.listListeners ids) rfl).bind
  rintro found s' ⟨rfl, -⟩
  apply Work.yields_check
  intro _ _
  refine Work.yields_pure ⟨rfl, ⟨?_, ?_, ?_, ?_⟩,
    List.forall_mem_singleton.2 (by simp [Job.bindings])⟩ <;> rw [asked]
  · simp [Command.targets]
  · simp [Command.groups, Command.targets, Command.bindings, Catalog.found]
  · exact List.forall_mem_singleton.2 (own.orderly orderly)
  · simp [Command.bindings]

/-- Wanted bindings that could all be resolved are granted as a whole. -/
theorem granted_bindingWork {c : Catalog} (orderly : c.Orderly) {wanted : List Binding}
    (asked : r.command = .bindTargetGroups wanted) (all : ∀ b ∈ wanted, Bindable r c b) :
    Granted r c (bindingWork (wanted.map (specsOf c))) := by
  refine ⟨⟨?_, ?_, ?_, ?_⟩, ?_⟩ <;> rw [asked]
  · simp [Command.targets]
  · intro id mem
    simp only [Command.groups, Command.targets, Catalog.found, List.filterMap_nil, List.map_nil,
      List.nil_append] at mem
    obtain ⟨b, b_mem, rfl⟩ := List.mem_map.1 mem
    exact (all b b_mem).group.orderly orderly
  · intro id mem
    obtain ⟨b, b_mem, rfl⟩ := List.mem_map.1 mem
    exact (all b b_mem).balancer.orderly orderly
  · exact fun b mem => (all b mem).listener
  · intro entry mem b carried
    obtain ⟨⟨balancer, own⟩, listed, rfl⟩ := List.mem_map.1 mem
    obtain ⟨g, g_mem, rfl⟩ := List.mem_map.1 carried
    have gathered := Keyed.gather_perm (fun g : BoundSpecs => g.binding.balancer)
      (wanted.map (specsOf c))
    have g_mem : g ∈ wanted.map (specsOf c) :=
      gathered.mem_iff.1 (List.mem_flatMap.2 ⟨_, listed, g_mem⟩)
    obtain ⟨b, b_mem, rfl⟩ := List.mem_map.1 g_mem
    exact List.mem_append_right _ (List.mem_map_of_mem b_mem)

theorem yields_granted (orderly : s.catalog.Orderly) (r : BatchRequest) :
    Work.Yields faults (fun work s' => s' = s ∧ Granted r s.catalog work) (route r) s := by
  unfold route
  split
  next ids weight asked =>
    exact yields_granted_targets orderly (by rw [asked]; rfl) (by rw [asked]; rfl)
      (by rw [asked]; rfl) (by rw [asked]; exact List.append_nil _) fun _ => rfl
  next ids port asked =>
    exact yields_granted_targets orderly (by rw [asked]; rfl) (by rw [asked]; rfl)
      (by rw [asked]; rfl) (by rw [asked]; exact List.append_nil _) fun _ => rfl
  next ids asked =>
    exact yields_granted_targets orderly (by rw [asked]; rfl) (by rw [asked]; rfl)
      (by rw [asked]; rfl) (by rw [asked]; exact List.append_nil _) fun _ => rfl
  next id specs asked => exact yields_granted_newTargets orderly asked
  next id ids asked => exact yields_granted_listeners orderly asked
  next wanted asked =>
    apply (yields_bindables orderly r wanted).bind
    rintro groups s' ⟨rfl, rfl, all⟩
    exact Work.yields_pure ⟨rfl, granted_bindingWork orderly asked all⟩

end Routing

/-- The steps only look something up, and change nothing. -/
def Idle (past : List Step) : Prop :=
  ∀ step ∈ past, step.call.Reads ∧ step.after = step.before

/-- What can be said of a request at any point of its run from some contents: either it has only
looked things up, or all that it reaches is its own, and the flows that it has added carry no
bindings of other groups. -/
def Lawful (r : BatchRequest) (s : Contents) (past : List Step) (s' : Contents) : Prop :=
  (Idle past ∧ s' = s) ∨ r.Authorised s.catalog ∧
    ∃ fs, s'.tables.flows.values = s.tables.flows.values ++ fs ∧
      ∀ f ∈ fs, f.StaysWithin (r.command.groups s.catalog)

theorem Lawful.of_served {r : BatchRequest} {s s' : Contents} {past : List Step} {ι : Type}
    {serves : ι → Flow → Prop} {is : List ι} (authorised : r.Authorised s.catalog)
    (served : Tables.Served serves is s.tables s'.tables)
    (good : ∀ i ∈ is, ∀ f, serves i f → f.StaysWithin (r.command.groups s.catalog)) :
    Lawful r s past s' := by
  obtain ⟨built, some, serve, flows⟩ := served
  refine .inr ⟨authorised, _, flows, fun f mem => ?_⟩
  obtain ⟨p, p_mem, rfl⟩ := List.mem_map.1 mem
  exact good p.1 (some.subset (List.mem_map_of_mem p_mem)) p.2 (serve p p_mem)

namespace Submission

variable {faults : Faults} {r : BatchRequest} {s : Contents}

theorem ensures_idle (r : BatchRequest) (s : Contents) :
    Program.Ensures faults (fun past _ s' => Idle past ∧ s' = s) (Routing.route r) [] s := by
  apply (Routing.asks_route r).makes.ensures (I := fun past s' => Idle past ∧ s' = s)
  · rintro past s' c outcome s'' reads ⟨idle, rfl⟩ answered _
    have same := reads.contents_eq answered
    exact ⟨List.forall_mem_append.2 ⟨idle, List.forall_mem_singleton.2 ⟨reads, same⟩⟩, same⟩
  · exact ⟨List.forall_mem_nil _, rfl⟩

/-- Once there is a batch, the work is granted. -/
theorem ensures_granted (settings : Settings) (orderly : s.catalog.Orderly)
    (numbered : s.tables.Numbered) :
    Program.Ensures faults (fun past result s' => Lawful r s past s' ∧ ∀ ready,
        result = some (.ok ready) → s'.tables.flows = s.tables.flows ∧
          Routing.Granted r s.catalog ready.1)
      (prepare settings r) [] s := by
  apply Work.ensures_check
  · intro failure _
    exact ⟨.inl ⟨List.forall_mem_nil _, rfl⟩, by simp⟩
  intro _ _
  apply Work.ensures_bind ((ensures_idle r s).and (Routing.yields_granted orderly r numbered []))
  · rintro past s' ⟨idle, -⟩
    exact ⟨.inl idle, by simp⟩
  · rintro past failure s' ⟨idle, -⟩
    exact ⟨.inl idle, by simp⟩
  rintro past work _ ⟨⟨idle, rfl⟩, -, routed⟩ outcome s'' answered numbered'
  obtain ⟨-, granted⟩ := routed _ rfl work rfl
  have spares : Call.SparesFlows (.store (.createBatch (newBatch settings r))) := trivial
  have flows := spares.flows_eq answered
  have lawful (past : List Step) : Lawful r _ past s'' :=
    .inr ⟨granted.1, [], by rw [flows, List.append_nil], List.forall_mem_nil _⟩
  cases outcome with
  | error failure => exact ⟨lawful _, by simp⟩
  | ok batch => exact ⟨lawful _, fun ready same => by cases same; exact ⟨flows, granted⟩⟩

/-- The flow is one for that entry of the work, and carries its bindings only. -/
def CarriesFor : LocalJob ⊕ (String × Job) → Flow → Prop
  | .inl _, _ => False
  | .inr entry, f => ∀ groups, (∀ b ∈ entry.2.bindings, b.group ∈ groups) → f.StaysWithin groups

/-- The piece of work for an unbound or a bound part of the work. -/
def pieceOf (settings : Settings) (r : BatchRequest) (batch : Int64) :
    LocalJob ⊕ (String × Job) → Piece
  | .inl job => localPiece (localScope r batch) job
  | .inr entry => boundPiece settings r batch entry

theorem pieces_eq (settings : Settings) (r : BatchRequest) (work : Routed) (batch : Int64) :
    pieces settings r work batch =
      (work.unbound.map Sum.inl ++ work.bound.map Sum.inr).map (pieceOf settings r batch) := by
  rw [List.map_append, List.map_map, List.map_map]
  rfl

theorem ensures_pieceOf (settings : Settings) (r : BatchRequest) (batch : Int64)
    (part : LocalJob ⊕ (String × Job)) (past : List Step) (s : Contents)
    (numbered : s.tables.Numbered) :
    Program.Ensures faults (fun _ _ s' => Tables.Served CarriesFor [part] s.tables s'.tables)
      (pieceOf settings r batch part).work past s := by
  have mapped {α : Type} {x : Work α} {f : α → Yield} (h : Program.Ensures faults
      (fun _ _ s' => Tables.Served CarriesFor [part] s.tables s'.tables) x past s) :
      Program.Ensures faults (fun _ _ s' => Tables.Served CarriesFor [part] s.tables s'.tables)
        (f <$> x : Work Yield) past s := by
    rw [map_eq_pure_bind]
    exact Work.ensures_bind h (fun _ _ served => served) (fun _ _ _ served => served)
      fun _ _ _ served => served
  cases part with
  | inl job =>
      have spares : (Submission.runLocalJob (localScope r batch) job).Makes Call.SparesFlows :=
        (LocalChange.asks_runLocalJob _ job).makes.mono fun _ => Call.Records.sparesFlows
      exact mapped ((spares.same_flows past s).mono fun _ _ _ same => .none same)
  | inr entry =>
      refine mapped (Construction.ensures_served ?_ past numbered)
      exact fun plan f planned serves groups within => serves.staysWithin planned within

theorem ensures_lawful (settings : Settings) (orderly : s.catalog.Orderly)
    (numbered : s.tables.Numbered) :
    Program.Ensures faults (fun past _ s' => Lawful r s past s') (process settings r) [] s := by
  rw [process_eq]
  apply Program.ensures_within.2
  apply Work.ensures_bind ((ensures_granted settings orderly numbered).and_numbered numbered)
  · exact fun past s' h => h.2.1
  · exact fun past failure s' h => h.2.1
  rintro past ⟨work, batch⟩ s₁ ⟨numbered₁, -, ready⟩
  obtain ⟨same, authorised, within⟩ := ready _ rfl
  let parts := work.unbound.map Sum.inl ++ work.bound.map Sum.inr
  have good : ∀ part ∈ parts, ∀ f,
      CarriesFor part f → f.StaysWithin (r.command.groups s.catalog) := by
    intro part mem f carries
    rcases List.mem_append.1 mem with mem | mem
    · obtain ⟨job, -, rfl⟩ := List.mem_map.1 mem
      exact carries.elim
    · obtain ⟨entry, listed, rfl⟩ := List.mem_map.1 mem
      exact carries _ (within entry listed)
  have worked : (workAll { batch } (parts.map (pieceOf settings r batch))).Ensures faults _ past
      s₁ := ensures_workAll (ensures_pieceOf settings r batch) parts { batch } numbered₁
  rw [← pieces_eq] at worked
  apply Work.ensures_bind (Work.ensures_lift (Q := fun _ _ s' =>
    Tables.Served CarriesFor parts s.tables s'.tables)
    (worked.mono fun _ _ _ served => served.beside same rfl))
  · exact fun _ _ served => .of_served authorised served good
  · exact fun _ _ _ served => .of_served authorised served good
  intro past sub s₂ served
  have attached : Program.Asks (Call.Suited Call.SparesFlows) (attach batch sub) :=
    asks_attach trivial
  apply (attached.makes.same_flows past s₂).mono
  intro past' result s' same'
  exact .of_served authorised (served.beside rfl same') good

end Submission

/-- A request that writes anything, or asks the store for anything, has been checked: its targets
exist, the groups that it reaches and the load balancers that it names are of its vendor and
account, and its bindings fit their listeners. The flows that it adds carry no bindings of other
groups. -/
theorem requests_authorised {deadline : Option Nat} {settings : Settings} {r : BatchRequest}
    {w w' : World} {result : Option (Except Failure Submission)} (stocked : w.catalog.Reachable)
    (reachable : w.store.tables.Reachable)
    (ran : Program.run deadline (Submission.process settings r) w = (result, w'))
    (fits : w'.store.tables.Fits) :
    ((∀ step ∈ Program.steps deadline (Submission.process settings r) w,
        step.call.Reads ∧ step.after = step.before) ∧ w'.contents = w.contents) ∨
      r.Authorised w.catalog ∧
        ∃ fs, w'.store.tables.flows.values = w.store.tables.flows.values ++ fs ∧
          ∀ f ∈ fs, f.StaysWithin (r.command.groups w.catalog) := by
  have numbered := reachable.numbered (Program.fits_of_run ran fits)
  have ensured := (Submission.ensures_lawful settings (r := r) (s := w.contents) stocked.orderly
    numbered).run deadline numbered (by rwa [ran])
  rw [ran] at ensured
  exact ensured

theorem requests_authorised_twoBindings :
    ∃ w' fs, Program.run none
        (Submission.process {} (bindingOf [wantedOn "1" "tg-1", wantedOn "2" "tg-2"]))
        (World.insert {} twoBalancers) = (some (.ok { batch := 1, flows := [1, 2] }), w') ∧
      (bindingOf [wantedOn "1" "tg-1", wantedOn "2" "tg-2"]).Authorised
        (Catalog.insert {} twoBalancers) ∧
      w'.store.tables.flows.values = fs ∧ ∀ f ∈ fs, f.StaysWithin ["tg-1", "tg-2"] := by
  have ended : (Program.run none
      (Submission.process {} (bindingOf [wantedOn "1" "tg-1", wantedOn "2" "tg-2"]))
      (World.insert {} twoBalancers)).1 = some (.ok { batch := 1, flows := [1, 2] }) := by
    decide +kernel
  have fits : (Program.run none
      (Submission.process {} (bindingOf [wantedOn "1" "tg-1", wantedOn "2" "tg-2"]))
      (World.insert {} twoBalancers)).2.store.tables.Fits := by
    decide +kernel
  have recorded : (Program.run none
      (Submission.process {} (bindingOf [wantedOn "1" "tg-1", wantedOn "2" "tg-2"]))
      (World.insert {} twoBalancers)).2.store.tables.batches.created = 1 := by
    decide +kernel
  rcases requests_authorised (.insert twoBalancers .empty) .empty (Prod.ext ended rfl) fits with
    ⟨-, same⟩ | ⟨authorised, fs, flows, within⟩
  · have none : (Program.run none
        (Submission.process {} (bindingOf [wantedOn "1" "tg-1", wantedOn "2" "tg-2"]))
        (World.insert {} twoBalancers)).2.store.tables.batches.created = 0 :=
      congrArg (fun s : Contents => s.tables.batches.created) same
    rw [recorded] at none
    cases none
  · exact ⟨_, fs, Prod.ext ended rfl, authorised, flows, within⟩

end BalancerFlows
