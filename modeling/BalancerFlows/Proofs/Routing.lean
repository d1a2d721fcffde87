import BalancerFlows.Batch.Routing
import BalancerFlows.Proofs.Gathering
import BalancerFlows.Proofs.Traces

/-!
# What a batch is split into

Routing only reads the catalog, so what it finds can be said of the catalog it started with. The
targets of a request are split by group and the bound groups by load balancer, and no target is
lost or comes twice on the way. Main statement: `Routing.yields_targets`.
-/
namespace BalancerFlows

namespace Keyed

variable {κ α : Type} [DecidableEq κ]

/-- Each value stands under its own key. -/
def Filed (key : α → κ) (t : Keyed κ α) : Prop :=
  ∀ k a, t.get? k = some a → key a = k

variable {key : α → κ} {t : Keyed κ α}

theorem Filed.put (h : Filed key t) (a : α) : Filed key (t.put (key a) a) := by
  intro k b found
  by_cases same : key a = k
  · subst same
    rw [get?_put, Option.some.injEq] at found
    exact found ▸ rfl
  · rw [get?_put_of_ne _ same] at found
    exact h k b found

theorem Filed.update (h : Filed key t) (k : κ) {change : α → α}
    (own : ∀ a, key (change a) = key a) : Filed key (t.update k change) := by
  intro other b found
  rw [get?_update_eq] at found
  split at found
  next =>
    obtain ⟨a, stored, rfl⟩ := Option.map_eq_some_iff.1 found
    rw [own]
    exact h other a stored
  next => exact h other b found

theorem Filed.erase (h : Filed key t) (k : κ) : Filed key (t.erase k) := by
  intro other b found
  by_cases same : k = other
  · subst same
    rw [get?_erase] at found
    cases found
  · rw [get?_erase_of_ne _ same] at found
    exact h other b found

end Keyed

namespace Catalog

/-- The catalogs that insertions and calls can lead to. -/
inductive Reachable : Catalog → Prop
  | empty : Reachable {}
  | insert {c : Catalog} (s : Stock) : Reachable c → Reachable (c.insert s)
  | call {c : Catalog} (call : CatalogCall) : Reachable c → Reachable (c.perform call).2

theorem filed_updateTargets {c : Catalog} (h : Keyed.Filed Target.id c.targets)
    (patches : List TargetPatch) : Keyed.Filed Target.id (c.updateTargets patches).2.targets := by
  induction patches generalizing c with
  | nil => exact h
  | cons p rest ih =>
      unfold updateTargets
      split
      next => exact h
      next => exact ih (h.update p.id fun _ => rfl)

theorem Reachable.filed {c : Catalog} (h : c.Reachable) : Keyed.Filed Target.id c.targets := by
  induction h with
  | empty =>
      intro k a found
      cases found
  | @insert c s _ ih =>
      show Keyed.Filed Target.id (s.targets.foldl (fun m t => m.put t.id t) c.targets)
      exact List.foldlRecOn s.targets _ ih fun _ filed t _ => Keyed.Filed.put filed t
  | @call c call _ ih =>
      cases call with
      | updateTargets patches => exact filed_updateTargets ih patches
      | deleteTargets ids =>
          show Keyed.Filed Target.id (ids.foldl Keyed.erase c.targets)
          exact List.foldlRecOn ids _ ih fun _ filed id _ => Keyed.Filed.erase filed id
      | createTargets news =>
          have created : Keyed.Filed Target.id
              ((nameTargets c.named news).foldl insertTarget c).targets :=
            List.foldlRecOn (motive := fun c : Catalog => Keyed.Filed Target.id c.targets) _ _ ih
              fun _ filed t _ => Keyed.Filed.put filed t
          exact created
      | _ => exact ih

/-- The targets of these ids, without those that do not exist. -/
def found (c : Catalog) (ids : List String) : List Target :=
  ids.filterMap c.targets.get?

theorem ids_found {c : Catalog} (filed : Keyed.Filed Target.id c.targets) {ids : List String}
    (all : ∀ id ∈ ids, id ∈ (c.found ids).map Target.id) : (c.found ids).map Target.id = ids := by
  have stored : ∀ id ∈ ids, ∃ t, c.targets.get? id = some t := by
    intro id mem
    obtain ⟨t, t_mem, rfl⟩ := List.mem_map.1 (all id mem)
    obtain ⟨other, -, same⟩ := List.mem_filterMap.1 t_mem
    exact ⟨t, (filed other t same).symm ▸ same⟩
  clear all
  induction ids with
  | nil => rfl
  | cons id ids ih =>
      obtain ⟨⟨t, same⟩, rest⟩ := List.forall_mem_cons.1 stored
      have others := ih rest
      rw [found] at others ⊢
      rw [List.filterMap_cons_some same, List.map_cons, others, filed id t same]

end Catalog

namespace Routing

/-- Groups and their targets as a catalog splits them: those without binding. -/
def unboundGroups (c : Catalog) (groups : List (String × List Target)) :
    List (String × List Target) :=
  groups.filter fun g => (c.bindings.get? g.1).isNone

/-- Groups and their targets as a catalog splits them: those with one. -/
def boundGroups (c : Catalog) (groups : List (String × List Target)) : List BoundTargets :=
  groups.filterMap fun g =>
    (c.bindings.get? g.1).map fun binding => { binding, targets := g.2 }

/-- The requested targets by group. -/
def groupsOf (c : Catalog) (ids : List String) : Keyed String (List Target) :=
  Keyed.gather Target.group (c.found ids)

/-- The bound groups of a request by load balancer. -/
def boundOf (c : Catalog) (ids : List String) : Keyed String (List BoundTargets) :=
  Keyed.gather (fun g => g.binding.balancer) (boundGroups c (groupsOf c ids))

/-- The work that targets mean, by what the catalog says. -/
def targetWork (c : Catalog) (route : TargetRoute) (ids : List String) : Routed :=
  { unbound := (unboundGroups c (groupsOf c ids)).map fun g => route.unbound g.1 g.2
    bound := (boundOf c ids).map fun g => (g.1, route.bound g.2) }

/-- There is a group of that id, of the vendor and account of the request. -/
def OwnsGroup (r : BatchRequest) (c : Catalog) (id : String) : Prop :=
  ∃ g, c.groups.get? id = some g ∧ g.vendor = r.vendor ∧ g.account = r.account

section Lists

variable (c : Catalog) (groups : List (String × List Target))

theorem split_perm : ((unboundGroups c groups).flatMap Prod.snd ++
    (boundGroups c groups).flatMap BoundTargets.targets).Perm (groups.flatMap Prod.snd) := by
  induction groups with
  | nil => exact .refl _
  | cons g rest ih =>
      obtain ⟨id, targets⟩ := g
      cases looked : c.bindings.get? id with
      | none =>
          have unbound : unboundGroups c ((id, targets) :: rest) =
              (id, targets) :: unboundGroups c rest := by
            simp [unboundGroups, looked]
          have bound : boundGroups c ((id, targets) :: rest) = boundGroups c rest := by
            simp [boundGroups, looked]
          rw [unbound, bound, List.flatMap_cons, List.flatMap_cons, List.append_assoc]
          exact ih.append_left targets
      | some b =>
          have unbound : unboundGroups c ((id, targets) :: rest) = unboundGroups c rest := by
            simp [unboundGroups, looked]
          have bound : boundGroups c ((id, targets) :: rest) =
              { binding := b, targets } :: boundGroups c rest := by
            simp [boundGroups, looked]
          rw [unbound, bound, List.flatMap_cons, List.flatMap_cons]
          exact (List.perm_append_comm_assoc _ _ _).trans (ih.append_left targets)

def Bound (t : Target) : Bool :=
  (c.bindings.get? t.group).isSome

theorem boundGroups_targets
    (own : ∀ g ∈ groups, ∀ t ∈ g.2, t.group = g.1) :
    (boundGroups c groups).flatMap BoundTargets.targets =
      (groups.flatMap Prod.snd).filter (Bound c) := by
  induction groups with
  | nil => rfl
  | cons g rest ih =>
      obtain ⟨id, targets⟩ := g
      obtain ⟨mine, others⟩ := List.forall_mem_cons.1 own
      rw [List.flatMap_cons, List.filter_append, ← ih others]
      cases looked : c.bindings.get? id with
      | none =>
          have none_bound : targets.filter (Bound c) = [] := by
            rw [List.filter_eq_nil_iff]
            intro t mem
            rw [Bound, mine t mem, looked]
            simp
          rw [none_bound]
          simp [boundGroups, looked]
      | some b =>
          have all_bound : targets.filter (Bound c) = targets := by
            rw [List.filter_eq_self]
            intro t mem
            rw [Bound, mine t mem, looked]
            rfl
          rw [all_bound]
          simp [boundGroups, looked]

end Lists

section Requests

variable {c : Catalog} {ids : List String}

theorem group_of_mem_groupsOf {g : String × List Target} (mem : g ∈ groupsOf c ids) :
    ∀ t ∈ g.2, t.group = g.1 :=
  Keyed.key_of_mem_gather mem

theorem boundOf_perm : ((boundOf c ids).flatMap fun g => g.2.flatMap BoundTargets.targets).Perm
    ((c.found ids).filter (Bound c)) := by
  have gathered := Keyed.gather_perm (fun g : BoundTargets => g.binding.balancer)
    (boundGroups c (groupsOf c ids))
  have targets := gathered.flatMap_right BoundTargets.targets
  rw [List.flatMap_assoc, boundGroups_targets c _ fun g => group_of_mem_groupsOf] at targets
  exact targets.trans ((Keyed.gather_perm Target.group (c.found ids)).filter _)

/-- The unbound and the bound targets together are the requested ones. -/
theorem requested_perm : ((unboundGroups c (groupsOf c ids)).flatMap Prod.snd ++
    (boundOf c ids).flatMap fun g => g.2.flatMap BoundTargets.targets).Perm (c.found ids) := by
  have gathered := Keyed.gather_perm (fun g : BoundTargets => g.binding.balancer)
    (boundGroups c (groupsOf c ids))
  have targets := gathered.flatMap_right BoundTargets.targets
  rw [List.flatMap_assoc] at targets
  have split := split_perm c (groupsOf c ids)
  exact ((targets.append_left _).trans split).trans (Keyed.gather_perm Target.group (c.found ids))

/-- A bound group on a load balancer is a group with a binding to it. -/
theorem binding_of_mem_boundOf {balancer : String} {groups : List BoundTargets}
    (mem : (balancer, groups) ∈ boundOf c ids) {g : BoundTargets} (g_mem : g ∈ groups) :
    ∃ group, c.bindings.get? group = some g.binding ∧ g.binding.balancer = balancer ∧
      ∀ t ∈ g.targets, t.group = group := by
  have on := Keyed.key_of_mem_gather mem g g_mem
  have gathered := Keyed.gather_perm (fun g : BoundTargets => g.binding.balancer)
    (boundGroups c (groupsOf c ids))
  have split : g ∈ boundGroups c (groupsOf c ids) :=
    gathered.mem_iff.1 (List.mem_flatMap.2 ⟨_, mem, g_mem⟩)
  obtain ⟨⟨group, targets⟩, gathered, made⟩ := List.mem_filterMap.1 split
  obtain ⟨b, looked, rfl⟩ := Option.map_eq_some_iff.1 made
  exact ⟨group, looked, on, group_of_mem_groupsOf gathered⟩

/-- There is work on a load balancer if the group of a requested target is bound to it. -/
theorem mem_keys_boundOf {balancer : String} : balancer ∈ (boundOf c ids).keys ↔
    ∃ t ∈ c.found ids, ∃ b, c.bindings.get? t.group = some b ∧ b.balancer = balancer := by
  rw [boundOf, Keyed.mem_keys_gather]
  constructor
  · rintro ⟨g, mem, on⟩
    obtain ⟨⟨group, targets⟩, gathered, made⟩ := List.mem_filterMap.1 mem
    obtain ⟨b, looked, rfl⟩ := Option.map_eq_some_iff.1 made
    have key : group ∈ (groupsOf c ids).keys := List.mem_map_of_mem gathered
    obtain ⟨t, t_mem, rfl⟩ := (Keyed.mem_keys_gather _ _ _).1 key
    exact ⟨t, t_mem, b, looked, on⟩
  · rintro ⟨t, t_mem, b, looked, on⟩
    have key : t.group ∈ (groupsOf c ids).keys := (Keyed.mem_keys_gather _ _ _).2 ⟨t, t_mem, rfl⟩
    obtain ⟨⟨group, targets⟩, gathered, same⟩ := List.mem_map.1 key
    have same : group = t.group := same
    refine ⟨{ binding := b, targets }, List.mem_filterMap.2 ⟨_, gathered, ?_⟩, on⟩
    rw [same, looked]
    rfl

end Requests

section Reading

variable {faults : Faults} {s : Contents}

theorem yields_ask (c : CatalogCall) (reads : (s.catalog.perform c).2 = s.catalog) :
    Work.Yields faults (fun a s' => s' = s ∧ (s.catalog.perform c).1 = .ok a) (ask c) s := by
  intro numbered past outcome s' answered numbered'
  refine ⟨numbered', fun r ended a ok => ?_⟩
  cases ended
  cases answered with
  | refused => cases ok
  | catalog => exact ⟨congrArg (Contents.mk s.tables) reads, ok⟩

theorem checkOwner_passes {kind id : String} {vendor : Vendor} {account : String}
    {r : BatchRequest} : (∃ u, checkOwner kind id vendor account r = .ok u) ↔
      vendor = r.vendor ∧ account = r.account := by
  unfold checkOwner
  split
  next own => simp [own]
  next foreign => simp [foreign]

theorem checkOwner_eq_ok {kind id : String} {vendor : Vendor} {account : String}
    {r : BatchRequest} {u : Unit} (h : checkOwner kind id vendor account r = .ok u) :
    vendor = r.vendor ∧ account = r.account :=
  checkOwner_passes.1 ⟨u, h⟩

theorem yields_group (r : BatchRequest) (id : String) :
    Work.Yields faults (fun _ s' => s' = s ∧ OwnsGroup r s.catalog id) (group r id) s := by
  apply Work.Yields.bind (yields_ask (.getGroup id) rfl)
  rintro g s' ⟨rfl, looked⟩
  cases g with
  | none => exact Work.yields_throw _
  | some g =>
      exact Work.yields_check fun _ checked =>
        Work.yields_pure ⟨rfl, g, Except.ok.inj looked, checkOwner_eq_ok checked⟩

theorem yields_splitGroups (r : BatchRequest) (split : SplitGroups)
    (groups : List (String × List Target)) :
    Work.Yields faults
      (fun result s' => s' = s ∧ (∀ g ∈ groups, OwnsGroup r s.catalog g.1) ∧ result = {
        unbound := split.unbound ++ unboundGroups s.catalog groups
        bound := (boundGroups s.catalog groups).foldl
          (fun t g => Keyed.pushTo t g.binding.balancer g) split.bound })
      (splitGroups r split groups) s := by
  induction groups generalizing split with
  | nil =>
      apply Work.yields_pure
      simp [unboundGroups, boundGroups]
  | cons g rest ih =>
      obtain ⟨id, targets⟩ := g
      apply Work.Yields.bind (yields_group r id)
      rintro _ s' ⟨rfl, own⟩
      apply Work.Yields.bind (yields_ask (.findBinding id) rfl)
      rintro binding s' ⟨rfl, looked⟩
      have looked : s'.catalog.bindings.get? id = binding := Except.ok.inj looked
      cases binding with
      | none =>
          apply (ih { split with unbound := split.unbound ++ [(id, targets)] }).mono
          rintro result s ended
          simpa [own, unboundGroups, boundGroups, looked] using ended
      | some binding =>
          apply (ih { split with
            bound := split.bound.pushTo binding.balancer { binding, targets } }).mono
          rintro result s ended
          simpa [own, unboundGroups, boundGroups, looked] using ended

theorem mem_of_ensureFound {kind : String} {requested found : List String}
    (h : ensureFound kind requested found = .ok ()) : ∀ id ∈ requested, id ∈ found := by
  intro id mem
  by_contra absent
  unfold ensureFound at h
  split at h
  next none =>
    have missing := List.filter_eq_nil_iff.1 none id mem
    exact missing (decide_eq_true absent)
  next => cases h

/-- What is made of existing targets. -/
theorem yields_targets (r : BatchRequest) (route : TargetRoute) (ids : List String) :
    Work.Yields faults
      (fun work s' => s' = s ∧ (∀ id ∈ ids, id ∈ (s.catalog.found ids).map Target.id) ∧
        (∀ g ∈ groupsOf s.catalog ids, OwnsGroup r s.catalog g.1) ∧
        work = targetWork s.catalog route ids)
      (targets r route ids) s := by
  apply Work.Yields.bind (yields_ask (.listTargets ids) rfl)
  rintro found s' ⟨rfl, listed⟩
  have listed : s'.catalog.found ids = found := Except.ok.inj listed
  subst listed
  apply Work.yields_check
  intro _ all
  apply Work.Yields.bind (yields_splitGroups r {} (groupsOf s'.catalog ids))
  rintro split s ⟨rfl, own, rfl⟩
  exact Work.yields_pure ⟨rfl, mem_of_ensureFound all, own, rfl⟩

end Reading

end Routing

end BalancerFlows
