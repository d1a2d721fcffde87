import BalancerFlows.Proofs.Authority
import BalancerFlows.Proofs.Calm
import BalancerFlows.Proofs.Fulfilment

/-!
# How existing targets are resolved

Resolving targets only reads: it succeeds exactly if all of them exist and their groups belong to
the requester, and it fails for missing targets before any group is looked at. What comes out is
the requested targets sorted twice, by group and the bound groups by load balancer, both in the
order in which they first come. Main statement: `Routing.targets_resolved`.
-/
namespace BalancerFlows

namespace Catalog

/-- The load balancer that a group is bound to. -/
def balancer? (c : Catalog) (group : String) : Option String :=
  (c.bindings.get? group).map Binding.balancer

/-- The ids that name no target, in the order of the request and as often as they are named. -/
def missing (c : Catalog) (ids : List String) : List String :=
  ids.filter fun id => (c.targets.get? id).isNone

end Catalog

namespace Routing

/-- Targets grouped for their work: the unbound groups, the load balancers and the groups of each of
them in the order in which their targets first come, and in every group all its targets in order. -/
structure Grouped (c : Catalog) (ts : List Target) (unbound : List (String × List Target))
    (bound : List (String × List BoundTargets)) : Prop where
  groups : unbound.map Prod.fst =
    ((ts.map Target.group).filter fun group => (c.balancer? group).isNone).eraseDups
  groupTargets : ∀ g ∈ unbound, g.2 = ts.filter fun t => t.group = g.1
  balancers : bound.map Prod.fst = ((ts.map Target.group).filterMap c.balancer?).eraseDups
  boundGroups : ∀ b ∈ bound, (b.2.map fun g => g.binding.group) =
    ((ts.map Target.group).filter fun group => c.balancer? group = some b.1).eraseDups
  bindings : ∀ b ∈ bound, ∀ g ∈ b.2, c.bindings.get? g.binding.group = some g.binding
  boundTargets : ∀ b ∈ bound, ∀ g ∈ b.2, g.targets = ts.filter fun t => t.group = g.binding.group

namespace Grouped

variable {c : Catalog} {ts : List Target} {unbound : List (String × List Target)}
  {bound : List (String × List BoundTargets)}

theorem filter_group_ne_nil {group : String} (mem : group ∈ ts.map Target.group) :
    (ts.filter fun t => t.group = group) ≠ [] := by
  obtain ⟨t, t_mem, rfl⟩ := List.mem_map.1 mem
  exact List.ne_nil_of_mem (List.mem_filter.2 ⟨t_mem, decide_eq_true rfl⟩)

theorem filled (h : Grouped c ts unbound bound) :
    (∀ g ∈ unbound, g.2 ≠ []) ∧ ∀ b ∈ bound, b.2 ≠ [] ∧ ∀ g ∈ b.2, g.targets ≠ [] := by
  refine ⟨fun g mem => ?_, fun b mem => ⟨fun none => ?_, fun g g_mem => ?_⟩⟩
  · have named : g.1 ∈ unbound.map Prod.fst := List.mem_map_of_mem mem
    rw [h.groups, List.mem_eraseDups] at named
    rw [h.groupTargets g mem]
    exact filter_group_ne_nil (List.mem_of_mem_filter named)
  · have named : b.1 ∈ bound.map Prod.fst := List.mem_map_of_mem mem
    rw [h.balancers, List.mem_eraseDups] at named
    obtain ⟨group, group_mem, on⟩ := List.mem_filterMap.1 named
    have listed : group ∈ b.2.map fun g => g.binding.group := by
      rw [h.boundGroups b mem, List.mem_eraseDups, List.mem_filter]
      exact ⟨group_mem, decide_eq_true on⟩
    rw [none] at listed
    cases listed
  · have named : g.binding.group ∈ b.2.map fun g => g.binding.group :=
      List.mem_map_of_mem (f := fun g : BoundTargets => g.binding.group) g_mem
    rw [h.boundGroups b mem, List.mem_eraseDups] at named
    rw [h.boundTargets b mem g g_mem]
    exact filter_group_ne_nil (List.mem_of_mem_filter named)

/-- No load balancer comes twice, and no group comes twice, be it bound or not. -/
theorem once (h : Grouped c ts unbound bound) :
    (bound.map Prod.fst).Nodup ∧ (unbound.map Prod.fst ++
      bound.flatMap fun b => b.2.map fun g => g.binding.group).Nodup := by
  have balancers : (bound.map Prod.fst).Nodup := by
    rw [h.balancers]
    exact nodup_eraseDups _
  have on : ∀ b ∈ bound, ∀ group ∈ b.2.map fun g => g.binding.group,
      c.balancer? group = some b.1 := by
    intro b mem group listed
    rw [h.boundGroups b mem, List.mem_eraseDups, List.mem_filter] at listed
    exact of_decide_eq_true listed.2
  refine ⟨balancers, List.nodup_append.2 ⟨?_, List.nodup_flatMap.2 ⟨fun b mem => ?_, ?_⟩, ?_⟩⟩
  · rw [h.groups]
    exact nodup_eraseDups _
  · rw [h.boundGroups b mem]
    exact nodup_eraseDups _
  · refine (List.pairwise_map.1 balancers).imp_of_mem fun {b b'} mem mem' ne group here there => ?_
    exact ne (Option.some.inj ((on b mem group here).symm.trans (on b' mem' group there)))
  · rintro group free other taken rfl
    rw [h.groups, List.mem_eraseDups, List.mem_filter] at free
    obtain ⟨b, mem, listed⟩ := List.mem_flatMap.1 taken
    rw [on b mem group listed] at free
    cases free.2

end Grouped

section Groups

variable {c : Catalog}

theorem map_balancer_boundGroups (groups : List (String × List Target)) :
    ((boundGroups c groups).map fun g => g.binding.balancer) =
      (groups.map Prod.fst).filterMap c.balancer? := by
  simp only [boundGroups, List.map_filterMap, List.filterMap_map, Option.map_map]
  rfl

theorem map_group_filter_boundGroups (filed : Keyed.Filed Binding.group c.bindings)
    (balancer : String) (groups : List (String × List Target)) :
    ((boundGroups c groups).filter fun g => g.binding.balancer = balancer).map
        (fun g => g.binding.group) =
      (groups.map Prod.fst).filter fun group => c.balancer? group = some balancer := by
  induction groups with
  | nil => rfl
  | cons g rest ih =>
      obtain ⟨group, targets⟩ := g
      cases looked : c.bindings.get? group with
      | none =>
          have first : boundGroups c ((group, targets) :: rest) = boundGroups c rest := by
            simp [boundGroups, looked]
          rw [first, ih]
          simp [Catalog.balancer?, looked]
      | some b =>
          have first : boundGroups c ((group, targets) :: rest) =
              { binding := b, targets } :: boundGroups c rest := by
            simp [boundGroups, looked]
          have own : b.group = group := filed group b looked
          rw [first, List.filter_cons, List.map_cons, List.filter_cons, ← ih]
          simp only [Catalog.balancer?, looked, Option.map_some, Option.some.injEq]
          split
          · rw [List.map_cons, own]
          · rfl

/-- A catalog groups targets as their work wants it. -/
theorem grouped_targets (filed : Keyed.Filed Binding.group c.bindings) (ids : List String) :
    Grouped c (c.found ids) (unboundGroups c (groupsOf c ids)) (boundOf c ids) := by
  have names : (groupsOf c ids).map Prod.fst = ((c.found ids).map Target.group).eraseDups :=
    Keyed.keys_gather _ _
  have at_group : ∀ g ∈ groupsOf c ids, g.2 = (c.found ids).filter fun t => t.group = g.1 :=
    fun g mem => Keyed.eq_filter_of_mem_gather mem
  have gathered : ∀ b ∈ boundOf c ids,
      b.2 = (boundGroups c (groupsOf c ids)).filter fun g => g.binding.balancer = b.1 :=
    fun b mem => Keyed.eq_filter_of_mem_gather mem
  have member : ∀ b ∈ boundOf c ids, ∀ g ∈ b.2,
      c.bindings.get? g.binding.group = some g.binding ∧
        (g.binding.group, g.targets) ∈ groupsOf c ids := by
    intro b mem g g_mem
    rw [gathered b mem] at g_mem
    obtain ⟨⟨group, targets⟩, listed, made⟩ := List.mem_filterMap.1 (List.mem_of_mem_filter g_mem)
    obtain ⟨binding, looked, rfl⟩ := Option.map_eq_some_iff.1 made
    have own : binding.group = group := filed group binding looked
    exact ⟨own ▸ looked, own ▸ listed⟩
  refine ⟨?_, fun g mem => at_group g (List.mem_of_mem_filter mem), ?_, fun b mem => ?_,
    fun b mem g g_mem => (member b mem g g_mem).1,
    fun b mem g g_mem => at_group _ (member b mem g g_mem).2⟩
  · rw [eraseDups_filter, ← names, List.filter_map]
    simp only [unboundGroups, Catalog.balancer?, Function.comp_def, Option.isNone_map]
  · refine (Keyed.keys_gather _ _).trans ?_
    rw [map_balancer_boundGroups, names, eraseDups_filterMap]
  · rw [gathered b mem, map_group_filter_boundGroups filed, names, eraseDups_filter]

end Groups

/-- The work changes nothing; under a condition it succeeds, with a value of a kind, and otherwise
it fails. -/
def Resolves {α : Type} (s : Contents) (P : Prop) (V : α → Prop) (x : Work α) : Prop :=
  (P ∧ ∃ a, V a ∧ Program.exec [] x s = (some (.ok a), s)) ∨
    (¬ P ∧ ∃ failure, Program.exec [] x s = (some (.error failure), s))

namespace Resolves

variable {α β : Type} {s : Contents} {P Q : Prop} {V : α → Prop} {W : β → Prop}

theorem congr {x : Work α} (h : Resolves s P V x) (same : P ↔ Q) : Resolves s Q V x :=
  propext same ▸ h

theorem pure {a : α} (kind : V a) : Resolves s True V (Pure.pure a : Work α) :=
  .inl ⟨trivial, a, kind, rfl⟩

theorem throw (failure : Failure) : Resolves s False V (MonadExcept.throw failure : Work α) :=
  .inr ⟨not_false, failure, rfl⟩

theorem check (x : Except Failure α) : Resolves s (∃ a, x = .ok a) (fun _ => True)
    (Work.ofExcept x) := by
  cases x with
  | ok a => exact .inl ⟨⟨a, rfl⟩, a, trivial, rfl⟩
  | error failure => exact .inr ⟨by simp, failure, rfl⟩

theorem bind {x : Work α} {f : α → Work β} (first : Resolves s P V x)
    (next : ∀ a, V a → Resolves s Q W (f a)) : Resolves s (P ∧ Q) W (x >>= f) := by
  rcases first with ⟨p, a, kind, ended⟩ | ⟨p, failure, ended⟩
  · rcases next a kind with ⟨q, b, result, ended'⟩ | ⟨q, failure, ended'⟩
    · exact .inl ⟨⟨p, q⟩, b, result, (Work.exec_bind_of_ok ended).trans ended'⟩
    · exact .inr ⟨fun both => q both.2, failure, (Work.exec_bind_of_ok ended).trans ended'⟩
  · exact .inr ⟨fun both => p both.1, failure, Work.exec_bind_of_error ended⟩

theorem ask {c : CatalogCall} {a : c.Answer} {f : c.Answer → Work β}
    (answer : s.catalog.perform c = (.ok a, s.catalog)) (next : Resolves s Q W (f a)) :
    Resolves s Q W (Routing.ask c >>= f) := by
  have ended : Program.exec [] (Routing.ask c) s = (some (.ok a), s) := by
    refine (Work.exec_ask (.timed c.name) (.catalog c) s).trans ?_
    simp [Call.exec, Keyed.get?, answer]
  unfold Resolves
  rw [Work.exec_bind_of_ok ended]
  exact next

end Resolves

section Reading

variable {s : Contents}

theorem resolves_group (r : BatchRequest) (id : String) :
    Resolves s (OwnsGroup r s.catalog id) (fun _ => True) (group r id) := by
  apply Resolves.ask rfl
  cases looked : s.catalog.groups.get? id with
  | none => exact (Resolves.throw _).congr (by simp [OwnsGroup, looked])
  | some g =>
      refine ((Resolves.check _).bind fun _ _ => Resolves.pure trivial).congr ?_
      rw [checkOwner_passes, and_true]
      simp [OwnsGroup, looked]

theorem resolves_splitGroups (r : BatchRequest) (split : SplitGroups)
    (groups : List (String × List Target)) :
    Resolves s (∀ g ∈ groups, OwnsGroup r s.catalog g.1)
      (· = { unbound := split.unbound ++ unboundGroups s.catalog groups
             bound := (boundGroups s.catalog groups).foldl
               (fun t g => Keyed.pushTo t g.binding.balancer g) split.bound })
      (splitGroups r split groups) := by
  induction groups generalizing split with
  | nil => exact (Resolves.pure (by simp [unboundGroups, boundGroups])).congr (by simp)
  | cons g rest ih =>
      obtain ⟨id, targets⟩ := g
      rw [List.forall_mem_cons]
      refine (resolves_group r id).bind fun _ _ => Resolves.ask rfl ?_
      cases looked : s.catalog.bindings.get? id with
      | none =>
          have next := ih { split with unbound := split.unbound ++ [(id, targets)] }
          simpa [unboundGroups, boundGroups, looked] using next
      | some binding =>
          have next := ih { split with
            bound := split.bound.pushTo binding.balancer { binding, targets } }
          simpa [unboundGroups, boundGroups, looked] using next

/-- The ids that are not found are those that name no target. -/
theorem filter_notMem_found {c : Catalog} (filed : Keyed.Filed Target.id c.targets)
    (ids : List String) :
    (ids.filter fun id => id ∉ (c.found ids).map Target.id) = c.missing ids := by
  refine List.filter_congr fun id mem => ?_
  rw [Bool.eq_iff_iff, decide_eq_true_iff, Option.isNone_iff_eq_none,
    Option.eq_none_iff_forall_ne_some]
  constructor
  · intro absent t stored
    exact absent (List.mem_map.2 ⟨t, List.mem_filterMap.2 ⟨id, mem, stored⟩, filed id t stored⟩)
  · rintro none listed
    obtain ⟨t, t_mem, rfl⟩ := List.mem_map.1 listed
    obtain ⟨other, -, stored⟩ := List.mem_filterMap.1 t_mem
    exact none t (filed other t stored ▸ stored)

theorem ensureFound_eq {c : Catalog} (filed : Keyed.Filed Target.id c.targets)
    (ids : List String) :
    ensureFound "target" ids ((c.found ids).map Target.id) =
      if c.missing ids = [] then .ok ()
      else .error (.notFound ("target " ++ ", ".intercalate (c.missing ids))) := by
  unfold ensureFound
  rw [filter_notMem_found filed]
  cases c.missing ids <;> rfl

/-- Targets resolve if none is missing and all their groups are the requester's. -/
theorem resolves_targets (filed : Keyed.Filed Target.id s.catalog.targets) (r : BatchRequest)
    (route : TargetRoute) (ids : List String) :
    Resolves s (s.catalog.missing ids = [] ∧
        ∀ g ∈ groupsOf s.catalog ids, OwnsGroup r s.catalog g.1)
      (· = targetWork s.catalog route ids) (targets r route ids) := by
  apply Resolves.ask rfl
  have all_found : (∃ u, ensureFound "target" ids ((s.catalog.found ids).map Target.id) = .ok u) ↔
      s.catalog.missing ids = [] := by
    rw [ensureFound_eq filed]
    split <;> simp_all
  have split := resolves_splitGroups (s := s) r {} (groupsOf s.catalog ids)
  refine ((Resolves.check _).congr all_found).bind fun _ _ =>
    (split.bind fun result same => ?_).congr (and_true _).to_iff
  rw [same]
  exact Resolves.pure rfl

end Reading

section Targets

variable {c : Catalog} {ids : List String}

theorem missing_eq_nil_iff :
    c.missing ids = [] ↔ ∀ id ∈ ids, ∃ t, c.targets.get? id = some t := by
  simp [Catalog.missing, List.filter_eq_nil_iff, Option.ne_none_iff_exists']

/-- No target is missing, so that they are found one by one. -/
theorem map_found (none : c.missing ids = []) :
    (c.found ids).map some = ids.map c.targets.get? := by
  rw [missing_eq_nil_iff] at none
  induction ids with
  | nil => rfl
  | cons id rest ih =>
      obtain ⟨⟨t, stored⟩, others⟩ := List.forall_mem_cons.1 none
      have first : c.found (id :: rest) = t :: c.found rest := List.filterMap_cons_some stored
      rw [first, List.map_cons, List.map_cons, ih others, stored]

theorem owned_iff (r : BatchRequest) :
    (c.missing ids = [] ∧ ∀ g ∈ groupsOf c ids, OwnsGroup r c g.1) ↔
      ∀ id ∈ ids, ∃ t, c.targets.get? id = some t ∧ OwnsGroup r c t.group := by
  rw [missing_eq_nil_iff]
  constructor
  · rintro ⟨stored, own⟩ id mem
    obtain ⟨t, found⟩ := stored id mem
    have listed : t.group ∈ (c.found ids).map Target.group :=
      List.mem_map_of_mem (List.mem_filterMap.2 ⟨id, mem, found⟩)
    obtain ⟨g, g_mem, same⟩ := mem_keys_groupsOf.1 listed
    exact ⟨t, found, same ▸ own g g_mem⟩
  · intro each
    refine ⟨fun id mem => (each id mem).imp fun t => And.left, fun g g_mem => ?_⟩
    obtain ⟨t, t_mem, same⟩ := List.mem_map.1 (mem_keys_groupsOf.2 ⟨g, g_mem, rfl⟩)
    obtain ⟨id, mem, found⟩ := List.mem_filterMap.1 t_mem
    obtain ⟨t', found', own⟩ := each id mem
    rw [found, Option.some.injEq] at found'
    rw [← same, found']
    exact own

end Targets

section Asking

variable {β : Type} {w : World} {c : CatalogCall} {f : c.Answer → Work β} {a : c.Answer}
  (answered : (w.call none (.timed c.name) (.catalog c)).1 = .ok a)
include answered

theorem run_ask : Program.run none (ask c >>= f : Work β) w =
    Program.run none (f a) (w.call none (.timed c.name) (.catalog c)).2 := by
  show Program.run none (ExceptT.bindCont f (w.call none (.timed c.name) (.catalog c)).1) _ = _
  rw [answered]
  rfl

theorem steps_ask : (Program.steps none (ask c >>= f : Work β) w).map Step.call =
    .catalog c :: (Program.steps none (f a)
      (w.call none (.timed c.name) (.catalog c)).2).map Step.call := by
  show _ :: (Program.steps none (ExceptT.bindCont f _) _).map Step.call = _
  rw [answered]
  rfl

end Asking

section Runs

variable {w : World} (unrefused : w.catalogFaults = [])
include unrefused

/-- A run of work that only looks things up succeeds just if the work resolves. -/
theorem run_of_resolves {α : Type} {P : Prop} {V : α → Prop} {x : Work α}
    (reads : Program.Makes Call.Reads x) (h : Resolves w.contents P V x) :
    ((∃ a, (Program.run none x w).1 = some (.ok a)) ↔ P) ∧
      ∀ a, (Program.run none x w).1 = some (.ok a) → V a := by
  rw [reads.run_reads w, unrefused]
  rcases h with ⟨p, a, kind, ended⟩ | ⟨p, failure, ended⟩
  · rw [ended]
    refine ⟨by simp [p], fun b same => ?_⟩
    cases same
    exact kind
  · rw [ended]
    exact ⟨by simp [p], nofun⟩

/-- Where targets are missing, nothing else is asked than for the targets. -/
theorem targets_of_missing (filed : Keyed.Filed Target.id w.catalog.targets) (r : BatchRequest)
    (route : TargetRoute) {ids : List String} (absent : w.catalog.missing ids ≠ []) :
    (Program.run none (targets r route ids) w).1 = some (.error (.notFound
        ("target " ++ ", ".intercalate (w.catalog.missing ids)))) ∧
      (Program.steps none (targets r route ids) w).map Step.call =
        [.catalog (.listTargets ids)] := by
  have listed : (w.call none (.timed (CatalogCall.listTargets ids).name)
      (.catalog (.listTargets ids))).1 = .ok (w.catalog.found ids) := by
    rw [(w.call_catalog _ _).1, unrefused]
    rfl
  have refused := ensureFound_eq filed ids
  rw [if_neg absent] at refused
  constructor
  · rw [targets, run_ask listed, refused]
    rfl
  · rw [targets, steps_ask listed, refused]
    rfl

end Runs

/-- Where the inventory refuses no call and there is no deadline, targets resolve just if all of
them exist and their groups are the requester's. If some are missing, the failure names them all and
no group was looked at. What comes out is the targets in groups, with no group or load balancer
empty or coming twice. -/
theorem targets_resolved {w : World} (reachable : w.catalog.Reachable)
    (unrefused : w.catalogFaults = []) (r : BatchRequest) (route : TargetRoute)
    (ids : List String) :
    ((∃ work, (Program.run none (targets r route ids) w).1 = some (.ok work)) ↔
      ∀ id ∈ ids, ∃ t, w.catalog.targets.get? id = some t ∧ OwnsGroup r w.catalog t.group) ∧
    ((∃ id ∈ ids, w.catalog.targets.get? id = none) →
      (Program.run none (targets r route ids) w).1 = some (.error (.notFound
          ("target " ++ ", ".intercalate (w.catalog.missing ids)))) ∧
        (Program.steps none (targets r route ids) w).map Step.call =
          [.catalog (.listTargets ids)]) ∧
    ∀ work, (Program.run none (targets r route ids) w).1 = some (.ok work) →
      ∃ ts unbound bound, ts.map some = ids.map w.catalog.targets.get? ∧
        Grouped w.catalog ts unbound bound ∧
        work = { unbound := unbound.map fun g => route.unbound g.1 g.2
                 bound := bound.map fun b => (b.1, route.bound b.2) } ∧
        ((∀ g ∈ unbound, g.2 ≠ []) ∧ ∀ b ∈ bound, b.2 ≠ [] ∧ ∀ g ∈ b.2, g.targets ≠ []) ∧
        (bound.map Prod.fst).Nodup ∧ (unbound.map Prod.fst ++
          bound.flatMap fun b => b.2.map fun g => g.binding.group).Nodup := by
  have filed := reachable.filed
  obtain ⟨succeeds, value⟩ := run_of_resolves unrefused (asks_targets r route ids).makes
    (resolves_targets filed r route ids)
  refine ⟨succeeds.trans (owned_iff r), fun ⟨id, mem, absent⟩ => ?_, fun work ended => ?_⟩
  · refine targets_of_missing unrefused filed r route fun none => ?_
    obtain ⟨t, stored⟩ := missing_eq_nil_iff.1 none id mem
    rw [absent] at stored
    cases stored
  · have grouped := grouped_targets reachable.orderly.bindings ids
    have all_found := map_found (succeeds.1 ⟨work, ended⟩).1
    exact ⟨_, _, _, all_found, grouped, value work ended, grouped.filled, grouped.once⟩

/-- A group without binding and one behind a load balancer, a target of the first being named
twice. -/
theorem targets_resolved_twoGroups :
    ∃ work unbound bound,
      (Program.run none (targets (removalOf ["t-3", "t-2", "t-3"]) removalRoute
        ["t-3", "t-2", "t-3"]) (World.insert {} twoGroups)).1 = some (.ok work) ∧
      Grouped (World.insert {} twoGroups).catalog [stockedTarget "t-3" "tg-3",
        stockedTarget "t-2" "tg-2", stockedTarget "t-3" "tg-3"] unbound bound ∧
      work = { unbound := unbound.map fun g => .remove g.1 g.2
               bound := bound.map fun b => (b.1, .removeTargets b.2) } := by
  obtain ⟨succeeds, -, resolved⟩ := targets_resolved (w := World.insert {} twoGroups)
    (.insert _ .empty) rfl (removalOf ["t-3", "t-2", "t-3"]) removalRoute ["t-3", "t-2", "t-3"]
  have owned : ∀ id ∈ ["t-3", "t-2", "t-3"], ∃ t,
      (World.insert {} twoGroups).catalog.targets.get? id = some t ∧
        OwnsGroup (removalOf ["t-3", "t-2", "t-3"]) (World.insert {} twoGroups).catalog
          t.group := by
    refine List.forall_mem_cons.2 ⟨⟨_, rfl, _, rfl, rfl, rfl⟩, List.forall_mem_cons.2 ⟨?_, ?_⟩⟩
    · exact ⟨_, rfl, _, rfl, rfl, rfl⟩
    · exact List.forall_mem_singleton.2 ⟨_, rfl, _, rfl, rfl, rfl⟩
  obtain ⟨work, ended⟩ := succeeds.2 owned
  obtain ⟨ts, unbound, bound, found, grouped, same, -⟩ := resolved work ended
  have three : ts = [stockedTarget "t-3" "tg-3", stockedTarget "t-2" "tg-2",
      stockedTarget "t-3" "tg-3"] := by
    refine List.map_injective_iff.2 (Option.some_injective _) (found.trans ?_)
    decide +kernel
  exact ⟨work, unbound, bound, ended, three ▸ grouped, same⟩

end Routing

end BalancerFlows
