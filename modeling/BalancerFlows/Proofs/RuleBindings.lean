import BalancerFlows.Proofs.Attachment
import BalancerFlows.Proofs.Routing
import BalancerFlows.Proofs.Working

/-!
# Which rules are bound

A request to bind target groups is split by load balancer, and each load balancer gets at most one
flow, whose plan refuses a group that comes twice. So no two tasks of a request bind a group on one
load balancer. Bindings of one group on two load balancers are planned apart, and nothing compares
them. Main statement: `rules_bound_once`.
-/
namespace BalancerFlows

/-- The binding for which the request creates a rule, if it is one for that. -/
def CloudRequest.rule? : CloudRequest → Option Binding
  | bindTargetGroupRule b => some b
  | _ => none

def Flow.rules (f : Flow) : List Binding :=
  f.tasks.filterMap fun task => task.params.request.rule?

namespace Plan

def rules (calls : List PlannedCall) : List Binding :=
  calls.filterMap fun c => c.request.rule?

theorem rules_bindingCalls (limit : Nat) (groups : List BoundSpecs) :
    rules (groups.flatMap (bindingCalls limit)) = groups.map BoundSpecs.binding := by
  induction groups with
  | nil => rfl
  | cons g rest ih =>
      have registered : rules ((chunksOf limit g.targets).map (registrationCall g.binding)) = [] :=
        List.filterMap_eq_nil_iff.2 fun c mem => by
          obtain ⟨chunk, -, rfl⟩ := List.mem_map.1 mem
          rfl
      rw [rules] at registered ih ⊢
      rw [List.flatMap_cons, List.filterMap_append, ih, bindingCalls]
      exact congrArg (fun more => g.binding :: more ++ rest.map BoundSpecs.binding) registered

theorem groupBindings_once {balancer : String} {limit : Nat} {bound : List String}
    {groups : List BoundSpecs} {calls : List PlannedCall}
    (h : groupBindings balancer limit bound groups = .ok calls) :
    (groups.map fun g => g.binding.group).Nodup ∧ ∀ g ∈ groups, g.binding.group ∉ bound := by
  induction groups generalizing bound calls with
  | nil => simp
  | cons g rest ih =>
      obtain ⟨-, -, h⟩ := Except.bind_eq_ok_iff.1 h
      split at h
      · cases h
      next new =>
        obtain ⟨more, planned, -⟩ := Except.bind_eq_ok_iff.1 h
        obtain ⟨once, others⟩ := ih planned
        refine ⟨List.nodup_cons.2 ⟨fun mem => ?_, once⟩, List.forall_mem_cons.2 ⟨new, ?_⟩⟩
        · obtain ⟨g', g'_mem, same⟩ := List.mem_map.1 mem
          exact others g' g'_mem (same ▸ List.mem_cons_self)
        · exact fun g' g'_mem old => others g' g'_mem (List.mem_cons_of_mem _ old)

end Plan

/-- The flow is for that load balancer, and binds all groups that are wanted on it, each once. -/
structure Flow.Binds (f : Flow) (wanted : List Binding) (balancer : String) : Prop where
  on : f.balancer? = some balancer
  rules : f.rules = wanted.filter fun b => b.balancer = balancer
  once : (f.rules.map Binding.group).Nodup

/-- The flow binds the groups of one load balancer. -/
structure BindsGroups (g : String × List BoundSpecs) (f : Flow) : Prop where
  on : f.balancer? = some g.1
  rules : f.rules = g.2.map BoundSpecs.binding
  once : (g.2.map fun g => g.binding.group).Nodup

theorem Construction.Serves.bindsGroups {limits : BatchLimits} {g : String × List BoundSpecs}
    {plan : Plan} {f : Flow} (serves : Serves g.1 plan f)
    (planned : (Job.bindTargetGroups g.2).planUnder g.1 limits = .ok plan) :
    BindsGroups g f := by
  obtain ⟨-, planned⟩ := Plan.bindTargetGroups_spec planned
  have rules : f.rules = Plan.rules plan.calls := by
    have requests := congrArg (List.filterMap CloudRequest.rule?) serves.calls
    rwa [List.filterMap_map, List.filterMap_map] at requests
  refine ⟨serves.on, ?_, (Plan.groupBindings_once planned).1⟩
  rw [rules, Plan.groupBindings_spec planned, Plan.rules_bindingCalls]

namespace Routing

variable {faults : Faults} {s : Contents} {r : BatchRequest}

theorem yields_newBinding (r : BatchRequest) (b : Binding) :
    Work.Yields faults (fun g _ => g.binding = b) (newBinding r b) s := by
  refine Work.yields_after fun _ _ => Work.yields_after fun existing _ => ?_
  cases existing with
  | some existing => exact Work.yields_throw _
  | none =>
      exact Work.yields_after fun _ _ => Work.yields_after fun _ _ => Work.yields_after fun _ _ =>
        Work.yields_pure rfl

theorem yields_newBindings (r : BatchRequest) (wanted : List Binding) :
    Work.Yields faults (fun groups _ => groups.map BoundSpecs.binding = wanted)
      (newBindings r wanted) s := by
  induction wanted generalizing s with
  | nil => exact Work.yields_pure rfl
  | cons b rest ih =>
      apply (yields_newBinding r b).bind
      rintro g s₁ rfl
      apply Work.Yields.bind ih
      rintro groups s₂ rfl
      exact Work.yields_pure rfl

/-- Groups to bind, by the load balancers that they are to be bound on. -/
def byBalancer (groups : List BoundSpecs) : Keyed String (List BoundSpecs) :=
  Keyed.gather (fun g => g.binding.balancer) groups

/-- One job for each load balancer, with the groups to bind on it. -/
def bindingWork (groups : List BoundSpecs) : Routed :=
  { bound := (byBalancer groups).map fun g => (g.1, .bindTargetGroups g.2) }

theorem yields_route_bindings {wanted : List Binding}
    (asked : r.command = .bindTargetGroups wanted) :
    Work.Yields faults (fun work _ => ∃ groups : List BoundSpecs,
      groups.map BoundSpecs.binding = wanted ∧ work = bindingWork groups) (route r) s := by
  unfold route
  rw [asked]
  apply (yields_newBindings r wanted).bind
  rintro groups s' all
  exact Work.yields_pure ⟨groups, all, rfl⟩

end Routing

namespace Submission

variable {faults : Faults} {settings : Settings} {r : BatchRequest} {wanted : List Binding}

theorem yields_prepare_bindings (asked : r.command = .bindTargetGroups wanted) (s : Contents) :
    Work.Yields faults (fun ready _ => ∃ groups : List BoundSpecs,
      groups.map BoundSpecs.binding = wanted ∧ ready.1 = Routing.bindingWork groups)
      (prepare settings r) s := by
  apply Work.yields_check
  intro _ _
  apply (Routing.yields_route_bindings asked).bind
  intro work s' routed
  exact Work.yields_after fun _ _ => Work.yields_pure routed

/-- The flows that were added bind wanted groups, each flow those of one load balancer. -/
def Bound (wanted : List Binding) (t t' : Tables) : Prop :=
  ∃ groups : List BoundSpecs, groups.map BoundSpecs.binding = wanted ∧
    Tables.Served BindsGroups (Routing.byBalancer groups) t t'

theorem Bound.nothing {t t' : Tables} (same : t'.flows = t.flows) : Bound wanted t t' :=
  ⟨wanted.map fun b => { binding := b, targets := [] }, by simp [Function.comp_def], .none same⟩

/-- However the piece of work for a load balancer ends, it has added at most one flow, which binds
the groups of the piece. -/
theorem ensures_boundPiece (settings : Settings) (r : BatchRequest) (batch : Int64)
    (g : String × List BoundSpecs) (past : List Step) {s : Contents}
    (numbered : s.tables.Numbered) :
    Program.Ensures faults (fun _ _ s' => Tables.Served BindsGroups [g] s.tables s'.tables)
      (boundPiece settings r batch (g.1, .bindTargetGroups g.2)).work past s := by
  have built : Program.Ensures faults
      (fun _ _ s' => Tables.Served BindsGroups [g] s.tables s'.tables)
      (Construction.buildJob settings (flowScope r batch g.1) (.bindTargetGroups g.2)) past s :=
    Construction.ensures_served (fun _ _ planned serves => serves.bindsGroups planned) past numbered
  rw [boundPiece, map_eq_pure_bind]
  apply Work.ensures_bind built
  · exact fun _ _ served => served
  · exact fun _ _ _ served => served
  · exact fun _ _ _ served => served

/-- However a request to bind groups ends, the flows that it has added are for some of the load
balancers among the bindings. -/
theorem ensures_process_bindings (asked : r.command = .bindTargetGroups wanted) {s : Contents}
    (numbered : s.tables.Numbered) :
    Program.Ensures faults (fun _ _ s' => Bound wanted s.tables s'.tables) (process settings r) []
      s := by
  have spares : Program.Asks (Call.Suited Call.SparesFlows) (prepare settings r) :=
    asks_prepare (fun _ => Call.Reads.sparesFlows) (fun _ => trivial) settings r
  rw [process_eq]
  apply Program.ensures_within.2
  apply Work.ensures_bind ((spares.makes.same_flows [] s).and
    (yields_prepare_bindings asked s numbered []))
  · rintro past s' ⟨same, -⟩
    exact .nothing same
  · rintro past failure s' ⟨same, -⟩
    exact .nothing same
  rintro past ⟨work, batch⟩ s₁ ⟨same, numbered₁, ready⟩
  obtain ⟨groups, all, rfl⟩ := ready _ rfl _ rfl
  have worked : (workAll { batch } (pieces settings r (Routing.bindingWork groups) batch)).Ensures
      faults (fun _ _ s' => Tables.Served BindsGroups (Routing.byBalancer groups) s.tables
        s'.tables) past s₁ := by
    rw [pieces, Routing.bindingWork, List.map_nil, List.nil_append, List.map_map]
    apply (ensures_workAll (ensures_boundPiece settings r batch) _ _ numbered₁).mono
    intro past result s' served
    exact served.beside same rfl
  apply Work.ensures_bind
    (P := fun _ _ s' => Tables.Served BindsGroups (Routing.byBalancer groups) s.tables s'.tables)
    (Work.ensures_lift worked)
  · exact fun _ _ served => ⟨groups, all, served⟩
  · exact fun _ _ _ served => ⟨groups, all, served⟩
  intro past sub s₂ served
  have attached : Program.Asks (Call.Suited Call.SparesFlows) (attach batch sub) :=
    asks_attach trivial
  apply (attached.makes.same_flows past s₂).mono
  intro past result s' same'
  exact ⟨groups, all, served.beside rfl same'⟩

end Submission

/-- Flows for distinct load balancers, each of which binds all groups that are wanted on its own. -/
structure BindApart (wanted : List Binding) (fs : List Flow) : Prop where
  apart : (fs.map Flow.balancer?).Nodup
  each : ∀ f ∈ fs, ∃ balancer, f.Binds wanted balancer

theorem Submission.Bound.bindApart {wanted : List Binding} {t t' : Tables}
    (h : Bound wanted t t') : ∃ fs, t'.flows.values = t.flows.values ++ fs ∧
      BindApart wanted fs := by
  obtain ⟨groups, rfl, built, some, binds, flows⟩ := h
  refine ⟨built.map Prod.snd, flows, ?_, ?_⟩
  · have balancers : (built.map Prod.snd).map Flow.balancer? =
        (Keyed.keys (built.map Prod.fst)).map Option.some := by
      rw [Keyed.keys, List.map_map, List.map_map, List.map_map]
      exact List.map_congr_left fun p mem => (binds p mem).on
    have distinct : (Keyed.keys (built.map Prod.fst)).Nodup :=
      (Keyed.nodup_gather _ _).sublist (some.map Prod.fst)
    rw [balancers]
    exact distinct.map (Option.some_injective _)
  · intro f mem
    obtain ⟨⟨⟨balancer, own⟩, f⟩, p_mem, rfl⟩ := List.mem_map.1 mem
    have binds := binds _ p_mem
    have gathered : (balancer, own) ∈ Routing.byBalancer groups :=
      some.subset (List.mem_map_of_mem p_mem)
    refine ⟨balancer, binds.on, ?_, ?_⟩
    · rw [binds.rules, Keyed.eq_filter_of_mem_gather gathered, List.filter_map]
      rfl
    · rw [binds.rules, List.map_map]
      exact binds.once

namespace BindApart

variable {wanted : List Binding} {fs : List Flow}

theorem wanted_of_mem (h : BindApart wanted fs) {b : Binding} (mem : b ∈ fs.flatMap Flow.rules) :
    b ∈ wanted := by
  obtain ⟨f, f_mem, mem⟩ := List.mem_flatMap.1 mem
  obtain ⟨balancer, binds⟩ := h.each f f_mem
  rw [binds.rules] at mem
  exact List.mem_of_mem_filter mem

/-- No group is bound on one load balancer twice. -/
theorem pairs_nodup (h : BindApart wanted fs) :
    ((fs.flatMap Flow.rules).map fun b => (b.group, b.balancer)).Nodup := by
  rw [List.map_flatMap, List.nodup_flatMap]
  constructor
  · intro f mem
    obtain ⟨balancer, binds⟩ := h.each f mem
    have groups := binds.once
    refine List.Nodup.of_map Prod.fst ?_
    rwa [List.map_map]
  · -- What flows for distinct load balancers bind differs in the load balancer.
    refine (List.pairwise_map.1 h.apart).imp_of_mem fun {f f'} mem mem' differ => ?_
    obtain ⟨balancer, binds⟩ := h.each f mem
    obtain ⟨balancer', binds'⟩ := h.each f' mem'
    intro pair pair_mem pair_mem'
    obtain ⟨b, b_mem, rfl⟩ := List.mem_map.1 pair_mem
    obtain ⟨b', b'_mem, same⟩ := List.mem_map.1 pair_mem'
    rw [binds.rules] at b_mem
    rw [binds'.rules] at b'_mem
    have on : b.balancer = balancer := of_decide_eq_true (List.mem_filter.1 b_mem).2
    have on' : b'.balancer = balancer' := of_decide_eq_true (List.mem_filter.1 b'_mem).2
    apply differ
    rw [binds.on, binds'.on, ← on, ← on', (Prod.mk.inj same).2]

end BindApart

def rulesFor (group : String) (fs : List Flow) : List Binding :=
  (fs.flatMap Flow.rules).filter fun b => b.group = group

/-- A group that is wanted on one load balancer only gets one rule at most. -/
theorem BindApart.length_rulesFor_le {wanted : List Binding} {fs : List Flow}
    (h : BindApart wanted fs) {group balancer : String}
    (one : ∀ b ∈ wanted, b.group = group → b.balancer = balancer) :
    (rulesFor group fs).length ≤ 1 := by
  have distinct : ((rulesFor group fs).map fun b => (b.group, b.balancer)).Nodup :=
    h.pairs_nodup.sublist (List.filter_sublist.map _)
  have same : ((rulesFor group fs).map fun b => (b.group, b.balancer)) ⊆ [(group, balancer)] := by
    intro pair mem
    obtain ⟨b, b_mem, rfl⟩ := List.mem_map.1 mem
    obtain ⟨listed, own⟩ := List.mem_filter.1 b_mem
    have own : b.group = group := of_decide_eq_true own
    rw [List.mem_singleton, own, one b (h.wanted_of_mem listed) own]
  simpa using (List.subperm_of_subset distinct same).length_le

/-- However a request to bind groups ends, the flows that it has added are for distinct load
balancers, and each binds all groups that are wanted on its own, each once. So no group is bound
on one load balancer twice, and a group gets more than one rule only if it is wanted on several
load balancers. The flows that the request has made pending are among these. -/
theorem rules_bound_once {deadline : Option Nat} {settings : Settings} {r : BatchRequest}
    {wanted : List Binding} {w w' : World} {result : Option (Except Failure Submission)}
    (asked : r.command = .bindTargetGroups wanted) (reachable : w.store.tables.Reachable)
    (ran : Program.run deadline (Submission.process settings r) w = (result, w'))
    (fits : w'.store.tables.Fits) :
    ∃ fs, w'.store.tables.flows.values = w.store.tables.flows.values ++ fs ∧
      BindApart wanted fs ∧
      (∀ id ∈ activations (Program.steps deadline (Submission.process settings r) w),
        ∃ f ∈ fs, f.id = id ∧ f.state = .pending) ∧
      ((fs.flatMap Flow.rules).map fun b => (b.group, b.balancer)).Nodup ∧
      ∀ group, (∃ balancer, ∀ b ∈ wanted, b.group = group → b.balancer = balancer) →
        (rulesFor group fs).length ≤ 1 := by
  have numbered := reachable.numbered (Program.fits_of_run ran fits)
  have ensured := ((Submission.ensures_process_bindings asked numbered).and
    ((Submission.asks_process settings r).makes.woken numbered)).run deadline numbered
    (by rwa [ran])
  rw [ran] at ensured
  obtain ⟨bound, woken⟩ := ensured
  obtain ⟨fs, flows, apart⟩ := bound.bindApart
  have flows : w'.store.tables.flows.values = w.store.tables.flows.values ++ fs := flows
  refine ⟨fs, flows, apart, fun id mem => ?_, apart.pairs_nodup,
    fun group one => one.elim fun _ => apart.length_rulesFor_le⟩
  -- A flow that was there before could run then, if it can now.
  obtain ⟨f, found, pending⟩ := (woken.iff id).2 (.inr mem)
  have own := woken.numbered.flows.key_of_get? found
  have listed : f ∈ w'.store.tables.flows.values := List.mem_map_of_mem (Keyed.mem_of_get? found)
  rw [flows, List.mem_append] at listed
  rcases listed with old | new
  · exact absurd ⟨f, own ▸ numbered.flows.mem_values.1 old, pending⟩ (woken.new id mem)
  · exact ⟨f, new, own, pending⟩

/-- Two groups that are not bound, and two load balancers with a listener each. -/
def twoBalancers : Stock where
  groups := [
    { id := "tg-1", name := "web", vendor := .tCloud, account := "acc" },
    { id := "tg-2", name := "spare", vendor := .tCloud, account := "acc" }]
  balancers := [
    { id := "lb-1", cloudId := "c-lb-1", vendor := .tCloud, account := "acc", region := "r-1" },
    { id := "lb-2", cloudId := "c-lb-2", vendor := .tCloud, account := "acc", region := "r-1" }]
  listeners := [
    { id := "li-1", cloudId := "c-li-1", balancer := "lb-1", protocol := "TCP", port := 80 },
    { id := "li-2", cloudId := "c-li-2", balancer := "lb-2", protocol := "TCP", port := 80 }]

/-- The group is wanted behind the listener of the load balancer with that number. -/
def wantedOn (number group : String) : Binding :=
  { group, balancer := "lb-" ++ number, balancerCloudId := "c-lb-" ++ number
    listener := "li-" ++ number, listenerCloudId := "c-li-" ++ number, ruleCloudId := none }

def bindingOf (wanted : List Binding) : BatchRequest :=
  { business := 7, vendor := .tCloud, account := "acc", source := none
    command := .bindTargetGroups wanted }

theorem rules_bound_once_twoGroups :
    ∃ w' fs, Program.run none
        (Submission.process {} (bindingOf [wantedOn "1" "tg-1", wantedOn "2" "tg-2"]))
        (World.insert {} twoBalancers) = (some (.ok { batch := 1, flows := [1, 2] }), w') ∧
      w'.store.tables.flows.values = fs ∧ (rulesFor "tg-1" fs).length ≤ 1 ∧
      (rulesFor "tg-2" fs).length ≤ 1 := by
  have ended : (Program.run none
      (Submission.process {} (bindingOf [wantedOn "1" "tg-1", wantedOn "2" "tg-2"]))
      (World.insert {} twoBalancers)).1 = some (.ok { batch := 1, flows := [1, 2] }) := by
    decide +kernel
  have fits : (Program.run none
      (Submission.process {} (bindingOf [wantedOn "1" "tg-1", wantedOn "2" "tg-2"]))
      (World.insert {} twoBalancers)).2.store.tables.Fits := by
    decide +kernel
  obtain ⟨fs, flows, -, -, -, once⟩ :=
    rules_bound_once rfl .empty (Prod.ext ended rfl) fits
  exact ⟨_, fs, Prod.ext ended rfl, flows, once "tg-1" ⟨"lb-1", by decide⟩,
    once "tg-2" ⟨"lb-2", by decide⟩⟩

/-- A group that is wanted on two load balancers gets a rule on each. -/
theorem not_group_bound_once :
    ¬ ∀ (deadline : Option Nat) (settings : Settings) (r : BatchRequest) (wanted : List Binding)
      (w w' : World) (s : Submission), r.command = .bindTargetGroups wanted →
      w.store.tables.Reachable → w.catalog.Reachable →
      Program.run deadline (Submission.process settings r) w = (some (.ok s), w') →
      w'.store.tables.Fits →
        ∀ group, (rulesFor group (s.flows.filterMap w'.store.tables.flows.get?)).length ≤ 1 := by
  intro once
  have ended : (Program.run none
      (Submission.process {} (bindingOf [wantedOn "1" "tg-1", wantedOn "2" "tg-1"]))
      (World.insert {} twoBalancers)).1 = some (.ok { batch := 1, flows := [1, 2] }) := by
    decide +kernel
  have fits : (Program.run none
      (Submission.process {} (bindingOf [wantedOn "1" "tg-1", wantedOn "2" "tg-1"]))
      (World.insert {} twoBalancers)).2.store.tables.Fits := by
    decide +kernel
  have two : (rulesFor "tg-1" ([1, 2].filterMap (Program.run none
      (Submission.process {} (bindingOf [wantedOn "1" "tg-1", wantedOn "2" "tg-1"]))
      (World.insert {} twoBalancers)).2.store.tables.flows.get?)).length = 2 := by
    decide +kernel
  have one := once none {} _ _ _ _ _ rfl .empty (.insert _ .empty) (Prod.ext ended rfl) fits "tg-1"
  exact absurd (two.symm.trans_le one) (by decide)

end BalancerFlows
