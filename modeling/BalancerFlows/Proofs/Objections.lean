import BalancerFlows.Proofs.Acceptance
import BalancerFlows.Proofs.LocalOutcomes
import BalancerFlows.Proofs.TargetWrites

/-!
# What later checks object to

A request is checked as a whole, then split into jobs, and each job is checked again when its turn
comes. Where values are in range, there is something to do and every item is where its job is
carried out, the later checks can only find that something comes twice. `ObjectsTo` says so of a
check, as far as there is no flaw of another kind, and composes along its steps. Main statements:
`Job.objectsTo_plan` and `LocalJob.objectsTo_verdict`.
-/
namespace BalancerFlows

/-- Something is named twice or owned by another flow, or there is this flaw in a value. -/
def Failure.Expected (flaw : Prop) : Failure → Prop
  | duplicated _ | busy .. => True
  | invalidParameter _ => flaw
  | _ => False

theorem Failure.Expected.mono {failure : Failure} {P Q : Prop} (h : failure.Expected P)
    (imp : P → Q) : failure.Expected Q := by
  cases failure with
  | duplicated text => trivial
  | busy resource kind owner lock => trivial
  | invalidParameter text => exact imp h
  | _ => exact h.elim

/-- The check only fails as expected with this flaw. -/
def ObjectsTo {α : Type} (x : Except Failure α) (flaw : Prop) : Prop :=
  ∀ failure, x = .error failure → failure.Expected flaw

namespace ObjectsTo

variable {α β : Type} {x : Except Failure α} {P Q : Prop}

theorem ok (a : α) : ObjectsTo (.ok a : Except Failure α) P := by
  intro failure failed
  cases failed

theorem error {failure : Failure} (expected : failure.Expected P) :
    ObjectsTo (.error failure : Except Failure α) P := by
  intro other same
  cases same
  exact expected

theorem mono (h : ObjectsTo x P) (imp : P → Q) : ObjectsTo x Q :=
  fun failure failed => (h failure failed).mono imp

theorem map_iff {f : α → β} : ObjectsTo (x.map f) P ↔ ObjectsTo x P := by
  cases x with
  | error failure => exact ⟨fun h => error (h failure rfl), fun h => error (h failure rfl)⟩
  | ok a => exact iff_of_true (ok (f a)) (ok a)

theorem bind {f : α → Except Failure β} (first : ObjectsTo x P)
    (next : ∀ a, x = .ok a → ObjectsTo (f a) P) : ObjectsTo (x >>= f) P := by
  cases x with
  | error failure => exact error (first failure rfl)
  | ok a => exact next a rfl

/-- Work that is refused in one case and is checked further in every other. -/
theorem past {C : Prop} [Decidable C] (failure : Failure) (expected : C → failure.Expected P)
    (next : ¬ C → ObjectsTo x P) :
    ObjectsTo (if C then .error failure else x : Except Failure α) P := by
  by_cases c : C
  · rw [if_pos c]
    exact error (expected c)
  · rw [if_neg c]
    exact next c

end ObjectsTo

theorem Decides.objectsTo {α : Type} {x : Except Failure α} {P : Prop} (h : Decides x P) :
    ObjectsTo x (¬ P) := by
  intro failure failed
  have blames := h.blames failure failed
  cases failure with
  | duplicated text => trivial
  | invalidParameter text =>
      intro p
      obtain ⟨a, passed⟩ := h.passes.2 p
      rw [failed] at passed
      cases passed
  | _ => exact blames.elim

theorem objectsTo_ensureUnique {α : Type} (label : String) (key : α → String) (items : List α)
    {P : Prop} : ObjectsTo (ensureUnique label key items) P := by
  unfold ensureUnique
  cases firstRepeated? [] (items.map key) with
  | none => exact .ok ()
  | some k => exact .error trivial

namespace Plan

/-- All groups are bound to the load balancer, and there is something to do. -/
structure Placed {α : Type} (balancer : String) (groups : List (Binding × List α)) : Prop where
  bound : ∀ g ∈ groups, g.1.balancer = balancer
  nonempty : ∃ g ∈ groups, g.2 ≠ []

section Bound

variable {α : Type} (shape : CallShape α) (balancer : String) (limit : Nat)

theorem objectsTo_groupCalls (b : Binding) (chunks : List (List α)) {P : Prop} :
    ObjectsTo (groupCalls shape b chunks) P := by
  induction chunks with
  | nil => exact .ok []
  | cons chunk rest ih =>
      exact (objectsTo_ensureUnique _ _ chunk).bind fun _ _ => ih.bind fun _ _ => .ok _

theorem objectsTo_boundCalls (groups : List (Binding × List α)) :
    ObjectsTo (boundCalls shape balancer limit groups)
      (¬ ∀ g ∈ groups, g.1.balancer = balancer) := by
  induction groups with
  | nil => exact .ok ([], [])
  | cons g rest ih =>
      obtain ⟨b, items⟩ := g
      have others : ObjectsTo (boundCalls shape balancer limit rest)
          (¬ ∀ g ∈ (b, items) :: rest, g.1.balancer = balancer) :=
        ih.mono fun flaw all => flaw fun g mem => all g (List.mem_cons_of_mem _ mem)
      have first : ObjectsTo (checkBinding balancer b)
          (¬ ∀ g ∈ (b, items) :: rest, g.1.balancer = balancer) :=
        (decides_checkBinding balancer b).objectsTo.mono fun flaw all =>
          flaw (all (b, items) List.mem_cons_self)
      rw [boundCalls]
      refine first.bind fun _ _ => ?_
      split
      · exact others
      · exact (objectsTo_groupCalls shape b _).bind fun _ _ => others.bind fun _ _ => .ok _

theorem objectsTo_ofGroups (operation : Operation) (groups : List (Binding × List α)) :
    ObjectsTo (ofGroups operation shape balancer limit groups) (¬ Placed balancer groups) := by
  have bound : ObjectsTo (boundCalls shape balancer limit groups) (¬ Placed balancer groups) :=
    (objectsTo_boundCalls shape balancer limit groups).mono fun flaw placed => flaw placed.bound
  refine bound.bind fun result planned => .past (.invalidParameter _) ?_ fun _ => .ok _
  exact fun none placed =>
    (isEmpty_boundCalls shape balancer limit planned).1 none placed.nonempty

end Bound

theorem objectsTo_listenerCalls (balancer : LoadBalancer) (chunks : List (List Listener))
    {P : Prop} : ObjectsTo (listenerCalls balancer chunks) P := by
  induction chunks with
  | nil => exact .ok []
  | cons chunk rest ih =>
      exact (objectsTo_ensureUnique _ _ chunk).bind fun _ _ => ih.bind fun _ _ => .ok _

theorem objectsTo_deleteListeners (balancer : LoadBalancer) (limit : Nat)
    (listeners : List Listener) :
    ObjectsTo (deleteListeners balancer limit listeners)
      (¬ (listeners ≠ [] ∧ ∀ l ∈ listeners, l.balancer = balancer.id)) := by
  refine .past (.invalidParameter _) (fun none both => both.1 (List.isEmpty_iff.1 none)) fun _ => ?_
  cases foreign : listeners.find? fun l => l.balancer ≠ balancer.id with
  | some l =>
      have other := List.find?_some foreign
      have expected : (foreignListener l balancer.id).Expected
          (¬ (listeners ≠ [] ∧ ∀ l ∈ listeners, l.balancer = balancer.id)) := by
        rintro ⟨-, own⟩
        simp [own l (List.mem_of_find?_eq_some foreign)] at other
      exact .error expected
  | none => exact (objectsTo_listenerCalls balancer _).bind fun _ _ => .ok _

/-- The groups are bound to the load balancer, and all their targets are fit. -/
def Bindable (balancer : String) (groups : List BoundSpecs) : Prop :=
  ∀ g ∈ groups, g.binding.balancer = balancer ∧ ∀ s ∈ g.targets, s.Fit

theorem objectsTo_checkGroup (balancer : String) (g : BoundSpecs) :
    ObjectsTo (checkGroup balancer g)
      (¬ (g.binding.balancer = balancer ∧ ∀ s ∈ g.targets, s.Fit)) := by
  have bound := (decides_checkBinding balancer g.binding).objectsTo
  have fit := (decides_checkSpecs g.targets).objectsTo
  refine (bound.mono fun flaw both => flaw both.1).bind fun _ _ =>
    (fit.mono fun flaw both => flaw both.2).bind fun _ _ => objectsTo_ensureUnique _ _ _

theorem objectsTo_groupBindings (balancer : String) (limit : Nat) (bound : List String)
    (groups : List BoundSpecs) :
    ObjectsTo (groupBindings balancer limit bound groups) (¬ Bindable balancer groups) := by
  induction groups generalizing bound with
  | nil => exact .ok []
  | cons g rest ih =>
      have others : ∀ bound, ObjectsTo (groupBindings balancer limit bound rest)
          (¬ Bindable balancer (g :: rest)) := fun bound =>
        (ih bound).mono fun flaw all => flaw fun g mem => all g (List.mem_cons_of_mem _ mem)
      have first : ObjectsTo (checkGroup balancer g) (¬ Bindable balancer (g :: rest)) :=
        (objectsTo_checkGroup balancer g).mono fun flaw all => flaw (all g List.mem_cons_self)
      rw [groupBindings]
      exact first.bind fun _ _ => .past (.duplicated _) (fun _ => trivial) fun _ =>
        (others _).bind fun _ _ => .ok _

end Plan

/-- Values are in range, there is something to do, and all of it is on that load balancer. -/
def Job.Proper (balancer : String) : Job → Prop
  | modifyWeight weight groups => weight ≤ 100 ∧ Plan.Placed balancer (Plan.targetGroups groups)
  | modifyPort port groups => port ≠ 0 ∧ Plan.Placed balancer (Plan.targetGroups groups)
  | removeTargets groups => Plan.Placed balancer (Plan.targetGroups groups)
  | addTargets groups => (∀ g ∈ groups, ∀ s ∈ g.targets, s.Fit) ∧
      Plan.Placed balancer (Plan.specGroups groups)
  | deleteListeners named listeners => listeners ≠ [] ∧ ∀ l ∈ listeners, l.balancer = named.id
  | bindTargetGroups groups => groups ≠ [] ∧ Plan.Bindable balancer groups

/-- The plan of a proper job is only refused for something that comes twice. -/
theorem Job.objectsTo_plan (balancer : String) (limit : Nat) (job : Job) :
    ObjectsTo (job.plan balancer limit) (¬ job.Proper balancer) := by
  cases job with
  | modifyWeight weight groups =>
      exact ((Plan.decides_checkWeight weight).objectsTo.mono fun flaw both => flaw both.1).bind
        fun _ _ => (Plan.objectsTo_ofGroups _ balancer limit _ _).mono fun flaw both => flaw both.2
  | modifyPort port groups =>
      exact ((Plan.decides_checkPort port).objectsTo.mono fun flaw both => flaw both.1).bind
        fun _ _ => (Plan.objectsTo_ofGroups _ balancer limit _ _).mono fun flaw both => flaw both.2
  | removeTargets groups => exact Plan.objectsTo_ofGroups _ balancer limit _ _
  | addTargets groups =>
      refine ((Plan.decides_checkSpecs _).objectsTo.mono fun flaw both => flaw ?_).bind
        fun _ _ => (Plan.objectsTo_ofGroups _ balancer limit _ _).mono fun flaw both => flaw both.2
      intro s mem
      obtain ⟨g, g_mem, s_mem⟩ := List.mem_flatMap.1 mem
      exact both.1 g g_mem s s_mem
  | deleteListeners named listeners => exact Plan.objectsTo_deleteListeners named limit listeners
  | bindTargetGroups groups =>
      have planned := (Plan.objectsTo_groupBindings balancer limit [] groups).mono
        fun flaw (both : groups ≠ [] ∧ Plan.Bindable balancer groups) => flaw both.2
      exact .past (.invalidParameter _) (fun none both => both.1 (List.isEmpty_iff.1 none))
        fun _ => planned.bind fun _ _ => .ok _

namespace LocalJob

/-- Values are in range, and the change is recorded as what it is. -/
def Proper (recorded : Operation) : LocalJob → Prop
  | remove .. => True
  | modify _ change _ => change.InRange ∧ change.operation = recorded
  | add _ specs => ∀ s ∈ specs, s.Fit

/-- The targets that the job is to change are in the inventory. -/
def Finds (c : Catalog) : LocalJob → Prop
  | modify _ _ targets => ∀ t ∈ targets, t.id ∈ c.targets.keys
  | remove .. | add .. => True

variable {job : LocalJob} {recorded : Operation} {s : Contents}

theorem objectsTo_check : ObjectsTo (job.check recorded) (¬ job.Proper recorded) := by
  cases job with
  | remove group targets => exact .ok ()
  | modify group change targets =>
      refine (change.decides_check.objectsTo.mono fun flaw both => flaw both.1).bind fun _ _ => ?_
      exact .past (.invalidParameter _) (fun other both => other both.2) fun _ => .ok ()
  | add group specs =>
      exact (Plan.decides_checkSpecs specs).objectsTo.bind fun _ _ => objectsTo_ensureUnique _ _ _

theorem exec_write_of_finds (finds : job.Finds s.catalog) :
    ∃ answer, ((Call.catalog job.write).exec [] s).1 = .ok answer := by
  cases job with
  | remove group targets => exact ⟨(), rfl⟩
  | add group specs => exact ⟨_, rfl⟩
  | modify group change targets =>
      cases ended : (s.catalog.updateTargets (targets.map change.patch)).1 with
      | ok _ => exact ⟨(), ended⟩
      | error failure =>
          obtain ⟨before, p, rest, patches, -, missing, -⟩ :=
            s.catalog.updateTargets_of_error ended
          have mem : p ∈ targets.map change.patch := patches ▸ by simp
          obtain ⟨t, t_mem, rfl⟩ := List.mem_map.1 mem
          obtain ⟨stored, found⟩ := Keyed.exists_of_mem_keys (finds t t_mem)
          exact absurd (by simp [Catalog.Has, found]) missing

/-- A proper job that finds its targets only fails for something that comes twice. -/
theorem objectsTo_verdict (finds : job.Finds s.catalog) :
    ObjectsTo (job.verdict recorded [] s) (¬ job.Proper recorded) := by
  refine objectsTo_check.bind fun _ _ => ?_
  split
  · exact .ok ()
  · obtain ⟨answer, done⟩ := exec_write_of_finds finds
    rw [done]
    exact .ok ()

end LocalJob

end BalancerFlows
