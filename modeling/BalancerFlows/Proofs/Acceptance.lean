import BalancerFlows.LocalChange
import BalancerFlows.Proofs.Chunking

/-!
# Which plans are accepted

A plan is refused for a value, a binding, a repetition or for having nothing to do, and for nothing
else. `Decides` says of a check exactly when it passes and that it otherwise blames the input; it
composes along the checks of a plan, one after the other. Endpoints are compared as texts, which is
as good as comparing instance and port: only the last colon of such a text can stand before the
port. Main statement: `Plan.plans_accepted_iff`.
-/
namespace BalancerFlows

/-- The failure complains about a value or about a repetition. -/
def Failure.BlamesInput : Failure → Prop
  | invalidParameter _ | duplicated _ => True
  | _ => False

/-- The check passes exactly under a condition, and blames the input otherwise. -/
structure Decides {α : Type} (x : Except Failure α) (P : Prop) : Prop where
  passes : (∃ a, x = .ok a) ↔ P
  blames : ∀ failure, x = .error failure → failure.BlamesInput

namespace Decides

variable {α β : Type} {x : Except Failure α} {P Q : Prop}

theorem ok (a : α) : Decides (.ok a : Except Failure α) True :=
  ⟨by simp, by simp⟩

theorem error (failure : Failure) (blames : failure.BlamesInput) :
    Decides (.error failure : Except Failure α) False :=
  ⟨by simp, by simpa using blames⟩

theorem congr (h : Decides x P) (same : P ↔ Q) : Decides x Q :=
  ⟨h.passes.trans same, h.blames⟩

theorem bind {f : α → Except Failure β} (first : Decides x P)
    (next : ∀ a, x = .ok a → Decides (f a) Q) : Decides (x >>= f) (P ∧ Q) := by
  cases x with
  | error failure =>
      have refused : ¬ P := fun p => by
        obtain ⟨a, passed⟩ := first.passes.2 p
        cases passed
      exact (error failure (first.blames failure rfl)).congr (by simp [refused])
  | ok a =>
      have passed : P := first.passes.1 ⟨a, rfl⟩
      exact (next a rfl).congr (by simp [passed])

theorem guard (failure : Failure) (blames : failure.BlamesInput) (a : α) [Decidable P] :
    Decides (if P then .ok a else .error failure : Except Failure α) P := by
  by_cases p : P
  · rw [if_pos p]
    exact (ok a).congr (by simp [p])
  · rw [if_neg p]
    exact (error failure blames).congr (by simp [p])

/-- Work that is refused in one case and is checked further in every other. -/
theorem past (failure : Failure) (blames : failure.BlamesInput) [Decidable P]
    (next : ¬ P → Decides x Q) :
    Decides (if P then .error failure else x : Except Failure α) (¬ P ∧ Q) := by
  by_cases p : P
  · rw [if_pos p]
    exact (error failure blames).congr (by simp [p])
  · rw [if_neg p]
    exact (next p).congr (by simp [p])

end Decides

theorem decides_ensureUnique {α : Type} (label : String) (key : α → String) (items : List α) :
    Decides (ensureUnique label key items) (items.map key).Nodup := by
  have none_iff : firstRepeated? [] (items.map key) = none ↔ (items.map key).Nodup := by
    simp [firstRepeated?_eq_none_iff]
  unfold ensureUnique
  cases repeated : firstRepeated? [] (items.map key) with
  | none => exact (Decides.ok ()).congr (by simp [none_iff.1 repeated])
  | some k => exact (Decides.error (.duplicated _) trivial).congr (by simp [← none_iff, repeated])

/-- The instance is named, and port and weight are in range. -/
structure TargetSpec.Fit (s : TargetSpec) : Prop where
  named : s.instanceId ≠ ""
  port : s.port ≠ 0
  weight : s.weight ≤ 100

def TargetChange.InRange : TargetChange → Prop
  | weight value => value ≤ 100
  | port value => value ≠ 0

namespace Plan

theorem decides_checkWeight (weight : UInt32) : Decides (checkWeight weight) (weight ≤ 100) := by
  refine (Decides.past (.invalidParameter _) trivial fun _ => .ok ()).congr ?_
  rw [and_true]
  exact UInt32.not_lt

theorem decides_checkPort (port : UInt16) : Decides (checkPort port) (port ≠ 0) :=
  (Decides.past (.invalidParameter _) trivial fun _ => .ok ()).congr (and_true _).to_iff

theorem decides_checkSpec (s : TargetSpec) : Decides (checkSpec s) s.Fit := by
  refine (Decides.past (.invalidParameter _) trivial fun _ =>
    (decides_checkPort s.port).bind fun _ _ => decides_checkWeight s.weight).congr ?_
  rw [String.isEmpty_iff]
  exact ⟨fun ⟨named, port, weight⟩ => ⟨named, port, weight⟩,
    fun fit => ⟨fit.named, fit.port, fit.weight⟩⟩

theorem decides_checkSpecs (specs : List TargetSpec) :
    Decides (checkSpecs specs) (∀ s ∈ specs, s.Fit) := by
  induction specs with
  | nil => exact (Decides.ok ()).congr (by simp)
  | cons s rest ih =>
      exact ((decides_checkSpec s).bind fun _ _ => ih).congr List.forall_mem_cons.symm

theorem decides_checkBinding (balancer : String) (b : Binding) :
    Decides (checkBinding balancer b) (b.balancer = balancer) :=
  Decides.guard (.invalidParameter _) trivial ()

section Endpoints

/-- A text before a character, if the character does not come again behind it. -/
theorem eq_of_append_cons_eq {α : Type} {c : α} {xs ys ds es : List α} (last : c ∉ ds)
    (last' : c ∉ es) (same : xs ++ c :: ds = ys ++ c :: es) : xs = ys ∧ ds = es := by
  rcases List.append_eq_append_iff.1 same with ⟨more, rfl, rest⟩ | ⟨more, rfl, rest⟩
  · cases more with
    | nil => simpa using rest
    | cons first more =>
        rw [List.cons_append, List.cons.injEq] at rest
        exact absurd (rest.2 ▸ List.mem_append_right more List.mem_cons_self) last
  · cases more with
    | nil => simpa using rest.symm
    | cons first more =>
        rw [List.cons_append, List.cons.injEq] at rest
        exact absurd (rest.2 ▸ List.mem_append_right more List.mem_cons_self) last'

theorem colon_notMem_port (port : UInt16) : ':' ∉ (toString port).toList := by
  intro mem
  have digit : ':' ∈ Nat.toDigits 10 port.toNat := by
    simpa [toString, Nat.repr] using mem
  exact absurd (Nat.isDigit_of_mem_toDigits (by omega) (by omega) digit) (by decide)

/-- The text of an endpoint determines the instance, whatever it is called, and the port. -/
theorem specEndpoint_eq_iff {s s' : TargetSpec} :
    specEndpoint s = specEndpoint s' ↔ (s.instanceId, s.port) = (s'.instanceId, s'.port) := by
  constructor
  · intro same
    have chars := congrArg String.toList same
    simp only [specEndpoint, String.toList_append, List.append_assoc] at chars
    obtain ⟨named, port⟩ := eq_of_append_cons_eq (colon_notMem_port _) (colon_notMem_port _) chars
    have digits : Nat.toDigits 10 s.port.toNat = Nat.toDigits 10 s'.port.toNat := by
      simpa [toString, Nat.repr] using port
    have port : s.port.toNat = s'.port.toNat := by
      simpa using congrArg (fun ds => Nat.ofDigitChars 10 ds 0) digits
    rw [String.toList_inj.1 named, UInt16.toNat_inj.1 port]
  · intro same
    rw [Prod.mk.injEq] at same
    rw [specEndpoint, specEndpoint, same.1, same.2]

theorem targetEndpoint_eq_iff {t t' : Target} :
    targetEndpoint t = targetEndpoint t' ↔ (t.instanceId, t.port) = (t'.instanceId, t'.port) :=
  @specEndpoint_eq_iff t.spec t'.spec

end Endpoints

/-- All groups are bound to the load balancer, there is something to do, and in no group two items
of one chunk have the same key. -/
structure Plannable {α κ : Type} (balancer : String) (limit : Nat) (key : α → κ)
    (groups : List (Binding × List α)) : Prop where
  bound : ∀ g ∈ groups, g.1.balancer = balancer
  nonempty : ∃ g ∈ groups, g.2 ≠ []
  apart : ∀ g ∈ groups, ApartInChunks limit key g.2

theorem plannable_congr {α κ κ' : Type} {key : α → κ} {key' : α → κ'}
    (same : ∀ {a b}, key a = key b ↔ key' a = key' b) {balancer : String} {limit : Nat}
    {groups : List (Binding × List α)} :
    Plannable balancer limit key groups ↔ Plannable balancer limit key' groups := by
  have apart : ∀ items, ApartInChunks limit key items ↔ ApartInChunks limit key' items := by
    intro items
    simp only [ApartInChunks, ne_eq, same]
  exact ⟨fun h => ⟨h.bound, h.nonempty, fun g mem => (apart g.2).1 (h.apart g mem)⟩,
    fun h => ⟨h.bound, h.nonempty, fun g mem => (apart g.2).2 (h.apart g mem)⟩⟩

section Bound

variable {α : Type} (shape : CallShape α) (balancer : String) (limit : Nat)

theorem decides_groupCalls (b : Binding) (chunks : List (List α)) :
    Decides (groupCalls shape b chunks) (∀ chunk ∈ chunks, (chunk.map shape.key).Nodup) := by
  induction chunks with
  | nil => exact (Decides.ok []).congr (by simp)
  | cons chunk rest ih =>
      refine ((decides_ensureUnique _ _ chunk).bind fun _ _ =>
        ih.bind fun _ _ => .ok _).congr ?_
      rw [and_true, List.forall_mem_cons]

theorem decides_boundCalls (groups : List (Binding × List α)) :
    Decides (boundCalls shape balancer limit groups)
      (∀ g ∈ groups, g.1.balancer = balancer ∧ ApartInChunks limit shape.key g.2) := by
  induction groups with
  | nil => exact (Decides.ok ([], [])).congr (by simp)
  | cons g rest ih =>
      obtain ⟨b, items⟩ := g
      rw [boundCalls]
      by_cases none : items = []
      · subst none
        refine ((decides_checkBinding balancer b).bind fun _ _ => ih).congr ?_
        rw [List.forall_mem_cons]
        have apart : ApartInChunks limit shape.key [] := by simp [ApartInChunks]
        simp [apart]
      · simp only [List.isEmpty_iff, if_neg none]
        refine ((decides_checkBinding balancer b).bind fun _ _ =>
          (decides_groupCalls shape b _).bind fun _ _ => ih.bind fun _ _ => .ok _).congr ?_
        rw [nodup_chunks_iff, and_true, List.forall_mem_cons, and_assoc]

theorem isEmpty_boundCalls {groups : List (Binding × List α)}
    {result : List PlannedCall × List ResourceKey}
    (planned : boundCalls shape balancer limit groups = .ok result) :
    result.1.isEmpty ↔ ¬ ∃ g ∈ groups, g.2 ≠ [] := by
  rw [boundCalls_spec planned, List.isEmpty_iff, groupedCalls, List.flatMap_eq_nil_iff]
  constructor
  · rintro no_calls ⟨g, mem, some_item⟩
    exact chunksOf_ne_nil some_item (List.map_eq_nil_iff.1 (no_calls g mem))
  · intro no_items g mem
    have none : g.2 = [] := by
      by_contra some_item
      exact no_items ⟨g, mem, some_item⟩
    simp [none, chunksOf]

theorem decides_ofGroups (operation : Operation) (groups : List (Binding × List α)) :
    Decides (ofGroups operation shape balancer limit groups)
      (Plannable balancer limit shape.key groups) := by
  refine ((decides_boundCalls shape balancer limit groups).bind (Q := ∃ g ∈ groups, g.2 ≠ [])
    fun result planned => ?_).congr ?_
  · refine (Decides.past (.invalidParameter _) trivial fun _ => .ok _).congr ?_
    rw [and_true, isEmpty_boundCalls shape balancer limit planned, not_not]
  · constructor
    · rintro ⟨each, some_item⟩
      exact ⟨fun g mem => (each g mem).1, some_item, fun g mem => (each g mem).2⟩
    · intro h
      exact ⟨fun g mem => ⟨h.bound g mem, h.apart g mem⟩, h.nonempty⟩

end Bound

theorem decides_modifyWeight (balancer : String) (limit : Nat) (weight : UInt32)
    (groups : List BoundTargets) :
    Decides (modifyWeight balancer limit weight groups)
      (weight ≤ 100 ∧ Plannable balancer limit Target.instanceId (targetGroups groups)) :=
  (decides_checkWeight weight).bind fun _ _ => decides_ofGroups _ balancer limit _ _

theorem decides_modifyPort (balancer : String) (limit : Nat) (port : UInt16)
    (groups : List BoundTargets) :
    Decides (modifyPort balancer limit port groups)
      (port ≠ 0 ∧ Plannable balancer limit Target.instanceId (targetGroups groups)) :=
  (decides_checkPort port).bind fun _ _ => decides_ofGroups _ balancer limit _ _

theorem decides_removeTargets (balancer : String) (limit : Nat) (groups : List BoundTargets) :
    Decides (removeTargets balancer limit groups)
      (Plannable balancer limit (fun t => (t.instanceId, t.port)) (targetGroups groups)) :=
  (decides_ofGroups removalShape balancer limit _ _).congr (plannable_congr targetEndpoint_eq_iff)

theorem decides_addTargets (balancer : String) (limit : Nat) (groups : List BoundSpecs) :
    Decides (addTargets balancer limit groups)
      ((∀ g ∈ groups, ∀ s ∈ g.targets, s.Fit) ∧
        Plannable balancer limit (fun s => (s.instanceId, s.port)) (specGroups groups)) := by
  refine ((decides_checkSpecs _).bind fun _ _ =>
    decides_ofGroups registrationShape balancer limit _ _).congr (and_congr ?_ ?_)
  · simp only [List.mem_flatMap, forall_exists_index, and_imp]
    exact ⟨fun h g mem s s_mem => h s g mem s_mem, fun h s g mem s_mem => h g mem s s_mem⟩
  · exact plannable_congr specEndpoint_eq_iff

theorem decides_listenerCalls (balancer : LoadBalancer) (chunks : List (List Listener)) :
    Decides (listenerCalls balancer chunks)
      (∀ chunk ∈ chunks, (chunk.map Listener.id).Nodup) := by
  induction chunks with
  | nil => exact (Decides.ok []).congr (by simp)
  | cons chunk rest ih =>
      refine ((decides_ensureUnique _ _ chunk).bind fun _ _ =>
        ih.bind fun _ _ => .ok _).congr ?_
      rw [and_true, List.forall_mem_cons]

theorem decides_deleteListeners (balancer : LoadBalancer) (limit : Nat)
    (listeners : List Listener) :
    Decides (deleteListeners balancer limit listeners)
      (listeners ≠ [] ∧ (∀ l ∈ listeners, l.balancer = balancer.id) ∧
        ApartInChunks limit Listener.id listeners) := by
  refine (Decides.past (.invalidParameter _) trivial fun _ => ?_).congr
    (and_congr_left' (not_congr List.isEmpty_iff))
  cases foreign : listeners.find? fun l => l.balancer ≠ balancer.id with
  | some l =>
      refine (Decides.error (.invalidParameter _) trivial).congr (iff_of_false not_false ?_)
      rintro ⟨own, -⟩
      have other := List.find?_some foreign
      simp [own l (List.mem_of_find?_eq_some foreign)] at other
  | none =>
      have own : ∀ l ∈ listeners, l.balancer = balancer.id := by
        simpa using foreign
      refine ((decides_listenerCalls balancer _).bind fun _ _ => .ok _).congr ?_
      rw [nodup_chunks_iff, and_true]
      exact (and_iff_right own).symm

/-- The group is bound to the load balancer, its targets are fit, and no endpoint comes twice in
the whole group. -/
structure Registrable (balancer : String) (g : BoundSpecs) : Prop where
  bound : g.binding.balancer = balancer
  fit : ∀ s ∈ g.targets, s.Fit
  apart : (g.targets.map fun s => (s.instanceId, s.port)).Nodup

theorem decides_checkGroup (balancer : String) (g : BoundSpecs) :
    Decides (checkGroup balancer g) (Registrable balancer g) := by
  refine ((decides_checkBinding balancer g.binding).bind fun _ _ =>
    (decides_checkSpecs g.targets).bind fun _ _ => decides_ensureUnique _ _ _).congr ?_
  have same : (g.targets.map specEndpoint).Nodup ↔
      (g.targets.map fun s => (s.instanceId, s.port)).Nodup := by
    simp only [List.Nodup, List.pairwise_map, ne_eq, specEndpoint_eq_iff]
  rw [same]
  exact ⟨fun ⟨bound, fit, apart⟩ => ⟨bound, fit, apart⟩, fun h => ⟨h.bound, h.fit, h.apart⟩⟩

theorem decides_groupBindings (balancer : String) (limit : Nat) (bound : List String)
    (groups : List BoundSpecs) :
    Decides (groupBindings balancer limit bound groups)
      ((∀ g ∈ groups, Registrable balancer g) ∧ (groups.map fun g => g.binding.group).Nodup ∧
        ∀ g ∈ groups, g.binding.group ∉ bound) := by
  induction groups generalizing bound with
  | nil => exact (Decides.ok []).congr (by simp)
  | cons g rest ih =>
      refine ((decides_checkGroup balancer g).bind fun _ _ =>
        Decides.past (.duplicated _) trivial fun _ =>
          (ih (g.binding.group :: bound)).bind fun _ _ => .ok _).congr ?_
      rw [List.forall_mem_cons, List.forall_mem_cons]
      simp only [List.map_cons, List.nodup_cons, List.mem_map, List.mem_cons, not_or, and_true,
        not_exists, not_and]
      constructor
      · rintro ⟨first, new, others, apart, fresh⟩
        exact ⟨⟨first, others⟩, ⟨fun g' mem => (fresh g' mem).1, apart⟩, new,
          fun g' mem => (fresh g' mem).2⟩
      · rintro ⟨⟨first, others⟩, ⟨other, apart⟩, new, fresh⟩
        exact ⟨first, new, others, apart, fun g' mem => ⟨other g' mem, fresh g' mem⟩⟩

theorem decides_bindTargetGroups (balancer : String) (limit : Nat) (groups : List BoundSpecs) :
    Decides (bindTargetGroups balancer limit groups)
      (groups ≠ [] ∧ (∀ g ∈ groups, Registrable balancer g) ∧
        (groups.map fun g => g.binding.group).Nodup) := by
  refine (Decides.past (.invalidParameter _) trivial fun _ =>
    (decides_groupBindings balancer limit [] groups).bind fun _ _ => .ok _).congr ?_
  simp

/-- Whatever a plan is refused for, the failure complains about a value or a repetition. -/
theorem blames_of_refused {balancer : String} {limit : Nat} {job : Job} {failure : Failure}
    (refused : job.plan balancer limit = .error failure) : failure.BlamesInput := by
  cases job with
  | modifyWeight weight groups => exact (decides_modifyWeight _ _ _ _).blames _ refused
  | modifyPort port groups => exact (decides_modifyPort _ _ _ _).blames _ refused
  | removeTargets groups => exact (decides_removeTargets _ _ _).blames _ refused
  | addTargets groups => exact (decides_addTargets _ _ _).blames _ refused
  | deleteListeners named listeners => exact (decides_deleteListeners _ _ _).blames _ refused
  | bindTargetGroups groups => exact (decides_bindTargetGroups _ _ _).blames _ refused

/-- Which plans are accepted, and how every other one is refused. The items of one chunk are those
whose places over the limit are the same, and a limit of zero counts as one. -/
theorem plans_accepted_iff (balancer : String) (limit : Nat) :
    (∀ weight groups, (∃ p, modifyWeight balancer limit weight groups = .ok p) ↔
      weight ≤ 100 ∧ Plannable balancer limit Target.instanceId (targetGroups groups)) ∧
    (∀ port groups, (∃ p, modifyPort balancer limit port groups = .ok p) ↔
      port ≠ 0 ∧ Plannable balancer limit Target.instanceId (targetGroups groups)) ∧
    (∀ groups, (∃ p, removeTargets balancer limit groups = .ok p) ↔
      Plannable balancer limit (fun t => (t.instanceId, t.port)) (targetGroups groups)) ∧
    (∀ groups, (∃ p, addTargets balancer limit groups = .ok p) ↔
      (∀ g ∈ groups, ∀ s ∈ g.targets, s.Fit) ∧
        Plannable balancer limit (fun s => (s.instanceId, s.port)) (specGroups groups)) ∧
    (∀ named listeners, (∃ p, deleteListeners named limit listeners = .ok p) ↔
      listeners ≠ [] ∧ (∀ l ∈ listeners, l.balancer = named.id) ∧
        ApartInChunks limit Listener.id listeners) ∧
    ∀ (job : Job) failure, job.plan balancer limit = .error failure → failure.BlamesInput := by
  refine ⟨?_, ?_, ?_, ?_, ?_, fun job failure => blames_of_refused⟩
  · exact fun weight groups => (decides_modifyWeight balancer limit weight groups).passes
  · exact fun port groups => (decides_modifyPort balancer limit port groups).passes
  · exact fun groups => (decides_removeTargets balancer limit groups).passes
  · exact fun groups => (decides_addTargets balancer limit groups).passes
  · exact fun named listeners => (decides_deleteListeners named limit listeners).passes

end Plan

theorem TargetChange.decides_check (change : TargetChange) :
    Decides change.check change.InRange :=
  match change with
  | weight value => Plan.decides_checkWeight value
  | port value => Plan.decides_checkPort value

end BalancerFlows
