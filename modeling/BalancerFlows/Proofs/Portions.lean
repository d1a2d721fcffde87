import BalancerFlows.Proofs.Chunking
import BalancerFlows.Proofs.Gathering

/-!
# How the items of a plan lie in its calls

The calls of a plan are those of its groups, one group after the other, and the calls of a group
carry its items in order, in full portions but for the last. The records of a call and the items of
its request come from the same chunk, so each record is about the item at the same place. Main
statement: `Plan.plans_laid_out`.
-/
namespace BalancerFlows

/-- What a request asks the cloud to work on, one by one. -/
inductive CloudItem where
  | target (ref : TargetRef)
  | newTarget (spec : TargetSpec)
  | listener (ref : ListenerRef)
  | rule (binding : Binding)
  deriving DecidableEq

/-- The record tells the item: the same instance, port and target, or the same listener. -/
def CloudItem.RecordedIn : CloudItem → Json → Prop
  | target ref, record =>
      record.member? "target_id" = some (encode ref.target) ∧
        record.member? "cloud_inst_id" = some (encode ref.instanceId) ∧
        record.member? "port" = some (encode ref.port)
  | newTarget spec, record =>
      record.member? "cloud_inst_id" = some (encode spec.instanceId) ∧
        record.member? "ip" = some (encode spec.ip) ∧
        record.member? "port" = some (encode spec.port) ∧
        record.member? "weight" = some (encode spec.weight)
  | listener ref, record =>
      record.member? "listener_id" = some (encode ref.listener) ∧
        record.member? "cloud_id" = some (encode ref.cloudId)
  | rule binding, record =>
      record.member? "target_group_id" = some (encode binding.group) ∧
        record.member? "listener_id" = some (encode binding.listener)

namespace CloudRequest

def items : CloudRequest → List CloudItem
  | registerTargets _ specs => specs.map .newTarget
  | deregisterTargets _ refs | modifyTargetWeight _ _ refs | modifyTargetPort _ _ refs =>
      refs.map .target
  | deleteListeners _ refs => refs.map .listener
  | bindTargetGroupRule binding => [.rule binding]

@[simp] theorem length_items (r : CloudRequest) : r.items.length = r.itemCount := by
  cases r <;> simp [items, itemCount]

end CloudRequest

/-- Calls that carry some items: as few as the limit allows, all but the last one full, with the
items in order and a record for each at its place. A limit of zero counts as one. -/
structure Portioned (limit : Nat) (Suits : CloudRequest → Prop) (items : List CloudItem)
    (calls : List PlannedCall) : Prop where
  count : calls.length = items.length ⌈/⌉ max limit 1
  full : ∀ k call, k + 1 < calls.length → calls[k]? = some call →
    call.request.itemCount = max limit 1
  filled : ∀ call ∈ calls, 1 ≤ call.request.itemCount ∧ call.request.itemCount ≤ max limit 1
  suited : ∀ call ∈ calls, Suits call.request
  joined : (calls.flatMap fun call => call.request.items) = items
  recorded : ∀ call ∈ calls, List.Forall₂ CloudItem.RecordedIn call.request.items call.params
  counted : ∀ call ∈ calls, call.Counted

section Chunks

variable {α : Type} {limit : Nat} {call : List α → PlannedCall} {item : α → CloudItem}
  {Suits : CloudRequest → Prop}

/-- Calls for chunks carry the items if each does for its chunk. -/
theorem portioned_chunks (items : ∀ chunk, (call chunk).request.items = chunk.map item)
    (records : ∀ chunk, List.Forall₂ CloudItem.RecordedIn (chunk.map item) (call chunk).params)
    (suits : ∀ chunk, Suits (call chunk).request) (all : List α) :
    Portioned limit Suits (all.map item) ((chunksOf limit all).map call) := by
  have size : ∀ chunk, (call chunk).request.itemCount = chunk.length := by
    intro chunk
    rw [← CloudRequest.length_items, items, List.length_map]
  refine ⟨?_, ?_, ?_, ?_, flatMap_chunksOf items, ?_, ?_⟩
  · rw [List.length_map, List.length_map, length_chunksOf]
  · intro k c more found
    rw [List.length_map] at more
    rw [List.getElem?_map] at found
    obtain ⟨chunk, at_k, rfl⟩ := Option.map_eq_some_iff.1 found
    rw [size, length_of_not_last at_k more]
  all_goals
    intro c mem
    obtain ⟨chunk, cut, rfl⟩ := List.mem_map.1 mem
  · rw [size]
    exact length_of_mem_chunksOf cut
  · exact suits chunk
  · rw [items]
    exact records chunk
  · rw [PlannedCall.Counted, size, ← (records chunk).length_eq, List.length_map]

end Chunks

/-- The items of calls that carry them are as many as their records. -/
theorem length_of_recorded {calls : List PlannedCall}
    (counted : ∀ call ∈ calls, call.Counted) :
    (calls.map fun call => call.params.length).sum =
      (calls.flatMap fun call => call.request.items).length := by
  rw [List.length_flatMap]
  refine congrArg List.sum (List.map_congr_left fun call mem => ?_)
  rw [CloudRequest.length_items, counted call mem]

namespace Plan

theorem itemCount_eq_sum (p : Plan) : p.itemCount = (p.calls.map fun c => c.params.length).sum := by
  rw [itemCount, List.sum_eq_foldl, List.foldl_map]

theorem firstOccurrences_concat {α : Type} [DecidableEq α] (items : List α) (a : α) :
    firstOccurrences (items ++ [a]) =
      if a ∈ firstOccurrences items then firstOccurrences items
      else firstOccurrences items ++ [a] := by
  simp only [firstOccurrences, List.foldl_append, List.foldl_cons, List.foldl_nil]
  congr

theorem firstOccurrences_eq {α : Type} [DecidableEq α] (items : List α) :
    firstOccurrences items = items.eraseDups := by
  induction items using List.reverseRecOn with
  | nil => rfl
  | append_singleton items a ih =>
      rw [firstOccurrences_concat, eraseDups_concat, ih]
      simp only [List.mem_eraseDups]

section Groups

variable {α : Type} {shape : CallShape α} {limit : Nat} {groups : List (Binding × List α)}

/-- What the calls of a shape carry for each item, and how their requests look. -/
structure CallShape.Carries (shape : CallShape α) (item : α → CloudItem)
    (Suits : Binding → CloudRequest → Prop) : Prop where
  items : ∀ b chunk, (shape.call b chunk).request.items = chunk.map item
  records : ∀ b chunk,
    List.Forall₂ CloudItem.RecordedIn (chunk.map item) (shape.call b chunk).params
  suits : ∀ b chunk, Suits b (shape.call b chunk).request

/-- Every group with an item is a sub-resource, named as often as it comes. -/
theorem boundCalls_keys {balancer : String} {result : List PlannedCall × List ResourceKey}
    (h : boundCalls shape balancer limit groups = .ok result) :
    result.2 = (groups.filter fun g => g.2 ≠ []).map fun g => groupKey g.1.group := by
  induction groups generalizing result with
  | nil =>
      cases h
      rfl
  | cons g rest ih =>
      obtain ⟨b, items⟩ := g
      obtain ⟨-, -, h⟩ := Except.bind_eq_ok_iff.1 h
      split at h
      next none =>
        have none : items = [] := by simpa using none
        rw [ih h, List.filter_cons_of_neg (by simp [none])]
      next some_item =>
        have some_item : items ≠ [] := by simpa using some_item
        obtain ⟨calls, -, h⟩ := Except.bind_eq_ok_iff.1 h
        obtain ⟨⟨more, keys⟩, more_ok, h⟩ := Except.bind_eq_ok_iff.1 h
        cases h
        rw [List.filter_cons_of_pos (by simp [some_item]), List.map_cons, ← ih more_ok]

/-- The calls of a plan are those that carry the items of each group, one group after the other,
and the sub-resources are the groups with items, in the order in which they first come. -/
structure LaidOut (limit : Nat) (Suits : Binding → CloudRequest → Prop) (item : α → CloudItem)
    (groups : List (Binding × List α)) (p : Plan) : Prop where
  calls : ∃ parts : List (List PlannedCall), p.calls = parts.flatten ∧
    List.Forall₂ (fun g part => Portioned limit (Suits g.1) (g.2.map item) part) groups parts
  itemCount : p.itemCount = (groups.map fun g => g.2.length).sum
  subResources : p.subResources =
    ((groups.filter fun g => g.2 ≠ []).map fun g => groupKey g.1.group).eraseDups

theorem laidOut_ofGroups {item : α → CloudItem} {Suits : Binding → CloudRequest → Prop}
    (carries : shape.Carries item Suits) {operation : Operation} {balancer : String} {p : Plan}
    (h : ofGroups operation shape balancer limit groups = .ok p) :
    LaidOut limit Suits item groups p := by
  have portioned : ∀ g : Binding × List α, Portioned limit (Suits g.1) (g.2.map item)
      ((chunksOf limit g.2).map (shape.call g.1)) := fun g =>
    portioned_chunks (carries.items g.1) (carries.records g.1) (carries.suits g.1) g.2
  have calls := (ofGroups_spec h).1
  refine ⟨⟨groups.map fun g => (chunksOf limit g.2).map (shape.call g.1), ?_, ?_⟩, ?_, ?_⟩
  · rw [calls, groupedCalls, List.flatMap_def]
  · exact List.forall₂_map_right_iff.2 (List.forall₂_same.2 fun g _ => portioned g)
  · have counted : ∀ c ∈ p.calls, c.Counted := by
      rw [calls]
      intro c mem
      obtain ⟨g, -, mem⟩ := List.mem_flatMap.1 mem
      exact (portioned g).counted c mem
    rw [itemCount_eq_sum, length_of_recorded counted, calls, flatMap_groupedCalls carries.items,
      List.length_map, List.length_flatMap]
  · obtain ⟨⟨made, keys⟩, planned, h⟩ := Except.bind_eq_ok_iff.1 h
    simp only at h
    split at h
    · cases h
    · cases h
      rw [firstOccurrences_eq, ← boundCalls_keys planned]

end Groups

section Shapes

theorem recorded_targetParam (t : Target) : (CloudItem.target t.ref).RecordedIn (targetParam t) :=
  ⟨rfl, rfl, rfl⟩

theorem recorded_withMember {t : Target} {key : String} (value : Json)
    (other : key ≠ "target_id" ∧ key ≠ "cloud_inst_id" ∧ key ≠ "port") :
    (CloudItem.target t.ref).RecordedIn ((targetParam t).withMember key value) :=
  ⟨Json.lookup_setMember_of_ne other.1.symm _ _, Json.lookup_setMember_of_ne other.2.1.symm _ _,
    Json.lookup_setMember_of_ne other.2.2.symm _ _⟩

theorem forall₂_records {α : Type} {item : α → CloudItem} {param : α → Json}
    (recorded : ∀ a, (item a).RecordedIn (param a)) (chunk : List α) :
    List.Forall₂ CloudItem.RecordedIn (chunk.map item) (chunk.map param) := by
  rw [List.forall₂_map_left_iff, List.forall₂_map_right_iff]
  exact List.forall₂_same.2 fun a _ => recorded a

theorem carries_weightShape (weight : UInt32) :
    CallShape.Carries (weightShape weight) (fun t => .target t.ref)
      fun b r => ∃ refs, r = .modifyTargetWeight b weight refs where
  items _ _ := List.map_map
  records _ chunk := forall₂_records (fun _ => recorded_withMember _ (by decide)) chunk
  suits _ _ := ⟨_, rfl⟩

theorem carries_portShape (port : UInt16) :
    CallShape.Carries (portShape port) (fun t => .target t.ref)
      fun b r => ∃ refs, r = .modifyTargetPort b port refs where
  items _ _ := List.map_map
  records _ chunk := forall₂_records (fun _ => recorded_withMember _ (by decide)) chunk
  suits _ _ := ⟨_, rfl⟩

theorem carries_removalShape :
    CallShape.Carries removalShape (fun t => .target t.ref)
      fun b r => ∃ refs, r = .deregisterTargets b refs where
  items _ _ := List.map_map
  records _ chunk := forall₂_records recorded_targetParam chunk
  suits _ _ := ⟨_, rfl⟩

theorem recorded_specParam (group : String) (s : TargetSpec) :
    (CloudItem.newTarget s).RecordedIn (specParam group s) :=
  ⟨rfl, rfl, rfl, rfl⟩

theorem carries_registrationShape :
    CallShape.Carries registrationShape .newTarget
      fun b r => ∃ specs, r = .registerTargets b specs where
  items _ _ := rfl
  records b chunk := forall₂_records (recorded_specParam b.group) chunk
  suits _ chunk := ⟨chunk, rfl⟩

theorem recorded_listenerParam (l : Listener) :
    (CloudItem.listener l.ref).RecordedIn (listenerParam l) :=
  ⟨rfl, rfl⟩

end Shapes

/-- The sub-resource a listener is. -/
def listenerKey (l : Listener) : ResourceKey :=
  { id := l.id, kind := .listener }

theorem laidOut_deleteListeners {named : LoadBalancer} {limit : Nat} {listeners : List Listener}
    {p : Plan} (h : deleteListeners named limit listeners = .ok p) :
    Portioned limit (fun r => ∃ refs, r = .deleteListeners named.cloudId refs)
        (listeners.map fun l => .listener l.ref) p.calls ∧
      p.itemCount = listeners.length ∧ p.subResources = listeners.map listenerKey := by
  have portioned : Portioned limit (fun r => ∃ refs, r = .deleteListeners named.cloudId refs)
      (listeners.map fun l => .listener l.ref) p.calls := by
    rw [(deleteListeners_spec h).2.2]
    refine portioned_chunks (fun chunk => ?_) (forall₂_records recorded_listenerParam)
      (fun _ => ⟨_, rfl⟩) listeners
    exact List.map_map
  refine ⟨portioned, ?_, ?_⟩
  · rw [itemCount_eq_sum, length_of_recorded portioned.counted, portioned.joined, List.length_map]
  · have some_listeners : ¬ listeners.isEmpty := by simpa using (deleteListeners_spec h).1
    unfold deleteListeners at h
    rw [if_neg some_listeners] at h
    simp only at h
    split at h
    · cases h
    · obtain ⟨calls, -, h⟩ := Except.bind_eq_ok_iff.1 h
      cases h
      rfl

/-- How an accepted plan lies: its calls carry the items of each group in order and within the
limit, every record is about the item at its place, every request has the binding of its group and
the new value, and the sub-resources are the groups with items, each once. Listeners to be deleted
are as one group, but each of them is a sub-resource. -/
theorem plans_laid_out (balancer : String) (limit : Nat) :
    (∀ weight groups p, modifyWeight balancer limit weight groups = .ok p →
      LaidOut limit (fun b r => ∃ refs, r = .modifyTargetWeight b weight refs)
        (fun t => .target t.ref) (targetGroups groups) p) ∧
    (∀ port groups p, modifyPort balancer limit port groups = .ok p →
      LaidOut limit (fun b r => ∃ refs, r = .modifyTargetPort b port refs)
        (fun t => .target t.ref) (targetGroups groups) p) ∧
    (∀ groups p, removeTargets balancer limit groups = .ok p →
      LaidOut limit (fun b r => ∃ refs, r = .deregisterTargets b refs)
        (fun t => .target t.ref) (targetGroups groups) p) ∧
    (∀ groups p, addTargets balancer limit groups = .ok p →
      LaidOut limit (fun b r => ∃ specs, r = .registerTargets b specs)
        .newTarget (specGroups groups) p) ∧
    ∀ named listeners p, deleteListeners named limit listeners = .ok p →
      Portioned limit (fun r => ∃ refs, r = .deleteListeners named.cloudId refs)
          (listeners.map fun l => .listener l.ref) p.calls ∧
        p.itemCount = listeners.length ∧ p.subResources = listeners.map listenerKey := by
  refine ⟨?_, ?_, ?_, ?_, fun named listeners p => laidOut_deleteListeners⟩
  · intro weight groups p planned
    obtain ⟨-, -, planned⟩ := Except.bind_eq_ok_iff.1 planned
    exact laidOut_ofGroups (carries_weightShape weight) planned
  · intro port groups p planned
    obtain ⟨-, -, planned⟩ := Except.bind_eq_ok_iff.1 planned
    exact laidOut_ofGroups (carries_portShape port) planned
  · intro groups p planned
    exact laidOut_ofGroups carries_removalShape planned
  · intro groups p planned
    obtain ⟨-, -, planned⟩ := Except.bind_eq_ok_iff.1 planned
    exact laidOut_ofGroups carries_registrationShape planned

def bindingOn (group : String) : Binding :=
  { group, balancer := "lb-1", balancerCloudId := "c-lb-1", listener := "li-1"
    listenerCloudId := "c-li-1", ruleCloudId := none }

/-- A group that comes twice, with a group without targets in between. -/
def repeatedGroup : List BoundTargets :=
  let target (id group instanceId : String) : Target :=
    { id, group, instanceId, ip := "10.0.0.1", port := 80, weight := 10 }
  [{ binding := bindingOn "tg-1"
     targets := [target "t-1" "tg-1" "i-1", target "t-2" "tg-1" "i-2", target "t-3" "tg-1" "i-1"] },
   { binding := bindingOn "tg-2", targets := [] },
   { binding := bindingOn "tg-1", targets := [target "t-4" "tg-1" "i-1"] }]

/-- Under a limit of two, the same instance comes in the first and in the second call. -/
theorem plans_laid_out_repeatedGroup : ∃ p,
    modifyWeight "lb-1" 2 50 repeatedGroup = .ok p ∧ p.taskCount = 3 ∧
      p.subResources = [groupKey "tg-1"] ∧
      LaidOut 2 (fun b r => ∃ refs, r = .modifyTargetWeight b 50 refs) (fun t => .target t.ref)
        (targetGroups repeatedGroup) p := by
  have planned : modifyWeight "lb-1" 2 50 repeatedGroup =
      .ok ((modifyWeight "lb-1" 2 50 repeatedGroup).toOption.getD default) := by
    decide +kernel
  exact ⟨_, planned, by decide +kernel, by decide +kernel,
    (plans_laid_out "lb-1" 2).1 50 repeatedGroup _ planned⟩

end Plan

end BalancerFlows
