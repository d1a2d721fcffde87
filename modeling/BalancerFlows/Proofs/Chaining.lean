import BalancerFlows.Construction
import Mathlib.Data.List.Nodup

/-!
# Chained tasks

What the tasks of a chain look like, whatever was pushed: their ids count from 1, each waits for
the one before it, and the details at hand name the tasks that list them. Plans have one parameter
record per item of each request, so each task lists as many details as its request has items.
-/
namespace BalancerFlows

def FlowTask.listed (tasks : List FlowTask) : List Int64 :=
  tasks.flatMap fun task => task.params.detailIds

namespace Flow

def listed (f : Flow) : List Int64 :=
  FlowTask.listed f.tasks

def balancer? (f : Flow) : Option String :=
  f.shareData.get? "lb_id"

/-- The detail names a task of the flow, and this task lists the detail. -/
def Lists (f : Flow) (d : Detail) : Prop :=
  ∃ task ∈ f.tasks, d.action = some task.id ∧ d.id ∈ task.params.detailIds

theorem mem_listed {f : Flow} {id : Int64} :
    id ∈ f.listed ↔ ∃ task ∈ f.tasks, id ∈ task.params.detailIds := by
  simp [listed, FlowTask.listed]

end Flow

namespace TextMap

theorem lookup_cons_eq (entry : String × String) (rest : List (String × String)) (key : String) :
    (entry :: rest).lookup key = if key = entry.1 then some entry.2 else rest.lookup key := by
  rw [List.lookup_cons]
  by_cases same : key = entry.1
  · simp [same]
  · rw [if_neg same, beq_eq_false_iff_ne.2 same]

theorem lookup_insertEntry (key value other : String) (entries : List (String × String)) :
    (insertEntry key value entries).lookup other =
      if other = key then some value else entries.lookup other := by
  induction entries with
  | nil => exact lookup_cons_eq (key, value) [] other
  | cons head rest ih =>
      obtain ⟨k, v⟩ := head
      unfold insertEntry
      split
      next lt =>
        have ne : k ≠ key := fun same => String.lt_irrefl key (same ▸ lt)
        rw [lookup_cons_eq, ih, lookup_cons_eq]
        by_cases same : other = k
        · have other_ne : other ≠ key := same ▸ ne
          simp only [if_pos same, if_neg other_ne]
        · simp only [if_neg same]
      next =>
        split
        next same =>
          rw [lookup_cons_eq, lookup_cons_eq, same]
          by_cases found : other = key
          · simp only [if_pos found]
          · simp only [if_neg found]
        next => exact lookup_cons_eq (key, value) ((k, v) :: rest) other

theorem get?_insert (m : TextMap) (key value other : String) :
    (m.insert key value).get? other = if other = key then some value else m.get? other :=
  lookup_insertEntry key value other m.entries

end TextMap

theorem FlowDraft.shareData_balancer (d : FlowDraft) :
    d.shareData.get? "lb_id" = some d.resource.id := by
  simp only [shareData, TextMap.ofList, List.foldl_cons, List.foldl_nil]
  rw [TextMap.get?_insert, if_neg (by decide), TextMap.get?_insert, if_neg (by decide),
    TextMap.get?_insert, if_pos rfl]

namespace Decimal

theorem text_injective {m n : Nat} (h : text m = text n) : m = n := by
  have digits : digits m = digits n := String.ofList_injective h
  have read := read?_digits m
  rw [digits, read?_digits] at read
  exact (Option.some.inj read).symm

end Decimal

/-- Tasks with counted ids, each behind the one before it, each for a request of its own. -/
structure Chained (tasks : List FlowTask) : Prop where
  ids : tasks.map FlowTask.id =
    (List.range tasks.length).map fun n => ⟨Decimal.text (n + 1)⟩
  first : ∀ task, tasks[0]? = some task → task.dependsOn = []
  next : ∀ n task other, tasks[n]? = some task → tasks[n + 1]? = some other →
    other.dependsOn = [task.id]
  actions : ∀ task ∈ tasks, task.action = task.params.request.action
  counts : ∀ task ∈ tasks, task.params.detailIds.length = task.params.request.itemCount

namespace Chained

theorem empty : Chained [] :=
  ⟨rfl, by simp, by simp, by simp, by simp⟩

variable {tasks : List FlowTask}

theorem ids_nodup (h : Chained tasks) : (tasks.map FlowTask.id).Nodup := by
  rw [h.ids]
  refine List.nodup_range.map fun m n same => ?_
  have := Decimal.text_injective (congrArg ActionId.text same)
  omega

theorem eq_of_id_eq (h : Chained tasks) {task other : FlowTask} (mem : task ∈ tasks)
    (mem' : other ∈ tasks) (same : task.id = other.id) : task = other :=
  List.inj_on_of_nodup_map h.ids_nodup mem mem' same

theorem append (h : Chained tasks) {task : FlowTask}
    (id : task.id = ⟨Decimal.text (tasks.length + 1)⟩)
    (behind : task.dependsOn = (tasks.getLast?.map FlowTask.id).toList)
    (action : task.action = task.params.request.action)
    (count : task.params.detailIds.length = task.params.request.itemCount) :
    Chained (tasks ++ [task]) := by
  refine ⟨?_, ?_, ?_, ?_, ?_⟩
  · rw [List.map_append, h.ids, List.length_append, List.length_singleton, List.range_succ,
      List.map_append]
    simp [id]
  · intro root found
    cases tasks with
    | nil =>
        simp only [List.nil_append, List.getElem?_cons_zero, Option.some.injEq] at found
        rw [← found, behind]
        rfl
    | cons head rest => exact h.first root (by simpa using found)
  · intro n before after found found'
    rcases Nat.lt_trichotomy (n + 1) tasks.length with lt | eq | gt
    · rw [List.getElem?_append_left (by omega)] at found
      rw [List.getElem?_append_left lt] at found'
      exact h.next n before after found found'
    · rw [List.getElem?_append_left (by omega)] at found
      rw [List.getElem?_append_right (by omega), eq, Nat.sub_self] at found'
      simp only [List.getElem?_cons_zero, Option.some.injEq] at found'
      have last : tasks.getLast? = some before := by
        rw [List.getLast?_eq_getElem?, ← found]
        congr 1
        omega
      rw [← found', behind, last]
      rfl
    · rw [List.getElem?_eq_none (by simp; omega)] at found'
      cases found'
  · intro other mem
    rcases List.mem_append.1 mem with mem | mem
    · exact h.actions other mem
    · rwa [List.mem_singleton.1 mem]
  · intro other mem
    rcases List.mem_append.1 mem with mem | mem
    · exact h.counts other mem
    · rwa [List.mem_singleton.1 mem]

end Chained

theorem Numbering.issue_first {n m : Numbering} {id : ActionId} (step : n.step = 1)
    (h : n.issue? = some (id, m)) :
    id = ⟨Decimal.text n.next.toNat⟩ ∧ m.next.toNat = n.next.toNat + 1 ∧ m.step = 1 := by
  unfold Numbering.issue? at h
  split at h
  next room =>
    simp only [Option.some.injEq, Prod.mk.injEq] at h
    obtain ⟨rfl, rfl⟩ := h
    rw [step] at room ⊢
    refine ⟨rfl, ?_, rfl⟩
    rw [UInt64.toNat_add]
    exact Nat.mod_eq_of_lt room
  next => cases h

/-- A counter in steps of one gives no more ids only at its end. -/
theorem Numbering.exhausted {n : Numbering} (step : n.step = 1) (h : n.issue? = none) :
    UInt64.size ≤ n.next.toNat + 1 := by
  unfold issue? at h
  split at h
  next => cases h
  next full =>
    rw [step] at full
    exact Nat.le_of_not_lt full

/-- Chained tasks and the details they list: the details name, in order, their tasks. -/
structure Listing (tasks : List FlowTask) (details : List Detail) : Prop where
  chained : Chained tasks
  names : details.map (fun d => (d.action, d.id)) =
    tasks.flatMap fun task => task.params.detailIds.map fun id => (some task.id, id)

namespace Listing

variable {tasks : List FlowTask} {details : List Detail}

theorem listed_eq (h : Listing tasks details) :
    FlowTask.listed tasks = details.map Detail.id := by
  have ids := congrArg (List.map Prod.snd) h.names
  rw [List.map_map, List.map_flatMap] at ids
  simpa [FlowTask.listed, Function.comp_def] using ids.symm

theorem lists (h : Listing tasks details) {d : Detail} (mem : d ∈ details) :
    ∃ task ∈ tasks, d.action = some task.id ∧ d.id ∈ task.params.detailIds := by
  have named : (d.action, d.id) ∈ details.map fun d => (d.action, d.id) :=
    List.mem_map.2 ⟨d, mem, rfl⟩
  rw [h.names] at named
  obtain ⟨task, task_mem, named⟩ := List.mem_flatMap.1 named
  obtain ⟨id, listed, same⟩ := List.mem_map.1 named
  simp only [Prod.mk.injEq] at same
  exact ⟨task, task_mem, same.1.symm, same.2 ▸ listed⟩

theorem exists_detail (h : Listing tasks details) {task : FlowTask} (mem : task ∈ tasks)
    {id : Int64} (listed : id ∈ task.params.detailIds) :
    ∃ d ∈ details, d.action = some task.id ∧ d.id = id := by
  have named : (some task.id, id) ∈ details.map fun d => (d.action, d.id) := by
    rw [h.names]
    exact List.mem_flatMap.2 ⟨task, mem, List.mem_map.2 ⟨id, listed, rfl⟩⟩
  obtain ⟨d, d_mem, same⟩ := List.mem_map.1 named
  simp only [Prod.mk.injEq] at same
  exact ⟨d, d_mem, same⟩

end Listing

/-- What holds of a chain whatever was pushed. -/
structure Chain.Sound (c : Chain) : Prop where
  listing : Listing c.tasks c.details
  last : c.last = c.tasks.getLast?.map FlowTask.id
  next : c.numbering.next.toNat = c.tasks.length + 1
  step : c.numbering.step = 1

namespace Chain.Sound

variable {c : Chain}

theorem empty (scope : DetailScope) (vendor : Vendor) (retry : RetryPolicy) :
    ({ scope, vendor, retry } : Chain).Sound :=
  ⟨⟨.empty, rfl⟩, rfl, rfl, rfl⟩

theorem extend (h : c.Sound) {id : ActionId} {numbering : Numbering}
    (issued : c.numbering.issue? = some (id, numbering)) {details : List Detail}
    {request : CloudRequest} (count : details.length = request.itemCount) :
    (c.extend (c.taskFor id details request) details numbering).Sound := by
  obtain ⟨named, next, step⟩ := Numbering.issue_first h.step issued
  refine ⟨⟨?_, ?_⟩, ?_, ?_, step⟩
  · refine h.listing.chained.append (h.next ▸ named) ?_ rfl ?_
    · rw [← h.last]
      rfl
    · simpa [taskFor, FlowTask.ofParams] using count
  · simp only [Chain.extend, List.map_append, List.flatMap_append, h.listing.names, List.map_map]
    simp [taskFor, FlowTask.ofParams, Function.comp_def, Detail.bindAction]
  · simp
  · rw [extend_tasks, List.length_append, List.length_singleton, ← h.next]
    exact next

end Chain.Sound

theorem Except.bind_eq_ok_iff {ε α β : Type} {x : Except ε α} {f : α → Except ε β} {b : β} :
    (x >>= f) = .ok b ↔ ∃ a, x = .ok a ∧ f a = .ok b := by
  cases x <;> simp [bind, Except.bind]

/-- As many parameter records as the request has items. -/
def PlannedCall.Counted (c : PlannedCall) : Prop :=
  c.params.length = c.request.itemCount

/-- There is something to do, each call has an item, and each item has a parameter record. -/
structure Plan.Complete (p : Plan) : Prop where
  nonempty : p.calls ≠ []
  counted : ∀ c ∈ p.calls, c.Counted
  filled : ∀ c ∈ p.calls, c.params ≠ []

theorem chunksOf_ne_nil {α : Type} {size : Nat} {items : List α} (h : items ≠ []) :
    chunksOf size items ≠ [] := by
  cases items with
  | nil => exact absurd rfl h
  | cons item rest => simp [chunksOf]

theorem length_of_mem_chunksOf {α : Type} {size : Nat} {items chunk : List α}
    (h : chunk ∈ chunksOf size items) : 1 ≤ chunk.length ∧ chunk.length ≤ max size 1 := by
  induction items using chunksOf.induct size with
  | case1 => simp [chunksOf] at h
  | case2 item rest ih =>
      rw [chunksOf] at h
      rcases List.mem_cons.1 h with rfl | h
      · simp only [List.length_cons, List.length_take]
        omega
      · exact ih h

theorem ne_nil_of_mem_chunksOf {α : Type} {size : Nat} {items chunk : List α}
    (h : chunk ∈ chunksOf size items) : chunk ≠ [] :=
  List.length_pos_iff.1 (length_of_mem_chunksOf h).1

theorem mem_of_mem_chunksOf {α : Type} {size : Nat} {items chunk : List α}
    (mem : chunk ∈ chunksOf size items) {a : α} (a_mem : a ∈ chunk) : a ∈ items := by
  rw [← chunksOf_flatten size items]
  exact List.mem_flatten_of_mem mem a_mem

namespace Plan

variable {α : Type} {shape : CallShape α}

theorem groupCalls_spec {b : Binding} {chunks : List (List α)} {calls : List PlannedCall}
    (h : groupCalls shape b chunks = .ok calls) : calls = chunks.map (shape.call b) := by
  induction chunks generalizing calls with
  | nil =>
      cases h
      rfl
  | cons chunk rest ih =>
      obtain ⟨-, -, h⟩ := Except.bind_eq_ok_iff.1 h
      obtain ⟨more, more_ok, h⟩ := Except.bind_eq_ok_iff.1 h
      cases h
      rw [ih more_ok, List.map_cons]

/-- The calls on bound groups: one for each chunk of each group. -/
def groupedCalls (shape : CallShape α) (limit : Nat) (groups : List (Binding × List α)) :
    List PlannedCall :=
  groups.flatMap fun g => (chunksOf limit g.2).map (shape.call g.1)

theorem boundCalls_spec {balancer : String} {limit : Nat} {groups : List (Binding × List α)}
    {result : List PlannedCall × List ResourceKey}
    (h : boundCalls shape balancer limit groups = .ok result) :
    result.1 = groupedCalls shape limit groups := by
  induction groups generalizing result with
  | nil =>
      cases h
      rfl
  | cons g rest ih =>
      obtain ⟨b, items⟩ := g
      obtain ⟨-, -, h⟩ := Except.bind_eq_ok_iff.1 h
      split at h
      next none =>
        have none : items = [] := by simpa using none
        rw [ih h, none]
        simp [groupedCalls, chunksOf]
      next =>
        obtain ⟨calls, calls_ok, h⟩ := Except.bind_eq_ok_iff.1 h
        obtain ⟨⟨more, keys⟩, more_ok, h⟩ := Except.bind_eq_ok_iff.1 h
        cases h
        have rest := ih more_ok
        simp only at rest ⊢
        rw [groupCalls_spec calls_ok, rest, groupedCalls, groupedCalls, List.flatMap_cons]

theorem ofGroups_spec {operation : Operation} {balancer : String} {limit : Nat}
    {groups : List (Binding × List α)} {p : Plan}
    (h : ofGroups operation shape balancer limit groups = .ok p) :
    p.calls = groupedCalls shape limit groups ∧ p.calls ≠ [] := by
  obtain ⟨⟨calls, keys⟩, calls_ok, h⟩ := Except.bind_eq_ok_iff.1 h
  simp only at h
  split at h
  · cases h
  next some_calls =>
    cases h
    exact ⟨boundCalls_spec calls_ok, by simpa using some_calls⟩

theorem ofGroups_complete (counted : ∀ b items, (shape.call b items).Counted)
    (recorded : ∀ b items, items ≠ [] → (shape.call b items).params ≠ [])
    {operation : Operation} {balancer : String} {limit : Nat} {groups : List (Binding × List α)}
    {p : Plan} (h : ofGroups operation shape balancer limit groups = .ok p) : p.Complete := by
  obtain ⟨calls, nonempty⟩ := ofGroups_spec h
  have chunked : ∀ c ∈ p.calls, ∃ b chunk, chunk ≠ [] ∧ c = shape.call b chunk := by
    rw [calls]
    intro c mem
    obtain ⟨g, -, mem⟩ := List.mem_flatMap.1 mem
    obtain ⟨chunk, cut, rfl⟩ := List.mem_map.1 mem
    exact ⟨g.1, chunk, ne_nil_of_mem_chunksOf cut, rfl⟩
  refine ⟨nonempty, fun c mem => ?_, fun c mem => ?_⟩
  · obtain ⟨b, chunk, -, rfl⟩ := chunked c mem
    exact counted b chunk
  · obtain ⟨b, chunk, some_items, rfl⟩ := chunked c mem
    exact recorded b chunk some_items

theorem listenerCalls_spec {balancer : LoadBalancer} {chunks : List (List Listener)}
    {calls : List PlannedCall} (h : listenerCalls balancer chunks = .ok calls) :
    calls = chunks.map (listenerCall balancer) := by
  induction chunks generalizing calls with
  | nil =>
      cases h
      rfl
  | cons chunk rest ih =>
      obtain ⟨-, -, h⟩ := Except.bind_eq_ok_iff.1 h
      obtain ⟨more, more_ok, h⟩ := Except.bind_eq_ok_iff.1 h
      cases h
      rw [ih more_ok, List.map_cons]

theorem deleteListeners_spec {balancer : LoadBalancer} {limit : Nat} {listeners : List Listener}
    {p : Plan} (h : deleteListeners balancer limit listeners = .ok p) :
    listeners ≠ [] ∧ (∀ l ∈ listeners, l.balancer = balancer.id) ∧
      p.calls = (chunksOf limit listeners).map (listenerCall balancer) := by
  unfold deleteListeners at h
  by_cases no_listeners : listeners.isEmpty
  · rw [if_pos no_listeners] at h
    cases h
  · rw [if_neg no_listeners] at h
    simp only at h
    split at h
    · cases h
    next none =>
      obtain ⟨calls, calls_ok, h⟩ := Except.bind_eq_ok_iff.1 h
      cases h
      refine ⟨by simpa using no_listeners, fun l mem => ?_, listenerCalls_spec calls_ok⟩
      simpa using List.find?_eq_none.1 none l mem

theorem deleteListeners_complete {balancer : LoadBalancer} {limit : Nat}
    {listeners : List Listener} {p : Plan} (h : deleteListeners balancer limit listeners = .ok p) :
    p.Complete := by
  obtain ⟨some_listeners, -, calls⟩ := deleteListeners_spec h
  refine ⟨?_, ?_, ?_⟩
  · rw [calls]
    simpa using chunksOf_ne_nil some_listeners
  · rw [calls]
    simp [PlannedCall.Counted, listenerCall, CloudRequest.itemCount]
  · rw [calls]
    intro c mem
    obtain ⟨chunk, cut, rfl⟩ := List.mem_map.1 mem
    simpa [listenerCall] using ne_nil_of_mem_chunksOf cut

theorem bindingCalls_counted (limit : Nat) (g : BoundSpecs) :
    ∀ c ∈ bindingCalls limit g, c.Counted := by
  simp [bindingCalls, PlannedCall.Counted, registrationCall, CloudRequest.itemCount]

theorem bindingCalls_filled (limit : Nat) (g : BoundSpecs) :
    ∀ c ∈ bindingCalls limit g, c.params ≠ [] := by
  refine List.forall_mem_cons.2 ⟨by simp, fun c mem => ?_⟩
  obtain ⟨chunk, cut, rfl⟩ := List.mem_map.1 mem
  simpa [registrationCall] using ne_nil_of_mem_chunksOf cut

theorem groupBindings_spec {balancer : String} {limit : Nat} {bound : List String}
    {groups : List BoundSpecs} {calls : List PlannedCall}
    (h : groupBindings balancer limit bound groups = .ok calls) :
    calls = groups.flatMap (bindingCalls limit) := by
  induction groups generalizing bound calls with
  | nil =>
      cases h
      rfl
  | cons g rest ih =>
      obtain ⟨-, -, h⟩ := Except.bind_eq_ok_iff.1 h
      split at h
      · cases h
      · obtain ⟨more, more_ok, h⟩ := Except.bind_eq_ok_iff.1 h
        cases h
        rw [ih more_ok, List.flatMap_cons]

theorem bindTargetGroups_spec {balancer : String} {limit : Nat} {groups : List BoundSpecs}
    {p : Plan} (h : bindTargetGroups balancer limit groups = .ok p) :
    groups ≠ [] ∧ groupBindings balancer limit [] groups = .ok p.calls := by
  unfold bindTargetGroups at h
  split at h
  · cases h
  next some_groups =>
    obtain ⟨calls, calls_ok, h⟩ := Except.bind_eq_ok_iff.1 h
    cases h
    exact ⟨by simpa using some_groups, calls_ok⟩

theorem bindTargetGroups_complete {balancer : String} {limit : Nat} {groups : List BoundSpecs}
    {p : Plan} (h : bindTargetGroups balancer limit groups = .ok p) : p.Complete := by
  obtain ⟨some_groups, planned⟩ := bindTargetGroups_spec h
  have calls := groupBindings_spec planned
  refine ⟨?_, ?_, ?_⟩
  · rw [calls]
    obtain ⟨g, rest, rfl⟩ := List.exists_cons_of_ne_nil some_groups
    simp [bindingCalls]
  · intro c mem
    rw [calls] at mem
    obtain ⟨g, -, mem⟩ := List.mem_flatMap.1 mem
    exact bindingCalls_counted limit g c mem
  · intro c mem
    rw [calls] at mem
    obtain ⟨g, -, mem⟩ := List.mem_flatMap.1 mem
    exact bindingCalls_filled limit g c mem

end Plan

/-- Every plan of a job has something to do, and a parameter record for each item of its calls. -/
theorem Job.plan_complete {balancer : String} {limit : Nat} {job : Job} {p : Plan}
    (h : job.plan balancer limit = .ok p) : p.Complete := by
  cases job with
  | modifyWeight weight groups =>
      obtain ⟨-, -, h⟩ := Except.bind_eq_ok_iff.1 h
      exact Plan.ofGroups_complete
        (by simp [Plan.weightShape, PlannedCall.Counted, CloudRequest.itemCount])
        (by simp [Plan.weightShape]) h
  | modifyPort port groups =>
      obtain ⟨-, -, h⟩ := Except.bind_eq_ok_iff.1 h
      exact Plan.ofGroups_complete
        (by simp [Plan.portShape, PlannedCall.Counted, CloudRequest.itemCount])
        (by simp [Plan.portShape]) h
  | removeTargets groups =>
      exact Plan.ofGroups_complete
        (by simp [Plan.removalShape, PlannedCall.Counted, CloudRequest.itemCount])
        (by simp [Plan.removalShape]) h
  | addTargets groups =>
      obtain ⟨-, -, h⟩ := Except.bind_eq_ok_iff.1 h
      refine Plan.ofGroups_complete ?_ ?_ h
      · simp [Plan.registrationShape, Plan.registrationCall, PlannedCall.Counted,
          CloudRequest.itemCount]
      · simp [Plan.registrationShape, Plan.registrationCall]
  | deleteListeners balancer listeners => exact Plan.deleteListeners_complete h
  | bindTargetGroups groups => exact Plan.bindTargetGroups_complete h

end BalancerFlows
