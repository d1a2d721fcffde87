import BalancerFlows.Proofs.Chaining
import BalancerFlows.Proofs.Sharing

/-!
# What work on a batch writes

`Write` lists what a single call of a construction or of a local change may do to the tables,
relative to the rows that this piece of work has added itself. It never touches a row of anybody
else and never drops a lock, so one piece of work leaves the others undisturbed. Main statements:
`Write.undisturbed`, and `Path.frame` for a whole run.
-/
namespace BalancerFlows

/-- A flow whose tasks form a chain, all of whose details are stored, bound to it and still to be
worked on, and belong to one batch. -/
structure Flow.Linked (f : Flow) (t : Tables) : Prop where
  nonempty : f.tasks ≠ []
  chained : Chained f.tasks
  ascending : f.listed.Pairwise (· < ·)
  bound : ∃ batch, ∀ task ∈ f.tasks, ∀ id ∈ task.params.detailIds, ∃ d,
    t.details.get? id = some d ∧ d.flow = some f.id ∧ d.action = some task.id ∧
      d.state = .pending ∧ d.batch = batch

/-- None of the flows a piece of work has added may run yet. -/
def Own.Hidden (o : Own) (t : Tables) : Prop :=
  ∀ g ∈ o.flows, ∀ f, t.flows.get? g = some f → f.state ≠ .pending

/-- What one call of a piece of work may write. Locks are taken for claimed resources only. -/
inductive Write (claims : ResourceKey → Prop) (o : Own) (t : Tables) : Tables → Prop
  | nothing : Write claims o t t
  | batches (batches : Table Batch) : Write claims o t { t with batches }
  | subFlows (subFlows : List SubFlow) : Write claims o t { t with subFlows }
  /-- Details come before the flow. -/
  | details (news : List NewDetail) (first : o.flows = []) :
      Write claims o t
        { t with details := (t.details.addAll (news.map NewDetail.store)).2 }
  /-- The flow lists details of its own, each once. -/
  | flow (new : NewFlow) (state : FlowState) (first : o.flows = []) (hidden : state ≠ .pending)
      (own : ∀ id ∈ FlowTask.listed new.tasks, id ∈ o.details)
      (once : (FlowTask.listed new.tasks).Nodup) : Write claims o t (t.withFlow new state)
  /-- Details are bound to the flow and to the tasks that list them. -/
  | bindings (f : Flow) (patches : List DetailPatch) (stored : t.flows.get? f.id = some f)
      (own : o.flows = [f.id]) (hidden : f.state ≠ .pending)
      (bind : ∀ p ∈ patches, p.id ∈ o.details ∧ p.flow = some f.id ∧
        ∃ task ∈ f.tasks, p.action = some task.id ∧ p.id ∈ task.params.detailIds) :
      Write claims o t { t with details := Tables.patchDetails t.details patches }
  /-- Details are settled where no flow works on them. -/
  | outcomes (patches : List DetailPatch) (hidden : o.Hidden t)
      (settle : ∀ p ∈ patches, p.id ∈ o.details ∧ p.flow = none ∧ p.action = none) :
      Write claims o t { t with details := Tables.patchDetails t.details patches }
  | lock (l : Lock) (f : Flow) (free : t.locks.get? l.resource = none)
      (claimed : claims l.resource) (own : l.flow ∈ o.flows)
      (stored : t.flows.get? l.flow = some f) (balancer : f.balancer? = some l.resource.id)
      (kind : l.kind = f.operation.lockKind) :
      Write claims o t { t with locks := t.locks.put l.resource l }
  /-- A flow may run as soon as it has its lock and is linked. -/
  | activation (f : Flow) (l : Lock) (own : f.id ∈ o.flows) (stored : t.flows.get? f.id = some f)
      (held : t.locks.get? l.resource = some l) (owner : l.flow = f.id) (linked : f.Linked t) :
      Write claims o t
        { t with flows := t.flows.update f.id fun f => { f with state := .pending } }

/-- Others leave the rows of a piece of work alone, and the locks of its flows. -/
structure Undisturbed (o : Own) (t t' : Tables) : Prop where
  details : ∀ id ∈ o.details, t'.details.get? id = t.details.get? id
  flows : ∀ id ∈ o.flows, t'.flows.get? id = t.flows.get? id
  locks : ∀ k l, t.locks.get? k = some l → l.flow ∈ o.flows → t'.locks.get? k = some l

namespace Undisturbed

variable {o : Own} {t t₁ t₂ : Tables}

@[refl] theorem refl (o : Own) (t : Tables) : Undisturbed o t t :=
  ⟨fun _ _ => rfl, fun _ _ => rfl, fun _ _ found _ => found⟩

theorem trans (h : Undisturbed o t t₁) (k : Undisturbed o t₁ t₂) : Undisturbed o t t₂ where
  details id mem := (k.details id mem).trans (h.details id mem)
  flows id mem := (k.flows id mem).trans (h.flows id mem)
  locks key l found mem := k.locks key l (h.locks key l found mem) mem

end Undisturbed

/-- The rows a piece of work has added are there. -/
structure Own.Present (o : Own) (t : Tables) : Prop where
  details : ∀ id ∈ o.details, id ∈ t.details.rows.keys
  flows : ∀ id ∈ o.flows, id ∈ t.flows.rows.keys

namespace Own

variable {o : Own} {t t' : Tables}

theorem mem_grow_details {id : Int64} : id ∈ (o.grow t t').details ↔
    id ∈ o.details ∨ id ∈ t'.details.rows.keys ∧ id ∉ t.details.rows.keys := by
  simp [grow, Table.mem_added]

theorem mem_grow_flows {id : Int64} : id ∈ (o.grow t t').flows ↔
    id ∈ o.flows ∨ id ∈ t'.flows.rows.keys ∧ id ∉ t.flows.rows.keys := by
  simp [grow, Table.mem_added]

theorem grow_patched (o : Own) (t : Tables) (patches : List DetailPatch) :
    o.grow t { t with details := Tables.patchDetails t.details patches } = o := by
  apply grow_eq_self
  · exact Tables.keys_patchDetails t.details patches
  · rfl

theorem grow_activated (o : Own) (t : Tables) (flow : Int64) :
    o.grow t { t with flows := t.flows.update flow fun f => { f with state := .pending } } = o := by
  apply grow_eq_self
  · rfl
  · exact Keyed.keys_update ..

theorem present_empty (t : Tables) : ({} : Own).Present t :=
  ⟨by simp, by simp⟩

theorem Present.later (h : o.Present t) (numbered : t.Numbered) (numbered' : t'.Numbered)
    (later : t.Later t') : o.Present t' where
  details id mem := numbered.details.keys_subset numbered'.details later.details
    (h.details id mem)
  flows id mem := numbered.flows.keys_subset numbered'.flows later.flows (h.flows id mem)

theorem Present.grow (h : o.Present t) (numbered : t.Numbered) (numbered' : t'.Numbered)
    (later : t.Later t') : (o.grow t t').Present t' := by
  have kept := h.later numbered numbered' later
  refine ⟨fun id mem => ?_, fun id mem => ?_⟩
  · rcases mem_grow_details.1 mem with mem | mem
    · exact kept.details id mem
    · exact mem.1
  · rcases mem_grow_flows.1 mem with mem | mem
    · exact kept.flows id mem
    · exact mem.1

end Own

namespace Tables

theorem numbered_detail_id {t : Tables} (h : t.Numbered) {id : Int64} {d : Detail}
    (stored : t.details.get? id = some d) : d.id = id :=
  h.details.key_of_get? stored

theorem values_withFlow {t : Tables} (fresh : t.flows.nextId ∉ t.flows.rows.keys) (new : NewFlow)
    (state : FlowState) : (t.withFlow new state).flows.values =
      t.flows.values ++ [{ new.store t.flows.nextId with state }] := by
  have rows := Table.add_rows fresh fun id => { new.store id with state }
  simp only [withFlow, Table.values, rows]
  simp [Keyed.values]

theorem get?_withFlow (t : Tables) (new : NewFlow) (state : FlowState) (id : Int64) :
    (t.withFlow new state).flows.get? id =
      if t.flows.nextId = id then some { new.store t.flows.nextId with state }
      else t.flows.get? id :=
  Table.get?_add t.flows (fun id => { new.store id with state }) id

theorem get?_withFlow_of_mem {t : Tables} (numbered : t.Numbered) {new : NewFlow}
    {state : FlowState} {id : Int64} (old : id ∈ t.flows.rows.keys) :
    (t.withFlow new state).flows.get? id = t.flows.get? id := by
  have fresh := numbered.flows.nextId_notMem
  rw [get?_withFlow, if_neg]
  exact fun same => fresh (same ▸ old)

theorem withFlow_cases {t : Tables} {new : NewFlow} {state : FlowState} {id : Int64} {f : Flow}
    (found : (t.withFlow new state).flows.get? id = some f) :
    t.flows.get? id = some f ∨
      id = t.flows.nextId ∧ f = { new.store t.flows.nextId with state } := by
  rw [get?_withFlow] at found
  split at found
  next same => exact .inr ⟨same.symm, (Option.some.inj found).symm⟩
  next => exact .inl found

/-- After a flow has begun to run every flow is as it was, or it is this one. -/
theorem activated_cases {t : Tables} {f : Flow} (stored : t.flows.get? f.id = some f) {g : Int64}
    {f' : Flow}
    (found : (t.flows.update f.id fun f => { f with state := .pending }).get? g = some f') :
    t.flows.get? g = some f' ∨ g = f.id ∧ f' = { f with state := .pending } := by
  rcases Table.update_cases found with old | ⟨rfl, old, old_stored, rfl⟩
  · exact .inl old
  · rw [stored, Option.some.injEq] at old_stored
    exact .inr ⟨rfl, by rw [old_stored]⟩

theorem exists_activated {t : Tables} {g : Int64} {f : Flow} (found : t.flows.get? g = some f)
    (flow : Int64) :
    ∃ state, (t.flows.update flow fun f => { f with state := .pending }).get? g =
      some { f with state } := by
  by_cases same : flow = g
  · refine ⟨.pending, ?_⟩
    rw [Table.get?_update_eq, if_pos same, found]
    rfl
  · refine ⟨f.state, ?_⟩
    rw [Table.get?_update_eq, if_neg same, found]

end Tables

theorem NewDetail.store_id (news : List NewDetail) :
    ∀ make ∈ news.map NewDetail.store, ∀ id, (make id).id = id := by
  simp [NewDetail.store]

namespace Write

variable {claims : ResourceKey → Prop} {o : Own} {t t' : Tables}

theorem get?_details (h : Write claims o t t') (numbered : t.Numbered)
    (numbered' : t'.Numbered) {id : Int64} (old : id ∈ t.details.rows.keys)
    (foreign : id ∉ o.details) : t'.details.get? id = t.details.get? id := by
  cases h with
  | details news first =>
      exact Table.get?_addAll_of_mem numbered.details (NewDetail.store_id news)
        numbered'.details old
  | bindings f patches stored own hidden bind =>
      refine Tables.get?_patchDetails_of_notMem (fun mem => foreign ?_) t.details
      obtain ⟨p, p_mem, rfl⟩ := List.mem_map.1 mem
      exact (bind p p_mem).1
  | outcomes patches hidden settle =>
      refine Tables.get?_patchDetails_of_notMem (fun mem => foreign ?_) t.details
      obtain ⟨p, p_mem, rfl⟩ := List.mem_map.1 mem
      exact (settle p p_mem).1
  | _ => rfl

theorem get?_flows (h : Write claims o t t') (numbered : t.Numbered)
    (numbered' : t'.Numbered) {id : Int64} (old : id ∈ t.flows.rows.keys)
    (foreign : id ∉ o.flows) : t'.flows.get? id = t.flows.get? id := by
  cases h with
  | flow new state => exact Tables.get?_withFlow_of_mem numbered old
  | activation f l own =>
      rw [Table.get?_update_eq, if_neg]
      exact fun same => foreign (same ▸ own)
  | _ => rfl

theorem get?_locks (h : Write claims o t t') {k : ResourceKey} {l : Lock}
    (found : t.locks.get? k = some l) : t'.locks.get? k = some l := by
  cases h with
  | lock l' f free =>
      have other : l'.resource ≠ k := fun same => by
        rw [same, found] at free
        cases free
      exact (Keyed.get?_put_of_ne _ other _).trans found
  | _ => exact found

/-- Nothing of a flow changes but its state. -/
theorem exists_flow (h : Write claims o t t') (numbered : t.Numbered) (numbered' : t'.Numbered)
    {g : Int64} {f : Flow} (stored : t.flows.get? g = some f) :
    ∃ state, t'.flows.get? g = some { f with state } := by
  cases h with
  | flow new state =>
      have old := Keyed.mem_keys_of_get? stored
      exact ⟨f.state, (Tables.get?_withFlow_of_mem numbered old).trans stored⟩
  | activation f' l => exact Tables.exists_activated stored f'.id
  | _ => exact ⟨f.state, stored⟩

/-- A flow that may run did so before, or it has a lock now. -/
theorem pending_cases (h : Write claims o t t') {g : Int64} {f : Flow}
    (found : t'.flows.get? g = some f) (pending : f.state = .pending) :
    t.flows.get? g = some f ∨ ∃ l state, t.flows.get? g = some { f with state } ∧
      t.locks.get? l.resource = some l ∧ l.flow = g := by
  cases h with
  | flow new state first hidden =>
      rcases Tables.withFlow_cases found with old | ⟨-, rfl⟩
      · exact .inl old
      · exact absurd pending hidden
  | activation f' l own stored held owner =>
      rcases Table.update_cases found with old | ⟨same, old, old_stored, rfl⟩
      · exact .inl old
      · exact .inr ⟨l, old.state, old_stored, held, owner.trans same⟩
  | _ => exact .inl found

theorem lock_cases (h : Write claims o t t') {k : ResourceKey} {l : Lock}
    (found : t'.locks.get? k = some l) : t.locks.get? k = some l ∨
      claims k ∧ l.flow ∈ o.flows ∧ ∃ f, t.flows.get? l.flow = some f ∧
        f.balancer? = some k.id ∧ l.kind = f.operation.lockKind := by
  cases h with
  | lock l' f free claimed own stored balancer kind =>
      by_cases same : l'.resource = k
      · subst same
        simp only [Keyed.get?_put, Option.some.injEq] at found
        subst found
        exact .inr ⟨claimed, own, f, stored, balancer, kind⟩
      · simp only [Keyed.get?_put_of_ne _ same] at found
        exact .inl found
  | _ => exact .inl found

/-- Work leaves other pieces of work undisturbed. -/
theorem undisturbed (h : Write claims o t t') (numbered : t.Numbered) (numbered' : t'.Numbered)
    {other : Own} (present : other.Present t) (details : ∀ id ∈ other.details, id ∉ o.details)
    (flows : ∀ id ∈ other.flows, id ∉ o.flows) : Undisturbed other t t' where
  details id mem :=
    h.get?_details numbered numbered' (present.details id mem) (details id mem)
  flows id mem := h.get?_flows numbered numbered' (present.flows id mem) (flows id mem)
  locks _ _ found _ := h.get?_locks found

end Write

namespace Terms

/-- Under these terms work can do its writes, and its rows are left alone meanwhile. -/
structure Hosts (T : Terms) (claims : ResourceKey → Prop) : Prop where
  undisturbed : ∀ {o t t'}, T.rely o t t' → Undisturbed o t t'
  promise : ∀ {o t t'}, Write claims o t t' → T.promise o t t'

/-- The terms under which every call does a write. Locks are kept also when they are not of an own
flow if nobody releases any. -/
def ofWrites (claims : ResourceKey → Prop)
    (allows : Guard → (c : StoreCall) → Tables → Except Failure c.Answer → Tables → Prop)
    (effect : ∀ {guard c t outcome t'}, allows guard c t outcome t' → c.Effect t outcome t')
    (unreleased : Prop) : Terms where
  allows := allows
  rely o t t' := Undisturbed o t t' ∧
    (unreleased → ∀ k l, t.locks.get? k = some l → t'.locks.get? k = some l)
  promise := Write claims
  effect_of_allows := effect
  rely_refl o t := ⟨.refl o t, fun _ _ _ found => found⟩
  rely_trans h k := ⟨h.1.trans k.1, fun all key l found => k.2 all key l (h.2 all key l found)⟩
  promise_refl _ _ := .nothing

theorem hosts_ofWrites {claims : ResourceKey → Prop}
    {allows : Guard → (c : StoreCall) → Tables → Except Failure c.Answer → Tables → Prop}
    (effect : ∀ {guard c t outcome t'}, allows guard c t outcome t' → c.Effect t outcome t')
    {unreleased : Prop} : (ofWrites claims allows effect unreleased).Hosts claims :=
  ⟨And.left, id⟩

/-- Under these terms work does nothing but its writes, and whoever does so too may be relied on. -/
structure Shares (T : Terms) (claims : ResourceKey → Prop) : Prop where
  write : ∀ {o t t'}, T.promise o t t' → Write claims o t t'
  rely : ∀ {o t t'}, Undisturbed o t t' →
    (∀ k l, t.locks.get? k = some l → t'.locks.get? k = some l) → T.rely o t t'

theorem shares_ofWrites {claims : ResourceKey → Prop}
    {allows : Guard → (c : StoreCall) → Tables → Except Failure c.Answer → Tables → Prop}
    (effect : ∀ {guard c t outcome t'}, allows guard c t outcome t' → c.Effect t outcome t')
    {unreleased : Prop} : (ofWrites claims allows effect unreleased).Shares claims :=
  ⟨id, fun undisturbed locks => ⟨undisturbed, fun _ => locks⟩⟩

/-- The terms of work under any faults, while others may release their locks. -/
def faulty (claims : ResourceKey → Prop) : Terms :=
  .ofWrites claims (fun _ c t outcome t' => c.Effect t outcome t') id False

variable (claims : ResourceKey → Prop)

theorem hosts_faulty : (faulty claims).Hosts claims :=
  hosts_ofWrites id

theorem shares_faulty : (faulty claims).Shares claims :=
  shares_ofWrites id

theorem covers_faulty : (faulty claims).Covers fun _ _ _ => True :=
  fun effect _ => effect

theorem governs_faulty (deadline : Option Nat) (store : Store) :
    (faulty claims).Governs deadline store := by
  intro w same guard c
  subst same
  exact w.call_effect deadline guard c

end Terms

/-- The rows there were are still there, as they were. -/
structure Preserved (t t' : Tables) : Prop where
  details : ∀ id ∈ t.details.rows.keys, t'.details.get? id = t.details.get? id
  flows : ∀ id ∈ t.flows.rows.keys, t'.flows.get? id = t.flows.get? id

namespace Preserved

variable {t t₁ t₂ : Tables}

@[refl] theorem refl (t : Tables) : Preserved t t :=
  ⟨fun _ _ => rfl, fun _ _ => rfl⟩

theorem get?_detail (h : Preserved t t₁) {id : Int64} {d : Detail}
    (found : t.details.get? id = some d) : t₁.details.get? id = some d :=
  (h.details id (Keyed.mem_keys_of_get? found)).trans found

theorem get?_flow (h : Preserved t t₁) {id : Int64} {f : Flow}
    (found : t.flows.get? id = some f) : t₁.flows.get? id = some f :=
  (h.flows id (Keyed.mem_keys_of_get? found)).trans found

theorem trans (h : Preserved t t₁) (k : Preserved t₁ t₂) : Preserved t t₂ := by
  constructor
  · intro id mem
    obtain ⟨d, found⟩ := Keyed.exists_of_mem_keys mem
    have first := h.get?_detail found
    exact (k.get?_detail first).trans found.symm
  · intro id mem
    obtain ⟨f, found⟩ := Keyed.exists_of_mem_keys mem
    have first := h.get?_flow found
    exact (k.get?_flow first).trans found.symm

end Preserved

/-- Each lock is held by a flow that is stored. -/
def Tables.Owned (t : Tables) : Prop :=
  ∀ k l, t.locks.get? k = some l → l.flow ∈ t.flows.rows.keys

/-- Work takes locks for stored flows only, and drops no flow. -/
theorem Write.owned {claims : ResourceKey → Prop} {o : Own} {t t' : Tables}
    (w : Write claims o t t') (numbered : t.Numbered) (numbered' : t'.Numbered)
    (later : t.Later t') (h : t.Owned) : t'.Owned := by
  intro k l found
  have kept := numbered.flows.keys_subset numbered'.flows later.flows
  rcases w.lock_cases found with old | ⟨-, -, f, stored, -⟩
  · exact kept (h k l old)
  · exact kept (Keyed.mem_keys_of_get? stored)

theorem Tables.owned_releaseLock {t : Tables} (h : t.Owned) (resource : ResourceKey)
    (flow : Int64) : (t.releaseLock resource flow).2.Owned := by
  rcases t.releaseLock_cases resource flow with same | ⟨_, -, -, same⟩
  · rw [same]
    exact h
  · rw [same]
    intro k l found
    by_cases released : resource = k
    · subst released
      rw [Keyed.get?_erase] at found
      cases found
    · rw [Keyed.get?_erase_of_ne _ released] at found
      exact h k l found

/-- The rows of others, which were there before, are as they were. -/
structure Own.Spared (before : Tables) (o : Own) (t : Tables) : Prop
    extends Preserved before t where
  details_foreign : ∀ id ∈ before.details.rows.keys, id ∉ o.details
  flows_foreign : ∀ id ∈ before.flows.rows.keys, id ∉ o.flows

theorem Write.spares {claims : ResourceKey → Prop} {before t t' : Tables} {o : Own}
    (w : Write claims o t t') (numbered : t.Numbered) (numbered' : t'.Numbered)
    (h : o.Spared before t) : (o.grow t t').Spared before t' := by
  have old_detail : ∀ id ∈ before.details.rows.keys, id ∈ t.details.rows.keys := by
    intro id mem
    obtain ⟨d, found⟩ := Keyed.exists_of_mem_keys mem
    exact Keyed.mem_keys_of_get? (h.get?_detail found)
  have old_flow : ∀ id ∈ before.flows.rows.keys, id ∈ t.flows.rows.keys := by
    intro id mem
    obtain ⟨f, found⟩ := Keyed.exists_of_mem_keys mem
    exact Keyed.mem_keys_of_get? (h.get?_flow found)
  constructor
  · constructor
    · intro id mem
      have foreign := h.details_foreign id mem
      have kept := w.get?_details numbered numbered' (old_detail id mem) foreign
      rw [kept, h.details id mem]
    · intro id mem
      have foreign := h.flows_foreign id mem
      have kept := w.get?_flows numbered numbered' (old_flow id mem) foreign
      rw [kept, h.flows id mem]
  · intro id mem grown
    rcases Own.mem_grow_details.1 grown with own | new
    · exact h.details_foreign id mem own
    · exact new.2 (old_detail id mem)
  · intro id mem grown
    rcases Own.mem_grow_flows.1 grown with own | new
    · exact h.flows_foreign id mem own
    · exact new.2 (old_flow id mem)

/-- A piece of work leaves all rows alone that it finds. -/
theorem Terms.Path.frame {T : Terms} {claims : ResourceKey → Prop}
    (writes : ∀ {o t t'}, T.promise o t t' → Write claims o t t') {o : Own} {t t' : Tables}
    (h : T.Path {} t o t') : Preserved t t' := by
  have start : ({} : Own).Spared t t := ⟨.refl t, by simp, by simp⟩
  have spared := h.keeps (fun _ _ _ promise _ numbered numbered' =>
    (writes promise).spares numbered numbered') start
  exact spared.toPreserved

end BalancerFlows
