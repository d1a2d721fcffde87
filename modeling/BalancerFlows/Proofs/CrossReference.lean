import BalancerFlows.Proofs.Writes

/-!
# Cross references between flows and details

A detail that names a flow is listed by it, and a flow lists only details that exist, each detail
once over all flows. `CrossReferenced` says this of the tables. A piece of work keeps it, because a
flow is written after the details it lists and lists nobody else's (`Own.Unlisted`).
-/
namespace BalancerFlows

/-- Flows and details refer to each other as they should. -/
structure CrossReferenced (t : Tables) : Prop where
  bound : ∀ id d g, t.details.get? id = some d → d.flow = some g →
    ∃ f, t.flows.get? g = some f ∧ f.Lists d
  listed : ∀ g f, t.flows.get? g = some f → ∀ id ∈ f.listed, id ∈ t.details.rows.keys
  once : (t.flows.values.flatMap Flow.listed).Nodup
  linked : ∀ g f, t.flows.get? g = some f → f.state = .pending → f.Linked t

/-- Only its own flows list the details of a piece of work. -/
def Own.Unlisted (o : Own) (t : Tables) : Prop :=
  ∀ g f, t.flows.get? g = some f → g ∉ o.flows → ∀ id ∈ f.listed, id ∉ o.details

/-- What holds of the tables and of a piece of work between its calls. -/
structure Clean (o : Own) (t : Tables) : Prop where
  tables : CrossReferenced t
  unlisted : o.Unlisted t
  present : o.Present t

theorem crossReferenced_empty : CrossReferenced {} :=
  ⟨by simp [Table.get?, Keyed.get?], by simp [Table.get?, Keyed.get?],
    by simp [Table.values, Keyed.values], by simp [Table.get?, Keyed.get?]⟩

theorem CrossReferenced.clean {t : Tables} (h : CrossReferenced t) : Clean {} t :=
  ⟨h, by simp [Own.Unlisted], Own.present_empty t⟩

theorem Flow.Linked.congr {f : Flow} {t t' : Tables} (h : f.Linked t)
    (same : ∀ id ∈ f.listed, t'.details.get? id = t.details.get? id) : f.Linked t' := by
  obtain ⟨batch, bound⟩ := h.bound
  refine ⟨h.nonempty, h.chained, h.ascending, batch, fun task mem id listed => ?_⟩
  rw [same id (Flow.mem_listed.2 ⟨task, mem, listed⟩)]
  exact bound task mem id listed

namespace Clean

variable {o : Own} {t t' : Tables}

theorem of_same_rows (h : Clean o t) (details : t'.details = t.details)
    (flows : t'.flows = t.flows) : Clean (o.grow t t') t' := by
  have same : o.grow t t' = o := by
    apply Own.grow_eq_self
    · rw [details]
    · rw [flows]
  rw [same]
  obtain ⟨⟨bound, listed, once, linked⟩, unlisted, present⟩ := h
  refine ⟨⟨?_, ?_, ?_, ?_⟩, ?_, ?_⟩
  · rwa [details, flows]
  · rwa [details, flows]
  · rwa [flows]
  · intro g f stored pending
    rw [flows] at stored
    exact (linked g f stored pending).congr fun id _ => by rw [details]
  · intro g f stored
    rw [flows] at stored
    exact unlisted g f stored
  · refine ⟨?_, ?_⟩
    · rw [details]
      exact present.details
    · rw [flows]
      exact present.flows

theorem details (h : Clean o t) (numbered : t.Numbered) (news : List NewDetail)
    (numbered' : (t.carryOut (.createDetails news)).2.Numbered)
    (present : (o.grow t (t.carryOut (.createDetails news)).2).Present
      (t.carryOut (.createDetails news)).2) :
    Clean (o.grow t (t.carryOut (.createDetails news)).2) (t.carryOut (.createDetails news)).2 := by
  have ids := NewDetail.store_id news
  have old : ∀ id ∈ t.details.rows.keys,
      (t.carryOut (.createDetails news)).2.details.get? id = t.details.get? id :=
    fun id mem => Table.get?_addAll_of_mem numbered.details ids numbered'.details mem
  have flows : (o.grow t (t.carryOut (.createDetails news)).2).flows = o.flows :=
    Own.grow_flows_of_keys_eq rfl o
  refine ⟨⟨?_, ?_, h.tables.once, ?_⟩, ?_, present⟩
  · intro id d g stored names
    by_cases mem : id ∈ t.details.rows.keys
    · rw [old id mem] at stored
      exact h.tables.bound id d g stored names
    · have new := Table.mem_addAll_of_get? numbered.details ids numbered'.details stored mem
      obtain ⟨make, make_mem, other, rfl⟩ := Table.exists_make_of_mem_addAll new
      obtain ⟨n, -, rfl⟩ := List.mem_map.1 make_mem
      cases names
  · intro g f stored id listed
    have mem := h.tables.listed g f stored id listed
    obtain ⟨d, found⟩ := Keyed.exists_of_mem_keys mem
    exact Keyed.mem_keys_of_get? ((old id mem).trans found)
  · intro g f stored pending
    exact (h.tables.linked g f stored pending).congr fun id listed =>
      old id (h.tables.listed g f stored id listed)
  · intro g f stored foreign id listed mem
    rw [flows] at foreign
    rcases Own.mem_grow_details.1 mem with mem | mem
    · exact h.unlisted g f stored foreign id listed mem
    · exact mem.2 (h.tables.listed g f stored id listed)

theorem flow (h : Clean o t) (numbered : t.Numbered) {new : NewFlow} {state : FlowState}
    (present : (o.grow t (t.withFlow new state)).Present (t.withFlow new state))
    (first : o.flows = []) (hidden : state ≠ .pending)
    (own : ∀ id ∈ FlowTask.listed new.tasks, id ∈ o.details)
    (once : (FlowTask.listed new.tasks).Nodup) :
    Clean (o.grow t (t.withFlow new state)) (t.withFlow new state) := by
  have fresh := numbered.flows.nextId_notMem
  refine ⟨⟨?_, ?_, ?_, ?_⟩, ?_, present⟩
  · intro id d g stored names
    obtain ⟨f, f_stored, lists⟩ := h.tables.bound id d g stored names
    have old := Keyed.mem_keys_of_get? f_stored
    exact ⟨f, (Tables.get?_withFlow_of_mem numbered old).trans f_stored, lists⟩
  · intro g f stored id listed
    rcases Tables.withFlow_cases stored with stored | ⟨-, rfl⟩
    · exact h.tables.listed g f stored id listed
    · exact h.present.details id (own id listed)
  · have listed_new : [{ new.store t.flows.nextId with state }].flatMap Flow.listed =
        FlowTask.listed new.tasks := List.append_nil _
    rw [Tables.values_withFlow fresh, List.flatMap_append, listed_new, List.nodup_append]
    refine ⟨h.tables.once, once, ?_⟩
    intro id mem other mem'
    obtain ⟨f, f_mem, listed⟩ := List.mem_flatMap.1 mem
    have stored := numbered.flows.mem_values.1 f_mem
    have mine := own other mem'
    rintro rfl
    exact h.unlisted f.id f stored (by simp [first]) id listed mine
  · intro g f stored pending
    rcases Tables.withFlow_cases stored with stored | ⟨-, rfl⟩
    · exact (h.tables.linked g f stored pending).congr fun id _ => rfl
    · exact absurd pending hidden
  · intro g f stored foreign id listed mem
    rw [Own.mem_grow_flows, not_or] at foreign
    rcases Tables.withFlow_cases stored with old_stored | ⟨rfl, -⟩
    · rcases Own.mem_grow_details.1 mem with mem | mem
      · exact h.unlisted g f old_stored foreign.1 id listed mem
      · exact mem.2 mem.1
    · exact foreign.2 ⟨Keyed.mem_keys_of_get? stored, fresh⟩

/-- Patches of own details, none of which a running flow lists. -/
theorem patched (h : Clean o t) {patches : List DetailPatch}
    (own : ∀ p ∈ patches, p.id ∈ o.details) (hidden : o.Hidden t)
    (bound : ∀ id d g, (Tables.patchDetails t.details patches).get? id = some d →
      d.flow = some g → ∃ f, t.flows.get? g = some f ∧ f.Lists d) :
    Clean (o.grow t { t with details := Tables.patchDetails t.details patches })
      { t with details := Tables.patchDetails t.details patches } := by
  have keys := Tables.keys_patchDetails t.details patches
  rw [Own.grow_patched]
  refine ⟨⟨bound, ?_, h.tables.once, ?_⟩, h.unlisted, ?_, h.present.flows⟩
  · intro g f stored id listed
    exact keys ▸ h.tables.listed g f stored id listed
  · intro g f stored pending
    -- A pending flow is somebody else's, and lists none of the details that are patched.
    have foreign : g ∉ o.flows := fun mem => hidden g mem f stored pending
    refine (h.tables.linked g f stored pending).congr fun id listed => ?_
    refine Tables.get?_patchDetails_of_notMem (fun mem => ?_) t.details
    obtain ⟨p, p_mem, rfl⟩ := List.mem_map.1 mem
    exact h.unlisted g f stored foreign p.id listed (own p p_mem)
  · exact fun id mem => keys ▸ h.present.details id mem

theorem bindings (h : Clean o t) (numbered : t.Numbered) {f : Flow} {patches : List DetailPatch}
    (stored : t.flows.get? f.id = some f) (own : o.flows = [f.id]) (hidden : f.state ≠ .pending)
    (bind : ∀ p ∈ patches, p.id ∈ o.details ∧ p.flow = some f.id ∧
      ∃ task ∈ f.tasks, p.action = some task.id ∧ p.id ∈ task.params.detailIds) :
    Clean (o.grow t { t with details := Tables.patchDetails t.details patches })
      { t with details := Tables.patchDetails t.details patches } := by
  refine h.patched (fun p mem => (bind p mem).1) ?_ ?_
  · intro g mem g' stored'
    rw [own, List.mem_singleton] at mem
    rw [mem, stored, Option.some.injEq] at stored'
    exact stored' ▸ hidden
  · have kept : ∀ id d, (Tables.patchDetails t.details patches).get? id = some d →
        d.id = id ∧ ∀ g, d.flow = some g → ∃ f, t.flows.get? g = some f ∧ f.Lists d := by
      apply Tables.patchDetails_induction
      · intro p mem d before
        obtain ⟨-, names, task, task_mem, action, listed⟩ := bind p mem
        refine ⟨before.1, fun g same => ?_⟩
        simp only [DetailPatch.apply, names, Option.orElse_eq_orElse, Option.orElse_some,
          Option.some.injEq] at same
        subst same
        refine ⟨f, stored, task, task_mem, ?_, ?_⟩
        · simp [DetailPatch.apply, action]
        · exact before.1.symm ▸ listed
      · intro id d found
        exact ⟨Tables.numbered_detail_id numbered found, fun g => h.tables.bound id d g found⟩
    intro id d g found
    exact (kept id d found).2 g

theorem outcomes (h : Clean o t) {patches : List DetailPatch} (hidden : o.Hidden t)
    (settle : ∀ p ∈ patches, p.id ∈ o.details ∧ p.flow = none ∧ p.action = none) :
    Clean (o.grow t { t with details := Tables.patchDetails t.details patches })
      { t with details := Tables.patchDetails t.details patches } := by
  refine h.patched (fun p mem => (settle p mem).1) hidden ?_
  have kept : ∀ id d, (Tables.patchDetails t.details patches).get? id = some d →
      ∀ g, d.flow = some g → ∃ f, t.flows.get? g = some f ∧ f.Lists d := by
    apply Tables.patchDetails_induction
    · intro p mem d before g names
      obtain ⟨-, no_flow, no_action⟩ := settle p mem
      simp only [DetailPatch.apply, no_flow] at names
      obtain ⟨f, stored, task, task_mem, action, listed⟩ := before g (by simpa using names)
      refine ⟨f, stored, task, task_mem, ?_, listed⟩
      simpa [DetailPatch.apply, no_action] using action
    · intro id d found g
      exact h.tables.bound id d g found
  intro id d g found
  exact kept id d found g

theorem activation (h : Clean o t) {f : Flow} (stored : t.flows.get? f.id = some f)
    (linked : f.Linked t) :
    Clean (o.grow t { t with flows := t.flows.update f.id fun f => { f with state := .pending } })
      { t with flows := t.flows.update f.id fun f => { f with state := .pending } } := by
  have keys : (t.flows.update f.id fun f => { f with state := .pending }).rows.keys =
      t.flows.rows.keys := Keyed.keys_update ..
  rw [Own.grow_activated]
  refine ⟨⟨?_, ?_, ?_, ?_⟩, ?_, h.present.details, ?_⟩
  · intro id d g found names
    obtain ⟨old, old_stored, lists⟩ := h.tables.bound id d g found names
    obtain ⟨state, stored'⟩ := Tables.exists_activated old_stored f.id
    exact ⟨_, stored', lists⟩
  · intro g f' found id listed
    rcases Tables.activated_cases stored found with old | ⟨rfl, rfl⟩
    · exact h.tables.listed g f' old id listed
    · exact h.tables.listed f.id f stored id listed
  · have lists : (t.flows.update f.id fun f => { f with state := .pending }).values.map
        Flow.listed = t.flows.values.map Flow.listed :=
      Table.map_values_update t.flows f.id fun _ => rfl
    rw [List.flatMap_def, lists, ← List.flatMap_def]
    exact h.tables.once
  · intro g f' found pending
    rcases Tables.activated_cases stored found with old | ⟨rfl, rfl⟩
    · exact (h.tables.linked g f' old pending).congr fun _ _ => rfl
    · exact ⟨linked.nonempty, linked.chained, linked.ascending, linked.bound⟩
  · intro g f' found foreign id listed
    rcases Tables.activated_cases stored found with old | ⟨rfl, rfl⟩
    · exact h.unlisted g f' old foreign id listed
    · exact h.unlisted f.id f stored foreign id listed
  · exact fun id mem => keys ▸ h.present.flows id mem

/-- A call of a piece of work keeps the cross references. -/
theorem write {claims : ResourceKey → Prop} (w : Write claims o t t') (later : t.Later t')
    (numbered : t.Numbered) (numbered' : t'.Numbered) (h : Clean o t) :
    Clean (o.grow t t') t' := by
  have present := h.present.grow numbered numbered' later
  cases w with
  | nothing => exact h.of_same_rows rfl rfl
  | batches batches => exact h.of_same_rows rfl rfl
  | subFlows subFlows => exact h.of_same_rows rfl rfl
  | lock l f => exact h.of_same_rows rfl rfl
  | details news => exact h.details numbered news numbered' present
  | flow new state first hidden own once =>
      exact h.flow numbered present first hidden own once
  | bindings f patches stored own hidden bind => exact h.bindings numbered stored own hidden bind
  | outcomes patches hidden settle => exact h.outcomes hidden settle
  | activation f l own stored held owner linked => exact h.activation stored linked

end Clean

theorem CrossReferenced.of_same_rows {t t' : Tables} (h : CrossReferenced t)
    (details : t'.details = t.details) (flows : t'.flows = t.flows) : CrossReferenced t' :=
  (h.clean.of_same_rows details flows).tables

/-- Whatever work keeps to its terms keeps the cross references. -/
theorem Terms.Path.crossReferenced {T : Terms} {claims : ResourceKey → Prop}
    (writes : ∀ {o t t'}, T.promise o t t' → Write claims o t t') {o : Own} {t t' : Tables}
    (h : T.Path {} t o t') (before : CrossReferenced t) : CrossReferenced t' :=
  (h.keeps (fun _ _ _ promise later numbered numbered' =>
    Clean.write (writes promise) later numbered numbered') before.clean).tables

end BalancerFlows
