import BalancerFlows.Proofs.Writes

/-!
# What a piece of work holds

Between two calls a piece of work knows which rows it has added and what they look like, and others
cannot spoil that. This is said here once, with what creating and patching details does to it. A
piece of work that stops half-way is unwound: unless the update is refused, all of its details are
then failed with the failure's message. Main statements: `Work.keeps_plain` for a call that is
refused or carried out, `keeps_create` and `keeps_unwind`.
-/
namespace BalancerFlows

theorem Terms.Stable.and {T : Terms} {P Q : Own → Tables → Prop} (h : T.Stable P)
    (k : T.Stable Q) : T.Stable fun o t => P o t ∧ Q o t :=
  fun o t t' rely both => ⟨h o t t' rely both.1, k o t t' rely both.2⟩

/-- No call fails for a reason outside the rows, and nobody releases a lock. -/
structure Terms.Calm (T : Terms) : Prop where
  answers : ∀ {guard c t outcome t'}, T.allows guard c t outcome t' → c.Faultless t outcome t'
  locks : ∀ {o t t'}, T.rely o t t' → ∀ {k l}, t.locks.get? k = some l →
    t'.locks.get? k = some l

/-- Unwinding is never refused. -/
def Terms.Spares (T : Terms) : Prop :=
  ∀ {patches t outcome t'}, T.allows .free (.updateDetails patches) t outcome t' →
    ∃ answer, outcome = .ok answer

theorem StoreCall.Faultless.ok {c : StoreCall} {t t' : Tables} {outcome : Except Failure c.Answer}
    (h : c.Faultless t outcome t') (other : ∀ batch flows, c ≠ .attachFlows batch flows) :
    ∃ answer, outcome = .ok answer := by
  cases h with
  | unseen => exact ⟨none, rfl⟩
  | done =>
      cases c with
      | attachFlows batch flows => exact absurd rfl (other batch flows)
      | _ => exact ⟨_, rfl⟩

/-- A call that can only be refused or be carried out, and nothing in between. -/
def StoreCall.Plain : StoreCall → Prop
  | attachFlows .. | findLock _ | createFlow _ => False
  | _ => True

/-- Where a call is refused there are faults, unless flows are attached to no batch. -/
theorem Terms.not_calm {T : Terms} {guard : Guard} {c : StoreCall} {t t' : Tables}
    {failure : Failure} (refused : T.allows guard c t (.error failure) t')
    (other : ∀ batch flows, c ≠ .attachFlows batch flows) : ¬ T.Calm := by
  intro calm
  obtain ⟨answer, ok⟩ := (calm.answers refused).ok other
  cases ok

theorem Terms.refused_or_done {T : Terms} {guard : Guard} {c : StoreCall} {t t' : Tables}
    {outcome : Except Failure c.Answer} (allowed : T.allows guard c t outcome t')
    (plain : c.Plain) : (∃ failure, outcome = .error failure ∧ t' = t) ∨
      outcome = (t.carryOut c).1 ∧ t' = (t.carryOut c).2 := by
  have effect := T.effect_of_allows allowed
  cases effect with
  | refused c t failure => exact .inl ⟨failure, rfl, rfl⟩
  | done => exact .inr ⟨rfl, rfl⟩
  | unseen resource => exact plain.elim
  | cancelled new => exact plain.elim
  | uncancelled new => exact plain.elim

/-- The rule for a plain call: it may be refused, or it is a write. -/
theorem Work.keeps_plain {T : Terms} {claims : ResourceKey → Prop} (hosts : T.Hosts claims)
    {guard : Guard} {c : StoreCall} (plain : c.Plain) {P : Own → Tables → Prop}
    {Q : Except Failure c.Answer → Own → Tables → Prop} (stable : T.Stable P)
    (stable' : ∀ r, T.Stable (Q r)) {o : Own} {t : Tables} (h : P o t)
    (refused : ∀ failure t, P o t → T.allows guard c t (.error failure) t →
      Q (.error failure) o t)
    (done : ∀ t, P o t → t.Numbered → (t.carryOut c).2.Numbered →
      Write claims o t (t.carryOut c).2 ∧
        Q (t.carryOut c).1 (o.grow t (t.carryOut c).2) (t.carryOut c).2) :
    Program.Keeps T Q (Work.askStore guard c) o t := by
  apply Work.keeps_askStore stable stable' h
  intro t₁ h numbered outcome t₂ allowed numbered'
  rcases T.refused_or_done allowed plain with ⟨failure, rfl, rfl⟩ | ⟨rfl, rfl⟩
  · rw [Own.grow_self]
    exact ⟨hosts.promise .nothing, refused failure t₂ h allowed⟩
  · obtain ⟨write, kept⟩ := done t₁ h numbered numbered'
    exact ⟨hosts.promise write, kept⟩

theorem Terms.Calm.spares {T : Terms} (calm : T.Calm) : T.Spares :=
  fun allowed => (calm.answers allowed).ok (by simp)

/-- These are the details a piece of work has added, as they are stored. -/
structure Stored (rows : List Detail) (o : Own) (t : Tables) : Prop where
  own : o.details = rows.map Detail.id
  ascending : o.details.Pairwise (· < ·)
  get? : ∀ d ∈ rows, t.details.get? d.id = some d

/-- The flows a piece of work has added may not run; without faults they are as created. -/
def Unrun (T : Terms) (o : Own) (t : Tables) : Prop :=
  ∀ g ∈ o.flows, ∃ f, t.flows.get? g = some f ∧ f.state ≠ .pending ∧ (T.Calm → f.state = .init)

/-- Without faults the failure is that somebody else holds the lock. -/
def Blamed (T : Terms) (resource : ResourceKey) (failure : Failure) (o : Own) (t : Tables) : Prop :=
  T.Calm → ∃ l, t.locks.get? resource = some l ∧ failure = l.busy ∧ l.flow ∉ o.flows

/-- Where there are faults, nobody need be to blame. -/
theorem blamed_of_not_calm {T : Terms} (disturbed : ¬ T.Calm) {resource : ResourceKey}
    {failure : Failure} {o : Own} {t : Tables} : Blamed T resource failure o t :=
  fun calm => absurd calm disturbed

section

variable {T : Terms} {claims : ResourceKey → Prop} (hosts : T.Hosts claims)
include hosts

theorem stable_stored (rows : List Detail) : T.Stable (Stored rows) := by
  intro o t t' rely h
  refine ⟨h.own, h.ascending, fun d mem => ?_⟩
  have own : d.id ∈ o.details := h.own ▸ List.mem_map_of_mem mem
  rw [(hosts.undisturbed rely).details d.id own, h.get? d mem]

theorem stable_unrun : T.Stable (Unrun T) := by
  intro o t t' rely h g mem
  rw [(hosts.undisturbed rely).flows g mem]
  exact h g mem

omit hosts in
theorem stable_blamed (resource : ResourceKey) (failure : Failure) :
    T.Stable (Blamed T resource failure) := by
  intro o t t' rely h calm
  obtain ⟨l, found, blamed⟩ := h calm
  exact ⟨l, calm.locks rely found, blamed⟩

end

theorem Unrun.hidden {T : Terms} {o : Own} {t : Tables} (h : Unrun T o t) : o.Hidden t := by
  intro g mem f stored
  obtain ⟨f', stored', hidden, -⟩ := h g mem
  rw [stored, Option.some.injEq] at stored'
  exact stored' ▸ hidden

theorem Stored.patch {ι : Type} (items : List ι) (row : ι → Detail) (patch : ι → DetailPatch)
    (ids : ∀ i ∈ items, (patch i).id = (row i).id) {o : Own} {t : Tables}
    (h : Stored (items.map row) o t) :
    Stored (items.map fun i => (patch i).apply (row i)) o
      { t with details := Tables.patchDetails t.details (items.map patch) } := by
  have patched : (items.map patch).map DetailPatch.id = o.details := by
    rw [h.own, List.map_map, List.map_map]
    exact List.map_congr_left ids
  have nodup : ((items.map patch).map DetailPatch.id).Nodup :=
    patched ▸ h.ascending.imp Int64.ne_of_lt
  refine ⟨?_, h.ascending, ?_⟩
  · rw [h.own, List.map_map, List.map_map]
    rfl
  · intro d mem
    obtain ⟨i, i_mem, rfl⟩ := List.mem_map.1 mem
    have new := Tables.get?_patchDetails nodup (List.mem_map_of_mem i_mem) t.details
    rw [ids i i_mem, h.get? _ (List.mem_map_of_mem i_mem)] at new
    exact new

/-- Creating details behind the own ones. -/
theorem Stored.create {rows : List Detail} {o : Own} {t : Tables} (h : Stored rows o t)
    (numbered : t.Numbered) (news : List NewDetail)
    (numbered' : (t.carryOut (.createDetails news)).2.Numbered) :
    Stored (rows ++ (t.details.addAll (news.map NewDetail.store)).1)
      (o.grow t (t.carryOut (.createDetails news)).2) (t.carryOut (.createDetails news)).2 := by
  have ids := NewDetail.store_id news
  have added := Table.added_addAll numbered.details ids numbered'.details
  obtain ⟨ascending, behind⟩ := Table.addAll_ascending numbered.details ids numbered'.details
  have own : (o.grow t (t.carryOut (.createDetails news)).2).details = o.details ++
      (t.details.addAll (news.map NewDetail.store)).1.map Detail.id :=
    congrArg (o.details ++ ·) added
  have old : ∀ d ∈ rows, d.id ∈ t.details.rows.keys :=
    fun d mem => Keyed.mem_keys_of_get? (h.get? d mem)
  refine ⟨?_, ?_, ?_⟩
  · rw [own, h.own, List.map_append]
  · rw [own, List.pairwise_append]
    refine ⟨h.ascending, ascending, fun id mem other mem' => ?_⟩
    rw [h.own] at mem
    obtain ⟨d, d_mem, rfl⟩ := List.mem_map.1 mem
    obtain ⟨new, new_mem, rfl⟩ := List.mem_map.1 mem'
    exact behind d.id (old d d_mem) new new_mem
  · intro d mem
    rcases List.mem_append.1 mem with mem | mem
    · exact (Table.get?_addAll_of_mem numbered.details ids numbered'.details (old d mem)).trans
        (h.get? d mem)
    · exact Table.get?_addAll_new numbered.details ids numbered'.details mem

/-- A detail that is still to be worked on and not bound to a flow. -/
structure Detail.Open (batch : Int64) (d : Detail) : Prop where
  flow : d.flow = none
  state : d.state = .pending
  batch_eq : d.batch = batch

/-- The detail as it was created, without a task. -/
def Detail.unnamed (d : Detail) : Detail :=
  { d with action := none }

theorem Detail.ids_unnamed (details : List Detail) :
    (details.map Detail.unnamed).map Detail.id = details.map Detail.id := by
  rw [List.map_map]
  rfl

theorem Detail.ids_bindFlow (flow : Int64) (details : List Detail) :
    (details.map (Detail.bindFlow flow)).map Detail.id = details.map Detail.id := by
  rw [List.map_map]
  rfl

section Creating

variable {T : Terms} {claims : ResourceKey → Prop} (hosts : T.Hosts claims)
include hosts

/-- What creating details leads to. -/
def Created (T : Terms) (batch : Int64) (rows : List Detail) (count : Nat) :
    Except Failure (List Detail) → Own → Tables → Prop
  | .ok new, o, t => Stored (rows ++ new) o t ∧ o.flows = [] ∧ new.length = count ∧
      ∀ d ∈ new, d.Open batch ∧ d.action = none
  | .error _, o, t => Stored rows o t ∧ o.flows = [] ∧ ¬ T.Calm

theorem stable_created (batch : Int64) (rows : List Detail) (count : Nat)
    (outcome : Except Failure (List Detail)) : T.Stable (Created T batch rows count outcome) := by
  cases outcome with
  | error failure =>
      intro o t t' rely h
      exact h.imp_left (stable_stored hosts rows o t t' rely)
  | ok new =>
      intro o t t' rely h
      exact h.imp_left (stable_stored hosts (rows ++ new) o t t' rely)

theorem keeps_createDetails (scope : DetailScope) (params : List Json) {rows : List Detail}
    {o : Own} {t : Tables} (stored : Stored rows o t) (first : o.flows = []) (guard : Guard) :
    Program.Keeps T (Created T scope.batch rows params.length)
      (Work.askStore guard (.createDetails (params.map scope.detail))) o t := by
  have stable : T.Stable fun o t => Stored rows o t ∧ o.flows = [] :=
    fun o t t' rely h => h.imp_left (stable_stored hosts rows o t t' rely)
  apply Work.keeps_plain hosts (c := .createDetails (params.map scope.detail)) trivial stable
    (stable_created hosts scope.batch rows params.length) ⟨stored, first⟩
  · intro failure t held refused
    exact ⟨held.1, held.2, T.not_calm refused (by simp)⟩
  · intro t held numbered numbered'
    obtain ⟨stored, first⟩ := held
    have flows : (o.grow t (t.carryOut (.createDetails (params.map scope.detail))).2).flows = [] :=
      (Own.grow_flows_of_keys_eq rfl o).trans first
    have fresh : ∀ d ∈ (t.details.addAll ((params.map scope.detail).map NewDetail.store)).1,
        d.Open scope.batch ∧ d.action = none := by
      intro d mem
      obtain ⟨make, make_mem, id, rfl⟩ := Table.exists_make_of_mem_addAll mem
      obtain ⟨new, new_mem, rfl⟩ := List.mem_map.1 make_mem
      obtain ⟨param, -, rfl⟩ := List.mem_map.1 new_mem
      exact ⟨⟨rfl, rfl, rfl⟩, rfl⟩
    have created := stored.create numbered _ numbered'
    exact ⟨.details _ first, created, flows, by simp, fresh⟩

theorem keeps_create (scope : DetailScope) (params : List Json) {rows : List Detail}
    {o : Own} {t : Tables} (stored : Stored rows o t) (first : o.flows = []) :
    Program.Keeps T (Created T scope.batch rows params.length) (scope.create params) o t := by
  unfold DetailScope.create
  split
  next none =>
    have none : params = [] := by simpa using none
    subst none
    apply Program.keeps_done (stable_created hosts scope.batch rows 0 (.ok []))
    exact ⟨by simpa using stored, first, rfl, by simp⟩
  next =>
    have stable := stable_created hosts scope.batch rows params.length
    have created := keeps_createDetails hosts scope params stored first
    apply Work.keeps_bind stable (created _)
    · intro failure o t made
      exact made
    · intro new o t made
      exact Program.keeps_done (stable (.ok new)) made

end Creating

/-- Details that are all pending are all failed. -/
theorem Unwind.patches_of_pending {details : List Detail}
    (pending : ∀ d ∈ details, d.state = .pending) {reason : String} :
    patches reason details = details.map fun d => .settle d.id .failed (some reason) := by
  rw [patches, List.filter_eq_self.2]
  exact fun d mem => by simpa using pending d mem

/-- Work that stopped half-way: all its details are still pending, and its flows may not run. -/
structure Unfinished (T : Terms) (details : List Detail) (o : Own) (t : Tables) : Prop where
  rows : ∃ rows, Stored rows o t ∧ rows.map Detail.id = details.map Detail.id
  pending : ∀ d ∈ details, d.state = .pending
  unrun : Unrun T o t

/-- Work that stopped before its flow was stored. -/
theorem Stored.unfinished {T : Terms} {details : List Detail} {o : Own} {t : Tables}
    (h : Stored (details.map Detail.unnamed) o t) (first : o.flows = [])
    (pending : ∀ d ∈ details, d.state = .pending) : Unfinished T details o t :=
  ⟨⟨_, h, Detail.ids_unnamed details⟩, pending, by simp [Unrun, first]⟩

/-- Work that failed for good: its flows may not run, and its details failed with it. -/
structure Fallen (T : Terms) (failure : Failure) (o : Own) (t : Tables) : Prop where
  unrun : Unrun T o t
  failed : T.Spares → ∀ id ∈ o.details, ∃ d, t.details.get? id = some d ∧ d.state = .failed ∧
    d.reason = some failure.message

section Unwinding

variable {T : Terms} {claims : ResourceKey → Prop} (hosts : T.Hosts claims)
include hosts

theorem stable_unfinished (details : List Detail) : T.Stable (Unfinished T details) := by
  intro o t t' rely h
  obtain ⟨rows, stored, ids⟩ := h.rows
  exact ⟨⟨rows, stable_stored hosts rows o t t' rely stored, ids⟩, h.pending,
    stable_unrun hosts o t t' rely h.unrun⟩

theorem stable_fallen (failure : Failure) : T.Stable (Fallen T failure) := by
  intro o t t' rely h
  refine ⟨stable_unrun hosts o t t' rely h.unrun, fun spares id mem => ?_⟩
  rw [(hosts.undisturbed rely).details id mem]
  exact h.failed spares id mem

theorem keeps_failing {P : Own → Tables → Prop} (stable : T.Stable P)
    (steady : ∀ o t details, P o t → P o { t with details }) (failure : Failure)
    {details : List Detail} {o : Own} {t : Tables} (h : Unfinished T details o t) (p : P o t) :
    Program.Keeps T (fun _ o t => Fallen T failure o t ∧ P o t)
      (Work.askStore .free (.updateDetails
        (details.map fun d => .settle d.id .failed (some failure.message)))) o t := by
  apply Work.keeps_plain hosts (c := .updateDetails _) trivial
    ((stable_unfinished hosts details).and stable)
    (fun _ => (stable_fallen hosts failure).and stable) ⟨h, p⟩
  · intro refusal t held refused
    obtain ⟨h, p⟩ := held
    refine ⟨⟨h.unrun, fun spares => ?_⟩, p⟩
    obtain ⟨answer, ok⟩ := spares refused
    cases ok
  · intro t held numbered numbered'
    obtain ⟨h, p⟩ := held
    obtain ⟨rows, stored, ids⟩ := h.rows
    -- The stored rows may differ from the details at hand in all but their ids, which is enough.
    have patches : (details.map fun d => DetailPatch.settle d.id .failed (some failure.message)) =
        rows.map fun d => .settle d.id .failed (some failure.message) := by
      have same := congrArg (List.map fun id =>
        DetailPatch.settle id .failed (some failure.message)) ids
      rw [List.map_map, List.map_map] at same
      exact same.symm
    have settled := Stored.patch rows id (fun d => .settle d.id .failed (some failure.message))
      (fun _ _ => rfl) (by simpa using stored)
    rw [patches, Tables.carryOut, Own.grow_patched]
    refine ⟨.outcomes _ h.unrun.hidden fun patch mem => ?_, ?_, steady _ _ _ p⟩
    · obtain ⟨d, d_mem, rfl⟩ := List.mem_map.1 mem
      exact ⟨stored.own ▸ List.mem_map_of_mem d_mem, rfl, rfl⟩
    · refine ⟨h.unrun, fun _ id mem => ?_⟩
      rw [stored.own] at mem
      obtain ⟨d, d_mem, rfl⟩ := List.mem_map.1 mem
      have row := settled.get? _ (List.mem_map_of_mem d_mem)
      refine ⟨_, row, rfl, ?_⟩
      simp [DetailPatch.apply, DetailPatch.settle]

/-- Unwinding leaves alone what does not depend on details. -/
theorem keeps_unwind {P : Own → Tables → Prop} (stable : T.Stable P)
    (steady : ∀ o t details, P o t → P o { t with details }) (failure : Failure)
    {details : List Detail} {o : Own} {t : Tables} (h : Unfinished T details o t) (p : P o t) :
    Program.Keeps T (fun _ o t => Fallen T failure o t ∧ P o t) (Unwind.run failure details)
      o t := by
  have fallen := (stable_fallen hosts failure).and stable
  unfold Unwind.run
  rw [Unwind.patches_of_pending h.pending]
  simp only
  split
  next none =>
    have none : details = [] := by simpa using none
    obtain ⟨rows, stored, ids⟩ := h.rows
    have empty : o.details = [] := by rw [stored.own, ids, none, List.map_nil]
    have nothing : Fallen T failure o t := ⟨h.unrun, fun _ id mem => by simp [empty] at mem⟩
    exact Program.keeps_done fallen ⟨nothing, p⟩
  next =>
    have failed := keeps_failing hosts stable steady failure h p
    apply failed.bind
    intro outcome o t kept
    cases outcome with
    | error refusal => exact fun t' rely => fallen o t t' rely kept
    | ok answer => exact fun t' rely => fallen o t t' rely kept

end Unwinding

end BalancerFlows
