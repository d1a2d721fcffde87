import BalancerFlows.Proofs.Holding

/-!
# Building keeps to the terms

A construction goes through a few states that others cannot spoil: a chain whose details are
stored but bound to nothing, a flow that is stored but may not run, the same flow with its details
bound and then with its lock, and the running flow. Each call leads from one of them to the next,
or the construction stops and is unwound; `AfterPush` and the like say what a call leads to by its
outcome. Main statement: `Construction.keeps_build`.
-/
namespace BalancerFlows

/-- A sound chain for a batch, all of whose details are still to be worked on. -/
structure Chain.Ready (batch : Int64) (c : Chain) : Prop where
  sound : c.Sound
  scope : c.scope.batch = batch
  opened : ∀ d ∈ c.details, d.Open batch

/-- The details of a chain are stored, each still without its task, and there is no flow yet. -/
structure Chaining (batch : Int64) (c : Chain) (o : Own) (t : Tables) : Prop where
  ready : c.Ready batch
  stored : Stored (c.details.map Detail.unnamed) o t
  first : o.flows = []

section Chains

variable {T : Terms} {claims : ResourceKey → Prop} (hosts : T.Hosts claims) {batch : Int64}

def AfterPush (T : Terms) (batch : Int64) (c : Chain) :
    Except Failure (FlowTask × Chain) → Own → Tables → Prop
  | .ok (_, longer), o, t => Chaining batch longer o t ∧ longer.tasks ≠ []
  | .error _, o, t => Chaining batch c o t ∧ ¬ T.Calm

def AfterPushAll (T : Terms) (batch : Int64) (some_task : Prop) (p : Chain.Pushed) (o : Own)
    (t : Tables) : Prop :=
  Chaining batch p.chain o t ∧
    match p.outcome with
    | .ok () => some_task → p.chain.tasks ≠ []
    | .error _ => ¬ T.Calm

include hosts

theorem stable_chaining (c : Chain) : T.Stable (Chaining batch c) := by
  intro o t t' rely h
  exact { h with stored := stable_stored hosts _ o t t' rely h.stored }

theorem stable_afterPush (c : Chain) (outcome : Except Failure (FlowTask × Chain)) :
    T.Stable (AfterPush T batch c outcome) := by
  intro o t t' rely h
  rcases outcome with failure | ⟨task, longer⟩
  · exact h.imp_left (stable_chaining hosts c o t t' rely)
  · exact h.imp_left (stable_chaining hosts longer o t t' rely)

theorem keeps_append {c : Chain} (ready : c.Ready batch) {new : List Detail}
    {request : CloudRequest} {o : Own} {t : Tables}
    (made : Created T batch (c.details.map Detail.unnamed) request.itemCount (.ok new) o t) :
    Program.Keeps T (fun r => AfterPush T batch c (.ok r)) (c.append new request) o t := by
  obtain ⟨stored, first, count, fresh⟩ := made
  unfold Chain.append
  split
  · trivial
  next id numbering issued =>
    have opened : ∀ d ∈ (c.extend (c.taskFor id new request) new numbering).details,
        d.Open batch := by
      intro d mem
      rcases List.mem_append.1 mem with mem | mem
      · exact ready.opened d mem
      · obtain ⟨created, created_mem, rfl⟩ := List.mem_map.1 mem
        obtain ⟨opened, -⟩ := fresh created created_mem
        exact ⟨opened.flow, opened.state, opened.batch_eq⟩
    have unnamed : (new.map (Detail.bindAction id)).map Detail.unnamed = new := by
      have same : ∀ d ∈ new, (Detail.unnamed ∘ Detail.bindAction id) d = d := by
        intro d mem
        obtain ⟨-, action⟩ := fresh d mem
        show { d with action := none } = d
        rw [← action]
      rw [List.map_map, List.map_congr_left same, List.map_id']
    have held : Stored
        ((c.extend (c.taskFor id new request) new numbering).details.map Detail.unnamed) o t := by
      simp only [Chain.extend, List.map_append]
      rwa [show (c.taskFor id new request).id = id from rfl, unnamed]
    have sound := ready.sound.extend issued count
    apply Program.keeps_done (stable_afterPush hosts c (.ok _))
    constructor
    · exact ⟨⟨sound, ready.scope, opened⟩, held, first⟩
    · simp

theorem keeps_push {c : Chain} {call : PlannedCall} (counted : call.Counted) {o : Own}
    {t : Tables} (h : Chaining batch c o t) :
    Program.Keeps T (AfterPush T batch c) (c.push call) o t := by
  unfold Chain.push
  have created := keeps_create hosts c.scope call.params h.stored h.first
  rw [h.ready.scope, counted] at created
  apply Work.keeps_bind (stable_afterPush hosts c) created
  · intro failure o t made
    obtain ⟨stored, first, disturbed⟩ := made
    exact ⟨⟨h.ready, stored, first⟩, disturbed⟩
  · intro new o t made
    exact Work.keeps_lift (fun r => stable_afterPush hosts c (.ok r))
      (keeps_append hosts h.ready made)

theorem stable_afterPushAll (some_task : Prop) (p : Chain.Pushed) :
    T.Stable (AfterPushAll T batch some_task p) :=
  fun o t t' rely h => h.imp_left (stable_chaining hosts p.chain o t t' rely)

theorem keeps_pushAll {c : Chain} {calls : List PlannedCall} (counted : ∀ c ∈ calls, c.Counted)
    {o : Own} {t : Tables} (h : Chaining batch c o t) :
    Program.Keeps T (AfterPushAll T batch (c.tasks ≠ [] ∨ calls ≠ [])) (c.pushAll calls) o t := by
  induction calls generalizing c o t with
  | nil =>
      apply Program.keeps_done (stable_afterPushAll hosts _ _)
      constructor
      · exact h
      · simp
  | cons call rest ih =>
      obtain ⟨counted_call, counted_rest⟩ := List.forall_mem_cons.1 counted
      unfold Chain.pushAll
      apply (keeps_push hosts counted_call h).bind
      intro outcome o t pushed
      rcases outcome with failure | ⟨task, longer⟩
      · exact Program.keeps_done (stable_afterPushAll hosts _ _) pushed
      · apply (ih counted_rest pushed.1).mono
        intro p o t all
        apply all.imp_right
        cases p.outcome with
        | error failure => exact id
        | ok => exact fun some_task _ => some_task (.inl pushed.2)

end Chains

/-- A flow is stored and may not run; without faults it is as it was created. -/
structure Drafted (T : Terms) (f : Flow) (rows : List Detail) (o : Own) (t : Tables) : Prop where
  own : o.flows = [f.id]
  stored : Stored rows o t
  flow : ∃ state, t.flows.get? f.id = some { f with state } ∧ state ≠ .pending ∧
    (T.Calm → state = .init)

/-- A flow holds the lock of a resource. -/
def Held (resource : ResourceKey) (flow : Int64) (t : Tables) : Prop :=
  ∃ l, t.locks.get? resource = some l ∧ l.flow = flow

/-- A flow may run: it has the lock, and all the details of its construction are bound to it. -/
structure Running (resource : ResourceKey) (f : Flow) (details : List Detail) (o : Own)
    (t : Tables) : Prop where
  own : o.flows = [f.id]
  stored : Stored details o t
  flow : t.flows.get? f.id = some f
  state : f.state = .pending
  bound : ∀ d ∈ details, d.state = .pending ∧ d.flow = some f.id ∧ f.Lists d
  held : Held resource f.id t

section Flows

variable {T : Terms} {claims : ResourceKey → Prop}

theorem Drafted.unrun {f : Flow} {rows : List Detail} {o : Own} {t : Tables}
    (h : Drafted T f rows o t) : Unrun T o t := by
  obtain ⟨state, stored, hidden, calm⟩ := h.flow
  intro g mem
  rw [h.own, List.mem_singleton] at mem
  exact ⟨_, mem ▸ stored, hidden, calm⟩

theorem Drafted.unfinished {f : Flow} {rows details : List Detail} {o : Own} {t : Tables}
    (h : Drafted T f rows o t) (ids : rows.map Detail.id = details.map Detail.id)
    (pending : ∀ d ∈ details, d.state = .pending) : Unfinished T details o t :=
  ⟨⟨rows, h.stored, ids⟩, pending, h.unrun⟩

theorem Drafted.of_same_rows {f : Flow} {rows : List Detail} {o : Own} {t t' : Tables}
    (h : Drafted T f rows o t) (details : t'.details = t.details) (flows : t'.flows = t.flows) :
    Drafted T f rows (o.grow t t') t' := by
  have same : o.grow t t' = o := by
    apply Own.grow_eq_self
    · rw [details]
    · rw [flows]
  rw [same]
  constructor
  · exact h.own
  · refine ⟨h.stored.own, h.stored.ascending, ?_⟩
    rw [details]
    exact h.stored.get?
  · rw [flows]
    exact h.flow

variable (hosts : T.Hosts claims)
include hosts

theorem stable_drafted (f : Flow) (rows : List Detail) : T.Stable (Drafted T f rows) := by
  intro o t t' rely h
  obtain ⟨state, stored, hidden⟩ := h.flow
  have own : f.id ∈ o.flows := h.own ▸ List.mem_singleton_self _
  refine ⟨h.own, stable_stored hosts rows o t t' rely h.stored, state, ?_, hidden⟩
  rw [(hosts.undisturbed rely).flows f.id own, stored]

theorem stable_held (resource : ResourceKey) (flow : Int64) :
    T.Stable fun o t => flow ∈ o.flows ∧ Held resource flow t := by
  rintro o t t' rely ⟨own, l, found, owner⟩
  exact ⟨own, l, (hosts.undisturbed rely).locks resource l found (owner ▸ own), owner⟩

theorem stable_running (resource : ResourceKey) (f : Flow) (details : List Detail) :
    T.Stable (Running resource f details) := by
  intro o t t' rely h
  have own : f.id ∈ o.flows := h.own ▸ List.mem_singleton_self _
  have held := (stable_held hosts resource f.id o t t' rely ⟨own, h.held⟩).2
  have flow : t'.flows.get? f.id = some f := by
    rw [(hosts.undisturbed rely).flows f.id own, h.flow]
  exact ⟨h.own, stable_stored hosts details o t t' rely h.stored, flow, h.state, h.bound, held⟩

end Flows

theorem StoreCall.Faultless.done_of {c : StoreCall} {t t' : Tables}
    {outcome : Except Failure c.Answer} (h : c.Faultless t outcome t')
    (no_lock : ∀ resource, c ≠ .findLock resource) : t' = (t.carryOut c).2 := by
  cases h with
  | done => rfl
  | unseen resource => exact absurd rfl (no_lock resource)

theorem Stored.drafted {T : Terms} {rows : List Detail} {o : Own} {t : Tables}
    (h : Stored rows o t) (first : o.flows = []) (numbered : t.Numbered) {new : NewFlow}
    {state : FlowState} (numbered' : (t.withFlow new state).Numbered) (hidden : state ≠ .pending)
    (calm : T.Calm → state = .init) :
    Drafted T (new.store t.flows.nextId) rows (o.grow t (t.withFlow new state))
      (t.withFlow new state) := by
  have ids : ∀ id, Flow.id { new.store id with state } = id := fun _ => rfl
  have added := Table.added_add numbered.flows ids numbered'.flows
  have details : (o.grow t (t.withFlow new state)).details = o.details := by
    simp [Own.grow, Tables.withFlow]
  have flows : (o.grow t (t.withFlow new state)).flows = o.flows ++ [t.flows.nextId] :=
    congrArg (o.flows ++ ·) added
  have own : (o.grow t (t.withFlow new state)).flows = [t.flows.nextId] := by
    rw [flows, first]
    rfl
  have flow : (t.withFlow new state).flows.get? t.flows.nextId =
      some { new.store t.flows.nextId with state } := by
    rw [Tables.get?_withFlow, if_pos rfl]
  have rows : Stored rows (o.grow t (t.withFlow new state)) (t.withFlow new state) :=
    ⟨details.trans h.own, details ▸ h.ascending, h.get?⟩
  exact ⟨own, rows, state, flow, hidden, calm⟩

def AfterCreation (T : Terms) (d : FlowDraft) (details : List Detail) :
    Except Failure Flow → Own → Tables → Prop
  | .ok f, o, t => f = d.newFlow.store f.id ∧ Drafted T f (details.map Detail.unnamed) o t
  | .error _, o, t => Unfinished T details o t ∧ ¬ T.Calm

def AfterBinding (T : Terms) (f : Flow) (details : List Detail) :
    Except Failure Unit → Own → Tables → Prop
  | .ok (), o, t => Drafted T f (details.map (Detail.bindFlow f.id)) o t
  | .error _, o, t => Drafted T f (details.map Detail.unnamed) o t ∧ ¬ T.Calm

def AfterAttempt (T : Terms) (resource : ResourceKey) (f : Flow) :
    Except Failure LockAttempt → Own → Tables → Prop
  | .ok (.created _), _, t => Held resource f.id t
  | .ok (.conflict l), o, t =>
      if l.flow = f.id then Held resource f.id t else Blamed T resource l.busy o t
  | .error _, _, _ => ¬ T.Calm

def AfterLocking (T : Terms) (resource : ResourceKey) (f : Flow) (rows : List Detail) :
    Except Failure Lock → Own → Tables → Prop
  | .ok _, o, t => Drafted T f rows o t ∧ Held resource f.id t
  | .error failure, o, t => Drafted T f rows o t ∧ Blamed T resource failure o t

def AfterMove (T : Terms) (resource : ResourceKey) (f : Flow) (rows : List Detail) :
    Except Failure Bool → Own → Tables → Prop
  | .ok true, o, t => Running resource { f with state := .pending } rows o t
  | .ok false, o, t => Drafted T f rows o t ∧ ¬ T.Calm
  | .error _, o, t => Drafted T f rows o t ∧ ¬ T.Calm

section Drafts

variable {T : Terms} {claims : ResourceKey → Prop} (hosts : T.Hosts claims)
include hosts

theorem stable_afterCreation (d : FlowDraft) (details : List Detail)
    (outcome : Except Failure Flow) : T.Stable (AfterCreation T d details outcome) := by
  intro o t t' rely h
  cases outcome with
  | ok f => exact h.imp_right (stable_drafted hosts f _ o t t' rely)
  | error failure => exact h.imp_left (stable_unfinished hosts details o t t' rely)

theorem stable_afterBinding (f : Flow) (details : List Detail) (outcome : Except Failure Unit) :
    T.Stable (AfterBinding T f details outcome) := by
  intro o t t' rely h
  cases outcome with
  | ok => exact stable_drafted hosts f _ o t t' rely h
  | error failure => exact h.imp_left (stable_drafted hosts f _ o t t' rely)

theorem stable_afterLocking (resource : ResourceKey) (f : Flow) (rows : List Detail)
    (outcome : Except Failure Lock) : T.Stable (AfterLocking T resource f rows outcome) := by
  intro o t t' rely h
  cases outcome with
  | ok l =>
      have own : f.id ∈ o.flows := h.1.own ▸ List.mem_singleton_self _
      exact ⟨stable_drafted hosts f rows o t t' rely h.1,
        (stable_held hosts resource f.id o t t' rely ⟨own, h.2⟩).2⟩
  | error failure =>
      exact ⟨stable_drafted hosts f rows o t t' rely h.1,
        stable_blamed resource failure o t t' rely h.2⟩

theorem stable_afterMove (resource : ResourceKey) (f : Flow) (rows : List Detail)
    (outcome : Except Failure Bool) : T.Stable (AfterMove T resource f rows outcome) := by
  intro o t t' rely h
  rcases outcome with failure | moved
  · exact h.imp_left (stable_drafted hosts f rows o t t' rely)
  · cases moved with
    | true => exact stable_running hosts resource _ rows o t t' rely h
    | false => exact h.imp_left (stable_drafted hosts f rows o t t' rely)

theorem keeps_createFlow {d : FlowDraft} {details : List Detail}
    (listing : Listing d.tasks details) (pending : ∀ x ∈ details, x.state = .pending) {o : Own}
    {t : Tables} (stored : Stored (details.map Detail.unnamed) o t) (first : o.flows = [])
    (guard : Guard) :
    Program.Keeps T (AfterCreation T d details)
      (Work.askStore guard (.createFlow d.newFlow)) o t := by
  have stable : T.Stable fun o t => Stored (details.map Detail.unnamed) o t ∧ o.flows = [] :=
    fun o t t' rely h => h.imp_left (stable_stored hosts _ o t t' rely)
  apply Work.keeps_askStore (c := .createFlow d.newFlow) stable
    (stable_afterCreation hosts d details) ⟨stored, first⟩
  intro t₁ held numbered outcome t₂ allowed numbered'
  obtain ⟨stored, first⟩ := held
  have own : ∀ id ∈ FlowTask.listed d.newFlow.tasks, id ∈ o.details := by
    intro id mem
    rwa [stored.own, Detail.ids_unnamed, ← listing.listed_eq]
  have once : (FlowTask.listed d.newFlow.tasks).Nodup := by
    have nodup : o.details.Nodup := stored.ascending.imp Int64.ne_of_lt
    rwa [stored.own, Detail.ids_unnamed, ← listing.listed_eq] at nodup
  have write : ∀ state, state ≠ .pending → T.promise o t₁ (t₁.withFlow d.newFlow state) :=
    fun state hidden => hosts.promise (.flow d.newFlow state first hidden own once)
  have effect := T.effect_of_allows allowed
  cases effect with
  | refused _ _ failure =>
      rw [Own.grow_self]
      exact ⟨hosts.promise .nothing, stored.unfinished first pending,
        T.not_calm allowed (by simp)⟩
  | done =>
      have numbered' : (t₁.withFlow d.newFlow .init).Numbered := numbered'
      exact ⟨write .init (by simp), rfl,
        stored.drafted first numbered numbered' (by simp) fun _ => rfl⟩
  | cancelled =>
      -- Without faults no flow is cancelled on the way: the stored state would tell.
      have init : T.Calm → FlowState.cancelled = .init := by
        intro calm
        have same : t₁.withFlow d.newFlow .cancelled = t₁.withFlow d.newFlow .init :=
          (calm.answers allowed).done_of (by simp)
        have states := congrArg (fun t => (t.flows.get? t₁.flows.nextId).map Flow.state) same
        simp [Tables.get?_withFlow] at states
      have drafted := stored.drafted first numbered numbered' (by simp) init
      exact ⟨write .cancelled (by simp), rfl, drafted⟩
  | uncancelled _ _ failure =>
      have drafted := stored.drafted (T := T) first numbered numbered' (by simp) fun _ => rfl
      have unfinished := drafted.unfinished (Detail.ids_unnamed details) pending
      exact ⟨write .init (by simp), unfinished, T.not_calm allowed (by simp)⟩

theorem keeps_writeBindings {f : Flow} {details : List Detail} (listing : Listing f.tasks details)
    {o : Own} {t : Tables} (h : Drafted T f (details.map Detail.unnamed) o t) :
    Program.Keeps T (AfterBinding T f details)
      (Detail.writeBindings (details.map (Detail.bindFlow f.id))) o t := by
  have patches : (details.map (Detail.bindFlow f.id)).map Detail.bindingPatch =
      details.map fun d => (d.bindFlow f.id).bindingPatch := by
    rw [List.map_map]
    rfl
  unfold Detail.writeBindings Detail.write
  rw [patches]
  apply Work.keeps_plain hosts (c := .updateDetails _) trivial (stable_drafted hosts f _)
    (stable_afterBinding hosts f details) h
  · intro failure t h refused
    exact ⟨h, T.not_calm refused (by simp)⟩
  · intro t h numbered numbered'
    obtain ⟨state, stored, hidden, calm⟩ := h.flow
    have bound := Stored.patch details Detail.unnamed (fun d => (d.bindFlow f.id).bindingPatch)
      (fun _ _ => rfl) h.stored
    have rows : (details.map fun d => (d.bindFlow f.id).bindingPatch.apply d.unnamed) =
        details.map (Detail.bindFlow f.id) := by
      apply List.map_congr_left
      intro d _
      simp [DetailPatch.apply, Detail.bindingPatch, Detail.bindFlow, Detail.unnamed]
    rw [rows] at bound
    rw [Tables.carryOut, Own.grow_patched]
    constructor
    · apply Write.bindings { f with state } _ stored h.own hidden
      intro p mem
      obtain ⟨d, d_mem, rfl⟩ := List.mem_map.1 mem
      obtain ⟨task, task_mem, named, listed⟩ := listing.lists d_mem
      have own : d.id ∈ o.details := by
        rw [h.stored.own, List.map_map]
        exact List.mem_map_of_mem d_mem
      exact ⟨own, rfl, task, task_mem, named, listed⟩
    · exact ⟨h.own, bound, state, stored, hidden, calm⟩

theorem keeps_createSubFlows {f : Flow} {rows : List Detail} (subFlows : List SubFlow) {o : Own}
    {t : Tables} (h : Drafted T f rows o t) (guard : Guard) :
    Program.Keeps T (fun r o t => Drafted T f rows o t ∧ ∀ failure, r = .error failure → ¬ T.Calm)
      (Work.askStore guard (.createSubFlows subFlows)) o t := by
  apply Work.keeps_plain hosts (c := .createSubFlows subFlows) trivial (stable_drafted hosts f rows)
    (fun _ o t t' rely h => h.imp_left (stable_drafted hosts f rows o t t' rely)) h
  · intro failure t h refused
    exact ⟨h, fun _ _ => T.not_calm refused (by simp)⟩
  · intro t h numbered numbered'
    constructor
    · exact .subFlows _
    · refine ⟨h.of_same_rows rfl rfl, fun failure error => ?_⟩
      cases error

theorem stable_afterAttempt (resource : ResourceKey) (f : Flow) (rows : List Detail)
    (outcome : Except Failure LockAttempt) :
    T.Stable fun o t => Drafted T f rows o t ∧ AfterAttempt T resource f outcome o t := by
  intro o t t' rely both
  obtain ⟨h, attempted⟩ := both
  refine ⟨stable_drafted hosts f rows o t t' rely h, ?_⟩
  have own : f.id ∈ o.flows := h.own ▸ List.mem_singleton_self _
  have held : Held resource f.id t → Held resource f.id t' :=
    fun held => (stable_held hosts resource f.id o t t' rely ⟨own, held⟩).2
  rcases outcome with failure | l | l
  · exact attempted
  · exact held attempted
  · simp only [AfterAttempt] at attempted ⊢
    split at attempted
    next same =>
      rw [if_pos same]
      exact held attempted
    next other =>
      rw [if_neg other]
      exact stable_blamed resource l.busy o t t' rely attempted

theorem keeps_takeLock {f : Flow} {rows : List Detail} {wanted : Lock}
    (claimed : claims wanted.resource) (owner : wanted.flow = f.id)
    (balancer : f.balancer? = some wanted.resource.id) (kind : wanted.kind = f.operation.lockKind)
    {o : Own} {t : Tables} (h : Drafted T f rows o t) (guard : Guard) :
    Program.Keeps T
      (fun r o t => Drafted T f rows o t ∧ AfterAttempt T wanted.resource f r o t)
      (Work.askStore guard (.takeLock wanted)) o t := by
  apply Work.keeps_plain hosts (c := .takeLock wanted) trivial (stable_drafted hosts f rows)
    (stable_afterAttempt hosts wanted.resource f rows) h
  · intro failure t h refused
    exact ⟨h, T.not_calm refused (by simp)⟩
  · intro t h numbered numbered'
    have own : wanted.flow ∈ o.flows := by
      rw [h.own, owner]
      exact List.mem_singleton_self _
    obtain ⟨state, stored, -⟩ := h.flow
    cases found : t.locks.get? wanted.resource with
    | some l =>
        have conflict : t.carryOut (.takeLock wanted) = (.ok (.conflict l), t) := by
          simp [Tables.carryOut, Tables.takeLock, found]
        rw [conflict, Own.grow_self]
        refine ⟨.nothing, h, ?_⟩
        -- The lock that is in the way may still be the flow's own.
        simp only [AfterAttempt]
        split
        next same => exact ⟨l, found, same⟩
        next other => exact fun _ => ⟨l, found, rfl, by simpa [h.own] using other⟩
    | none =>
        have taken : t.carryOut (.takeLock wanted) = (.ok (.created wanted),
            { t with locks := t.locks.put wanted.resource wanted }) := by
          simp [Tables.carryOut, Tables.takeLock, found]
        rw [taken]
        constructor
        · exact .lock wanted { f with state } found claimed own (owner ▸ stored) balancer kind
        · exact ⟨h.of_same_rows rfl rfl, wanted, Keyed.get?_put .., owner⟩

theorem keeps_acquire {f : Flow} {rows : List Detail} {wanted : Lock}
    (claimed : claims wanted.resource) (owner : wanted.flow = f.id)
    (balancer : f.balancer? = some wanted.resource.id) (kind : wanted.kind = f.operation.lockKind)
    {o : Own} {t : Tables} (h : Drafted T f rows o t) :
    Program.Keeps T (AfterLocking T wanted.resource f rows) (Gate.acquire wanted) o t := by
  have stable := stable_afterLocking hosts wanted.resource f rows
  unfold Gate.acquire
  apply Program.keeps_within.2
  apply Work.keeps_bind stable (keeps_takeLock hosts claimed owner balancer kind h _)
  · intro failure o t held
    obtain ⟨h, attempted⟩ := held
    exact ⟨h, blamed_of_not_calm attempted⟩
  · intro attempt o t held
    obtain ⟨h, attempted⟩ := held
    cases attempt with
    | created l => exact Program.keeps_done (stable (.ok l)) ⟨h, attempted⟩
    | conflict l =>
        simp only [AfterAttempt] at attempted
        unfold Gate.settle
        split at attempted
        next own =>
          simp only [owner, own, if_true]
          exact Program.keeps_done (stable (.ok l)) ⟨h, attempted⟩
        next other =>
          simp only [owner, other, if_false]
          exact Program.keeps_done (stable (.error l.busy)) ⟨h, attempted⟩

omit hosts in
theorem Drafted.linked {f : Flow} {batch : Int64} {details : List Detail}
    (listing : Listing f.tasks details) (nonempty : f.tasks ≠ [])
    (opened : ∀ d ∈ details, d.Open batch) {o : Own} {t : Tables}
    (h : Drafted T f (details.map (Detail.bindFlow f.id)) o t) (state : FlowState) :
    Flow.Linked { f with state } t := by
  have own : o.details = details.map Detail.id := by
    rw [h.stored.own, Detail.ids_bindFlow]
  have ascending : (FlowTask.listed f.tasks).Pairwise (· < ·) := by
    rw [listing.listed_eq, ← own]
    exact h.stored.ascending
  refine ⟨nonempty, listing.chained, ascending, batch, ?_⟩
  intro task mem id listed
  obtain ⟨d, d_mem, named, rfl⟩ := listing.exists_detail mem listed
  have row := h.stored.get? _ (List.mem_map_of_mem d_mem)
  exact ⟨_, row, rfl, named, (opened d d_mem).state, (opened d d_mem).batch_eq⟩

theorem keeps_moveFlow {f : Flow} {batch : Int64} {resource : ResourceKey} {details : List Detail}
    (listing : Listing f.tasks details) (nonempty : f.tasks ≠ [])
    (opened : ∀ d ∈ details, d.Open batch) {o : Own} {t : Tables}
    (h : Drafted T f (details.map (Detail.bindFlow f.id)) o t) (held : Held resource f.id t)
    (guard : Guard) :
    Program.Keeps T (AfterMove T resource f (details.map (Detail.bindFlow f.id)))
      (Work.askStore guard (.moveFlow f.id .init .pending)) o t := by
  apply Work.keeps_plain hosts (c := .moveFlow f.id .init .pending) trivial
    (stable_afterLocking hosts resource f (details.map (Detail.bindFlow f.id)) (.ok default))
    (stable_afterMove hosts resource f _) ⟨h, held⟩
  · intro failure t held refused
    exact ⟨held.1, T.not_calm refused (by simp)⟩
  · intro t held numbered numbered'
    obtain ⟨h, l, found, owner⟩ := held
    obtain ⟨state, stored, hidden, calm⟩ := h.flow
    -- Only a flow that was cancelled on the way is not in its first state any more.
    by_cases first : state = .init
    · have moved : t.carryOut (.moveFlow f.id .init .pending) = (.ok true,
          { t with flows := t.flows.update f.id fun f => { f with state := .pending } }) := by
        simp [Tables.carryOut, Tables.moveFlow, stored, first]
      have own : f.id ∈ o.flows := h.own ▸ List.mem_singleton_self _
      have resource_eq := numbered.locks resource l found
      have linked := h.linked listing nonempty opened state
      have flow : (t.flows.update f.id fun f => { f with state := .pending }).get? f.id =
          some { f with state := .pending } := by
        rw [Table.get?_update_eq, if_pos rfl, stored]
        rfl
      have bound : ∀ d ∈ details.map (Detail.bindFlow f.id),
          d.state = .pending ∧ d.flow = some f.id ∧ f.Lists d := by
        intro d mem
        obtain ⟨d, d_mem, rfl⟩ := List.mem_map.1 mem
        obtain ⟨task, task_mem, named, listed⟩ := listing.lists d_mem
        exact ⟨(opened d d_mem).state, rfl, task, task_mem, named, listed⟩
      rw [moved, Own.grow_activated]
      constructor
      · exact .activation { f with state } l own stored (resource_eq ▸ found) owner linked
      · have rows : Stored (details.map (Detail.bindFlow f.id)) o
            { t with flows := t.flows.update f.id fun f => { f with state := .pending } } :=
          ⟨h.stored.own, h.stored.ascending, h.stored.get?⟩
        exact ⟨h.own, rows, flow, rfl, bound, l, found, owner⟩
    · have kept : t.carryOut (.moveFlow f.id .init .pending) = (.ok false, t) := by
        simp [Tables.carryOut, Tables.moveFlow, stored, first]
      rw [kept, Own.grow_self]
      exact ⟨.nothing, h, fun undisturbed => first (calm undisturbed)⟩

def AfterActivation (T : Terms) (resource : ResourceKey) (details : List Detail) :
    Except Failure Flow → Own → Tables → Prop
  | .ok f, o, t => Running resource f details o t
  | .error failure, o, t => Unfinished T details o t ∧ Blamed T resource failure o t

theorem stable_afterActivation (resource : ResourceKey) (details : List Detail)
    (outcome : Except Failure Flow) :
    T.Stable (AfterActivation T resource details outcome) := by
  intro o t t' rely h
  cases outcome with
  | ok f => exact stable_running hosts resource f details o t t' rely h
  | error failure =>
      exact ⟨stable_unfinished hosts details o t t' rely h.1,
        stable_blamed resource failure o t t' rely h.2⟩

theorem keeps_activate {d : FlowDraft} {f : Flow} {batch : Int64} {details : List Detail}
    (claimed : claims d.resource) (kind : d.lockKind = d.operation.lockKind)
    (created : f = d.newFlow.store f.id) (listing : Listing d.tasks details)
    (nonempty : d.tasks ≠ []) (opened : ∀ x ∈ details, x.Open batch) {o : Own} {t : Tables}
    (h : Drafted T f (details.map Detail.unnamed) o t) :
    Program.Keeps T (AfterActivation T d.resource (details.map (Detail.bindFlow f.id)))
      (d.activate f (details.map (Detail.bindFlow f.id))) o t := by
  have tasks : f.tasks = d.tasks := congrArg Flow.tasks created
  have balancer : f.balancer? = some d.resource.id := by
    rw [Flow.balancer?, congrArg Flow.shareData created]
    exact d.shareData_balancer
  have kind : d.lockKind = f.operation.lockKind := by
    rw [congrArg Flow.operation created]
    exact kind
  have pending : ∀ x ∈ details.map (Detail.bindFlow f.id), x.state = .pending := by
    intro x mem
    obtain ⟨y, y_mem, rfl⟩ := List.mem_map.1 mem
    exact (opened y y_mem).state
  rw [← tasks] at listing nonempty
  -- Wherever it stops, the rows that are stored have the ids of the details to be unwound.
  have stop : ∀ {rows failure o t}, Drafted T f rows o t →
      rows.map Detail.id = details.map Detail.id → Blamed T d.resource failure o t →
      AfterActivation T d.resource (details.map (Detail.bindFlow f.id)) (.error failure) o t := by
    intro rows failure o t drafted ids blamed
    have all := ids.trans (Detail.ids_bindFlow f.id details).symm
    exact ⟨drafted.unfinished all pending, blamed⟩
  have unbound := Detail.ids_unnamed details
  have bound := Detail.ids_bindFlow f.id details
  have claimed : claims (d.lock f.id).resource := claimed
  have stable := stable_afterActivation hosts d.resource (details.map (Detail.bindFlow f.id))
  unfold FlowDraft.activate
  apply Work.keeps_bind stable (keeps_writeBindings hosts listing h)
  · intro failure o t stopped
    exact stop stopped.1 unbound (blamed_of_not_calm stopped.2)
  intro _ o t drafted
  apply Work.keeps_bind stable (keeps_createSubFlows hosts (d.subFlows f.id) drafted _)
  · intro failure o t stopped
    exact stop stopped.1 bound (blamed_of_not_calm (stopped.2 failure rfl))
  intro _ o t written
  apply Work.keeps_bind stable (keeps_acquire hosts claimed rfl balancer kind written.1)
  · intro failure o t locked
    exact stop locked.1 bound locked.2
  intro l o t locked
  apply Work.keeps_bind stable
    (keeps_moveFlow hosts listing nonempty opened locked.1 locked.2 _)
  · intro failure o t stopped
    exact stop stopped.1 bound (blamed_of_not_calm stopped.2)
  intro moved o t result
  cases moved with
  | true => exact fun t' rely => stable_running hosts d.resource _ _ o t t' rely result
  | false =>
      have stopped : AfterActivation T d.resource (details.map (Detail.bindFlow f.id))
          (.error (FlowDraft.notActivated f.id)) o t :=
        stop result.1 bound (blamed_of_not_calm result.2)
      exact fun t' rely => stable (.error _) o t t' rely stopped

theorem FlowDraft.keeps_assemble {d : FlowDraft} {batch : Int64} {details : List Detail}
    (claimed : claims d.resource) (kind : d.lockKind = d.operation.lockKind)
    (listing : Listing d.tasks details) (opened : ∀ x ∈ details, x.Open batch)
    (some_task : T.Calm → d.tasks ≠ []) {o : Own} {t : Tables}
    (stored : Stored (details.map Detail.unnamed) o t) (first : o.flows = []) :
    Program.Keeps T (fun a => AfterActivation T d.resource a.details a.outcome)
      (d.assemble details) o t := by
  have pending : ∀ x ∈ details, x.state = .pending := fun x mem => (opened x mem).state
  have stop : ∀ {failure o t}, Unfinished T details o t → ¬ T.Calm → ∀ t', T.rely o t t' →
      AfterActivation T d.resource details (.error failure) o t' := by
    intro failure o t unfinished disturbed t' rely
    have stopped : AfterActivation T d.resource details (.error failure) o t :=
      ⟨unfinished, blamed_of_not_calm disturbed⟩
    exact stable_afterActivation hosts d.resource details (.error failure) o t t' rely stopped
  unfold FlowDraft.assemble
  apply Program.keeps_within.2
  split
  next none =>
    have none : d.tasks = [] := by simpa using none
    exact stop (stored.unfinished first pending) fun calm => some_task calm none
  next nonempty =>
    have nonempty : d.tasks ≠ [] := by simpa using nonempty
    have created := keeps_createFlow hosts listing pending stored first
    apply (created _).bind
    intro outcome o t created
    cases outcome with
    | error failure => exact stop created.1 created.2
    | ok f =>
        have activated :=
          keeps_activate hosts claimed kind created.1 listing nonempty opened created.2
        apply activated.bind
        intro outcome o t activated t' rely
        exact stable_afterActivation hosts d.resource _ outcome o t t' rely activated

end Drafts

namespace Construction

/-- What a construction leads to: a flow that may run, or work that failed. -/
def Finished (T : Terms) (resource : ResourceKey) :
    Except Failure Built → Own → Tables → Prop
  | .ok built, o, t => ∃ f details, Running resource f details o t ∧ f.id = built.flow ∧
      details.map Detail.id = built.details
  | .error failure, o, t => Fallen T failure o t ∧ Blamed T resource failure o t

def AfterLook (T : Terms) (resource : ResourceKey) :
    Except Failure (Option Lock) → Own → Tables → Prop
  | .ok none, _, _ => True
  | .ok (some l), o, t => Blamed T resource l.busy o t
  | .error _, _, _ => ¬ T.Calm

variable {T : Terms} {claims : ResourceKey → Prop} (hosts : T.Hosts claims)
include hosts

theorem stable_finished (resource : ResourceKey) (outcome : Except Failure Built) :
    T.Stable (Finished T resource outcome) := by
  intro o t t' rely h
  cases outcome with
  | ok built =>
      obtain ⟨f, details, running, ids⟩ := h
      exact ⟨f, details, stable_running hosts resource f details o t t' rely running, ids⟩
  | error failure =>
      exact ⟨stable_fallen hosts failure o t t' rely h.1,
        stable_blamed resource failure o t t' rely h.2⟩

/-- Looking at the owner of a resource adds nothing, and an owner that is seen is to blame. -/
theorem keeps_owner (resource : ResourceKey) (t : Tables) :
    Program.Keeps T (fun r o t => o = {} ∧ AfterLook T resource r o t) (Gate.owner? resource)
      {} t := by
  have stable : ∀ r, T.Stable fun o t => o = {} ∧ AfterLook T resource r o t := by
    intro r o t t' rely h
    obtain ⟨none, looked⟩ := h
    refine ⟨none, ?_⟩
    rcases r with failure | _ | l
    · exact looked
    · trivial
    · exact stable_blamed resource l.busy o t t' rely looked
  apply Work.keeps_askStore (c := .findLock resource) (P := fun o _ => o = {})
    (fun _ _ _ _ h => h) stable rfl
  intro t₁ _ numbered outcome t₂ allowed numbered'
  have effect := T.effect_of_allows allowed
  cases effect with
  | refused _ _ failure =>
      exact ⟨hosts.promise .nothing, Own.grow_self _ _, T.not_calm allowed (by simp)⟩
  | unseen => exact ⟨hosts.promise .nothing, Own.grow_self _ _, trivial⟩
  | done =>
      refine ⟨hosts.promise .nothing, Own.grow_self _ _, ?_⟩
      cases found : t₁.locks.get? resource with
      | none =>
          rw [Tables.carryOut, found]
          trivial
      | some l =>
          rw [Tables.carryOut, found, Own.grow_self]
          exact fun _ => ⟨l, found, rfl, by simp⟩

theorem keeps_ensureFree (resource : ResourceKey) (t : Tables) :
    Program.Keeps T (fun r o t => o = {} ∧ ∀ failure, r = .error failure →
      Blamed T resource failure o t) (Gate.ensureFree resource) {} t := by
  have stable : ∀ r : Except Failure Unit, T.Stable fun o t => o = {} ∧ ∀ failure,
      r = .error failure → Blamed T resource failure o t :=
    fun r o t t' rely h => h.imp_right fun blamed failure error =>
      stable_blamed resource failure o t t' rely (blamed failure error)
  unfold Gate.ensureFree
  apply Program.keeps_within.2
  apply Work.keeps_bind stable (keeps_owner hosts resource t)
  · intro failure o t seen
    exact ⟨seen.1, fun _ _ => blamed_of_not_calm seen.2⟩
  · intro owner o t seen
    cases owner with
    | none => exact Program.keeps_done (stable (.ok ())) ⟨seen.1, by simp⟩
    | some l =>
        have blamed : ∀ failure, (.error l.busy : Except Failure Unit) = .error failure →
            Blamed T resource failure o t := by
          intro failure same
          cases same
          exact seen.2
        exact fun t' rely => stable (.error l.busy) o t t' rely ⟨seen.1, blamed⟩

theorem keeps_assemble {scope : FlowScope} (retry : RetryPolicy) {plan : Plan}
    (claimed : claims scope.resource) (complete : plan.Complete) (t : Tables) :
    Program.Keeps T (fun a => AfterActivation T scope.resource a.details a.outcome)
      (assemble scope retry plan) {} t := by
  have empty : Chaining scope.batch (chain scope retry plan) {} t :=
    ⟨⟨.empty _ _ _, rfl, by simp [chain]⟩, ⟨rfl, by simp, by simp [chain]⟩, rfl⟩
  unfold assemble
  apply (keeps_pushAll hosts complete.counted empty).bind
  intro pushed o t after
  obtain ⟨c, outcome⟩ := pushed
  obtain ⟨chained, stopped⟩ := after
  have pending : ∀ x ∈ c.details, x.state = .pending :=
    fun x mem => (chained.ready.opened x mem).state
  cases outcome with
  | error failure =>
      have unfinished : Unfinished T c.details o t :=
        chained.stored.unfinished chained.first pending
      have stable := stable_afterActivation hosts scope.resource c.details (.error failure)
      exact fun t' rely => stable o t t' rely ⟨unfinished, blamed_of_not_calm stopped⟩
  | ok =>
      exact FlowDraft.keeps_assemble hosts (d := draft scope plan c.tasks) claimed rfl
        chained.ready.sound.listing chained.ready.opened
        (fun _ => stopped (.inr complete.nonempty)) chained.stored chained.first

theorem keeps_conclude (scope : FlowScope) (operation : Operation) {a : FlowDraft.Assembled}
    {o : Own} {t : Tables} (h : AfterActivation T scope.resource a.details a.outcome o t) :
    Program.Keeps T (Finished T scope.resource) (conclude scope operation a) o t := by
  obtain ⟨outcome, details⟩ := a
  cases outcome with
  | ok f =>
      have finished : Finished T scope.resource
          (.ok { flow := f.id, taskCount := f.tasks.length, details := details.map Detail.id })
          o t := ⟨f, details, h, rfl, rfl⟩
      exact fun t' rely => stable_finished hosts scope.resource _ o t t' rely finished
  | error failure =>
      obtain ⟨unfinished, blamed⟩ := h
      have unwound := keeps_unwind hosts (stable_blamed scope.resource failure)
        (fun _ _ _ => id) failure unfinished blamed
      apply unwound.bind
      intro unwound o t fallen t' rely
      exact stable_finished hosts scope.resource (.error failure) o t t' rely fallen

/-- A construction keeps to the terms, and leads to a flow that may run or to work that failed. -/
theorem keeps_build {scope : FlowScope} (retry : RetryPolicy) {plan : Plan}
    (claimed : claims scope.resource) (complete : plan.Complete) (t : Tables) :
    Program.Keeps T (Finished T scope.resource) (build scope retry plan) {} t := by
  unfold build
  apply Program.keeps_within.2
  apply (keeps_ensureFree hosts scope.resource t).bind
  intro gate o t free
  obtain ⟨rfl, blamed⟩ := free
  cases gate with
  | error failure =>
      have fallen : Fallen T failure {} t := ⟨by simp [Unrun], by simp⟩
      have stable := stable_finished hosts scope.resource (.error failure)
      exact fun t' rely => stable {} t t' rely ⟨fallen, blamed failure rfl⟩
  | ok =>
      apply Program.keeps_report.2
      apply (keeps_assemble hosts retry claimed complete t).bind
      intro a o t assembled
      exact keeps_conclude hosts scope plan.operation assembled

/-- What the construction for a job leads to, whose plan may be refused. -/
def Delivered (T : Terms) (resource : ResourceKey) :
    Except Failure Built → Own → Tables → Prop
  | .ok built, o, t => Finished T resource (.ok built) o t
  | .error failure, o, t => Fallen T failure o t

theorem keeps_buildJob {scope : FlowScope} (settings : Settings) (job : Job)
    (claimed : claims scope.resource) (t : Tables) :
    Program.Keeps T (Delivered T scope.resource) (buildJob settings scope job) {} t := by
  unfold buildJob
  cases planned : job.planUnder scope.resource.id settings.limits with
  | error failure =>
      have fallen : Fallen T failure {} t := ⟨by simp [Unrun], by simp⟩
      exact fun t' rely => stable_fallen hosts failure {} t t' rely fallen
  | ok plan =>
      have built := keeps_build hosts settings.retry claimed (Job.plan_complete planned) t
      apply built.mono
      intro outcome o t finished
      cases outcome with
      | ok built => exact finished
      | error failure => exact finished.1

end Construction

end BalancerFlows
