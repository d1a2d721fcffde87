import BalancerFlows.Proofs.Stages

/-!
# From stage to stage

Each call of a construction leads to the next stage or is the one that stops it. A call stops a
construction also where it is carried out, if its answer says no: somebody owns the resource, or
the flow is no longer in the state it was created in. Main statement: `Construction.ensures_build`,
which says of every run that it has passed through stages only and does not die, and of a failed one
which call stopped it and what its unwinding did.
-/
namespace BalancerFlows

/-- Why the answer to a call stops a construction. -/
def StoreCall.setback? : (c : StoreCall) → c.Answer → Option Failure
  | .findLock _, owner => owner.map Lock.busy
  | .takeLock wanted, attempt =>
      match attempt with
      | .created _ => none
      | .conflict owner => if owner.flow = wanted.flow then none else some owner.busy
  | .moveFlow flow _ _, moved => if moved then none else some (FlowDraft.notActivated flow)
  | _, _ => none

def Call.setback? : (c : Call) → c.Answer → Option Failure
  | .store c, answer => c.setback? answer
  | .catalog _, _ => none

/-- Why a step stops a construction: its call was refused, or the answer says no. -/
def Step.failure? (s : Step) : Option Failure :=
  match s.outcome with
  | .error failure => some failure
  | .ok answer => s.call.setback? answer

namespace Construction

/-- The tables are those of a stage. -/
def Undertaking.Visits (u : Undertaking) (t : Tables) : Prop :=
  t.Numbered ∧ ∃ stage reason, Stage.Proper u stage ∧ t = stage.tables u reason

/-- A construction has come to a stage, and no step has stopped it. -/
structure Underway (u : Undertaking) (stage : Stage) (past : List Step) (s : Contents) :
    Prop where
  proper : stage.Proper u
  tables : s.tables = stage.tables u none
  numbered : s.tables.Numbered
  smooth : ∀ step ∈ past, step.failure? = none
  visits : ∀ step ∈ past, u.Visits step.after.tables

/-- The last step has stopped a construction at a stage. -/
structure Halted (u : Undertaking) (stage : Stage) (failure : Failure) (past : List Step)
    (s : Contents) : Prop where
  proper : stage.Proper u
  tables : s.tables = stage.tables u none
  numbered : s.tables.Numbered
  cause : stage.Cause u failure
  stopped : ∃ before stop, past = before ++ [stop] ∧ (∀ step ∈ before, step.failure? = none) ∧
    stop.failure? = some failure ∧ stage.StopsAt u stop.call
  visits : ∀ step ∈ past, u.Visits step.after.tables

section

variable {u : Undertaking} {stage : Stage} {past : List Step} {s : Contents}

/-- All steps lead to tables of a stage. -/
def Undertaking.Traced (u : Undertaking) (past : List Step) : Prop :=
  ∀ step ∈ past, u.Visits step.after.tables

theorem Underway.advance (h : Underway u stage past s) {step : Step} (smooth : step.failure? = none)
    {next : Stage} (proper : next.Proper u) (tables : step.after.tables = next.tables u none)
    (numbered : step.after.tables.Numbered) :
    Underway u next (past ++ [step]) step.after := by
  have visits : u.Visits step.after.tables := ⟨numbered, next, none, proper, tables⟩
  refine ⟨proper, tables, numbered, ?_, ?_⟩
  · exact List.forall_mem_append.2 ⟨h.smooth, by simpa using smooth⟩
  · exact List.forall_mem_append.2 ⟨h.visits, by simpa using visits⟩

theorem Underway.halt (h : Underway u stage past s) {step : Step} {failure : Failure}
    (failed : step.failure? = some failure) {last : Stage} (cause : last.Cause u failure)
    (stops : last.StopsAt u step.call) (proper : last.Proper u)
    (tables : step.after.tables = last.tables u none) (numbered : step.after.tables.Numbered) :
    Halted u last failure (past ++ [step]) step.after := by
  have visits : u.Visits step.after.tables := ⟨numbered, last, none, proper, tables⟩
  refine ⟨proper, tables, numbered, cause, ⟨past, step, rfl, h.smooth, failed, stops⟩, ?_⟩
  exact List.forall_mem_append.2 ⟨h.visits, by simpa using visits⟩

theorem Underway.refuse (h : Underway u stage past s) {c : StoreCall}
    (awaits : stage.Awaits u (.store c)) {failure : Failure}
    (machinery : failure.isPrecondition = false) :
    Halted u stage failure (past ++ [⟨.store c, .error failure, s, s⟩]) s :=
  h.halt rfl (.machinery stage machinery) (.inl awaits) h.proper h.tables h.numbered

theorem Underway.ensures_ask (h : Underway u stage past s) (guard : Guard) {c : StoreCall}
    (plain : c.Plain) (awaits : stage.Awaits u (.store c))
    {Q : List Step → Option (Except Failure c.Answer) → Contents → Prop}
    (refused : ∀ failure past, Halted u stage failure past s → Q past (some (.error failure)) s)
    (done : ∀ s', s'.tables = (s.tables.carryOut c).2 → s'.tables.Numbered →
      Q (past ++ [⟨.store c, (s.tables.carryOut c).1, s, s'⟩]) (some (s.tables.carryOut c).1) s') :
    Program.Ensures u.faults Q (Work.askStore guard c) past s := by
  intro outcome s' answered numbered
  rcases answered.plain_cases plain with ⟨failure, machinery, rfl, rfl⟩ | ⟨rfl, rfl⟩
  · exact refused failure _ (h.refuse awaits machinery)
  · exact done _ rfl numbered

end

/-- What the work of a construction leads to: the next stage with a value, or a stage at which it
was stopped. `calls` are those whose details have to be unwound. -/
def Leads (u : Undertaking) (calls : List PlannedCall) {α : Type}
    (P : α → List Step → Contents → Prop) :
    List Step → Option (Except Failure α) → Contents → Prop
  | _, none, _ => False
  | past, some (.error failure), s =>
      ∃ stage, Stage.done u stage = calls ∧ Halted u stage failure past s
  | past, some (.ok a), s => P a past s

theorem ensures_then {u : Undertaking} {calls : List PlannedCall} {α β : Type}
    {P : α → List Step → Contents → Prop} {Q : β → List Step → Contents → Prop} {x : Work α}
    {f : α → Work β} {past : List Step} {s : Contents}
    (first : Program.Ensures u.faults (Leads u calls P) x past s)
    (next : ∀ a past s, P a past s → Program.Ensures u.faults (Leads u calls Q) (f a) past s) :
    Program.Ensures u.faults (Leads u calls Q) (x >>= f : Work β) past s := by
  apply Work.ensures_bind first
  · intro past s died
    exact died
  · intro past failure s stopped
    exact stopped
  · intro past a s reached
    exact next a past s reached

/-- What the look at the owner of a resource leads to. -/
def Looked (u : Undertaking) : Option Lock → List Step → Contents → Prop
  | none, past, s => Underway u (.chaining []) past s
  | some owner, past, s => Halted u .waiting owner.busy past s

theorem ensures_owner {u : Undertaking} {s : Contents} (waiting : Underway u .waiting [] s) :
    Program.Ensures u.faults (Leads u [] (Looked u)) (Gate.owner? u.scope.resource) [] s := by
  intro outcome s' answered numbered'
  have begun : s.tables = u.before := waiting.tables
  cases answered with
  | store catalog answered =>
      cases answered with
      | refused _ _ machinery => exact ⟨.waiting, rfl, waiting.refuse rfl machinery⟩
      | unseen stale =>
          -- A stale look finds the resource free, whoever owns it.
          have admitted : u.Admitted := .inr stale
          exact waiting.advance rfl ⟨admitted, List.nil_prefix⟩ begun numbered'
      | done =>
          cases begun
          cases found : u.before.locks.get? u.scope.resource with
          | none =>
              have admitted : u.Admitted := .inl found
              simp only [Tables.carryOut, found]
              exact waiting.advance rfl ⟨admitted, List.nil_prefix⟩ rfl numbered'
          | some owner =>
              simp only [Tables.carryOut, found]
              exact waiting.halt rfl (.owned found) (.inl rfl) trivial rfl numbered'

theorem ensures_ensureFree {u : Undertaking} {s : Contents}
    (waiting : Underway u .waiting [] s) :
    Program.Ensures u.faults (Leads u [] fun _ => Underway u (.chaining []))
      (Gate.ensureFree u.scope.resource) [] s := by
  unfold Gate.ensureFree
  apply Program.ensures_within.2
  apply ensures_then (ensures_owner waiting)
  intro owner past s looked
  cases owner with
  | none => exact looked
  | some owner => exact ⟨.waiting, rfl, looked⟩

/-- The chain whose tasks are those of these calls. -/
structure Chains (u : Undertaking) (calls : List PlannedCall) (c : Chain) : Prop where
  sound : c.Sound
  scope : c.scope = u.details
  details : c.details = u.made Entry.named calls
  requests : c.tasks.map (fun task => task.params.request) = calls.map PlannedCall.request

section Chaining

variable {u : Undertaking} {done : List PlannedCall} {past : List Step} {s : Contents}

/-- The details of one more call, once they have their task. -/
def Undertaking.Furthers (u : Undertaking) (done : List PlannedCall) (call : PlannedCall)
    (details : List Detail) : Prop :=
  details.map (Detail.bindAction ⟨Decimal.text (done.length + 1)⟩) =
    Table.label (u.before.details.created + (u.entries done).length)
      ((callEntries u.details (done.length + 1) call).map Entry.named)

/-- The details of one more call exist. -/
def Enlarged (u : Undertaking) (done : List PlannedCall) (call : PlannedCall)
    (details : List Detail) (past : List Step) (s : Contents) : Prop :=
  Underway u (.chaining (done ++ [call])) past s ∧ u.Furthers done call details

theorem ensures_createDetails (h : Underway u (.chaining done) past s) {call : PlannedCall}
    {rest : List PlannedCall} (planned : u.plan.calls = done ++ call :: rest) (guard : Guard) :
    Program.Ensures u.faults (Leads u done (Enlarged u done call))
      (Work.askStore guard (.createDetails (call.params.map u.details.detail))) past s := by
  have awaits : (Stage.chaining done).Awaits u
      (.store (.createDetails (call.params.map u.details.detail))) :=
    .inl ⟨call, rest, planned, rfl⟩
  apply h.ensures_ask guard (c := .createDetails _) trivial awaits
  · intro failure past halted
    exact ⟨_, rfl, halted⟩
  · intro s' after numbered'
    have proper : (Stage.chaining (done ++ [call])).Proper u :=
      ⟨h.proper.1, rest, by simp [planned]⟩
    have created := Stage.tables_created (u := u) done call
    have furthers := Stage.created_details (u := u) done call
    rw [← h.tables] at created furthers
    exact ⟨h.advance rfl proper (after.trans created) numbered', furthers⟩

theorem ensures_create (h : Underway u (.chaining done) past s) {call : PlannedCall}
    {rest : List PlannedCall} (planned : u.plan.calls = done ++ call :: rest) :
    Program.Ensures u.faults (Leads u done (Enlarged u done call))
      (u.details.create call.params) past s := by
  unfold DetailScope.create
  split
  next empty =>
    have empty : call.params = [] := by simpa using empty
    have created := Stage.tables_created (u := u) done call
    rw [empty] at created
    have proper : (Stage.chaining (done ++ [call])).Proper u :=
      ⟨h.proper.1, rest, by simp [planned]⟩
    have furthers : u.Furthers done call [] := by
      simp [Undertaking.Furthers, callEntries, empty, Table.label]
    exact ⟨{ h with proper := proper, tables := h.tables.trans created }, furthers⟩
  next =>
    apply ensures_then (ensures_createDetails h planned _)
    intro details past s enlarged
    exact enlarged

/-- The chain and the run after a task was put behind the chain. -/
def Lengthened (u : Undertaking) (calls : List PlannedCall) (pushed : FlowTask × Chain)
    (past : List Step) (s : Contents) : Prop :=
  Underway u (.chaining calls) past s ∧ Chains u calls pushed.2

theorem ensures_append {call : PlannedCall} (h : Underway u (.chaining (done ++ [call])) past s)
    {c : Chain} (chains : Chains u done c) (complete : u.plan.Complete)
    {rest : List PlannedCall} (planned : u.plan.calls = done ++ call :: rest)
    {details : List Detail} (furthers : u.Furthers done call details) :
    (c.append details call.request).Ensures u.faults
      (fun past r => Leads u done (Lengthened u (done ++ [call])) past (r.map .ok)) past s := by
  have count : details.length = call.request.itemCount := by
    have lengths := congrArg List.length furthers
    simp only [List.length_map, Table.length_label, callEntries] at lengths
    rw [lengths]
    exact complete.counted call (planned ▸ List.mem_append_right _ List.mem_cons_self)
  have tasks : c.tasks.length = done.length := by
    simpa using congrArg List.length chains.requests
  unfold Chain.append
  split
  next issued =>
    -- Each task has details, so their ids would have run out before the counter.
    have filled : ∀ other ∈ done ++ [call], other.params ≠ [] := by
      intro other mem
      apply complete.filled
      rw [planned, List.append_cons]
      exact List.mem_append_left _ mem
    have enough := length_le_length_entries u.details 0 filled
    have room := h.numbered.toFits.details
    rw [h.tables] at room
    have next := chains.sound.next
    have created : u.before.details.created + (u.entries (done ++ [call])).length < 2 ^ 63 := by
      simpa [Stage.tables, Tables.withDetails, Stage.beside, Stage.done] using room
    have exhausted : 2 ^ 64 ≤ c.numbering.next.toNat + 1 :=
      Numbering.exhausted chains.sound.step issued
    simp only [Undertaking.entries, List.length_append, List.length_singleton] at created enough
    omega
  next id numbering issued =>
    obtain ⟨named, -, -⟩ := Numbering.issue_first chains.sound.step issued
    rw [chains.sound.next, tasks] at named
    refine ⟨h, chains.sound.extend issued count, chains.scope, ?_, ?_⟩
    · rw [Undertaking.made_append, ← chains.details, ← furthers, ← named]
      rfl
    · simp only [Chain.extend, List.map_append, chains.requests]
      rfl

theorem ensures_push (h : Underway u (.chaining done) past s) {c : Chain}
    (chains : Chains u done c) {call : PlannedCall} (complete : u.plan.Complete)
    {rest : List PlannedCall} (planned : u.plan.calls = done ++ call :: rest) :
    Program.Ensures u.faults (Leads u done (Lengthened u (done ++ [call]))) (c.push call)
      past s := by
  unfold Chain.push
  rw [chains.scope]
  apply ensures_then (ensures_create h planned)
  intro details past s enlarged
  obtain ⟨h, furthers⟩ := enlarged
  exact Work.ensures_lift (ensures_append h chains complete planned furthers)

/-- What pushing all calls of the plan leads to. -/
def Pushes (u : Undertaking) : List Step → Option Chain.Pushed → Contents → Prop
  | _, none, _ => False
  | past, some ⟨c, .ok ()⟩, s => Underway u (.chaining u.plan.calls) past s ∧
      Chains u u.plan.calls c
  | past, some ⟨c, .error failure⟩, s => ∃ stage, Halted u stage failure past s ∧
      Chains u (stage.done u) c

theorem ensures_pushAll {rest : List PlannedCall} (complete : u.plan.Complete)
    (planned : u.plan.calls = done ++ rest) (h : Underway u (.chaining done) past s) {c : Chain}
    (chains : Chains u done c) : (c.pushAll rest).Ensures u.faults (Pushes u) past s := by
  -- The chain has the tasks of `done`; a push moves the first call of `rest` over there.
  induction rest generalizing done c past s with
  | nil =>
      rw [List.append_nil] at planned
      subst planned
      exact ⟨h, chains⟩
  | cons call rest ih =>
      unfold Chain.pushAll
      apply (ensures_push h chains complete planned).bind
      · intro past s died
        exact died
      · intro past outcome s pushed
        rcases outcome with failure | ⟨task, longer⟩
        · obtain ⟨stage, same, halted⟩ := pushed
          exact ⟨stage, halted, same ▸ chains⟩
        · obtain ⟨h, chains⟩ := pushed
          exact ih (by simp [planned]) h chains

end Chaining

section Assembling

variable {u : Undertaking} {tasks : List FlowTask} {state : FlowState} {past : List Step}
  {s : Contents}

def Filed (u : Undertaking) (tasks : List FlowTask) (f : Flow) (past : List Step) (s : Contents) :
    Prop :=
  f = (u.draft tasks).newFlow.store u.flow ∧ ∃ state, Underway u (.stored tasks state) past s

theorem ensures_createFlow (h : Underway u (.chaining u.plan.calls) past s)
    (drawn : u.Drawn tasks) (guard : Guard) :
    Program.Ensures u.faults (Leads u u.plan.calls (Filed u tasks))
      (Work.askStore guard (.createFlow (u.draft tasks).newFlow)) past s := by
  have admitted := h.proper.1
  have awaits : (Stage.chaining u.plan.calls).Awaits u
      (.store (.createFlow (u.draft tasks).newFlow)) := .inr ⟨rfl, tasks, drawn, rfl⟩
  have filed : ∀ state, s.tables.withFlow (u.draft tasks).newFlow state =
      (Stage.stored tasks state).tables u none := by
    intro state
    rw [h.tables]
    exact Stage.tables_withFlow tasks state
  have flow : (s.tables.carryOut (.createFlow (u.draft tasks).newFlow)).1 =
      .ok ((u.draft tasks).newFlow.store u.flow) := by
    rw [h.tables]
    rfl
  intro outcome s' answered numbered'
  cases answered with
  | store catalog answered =>
      cases answered with
      | refused _ _ machinery => exact ⟨_, rfl, h.refuse awaits machinery⟩
      | done =>
          have proper : (Stage.stored tasks .init).Proper u := ⟨admitted, drawn, .inl rfl⟩
          simp only [flow]
          exact ⟨rfl, .init, h.advance rfl proper (filed .init) numbered'⟩
      | cancelled cancels =>
          have proper : (Stage.stored tasks .cancelled).Proper u :=
            ⟨admitted, drawn, .inr ⟨rfl, cancels⟩⟩
          simp only [flow]
          exact ⟨rfl, .cancelled, h.advance rfl proper (filed .cancelled) numbered'⟩
      | uncancelled cancels _ _ machinery =>
          -- The flow is there, although the answer is that its cancellation was refused.
          have proper : (Stage.stored tasks .init).Proper u := ⟨admitted, drawn, .inl rfl⟩
          have stops : (Stage.stored tasks .init).StopsAt u
              (.store (.createFlow (u.draft tasks).newFlow)) := .inr ⟨cancels, tasks, rfl, rfl⟩
          exact ⟨.stored tasks .init, rfl,
            h.halt rfl (.machinery _ machinery) stops proper (filed .init) numbered'⟩

theorem ensures_writeBindings (h : Underway u (.stored tasks state) past s) :
    Program.Ensures u.faults
      (Leads u u.plan.calls fun _ => Underway u (.bound tasks state))
      (Detail.writeBindings (u.made (Entry.bound u.flow) u.plan.calls)) past s := by
  apply h.ensures_ask _ (c := .updateDetails _) trivial rfl
  · intro failure past halted
    exact ⟨_, rfl, halted⟩
  · intro s' after numbered'
    have fits := h.numbered.toFits
    rw [h.tables] at fits after
    exact h.advance rfl h.proper (after.trans (Stage.tables_bound fits)) numbered'

theorem ensures_createSubFlows (h : Underway u (.bound tasks state) past s) (guard : Guard) :
    Program.Ensures u.faults
      (Leads u u.plan.calls fun _ => Underway u (.associated tasks state))
      (Work.askStore guard (.createSubFlows ((u.draft tasks).subFlows u.flow))) past s := by
  apply h.ensures_ask guard (c := .createSubFlows _) trivial rfl
  · intro failure past halted
    exact ⟨_, rfl, halted⟩
  · intro s' after numbered'
    rw [h.tables] at after
    exact h.advance rfl h.proper (after.trans (Stage.tables_associated tasks state)) numbered'

/-- What an attempt to take the lock leads to. -/
def Tried (u : Undertaking) (tasks : List FlowTask) (state : FlowState) (attempt : LockAttempt)
    (past : List Step) (s : Contents) : Prop :=
  match attempt with
  | .created _ => Underway u (.locked tasks state) past s
  | .conflict owner =>
      if owner.flow = u.flow then Underway u (.locked tasks state) past s
      else Halted u (.associated tasks state) owner.busy past s

theorem ensures_takeLock (h : Underway u (.associated tasks state) past s) (guard : Guard) :
    Program.Ensures u.faults (Leads u u.plan.calls (Tried u tasks state))
      (Work.askStore guard (.takeLock ((u.draft tasks).lock u.flow))) past s := by
  obtain ⟨admitted, drawn, fresh⟩ := h.proper
  apply h.ensures_ask guard (c := .takeLock _) trivial rfl
  · intro failure past halted
    exact ⟨_, rfl, halted⟩
  · intro s' after numbered'
    have locked := after
    rw [h.tables, Stage.tables_locked] at locked
    have seen : s.tables.locks.get? ((u.draft tasks).lock u.flow).resource =
        u.before.locks.get? u.scope.resource := by
      rw [h.tables]
      rfl
    cases found : u.before.locks.get? u.scope.resource with
    | none =>
        have proper : (Stage.locked tasks state).Proper u :=
          ⟨admitted, drawn, fresh, by simp [Undertaking.Unopposed, found]⟩
        have taken : (s.tables.carryOut (.takeLock ((u.draft tasks).lock u.flow))).1 =
            .ok (.created ((u.draft tasks).lock u.flow)) := by
          simp only [Tables.carryOut, Tables.takeLock, seen, found]
        rw [taken]
        exact h.advance rfl proper locked numbered'
    | some owner =>
        have kept : s.tables.carryOut (.takeLock ((u.draft tasks).lock u.flow)) =
            (.ok (.conflict owner), s.tables) := by
          simp only [Tables.carryOut, Tables.takeLock, seen, found]
        rw [kept] at after ⊢
        by_cases own : owner.flow = u.flow
        -- The lock was taken before the flow was there, under the id that it then got.
        · have proper : (Stage.locked tasks state).Proper u := by
            refine ⟨admitted, drawn, fresh, fun other found' => ?_⟩
            rw [found, Option.some.injEq] at found'
            exact found' ▸ own
          have smooth : Step.failure? ⟨.store (.takeLock ((u.draft tasks).lock u.flow)),
              .ok (.conflict owner), s, s'⟩ = none := if_pos own
          show Tried u tasks state (.conflict owner) _ s'
          rw [Tried, if_pos own]
          exact h.advance smooth proper locked numbered'
        · have stale : u.faults.staleReads = true := by
            rcases admitted with free | stale
            · rw [found] at free
              cases free
            · exact stale
          have setback : Step.failure? ⟨.store (.takeLock ((u.draft tasks).lock u.flow)),
              .ok (.conflict owner), s, s'⟩ = some owner.busy := if_neg own
          show Tried u tasks state (.conflict owner) _ s'
          rw [Tried, if_neg own]
          exact h.halt setback (.lost tasks state found own stale) (.inl rfl) h.proper
            (after.trans h.tables) numbered'

theorem ensures_acquire (h : Underway u (.associated tasks state) past s) :
    Program.Ensures u.faults
      (Leads u u.plan.calls fun _ => Underway u (.locked tasks state))
      (Gate.acquire ((u.draft tasks).lock u.flow)) past s := by
  unfold Gate.acquire
  apply Program.ensures_within.2
  apply ensures_then (ensures_takeLock h _)
  intro attempt past s tried
  cases attempt with
  | created l => exact tried
  | conflict owner =>
      by_cases own : owner.flow = u.flow
      · rw [Tried, if_pos own] at tried
        rw [Gate.settle, if_pos (show owner.flow = ((u.draft tasks).lock u.flow).flow from own)]
        exact tried
      · rw [Tried, if_neg own] at tried
        rw [Gate.settle, if_neg (show ¬ owner.flow = ((u.draft tasks).lock u.flow).flow from own)]
        exact ⟨_, rfl, tried⟩

/-- What the attempt to make the flow pending leads to. -/
def Moved (u : Undertaking) (tasks : List FlowTask) (state : FlowState) (moved : Bool)
    (past : List Step) (s : Contents) : Prop :=
  if moved then Underway u (.active tasks) past s
  else Halted u (.locked tasks state) (FlowDraft.notActivated u.flow) past s

theorem ensures_moveFlow (h : Underway u (.locked tasks state) past s) (guard : Guard) :
    Program.Ensures u.faults (Leads u u.plan.calls (Moved u tasks state))
      (Work.askStore guard (.moveFlow u.flow .init .pending)) past s := by
  apply h.ensures_ask guard (c := .moveFlow _ _ _) trivial rfl
  · intro failure past halted
    exact ⟨_, rfl, halted⟩
  · intro s' after numbered'
    have moved := Stage.tables_moved (u := u) tasks state
    rw [h.tables, moved] at after
    rw [h.tables, moved]
    -- Only a flow that was cancelled as it was created is not in its first state any more.
    by_cases first : state = .init
    · rw [if_pos first] at after ⊢
      have proper : (Stage.active tasks).Proper u := by
        obtain ⟨admitted, drawn, -, own⟩ := h.proper
        exact ⟨admitted, drawn, own⟩
      exact h.advance rfl proper after numbered'
    · rw [if_neg first] at after ⊢
      exact h.halt rfl (.machinery _ rfl) (.inl rfl) h.proper after numbered'

/-- The flow is built and may run. -/
def Activated (u : Undertaking) (tasks : List FlowTask) (f : Flow) (past : List Step)
    (s : Contents) : Prop :=
  f.id = u.flow ∧ f.tasks = tasks ∧ u.Drawn tasks ∧ Underway u (.active tasks) past s

theorem ensures_activate {f : Flow} (filed : f = (u.draft tasks).newFlow.store u.flow)
    (h : Underway u (.stored tasks state) past s) :
    Program.Ensures u.faults (Leads u u.plan.calls (Activated u tasks))
      ((u.draft tasks).activate f (u.made (Entry.bound u.flow) u.plan.calls)) past s := by
  have id : f.id = u.flow := congrArg Flow.id filed
  have stored : f.tasks = tasks := congrArg Flow.tasks filed
  have drawn := h.proper.2.1
  unfold FlowDraft.activate
  rw [id]
  apply ensures_then (ensures_writeBindings h)
  intro _ past s h
  apply ensures_then (ensures_createSubFlows h _)
  intro _ past s h
  apply ensures_then (ensures_acquire h)
  intro _ past s h
  apply ensures_then (ensures_moveFlow h _)
  intro moved past s result
  cases moved with
  | true => exact ⟨rfl, stored, drawn, result⟩
  | false => exact ⟨_, rfl, result⟩

/-- These are the details of some calls, and none is settled. -/
structure Undertaking.Unsettled (u : Undertaking) (calls : List PlannedCall)
    (details : List Detail) : Prop where
  ids : details.map Detail.id = u.made (fun _ id => id) calls
  pending : ∀ d ∈ details, d.state = .pending

theorem unsettled_made (u : Undertaking) (calls : List PlannedCall) {make : Entry → Int64 → Detail}
    (ids : ∀ e id, (make e id).id = id) (pending : ∀ e id, (make e id).state = .pending) :
    u.Unsettled calls (u.made make calls) := by
  constructor
  · simp only [Undertaking.map_made, ids]
  · intro d mem
    obtain ⟨e, -, id, rfl⟩ := Undertaking.exists_of_mem_made mem
    exact pending e id

def Assembles (u : Undertaking) : List Step → Option FlowDraft.Assembled → Contents → Prop
  | _, none, _ => False
  | past, some ⟨.ok f, details⟩, s => ∃ tasks, Activated u tasks f past s ∧
      details = u.made (Entry.bound u.flow) u.plan.calls
  | past, some ⟨.error failure, details⟩, s => ∃ stage, Halted u stage failure past s ∧
      u.Unsettled (stage.done u) details

theorem ensures_assembled (h : Underway u (.chaining u.plan.calls) past s)
    (nonempty : u.plan.calls ≠ []) (drawn : u.Drawn tasks) :
    ((u.draft tasks).assemble (u.made Entry.named u.plan.calls)).Ensures u.faults (Assembles u)
      past s := by
  have some_task := drawn.nonempty nonempty
  have named : u.Unsettled u.plan.calls (u.made Entry.named u.plan.calls) :=
    unsettled_made u _ (fun _ _ => rfl) fun _ _ => rfl
  have bound : u.Unsettled u.plan.calls (u.made (Entry.bound u.flow) u.plan.calls) :=
    unsettled_made u _ (fun _ _ => rfl) fun _ _ => rfl
  unfold FlowDraft.assemble
  apply Program.ensures_within.2
  split
  next none =>
    have none : (u.draft tasks).tasks = [] := by simpa using none
    exact absurd none some_task
  next =>
    apply (ensures_createFlow h drawn _).bind
    · intro past s died
      exact died
    · intro past outcome s filed
      cases outcome with
      | error failure =>
          obtain ⟨stage, same, halted⟩ := filed
          exact ⟨stage, halted, same ▸ named⟩
      | ok f =>
          obtain ⟨filed, state, h⟩ := filed
          have details : (u.made Entry.named u.plan.calls).map (Detail.bindFlow f.id) =
              u.made (Entry.bound u.flow) u.plan.calls := by
            rw [Undertaking.map_made, filed]
            rfl
          simp only [details]
          apply (ensures_activate filed h).bind
          · intro past s died
            exact died
          · intro past outcome s activated
            cases outcome with
            | error failure =>
                obtain ⟨stage, same, halted⟩ := activated
                exact ⟨stage, halted, same ▸ bound⟩
            | ok f => exact ⟨tasks, activated, rfl⟩

end Assembling

/-- What becomes of the details of a construction that has failed. -/
inductive Unwinding (u : Undertaking) (stage : Stage) (failure : Failure) :
    List Step → Tables → Prop
  /-- There are none. -/
  | idle (none : u.entries (stage.done u) = []) :
      Unwinding u stage failure [] (stage.tables u .none)
  /-- They fail with it. -/
  | done (step : Step) (ok : step.failure? = none)
      (call : step.call = .store (.updateDetails
        (u.made (fun _ id => .settle id .failed (some failure.message)) (stage.done u)))) :
      Unwinding u stage failure [step] (stage.tables u (some failure.message))
  /-- They stay as they are. -/
  | refused (step : Step) (refused : step.failure? ≠ none)
      (call : step.call = .store (.updateDetails
        (u.made (fun _ id => .settle id .failed (some failure.message)) (stage.done u)))) :
      Unwinding u stage failure [step] (stage.tables u none)

/-- A construction has failed at a stage, and its details were unwound. -/
structure Fell (u : Undertaking) (stage : Stage) (failure : Failure) (past : List Step)
    (t : Tables) : Prop where
  proper : stage.Proper u
  cause : stage.Cause u failure
  trail : ∃ before stop after, past = before ++ stop :: after ∧
    (∀ step ∈ before, step.failure? = none) ∧ stop.failure? = some failure ∧
    stage.StopsAt u stop.call ∧ Unwinding u stage failure after t

/-- What a construction leads to. -/
def Ends (u : Undertaking) : List Step → Option (Except Failure Built) → Contents → Prop
  | _, none, _ => False
  | past, some (.ok built), s => ∃ tasks, u.Drawn tasks ∧
      Underway u (.active tasks) past s ∧
      built = { flow := u.flow, taskCount := tasks.length
                details := u.made (fun _ id => id) u.plan.calls }
  | past, some (.error failure), s => ∃ stage, Fell u stage failure past s.tables

section Concluding

variable {u : Undertaking} {past : List Step} {s : Contents}

theorem Halted.fell {stage : Stage} {failure : Failure} (h : Halted u stage failure past s)
    {after : List Step} {t : Tables} (unwinding : Unwinding u stage failure after t) :
    Fell u stage failure (past ++ after) t := by
  obtain ⟨before, stop, rfl, smooth, stopped, stops⟩ := h.stopped
  refine ⟨h.proper, h.cause, before, stop, after, ?_, smooth, stopped, stops, unwinding⟩
  rw [List.append_assoc]
  rfl

theorem ensures_unwind {stage : Stage} {failure : Failure} (h : Halted u stage failure past s)
    {details : List Detail} (unsettled : u.Unsettled (stage.done u) details) :
    (Unwind.run failure details).Ensures u.faults
      (fun past r s => r ≠ none ∧ u.Traced past ∧ Fell u stage failure past s.tables) past s := by
  have traced : ∀ step : Step, u.Visits step.after.tables → u.Traced (past ++ [step]) := by
    intro step visits
    exact List.forall_mem_append.2 ⟨h.visits, by simpa using visits⟩
  have beside := stage.beside_details (u := u)
  have ids : details.map Detail.id = Table.label (stage.beside u).details.created
      ((u.entries (stage.done u)).map fun _ id => id) := by
    rw [beside]
    exact unsettled.ids
  have call : Call.store ((stage.beside u).failing (u.entries (stage.done u)) failure.message) =
      .store (.updateDetails
        (u.made (fun _ id => .settle id .failed (some failure.message)) (stage.done u))) := by
    rw [Tables.failing, beside]
    rfl
  apply Unwind.ensures_run (u.entries (stage.done u)) h.tables h.numbered unsettled.pending ids
  · intro none
    have fell := h.fell (.idle none)
    rw [List.append_nil, ← h.tables] at fell
    exact ⟨h.visits, fell⟩
  · intro refusal
    have fell := h.fell (.refused ⟨.store _, .error refusal, s, s⟩ (Option.some_ne_none refusal)
      call)
    rw [← h.tables] at fell
    exact ⟨traced _ ⟨h.numbered, stage, none, h.proper, h.tables⟩, fell⟩
  · intro s' numbered' _ failed
    have unwound : s'.tables = stage.tables u (some failure.message) := failed
    have fell := h.fell (.done ⟨.store _, .ok (), s, s'⟩ rfl call)
    rw [← unwound] at fell
    exact ⟨traced _ ⟨numbered', stage, _, h.proper, unwound⟩, fell⟩

theorem ensures_conclude {a : FlowDraft.Assembled} (h : Assembles u past (some a) s) :
    (conclude u.scope u.plan.operation a).Ensures u.faults
      (fun past r s => u.Traced past ∧ Ends u past r s) past s := by
  obtain ⟨outcome, details⟩ := a
  cases outcome with
  | error failure =>
      obtain ⟨stage, halted, unsettled⟩ := h
      apply (ensures_unwind halted unsettled).bind
      · intro past s died
        exact absurd rfl died.1
      · intro past unwound s fell
        obtain ⟨-, traced, fell⟩ := fell
        exact ⟨traced, stage, fell⟩
  | ok f =>
      obtain ⟨tasks, ⟨id, stored, drawn, h⟩, rfl⟩ := h
      have built : Built.mk f.id f.tasks.length
          ((u.made (Entry.bound u.flow) u.plan.calls).map Detail.id) =
            { flow := u.flow, taskCount := tasks.length
              details := u.made (fun _ id => id) u.plan.calls } := by
        rw [id, stored, Undertaking.map_made]
        rfl
      exact ⟨h.visits, tasks, drawn, h, built⟩

theorem ensures_assemble (h : Underway u (.chaining []) past s) (retry : RetryPolicy)
    (complete : u.plan.Complete) :
    (assemble u.scope retry u.plan).Ensures u.faults (Assembles u) past s := by
  have empty : Chains u [] (chain u.scope retry u.plan) := ⟨.empty _ _ _, rfl, rfl, rfl⟩
  unfold assemble
  apply (ensures_pushAll complete rfl h empty).bind
  · intro past s died
    exact died
  · intro past pushed s after
    obtain ⟨c, outcome⟩ := pushed
    cases outcome with
    | error failure =>
        obtain ⟨stage, halted, chains⟩ := after
        have unsettled : u.Unsettled (stage.done u) (u.made Entry.named (stage.done u)) :=
          unsettled_made u _ (fun _ _ => rfl) fun _ _ => rfl
        exact ⟨stage, halted, chains.details ▸ unsettled⟩
    | ok =>
        obtain ⟨h, chains⟩ := after
        have drawn : u.Drawn c.tasks := ⟨chains.details ▸ chains.sound.listing, chains.requests⟩
        have assembled := ensures_assembled h complete.nonempty drawn
        rw [← chains.details] at assembled
        exact assembled

/-- A run of a construction passes from stage to stage, and ends with a flow that may run or fails
at a stage. -/
theorem ensures_build (retry : RetryPolicy) (complete : u.plan.Complete)
    (begun : s.tables = u.before) (numbered : s.tables.Numbered) :
    Program.Ensures u.faults (fun past r s => u.Traced past ∧ Ends u past r s)
      (build u.scope retry u.plan) [] s := by
  have waiting : Underway u .waiting [] s := ⟨trivial, begun, numbered, by simp, by simp⟩
  unfold build
  apply Program.ensures_within.2
  apply (ensures_ensureFree waiting).bind
  · intro past s died
    exact died.elim
  · intro past gate s looked
    cases gate with
    | error failure =>
        obtain ⟨stage, none, halted⟩ := looked
        have fell := halted.fell (.idle (by rw [none]; rfl))
        rw [List.append_nil, ← halted.tables] at fell
        exact ⟨halted.visits, stage, fell⟩
    | ok =>
        apply Program.ensures_report.2
        apply (ensures_assemble looked retry complete).bind
        · intro past s died
          exact died.elim
        · intro past a s assembled
          exact ensures_conclude assembled

end Concluding

end Construction

end BalancerFlows
