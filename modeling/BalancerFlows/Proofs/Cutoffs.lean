import BalancerFlows.Proofs.Attachment
import BalancerFlows.Proofs.Ownership
import BalancerFlows.Proofs.Timeline
import BalancerFlows.Proofs.Working

/-!
# What a deadline cuts off

A request that is processed under a deadline ends by it, and then the deadline has made no
difference. Otherwise the last thing to be cut off is attaching the flows: the flows that were built
may run and keep their load balancers, but the batch does not know them. Main statement:
`Submission.deadline_kept`, for calls that each take any time.
-/
namespace BalancerFlows

section Lives

variable {α β : Type} {faults : Faults}

/-- Whatever the calls are answered, the program ends with a value. -/
def Program.Lives (faults : Faults) (p : Program α) : Prop :=
  ∀ past s, s.tables.Numbered → p.Ensures faults (fun _ r _ => r ≠ none) past s

theorem Program.Lives.bind {p : Program α} {f : α → Program β} (first : p.Lives faults)
    (next : ∀ a, (f a).Lives faults) : (p >>= f).Lives faults := by
  intro past s numbered
  apply ((first past s numbered).and_numbered numbered).bind
  · rintro past s ⟨-, died⟩
    exact absurd rfl died
  · rintro past a s ⟨numbered', -⟩
    exact next a past s numbered'

theorem Work.lives_map {x : Work α} {f : α → β} (h : Program.Lives faults x) :
    Program.Lives faults (f <$> x : Work β) := by
  rw [map_eq_pure_bind]
  apply Program.Lives.bind h
  intro r past s _
  cases r with
  | error failure => exact Option.some_ne_none _
  | ok a => exact Option.some_ne_none _

theorem LocalChange.lives_runLocalJob (scope : DetailScope) (job : LocalJob) :
    Program.Lives faults (Submission.runLocalJob scope job) := by
  intro past s numbered
  apply (ensures_runLocalJob numbered job).mono
  rintro past r s' does rfl
  rcases does with ⟨failure, none, -⟩ | died
  · cases none
  · exact died

theorem Construction.lives_buildJob (settings : Settings) (scope : FlowScope) (job : Job) :
    Program.Lives faults (buildJob settings scope job) := by
  intro past s numbered
  apply Work.ensures_check
  · exact fun failure _ => Option.some_ne_none _
  intro plan planned
  have ends := (ensures_build (u := { scope, plan, faults, before := s.tables }) (s := s)
    settings.retry (Job.plan_complete planned) rfl numbered).behind past
  rw [List.append_nil] at ends
  apply ends.mono
  rintro _ r s' ⟨own, -, -, ended⟩ rfl
  exact ended

end Lives

namespace Submission

variable {faults : Faults}

theorem lives_pieces (faults : Faults) (settings : Settings) (r : BatchRequest) (work : Routed)
    (batch : Int64) :
    ∀ p ∈ pieces settings r work batch, Program.Lives faults p.work := by
  intro p mem
  rcases List.mem_append.1 mem with mem | mem
  · obtain ⟨job, -, rfl⟩ := List.mem_map.1 mem
    exact Work.lives_map (LocalChange.lives_runLocalJob _ job)
  · obtain ⟨entry, -, rfl⟩ := List.mem_map.1 mem
    exact Work.lives_map (Construction.lives_buildJob settings _ entry.2)

theorem lives_workAll {ps : List Piece} (all : ∀ p ∈ ps, Program.Lives faults p.work)
    (s : Submission) : (workAll s ps).Lives faults := by
  induction ps generalizing s with
  | nil => exact fun _ _ _ => Option.some_ne_none _
  | cons p rest ih =>
      obtain ⟨first, others⟩ := List.forall_mem_cons.1 all
      refine Program.Lives.bind first fun outcome => ?_
      cases outcome with
      | ok y => exact ih others _
      | error failure => exact ih others _

end Submission

/-- The flow may run, and owns the load balancer that it is for. -/
def Tables.Held (t : Tables) (id : Int64) : Prop :=
  ∃ f balancer l, t.flows.get? id = some f ∧ f.state = .pending ∧ f.balancer? = some balancer ∧
    t.locks.get? { id := balancer, kind := .loadBalancer } = some l ∧ l.flow = id

theorem Call.Steady.held {faults : Faults} {c : Call} {s s' : Contents}
    {outcome : Except Failure c.Answer} (steady : c.Steady) (h : c.Answered faults s outcome s')
    (numbered : s.tables.Numbered) {id : Int64} (held : s.tables.Held id) :
    s'.tables.Held id := by
  obtain ⟨f, balancer, l, stored, pending, on, locked, own⟩ := held
  have flow : ∃ f', s'.tables.flows.get? id = some f' ∧ f'.state = .pending ∧
      f'.balancer? = some balancer := by
    rcases h.change with same | ⟨call, t, rfl, change, rfl⟩
    · exact ⟨f, same ▸ stored, pending, on⟩
    · cases change with
      | @flow new state hidden =>
          have kept : (s.tables.withFlow new state).flows.get? id = _ :=
            Tables.get?_withFlow_of_mem numbered (Keyed.mem_keys_of_get? stored)
          exact ⟨f, kept.trans stored, pending, on⟩
      | move moved expected target =>
          obtain ⟨rfl, rfl⟩ := steady
          simp only [Table.get?_update_eq, stored]
          by_cases same : moved = id
          · exact ⟨_, if_pos same, rfl, on⟩
          · exact ⟨f, if_neg same, pending, on⟩
      | _ => exact ⟨f, stored, pending, on⟩
  obtain ⟨f', stored', pending', on'⟩ := flow
  exact ⟨f', balancer, l, stored', pending', on', steady.get?_locks h locked, own⟩

namespace Construction

theorem Underway.held {u : Undertaking} {tasks : List FlowTask} {past : List Step} {s : Contents}
    (h : Underway u (.active tasks) past s)
    (balancer : u.scope.resource.kind = .loadBalancer) : s.tables.Held u.flow := by
  obtain ⟨l, locked, own⟩ := Stage.exists_lock h.proper none
  have stored := Stage.get?_active_flow (u := u) tasks none
  have key : u.scope.resource = { id := u.scope.resource.id, kind := .loadBalancer } := by
    rw [← balancer]
  rw [key, ← h.tables] at locked
  rw [← h.tables] at stored
  exact ⟨_, _, l, stored, rfl, FlowDraft.shareData_balancer (u.draft tasks), locked, own⟩

/-- A construction for a load balancer that succeeds leaves the flow in possession. -/
theorem yields_held {faults : Faults} (settings : Settings) {scope : FlowScope}
    (balancer : scope.resource.kind = .loadBalancer) (job : Job) (s : Contents) :
    Work.Yields faults (fun built s' => s'.tables.Held built.flow) (buildJob settings scope job)
      s := by
  apply Work.yields_check
  intro plan planned numbered
  have ends := ensures_build (u := { scope, plan, faults, before := s.tables }) (s := s)
    settings.retry (Job.plan_complete planned) rfl
  refine Program.yields_of_ensures ends ?_ numbered
  rintro past r s' ⟨-, ended⟩ built rfl
  obtain ⟨tasks, -, underway, rfl⟩ := ended
  exact underway.held balancer

end Construction

namespace Submission

variable {faults : Faults} {settings : Settings} {r : BatchRequest}

theorem yields_held_pieces (settings : Settings) (r : BatchRequest) (work : Routed)
    (batch : Int64) (s : Contents) : ∀ p ∈ pieces settings r work batch,
      Work.Yields faults (fun y s' => ∀ id ∈ y.flows, s'.tables.Held id) p.work s := by
  intro p mem
  rcases List.mem_append.1 mem with mem | mem
  · obtain ⟨job, -, rfl⟩ := List.mem_map.1 mem
    apply Work.Yields.map
    apply (Program.yields_any faults _ s).mono
    intro _ s' _ ids _
    exact List.forall_mem_nil _
  · obtain ⟨entry, -, rfl⟩ := List.mem_map.1 mem
    apply Work.Yields.map
    apply (Construction.yields_held settings rfl entry.2 s).mono
    intro outcome s' held built ok
    exact List.forall_mem_singleton.2 (held built ok)

/-- Pieces of work leave all flows that they have built in possession. -/
theorem yields_held_workAll (faults : Faults) {ps : List Piece}
    (steady : ∀ p ∈ ps, Program.Makes Call.Steady p.work)
    (builds : ∀ s, ∀ p ∈ ps,
      Work.Yields faults (fun y s' => ∀ id ∈ y.flows, s'.tables.Held id) p.work s)
    (sub : Submission) {s : Contents} (before : ∀ id ∈ sub.flows, s.tables.Held id) :
    (workAll sub ps).Yields faults (fun sub' s' => ∀ id ∈ sub'.flows, s'.tables.Held id) s := by
  induction ps generalizing sub s with
  | nil => exact Program.yields_done before
  | cons p rest ih =>
      obtain ⟨steady_p, steady_rest⟩ := List.forall_mem_cons.1 steady
      have others : ∀ s, ∀ p ∈ rest,
          Work.Yields faults (fun y s' => ∀ id ∈ y.flows, s'.tables.Held id) p.work s :=
        fun s p mem => builds s p (List.mem_cons_of_mem _ mem)
      have worked : Program.Yields faults (fun outcome s' =>
          (∀ id ∈ sub.flows, s'.tables.Held id) ∧
            ∀ y, outcome = .ok y → ∀ id ∈ y.flows, s'.tables.Held id) p.work s := by
        intro numbered past
        have kept : Program.Ensures faults (fun _ _ s' => s'.tables.Numbered ∧
            ∀ id ∈ sub.flows, s'.tables.Held id) p.work past s :=
          steady_p.ensures
            (I := fun _ s' => s'.tables.Numbered ∧ ∀ id ∈ sub.flows, s'.tables.Held id)
            (fun steady ⟨numbered, held⟩ answered numbered' =>
              ⟨numbered', fun id mem => steady.held answered numbered (held id mem)⟩)
            ⟨numbered, before⟩
        apply (kept.and (builds s p List.mem_cons_self numbered past)).mono
        rintro past outcome s' ⟨⟨numbered', held⟩, -, built⟩
        exact ⟨numbered', fun outcome some => ⟨held, built outcome some⟩⟩
      refine Program.Yields.bind worked ?_
      rintro outcome s' ⟨held, built⟩
      cases outcome with
      | error failure => exact ih steady_rest others (sub.fail _) held
      | ok y =>
          refine ih steady_rest others (sub.absorb y) ?_
          exact List.forall_mem_append.2 ⟨held, built y rfl⟩

end Submission

section Deadline

variable {deadline : Option Nat} {settings : Settings} {r : BatchRequest} {w w' : World}
  {ms : List Moment} {result : Option (Except Failure Submission)}

namespace Submission

/-- A request has got as far as attaching its flows, which is its last call: its batch is there, and
the flows that were made pending are in possession. -/
structure Closes (settings : Settings) (r : BatchRequest) (start : Tables) (before : List Moment)
    (last : Moment) (sub : Submission) (result : Option (Except Failure Submission))
    (w' : World) : Prop where
  call : ∃ outcome, last.toStep = ⟨.store (.attachFlows start.batches.nextId sub.flows), outcome,
    last.before, last.after⟩ ∧ result = some (outcome.map fun _ => sub)
  guard : last.guard = .timed "attach_flows"
  left : w'.contents = last.after
  ended : w'.now = last.finish
  batches : last.before.tables.batches = withBatch settings r [] start.batches
  flows : activations (before.map Moment.toStep) = sub.flows
  held : ∀ id ∈ sub.flows, last.before.tables.Held id

theorem takes_attach {batch : Int64} {sub : Submission}
    (took : Program.Takes deadline (attach batch sub) w ms result w') :
    ∃ last outcome, ms = [last] ∧ last.toStep = ⟨.store (.attachFlows batch sub.flows), outcome,
        w.contents, w'.contents⟩ ∧ result = some (outcome.map fun _ => sub) ∧
      last.guard = .timed "attach_flows" ∧ w'.now = last.finish := by
  have asked : ∀ {r' : Option (Except Failure Unit)} {w₁ : World} {ms' : List Moment},
      Program.Takes deadline
        (Work.askStore (.timed "attach_flows") (.attachFlows batch sub.flows)) w ms' r' w₁ →
      ∃ last outcome, ms' = [last] ∧ last.toStep = ⟨.store (.attachFlows batch sub.flows), outcome,
          w.contents, w₁.contents⟩ ∧ r' = some outcome ∧
        last.guard = .timed "attach_flows" ∧ w₁.now = last.finish := by
    intro r' w₁ ms' took
    obtain ⟨delays, rfl, rfl, rfl⟩ := Work.takes_ask took
    exact ⟨_, _, rfl, rfl, rfl, rfl, rfl⟩
  rcases Work.takes_bind took with ⟨rfl, ended⟩ | ⟨failure, rfl, ended⟩ |
    ⟨first, rest, _, w₁, rfl, ended, next⟩
  · obtain ⟨last, outcome, -, -, none, -⟩ := asked ended
    cases none
  · obtain ⟨last, outcome, rfl, step, same, guard, now⟩ := asked ended
    cases same
    exact ⟨last, _, rfl, step, rfl, guard, now⟩
  · obtain ⟨last, outcome, rfl, step, same, guard, now⟩ := asked ended
    cases same
    cases next with
    | report rest =>
        cases rest
        exact ⟨last, _, rfl, step, rfl, guard, now⟩

/-- The pieces of work of a batch come to an end, whatever fails, and leave the flows that they made
pending in possession. -/
theorem takes_pieces {batch : Int64} {work : Routed} {past : List Step}
    (took : Program.Takes deadline
      (liftM (workAll { batch } (pieces settings r work batch)) : Work Submission) w ms result w')
    (numbered : w.store.tables.Numbered) (fits : w'.store.tables.Fits)
    (idle : activations past = []) :
    ∃ sub, result = some (.ok sub) ∧ w'.store.tables.batches = w.store.tables.batches ∧
      activations (past ++ ms.map Moment.toStep) = sub.flows ∧
      ∀ id ∈ sub.flows, w'.store.tables.Held id := by
  have ps := asks_pieces settings r work batch
  have lives := lives_workAll (lives_pieces w.store.faults settings r work batch)
    { batch } [] w.contents numbered
  have held := yields_held_workAll w.store.faults
    (fun p mem => (ps p mem).makes.mono fun _ => Call.Inner.steady)
    (fun s => yields_held_pieces settings r work batch s) { batch } (s := w.contents)
    (List.forall_mem_nil _) numbered []
  obtain ⟨same, named⟩ := (ensures_pieces settings r work batch idle numbered).takes took numbered
    fits
  obtain ⟨ended, ran, rfl⟩ := Work.takes_lift took
  have alive : ended ≠ none := lives.takes ran numbered fits
  obtain ⟨sub, rfl⟩ := Option.ne_none_iff_exists'.1 alive
  obtain ⟨_, ok, -, flows⟩ := named _ rfl
  cases ok
  exact ⟨sub, rfl, same, flows, (held.takes ran numbered fits).2 sub rfl⟩

/-- A request that leaves more than there was, or is processed, has closed with its last call. -/
theorem takes_process (numbered : w.store.tables.Numbered)
    (took : Program.Takes deadline (process settings r) w ms result w')
    (fits : w'.store.tables.Fits) :
    w'.contents = w.contents ∧ (∀ s, result ≠ some (.ok s)) ∨
      ∃ before last sub, ms = before ++ [last] ∧
        Closes settings r w.store.tables before last sub result w' := by
  rw [process_eq] at took
  obtain ⟨events, took⟩ := took.of_within
  have stopped_early : ∀ {r'}, Program.Takes deadline (prepare settings r) w ms r'
      { w' with events } → (∀ ready, r' ≠ some (.ok ready)) → w'.contents = w.contents := by
    intro r' stopped failed
    have ended := (ensures_prepare settings r w.contents).takes stopped numbered fits
    match r' with
    | none => exact ended
    | some (.error failure) => exact ended
    | some (.ok ready) => exact absurd rfl (failed ready)
  rcases Work.takes_bind took with ⟨rfl, stopped⟩ | ⟨failure, rfl, stopped⟩ |
    ⟨first, rest, ⟨work, batch⟩, w₁, rfl, prepared, carried⟩
  · exact .inl ⟨stopped_early stopped (by simp), by simp⟩
  · exact .inl ⟨stopped_early stopped (by simp), by simp⟩
  have fits₁ : w₁.store.tables.Fits := fits.of_later carried.later
  obtain ⟨numbered₁, id, idle, created⟩ :=
    ((ensures_prepare settings r w.contents).and_numbered numbered).takes prepared numbered fits₁
  have id : batch = w.store.tables.batches.nextId := id
  subst id
  rcases Work.takes_bind carried with ⟨rfl, stopped⟩ | ⟨failure, rfl, stopped⟩ |
    ⟨mid, _, sub, w₂, rfl, worked, attached⟩
  · obtain ⟨_, ended, -⟩ := takes_pieces stopped numbered₁ fits idle
    cases ended
  · obtain ⟨_, ended, -⟩ := takes_pieces stopped numbered₁ fits idle
    cases ended
  obtain ⟨_, ended, batches, flows, held⟩ :=
    takes_pieces worked numbered₁ (fits.of_later attached.later) idle
  cases ended
  obtain ⟨last, outcome, rfl, step, rfl, guard, now⟩ := takes_attach attached
  have before : last.before = w₂.contents := congrArg Step.before step
  have after : last.after = w'.contents := congrArg Step.after step
  refine .inr ⟨first ++ mid, last, sub, by simp, ⟨outcome, ?_, rfl⟩, guard, after.symm, now, ?_,
    ?_, ?_⟩
  · rw [before, after]
    exact step
  · rw [before]
    exact batches.trans created
  · rw [List.map_append]
    exact flows
  · rw [before]
    exact held

section Limits

variable {limit : Nat} {before : List Moment} {last : Moment} {sub : Submission}

/-- If the last call was too late, the request has failed with it and the batch stays without
flows. -/
theorem Closes.of_isLate (h : Closes settings r w.store.tables before last sub result w')
    (obeys : last.Obeys (some limit)) (late : last.IsLate limit) :
    result = some (.error (.expired "attach_flows")) ∧ w'.contents = last.before := by
  obtain ⟨outcome, step, rfl⟩ := h.call
  have admitted := Deadline.admission_timed_late "attach_flows" late
  rw [← h.guard] at admitted
  cases obeys with
  | completed completes =>
      rw [admitted] at completes
      cases completes
  | cut cut expired same =>
      rw [admitted, Admission.cut.injEq] at cut
      rw [← cut.2] at expired
      rw [Moment.error_of_toStep step expired]
      exact ⟨rfl, h.left.trans same⟩

/-- If the request was processed, the last call was in time, and so were all others. -/
theorem Closes.in_time {s : Submission}
    (h : Closes settings r w.store.tables before last sub (some (.ok s)) w')
    (obeys : ∀ m ∈ before ++ [last], m.Obeys (some limit))
    (inOrder : Moment.InOrder w.now (before ++ [last]) w'.now) :
    w'.now ≤ limit ∧ ∀ m ∈ before ++ [last], ¬ m.IsCut (some limit) := by
  obtain ⟨outcome, step, value⟩ := h.call
  cases obeys last (by simp) with
  | cut _ expired =>
      rw [Moment.error_of_toStep step expired] at value
      cases value
  | completed completes =>
      have uncut := Moment.not_isCut completes
      rw [h.guard] at completes
      obtain ⟨begun, -, in_time⟩ := Deadline.of_admission_timed_completes completes
      refine ⟨h.ended.trans_le in_time,
        List.forall_mem_append.2 ⟨fun m mem cut => ?_, by simpa using uncut⟩⟩
      -- What was cut off before would have left the clock at the deadline.
      have late := (obeys m (List.mem_append_left _ mem)).le_finish_of_isCut cut
      have next := inOrder.finish_le_start m mem
      omega

end Limits

/-- A request that is processed under a deadline ends by it, none of its calls was cut off, and it
would have been processed so without a deadline. If its batch was created, attaching the flows is
its last call; when this is too late, the request fails with it, the batch stays without flows, and
the flows that were made pending may run and own their load balancers. Everything that is changed
is changed by the deadline, but for creations of details that began before it and the patches of
unwindings. -/
theorem deadline_kept {limit : Nat} (reachable : w.store.tables.Reachable)
    (took : Program.Takes (some limit) (process settings r) w ms result w')
    (fits : w'.store.tables.Fits) :
    (∀ s, result = some (.ok s) → w'.now ≤ limit ∧ (∀ m ∈ ms, ¬ m.IsCut (some limit)) ∧
      Program.Takes none (process settings r) w ms result w') ∧
    (∀ batch, w.store.tables.batches.get? batch = none →
      w'.store.tables.batches.get? batch ≠ none →
      ∃ before last flows, ms = before ++ [last] ∧
        last.call = .store (.attachFlows batch flows) ∧ (last.IsLate limit →
          result = some (.error (.aborted "deadline exceeded during attach_flows")) ∧
          w'.store.tables.batches.get? batch = some (batchWith settings r [] batch) ∧
          ∀ id ∈ activations (ms.map Moment.toStep), w'.store.tables.Held id)) ∧
    ∀ m ∈ ms, m.after ≠ m.before → m.finish ≤ limit ∨
      (∃ news, m.call = .store (.createDetails news)) ∧ m.start < limit ∨
      ∃ patches, m.call = .store (.updateDetails patches) ∧ ∀ p ∈ patches, p.Fails := by
  have numbered := reachable.numbered (fits.of_later took.later)
  have ended := takes_process numbered took fits
  have suits := took.suits (asks_process settings r)
  refine ⟨?_, fun batch new there => ?_, fun m mem => (took.obeys m mem).on_time (suits m mem).1⟩
  · rintro s rfl
    rcases ended with ⟨-, failed⟩ | ⟨before, last, sub, rfl, closes⟩
    · exact absurd rfl (failed s)
    · obtain ⟨on_time, uncut⟩ := closes.in_time took.obeys took.inOrder
      exact ⟨on_time, uncut, took.unhurried uncut⟩
  · rcases ended with ⟨same, -⟩ | ⟨before, last, sub, rfl, closes⟩
    · exact absurd ((congrArg (fun s => s.tables.batches.get? batch) same).trans new) there
    obtain ⟨outcome, step, -⟩ := closes.call
    have recorded := (ensures_process settings r numbered).takes took numbered fits
    have id : w.store.tables.batches.nextId = batch := by
      rcases recorded.batches with same | ⟨flows, created⟩
      · exact absurd ((congrArg (fun batches => batches.get? batch) same).trans new) there
      · have created : w'.store.tables.batches = _ := created
        rw [created, withBatch, Table.get?_add] at there
        by_contra other
        exact there ((if_neg other).trans new)
    refine ⟨before, last, sub.flows, rfl, id ▸ congrArg Step.call step, fun late => ?_⟩
    obtain ⟨failed, left⟩ := closes.of_isLate (took.obeys last (by simp)) late
    have tables : w'.store.tables = last.before.tables := congrArg Contents.tables left
    refine ⟨failed, ?_, ?_⟩
    · rw [tables, closes.batches, ← id]
      exact get?_withBatch settings r [] _
    · have flows : activations ((before ++ [last]).map Moment.toStep) = sub.flows := by
        rw [List.map_append, List.map_singleton, activations_concat, closes.flows, step]
        exact List.append_nil _
      rw [flows, tables]
      exact closes.held

/-- A listener is to be deleted where attaching flows takes ten milliseconds. -/
def slowAttachment : World :=
  (World.insert {} oneListener).setDelay "attach_flows" 10

theorem deadline_kept_slowAttachment :
    ∃ w', Program.run (some 5) (process {} oneDeletion) slowAttachment =
        (some (.error (.aborted "deadline exceeded during attach_flows")), w') ∧
      w'.store.tables.batches.get? 1 = some (batchWith {} oneDeletion [] 1) ∧
      w'.store.tables.Held 1 := by
  have fits : (Program.run (some 5) (process {} oneDeletion)
      slowAttachment).2.store.tables.Fits := by
    decide +kernel
  have created : (Program.run (some 5) (process {} oneDeletion)
      slowAttachment).2.store.tables.batches.get? 1 ≠ none := by
    decide +kernel
  have moments : ((process {} oneDeletion).run.timeline (some 5) slowAttachment).getLast?.map
      (fun m => (m.start, m.span)) = some (0, 10) := by
    decide +kernel
  have made : activations (((process {} oneDeletion).run.timeline (some 5) slowAttachment).map
      Moment.toStep) = [1] := by
    decide +kernel
  obtain ⟨-, created_late, -⟩ := deadline_kept .empty
    (Program.takes_run (some 5) (process {} oneDeletion).run slowAttachment) fits
  obtain ⟨before, last, flows, whole, -, too_late⟩ := created_late 1 rfl created
  have times : (last.start, last.span) = (0, 10) := by
    have whole : (process {} oneDeletion).run.timeline (some 5) slowAttachment = _ := whole
    rw [whole] at moments
    simpa using moments
  have late : last.IsLate 5 := by
    rw [Prod.mk.injEq] at times
    exact .inr (by omega)
  obtain ⟨failed, row, held⟩ := too_late late
  exact ⟨_, Prod.ext failed rfl, row, held 1 (by rw [made]; simp)⟩

end Submission

end Deadline

end BalancerFlows
