import BalancerFlows.Proofs.Accounting
import BalancerFlows.Proofs.Activation
import BalancerFlows.Proofs.Recording

/-!
# What a request leaves of its batch

A request that fails has written nothing, or all that failed was to attach its flows, and then its
batch is there without flows. A request that is processed has a batch with just the flows that it
made pending, in this order. Main statement: `Submission.batch_records_activations`.
-/
namespace BalancerFlows

namespace Submission

variable {faults : Faults} {settings : Settings} {r : BatchRequest}

def batchWith (settings : Settings) (r : BatchRequest) (flows : List Int64) (batch : Int64) :
    Batch :=
  { (newBatch settings r).store batch with flows }

def withBatch (settings : Settings) (r : BatchRequest) (flows : List Int64)
    (batches : Table Batch) : Table Batch :=
  (batches.add (batchWith settings r flows)).2

theorem get?_withBatch (settings : Settings) (r : BatchRequest) (flows : List Int64)
    (batches : Table Batch) : (withBatch settings r flows batches).get? batches.nextId =
      some (batchWith settings r flows batches.nextId) :=
  Keyed.get?_put ..

theorem yields_batch_workAll (ps : List Piece) (sub : Submission) (s : Contents) :
    (workAll sub ps).Yields faults (fun sub' _ => sub'.batch = sub.batch) s := by
  induction ps generalizing sub s with
  | nil => exact Program.yields_done rfl
  | cons p rest ih =>
      apply (Program.yields_any faults p.work s).bind
      intro outcome s' _
      cases outcome with
      | ok y => exact ih (sub.absorb y) s'
      | error failure => exact ih (sub.fail { resource := p.resource, failure }) s'

/-- What comes before the work on a batch leads to: nothing, or an empty batch. -/
def Prepared (settings : Settings) (r : BatchRequest) (s : Contents) :
    List Step → Option (Except Failure (Routed × Int64)) → Contents → Prop
  | past, some (.ok ready), s' => ready.2 = s.tables.batches.nextId ∧ activations past = [] ∧
      s'.tables.batches = withBatch settings r [] s.tables.batches
  | _, _, s' => s' = s

theorem ensures_route (r : BatchRequest) (s : Contents) :
    Program.Ensures faults (fun past _ s' => s' = s ∧ activations past = []) (Routing.route r)
      [] s := by
  apply (Routing.asks_route r).makes.ensures (I := fun past s' => s' = s ∧ activations past = [])
  · intro past s' c outcome s'' reads same answered _
    refine ⟨(reads.contents_eq answered).trans same.1, ?_⟩
    cases c with
    | store c => exact reads.elim
    | catalog c => exact (activations_concat past _).trans ((List.append_nil _).trans same.2)
  · exact ⟨rfl, rfl⟩

theorem ensures_prepare (settings : Settings) (r : BatchRequest) (s : Contents) :
    Program.Ensures faults (Prepared settings r s) (prepare settings r) [] s := by
  apply Work.ensures_check
  · intro failure _
    exact rfl
  intro _ _
  apply Work.ensures_bind (ensures_route r s)
  · intro past s' routed
    exact routed.1
  · intro past failure s' routed
    exact routed.1
  rintro past work s' ⟨rfl, none⟩ outcome s'' answered numbered'
  have plain : (StoreCall.createBatch (newBatch settings r)).Plain := trivial
  rcases answered.plain_cases plain with ⟨failure, -, rfl, rfl⟩ | ⟨rfl, rfl⟩
  · exact rfl
  · exact ⟨rfl, (activations_concat past _).trans ((List.append_nil _).trans none), rfl⟩

/-- What attaching the flows leads to. -/
def Attached (batch : Int64) (sub : Submission) (before : List Step) (s : Contents) :
    List Step → Option (Except Failure Submission) → Contents → Prop
  | _, none, _ => False
  | past, some (.error failure), s' => s'.tables.batches = s.tables.batches ∧
      past = before ++ [⟨.store (.attachFlows batch sub.flows), .error failure, s, s'⟩]
  | past, some (.ok sub'), s' => sub' = sub ∧ activations past = activations before ∧
      s'.tables.batches = s.tables.batches.update batch fun b => { b with flows := sub.flows }

theorem ensures_attach (batch : Int64) (sub : Submission) (past : List Step) (s : Contents) :
    Program.Ensures faults (Attached batch sub past s) (attach batch sub) past s := by
  intro outcome s' answered numbered'
  cases answered with
  | store catalog answered =>
      cases answered with
      | refused => exact ⟨rfl, rfl⟩
      | done =>
          simp only [Tables.carryOut, Tables.attachFlows]
          split
          · exact ⟨rfl, rfl⟩
          · exact ⟨rfl, (activations_concat past _).trans (List.append_nil _), rfl⟩

/-- The pieces of work leave the batches alone, and yield the flows that they make pending. -/
def Worked (before : Contents) (batch : Int64) (past : List Step)
    (result : Option (Except Failure Submission)) (s : Contents) : Prop :=
  s.tables.batches = before.tables.batches ∧ ∀ outcome, result = some outcome →
    ∃ sub : Submission, outcome = .ok sub ∧ sub.batch = batch ∧ activations past = sub.flows

theorem ensures_pieces (settings : Settings) (r : BatchRequest) (work : Routed) (batch : Int64)
    {past : List Step} (none : activations past = []) {s : Contents}
    (numbered : s.tables.Numbered) :
    Program.Ensures faults (Worked s batch)
      (liftM (workAll { batch } (pieces settings r work batch)) : Work Submission) past s := by
  have ps := asks_pieces settings r work batch
  have batches : (workAll { batch } (pieces settings r work batch)).Ensures faults
      (fun _ _ s' => s'.tables.batches = s.tables.batches) past s :=
    (asks_workAll ps { batch }).makes.ensures
      (I := fun _ s' => s'.tables.batches = s.tables.batches)
      (fun inner same answered _ => (inner.batches_eq answered).trans same) rfl
  have activated : (workAll { batch } (pieces settings r work batch)).Activates faults []
      Submission.flows := activates_workAll (activates_pieces settings r work batch) { batch }
  have named : (workAll { batch } (pieces settings r work batch)).Yields faults
      (fun sub _ => sub.batch = batch) s := yields_batch_workAll _ { batch } s
  apply Work.ensures_lift
  apply (batches.and ((activated past s none).and (named numbered past))).mono
  intro past result s' h
  obtain ⟨same, activated, -, named⟩ := h
  refine ⟨same, fun outcome returned => ?_⟩
  obtain ⟨sub, value, rfl⟩ := Option.map_eq_some_iff.1 returned
  exact ⟨sub, rfl, named sub value, activated sub value⟩

/-- What a request leads to that is processed from some contents. -/
def Recorded (settings : Settings) (r : BatchRequest) (s : Contents) :
    List Step → Option (Except Failure Submission) → Contents → Prop
  | _, none, s' => s'.tables.batches = s.tables.batches ∨
      s'.tables.batches = withBatch settings r [] s.tables.batches
  | past, some (.error failure), s' => s' = s ∨
      s'.tables.batches = withBatch settings r [] s.tables.batches ∧ ∃ before flows s₁, past =
        before ++ [⟨.store (.attachFlows s.tables.batches.nextId flows), .error failure, s₁, s'⟩]
  | past, some (.ok sub), s' => sub.batch = s.tables.batches.nextId ∧
      sub.flows = activations past ∧
      s'.tables.batches = withBatch settings r sub.flows s.tables.batches

theorem ensures_process (settings : Settings) (r : BatchRequest) {s : Contents}
    (numbered : s.tables.Numbered) :
    Program.Ensures faults (Recorded settings r s) (process settings r) [] s := by
  rw [process_eq]
  apply Program.ensures_within.2
  apply Work.ensures_bind ((ensures_prepare settings r s).and_numbered numbered)
  · rintro past s' ⟨-, same⟩
    exact .inl (congrArg (fun s : Contents => s.tables.batches) same)
  · rintro past failure s' ⟨-, same⟩
    exact .inl same
  rintro past ⟨work, batch⟩ s₁ ⟨numbered₁, id, none, created⟩
  apply Work.ensures_bind (ensures_pieces settings r work batch none numbered₁)
  · rintro past s₂ ⟨same, -⟩
    exact .inr (same.trans created)
  · rintro past failure s₂ ⟨-, returned⟩
    obtain ⟨sub, ok, -⟩ := returned _ rfl
    cases ok
  rintro past sub s₂ ⟨same, returned⟩
  obtain ⟨_, ok, named, activated⟩ := returned _ rfl
  cases ok
  apply (ensures_attach batch sub past s₂).mono
  intro past' result s' attached
  have id : batch = s.tables.batches.nextId := id
  subst id
  match result with
  | some (.error failure) =>
      obtain ⟨kept, steps⟩ := attached
      exact .inr ⟨kept.trans (same.trans created), past, sub.flows, s₂, steps⟩
  | some (.ok sub') =>
      obtain ⟨rfl, steps, updated⟩ := attached
      refine ⟨named, (steps.trans activated).symm, ?_⟩
      rw [updated, same, created]
      exact Table.update_add ..

theorem Recorded.batches {s s' : Contents} {past : List Step}
    {result : Option (Except Failure Submission)} (h : Recorded settings r s past result s') :
    s'.tables.batches = s.tables.batches ∨
      ∃ flows, s'.tables.batches = withBatch settings r flows s.tables.batches := by
  match result with
  | none => exact h.imp_right fun created => ⟨_, created⟩
  | some (.error failure) =>
      rcases h with same | ⟨created, -⟩
      · exact .inl (congrArg (fun s : Contents => s.tables.batches) same)
      · exact .inr ⟨_, created⟩
  | some (.ok sub) => exact .inr ⟨_, h.2.2⟩

/-- Before the pieces of work the inventory is read, and then the batch created. -/
theorem asks_prepare {P : Call → Prop} (reads : ∀ c, Call.Reads c → P c)
    (creates : ∀ new, P (.store (.createBatch new))) (settings : Settings) (r : BatchRequest) :
    Program.Asks (Call.Suited P) (prepare settings r) :=
  Work.asks_check fun _ => Work.asks_bind ((Routing.asks_route r).kind reads) fun _ =>
    Work.asks_bind (Work.asks_timed (creates _)) fun _ => trivial

theorem asks_attach {P : Call → Prop} {batch : Int64} {sub : Submission}
    (attaches : P (.store (.attachFlows batch sub.flows))) :
    Program.Asks (Call.Suited P) (attach batch sub) :=
  Work.asks_bind (Work.asks_timed attaches) fun _ => trivial

/-- A request releases nothing, and only makes flows pending. -/
theorem asks_process (settings : Settings) (r : BatchRequest) :
    Program.Asks (Call.Suited Call.Steady) (process settings r) := by
  rw [process_eq]
  apply Program.asks_within.2
  refine Work.asks_bind (asks_prepare (fun _ => Call.Reads.steady) (fun _ => trivial) settings r)
    fun ready => Work.asks_bind (Work.asks_lift ?_) fun _ => asks_attach trivial
  exact (asks_workAll (asks_pieces settings r _ _) _).kind fun _ => Call.Inner.steady

/-- A request that fails has left everything as it was, or attaching the flows is what failed, and
the new batch has none. A request that is processed has a new batch with the flows that its calls
made pending, in this order, and these are the flows that may run now and could not before. -/
theorem batch_records_activations {deadline : Option Nat} {settings : Settings} {r : BatchRequest}
    {w w' : World} {result : Except Failure Submission} (reachable : w.store.tables.Reachable)
    (returned : Program.run deadline (process settings r) w = (some result, w'))
    (fits : w'.store.tables.Fits) :
    (∀ failure, result = .error failure → w'.contents = w.contents ∨ ∃ batch before flows s,
      Program.steps deadline (process settings r) w =
          before ++ [⟨.store (.attachFlows batch flows), .error failure, s, w'.contents⟩] ∧
        w.store.tables.batches.get? batch = none ∧
        w'.store.tables.batches.get? batch = some (batchWith settings r [] batch)) ∧
    ∀ s, result = .ok s →
      w.store.tables.batches.get? s.batch = none ∧
      w'.store.tables.batches.get? s.batch = some (batchWith settings r s.flows s.batch) ∧
      s.flows = activations (Program.steps deadline (process settings r) w) ∧
      s.flows.Nodup ∧
      ∀ id, id ∈ s.flows ↔ w'.store.tables.MayRun id ∧ ¬ w.store.tables.MayRun id := by
  have numbered := reachable.numbered (Program.fits_of_run returned fits)
  have new : w.store.tables.batches.get? w.store.tables.batches.nextId = none :=
    (Keyed.get?_eq_none_iff _ _).2 numbered.batches.nextId_notMem
  have ensured := ((ensures_process settings r numbered).and
    ((asks_process settings r).makes.woken numbered)).run deadline numbered (by rwa [returned])
  rw [returned] at ensured
  obtain ⟨recorded, woken⟩ := ensured
  constructor
  · rintro failure rfl
    rcases recorded with same | ⟨batches, before, flows, s, steps⟩
    · exact .inl same
    · have batches : w'.store.tables.batches = withBatch settings r [] w.store.tables.batches :=
        batches
      exact .inr ⟨_, before, flows, s, steps, new, batches ▸ get?_withBatch settings r [] _⟩
  · rintro s rfl
    obtain ⟨batch, flows, batches⟩ := recorded
    have batch : s.batch = w.store.tables.batches.nextId := batch
    have batches : w'.store.tables.batches = withBatch settings r s.flows w.store.tables.batches :=
      batches
    have row : w'.store.tables.batches.get? s.batch =
        some (batchWith settings r s.flows s.batch) := by
      rw [batches, batch]
      exact get?_withBatch settings r s.flows _
    refine ⟨batch ▸ new, row, flows, flows ▸ woken.nodup, fun id => ?_⟩
    rw [flows]
    constructor
    · intro mem
      exact ⟨(woken.iff id).2 (.inr mem), woken.new id mem⟩
    · rintro ⟨now, before⟩
      exact ((woken.iff id).1 now).resolve_left before

/-- A listener is to be deleted where flows cannot be attached. -/
def unattachable : World :=
  (World.insert {} oneListener).setFaults fun f => f.refuse .attachFlows "storage down"

theorem batch_records_activations_unattachable :
    ∃ w', Program.run none (process {} oneDeletion) unattachable =
        (some (.error (.aborted "storage down")), w') ∧ w'.store.tables.MayRun 1 ∧
      ∃ batch before flows s, Program.steps none (process {} oneDeletion) unattachable =
          before ++ [⟨.store (.attachFlows batch flows), .error (.aborted "storage down"), s,
            w'.contents⟩] ∧
        w'.store.tables.batches.get? batch = some (batchWith {} oneDeletion [] batch) := by
  have failed : (Program.run none (process {} oneDeletion) unattachable).1 =
      some (.error (.aborted "storage down")) := by
    decide +kernel
  have fits : (Program.run none (process {} oneDeletion) unattachable).2.store.tables.Fits := by
    decide +kernel
  have built : ((Program.run none (process {} oneDeletion)
      unattachable).2.store.tables.flows.get? 1).map Flow.state = some .pending := by
    decide +kernel
  obtain ⟨f, found, pending⟩ := Option.map_eq_some_iff.1 built
  refine ⟨_, Prod.ext failed rfl, ⟨f, found, pending⟩, ?_⟩
  rcases (batch_records_activations .empty (Prod.ext failed rfl) fits).1 _ rfl with
    same | ⟨batch, before, flows, s, steps, -, row⟩
  · have nothing : (Program.run none (process {} oneDeletion) unattachable).2.store.tables = {} :=
      congrArg Contents.tables same
    rw [nothing] at found
    cases found
  · exact ⟨batch, before, flows, s, steps, row⟩

end Submission

end BalancerFlows
