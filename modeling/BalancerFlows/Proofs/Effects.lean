import BalancerFlows.Proofs.Rows
import BalancerFlows.World

/-!
# What a call may do

A call to the store can be refused, cut off by a deadline, answered from a stale read, or followed
by the cancellation of the flow it created. `StoreCall.Effect` collects these possibilities as a
relation between the tables before, the answer, and the tables after, so that arguments about
programs need not look at faults, counters or clocks. Main statements: every call of a world is one
of these effects, and tables that no call has pushed past the last id are numbered.
-/
namespace BalancerFlows

namespace Tables

/-- The rows of each kind are numbered, and a lock stands under the resource it locks. -/
structure Numbered (t : Tables) : Prop where
  batches : t.batches.Numbered Batch.id
  details : t.details.Numbered Detail.id
  flows : t.flows.Numbered Flow.id
  locks : ∀ k l, t.locks.get? k = some l → l.resource = k

/-- Fewer than `2 ^ 63` rows of each kind were created, so no 64-bit id has come twice. -/
structure Fits (t : Tables) : Prop where
  batches : t.batches.created < 2 ^ 63
  details : t.details.created < 2 ^ 63
  flows : t.flows.created < 2 ^ 63

instance (t : Tables) : Decidable t.Fits :=
  decidable_of_iff
    (t.batches.created < 2 ^ 63 ∧ t.details.created < 2 ^ 63 ∧ t.flows.created < 2 ^ 63)
    ⟨fun ⟨batches, details, flows⟩ => ⟨batches, details, flows⟩,
      fun ⟨batches, details, flows⟩ => ⟨batches, details, flows⟩⟩

/-- At least as many rows of each kind were created. -/
structure Later (t t' : Tables) : Prop where
  batches : t.batches.created ≤ t'.batches.created
  details : t.details.created ≤ t'.details.created
  flows : t.flows.created ≤ t'.flows.created

theorem Numbered.toFits {t : Tables} (h : t.Numbered) : t.Fits :=
  ⟨h.batches.fits, h.details.fits, h.flows.fits⟩

@[refl] theorem Later.refl (t : Tables) : t.Later t :=
  ⟨le_rfl, le_rfl, le_rfl⟩

theorem Later.trans {t u v : Tables} (h : t.Later u) (k : u.Later v) : t.Later v :=
  ⟨h.batches.trans k.batches, h.details.trans k.details, h.flows.trans k.flows⟩

theorem Fits.of_later {t t' : Tables} (fits : t'.Fits) (h : t.Later t') : t.Fits :=
  ⟨h.batches.trans_lt fits.batches, h.details.trans_lt fits.details, h.flows.trans_lt fits.flows⟩

theorem numbered_empty : ({} : Tables).Numbered :=
  ⟨.empty _, .empty _, .empty _, by simp [Keyed.get?]⟩

def withFlow (t : Tables) (new : NewFlow) (state : FlowState) : Tables :=
  { t with flows := (t.flows.add fun id => { new.store id with state }).2 }

@[simp] theorem patchDetails_created (details : Table Detail) (patches : List DetailPatch) :
    (patchDetails details patches).created = details.created := by
  induction patches generalizing details with
  | nil => rfl
  | cons p patches ih => exact ih _

theorem numbered_patchDetails {details : Table Detail} (h : details.Numbered Detail.id)
    (patches : List DetailPatch) : (patchDetails details patches).Numbered Detail.id := by
  induction patches generalizing details with
  | nil => exact h
  | cons p patches ih => exact ih (Table.numbered_update h p.id fun _ => rfl)

/-- What every patch of an id keeps of its row, all patches together keep. -/
theorem patchDetails_induction {P : Int64 → Detail → Prop} {patches : List DetailPatch}
    (keep : ∀ p ∈ patches, ∀ d, P p.id d → P p.id (p.apply d)) {details : Table Detail}
    (h : ∀ id d, details.get? id = some d → P id d) :
    ∀ id d, (patchDetails details patches).get? id = some d → P id d := by
  induction patches generalizing details with
  | nil => exact h
  | cons p patches ih =>
      refine ih (fun q mem => keep q (List.mem_cons_of_mem _ mem)) fun id d found => ?_
      rcases Table.update_cases found with stored | ⟨rfl, old, stored, rfl⟩
      · exact h id d stored
      · exact keep p List.mem_cons_self old (h p.id old stored)

theorem get?_patchDetails_of_notMem {patches : List DetailPatch} {id : Int64}
    (h : id ∉ patches.map DetailPatch.id) (details : Table Detail) :
    (patchDetails details patches).get? id = details.get? id := by
  induction patches generalizing details with
  | nil => rfl
  | cons p patches ih =>
      simp only [List.map_cons, List.mem_cons, not_or] at h
      show (patchDetails (details.update p.id p.apply) patches).get? id = _
      rw [ih h.2, Table.get?_update_eq, if_neg (Ne.symm h.1)]

/-- When no id is patched twice, each patched row is the patch applied to the old one. -/
theorem get?_patchDetails {patches : List DetailPatch} (nodup : (patches.map DetailPatch.id).Nodup)
    {p : DetailPatch} (mem : p ∈ patches) (details : Table Detail) :
    (patchDetails details patches).get? p.id = (details.get? p.id).map p.apply := by
  induction patches generalizing details with
  | nil => simp at mem
  | cons q patches ih =>
      obtain ⟨new, nodup⟩ := List.nodup_cons.1 nodup
      show (patchDetails (details.update q.id q.apply) patches).get? p.id = _
      rcases List.mem_cons.1 mem with rfl | mem
      · rw [get?_patchDetails_of_notMem new, Table.get?_update_eq, if_pos rfl]
      · have other : q.id ≠ p.id := fun e => new (List.mem_map.2 ⟨p, mem, e.symm⟩)
        rw [ih nodup mem, Table.get?_update_eq, if_neg other]

/-- Rows that are patched once each right after their creation might have been created so. -/
theorem patchDetails_addAll {ι : Type} (details : Table Detail) (items : List ι)
    (row : ι → Int64 → Detail) (patch : ι → Int64 → DetailPatch)
    (ids : ∀ i ∈ items, ∀ id, (patch i id).id = id)
    (room : details.created + items.length < 2 ^ 63) :
    patchDetails (details.addAll (items.map row)).2
        (Table.label details.created (items.map patch)) =
      (details.addAll (items.map fun i id => (patch i id).apply (row i id))).2 := by
  induction items generalizing details with
  | nil => rfl
  | cons i items ih =>
      obtain ⟨mine, others⟩ := List.forall_mem_cons.1 ids
      simp only [List.length_cons] at room
      have created : (details.add (row i)).2.created = details.created + 1 := rfl
      -- The ids that follow are others, so the first patch can be applied at once.
      have other : ∀ n, (details.add (row i)).2.created ≤ n →
          n < (details.add (row i)).2.created + (items.map row).length →
          Table.nth n ≠ details.nextId := by
        intro n lower upper same
        rw [created] at lower upper
        rw [List.length_map] at upper
        have equal := Table.nth_injective (by omega) (by omega) same
        omega
      have first : ((details.add (row i)).2.addAll (items.map row)).2.update details.nextId
          (patch i details.nextId).apply =
            ((details.add fun id => (patch i id).apply (row i id)).2.addAll (items.map row)).2 := by
        rw [Table.update_addAll _ _ other]
        congr 2
        simp [Table.add, Table.update]
      have rest := ih (details.add fun id => (patch i id).apply (row i id)).2 others
        (by show details.created + 1 + items.length < 2 ^ 63; omega)
      show patchDetails (((details.add (row i)).2.addAll (items.map row)).2.update
        (patch i details.nextId).id (patch i details.nextId).apply) _ = _
      rw [mine, first]
      exact rest

theorem keys_patchDetails (details : Table Detail) (patches : List DetailPatch) :
    (patchDetails details patches).rows.keys = details.rows.keys := by
  induction patches generalizing details with
  | nil => rfl
  | cons p patches ih =>
      show (patchDetails (details.update p.id p.apply) patches).rows.keys = _
      rw [ih]
      exact Keyed.keys_update ..

end Tables

/-- What a call may do, whatever is wrong with the store and whenever a deadline strikes. -/
inductive StoreCall.Effect : (c : StoreCall) → Tables → Except Failure c.Answer → Tables → Prop
  /-- It is refused or cut off. -/
  | refused (c : StoreCall) (t : Tables) (failure : Failure) : Effect c t (.error failure) t
  /-- It is carried out. -/
  | done (c : StoreCall) (t : Tables) : Effect c t (t.carryOut c).1 (t.carryOut c).2
  /-- A lock is not seen. -/
  | unseen (resource : ResourceKey) (t : Tables) : Effect (.findLock resource) t (.ok none) t
  /-- The flow is cancelled as soon as it exists. -/
  | cancelled (new : NewFlow) (t : Tables) :
      Effect (.createFlow new) t (t.carryOut (.createFlow new)).1 (t.withFlow new .cancelled)
  /-- The flow exists, but its cancellation is refused. -/
  | uncancelled (new : NewFlow) (t : Tables) (failure : Failure) :
      Effect (.createFlow new) t (.error failure) (t.withFlow new .init)

/-- What a call may do under some faults. A refusal complains about the machinery and never about
the request. -/
inductive StoreCall.Answered (faults : Faults) :
    (c : StoreCall) → Tables → Except Failure c.Answer → Tables → Prop
  | refused (c : StoreCall) (t : Tables) {failure : Failure}
      (machinery : failure.isPrecondition = false) : Answered faults c t (.error failure) t
  | done (c : StoreCall) (t : Tables) : Answered faults c t (t.carryOut c).1 (t.carryOut c).2
  | unseen (stale : faults.staleReads = true) (resource : ResourceKey) (t : Tables) :
      Answered faults (.findLock resource) t (.ok none) t
  | cancelled (cancels : faults.cancelOnCreate = true) (new : NewFlow) (t : Tables) :
      Answered faults (.createFlow new) t (t.carryOut (.createFlow new)).1
        (t.withFlow new .cancelled)
  | uncancelled (cancels : faults.cancelOnCreate = true) (new : NewFlow) (t : Tables)
      {failure : Failure} (machinery : failure.isPrecondition = false) :
      Answered faults (.createFlow new) t (.error failure) (t.withFlow new .init)

theorem StoreCall.Answered.effect {faults : Faults} {c : StoreCall} {t t' : Tables}
    {outcome : Except Failure c.Answer} (h : c.Answered faults t outcome t') :
    c.Effect t outcome t' := by
  cases h with
  | refused => exact .refused c t _
  | done => exact .done c t
  | unseen _ resource => exact .unseen resource t
  | cancelled _ new => exact .cancelled new t
  | uncancelled _ new => exact .uncancelled new t _

/-- What a call may do while nothing is wrong with the store, stale reads apart, and there is no
deadline. -/
inductive StoreCall.Faultless :
    (c : StoreCall) → Tables → Except Failure c.Answer → Tables → Prop
  | done (c : StoreCall) (t : Tables) : Faultless c t (t.carryOut c).1 (t.carryOut c).2
  | unseen (resource : ResourceKey) (t : Tables) : Faultless (.findLock resource) t (.ok none) t

theorem StoreCall.Faultless.effect {c : StoreCall} {t t' : Tables}
    {outcome : Except Failure c.Answer} (h : c.Faultless t outcome t') : c.Effect t outcome t' := by
  cases h with
  | done => exact .done c t
  | unseen resource => exact .unseen resource t

namespace Tables

theorem withFlow_cancelled (t : Tables) (new : NewFlow) :
    ((t.carryOut (.createFlow new)).2.moveFlow t.flows.nextId .init .cancelled).2 =
      t.withFlow new .cancelled := by
  have stored : (t.carryOut (.createFlow new)).2.flows.get? t.flows.nextId =
      some (new.store t.flows.nextId) := Keyed.get?_put ..
  simp only [moveFlow, stored, NewFlow.store, if_true]
  simp only [carryOut, withFlow, Table.add, Table.update, Keyed.update_put, NewFlow.store]

theorem releaseLock_cases (t : Tables) (resource : ResourceKey) (flow : Int64) :
    t.releaseLock resource flow = (false, t) ∨
      ∃ l, t.locks.get? resource = some l ∧ l.flow = flow ∧
        t.releaseLock resource flow = (true, { t with locks := t.locks.erase resource }) := by
  unfold releaseLock
  split
  next l found =>
    split
    next owner => exact .inr ⟨l, found, owner, rfl⟩
    next => exact .inl rfl
  next => exact .inl rfl

theorem later_withFlow (t : Tables) (new : NewFlow) (state : FlowState) :
    t.Later (t.withFlow new state) :=
  ⟨le_rfl, le_rfl, Nat.le_succ _⟩

theorem later_carryOut (t : Tables) (c : StoreCall) : t.Later (t.carryOut c).2 := by
  cases c with
  | createBatch new => exact ⟨Nat.le_succ _, le_rfl, le_rfl⟩
  | attachFlows batch flows =>
      simp only [carryOut, attachFlows]
      split <;> exact ⟨le_rfl, le_rfl, le_rfl⟩
  | createDetails news =>
      refine ⟨le_rfl, ?_, le_rfl⟩
      simp [carryOut]
  | updateDetails patches => exact ⟨le_rfl, by simp [carryOut], le_rfl⟩
  | createFlow new => exact ⟨le_rfl, le_rfl, Nat.le_succ _⟩
  | moveFlow id expected target =>
      simp only [carryOut, moveFlow]
      split
      · split <;> exact ⟨le_rfl, le_rfl, le_rfl⟩
      · exact ⟨le_rfl, le_rfl, le_rfl⟩
  | takeLock lock =>
      simp only [carryOut, takeLock]
      split <;> exact ⟨le_rfl, le_rfl, le_rfl⟩
  | releaseLock resource flow =>
      simp only [carryOut, releaseLock]
      split
      · split <;> exact ⟨le_rfl, le_rfl, le_rfl⟩
      · exact ⟨le_rfl, le_rfl, le_rfl⟩
  | getBatch id => exact .refl t
  | listDetails batch => exact .refl t
  | getFlow id => exact .refl t
  | findLock resource => exact .refl t
  | createSubFlows rows => exact ⟨le_rfl, le_rfl, le_rfl⟩
  | listSubFlows flow => exact .refl t

theorem numbered_withFlow {t : Tables} (h : t.Numbered) {new : NewFlow} {state : FlowState}
    (fits : (t.withFlow new state).Fits) : (t.withFlow new state).Numbered := by
  have own : ∀ id, Flow.id { new.store id with state } = id := fun _ => rfl
  exact { h with flows := Table.numbered_add h.flows own fits.flows }

/-- Every call keeps the tables numbered while they fit. -/
theorem numbered_carryOut {t : Tables} (h : t.Numbered) (c : StoreCall)
    (fits : (t.carryOut c).2.Fits) : (t.carryOut c).2.Numbered := by
  cases c with
  | createBatch new =>
      exact { h with batches := Table.numbered_add h.batches (fun _ => rfl) fits.batches }
  | attachFlows batch flows =>
      simp only [carryOut, attachFlows]
      split
      · exact h
      · exact { h with batches := Table.numbered_update h.batches batch fun _ => rfl }
  | createDetails news =>
      have own : ∀ make ∈ news.map NewDetail.store, ∀ id, (make id).id = id := by
        simp [NewDetail.store]
      have room : t.details.created + (news.map NewDetail.store).length < 2 ^ 63 := by
        simpa only [carryOut, Table.addAll_created] using fits.details
      exact { h with details := Table.numbered_addAll h.details own room }
  | updateDetails patches => exact { h with details := numbered_patchDetails h.details patches }
  | createFlow new =>
      have fits : (t.withFlow new .init).Fits := fits
      exact numbered_withFlow h fits
  | moveFlow id expected target =>
      simp only [carryOut, moveFlow]
      split
      · split
        · exact { h with flows := Table.numbered_update h.flows id fun _ => rfl }
        · exact h
      · exact h
  | takeLock lock =>
      simp only [carryOut, takeLock]
      split
      · exact h
      · refine { h with locks := fun k l found => ?_ }
        by_cases same : lock.resource = k
        · subst same
          rw [Keyed.get?_put] at found
          exact (Option.some.inj found) ▸ rfl
        · rw [Keyed.get?_put_of_ne _ same] at found
          exact h.locks k l found
  | releaseLock resource flow =>
      simp only [carryOut, releaseLock]
      split
      · split
        · refine { h with locks := fun k l found => ?_ }
          by_cases same : resource = k
          · subst same
            rw [Keyed.get?_erase] at found
            cases found
          · rw [Keyed.get?_erase_of_ne _ same] at found
            exact h.locks k l found
        · exact h
      · exact h
  | getBatch id => exact h
  | listDetails batch => exact h
  | getFlow id => exact h
  | findLock resource => exact h
  | createSubFlows rows => exact { h with }
  | listSubFlows flow => exact h

theorem numbered_releaseLock {t : Tables} (h : t.Numbered) (resource : ResourceKey) (flow : Int64) :
    (t.releaseLock resource flow).2.Numbered := by
  have fits : (t.releaseLock resource flow).2.Fits := by
    rcases t.releaseLock_cases resource flow with same | ⟨l, -, -, same⟩
    · rw [same]
      exact h.toFits
    · rw [same]
      exact { h.toFits with }
  exact numbered_carryOut h (.releaseLock resource flow) fits

end Tables

namespace StoreCall.Effect

variable {c : StoreCall} {t t' : Tables} {outcome : Except Failure c.Answer}

theorem later (h : c.Effect t outcome t') : t.Later t' := by
  cases h with
  | refused => exact .refl t
  | done => exact t.later_carryOut c
  | unseen => exact .refl t
  | cancelled new => exact t.later_withFlow new .cancelled
  | uncancelled new => exact t.later_withFlow new .init

theorem numbered (h : c.Effect t outcome t') (before : t.Numbered) (fits : t'.Fits) :
    t'.Numbered := by
  cases h with
  | refused => exact before
  | done => exact Tables.numbered_carryOut before c fits
  | unseen => exact before
  | cancelled new => exact Tables.numbered_withFlow before fits
  | uncancelled new => exact Tables.numbered_withFlow before fits

end StoreCall.Effect

namespace Store

theorem refusal_aborts {s : Store} {op : StoreOp} {failure : Failure}
    (h : s.refusal? op = some failure) : ∃ message, failure = .aborted message := by
  unfold refusal? at h
  split at h
  next r _ =>
    split at h
    · exact ⟨r.message, (Option.some.inj h).symm⟩
    · split at h
      · exact ⟨r.message, (Option.some.inj h).symm⟩
      · cases h
  next => cases h

/-- An attempt is refused and changes no row, or it is carried out; faults stay as they are. -/
theorem attempt_cases (s : Store) (c : StoreCall) :
    (∃ message counts, s.faults.refusals ≠ [] ∧
      s.attempt c = (.error (.aborted message), { s with counts })) ∨
      ∃ counts, s.attempt c =
        ((s.tables.carryOut c).1, { s with counts, tables := (s.tables.carryOut c).2 }) := by
  unfold attempt
  split
  next => exact .inr ⟨s.counts, rfl⟩
  next op _ =>
    cases refused : (s.countCall op).refusal? op with
    | none =>
        refine .inr ⟨(s.countCall op).counts, ?_⟩
        simp only [refused]
        rfl
    | some failure =>
        have faulty : s.faults.refusals ≠ [] := by
          intro none
          have same : (s.countCall op).faults = s.faults := rfl
          rw [refusal?, same, none] at refused
          cases refused
        obtain ⟨message, rfl⟩ := refusal_aborts refused
        refine .inl ⟨message, (s.countCall op).counts, faulty, ?_⟩
        simp only [refused]
        rfl

theorem attempt_answered (s : Store) (c : StoreCall) :
    c.Answered s.faults s.tables (s.attempt c).1 (s.attempt c).2.tables ∧
      (s.attempt c).2.faults = s.faults := by
  rcases s.attempt_cases c with ⟨message, counts, -, same⟩ | ⟨counts, same⟩
  · rw [same]
    exact ⟨.refused c s.tables rfl, rfl⟩
  · rw [same]
    exact ⟨.done c s.tables, rfl⟩

theorem cancelCreated_cases (s : Store) (flow : Flow) :
    (s.cancelCreated flow).2.faults = s.faults ∧
      ((∃ message, (s.cancelCreated flow).1 = .error (.aborted message) ∧
        (s.cancelCreated flow).2.tables = s.tables) ∨
      ((s.cancelCreated flow).1 = .ok flow ∧
        (s.cancelCreated flow).2.tables =
          (s.tables.moveFlow flow.id .init .cancelled).2)) := by
  unfold cancelCreated
  rcases s.attempt_cases (.moveFlow flow.id .init .cancelled) with
    ⟨message, counts, -, same⟩ | ⟨counts, same⟩
  · rw [same]
    exact ⟨rfl, .inl ⟨message, rfl, rfl⟩⟩
  · rw [same]
    exact ⟨rfl, .inr ⟨rfl, rfl⟩⟩

/-- Every call is answered in one of the ways that the faults leave, and leaves the faults. -/
theorem perform_answered (s : Store) (c : StoreCall) :
    c.Answered s.faults s.tables (s.perform c).1 (s.perform c).2.tables ∧
      (s.perform c).2.faults = s.faults := by
  cases c with
  | findLock resource =>
      simp only [perform]
      rcases s.attempt_cases (.findLock resource) with ⟨message, counts, -, same⟩ | ⟨counts, same⟩
      · rw [same]
        exact ⟨.refused _ s.tables rfl, rfl⟩
      · rw [same]
        by_cases stale : s.faults.staleReads
        · simp only [Tables.carryOut, stale, if_true]
          exact ⟨.unseen stale resource s.tables, trivial⟩
        · simp only [Tables.carryOut, stale]
          exact ⟨.done (.findLock resource) s.tables, trivial⟩
  | createFlow new =>
      simp only [perform]
      rcases s.attempt_cases (.createFlow new) with ⟨message, counts, -, same⟩ | ⟨counts, same⟩
      · rw [same]
        exact ⟨.refused _ s.tables rfl, rfl⟩
      · rw [same]
        by_cases cancels : s.faults.cancelOnCreate
        · have created : (s.tables.carryOut (.createFlow new)).1 =
              .ok (new.store s.tables.flows.nextId) := rfl
          simp only [created, cancels, if_true]
          obtain ⟨faults, ended⟩ := Store.cancelCreated_cases
            { s with counts, tables := (s.tables.carryOut (.createFlow new)).2 }
            (new.store s.tables.flows.nextId)
          refine ⟨?_, faults⟩
          rcases ended with ⟨message, failed, kept⟩ | ⟨done, moved⟩
          · rw [failed, kept]
            exact .uncancelled cancels new s.tables rfl
          · rw [done, moved, ← created]
            exact Tables.withFlow_cancelled s.tables new ▸ .cancelled cancels new s.tables
        · simp only [Tables.carryOut, cancels]
          exact ⟨.done (.createFlow new) s.tables, rfl⟩
  | _ => exact s.attempt_answered _

theorem perform_effect (s : Store) (c : StoreCall) :
    c.Effect s.tables (s.perform c).1 (s.perform c).2.tables :=
  (s.perform_answered c).1.effect

/-- Nothing is wrong with the store, except that reads of locks may be stale. -/
structure Sound (s : Store) : Prop where
  refusals : s.faults.refusals = []
  cancelOnCreate : s.faults.cancelOnCreate = false

theorem Sound.attempt {s : Store} (h : s.Sound) (c : StoreCall) :
    ∃ counts, s.attempt c =
      ((s.tables.carryOut c).1, { s with counts, tables := (s.tables.carryOut c).2 }) := by
  rcases s.attempt_cases c with ⟨_, _, refusals, -⟩ | done
  · exact absurd h.refusals refusals
  · exact done

theorem Sound.perform {s : Store} (h : s.Sound) (c : StoreCall) :
    c.Faultless s.tables (s.perform c).1 (s.perform c).2.tables ∧ (s.perform c).2.Sound := by
  have plain : ∀ {counts}, ({ s with counts, tables := (s.tables.carryOut c).2 } : Store).Sound :=
    ⟨h.refusals, h.cancelOnCreate⟩
  obtain ⟨counts, same⟩ := h.attempt c
  cases c with
  | findLock resource =>
      simp only [Store.perform]
      rw [same]
      by_cases stale : s.faults.staleReads
      · simp only [Tables.carryOut, stale, if_true]
        exact ⟨.unseen resource s.tables, h.refusals, h.cancelOnCreate⟩
      · simp only [Tables.carryOut, stale]
        exact ⟨.done (.findLock resource) s.tables, h.refusals, h.cancelOnCreate⟩
  | createFlow new =>
      simp only [Store.perform]
      rw [same]
      simp only [Tables.carryOut, h.cancelOnCreate]
      exact ⟨.done (.createFlow new) s.tables, h.refusals, h.cancelOnCreate⟩
  | _ =>
      simp only [Store.perform]
      rw [same]
      exact ⟨.done _ s.tables, plain⟩

end Store

/-- The tables that calls to a store can lead to, under any faults and from no rows at all. -/
inductive Tables.Reachable : Tables → Prop
  | empty : Reachable {}
  | call {s : Store} (c : StoreCall) : Reachable s.tables → Reachable (s.perform c).2.tables

theorem Tables.Reachable.numbered {t : Tables} (h : t.Reachable) (fits : t.Fits) :
    t.Numbered := by
  induction h with
  | empty => exact numbered_empty
  | @call s c _ ih =>
      have effect := s.perform_effect c
      exact effect.numbered (ih (fits.of_later effect.later)) fits

namespace World

/-- Every call of a world, under any deadline, is answered in one of the ways that its faults
leave. -/
theorem call_answered (w : World) (deadline : Option Nat) (guard : Guard) (c : StoreCall) :
    c.Answered w.store.faults w.store.tables (w.call deadline guard (.store c)).1
        (w.call deadline guard (.store c)).2.store.tables ∧
      (w.call deadline guard (.store c)).2.store.faults = w.store.faults := by
  unfold World.call
  split
  next time _ => exact w.store.perform_answered c
  next time name _ => exact ⟨.refused c w.store.tables rfl, rfl⟩

theorem call_effect (w : World) (deadline : Option Nat) (guard : Guard) (c : StoreCall) :
    c.Effect w.store.tables (w.call deadline guard (.store c)).1
      (w.call deadline guard (.store c)).2.store.tables :=
  (w.call_answered deadline guard c).1.effect

@[simp] theorem call_catalog_store (w : World) (deadline : Option Nat) (guard : Guard)
    (c : CatalogCall) : (w.call deadline guard (.catalog c)).2.store = w.store := by
  unfold World.call
  split
  · simp only [World.perform]
    split <;> rfl
  · rfl

theorem call_faultless {w : World} (sound : w.store.Sound) (guard : Guard) (c : StoreCall) :
    c.Faultless w.store.tables (w.call none guard (.store c)).1
        (w.call none guard (.store c)).2.store.tables ∧
      (w.call none guard (.store c)).2.store.Sound :=
  sound.perform c

end World

end BalancerFlows
