import BalancerFlows.Proofs.Effects
import BalancerFlows.Proofs.Gathering

/-!
# What a history of calls leaves in the store

A store starts empty, calls are made, and in between failures are put in and taken away. What
`Store.answers` tells of such a history is all that a caller has seen. The ids of the rows of a kind
count up from 1 to the number of rows in these answers: a creation that failed or had nothing to
create leaves no gap. Main statement: `rows_counted`.
-/
namespace BalancerFlows

/-- A call to a store, or a change of the failures it is told to make. -/
inductive StoreEvent where
  | call (c : StoreCall)
  | refuse (op : StoreOp) (message : String)
  | refuseNth (op : StoreOp) (n : Nat) (message : String)
  | refuseNone
  | staleReads (stale : Bool)
  deriving Repr, DecidableEq

/-- A call with its answer. -/
structure StoreAnswer where
  call : StoreCall
  outcome : Except Failure call.Answer

namespace StoreAnswer

def batches : StoreAnswer → List Batch
  | ⟨.createBatch _, .ok batch⟩ => [batch]
  | _ => []

def details : StoreAnswer → List Detail
  | ⟨.createDetails _, .ok created⟩ => created
  | _ => []

def flows : StoreAnswer → List Flow
  | ⟨.createFlow _, .ok flow⟩ => [flow]
  | _ => []

end StoreAnswer

namespace Store

def absorb (s : Store) : StoreEvent → Store
  | .call c => (s.perform c).2
  | .refuse op message => { s with faults := s.faults.refuse op message }
  | .refuseNth op n message => { s with faults := s.faults.refuseNth op n message }
  | .refuseNone => { s with faults := s.faults.refuseNone }
  | .staleReads stale => { s with faults := { s.faults with staleReads := stale } }

def after (s : Store) (events : List StoreEvent) : Store :=
  events.foldl absorb s

def answer (s : Store) : StoreEvent → List StoreAnswer
  | .call c => [⟨c, (s.perform c).1⟩]
  | _ => []

/-- What the calls among the events are answered with. -/
def answers (s : Store) : List StoreEvent → List StoreAnswer
  | [] => []
  | e :: rest => s.answer e ++ (s.absorb e).answers rest

end Store

/-! ## Numbers of rows -/

/-- As many rows of each kind were created as the answers tell. -/
structure Tables.Tallied (t : Tables) (answers : List StoreAnswer) (t' : Tables) : Prop where
  batches : t'.batches.created =
    t.batches.created + (answers.flatMap StoreAnswer.batches).length
  details : t'.details.created =
    t.details.created + (answers.flatMap StoreAnswer.details).length
  flows : t'.flows.created = t.flows.created + (answers.flatMap StoreAnswer.flows).length

namespace Tables

variable {t t₁ t₂ : Tables}

theorem Tallied.refl (t : Tables) : t.Tallied [] t :=
  ⟨rfl, rfl, rfl⟩

theorem Tallied.append {first rest : List StoreAnswer} (h : t.Tallied first t₁)
    (k : t₁.Tallied rest t₂) : t.Tallied (first ++ rest) t₂ where
  batches := by
    rw [k.batches, h.batches, List.flatMap_append, List.length_append, Nat.add_assoc]
  details := by
    rw [k.details, h.details, List.flatMap_append, List.length_append, Nat.add_assoc]
  flows := by
    rw [k.flows, h.flows, List.flatMap_append, List.length_append, Nat.add_assoc]

theorem tallied_error (c : StoreCall) (t : Tables) (failure : Failure) :
    t.Tallied [⟨c, .error failure⟩] t := by
  cases c <;> exact ⟨rfl, rfl, rfl⟩

theorem tallied_carryOut (t : Tables) (c : StoreCall) :
    t.Tallied [⟨c, (t.carryOut c).1⟩] (t.carryOut c).2 := by
  cases c with
  | createDetails news =>
      refine ⟨rfl, ?_, rfl⟩
      show (t.details.addAll (news.map NewDetail.store)).2.created = _
      simp [carryOut, StoreAnswer.details]
  | attachFlows batch flows =>
      simp only [carryOut, attachFlows]
      split <;> exact ⟨rfl, rfl, rfl⟩
  | updateDetails patches =>
      refine ⟨rfl, ?_, rfl⟩
      exact patchDetails_created t.details patches
  | moveFlow id expected target =>
      simp only [carryOut, moveFlow]
      split
      · split <;> exact ⟨rfl, rfl, rfl⟩
      · exact ⟨rfl, rfl, rfl⟩
  | takeLock lock =>
      simp only [carryOut, takeLock]
      split <;> exact ⟨rfl, rfl, rfl⟩
  | releaseLock resource flow =>
      simp only [carryOut, releaseLock]
      split
      · split <;> exact ⟨rfl, rfl, rfl⟩
      · exact ⟨rfl, rfl, rfl⟩
  | _ => exact ⟨rfl, rfl, rfl⟩

/-- A call that fails although it was carried out leaves the tables alone. -/
theorem carryOut_of_error {c : StoreCall} {failure : Failure}
    (failed : (t.carryOut c).1 = .error failure) : (t.carryOut c).2 = t := by
  cases c with
  | attachFlows batch flows =>
      simp only [carryOut, attachFlows] at failed ⊢
      split
      next => rfl
      next found => simp [found] at failed
  | _ => cases failed

end Tables

namespace StoreCall.Answered

variable {faults : Faults} {c : StoreCall} {t t' : Tables} {outcome : Except Failure c.Answer}

/-- Unless new flows are cancelled behind the caller's back, the answer tells what was created. -/
theorem tallied (h : c.Answered faults t outcome t') (plain : faults.cancelOnCreate = false) :
    t.Tallied [⟨c, outcome⟩] t' := by
  cases h with
  | refused => exact Tables.tallied_error c t _
  | done => exact Tables.tallied_carryOut t c
  | unseen stale resource => exact ⟨rfl, rfl, rfl⟩
  | cancelled cancels => rw [plain] at cancels; cases cancels
  | uncancelled cancels => rw [plain] at cancels; cases cancels

/-- A call that fails, for whatever reason, leaves all tables as they were. -/
theorem tables_of_error (h : c.Answered faults t outcome t')
    (plain : faults.cancelOnCreate = false) {failure : Failure}
    (failed : outcome = .error failure) : t' = t := by
  cases h with
  | refused => rfl
  | done => exact Tables.carryOut_of_error failed
  | unseen => cases failed
  | cancelled cancels => rw [plain] at cancels; cases cancels
  | uncancelled cancels => rw [plain] at cancels; cases cancels

end StoreCall.Answered

theorem Tables.nodup_locks_carryOut {t : Tables} (nodup : t.locks.keys.Nodup) (c : StoreCall) :
    (t.carryOut c).2.locks.keys.Nodup := by
  cases c with
  | takeLock lock =>
      simp only [carryOut, takeLock]
      split
      · exact nodup
      · exact Keyed.nodup_put nodup _ _
  | releaseLock resource flow =>
      simp only [carryOut]
      rcases t.releaseLock_cases resource flow with same | ⟨_, -, -, same⟩
      · rw [same]
        exact nodup
      · rw [same, Keyed.keys_erase]
        exact nodup.filter _
  | attachFlows batch flows =>
      simp only [carryOut, attachFlows]
      split <;> exact nodup
  | moveFlow id expected target =>
      simp only [carryOut, moveFlow]
      split
      · split <;> exact nodup
      · exact nodup
  | _ => exact nodup

theorem StoreCall.Effect.nodup_locks {c : StoreCall} {t t' : Tables}
    {outcome : Except Failure c.Answer} (h : c.Effect t outcome t')
    (nodup : t.locks.keys.Nodup) : t'.locks.keys.Nodup := by
  cases h with
  | done => exact Tables.nodup_locks_carryOut nodup c
  | _ => exact nodup

namespace Store

variable {s : Store}

theorem cancelOnCreate_absorb (s : Store) (e : StoreEvent) :
    (s.absorb e).faults.cancelOnCreate = s.faults.cancelOnCreate := by
  cases e with
  | call c => exact congrArg Faults.cancelOnCreate (s.perform_answered c).2
  | _ => rfl

theorem tallied_absorb (plain : s.faults.cancelOnCreate = false) (e : StoreEvent) :
    s.tables.Tallied (s.answer e) (s.absorb e).tables := by
  cases e with
  | call c => exact (s.perform_answered c).1.tallied plain
  | _ => exact .refl _

theorem after_append (s : Store) (first rest : List StoreEvent) :
    s.after (first ++ rest) = (s.after first).after rest :=
  List.foldl_append

theorem after_induction {P : Store → Prop} (start : P s)
    (step : ∀ (s : Store) (e : StoreEvent), P s → P (s.absorb e)) (events : List StoreEvent) :
    P (s.after events) :=
  List.foldlRecOn events absorb start fun s before e _ => step s e before

theorem tallied_after (plain : s.faults.cancelOnCreate = false) (events : List StoreEvent) :
    s.tables.Tallied (s.answers events) (s.after events).tables := by
  induction events generalizing s with
  | nil => exact .refl _
  | cons e rest ih =>
      have plain' := (s.cancelOnCreate_absorb e).trans plain
      exact (tallied_absorb plain e).append (ih plain')

theorem later_absorb (s : Store) (e : StoreEvent) : s.tables.Later (s.absorb e).tables := by
  cases e with
  | call c => exact (s.perform_effect c).later
  | _ => exact .refl _

theorem reachable_absorb (reachable : s.tables.Reachable) (e : StoreEvent) :
    (s.absorb e).tables.Reachable := by
  cases e with
  | call c => exact .call c reachable
  | _ => exact reachable

theorem nodup_locks_absorb (nodup : s.tables.locks.keys.Nodup) (e : StoreEvent) :
    (s.absorb e).tables.locks.keys.Nodup := by
  cases e with
  | call c => exact (s.perform_effect c).nodup_locks nodup
  | _ => exact nodup

end Store

/-! ## The next call -/

theorem Table.label_eq_mapIdx {ι β : Type} (make : ι → Int64 → β) (n : Nat) (items : List ι) :
    Table.label n (items.map make) = items.mapIdx fun i item => make item (Table.nth (n + i)) := by
  induction items generalizing n with
  | nil => rfl
  | cons item rest ih =>
      rw [List.map_cons, Table.label, ih, List.mapIdx_cons]
      simp only [Nat.add_zero, Nat.add_assoc, Nat.add_comm 1]

namespace Store

variable {s : Store}

theorem attempt_of_refused {c : StoreCall} {op : StoreOp} {failure : Failure}
    (kind : c.op? = some op) (hit : (s.countCall op).refusal? op = some failure) :
    s.attempt c = (.error failure, s.countCall op) := by
  unfold attempt
  split
  next other =>
    rw [kind] at other
    cases other
  next op' other =>
    rw [kind] at other
    cases other
    simp only [hit]

/-- A call that is hit by a failure rule fails with it, and is counted. -/
theorem perform_of_refused {c : StoreCall} {op : StoreOp} {failure : Failure}
    (kind : c.op? = some op) (hit : (s.countCall op).refusal? op = some failure) :
    s.perform c = (.error failure, s.countCall op) := by
  have attempted := attempt_of_refused kind hit
  cases c with
  | findLock resource => simp only [perform, attempted]
  | createFlow new => simp only [perform, attempted]
  | _ => exact attempted

/-- What becomes of the next call, in particular of the next creation. -/
structure Careful (s : Store) : Prop where
  refused : ∀ c op failure, StoreCall.op? c = some op →
    (s.countCall op).refusal? op = some failure → s.perform c = (.error failure, s.countCall op)
  failed : ∀ c failure, (s.perform c).1 = .error failure → (s.perform c).2.tables = s.tables
  empty : s.perform (.createDetails []) = (.ok [], s)
  consecutive : ∀ news created, (s.perform (.createDetails news)).1 = .ok created →
    created = news.mapIdx fun i new => new.store (Table.nth (s.tables.details.created + i))

/-- A failed creation may only leave a row where flows are cancelled behind the caller's back. -/
theorem careful (plain : s.faults.cancelOnCreate = false) : s.Careful where
  refused _ _ _ kind hit := perform_of_refused kind hit
  failed c _ failed := (s.perform_answered c).1.tables_of_error plain failed
  empty := rfl
  consecutive news created done := by
    rcases s.attempt_cases (.createDetails news) with ⟨message, counts, -, same⟩ | ⟨counts, same⟩
    · have answer : (s.perform (.createDetails news)).1 = .error (.aborted message) :=
        congrArg Prod.fst same
      rw [answer] at done
      cases done
    · have answer : (s.perform (.createDetails news)).1 =
          .ok (s.tables.details.addAll (news.map NewDetail.store)).1 := congrArg Prod.fst same
      rw [answer, Except.ok.injEq, Table.addAll_fst, Table.label_eq_mapIdx] at done
      exact done.symm

end Store

/-! ## Histories -/

/-- The rows after a history with some answers: their ids count up from 1 to the number of rows in
these answers, and each row stands under its own id. So does each lock under its resource. -/
structure Tables.Accounted (t : Tables) (answers : List StoreAnswer) : Prop where
  batches : t.batches.rows.keys =
    (List.range (answers.flatMap StoreAnswer.batches).length).map Table.nth
  details : t.details.rows.keys =
    (List.range (answers.flatMap StoreAnswer.details).length).map Table.nth
  flows : t.flows.rows.keys =
    (List.range (answers.flatMap StoreAnswer.flows).length).map Table.nth
  ownBatches : ∀ row ∈ t.batches.rows, row.2.id = row.1
  ownDetails : ∀ row ∈ t.details.rows, row.2.id = row.1
  ownFlows : ∀ row ∈ t.flows.rows, row.2.id = row.1
  ownLocks : ∀ row ∈ t.locks, row.2.resource = row.1
  locksOnce : t.locks.keys.Nodup

theorem Table.Numbered.keys_of_created {α : Type} {key : α → Int64} {t : Table α} {n : Nat}
    (h : t.Numbered key) (created : t.created = 0 + n) :
    t.rows.keys = (List.range n).map Table.nth := by
  rw [Nat.zero_add] at created
  rw [h.keys_eq, created]

theorem Tables.accounted {t : Tables} {answers : List StoreAnswer} (numbered : t.Numbered)
    (tallied : Tables.Tallied {} answers t) (nodup : t.locks.keys.Nodup) :
    t.Accounted answers where
  batches := numbered.batches.keys_of_created tallied.batches
  details := numbered.details.keys_of_created tallied.details
  flows := numbered.flows.keys_of_created tallied.flows
  ownBatches := numbered.batches.key_eq
  ownDetails := numbered.details.key_eq
  ownFlows := numbered.flows.key_eq
  ownLocks row mem := numbered.locks row.1 row.2 (Keyed.get?_of_mem nodup mem)
  locksOnce := nodup

/-- At any time of a history from an empty store, whatever failures are put in and taken away on the
way: the ids of the rows count up from 1 to the number of rows that the answers tell, every row and
every lock stands under its own key, and the next call leaves all tables alone if it fails. -/
theorem rows_counted (events : List StoreEvent) (fits : (({} : Store).after events).tables.Fits)
    (past : List StoreEvent) (before : past <+: events) :
    (({} : Store).after past).tables.Accounted (({} : Store).answers past) ∧
      (({} : Store).after past).Careful := by
  obtain ⟨rest, joined⟩ := before
  have steady : (({} : Store).after past).faults.cancelOnCreate = false :=
    Store.after_induction (P := fun s => s.faults.cancelOnCreate = false) rfl
      (fun s e plain => (s.cancelOnCreate_absorb e).trans plain) past
  have nodup : (({} : Store).after past).tables.locks.keys.Nodup :=
    Store.after_induction (s := {}) (P := fun s => s.tables.locks.keys.Nodup) List.nodup_nil
      (fun _ e nodup => Store.nodup_locks_absorb nodup e) past
  have reachable : (({} : Store).after past).tables.Reachable :=
    Store.after_induction (P := fun s => s.tables.Reachable) .empty
      (fun _ e reachable => Store.reachable_absorb reachable e) past
  have later : (({} : Store).after past).tables.Later (({} : Store).after events).tables := by
    rw [← joined, Store.after_append]
    exact Store.after_induction (P := fun s => (({} : Store).after past).tables.Later s.tables)
      (.refl _) (fun s e earlier => earlier.trans (s.later_absorb e)) rest
  have numbered := reachable.numbered (fits.of_later later)
  have tallied := Store.tallied_after (s := {}) rfl past
  exact ⟨Tables.accounted numbered tallied nodup, Store.careful steady⟩

def oneDetail : NewDetail :=
  { batch := 1, business := 7, operation := .removeTarget, param := .null }

/-- Of four creations of details one is refused and one has nothing to create. -/
def fourCreations : List StoreEvent :=
  [.refuseNth .createDetails 2 "gone", .call (.createDetails [oneDetail, oneDetail]),
    .call (.createDetails [oneDetail]), .refuseNone, .call (.createDetails []),
    .call (.createDetails [oneDetail])]

theorem rows_counted_fourCreations :
    (({} : Store).after fourCreations).tables.Fits ∧ fourCreations.take 3 <+: fourCreations ∧
      (({} : Store).after (fourCreations.take 3)).tables.details.rows.keys = [1, 2] ∧
      (({} : Store).after fourCreations).tables.details.rows.keys = [1, 2, 3] := by
  have fits : (({} : Store).after fourCreations).tables.Fits := by
    decide +kernel
  have early := (rows_counted fourCreations fits _ (List.take_prefix 3 _)).1.details
  have late := (rows_counted fourCreations fits _ (List.prefix_refl _)).1.details
  refine ⟨fits, List.take_prefix 3 _, early.trans ?_, late.trans ?_⟩
  · decide +kernel
  · decide +kernel

end BalancerFlows
