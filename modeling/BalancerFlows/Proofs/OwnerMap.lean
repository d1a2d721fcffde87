import BalancerFlows.Proofs.Outlines
import BalancerFlows.Proofs.Timeline
import Mathlib.Data.List.DropRight

/-!
# The gate as an owner map

What the gate has to say about a resource turns on one thing of its past: the first lock that was
asked for since the last release that succeeded. `ownerIn` reads it off a log of calls, and knows
neither a store nor a row. One call keeps the locks in step with the log (`Request.get?_leave`), so
after any calls they are its owner map (`Reached.owners`). Main statement: `answers_by_owner`.
-/
namespace BalancerFlows

theorem Program.run_uncut {α : Type} {deadline : Option Nat} {p : Program α} {w : World}
    (uncut : ∀ m ∈ p.timeline deadline w, ¬ m.IsCut deadline) :
    p.run deadline w = p.run none w := by
  induction p generalizing w with
  | done a => rfl
  | overflow => rfl
  | report o next ih => exact ih uncut
  | call guard c next ih =>
      obtain ⟨first, others⟩ := List.forall_mem_cons.1 uncut
      have rest := ih _ others
      rw [World.call_of_not_isCut first] at rest
      simp only [run, World.call_of_not_isCut first]
      exact rest

namespace Gate

inductive Request where
  | owner (resource : ResourceKey)
  | ensureFree (resource : ResourceKey)
  | acquire (wanted : Lock)
  | release (resource : ResourceKey) (flow : Int64)

namespace Request

@[reducible] def Answer : Request → Type
  | owner _ => Option Lock
  | ensureFree _ => Unit
  | acquire _ => Lock
  | release .. => Bool

def resource : Request → ResourceKey
  | owner resource => resource
  | ensureFree resource => resource
  | acquire wanted => wanted.resource
  | release resource _ => resource

def work : (r : Request) → Work r.Answer
  | owner resource => owner? resource
  | ensureFree resource => Gate.ensureFree resource
  | acquire wanted => Gate.acquire wanted
  | release resource flow => Gate.release resource flow

/-- What is answered if that is the owner of the resource. -/
def verdict (present : Option Lock) : (r : Request) → Except Failure r.Answer
  | owner _ => .ok present
  | ensureFree _ =>
      match present with
      | none => .ok ()
      | some lock => .error lock.busy
  | acquire wanted =>
      match present with
      | none => .ok wanted
      | some lock => if lock.flow = wanted.flow then .ok lock else .error lock.busy
  | release _ flow => .ok (present.any fun lock => lock.flow = flow)

/-- Whether another owner is there afterwards: a resource that has none is taken, or its owner gives
it up. -/
def Moves (present : Option Lock) : Request → Prop
  | owner _ => False
  | ensureFree _ => False
  | acquire _ => present = none
  | release _ flow => ∃ lock, present = some lock ∧ lock.flow = flow

/-- The locks afterwards. -/
def leave (locks : Keyed ResourceKey Lock) : Request → Keyed ResourceKey Lock
  | owner _ => locks
  | ensureFree _ => locks
  | acquire wanted =>
      match locks.get? wanted.resource with
      | none => locks.put wanted.resource wanted
      | some _ => locks
  | release resource flow =>
      if (locks.get? resource).any fun lock => lock.flow = flow then locks.erase resource
      else locks

end Request

/-- A call to the gate and what it came to. -/
structure Exchange where
  request : Request
  outcome : Except Failure request.Answer

namespace Exchange

def frees (resource : ResourceKey) : Exchange → Bool
  | ⟨.release released _, .ok true⟩ => released = resource
  | _ => false

/-- The lock on the resource that was asked for, whether it was granted or not. -/
def asked? (resource : ResourceKey) : Exchange → Option Lock
  | ⟨.acquire wanted, _⟩ => if wanted.resource = resource then some wanted else none
  | _ => none

@[simp] theorem frees_release (resource other : ResourceKey) (flow : Int64) (released : Bool) :
    frees resource ⟨.release other flow, .ok released⟩ = (released && other = resource) := by
  cases released with
  | true => rfl
  | false => rfl

@[simp] theorem asked?_release (resource other : ResourceKey) (flow : Int64)
    (outcome : Except Failure Bool) : asked? resource ⟨.release other flow, outcome⟩ = none := rfl

@[simp] theorem frees_acquire (resource : ResourceKey) (wanted : Lock)
    (outcome : Except Failure Lock) : frees resource ⟨.acquire wanted, outcome⟩ = false := rfl

@[simp] theorem asked?_acquire (resource : ResourceKey) (wanted : Lock)
    (outcome : Except Failure Lock) : asked? resource ⟨.acquire wanted, outcome⟩ =
      if wanted.resource = resource then some wanted else none := rfl

end Exchange

/-- The calls since the resource was last released. -/
def sinceFreed (log : List Exchange) (resource : ResourceKey) : List Exchange :=
  log.rtakeWhile fun e => !e.frees resource

/-- The first lock on the resource that was asked for since it was last released. -/
def ownerIn (log : List Exchange) (resource : ResourceKey) : Option Lock :=
  (sinceFreed log resource).findSome? (Exchange.asked? resource)

theorem ownerIn_concat (log : List Exchange) (e : Exchange) (resource : ResourceKey) :
    ownerIn (log ++ [e]) resource =
      if e.frees resource then none else (ownerIn log resource).or (e.asked? resource) := by
  unfold ownerIn sinceFreed
  rw [List.rtakeWhile_concat]
  cases e.frees resource with
  | true => rfl
  | false => simp [List.findSome?_append]

/-- A call is of no account to another resource, be its id the same. -/
theorem ownerIn_concat_of_ne (log : List Exchange) {e : Exchange} {other : ResourceKey}
    (ne : e.request.resource ≠ other) : ownerIn (log ++ [e]) other = ownerIn log other := by
  rw [ownerIn_concat]
  obtain ⟨r, outcome⟩ := e
  cases r with
  | owner resource => simp [Exchange.frees, Exchange.asked?]
  | ensureFree resource => simp [Exchange.frees, Exchange.asked?]
  | acquire wanted =>
      replace ne : wanted.resource ≠ other := ne
      simp [ne]
  | release resource flow =>
      replace ne : resource ≠ other := ne
      cases outcome with
      | error failure => simp [Exchange.frees]
      | ok released =>
          rw [Exchange.frees_release other resource flow released]
          simp [ne]

/-- The calls that lead to a world from one without locks, each made while nothing was wrong.
Anything but the locks may change between two calls. -/
inductive Reached : World → List Exchange → Prop
  | start (w : World) (empty : w.store.tables.locks = []) : Reached w []
  | elsewhere {w : World} {log : List Exchange} (w' : World)
      (same : w'.store.tables.locks = w.store.tables.locks) : Reached w log → Reached w' log
  | call {w w' : World} {log : List Exchange} (deadline : Option Nat) (r : Request)
      {outcome : Except Failure r.Answer} (calm : w.store.Calm)
      (uncut : ∀ m ∈ Program.timeline deadline r.work w, ¬ m.IsCut deadline)
      (ran : Program.run deadline r.work w = (some outcome, w')) :
      Reached w log → Reached w' (log ++ [⟨r, outcome⟩])

section Exec

variable {refused : Keyed String String} {s : Contents}

theorem exec_acquire_of_owned {wanted lock : Lock}
    (owned : s.tables.locks.get? wanted.resource = some lock) :
    Program.exec refused (acquire wanted) s = (some (if lock.flow = wanted.flow then .ok lock
      else .error lock.busy), s) := by
  have found : s.tables.carryOut (.takeLock wanted) = (.ok (.conflict lock), s.tables) := by
    rw [Tables.carryOut, Tables.takeLock, owned]
  rw [acquire, Work.exec_within, Work.exec_bind_of_ok (Work.exec_askStore_of_ok found), settle]
  split
  · rfl
  · rfl

theorem exec_release (resource : ResourceKey) (flow : Int64) :
    Program.exec refused (release resource flow) s =
      (some (.ok (s.tables.releaseLock resource flow).1),
        { s with tables := (s.tables.releaseLock resource flow).2 }) := by
  rw [release, Work.exec_bind_of_ok (Work.exec_askStore_of_ok rfl)]
  rfl

end Exec

namespace Request

theorem exec_work (refused : Keyed String String) (r : Request) (s : Contents) :
    Program.exec refused r.work s =
      (some (r.verdict (s.tables.locks.get? r.resource)),
        { s with tables := { s.tables with locks := r.leave s.tables.locks } }) := by
  cases r with
  | owner resource => rfl
  | ensureFree resource =>
      simp only [work, verdict, Request.resource, leave]
      cases present : s.tables.locks.get? resource with
      | none => exact exec_ensureFree_of_free present
      | some lock => exact exec_ensureFree_of_owned present
  | acquire wanted =>
      simp only [work, verdict, Request.resource, leave]
      cases present : s.tables.locks.get? wanted.resource with
      | none => exact exec_acquire_of_free present
      | some lock => exact exec_acquire_of_owned present
  | release resource flow =>
      simp only [work, verdict, Request.resource, leave]
      refine (exec_release resource flow).trans ?_
      unfold Tables.releaseLock
      cases s.tables.locks.get? resource with
      | none => rfl
      | some lock =>
          by_cases own : lock.flow = flow
          · simp [own]
          · simp [own]

theorem leave_of_not_moves {r : Request} {locks : Keyed ResourceKey Lock}
    (stays : ¬ r.Moves (locks.get? r.resource)) : r.leave locks = locks := by
  cases r with
  | owner resource => rfl
  | ensureFree resource => rfl
  | acquire wanted =>
      simp only [leave]
      split
      next free => exact absurd free stays
      next => rfl
  | release resource flow =>
      simp only [leave]
      split
      next own =>
        obtain ⟨lock, present, own⟩ := (Option.any_eq_true _ _).1 own
        exact absurd ⟨lock, present, of_decide_eq_true own⟩ stays
      next => rfl

/-- The step: locks that are the owner map of a log are that of the longer log afterwards. -/
theorem get?_leave {locks : Keyed ResourceKey Lock} {log : List Exchange}
    (owners : ∀ resource, locks.get? resource = ownerIn log resource) (r : Request)
    (resource : ResourceKey) :
    (r.leave locks).get? resource =
      ownerIn (log ++ [⟨r, r.verdict (ownerIn log r.resource)⟩]) resource := by
  rw [ownerIn_concat, ← owners, ← owners]
  cases r with
  | owner other => simp [leave, Exchange.frees, Exchange.asked?]
  | ensureFree other => simp [leave, Exchange.frees, Exchange.asked?]
  | acquire wanted =>
      rw [Exchange.frees_acquire, Exchange.asked?_acquire]
      by_cases same : wanted.resource = resource
      · subst same
        cases present : locks.get? wanted.resource with
        | none => simp [leave, present]
        | some lock => simp [leave, present]
      · cases present : locks.get? wanted.resource with
        | none => simp [leave, present, same, Keyed.get?_put_of_ne _ same]
        | some lock => simp [leave, present, same]
  | release other flow =>
      rw [verdict, Request.resource, Exchange.frees_release, Exchange.asked?_release]
      by_cases own : (locks.get? other).any fun lock => lock.flow = flow
      · by_cases same : other = resource
        · subst same
          simp [leave, own]
        · simp [leave, own, same, Keyed.get?_erase_of_ne _ same]
      · simp [leave, own]

/-- A call that is not cut off comes to this in a world where nothing is wrong. -/
theorem run_work {deadline : Option Nat} {r : Request} {w : World} (calm : w.store.Calm)
    (uncut : ∀ m ∈ Program.timeline deadline r.work w, ¬ m.IsCut deadline) : ∃ w',
      Program.run deadline r.work w =
        (some (r.verdict (w.store.tables.locks.get? r.resource)), w') ∧
      w'.contents = { w.contents with
        tables := { w.store.tables with locks := r.leave w.store.tables.locks } } := by
  obtain ⟨outcome, contents⟩ := Program.run_of_exec calm (r.exec_work w.catalogFaults w.contents)
  rw [← Program.run_uncut uncut] at outcome contents
  exact ⟨_, Prod.ext outcome rfl, contents⟩

end Request

/-- After any calls the locks are the owner map of their log. -/
theorem Reached.owners {w : World} {log : List Exchange} (reached : Reached w log)
    (resource : ResourceKey) : w.store.tables.locks.get? resource = ownerIn log resource := by
  induction reached generalizing resource with
  | start w empty =>
      rw [empty]
      rfl
  | elsewhere w' same _ ih =>
      rw [same]
      exact ih resource
  | @call w w' log deadline r outcome calm uncut ran _ ih =>
      obtain ⟨w'', ran', contents⟩ := Request.run_work calm uncut
      rw [ran] at ran'
      cases ran'
      have locks : w'.store.tables.locks = r.leave w.store.tables.locks :=
        congrArg (fun s => s.tables.locks) contents
      rw [locks, ih r.resource]
      exact r.get?_leave ih resource

/-- The log with a call that was answered by the owner it names. -/
def Request.logged (log : List Exchange) (r : Request) : List Exchange :=
  log ++ [⟨r, r.verdict (ownerIn log r.resource)⟩]

/-- The owner of a resource is named as that of this resource. -/
theorem resource_of_ownerIn {log : List Exchange} {resource : ResourceKey} {lock : Lock}
    (owner : ownerIn log resource = some lock) : lock.resource = resource := by
  obtain ⟨⟨r, outcome⟩, -, asked⟩ := List.exists_of_findSome?_eq_some owner
  cases r with
  | acquire wanted =>
      rw [Exchange.asked?_acquire] at asked
      split at asked
      next same =>
        cases asked
        exact same
      next => cases asked
  | owner _ => cases asked
  | ensureFree _ => cases asked
  | release _ _ => cases asked

/-- After any calls, by any flows and on any resources, the next one is answered by the owner of its
resource: the first lock that was asked for since the last release that succeeded. The locks then
are the owners by the longer log, where no other resource has got another owner; no other row is
touched, and none at all unless a free resource is taken or an owner gives its resource up. -/
theorem answers_by_owner {w : World} {log : List Exchange} (reached : Reached w log)
    (calm : w.store.Calm) (deadline : Option Nat) (r : Request)
    (uncut : ∀ m ∈ Program.timeline deadline r.work w, ¬ m.IsCut deadline) : ∃ w',
      Program.run deadline r.work w = (some (r.verdict (ownerIn log r.resource)), w') ∧
      Reached w' (r.logged log) ∧
      (∀ resource, w'.store.tables.locks.get? resource = ownerIn (r.logged log) resource) ∧
      (∀ other, r.resource ≠ other → ownerIn (r.logged log) other = ownerIn log other) ∧
      (∀ resource lock, ownerIn (r.logged log) resource = some lock → lock.resource = resource) ∧
      (∃ locks, w'.contents =
        { w.contents with tables := { w.store.tables with locks } }) ∧
      (¬ r.Moves (ownerIn log r.resource) → w'.contents = w.contents) := by
  obtain ⟨w', ran, contents⟩ := Request.run_work calm uncut
  rw [reached.owners] at ran
  have next : Reached w' (r.logged log) := .call deadline r calm uncut ran reached
  refine ⟨w', ran, next, next.owners, fun other ne => ownerIn_concat_of_ne log ne,
    fun resource lock owner => resource_of_ownerIn owner, ⟨_, contents⟩, fun stays => ?_⟩
  rw [← reached.owners] at stays
  rw [contents, Request.leave_of_not_moves stays]
  rfl

/-- The lock of a flow that is deleting a listener. -/
def firstLock : Lock := ⟨⟨"lb-1", .loadBalancer⟩, 1, .listenerDelete⟩

/-- Another flow has asked for the resource in vain, and has tried to release it. -/
def contest : List Exchange :=
  [⟨.acquire firstLock, .ok firstLock⟩,
    ⟨.acquire { firstLock with flow := 2 }, .error firstLock.busy⟩,
    ⟨.release firstLock.resource 2, .ok false⟩]

def contested : World where
  store := { tables := { locks := [(firstLock.resource, firstLock)] } }

/-- The first flow asks once more, for another kind of change, and is given the lock it has. -/
theorem answers_by_owner_contested : Reached contested contest ∧ contested.store.Calm ∧
    (∀ m ∈ Program.timeline (some 5)
      (Request.acquire { firstLock with kind := .targetGroupModify }).work contested,
        ¬ m.IsCut (some 5)) ∧
    ∃ w', Program.run (some 5)
        (Request.acquire { firstLock with kind := .targetGroupModify }).work contested =
          (some (.ok firstLock), w') ∧
      w'.contents = contested.contents := by
  have calm : contested.store.Calm := ⟨⟨rfl, rfl⟩, rfl⟩
  have untimed : ∀ m : Moment, ¬ m.IsCut none := by
    intro m ⟨time, name, cut⟩
    cases cut
  have free : Reached {} [] := .start {} rfl
  have locked := Reached.call none (.acquire firstLock) ⟨⟨rfl, rfl⟩, rfl⟩
    (fun m _ => untimed m) rfl free
  have lost := Reached.call none (.acquire { firstLock with flow := 2 }) calm
    (fun m _ => untimed m) rfl (.elsewhere contested (by rfl) locked)
  have kept := Reached.call none (.release firstLock.resource 2) calm
    (fun m _ => untimed m) rfl (.elsewhere contested (by rfl) lost)
  have reached : Reached contested contest := .elsewhere contested (by rfl) kept
  have uncut : ∀ m ∈ Program.timeline (some 5)
      (Request.acquire { firstLock with kind := .targetGroupModify }).work contested,
        ¬ m.IsCut (some 5) := by
    refine List.forall_mem_singleton.2 ?_
    intro ⟨time, name, cut⟩
    cases cut
  obtain ⟨w', ran, -, -, -, -, -, stays⟩ := answers_by_owner reached calm (some 5) _ uncut
  have owned : ownerIn contest firstLock.resource ≠ none := by decide
  exact ⟨reached, calm, uncut, w', ran, stays owned⟩

end Gate

end BalancerFlows
