import BalancerFlows.Proofs.Arena

/-!
# Mutual exclusion

Constructions come and make their calls in any order, faults, delays and everything else around the
rows changes at any time, and flows that were built may be released. A flow that may run owns its
load balancer until it is released, and no lock goes but by a release for its owner. The invariant
that carries this through every move is `Arena.Exclusive`.
-/
namespace BalancerFlows

namespace Arena

/-- A flow gives a resource up. It counts as released if it had it. -/
def release (a : Arena) (resource : ResourceKey) (flow : Int64) : Arena :=
  let (value, world) := Program.run none (Gate.release resource flow) a.world
  { a with
    world
    released := if value matches some (.ok true) then flow :: a.released else a.released }

/-- What may happen next. -/
inductive Move where
  | enter (b : Bid) (deadline : Option Nat)
  | advance (i : Nat)
  | elsewhere (w : World)
  | release (resource : ResourceKey) (flow : Int64)

/-- What it leads to. Nothing but its rows is kept of a world that changes elsewhere, and only a
flow whose construction has returned is released. -/
inductive Moves : Move → Arena → Arena → Prop
  | enter {a : Arena} (b : Bid) (deadline : Option Nat) :
      Moves (.enter b deadline) a (a.enter (b.contender deadline))
  | advance {a : Arena} (i : Nat) : Moves (.advance i) a (a.advance i)
  | elsewhere {a : Arena} (w : World) (same : w.store.tables = a.tables) :
      Moves (.elsewhere w) a { a with world := w }
  | release {a : Arena} (resource : ResourceKey) {i : Nat} {c : Contender} {built : Built}
      (here : a.contender? i = some c) (outcome : c.outcome = some (.ok built)) :
      Moves (.release resource built.flow) a (a.release resource built.flow)

/-- What any moves lead to from no rows at all. -/
inductive Arises : Arena → Prop
  | start (w : World) (empty : w.store.tables = {}) : Arises { world := w }
  | move {a a' : Arena} (m : Move) : Moves m a a' → Arises a → Arises a'

variable {a a' : Arena} {i : Nat} {c : Contender}

theorem tables_release (a : Arena) (resource : ResourceKey) (flow : Int64) :
    (a.release resource flow).tables = (a.tables.releaseLock resource flow).2 :=
  (Gate.run_release none resource flow a.world).2

theorem released_release (a : Arena) (resource : ResourceKey) (flow : Int64) :
    (a.release resource flow).released =
      if (a.tables.releaseLock resource flow).1 then flow :: a.released else a.released := by
  have value := (Gate.run_release none resource flow a.world).1
  have same : (a.release resource flow).released =
      if (Program.run none (Gate.release resource flow) a.world).1 matches some (.ok true) then
        flow :: a.released else a.released := rfl
  rw [same, value, tables]
  cases (a.world.store.tables.releaseLock resource flow).1 <;> rfl

theorem release_cases (a : Arena) (resource : ResourceKey) (flow : Int64) :
    (a.release resource flow).tables = a.tables ∧
        (a.release resource flow).released = a.released ∨
      ∃ l, a.tables.locks.get? resource = some l ∧ l.flow = flow ∧
        (a.release resource flow).tables =
          { a.tables with locks := a.tables.locks.erase resource } ∧
        (a.release resource flow).released = flow :: a.released := by
  rw [tables_release, released_release]
  rcases a.tables.releaseLock_cases resource flow with same | ⟨l, held, owner, same⟩
  · rw [same]
    exact .inl ⟨rfl, rfl⟩
  · rw [same]
    exact .inr ⟨l, held, owner, rfl, rfl⟩

theorem Moves.later {m : Move} (h : Moves m a a') : a.tables.Later a'.tables := by
  cases h with
  | enter b deadline => exact .refl _
  | advance i => exact a.later_advance i
  | elsewhere w same =>
      have same : a.tables = w.store.tables := same.symm
      show a.tables.Later w.store.tables
      rw [same]
  | release resource here outcome =>
      rw [tables_release]
      exact a.tables.later_carryOut (.releaseLock resource _)

end Arena

/-- The terms of constructions that claim load balancers under any faults. -/
def Terms.contest : Terms :=
  .faulty fun k => k.kind = .loadBalancer

namespace Arena

/-- A construction that returns a flow has added it. -/
def Returns : Except Failure Built → Own → Tables → Prop :=
  fun r o _ => ∀ built, r = .ok built → built.flow ∈ o.flows

/-- The construction has built a flow, which may have been released since. -/
def Complete (c : Contender) : Prop :=
  ∃ built, c.outcome = some (.ok built) ∧ built.flow ∈ c.own.flows

theorem idle_complete : ∀ c, Complete c → c.outcome.isSome := by
  rintro c ⟨built, outcome, -⟩
  rw [outcome]
  rfl

/-- Each lock is for a load balancer and names a flow for it, which somebody has added, and unless
it was released a flow that may run has its lock. -/
structure Exclusive (a : Arena) : Prop where
  fair : Fair Terms.contest Returns Complete a
  balancer : ∀ {k l}, a.tables.locks.get? k = some l → k.kind = .loadBalancer
  owner : ∀ {k l}, a.tables.locks.get? k = some l → ∃ f, a.tables.flows.get? l.flow = some f ∧
    f.balancer? = some k.id ∧ l.kind = f.operation.lockKind
  added : ∀ {k l}, a.tables.locks.get? k = some l →
    ∃ i c, a.contender? i = some c ∧ l.flow ∈ c.own.flows
  held : ∀ {g f}, a.tables.flows.get? g = some f → f.state = .pending → g ∉ a.released →
    ∃ balancer l, f.balancer? = some balancer ∧
      a.tables.locks.get? { id := balancer, kind := .loadBalancer } = some l ∧ l.flow = g

variable {a a' : Arena} {i : Nat} {c : Contender}

theorem exclusive_start (w : World) (empty : w.store.tables = {}) :
    Exclusive { world := w } := by
  have none : ({ world := w } : Arena).tables = {} := empty
  constructor
  · constructor
    · rw [none]
      exact Tables.numbered_empty
    · intro i c found
      cases found
    · intro i c found
      cases found
    · intro i j c c' found
      cases found
  · intro k l found
    rw [none] at found
    cases found
  · intro k l found
    rw [none] at found
    cases found
  · intro k l found
    rw [none] at found
    cases found
  · intro g f found
    rw [none] at found
    cases found

theorem stands_bid (b : Bid) (deadline : Option Nat) (t : Tables) :
    Stands Terms.contest Returns Complete (b.contender deadline) t := by
  have keeps := b.keeps (Terms.hosts_faulty fun k => k.kind = .loadBalancer) rfl deadline t
  refine .inl (keeps.mono ?_)
  intro r o t finished built ok
  subst ok
  obtain ⟨f, details, running, flow, -⟩ := finished
  rw [running.own, ← flow]
  exact List.mem_singleton_self _

namespace Exclusive

/-- A construction that has returned a flow has added it. -/
theorem complete (h : Exclusive a) (here : a.contender? i = some c) {built : Built}
    (outcome : c.outcome = some (.ok built)) : built.flow ∈ c.own.flows := by
  rcases h.fair.stands here with keeps | ⟨built', outcome', own⟩
  · rw [Contender.outcome_eq_some.1 outcome] at keeps
    exact keeps a.tables (Terms.contest.rely_refl _ _) built rfl
  · rw [outcome, Option.some.injEq, Except.ok.injEq] at outcome'
    exact outcome' ▸ own

theorem enter (h : Exclusive a) (b : Bid) (deadline : Option Nat) :
    Exclusive (a.enter (b.contender deadline)) := by
  constructor
  · exact h.fair.enter (stands_bid b deadline a.tables) rfl
  · exact h.balancer
  · exact h.owner
  · intro k l found
    obtain ⟨i, c, there, own⟩ := h.added found
    exact ⟨i, c, contender?_enter there _, own⟩
  · exact h.held

theorem advance (h : Exclusive a) (here : a.contender? i = some c)
    (fits : (a.advance i).tables.Fits) : Exclusive (a.advance i) := by
  have governs : Terms.contest.Governs c.deadline a.world.store := Terms.governs_faulty _ _ _
  have fair := h.fair.advance (Terms.shares_faulty _) idle_complete here governs fits
  have write := (h.fair.step (Terms.shares_faulty _) idle_complete here governs fits).1
  constructor
  · exact fair
  · intro k l found
    rcases write.lock_cases found with held | ⟨claimed, -⟩
    · exact h.balancer held
    · exact claimed
  · intro k l found
    have named : ∃ f, a.tables.flows.get? l.flow = some f ∧ f.balancer? = some k.id ∧
        l.kind = f.operation.lockKind := by
      rcases write.lock_cases found with held | ⟨-, -, named⟩
      · exact h.owner held
      · exact named
    obtain ⟨f, stored, balancer, kind⟩ := named
    obtain ⟨state, after⟩ := write.exists_flow h.fair.numbered fair.numbered stored
    exact ⟨_, after, balancer, kind⟩
  · intro k l found
    rcases write.lock_cases found with held | ⟨-, own, -⟩
    · obtain ⟨j, c', there, own⟩ := h.added held
      exact ⟨j, exists_own_advance i there own⟩
    · exact ⟨i, exists_own_advance i here own⟩
  · intro g f found pending unreleased
    have unreleased : g ∉ a.released := by
      rw [released_advance] at unreleased
      exact unreleased
    have before : ∃ balancer l, f.balancer? = some balancer ∧
        a.tables.locks.get? { id := balancer, kind := .loadBalancer } = some l ∧ l.flow = g := by
      rcases write.pending_cases found pending with old | ⟨l, state, stored, held, owner⟩
      · exact h.held old pending unreleased
      -- The lock under which the flow begins to run is for the load balancer it is told to work on.
      · obtain ⟨f', stored', balancer, -⟩ := h.owner held
        rw [owner, stored, Option.some.injEq] at stored'
        have balancer : f.balancer? = some l.resource.id := by
          rw [← stored'] at balancer
          exact balancer
        have key : { id := l.resource.id, kind := .loadBalancer } = l.resource := by
          rw [← h.balancer held]
        exact ⟨l.resource.id, l, balancer, key ▸ held, owner⟩
    obtain ⟨balancer, l, named, held, owner⟩ := before
    exact ⟨balancer, l, named, write.get?_locks held, owner⟩

theorem congr (h : Exclusive a) (tables : a'.tables = a.tables)
    (contenders : a'.contenders = a.contenders) (released : a'.released = a.released) :
    Exclusive a' := by
  have there : ∀ i, a'.contender? i = a.contender? i := fun i => by
    rw [contender?, contenders, contender?]
  constructor
  · constructor
    · rw [tables]
      exact h.fair.numbered
    · intro i c found
      rw [there] at found
      rw [tables]
      exact h.fair.stands found
    · intro i c found
      rw [there] at found
      rw [tables]
      exact h.fair.present found
    · intro i j c c' found found'
      rw [there] at found found'
      exact h.fair.apart found found'
  · rw [tables]
    exact h.balancer
  · rw [tables]
    exact h.owner
  · intro k l found
    rw [tables] at found
    obtain ⟨i, c, here, own⟩ := h.added found
    exact ⟨i, c, (there i).trans here, own⟩
  · rw [tables, released]
    exact h.held

/-- Dropping the lock of a flow that was built is the end of its construction, and nothing to the
others. -/
theorem fair_release (h : Exclusive a) (resource : ResourceKey) {built : Built}
    (here : a.contender? i = some c) (outcome : c.outcome = some (.ok built)) {l : Lock}
    (held : a.tables.locks.get? resource = some l) (owner : l.flow = built.flow)
    (tables : a'.tables = { a.tables with locks := a.tables.locks.erase resource })
    (numbered : a'.tables.Numbered) (there : ∀ i, a'.contender? i = a.contender? i) :
    Fair Terms.contest Returns Complete a' := by
  have own := h.complete here outcome
  constructor
  · exact numbered
  · intro j c' found
    rw [there] at found
    by_cases mine : built.flow ∈ c'.own.flows
    · -- The contender that has added the flow is the one whose construction returned it.
      have same : j = i := by
        by_contra ne
        exact (h.fair.apart found here ne).flows built.flow mine own
      subst same
      rw [here, Option.some.injEq] at found
      subst found
      exact .inr ⟨built, outcome, own⟩
    · have undisturbed : Undisturbed c'.own a.tables a'.tables := by
        rw [tables]
        constructor
        · exact fun _ _ => rfl
        · exact fun _ _ => rfl
        · intro k l' found' theirs
          have other : resource ≠ k := by
            intro same
            subst same
            rw [held, Option.some.injEq] at found'
            subst found'
            exact mine (owner ▸ theirs)
          exact (Keyed.get?_erase_of_ne _ other).trans found'
      have rely : Terms.contest.rely c'.own a.tables a'.tables := ⟨undisturbed, False.elim⟩
      exact (h.fair.stands found).imp (fun keeps => keeps.of_rely rely) id
  · intro j c' found
    rw [there] at found
    have present := h.fair.present found
    rw [tables]
    exact ⟨present.details, present.flows⟩
  · intro j k c₁ c₂ found found'
    rw [there] at found found'
    exact h.fair.apart found found'

theorem release (h : Exclusive a) (resource : ResourceKey) {built : Built}
    (here : a.contender? i = some c) (outcome : c.outcome = some (.ok built)) :
    Exclusive (a.release resource built.flow) := by
  have numbered : (a.release resource built.flow).tables.Numbered := by
    rw [tables_release]
    exact Tables.numbered_releaseLock h.fair.numbered resource built.flow
  rcases a.release_cases resource built.flow with
    ⟨tables, released⟩ | ⟨l, held, owner, tables, released⟩
  · exact h.congr tables rfl released
  · have kept : ∀ {k l'}, (a.release resource built.flow).tables.locks.get? k = some l' →
        resource ≠ k ∧ a.tables.locks.get? k = some l' := by
      intro k l' found
      rw [tables] at found
      by_cases same : resource = k
      · subst same
        simp only [Keyed.get?_erase] at found
        cases found
      · simp only [Keyed.get?_erase_of_ne _ same] at found
        exact ⟨same, found⟩
    constructor
    · exact h.fair_release resource here outcome held owner tables numbered fun _ => rfl
    · intro k l' found
      exact h.balancer (kept found).2
    · intro k l' found
      rw [tables]
      exact h.owner (kept found).2
    · intro k l' found
      exact h.added (kept found).2
    · intro g f found pending unreleased
      rw [released, List.mem_cons, not_or] at unreleased
      rw [tables] at found
      obtain ⟨balancer, l', named, held', owner'⟩ := h.held found pending unreleased.2
      -- A lock names one flow, so the lock that goes is not the one of this flow.
      have other : resource ≠ { id := balancer, kind := .loadBalancer } := by
        intro same
        subst same
        rw [held, Option.some.injEq] at held'
        exact unreleased.1 (owner'.symm.trans (held' ▸ owner))
      refine ⟨balancer, l', named, ?_, owner'⟩
      rw [tables]
      exact (Keyed.get?_erase_of_ne _ other).trans held'

end Exclusive

theorem Arises.exclusive (h : Arises a) (fits : a.tables.Fits) : Exclusive a := by
  induction h with
  | start w empty => exact exclusive_start w empty
  | @move a a' m moved _ ih =>
      have before := ih (fits.of_later moved.later)
      cases moved with
      | enter b deadline => exact before.enter b deadline
      | advance i =>
          cases here : a.contender? i with
          | none =>
              rw [advance_of_none here]
              exact before
          | some c => exact before.advance here fits
      | elsewhere w same => exact before.congr same rfl rfl
      | release resource here outcome => exact before.release resource here outcome

/-- Any calls of the contenders are moves. -/
theorem Arises.run (h : Arises a) (schedule : List Nat) : Arises (a.run schedule) := by
  induction schedule generalizing a with
  | nil => exact h
  | cons i rest ih => exact ih (.move (.advance i) (.advance i) h)

/-- A flow that may run and was not released. -/
structure Active (a : Arena) (f : Flow) : Prop where
  stored : f ∈ a.tables.flows.values
  pending : f.state = .pending
  unreleased : f.id ∉ a.released

/-- The lock of the load balancer is for that flow and what it does. -/
def Owns (a : Arena) (f : Flow) (balancer : String) : Prop :=
  ∃ l, a.tables.locks.get? { id := balancer, kind := .loadBalancer } = some l ∧ l.flow = f.id ∧
    l.kind = f.operation.lockKind

namespace Exclusive

theorem exists_owns (h : Exclusive a) {f : Flow} (active : a.Active f) :
    ∃ balancer, f.balancer? = some balancer ∧ a.Owns f balancer := by
  have stored := h.fair.numbered.flows.mem_values.1 active.stored
  obtain ⟨balancer, l, named, held, owner⟩ := h.held stored active.pending active.unreleased
  obtain ⟨f', stored', -, kind⟩ := h.owner held
  rw [owner, stored, Option.some.injEq] at stored'
  exact ⟨balancer, named, l, held, owner, stored' ▸ kind⟩

theorem eq_of_balancer_eq (h : Exclusive a) {f g : Flow} (active : a.Active f)
    (active' : a.Active g) (same : f.balancer? = g.balancer?) : f = g := by
  obtain ⟨balancer, named, l, held, owner, -⟩ := h.exists_owns active
  obtain ⟨balancer', named', l', held', owner', -⟩ := h.exists_owns active'
  rw [same, named', Option.some.injEq] at named
  subst named
  rw [held, Option.some.injEq] at held'
  subst held'
  have stored := h.fair.numbered.flows.mem_values.1 active.stored
  have stored' := h.fair.numbered.flows.mem_values.1 active'.stored
  rw [← owner] at stored
  rw [← owner', stored, Option.some.injEq] at stored'
  exact stored'

/-- No lock goes but by a release for its owner. -/
theorem lock_kept (h : Exclusive a) {m : Move} (moved : Moves m a a') (fits : a'.tables.Fits)
    {k : ResourceKey} {l : Lock} (held : a.tables.locks.get? k = some l) :
    a'.tables.locks.get? k = some l ∨ m = .release k l.flow := by
  cases moved with
  | enter b deadline => exact .inl held
  | elsewhere w same =>
      have same : ({ a with world := w } : Arena).tables = a.tables := same
      rw [same]
      exact .inl held
  | advance i =>
      cases here : a.contender? i with
      | none =>
          rw [advance_of_none here]
          exact .inl held
      | some c =>
          have write := (h.fair.step (Terms.shares_faulty _) idle_complete here
            (Terms.governs_faulty _ c.deadline a.world.store) fits).1
          exact .inl (write.get?_locks held)
  | @release _ resource i c built here outcome =>
      rcases a.release_cases resource built.flow with ⟨tables, -⟩ | ⟨l', held', owner, tables, -⟩
      · rw [tables]
        exact .inl held
      · rw [tables]
        by_cases same : resource = k
        · subst same
          rw [held, Option.some.injEq] at held'
          rw [held', owner]
          exact .inr rfl
        · exact .inl ((Keyed.get?_erase_of_ne _ same).trans held)

end Exclusive

/-- Whatever fails and in whatever order calls are made: a flow that may run and was not released
owns the load balancer it is for, no two such flows are for the same one, and no move changes or
drops a lock but a release for its owner. -/
theorem unreleased_flows_own_balancers {a : Arena} (arises : a.Arises) (fits : a.tables.Fits) :
    (∀ f, a.Active f → ∃ balancer, f.balancer? = some balancer ∧ a.Owns f balancer) ∧
      (∀ f g, a.Active f → a.Active g → f.balancer? = g.balancer? → f = g) ∧
        ∀ m a', Moves m a a' → a'.tables.Fits → ∀ k l, a.tables.locks.get? k = some l →
          a'.tables.locks.get? k = some l ∨ m = .release k l.flow := by
  have exclusive := arises.exclusive fits
  refine ⟨?_, ?_, ?_⟩
  · intro f active
    exact exclusive.exists_owns active
  · intro f g active active' same
    exact exclusive.eq_of_balancer_eq active active' same
  · intro m a' moved fits' k l held
    exact exclusive.lock_kept moved fits' held

/-- Two deletions of one listener, the second of which comes when the first is over. -/
def oneAfterAnother : Arena :=
  let first := (({ world := {} } : Arena).enter ((Bid.deletion "a").contender none)).run
    (List.replicate 9 0)
  (first.enter ((Bid.deletion "b").contender none)).run (List.replicate 9 1)

theorem unreleased_flows_own_balancers_oneAfterAnother :
    ∃ f, oneAfterAnother.Active f ∧
      ∃ balancer, f.balancer? = some balancer ∧ oneAfterAnother.Owns f balancer := by
  have first : Arises ((({ world := {} } : Arena).enter ((Bid.deletion "a").contender none)).run
      (List.replicate 9 0)) :=
    .run (.move _ (.enter (.deletion "a") none) (.start {} rfl)) _
  have arises : oneAfterAnother.Arises := .run (.move _ (.enter (.deletion "b") none) first) _
  have fits : oneAfterAnother.tables.Fits := by
    decide +kernel
  have runs : ∃ f ∈ oneAfterAnother.tables.flows.values,
      f.state = .pending ∧ f.id ∉ oneAfterAnother.released := by
    decide +kernel
  obtain ⟨f, stored, pending, unreleased⟩ := runs
  have active : oneAfterAnother.Active f := ⟨stored, pending, unreleased⟩
  exact ⟨f, active, (unreleased_flows_own_balancers arises fits).1 f active⟩

end Arena

end BalancerFlows
