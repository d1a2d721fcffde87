import BalancerFlows.Proofs.Arena

/-!
# Races for one load balancer

Any number of constructions want the same free load balancer, and nothing fails. Exactly one of
them gets it, in whatever order they make their calls, and all others are told who did and leave
nothing behind that runs. Main statement: `Arena.Race.run`, by which every order of calls keeps the
race fair and every lock with a flow that one of them has added.
-/
namespace BalancerFlows

/-- The terms of constructions that race while nothing fails and nobody releases a lock. -/
def Terms.race : Terms :=
  .ofWrites (fun _ => True) (fun _ c t outcome t' => c.Faultless t outcome t')
    StoreCall.Faultless.effect True

theorem hosts_race : Terms.race.Hosts fun _ => True :=
  Terms.hosts_ofWrites StoreCall.Faultless.effect

theorem shares_race : Terms.race.Shares fun _ => True :=
  Terms.shares_ofWrites StoreCall.Faultless.effect

theorem calm_race : Terms.race.Calm :=
  ⟨id, fun rely _ _ found => rely.2 trivial _ _ found⟩

theorem governs_race {store : Store} (sound : store.Sound) : Terms.race.Governs none store := by
  intro w same guard c
  subst same
  exact (w.call_faultless sound guard c).1

namespace Arena

/-- The arena in which constructions start to race. -/
def start (w : World) (bids : List Bid) : Arena :=
  { world := w, contenders := bids.map fun b => b.contender none }

/-- What holds of a race after any calls. -/
structure Race (resource : ResourceKey) (a : Arena) : Prop where
  fair : Fair Terms.race (Construction.Finished Terms.race resource) (fun _ => False) a
  sound : a.world.store.Sound
  untimed : ∀ {i c}, a.contender? i = some c → c.deadline = none
  owned : ∀ {l}, a.tables.locks.get? resource = some l →
    ∃ i c, a.contender? i = some c ∧ l.flow ∈ c.own.flows

variable {resource : ResourceKey} {a : Arena}

theorem Race.advance (h : Race resource a) {i : Nat} (fits : (a.advance i).tables.Fits) :
    Race resource (a.advance i) := by
  cases here : a.contender? i with
  | none =>
      rw [advance_of_none here]
      exact h
  | some c =>
      have governs : Terms.race.Governs c.deadline a.world.store :=
        h.untimed here ▸ governs_race h.sound
      have idle : ∀ c : Contender, False → c.outcome.isSome := fun _ => False.elim
      have fair := h.fair.advance shares_race idle here governs fits
      have write := (h.fair.step shares_race idle here governs fits).1
      constructor
      · exact fair
      · rw [world_advance here]
        exact Program.sound_step c.deadline c.program h.sound
      · intro j c' found
        rw [contender?_advance here] at found
        split at found
        next =>
          have untimed := h.untimed here
          rw [← Option.some.inj found]
          exact untimed
        next => exact h.untimed found
      · intro l found
        rcases write.lock_cases found with held | ⟨-, own, -⟩
        · obtain ⟨j, c', there, own⟩ := h.owned held
          exact ⟨j, exists_own_advance i there own⟩
        · exact ⟨i, exists_own_advance i here own⟩

theorem Race.run (h : Race resource a) {schedule : List Nat}
    (fits : (a.run schedule).tables.Fits) : Race resource (a.run schedule) := by
  induction schedule generalizing a with
  | nil => exact h
  | cons i rest ih =>
      have fits_first : (a.advance i).tables.Fits := fits.of_later (later_run _ rest)
      exact ih (h.advance fits_first) fits

theorem race_start {w : World} {balancer : String} {bids : List Bid}
    (same : ∀ b ∈ bids, b.balancer = balancer) (numbered : w.store.tables.Numbered)
    (free : w.store.tables.locks.get? { id := balancer, kind := .loadBalancer } = none)
    (sound : w.store.Sound) :
    Race { id := balancer, kind := .loadBalancer } (start w bids) := by
  have bid : ∀ {i c}, (start w bids).contender? i = some c → ∃ b ∈ bids, c = b.contender none := by
    intro i c found
    have found : (bids.map fun b => b.contender none)[i]? = some c := found
    rw [List.getElem?_map, Option.map_eq_some_iff] at found
    obtain ⟨b, there, rfl⟩ := found
    exact ⟨b, List.mem_of_getElem? there, rfl⟩
  constructor
  · constructor
    · exact numbered
    · intro i c found
      obtain ⟨b, mem, rfl⟩ := bid found
      have keeps := b.keeps hosts_race trivial none w.store.tables
      have resource : b.scope.resource = { id := balancer, kind := .loadBalancer } := by
        rw [← same b mem]
        rfl
      exact .inl (resource ▸ keeps)
    · intro i c found
      obtain ⟨b, -, rfl⟩ := bid found
      exact Own.present_empty _
    · intro i j c c' found found' ne
      obtain ⟨b, -, rfl⟩ := bid found'
      exact .empty _
  · exact sound
  · intro i c found
    obtain ⟨b, -, rfl⟩ := bid found
    rfl
  · intro l found
    have found : w.store.tables.locks.get? { id := balancer, kind := .loadBalancer } = some l :=
      found
    rw [free] at found
    cases found

/-- What a construction leads to when nobody else is in its way holds at the end of its race. -/
theorem Race.finished (h : Race resource a) {i : Nat} {c : Contender}
    (here : a.contender? i = some c) {r : Except Failure Built} (outcome : c.outcome = some r) :
    Construction.Finished Terms.race resource r c.own a.tables := by
  rcases h.fair.stands here with keeps | never
  · rw [Contender.outcome_eq_some.1 outcome] at keeps
    exact keeps a.tables (Terms.race.rely_refl _ _)
  · exact never.elim

theorem Race.locked (h : Race resource a) {i : Nat} {c : Contender} (here : a.contender? i = some c)
    {r : Except Failure Built} (outcome : c.outcome = some r) :
    ∃ l, a.tables.locks.get? resource = some l := by
  have finished := h.finished here outcome
  cases r with
  | ok built =>
      obtain ⟨f, details, running, -⟩ := finished
      obtain ⟨l, held, -⟩ := running.held
      exact ⟨l, held⟩
  | error failure =>
      obtain ⟨l, held, -⟩ := finished.2 calm_race
      exact ⟨l, held⟩

end Arena

/-- The construction built a flow that may run and owns the resource. -/
structure Contender.Won (c : Contender) (resource : ResourceKey) (flow : Int64) (t : Tables) :
    Prop where
  returned : ∃ built, c.outcome = some (.ok built) ∧ built.flow = flow
  pending : ∃ f, t.flows.get? flow = some f ∧ f.state = .pending
  owner : ∃ l, t.locks.get? resource = some l ∧ l.flow = flow

/-- The construction was told that a flow owns the resource, and all it added has come to
nothing. -/
structure Contender.Lost (c : Contender) (resource : ResourceKey) (flow : Int64) (kind : LockKind)
    (t : Tables) : Prop where
  returned : c.outcome = some (.error (.busy resource.id resource.kind flow kind))
  details : ∀ id ∈ c.own.details, ∃ d, t.details.get? id = some d ∧ d.state = .failed ∧
    d.reason = some (Failure.busy resource.id resource.kind flow kind).message
  flows : ∀ id ∈ c.own.flows, ∃ f, t.flows.get? id = some f ∧ f.state = .init

namespace Arena

variable {resource : ResourceKey} {a : Arena} {c : Contender} {l : Lock}

/-- The construction whose flow owns the resource has won. -/
theorem Race.won (h : Race resource a) {i : Nat} (here : a.contender? i = some c)
    (ended : c.outcome.isSome) (held : a.tables.locks.get? resource = some l)
    (own : l.flow ∈ c.own.flows) : c.Won resource l.flow a.tables := by
  obtain ⟨r, outcome⟩ := Option.isSome_iff_exists.1 ended
  have finished := h.finished here outcome
  cases r with
  | ok built =>
      obtain ⟨f, details, running, flow, -⟩ := finished
      rw [running.own, List.mem_singleton] at own
      constructor
      · exact ⟨built, outcome, flow.symm.trans own.symm⟩
      · exact ⟨f, own ▸ running.flow, running.state⟩
      · exact ⟨l, held, rfl⟩
  | error failure =>
      obtain ⟨l', held', -, foreign⟩ := finished.2 calm_race
      rw [held, Option.some.injEq] at held'
      exact absurd own (held' ▸ foreign)

/-- A construction that has not added the flow that owns the resource has lost to it. -/
theorem Race.lost (h : Race resource a) {i : Nat} (here : a.contender? i = some c)
    (ended : c.outcome.isSome) (held : a.tables.locks.get? resource = some l)
    (foreign : l.flow ∉ c.own.flows) : c.Lost resource l.flow l.kind a.tables := by
  obtain ⟨r, outcome⟩ := Option.isSome_iff_exists.1 ended
  have finished := h.finished here outcome
  cases r with
  | ok built =>
      obtain ⟨f, details, running, -⟩ := finished
      obtain ⟨l', held', owner⟩ := running.held
      rw [held, Option.some.injEq] at held'
      rw [running.own, List.mem_singleton, held', owner] at foreign
      exact absurd rfl foreign
  | error failure =>
      obtain ⟨fallen, blamed⟩ := finished
      obtain ⟨l', held', busy, -⟩ := blamed calm_race
      rw [held, Option.some.injEq] at held'
      subst held'
      have named : failure = .busy resource.id resource.kind l.flow l.kind := by
        rw [busy, Lock.busy, h.fair.numbered.locks resource l held]
      subst named
      constructor
      · exact outcome
      · exact fallen.failed calm_race.spares
      · intro g mem
        obtain ⟨f, stored, -, init⟩ := fallen.unrun g mem
        exact ⟨f, stored, init calm_race⟩

end Arena

/-- Of constructions for the same load balancer, which nobody owns before, exactly one gets it: once
all have returned, in whatever order they made their calls, one has won and all others have lost
to its flow. -/
theorem one_contender_wins {w : World} {balancer : String} {bids : List Bid} {schedule : List Nat}
    (nonempty : bids ≠ []) (same : ∀ b ∈ bids, b.balancer = balancer)
    (reachable : w.store.tables.Reachable)
    (free : w.store.tables.locks.get? { id := balancer, kind := .loadBalancer } = none)
    (sound : w.store.Sound) (fits : ((Arena.start w bids).run schedule).tables.Fits)
    (ended : ∀ c ∈ ((Arena.start w bids).run schedule).contenders, c.outcome.isSome) :
    ∃ i c flow, ((Arena.start w bids).run schedule).contender? i = some c ∧
      c.Won { id := balancer, kind := .loadBalancer } flow
        ((Arena.start w bids).run schedule).tables ∧
      ∀ j c', ((Arena.start w bids).run schedule).contender? j = some c' → j ≠ i →
        ∃ kind, c'.Lost { id := balancer, kind := .loadBalancer } flow kind
          ((Arena.start w bids).run schedule).tables := by
  have later := Arena.later_run (Arena.start w bids) schedule
  have numbered : w.store.tables.Numbered := reachable.numbered (fits.of_later later)
  have race := (Arena.race_start same numbered free sound).run fits
  have returned : ∀ {i c}, ((Arena.start w bids).run schedule).contender? i = some c →
      c.outcome.isSome := fun here => ended _ (List.mem_of_getElem? here)
  have some_contender : ∃ c, ((Arena.start w bids).run schedule).contender? 0 = some c := by
    have length : ((Arena.start w bids).run schedule).contenders.length = bids.length := by
      rw [Arena.length_run]
      exact List.length_map _
    have pos : 0 < ((Arena.start w bids).run schedule).contenders.length := by
      rw [length]
      exact List.length_pos_of_ne_nil nonempty
    exact ⟨_, List.getElem?_eq_getElem pos⟩
  -- Whoever has returned saw a lock, and a lock is of a flow that one of the contenders added.
  obtain ⟨c₀, first⟩ := some_contender
  obtain ⟨r, outcome⟩ := Option.isSome_iff_exists.1 (returned first)
  obtain ⟨l, held⟩ := race.locked first outcome
  obtain ⟨i, c, here, own⟩ := race.owned held
  refine ⟨i, c, l.flow, here, race.won here (returned here) held own, ?_⟩
  intro j c' there ne
  have foreign := (race.fair.apart here there ne.symm).flows l.flow own
  exact ⟨l.kind, race.lost there (returned there) held foreign⟩

theorem one_contender_wins_deletions :
    ∃ i c flow, ((Arena.start {} [.deletion "a", .deletion "b"]).run
        (List.replicate 9 [0, 1]).flatten).contender? i = some c ∧
      c.Won { id := "lb-1", kind := .loadBalancer } flow
        ((Arena.start {} [.deletion "a", .deletion "b"]).run
          (List.replicate 9 [0, 1]).flatten).tables ∧
      ∀ j c', ((Arena.start {} [.deletion "a", .deletion "b"]).run
          (List.replicate 9 [0, 1]).flatten).contender? j = some c' → j ≠ i →
        ∃ kind, c'.Lost { id := "lb-1", kind := .loadBalancer } flow kind
          ((Arena.start {} [.deletion "a", .deletion "b"]).run
            (List.replicate 9 [0, 1]).flatten).tables := by
  refine one_contender_wins (by simp) (by simp [Bid.deletion]) .empty rfl ⟨rfl, rfl⟩ ?_ ?_
  · decide +kernel
  · decide +kernel

end BalancerFlows
