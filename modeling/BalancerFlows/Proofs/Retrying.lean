import BalancerFlows.Proofs.Chaining
import BalancerFlows.Proofs.Recording

/-!
# Pushing again after failures

A call is pushed behind a chain, and the push may fail in the store or at the deadline. A push that
fails leaves the chain and the store as they were, so whoever tries again goes on where the last
push that succeeded has ended. Main statement: `Chain.pushed_despite_failures`, for any numbering,
any attempts, and anything that happens in the world between them.
-/
namespace BalancerFlows

theorem Work.run_askStore (deadline : Option Nat) (guard : Guard) (c : StoreCall) (w : World) :
    Program.run deadline (askStore guard c) w =
      (some (w.call deadline guard (.store c)).1, (w.call deadline guard (.store c)).2) := rfl

/-- Details are created as a whole or not at all. -/
theorem DetailScope.run_create (scope : DetailScope) (params : List Json) (deadline : Option Nat)
    (w : World) :
    (∃ failure, (Program.run deadline (scope.create params) w).1 = some (.error failure) ∧
      (Program.run deadline (scope.create params) w).2.contents = w.contents) ∨
    (Program.run deadline (scope.create params) w).1 =
        some (.ok (scope.news params w.store.tables)) ∧
      (Program.run deadline (scope.create params) w).2.contents =
        { w.contents with tables := w.store.tables.withDetails (scope.rows params id) } := by
  have stored : (params.map scope.detail).map NewDetail.store = scope.rows params id := by
    rw [rows, List.map_map]
    rfl
  unfold create
  split
  next empty =>
    rw [List.isEmpty_iff] at empty
    subst empty
    exact .inr ⟨rfl, rfl⟩
  next =>
    have plain : StoreCall.Plain (.createDetails (params.map scope.detail)) := trivial
    have created : (w.store.tables.carryOut (.createDetails (params.map scope.detail))).1 =
        .ok (scope.news params w.store.tables) := by
      rw [news, ← stored]
      exact congrArg Except.ok (Table.addAll_fst _ _)
    obtain ⟨answered, -⟩ := w.answered deadline (.started "create_task_details")
      (.store (.createDetails (params.map scope.detail)))
    rw [Work.run_bind, Work.run_askStore]
    rcases answered.plain_cases plain with ⟨refusal, -, refused, same⟩ | ⟨done, after⟩
    · rw [refused]
      exact .inl ⟨refusal, rfl, same⟩
    · rw [done.trans created]
      exact .inr ⟨rfl, after.trans (by rw [← stored]; rfl)⟩

namespace Numbering

variable (n : Numbering)

/-- The id that is issued after `k` others. -/
def nth (k : Nat) : ActionId :=
  ⟨Decimal.text (n.next.toNat + k * n.step.toNat)⟩

/-- The id that is issued before that one, if it is not the first. -/
def before : Nat → Option ActionId
  | 0 => none
  | k + 1 => some (n.nth k)

def after (k : Nat) : Numbering :=
  { n with next := .ofNat (n.next.toNat + k * n.step.toNat) }

/-- A counter that has room issues its ids one after the other. -/
theorem issue?_after {k : Nat} (room : n.next.toNat + (k + 1) * n.step.toNat < UInt64.size) :
    (n.after k).issue? = some (n.nth k, n.after (k + 1)) := by
  have fits : n.next.toNat + k * n.step.toNat < UInt64.size := by
    rw [Nat.add_mul, Nat.one_mul] at room
    omega
  have here : (n.after k).next.toNat = n.next.toNat + k * n.step.toNat :=
    UInt64.toNat_ofNat_of_lt' fits
  have sum : n.next.toNat + (k + 1) * n.step.toNat =
      n.next.toNat + k * n.step.toNat + n.step.toNat := by
    rw [Nat.succ_mul, Nat.add_assoc]
  have enough : (n.after k).next.toNat + n.step.toNat < UInt64.size := by
    rw [here, ← sum]
    exact room
  have next : (n.after k).next + n.step = (n.after (k + 1)).next := by
    show UInt64.ofNat _ + n.step = UInt64.ofNat _
    rw [sum, UInt64.ofNat_add _ n.step.toNat, UInt64.ofNat_toNat]
  refine (if_pos enough).trans ?_
  rw [here]
  exact congrArg (fun next => some (n.nth k, { n with next })) next

theorem after_zero : n.after 0 = n := by
  rw [after, Nat.zero_mul, Nat.add_zero, UInt64.ofNat_toNat]

theorem step_withStep (start step : UInt64) :
    (withStep start step).step.toNat = max step.toNat 1 :=
  UInt64.toNat_max step 1

theorem nth_withStep (start step : UInt64) (k : Nat) :
    (withStep start step).nth k = ⟨Decimal.text (start.toNat + k * max step.toNat 1)⟩ := by
  rw [nth, step_withStep]
  rfl

end Numbering

namespace Chain

variable (c : Chain)

/-- The chain behind which these calls were put, each with its details, where there was nothing
before. -/
def grown (parts : List (PlannedCall × List Detail)) : Chain :=
  { c with
    numbering := c.numbering.after parts.length
    last := c.numbering.before parts.length
    tasks := parts.mapIdx fun k part =>
      { id := c.numbering.nth k, action := part.1.request.action
        params :=
          { vendor := c.vendor, detailIds := part.2.map Detail.id, request := part.1.request }
        dependsOn := (c.numbering.before k).toList, retry := c.retry }
    details := (parts.mapIdx fun k part =>
      part.2.map (Detail.bindAction (c.numbering.nth k))).flatten }

theorem extend_grown (parts : List (PlannedCall × List Detail)) (call : PlannedCall)
    (details : List Detail) :
    (c.grown parts).extend
        ((c.grown parts).taskFor (c.numbering.nth parts.length) details call.request) details
        (c.numbering.after (parts.length + 1)) =
      c.grown (parts ++ [(call, details)]) := by
  simp only [grown, extend, taskFor, FlowTask.ofParams, List.mapIdx_concat, List.flatten_append,
    List.flatten_singleton, List.length_append, List.length_singleton, Numbering.before]

/-- A push fails and leaves chain and contents, or it puts the call behind the chain. -/
theorem run_push {numbering : Numbering} {name : ActionId}
    (issued : c.numbering.issue? = some (name, numbering)) (call : PlannedCall)
    (deadline : Option Nat) (w : World) :
    (∃ failure, (Program.run deadline (c.pushAll [call]) w).1 =
        some { chain := c, outcome := .error failure } ∧
      (Program.run deadline (c.pushAll [call]) w).2.contents = w.contents) ∨
    (Program.run deadline (c.pushAll [call]) w).1 =
        some { chain := c.extend (c.taskFor name (c.scope.news call.params w.store.tables)
          call.request) (c.scope.news call.params w.store.tables) numbering, outcome := .ok () } ∧
      (Program.run deadline (c.pushAll [call]) w).2.contents =
        { w.contents with tables := w.store.tables.withDetails (c.scope.rows call.params id) } := by
  have pushed : Program.run deadline (c.push call) w = _ := Work.run_bind ..
  have whole : Program.run deadline (c.pushAll [call]) w = _ := Program.run_bind ..
  rw [show Program.run deadline (Work.outcome (c.push call)) w = _ from pushed] at whole
  rcases h : Program.run deadline (c.scope.create call.params) w with ⟨outcome, w'⟩
  rcases c.scope.run_create call.params deadline w with ⟨failure, failed, same⟩ | ⟨done, after⟩
  · rw [h] at failed same whole
    cases failed
    rw [whole]
    exact .inl ⟨failure, rfl, same⟩
  · rw [h] at done after whole
    cases done
    simp only [append, issued] at whole
    rw [whole]
    exact .inr ⟨rfl, after⟩

/-- One attempt to push a call: under which deadline, and what happens in the world before. -/
structure Attempt where
  call : PlannedCall
  deadline : Option Nat := none
  meanwhile : World → World := id

/-- What came of an attempt: the chain and the world that it found, and those that it left. -/
structure Try where
  attempt : Attempt
  chain : Chain
  before : World
  pushed : Pushed
  after : World

namespace Try

/-- The call and its details, if they were created. -/
def part? (t : Try) : Option (PlannedCall × List Detail) :=
  match t.pushed.outcome with
  | .ok () => some (t.attempt.call,
      t.chain.scope.news t.attempt.call.params t.before.store.tables)
  | .error _ => none

/-- What fails has done nothing, and what succeeds has stored just the details of the call. -/
structure Clean (t : Try) : Prop where
  failed : ∀ failure, t.pushed.outcome = .error failure →
    t.pushed.chain = t.chain ∧ t.after.contents = t.before.contents
  succeeded : t.pushed.outcome = .ok () → t.after.contents = { t.before.contents with
    tables := t.before.store.tables.withDetails (t.chain.scope.rows t.attempt.call.params id) }

end Try

/-- Makes attempts one after the other, each with the chain that the one before has left. The value
is missing when the numbering ran over. -/
def tryAll (c : Chain) (w : World) : List Attempt → Option (List Try × Chain)
  | [] => some ([], c)
  | a :: rest =>
      match Program.run a.deadline (c.pushAll [a.call]) (a.meanwhile w) with
      | (none, _) => none
      | (some pushed, w') => do
          let (tries, longer) ← pushed.chain.tryAll w' rest
          return ({ attempt := a, chain := c, before := a.meanwhile w, pushed, after := w' } ::
            tries, longer)

theorem tryAll_cons {a : Attempt} {rest : List Attempt} {w w' : World} {pushed : Pushed}
    {tries : List Try} {longer : Chain}
    (ran : Program.run a.deadline (c.pushAll [a.call]) (a.meanwhile w) = (some pushed, w'))
    (others : pushed.chain.tryAll w' rest = some (tries, longer)) :
    c.tryAll w (a :: rest) = some (⟨a, c, a.meanwhile w, pushed, w'⟩ :: tries, longer) := by
  rw [tryAll, ran]
  simp only [others]
  rfl

theorem tryAll_grown (attempts : List Attempt) (parts : List (PlannedCall × List Detail))
    (w : World)
    (room : c.numbering.next.toNat + (parts.length + attempts.length) * c.numbering.step.toNat <
      UInt64.size) :
    ∃ tries, (c.grown parts).tryAll w attempts =
        some (tries, c.grown (parts ++ tries.filterMap Try.part?)) ∧
      tries.map Try.attempt = attempts ∧ ∀ t ∈ tries, t.Clean := by
  induction attempts generalizing parts w with
  | nil => exact ⟨[], by simp [tryAll], rfl, List.forall_mem_nil _⟩
  | cons a rest ih =>
      have fits : ∀ n ≤ parts.length + (rest.length + 1),
          c.numbering.next.toNat + n * c.numbering.step.toNat < UInt64.size := fun n le =>
        Nat.lt_of_le_of_lt (Nat.add_le_add_left (Nat.mul_le_mul_right _ le) _) room
      have issued : (c.grown parts).numbering.issue? =
          some (c.numbering.nth parts.length, c.numbering.after (parts.length + 1)) :=
        c.numbering.issue?_after (fits _ (by omega))
      rcases h : Program.run a.deadline ((c.grown parts).pushAll [a.call]) (a.meanwhile w) with
        ⟨pushed, w'⟩
      rcases (c.grown parts).run_push issued a.call a.deadline (a.meanwhile w) with
        ⟨failure, failed, same⟩ | ⟨done, after⟩
      · rw [h] at failed same
        cases failed
        obtain ⟨tries, ran, made, clean⟩ := ih parts w' (fits _ (by omega))
        refine ⟨_, (c.grown parts).tryAll_cons h ran, congrArg (a :: ·) made, ?_⟩
        refine List.forall_mem_cons.2 ⟨?_, clean⟩
        exact ⟨fun _ _ => ⟨rfl, same⟩, fun ok => by cases ok⟩
      · rw [h] at done after
        cases done
        rw [extend_grown] at h
        obtain ⟨tries, ran, made, clean⟩ := ih
          (parts ++ [(a.call, c.scope.news a.call.params (a.meanwhile w).store.tables)]) w'
          (fits _ (by rw [List.length_append, List.length_singleton]; omega))
        rw [List.append_assoc] at ran
        refine ⟨_, (c.grown parts).tryAll_cons h ran, congrArg (a :: ·) made, ?_⟩
        refine List.forall_mem_cons.2 ⟨?_, clean⟩
        exact ⟨fun _ failed => (by cases failed), fun _ => after⟩

def fresh (scope : DetailScope) (vendor : Vendor) (retry : RetryPolicy) (numbering : Numbering) :
    Chain :=
  { scope, vendor, retry, numbering }

theorem grown_fresh_nil (scope : DetailScope) (vendor : Vendor) (retry : RetryPolicy)
    (numbering : Numbering) : (fresh scope vendor retry numbering).grown [] =
      fresh scope vendor retry numbering := by
  show { fresh scope vendor retry numbering with numbering := numbering.after 0 } = _
  rw [numbering.after_zero]
  rfl

/-- Whatever fails in between, a chain ends as if only the pushes that succeeded had been made. The
ids of its tasks count from `start` without a gap, in steps of `step` or of one. -/
theorem pushed_despite_failures (scope : DetailScope) (vendor : Vendor) (retry : RetryPolicy)
    (start step : UInt64) (attempts : List Attempt) (w : World)
    (room : start.toNat + attempts.length * max step.toNat 1 ≤ 2 ^ 64 - 1) :
    (∀ k, (Numbering.withStep start step).nth k =
      ⟨Decimal.text (start.toNat + k * max step.toNat 1)⟩) ∧
    ∃ tries, (fresh scope vendor retry (.withStep start step)).tryAll w attempts =
        some (tries, (fresh scope vendor retry (.withStep start step)).grown
          (tries.filterMap Try.part?)) ∧
      tries.map Try.attempt = attempts ∧ (∀ t ∈ tries, t.Clean) ∧
      ∀ part ∈ tries.filterMap Try.part?, part.2.map Detail.param = part.1.params := by
  refine ⟨Numbering.nth_withStep start step, ?_⟩
  have fits : (Numbering.withStep start step).next.toNat + (([] : List (PlannedCall ×
      List Detail)).length + attempts.length) * (Numbering.withStep start step).step.toNat <
        UInt64.size := by
    rw [Numbering.step_withStep, List.length_nil, Nat.zero_add]
    exact Nat.lt_of_le_of_lt room (by decide)
  obtain ⟨tries, ran, made, clean⟩ :=
    (fresh scope vendor retry (.withStep start step)).tryAll_grown attempts [] w fits
  rw [grown_fresh_nil, List.nil_append] at ran
  refine ⟨tries, ran, made, clean, ?_⟩
  intro part mem
  obtain ⟨t, -, same⟩ := List.mem_filterMap.1 mem
  unfold Try.part? at same
  split at same
  next =>
    cases same
    exact DetailScope.rows_params _ fun _ => rfl
  next => cases same

def oneDeletionCall (listener : String) : PlannedCall where
  params := [.str listener]
  request := .deleteListeners "c-lb-1" [{ listener, cloudId := "c-" ++ listener }]

/-- Of three pushes the second one is refused by the store. -/
def secondRefused : List Attempt := [
  { call := oneDeletionCall "li-1" },
  { call := oneDeletionCall "li-2"
    meanwhile := fun w => w.setFaults fun f => f.refuse .createDetails "down" },
  { call := oneDeletionCall "li-3", meanwhile := fun w => w.setFaults Faults.refuseNone }]

theorem pushed_despite_failures_secondRefused :
    ∃ tries chain, (fresh { batch := 1, business := 7, operation := .deleteListener } .tCloud {}
        (.withStep 10 0)).tryAll {} secondRefused = some (tries, chain) ∧
      tries.map Try.attempt = secondRefused ∧ (∀ t ∈ tries, t.Clean) ∧
      chain.tasks.map (fun task => (task.id, task.dependsOn)) =
        [(⟨"10"⟩, []), (⟨"11"⟩, [⟨"10"⟩])] := by
  obtain ⟨-, tries, ran, made, clean, -⟩ := pushed_despite_failures
    { batch := 1, business := 7, operation := .deleteListener } .tCloud {} 10 0 secondRefused {}
    (by decide)
  have tasks : ((fresh { batch := 1, business := 7, operation := .deleteListener } .tCloud {}
      (.withStep 10 0)).tryAll {} secondRefused).map (fun ended =>
        ended.2.tasks.map fun task => (task.id, task.dependsOn)) =
      some [(⟨"10"⟩, []), (⟨"11"⟩, [⟨"10"⟩])] := by
    decide +kernel
  rw [ran] at tasks
  exact ⟨tries, _, ran, made, clean, Option.some.inj tasks⟩

end Chain

end BalancerFlows
