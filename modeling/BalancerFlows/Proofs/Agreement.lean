import BalancerFlows.Proofs.LocalRecords
import BalancerFlows.Proofs.Portions

/-!
# The two paths of a change

Targets of a group without binding are changed locally, those of a bound group by calls to the
cloud. Each path checks and records the change on its own: one over the whole list, the other chunk
by chunk. Main statement: `LocalChange.agrees_with_plans`. What is accepted locally is accepted for
the cloud under every limit, short lists meet with the same refusals, and both paths record the same
parameters.
-/
namespace BalancerFlows

theorem chunksOf_of_le {α : Type} {size : Nat} {items : List α} (some : items ≠ [])
    (short : items.length ≤ max size 1) : chunksOf size items = [items] := by
  cases items with
  | nil => exact absurd rfl some
  | cons item rest =>
      rw [List.length_cons] at short
      rw [chunksOf, List.take_of_length_le (by omega), List.drop_of_length_le (by omega), chunksOf]

theorem apartInChunks_of_nodup {α κ : Type} {key : α → κ} {items : List α}
    (nodup : (items.map key).Nodup) (size : Nat) : ApartInChunks size key items := by
  apply nodup_chunks_iff.1
  intro chunk mem
  have part : chunk.Sublist items := by
    rw [← chunksOf_flatten size items]
    exact List.sublist_flatten_of_mem mem
  exact (part.map key).nodup nodup

namespace Plan

section Params

variable {α : Type} {shape : CallShape α} {param : Binding → α → Json}

/-- The records of a plan are those of its items, in order and whatever the chunks are. -/
theorem params_ofGroups (recorded : ∀ b items, (shape.call b items).params = items.map (param b))
    {operation : Operation} {balancer : String} {limit : Nat} {groups : List (Binding × List α)}
    {p : Plan} (planned : ofGroups operation shape balancer limit groups = .ok p) :
    p.calls.flatMap PlannedCall.params = groups.flatMap fun g => g.2.map (param g.1) := by
  rw [(ofGroups_spec planned).1, groupedCalls, List.flatMap_assoc]
  congr 1
  funext g
  exact flatMap_chunksOf (recorded g.1)

end Params

def changeTargets (balancer : String) (limit : Nat) (groups : List BoundTargets) :
    TargetChange → Except Failure Plan
  | .weight value => modifyWeight balancer limit value groups
  | .port value => modifyPort balancer limit value groups

variable {balancer : String} {limit : Nat} {p : Plan}

theorem params_targetGroups {groups : List BoundTargets} {param : Target → Json} :
    ((targetGroups groups).flatMap fun g => g.2.map param) =
      (groups.flatMap BoundTargets.targets).map param := by
  rw [targetGroups, List.flatMap_map, List.map_flatMap]

theorem params_changeTargets {groups : List BoundTargets} {change : TargetChange}
    (planned : changeTargets balancer limit groups change = .ok p) :
    p.calls.flatMap PlannedCall.params =
      (groups.flatMap BoundTargets.targets).map change.param := by
  rw [← params_targetGroups]
  cases change with
  | weight value =>
      obtain ⟨-, -, planned⟩ := Except.bind_eq_ok_iff.1 planned
      exact params_ofGroups (fun _ _ => rfl) planned
  | port value =>
      obtain ⟨-, -, planned⟩ := Except.bind_eq_ok_iff.1 planned
      exact params_ofGroups (fun _ _ => rfl) planned

theorem params_removeTargets {groups : List BoundTargets}
    (planned : removeTargets balancer limit groups = .ok p) :
    p.calls.flatMap PlannedCall.params = (groups.flatMap BoundTargets.targets).map targetParam := by
  rw [← params_targetGroups]
  exact params_ofGroups (fun _ _ => rfl) planned

theorem params_addTargets {groups : List BoundSpecs}
    (planned : addTargets balancer limit groups = .ok p) :
    p.calls.flatMap PlannedCall.params =
      groups.flatMap fun g => g.targets.map (specParam g.binding.group) := by
  obtain ⟨-, -, planned⟩ := Except.bind_eq_ok_iff.1 planned
  rw [params_ofGroups (fun _ _ => rfl) planned, specGroups, List.flatMap_map]

theorem ne_nil_of_planned {shape : CallShape Target} {operation : Operation}
    {groups : List BoundTargets}
    (planned : ofGroups operation shape balancer limit (targetGroups groups) = .ok p) :
    groups.flatMap BoundTargets.targets ≠ [] := by
  have accepted := (decides_ofGroups shape balancer limit operation _).passes.1 ⟨p, planned⟩
  obtain ⟨pair, mem, some⟩ := accepted.nonempty
  obtain ⟨g, listed, rfl⟩ := List.mem_map.1 mem
  intro none
  exact some (List.flatMap_eq_nil_iff.1 none g listed)

theorem ne_nil_of_changeTargets {groups : List BoundTargets} {change : TargetChange}
    (planned : changeTargets balancer limit groups change = .ok p) :
    groups.flatMap BoundTargets.targets ≠ [] := by
  cases change with
  | weight value =>
      obtain ⟨-, -, planned⟩ := Except.bind_eq_ok_iff.1 planned
      exact ne_nil_of_planned planned
  | port value =>
      obtain ⟨-, -, planned⟩ := Except.bind_eq_ok_iff.1 planned
      exact ne_nil_of_planned planned

/-- A group whose new targets fit into one call is planned behind the checks of a local addition. -/
theorem addTargets_of_le (b : Binding) {specs : List TargetSpec} (some : specs ≠ [])
    (short : specs.length ≤ max limit 1) (group : String) (recorded : Operation) :
    addTargets b.balancer limit [{ binding := b, targets := specs }] = (do
      (LocalJob.add group specs).check recorded
      return { operation := .addTarget, calls := [registrationCall b specs]
               subResources := [groupKey b.group] }) := by
  have nonempty : ¬ specs.isEmpty := by simpa using some
  have bound : checkBinding b.balancer b = .ok () := if_pos rfl
  simp only [addTargets, ofGroups, specGroups, List.flatMap_cons, List.flatMap_nil,
    List.append_nil, List.map_cons, List.map_nil, boundCalls, bound, if_neg nonempty,
    chunksOf_of_le some short, groupCalls, LocalJob.check]
  have unique : ensureUnique registrationShape.label registrationShape.key specs =
    ensureUnique endpointLabel specEndpoint specs := rfl
  rw [unique]
  cases checkSpecs specs with
  | error failure => rfl
  | ok _ =>
      cases ensureUnique endpointLabel specEndpoint specs with
      | error failure => rfl
      | ok _ => rfl

end Plan

namespace LocalJob

variable {specs : List TargetSpec} {group : String} {recorded : Operation}

theorem decides_check_add : Decides ((add group specs).check recorded)
    ((∀ s ∈ specs, s.Fit) ∧ (specs.map Plan.specEndpoint).Nodup) :=
  (Plan.decides_checkSpecs specs).bind fun _ _ =>
    decides_ensureUnique Plan.endpointLabel Plan.specEndpoint specs

/-- What passes the local checks can be planned, whatever the chunks are. -/
theorem plans_of_check (b : Binding) (limit : Nat) (some : specs ≠ [])
    (passed : (add group specs).check recorded = .ok ()) :
    ∃ p, Plan.addTargets b.balancer limit [{ binding := b, targets := specs }] = .ok p := by
  have meant := decides_check_add.passes.1 ⟨(), passed⟩
  apply (Plan.decides_addTargets b.balancer limit _).passes.2
  constructor
  · simpa using meant.1
  · apply (Plan.plannable_congr Plan.specEndpoint_eq_iff).1
    constructor
    · simp [Plan.specGroups]
    · simpa [Plan.specGroups] using some
    · simpa [Plan.specGroups] using apartInChunks_of_nodup meant.2 limit

/-- What one call can carry is refused with the same failure on both paths. -/
theorem check_eq_error_iff (b : Binding) {limit : Nat} (some : specs ≠ [])
    (short : specs.length ≤ max limit 1) {failure : Failure} :
    (add group specs).check recorded = .error failure ↔
      Plan.addTargets b.balancer limit [{ binding := b, targets := specs }] = .error failure := by
  rw [Plan.addTargets_of_le b some short group recorded]
  cases (add group specs).check recorded with
  | error other =>
      constructor
      · intro same
        cases same
        rfl
      · intro same
        cases same
        rfl
  | ok _ =>
      constructor
      · intro refused
        cases refused
      · intro refused
        cases refused

end LocalJob

/-- Work that begins by asking for one detail for each of these parameters. What it adds to the
details is just that: all of them if it succeeds, and all of them or none if it fails. -/
structure LocalChange.Creates (params : List Json) (x : Work (List Int64)) : Prop where
  begins : ∃ guard news next, x = Program.call guard (.store (.createDetails news)) next ∧
    news.map NewDetail.param = params
  adds : ∀ deadline w, w.store.tables.Reachable →
    (Program.run deadline x w).2.store.tables.Fits → ∃ news,
      (Program.run deadline x w).2.store.tables.details.values =
          w.store.tables.details.values ++ news ∧
        (news = [] ∨ news.map Detail.param = params) ∧
        ∀ ids, (Program.run deadline x w).1 = some (.ok ids) →
          news.map Detail.param = params ∧ ids = news.map Detail.id

namespace LocalJob

variable (scope : DetailScope) (job : LocalJob)

/-- A job that passes its checks creates its details. -/
theorem creates_run (items : job.params ≠ []) (passed : job.check scope.operation = .ok ()) :
    LocalChange.Creates job.params (Submission.runLocalJob scope job) where
  begins := by
    rw [Submission.runLocalJob_eq, passed]
    generalize job.params = params at items
    cases params with
    | nil => exact absurd rfl items
    | cons param rest =>
        refine ⟨_, (param :: rest).map scope.detail, _, rfl, ?_⟩
        rw [List.map_map]
        exact List.map_id _
  adds := by
    intro deadline w reachable fits
    have took := Program.takes_run deadline (Submission.runLocalJob scope job) w
    have numbered := reachable.numbered (fits.of_later took.later)
    have settles : LocalChange.Settles scope job.params job.write w.contents
        ((Program.timeline deadline (Submission.runLocalJob scope job) w).map Moment.toStep)
        (Program.run deadline (Submission.runLocalJob scope job) w).1
        (Program.run deadline (Submission.runLocalJob scope job) w).2.contents :=
      (LocalChange.ensures_runLocalJob_settles items numbered).takes took numbered fits
    match ended : (Program.run deadline (Submission.runLocalJob scope job) w).1 with
    | none =>
        rw [ended] at settles
        exact settles.records.elim
    | some (.ok ids) =>
        rw [ended] at settles
        obtain ⟨news, values, done⟩ := settles.done numbered fits
        refine ⟨news, values, .inr done.params, fun ids' same => ?_⟩
        cases same
        exact ⟨done.params, done.ids⟩
    | some (.error failure) =>
        rw [ended] at settles
        obtain ⟨news, values, failed⟩ := settles.failed items took.obeys numbered fits
        refine ⟨news, values, ?_, fun ids same => by cases same⟩
        by_cases none : news = []
        · exact .inl none
        · exact .inr (failed.params none)

/-- A job with items is refused just where its checks fail, and with their failure. -/
theorem run_eq_throw_iff (items : job.params ≠ []) {failure : Failure} :
    Submission.runLocalJob scope job = throw failure ↔
      job.check scope.operation = .error failure := by
  cases checked : job.check scope.operation with
  | error other =>
      rw [Submission.runLocalJob_eq, checked]
      constructor
      · intro same
        cases same
        rfl
      · intro same
        cases same
        rfl
  | ok _ =>
      constructor
      · intro same
        obtain ⟨guard, news, next, begins, -⟩ := (creates_run scope job items checked).begins
        cases begins.symm.trans same
      · intro same
        cases same

theorem check_of_run (items : job.params ≠ [])
    (accepted : ∀ failure, Submission.runLocalJob scope job ≠ throw failure) :
    job.check scope.operation = .ok () := by
  cases checked : job.check scope.operation with
  | error failure => exact absurd ((run_eq_throw_iff scope job items).2 checked) (accepted failure)
  | ok _ => rfl

end LocalJob

namespace LocalChange

/-- The local path agrees with the plans for the cloud. New targets that it accepts are accepted
under every limit, and if one call can carry them both paths refuse the same lists with the same
failure. Where both accept a change, the parameters that the local path records are those of the
plan, chunk after chunk. -/
theorem agrees_with_plans :
    (∀ (scope : DetailScope) (b : Binding) (specs : List TargetSpec) (limit : Nat), specs ≠ [] →
      let plan := Plan.addTargets b.balancer limit [{ binding := b, targets := specs }]
      ((∀ failure, addTargets scope b.group specs ≠ throw failure) → ∃ p, plan = .ok p) ∧
        (specs.length ≤ max limit 1 → ∀ failure,
          addTargets scope b.group specs = throw failure ↔ plan = .error failure) ∧
        ∀ p, plan = .ok p → (∀ failure, addTargets scope b.group specs ≠ throw failure) →
          Creates (p.calls.flatMap PlannedCall.params) (addTargets scope b.group specs)) ∧
      (∀ (scope : DetailScope) (balancer : String) (limit : Nat) (groups : List BoundTargets) p,
        Plan.removeTargets balancer limit groups = .ok p →
          Creates (p.calls.flatMap PlannedCall.params)
            (removeTargets scope (groups.flatMap BoundTargets.targets))) ∧
      ∀ (scope : DetailScope) (balancer : String) (limit : Nat) (change : TargetChange)
        (groups : List BoundTargets) p,
        Plan.changeTargets balancer limit groups change = .ok p →
          (∀ failure, modifyTargets scope change (groups.flatMap BoundTargets.targets) ≠
            throw failure) →
          Creates (p.calls.flatMap PlannedCall.params)
            (modifyTargets scope change (groups.flatMap BoundTargets.targets)) := by
  constructor
  · intro scope b specs limit some plan
    let job := LocalJob.add b.group specs
    have items : job.params ≠ [] := fun none => some (List.map_eq_nil_iff.1 none)
    constructor
    · intro accepted
      exact LocalJob.plans_of_check b limit some (LocalJob.check_of_run scope job items accepted)
    · constructor
      · intro short failure
        exact (LocalJob.run_eq_throw_iff scope job items).trans
          (LocalJob.check_eq_error_iff b some short)
      · intro p planned accepted
        have same : p.calls.flatMap PlannedCall.params = job.params := by
          rw [Plan.params_addTargets planned]
          exact List.append_nil _
        rw [same]
        exact LocalJob.creates_run scope job items (LocalJob.check_of_run scope job items accepted)
  · constructor
    · intro scope balancer limit groups p planned
      let job := LocalJob.remove "" (groups.flatMap BoundTargets.targets)
      have items : job.params ≠ [] :=
        fun none => Plan.ne_nil_of_planned planned (List.map_eq_nil_iff.1 none)
      rw [Plan.params_removeTargets planned]
      exact LocalJob.creates_run scope job items rfl
    · intro scope balancer limit change groups p planned accepted
      let job := LocalJob.modify "" change (groups.flatMap BoundTargets.targets)
      have items : job.params ≠ [] :=
        fun none => Plan.ne_nil_of_changeTargets planned (List.map_eq_nil_iff.1 none)
      rw [Plan.params_changeTargets planned]
      exact LocalJob.creates_run scope job items (LocalJob.check_of_run scope job items accepted)

/-- Three new targets on two instances. -/
def threeSpecs : List TargetSpec := [
  { instanceId := "i-1", ip := "10.0.0.1", port := 80, weight := 10 },
  { instanceId := "i-1", ip := "10.0.0.1", port := 81, weight := 10 },
  { instanceId := "i-2", ip := "10.0.0.2", port := 80, weight := 10 }]

def additions : DetailScope :=
  { batch := 1, business := 7, operation := .addTarget }

def threeAdditions : BoundSpecs :=
  { binding := Plan.bindingOn "tg-1", targets := threeSpecs }

/-- They take two calls of two targets at most, and are recorded as three details. -/
theorem agrees_with_plans_threeSpecs : ∃ p,
    Plan.addTargets "lb-1" 2 [threeAdditions] = .ok p ∧ p.calls.length = 2 ∧
      Creates (p.calls.flatMap PlannedCall.params) (addTargets additions "tg-1" threeSpecs) := by
  have accepted : ∀ failure, addTargets additions "tg-1" threeSpecs ≠ throw failure := by
    intro failure refused
    have checked := (LocalJob.run_eq_throw_iff additions (.add "tg-1" threeSpecs)
      (by decide)).1 refused
    cases checked
  have agree := agrees_with_plans.1 additions (Plan.bindingOn "tg-1") threeSpecs 2 (by decide)
  obtain ⟨p, planned⟩ : ∃ p, Plan.addTargets "lb-1" 2 [threeAdditions] = .ok p := agree.1 accepted
  have two : (Plan.addTargets "lb-1" 2 [threeAdditions]).map (fun p => p.calls.length) = .ok 2 := by
    decide +kernel
  rw [planned] at two
  exact ⟨p, planned, Except.ok.inj two, agree.2.2 p planned accepted⟩

end LocalChange

end BalancerFlows
