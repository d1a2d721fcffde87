import BalancerFlows.Proofs.Footprints

/-!
# Complaints

A failure that complains about the request is met before anything is written, with two exceptions.
An owner of the resource that the look at the gate has not seen is met when the lock is wanted, and
a target that the catalog does not have is met when the catalog is written; by then there are
details. Main statement: `complaint_footprint`.
-/
namespace BalancerFlows

namespace Construction

/-- A construction has met an unseen owner when it wanted the lock: only the lock is missing, and
the details have failed unless that was refused. -/
structure Lost (u : Undertaking) (failure : Failure) (t : Tables) : Prop where
  stale : u.faults.staleReads = true
  owned : ∃ owner, u.before.locks.get? u.scope.resource = some owner ∧ owner.flow ≠ u.flow ∧
    failure = owner.busy
  tables : ∃ tasks state reason, Stage.Proper u (.associated tasks state) ∧
    (reason = none ∨ reason = some failure.message) ∧
    t = Stage.tables u reason (.associated tasks state)

theorem Fell.complaint {u : Undertaking} {stage : Stage} {failure : Failure} {past : List Step}
    {t : Tables} (fell : Fell u stage failure past t) (complains : failure.isPrecondition = true) :
    t = u.before ∨ Lost u failure t := by
  obtain ⟨-, -, after, -, -, -, -, unwinding⟩ := fell.trail
  obtain ⟨reason, own, tables⟩ := unwinding.tables
  cases fell.cause with
  | machinery _ machinery =>
      rw [machinery] at complains
      cases complains
  | owned found => exact .inl tables
  | lost tasks state found other stale =>
      exact .inr ⟨stale, ⟨_, found, other, rfl⟩, tasks, state, reason, fell.proper, own, tables⟩

theorem buildJob_complaint {deadline : Option Nat} {settings : Settings} {scope : FlowScope}
    {job : Job} {w w' : World} {failure : Failure} (numbered : w.store.tables.Numbered)
    (returned : Program.run deadline (buildJob settings scope job) w =
      (some (.error failure), w'))
    (fits : w'.store.tables.Fits) (complains : failure.isPrecondition = true) :
    w'.store.tables = w.store.tables ∨
      ∃ plan, job.planUnder scope.resource.id settings.limits = .ok plan ∧
        Lost (begun scope plan w) failure w'.store.tables := by
  unfold buildJob at returned
  cases planned : job.planUnder scope.resource.id settings.limits with
  | error refusal =>
      rw [planned] at returned
      cases returned
      exact .inl rfl
  | ok plan =>
      rw [planned] at returned
      have returned : Program.run deadline (build scope settings.retry plan) w =
        (some (.error failure), w') := returned
      obtain ⟨-, ends⟩ := ends_run deadline scope settings.retry
        (Job.plan_complete planned) numbered (by rwa [returned])
      rw [returned] at ends
      obtain ⟨stage, fell⟩ := ends
      exact (fell.complaint complains).imp_right fun lost => ⟨plan, rfl, lost⟩

end Construction

/-- The details of a local job are all that was written for it, and have failed unless that was
refused. -/
def LocalJob.Unsettled (scope : DetailScope) (job : LocalJob) (failure : Failure)
    (before t : Tables) : Prop :=
  ∃ reason, (reason = none ∨ reason = some failure.message) ∧
    t = before.withDetails (scope.rows job.params (Detail.unwound reason))

theorem LocalChange.localJob_complaint {deadline : Option Nat} {scope : DetailScope}
    {job : LocalJob} {w w' : World} {failure : Failure} (numbered : w.store.tables.Numbered)
    (returned : Program.run deadline (Submission.runLocalJob scope job) w =
      (some (.error failure), w'))
    (fits : w'.store.tables.Fits) (complains : failure.isPrecondition = true) :
    w'.store.tables = w.store.tables ∨
      job.Misses w.catalog failure ∧
        job.Unsettled scope failure w.store.tables w'.store.tables := by
  have ensured : Program.Ensures w.store.faults
      (fun _ r s => Does scope job w.contents r s.tables) (Submission.runLocalJob scope job) []
      w.contents :=
    ensures_runLocalJob numbered job
  have ended := ensured.run deadline numbered (by rwa [returned])
  rw [returned] at ended
  have human : failure.isPrecondition ≠ false := by simp [complains]
  rcases ended with ⟨_, -, kept⟩ | ⟨machinery, -⟩ | ⟨machinery | misses, left⟩
  · exact .inl kept
  · exact absurd machinery human
  · exact absurd machinery human
  · exact .inr ⟨misses, left⟩

/-- A failure that complains about the request leaves the tables as they were, unless a
construction has lost its lock to an owner that it had not seen, or a local job is to change a
target that the catalog does not have. -/
theorem complaint_footprint {deadline : Option Nat} {w w' : World} {failure : Failure}
    (reachable : w.store.tables.Reachable) (fits : w'.store.tables.Fits)
    (complains : failure.isPrecondition = true) :
    (∀ settings scope job,
      Program.run deadline (Construction.buildJob settings scope job) w =
          (some (.error failure), w') →
        w'.store.tables = w.store.tables ∨
          ∃ plan, job.planUnder scope.resource.id settings.limits = .ok plan ∧
            Construction.Lost (Construction.begun scope plan w) failure w'.store.tables) ∧
      ∀ scope job,
        Program.run deadline (Submission.runLocalJob scope job) w = (some (.error failure), w') →
          w'.store.tables = w.store.tables ∨
            job.Misses w.catalog failure ∧
              job.Unsettled scope failure w.store.tables w'.store.tables := by
  constructor
  · intro settings scope job returned
    have numbered := reachable.numbered (Program.fits_of_run returned fits)
    exact Construction.buildJob_complaint numbered returned fits complains
  · intro scope job returned
    have numbered := reachable.numbered (Program.fits_of_run returned fits)
    exact LocalChange.localJob_complaint numbered returned fits complains

/-- A target is to get another weight. -/
def oneWeightChange : LocalJob :=
  .modify "tg-1" (.weight 5) [{
    id := "t-1", group := "tg-1", instanceId := "i-1", ip := "10.0.0.1", port := 80
    weight := 10 }]

theorem reachable_unseenRemoval : Construction.unseenRemoval.store.tables.Reachable :=
  Program.reachable_run (w := {}) none _ .empty

def lostRemoval : World :=
  (Program.run none (Construction.buildJob {} (.ofBalancer "lb-1" "acc" 1 .tCloud 7) oneRemoval)
    Construction.unseenRemoval).2

theorem buildJob_unseenRemoval :
    Program.run none (Construction.buildJob {} (.ofBalancer "lb-1" "acc" 1 .tCloud 7) oneRemoval)
        Construction.unseenRemoval =
      (some (.error (.busy "lb-1" .loadBalancer 1 .targetGroupModify)), lostRemoval) :=
  Prod.ext (by decide +kernel) rfl

def missedWeightChange : World :=
  (Program.run none (Submission.runLocalJob
    { batch := 1, business := 7, operation := .modifyTargetWeight } oneWeightChange) {}).2

theorem runLocalJob_oneWeightChange :
    Program.run none (Submission.runLocalJob
        { batch := 1, business := 7, operation := .modifyTargetWeight } oneWeightChange) {} =
      (some (.error (Catalog.missingTarget "t-1")), missedWeightChange) :=
  Prod.ext (by decide +kernel) rfl

theorem complaint_footprint_unseenRemoval :
    (∃ plan, Construction.Lost (Construction.begun (.ofBalancer "lb-1" "acc" 1 .tCloud 7) plan
        Construction.unseenRemoval) (.busy "lb-1" .loadBalancer 1 .targetGroupModify)
        lostRemoval.store.tables) ∧
      oneWeightChange.Misses {} (Catalog.missingTarget "t-1") := by
  constructor
  · have fits : lostRemoval.store.tables.Fits := by
      decide +kernel
    rcases (complaint_footprint reachable_unseenRemoval fits rfl).1 {} _ oneRemoval
      buildJob_unseenRemoval with same | ⟨plan, -, lost⟩
    · exact absurd (congrArg (fun t => t.details.created) same) (by decide +kernel)
    · exact ⟨plan, lost⟩
  · have fits : missedWeightChange.store.tables.Fits := by
      decide +kernel
    rcases (complaint_footprint .empty fits rfl).2 _ oneWeightChange
      runLocalJob_oneWeightChange with same | ⟨misses, -⟩
    · exact absurd (congrArg (fun t => t.details.created) same) (by decide +kernel)
    · exact misses

/-- In neither of the two exceptions do the tables stay as they were. -/
theorem not_complaints_keep_tables :
    (¬ ∀ deadline settings scope job w w' failure, w.store.tables.Reachable →
        Program.run deadline (Construction.buildJob settings scope job) w =
          (some (.error failure), w') →
        failure.isPrecondition = true → w'.store.tables = w.store.tables) ∧
      ¬ ∀ deadline scope job (w w' : World) failure, w.store.tables.Reachable →
        Program.run deadline (Submission.runLocalJob scope job) w =
          (some (.error failure), w') →
        failure.isPrecondition = true → w'.store.tables = w.store.tables := by
  constructor
  · intro keeps
    have same := keeps none {} _ oneRemoval _ _ _ reachable_unseenRemoval buildJob_unseenRemoval rfl
    exact absurd (congrArg (fun t => t.details.created) same) (by decide +kernel)
  · intro keeps
    have same := keeps none _ oneWeightChange {} _ _ .empty runLocalJob_oneWeightChange rfl
    exact absurd (congrArg (fun t => t.details.created) same) (by decide +kernel)

end BalancerFlows
