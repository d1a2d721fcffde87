import BalancerFlows.Proofs.Calm

/-!
# What local jobs end with

Where nothing is wrong, a local job turns on its own checks and on the one call it makes to the
inventory. That call fails if the inventory refuses its kind, or if it is to change a target that is
not there. Jobs that change targets leave all of them in place, and the other jobs do not ask which
there are, so jobs of one kind do not get in each other's way. Main statements: `LocalJob.exec_run`
and `LocalJob.verdict_eq`.
-/
namespace BalancerFlows

variable {refused : Keyed String String}

namespace LocalJob

/-- The one call that a local job makes to the inventory. -/
def write : LocalJob → CatalogCall
  | remove _ targets => .deleteTargets (targets.map Target.id)
  | modify _ change targets => .updateTargets (targets.map change.patch)
  | add group specs => .createTargets (specs.map (LocalChange.newTarget group))

/-- What is looked at before anything is recorded. -/
def check (recorded : Operation) : LocalJob → Except Failure Unit
  | remove .. => .ok ()
  | modify _ change _ => do
      change.check
      if change.operation ≠ recorded then
        throw (LocalChange.mismatch change.operation recorded)
  | add _ specs => do
      Plan.checkSpecs specs
      ensureUnique Plan.endpointLabel Plan.specEndpoint specs

/-- The job changes targets that have to be there. -/
def Patches : LocalJob → Prop
  | modify .. => True
  | remove .. | add .. => False

/-- What the job ends with, but for the ids of its details. -/
def verdict (job : LocalJob) (recorded : Operation) (refused : Keyed String String)
    (s : Contents) : Except Failure Unit := do
  job.check recorded
  if job.params.isEmpty then .ok ()
  else ((Call.catalog job.write).exec refused s).1.map fun _ => ()

end LocalJob

/-- Each local job is a check and then one settled call. -/
theorem Submission.runLocalJob_eq (scope : DetailScope) (job : LocalJob) :
    runLocalJob scope job = (do
      Work.ofExcept (job.check scope.operation)
      LocalChange.settle scope job.params do
        let _ ← LocalChange.call job.write
        return ()) := by
  cases job with
  | remove group targets =>
      exact congrArg (LocalChange.settle scope (targets.map Plan.targetParam)) bind_pure_unit.symm
  | modify group change targets =>
      have same : LocalChange.call (.updateTargets (targets.map change.patch)) = (do
        let _ ← LocalChange.call (.updateTargets (targets.map change.patch))
        return ()) := bind_pure_unit.symm
      simp only [runLocalJob, LocalChange.modifyTargets, LocalJob.check, LocalJob.write,
        LocalJob.params]
      cases change.check with
      | error failure => rfl
      | ok _ =>
          by_cases other : change.operation ≠ scope.operation
          · simp only [if_pos other]
            rfl
          · simp only [if_neg other]
            rw [← same]
            rfl
  | add group specs =>
      simp only [runLocalJob, LocalChange.addTargets, LocalJob.check]
      cases Plan.checkSpecs specs with
      | error failure => rfl
      | ok _ => rfl

theorem Unwind.exec_run (refused : Keyed String String) (cause : Failure) (details : List Detail)
    (s : Contents) : ∃ unwound t,
      (run cause details).exec refused s = (some unwound, { s with tables := t }) := by
  unfold run
  dsimp only
  split
  next => exact ⟨_, s.tables, rfl⟩
  next => exact ⟨_, _, rfl⟩

namespace LocalChange

variable {s : Contents}

theorem exec_settle (scope : DetailScope) (params : List Json) {write : Work Unit}
    {outcome : Except Failure Unit} {c : Catalog}
    (written : ∀ t, Program.exec refused write { s with tables := t } =
      (some outcome, { tables := t, catalog := c })) : ∃ r t,
      Program.exec refused (settle scope params write) s =
        (some r, { tables := t, catalog := if params.isEmpty then s.catalog else c }) ∧
      r.map (fun _ => ()) = if params.isEmpty then .ok () else outcome := by
  let news := scope.news params s.tables
  let recorded := s.tables.withDetails (scope.rows params id)
  have created : Program.exec refused (scope.create params) s =
    (some (.ok news), { s with tables := recorded }) := scope.exec_create refused params s
  rw [settle, Work.exec_within]
  split
  next => exact ⟨_, _, rfl, rfl⟩
  next =>
    rw [Work.exec_bind_of_ok created]
    cases outcome with
    | error failure =>
        obtain ⟨unwound, t, ended⟩ := Unwind.exec_run refused failure news
          { tables := recorded, catalog := c }
        refine ⟨.error failure, t, ?_, rfl⟩
        refine (Program.exec_bind_of_some (Work.exec_bind_of_error (written recorded))).trans ?_
        exact Program.exec_bind_of_some ended
    | ok _ =>
        let settled : Tables := { recorded with
          details := Tables.patchDetails recorded.details
            (news.map fun d => .settle d.id .success none) }
        have succeeded : Program.exec refused (Detail.writeSuccess news)
            { tables := recorded, catalog := c } =
              (some (.ok (news.map Detail.succeed)), { tables := settled, catalog := c }) := rfl
        have carried : Program.exec refused (carryOut write news)
            { s with tables := recorded } =
              (some (.ok (news.map Detail.succeed)), { tables := settled, catalog := c }) :=
          (Work.exec_bind_of_ok (f := fun _ => Detail.writeSuccess news)
            (written recorded)).trans succeeded
        exact ⟨.ok ((news.map Detail.succeed).map Detail.id), settled,
          Program.exec_bind_of_some carried, rfl⟩

theorem exec_call (refused : Keyed String String) (call : CatalogCall) (s : Contents) (t : Tables) :
    Program.exec refused (do let _ ← LocalChange.call call; return () : Work Unit)
        { s with tables := t } =
      (some (((Call.catalog call).exec refused s).1.map fun _ => ()),
        { tables := t, catalog := ((Call.catalog call).exec refused s).2.catalog }) := by
  refine (Work.exec_bind _ _ _).trans ?_
  rw [LocalChange.call, Work.askCatalog, Work.exec_ask]
  simp only [Call.exec]
  cases refused.get? call.name with
  | some message => rfl
  | none => cases (s.catalog.perform call).1 <;> rfl

end LocalChange

namespace Catalog

theorem keys_updateTargets (c : Catalog) (patches : List TargetPatch) :
    (c.updateTargets patches).2.targets.keys = c.targets.keys := by
  induction patches generalizing c with
  | nil => rfl
  | cons p rest ih =>
      unfold updateTargets
      split
      next => rfl
      next => exact (ih _).trans (Keyed.keys_update ..)

/-- Whether targets can be changed depends on which there are. -/
theorem updateTargets_eq {c c' : Catalog} (same : c.targets.keys = c'.targets.keys)
    (patches : List TargetPatch) :
    (c.updateTargets patches).1 = (c'.updateTargets patches).1 := by
  induction patches generalizing c c' with
  | nil => rfl
  | cons p rest ih =>
      have missing : c.targets.get? p.id = none ↔ c'.targets.get? p.id = none := by
        rw [Keyed.get?_eq_none_iff, Keyed.get?_eq_none_iff, same]
      unfold updateTargets
      cases found : c.targets.get? p.id with
      | none =>
          rw [missing.1 found]
      | some t =>
          obtain ⟨t', found'⟩ := Option.ne_none_iff_exists'.1 fun none => by
            rw [missing.2 none] at found
            cases found
          rw [found']
          exact ih (by simp only [Keyed.keys_update, same])

end Catalog

namespace LocalJob

variable {job : LocalJob} {recorded : Operation} {s s' : Contents}

/-- What a job ends with is the same where the same targets are, if it asks for them at all. -/
theorem verdict_eq (same : job.Patches → s.catalog.targets.keys = s'.catalog.targets.keys) :
    job.verdict recorded refused s = job.verdict recorded refused s' := by
  have answers : (((Call.catalog job.write).exec refused s).1.map fun _ => ()) =
      (((Call.catalog job.write).exec refused s').1.map fun _ => ()) := by
    cases job with
    | remove group targets =>
        simp only [Call.exec]
        cases refused.get? (write (remove group targets)).name <;> rfl
    | modify group change targets =>
        have same := Catalog.updateTargets_eq (same trivial) (targets.map change.patch)
        simp only [Call.exec]
        cases refused.get? (write (modify group change targets)).name with
        | none => exact congrArg (Except.map fun _ => ()) same
        | some message => rfl
    | add group specs =>
        simp only [Call.exec]
        cases refused.get? (write (add group specs)).name <;> rfl
  unfold verdict
  split
  next => rfl
  next => rw [answers]

theorem keys_write (patches : job.Patches) :
    ((Call.catalog job.write).exec refused s).2.catalog.targets.keys = s.catalog.targets.keys := by
  cases job with
  | remove group targets => exact patches.elim
  | add group specs => exact patches.elim
  | modify group change targets =>
      simp only [Call.exec]
      cases refused.get? (write (modify group change targets)).name with
      | some message => rfl
      | none => exact s.catalog.keys_updateTargets (targets.map change.patch)

/-- The targets that a job of the patching kind leaves are those there were. -/
theorem exec_run (refused : Keyed String String) (scope : DetailScope) (job : LocalJob)
    (s : Contents) : ∃ r t c, Program.exec refused (Submission.runLocalJob scope job) s =
      (some r, { tables := t, catalog := c }) ∧
    r.map (fun _ => ()) = job.verdict scope.operation refused s ∧
    (job.Patches → c.targets.keys = s.catalog.targets.keys) := by
  rw [Submission.runLocalJob_eq, verdict]
  cases job.check scope.operation with
  | error failure => exact ⟨.error failure, s.tables, s.catalog, rfl, rfl, fun _ => rfl⟩
  | ok _ =>
      obtain ⟨r, t, ended, outcome⟩ := LocalChange.exec_settle scope job.params
        (LocalChange.exec_call refused job.write s)
      refine ⟨r, t, _, ended, outcome, fun patches => ?_⟩
      split
      next => rfl
      next => exact keys_write patches

end LocalJob

end BalancerFlows
