import BalancerFlows.Proofs.LocalRecords

/-!
# Changes that stop halfway

When targets are changed and one of them is missing, the change fails, and no detail says that
anything was done. The targets that stand before the missing one have been changed all the same.
Main statements: `Catalog.updateTargets_cases`, which says exactly how far patches get, and
`Catalog.updates_stop_at_missing_target` for the runs that make them.
-/
namespace BalancerFlows

namespace LocalChange

/-- A change of targets has got as far as to the first one that is missing. -/
structure Stops (change : TargetChange) (targets : List Target) (failure : Failure)
    (before after : Catalog) (reached : List Target) (t : Target) : Prop where
  split : ∃ rest, targets = reached ++ t :: rest
  there : ∀ u ∈ reached, (before.targets.get? u.id).isSome
  missing : before.targets.get? t.id = none
  named : failure = Catalog.missingTarget t.id
  changed : before.Changed change reached after

section Changes

variable {change : TargetChange} {targets : List Target} {before after : Catalog}
  {failure : Failure}

theorem stops_of_rejected
    (rejected : (before.updateTargets (targets.map change.patch)).1 = .error failure) :
    ∃ reached t, Stops change targets failure before
      (before.updateTargets (targets.map change.patch)).2 reached t := by
  obtain ⟨patches, p, more, whole, has, missing, named, updated⟩ :=
    before.updateTargets_of_error rejected
  obtain ⟨reached, others, rfl, rfl, behind⟩ := List.map_eq_append_iff.1 whole
  obtain ⟨t, rest, rfl, rfl, -⟩ := List.map_eq_cons_iff.1 behind
  refine ⟨reached, t, ?_⟩
  constructor
  · exact ⟨rest, rfl⟩
  · intro u mem
    simpa [Catalog.Has] using has _ (List.mem_map_of_mem mem)
  · simpa [Catalog.Has] using missing
  · rw [named, TargetChange.patch_id]
  · rw [updated]
    exact before.changed_patched change reached

theorem changed_of_done
    (done : (before.updateTargets (targets.map change.patch)).1 = .ok ()) :
    before.Changed change targets (before.updateTargets (targets.map change.patch)).2 := by
  rw [before.updateTargets_eq_patched, Catalog.reached_of_has (before.has_of_updateTargets done)]
  exact before.changed_patched change targets

/-- What has become of the inventory tells which kind of failure it was. -/
theorem Written.gets {group : String}
    (h : Written (LocalJob.modify group change targets).write before failure after) :
    (failure.NamesMissing →
        before.updateTargets (targets.map change.patch) = (.error failure, after) ∧
          ∃ reached t, Stops change targets failure before after reached t) ∧
      (¬ failure.NamesMissing → after = before ∨ before.Changed change targets after) := by
  cases h with
  | refused other => exact ⟨fun missing => absurd missing other, fun _ => .inl rfl⟩
  | rejected rejected =>
      obtain ⟨reached, t, stops⟩ := stops_of_rejected rejected
      constructor
      · exact fun _ => ⟨Prod.ext rejected rfl, reached, t, stops⟩
      · exact fun other => absurd (stops.named ▸ trivial) other
  | done done other =>
      exact ⟨fun missing => absurd missing other, fun _ => .inr (changed_of_done done)⟩

end Changes

/-- A job without items leaves everything as it is. -/
theorem ensures_idleJob {faults : Faults} {scope : DetailScope} {job : LocalJob}
    (idle : job.params = []) {s : Contents} :
    Program.Ensures faults (fun _ r s' => s' = s ∧
      ∀ failure, r = some (.error failure) → ¬ failure.NamesMissing)
      (Submission.runLocalJob scope job) [] s := by
  rw [Submission.runLocalJob_eq]
  apply Work.ensures_check
  · rintro failure refused
    refine ⟨rfl, fun other same => ?_⟩
    cases same
    exact Failure.not_namesMissing_of_blamesInput (LocalJob.blames_of_check refused)
  · intro _ _
    unfold settle
    apply Program.ensures_within.2
    rw [idle]
    exact ⟨rfl, nofun⟩

end LocalChange

namespace Catalog

/-- Nothing has changed just if the change makes no difference to any of its targets. -/
theorem Changed.same_iff {c c' : Catalog} {change : TargetChange} {targets : List Target}
    (h : c.Changed change targets c') :
    (∀ id, c'.targets.get? id = c.targets.get? id) ↔
      ∀ t ∈ targets, (c.targets.get? t.id).map change.apply = c.targets.get? t.id := by
  constructor
  · intro same t mem
    rw [← same t.id, h.targets, if_pos (List.mem_map_of_mem mem), Option.map_map]
    congr 1
    funext u
    exact change.apply_apply u
  · intro idle id
    rw [h.targets]
    split
    next mem =>
      obtain ⟨t, listed, rfl⟩ := List.mem_map.1 mem
      exact idle t listed
    next => rfl

/-- Patches are applied up to the first one whose target is missing, and fail there. -/
theorem updateTargets_cases (c : Catalog) (patches : List TargetPatch) :
    (∀ p ∈ patches, c.Has p) ∧ c.updateTargets patches = (.ok (), c.patched patches) ∨
      ∃ reached p rest, patches = reached ++ p :: rest ∧ (∀ q ∈ reached, c.Has q) ∧ ¬ c.Has p ∧
        c.updateTargets patches = (.error (missingTarget p.id), c.patched reached) := by
  cases updated : (c.updateTargets patches).1 with
  | ok _ =>
      have all := c.has_of_updateTargets updated
      refine .inl ⟨all, Prod.ext updated ?_⟩
      rw [c.updateTargets_eq_patched, reached_of_has all]
  | error failure =>
      obtain ⟨reached, p, rest, whole, has, missing, rfl, applied⟩ :=
        c.updateTargets_of_error updated
      exact .inr ⟨reached, p, rest, whole, has, missing, Prod.ext updated applied⟩

/-- Patches of targets are applied up to the first one whose target is missing, and fail there. So a
run that makes such a change and fails at a missing target has changed the targets before it, and
nothing just if the change makes no difference to these. -/
theorem updates_stop_at_missing_target (c : Catalog) (patches : List TargetPatch) :
    ((∀ p ∈ patches, c.Has p) ∧ c.updateTargets patches = (.ok (), c.patched patches) ∨
      ∃ reached p rest, patches = reached ++ p :: rest ∧ (∀ q ∈ reached, c.Has q) ∧ ¬ c.Has p ∧
        c.updateTargets patches = (.error (missingTarget p.id), c.patched reached)) ∧
    ∀ {deadline : Option Nat} {scope : DetailScope} {change : TargetChange} {targets : List Target}
      {w w' : World} {failure : Failure}, w.catalog = c → targets.map change.patch = patches →
      w.store.tables.Reachable → w'.store.tables.Fits →
      Program.run deadline (LocalChange.modifyTargets scope change targets) w =
        (some (.error failure), w') →
      (failure.NamesMissing → c.updateTargets patches = (.error failure, w'.catalog) ∧
        ∃ reached t, LocalChange.Stops change targets failure c w'.catalog reached t ∧
          ((∀ id, w'.catalog.targets.get? id = c.targets.get? id) ↔
            ∀ u ∈ reached, (c.targets.get? u.id).map change.apply = c.targets.get? u.id)) ∧
      (¬ failure.NamesMissing → w'.catalog = c ∨ c.Changed change targets w'.catalog) ∧
      ∃ news, w'.store.tables.details.values = w.store.tables.details.values ++ news ∧
        ∀ d ∈ news, d.state ≠ .success := by
  refine ⟨c.updateTargets_cases patches, ?_⟩
  intro deadline scope change targets w w' failure here made reachable fits ran
  subst here made
  have numbered := reachable.numbered (Program.fits_of_run ran fits)
  have ran : Program.run deadline (Submission.runLocalJob scope (.modify "" change targets)) w =
    (some (.error failure), w') := ran
  have took := Program.takes_run deadline
    (Submission.runLocalJob scope (.modify "" change targets)) w
  rw [ran] at took
  by_cases idle : (LocalJob.modify "" change targets).params = []
  · have kept := (LocalChange.ensures_idleJob idle).takes took numbered fits
    obtain ⟨same, others⟩ := kept
    have other := others failure rfl
    refine ⟨fun missing => absurd missing other,
      fun _ => .inl (congrArg Contents.catalog same), [], ?_, List.forall_mem_nil _⟩
    rw [List.append_nil]
    exact congrArg (fun s => s.tables.details.values) same
  · have settles : LocalChange.Settles scope (LocalJob.modify "" change targets).params
        (LocalJob.modify "" change targets).write w.contents _ (some (.error failure))
        w'.contents :=
      (LocalChange.ensures_runLocalJob_settles idle numbered).takes took numbered fits
    obtain ⟨news, values, failed⟩ := settles.failed idle took.obeys numbered fits
    obtain ⟨stops, others⟩ := settles.lands.gets
    refine ⟨fun missing => ?_, others, news, values, failed.unsuccessful⟩
    obtain ⟨updated, reached, t, stop⟩ := stops missing
    exact ⟨updated, reached, t, stop, stop.changed.same_iff⟩

/-- Of two targets that are to be changed, only the first one is there. -/
def halfStocked : World :=
  World.insert {} { targets := LocalJob.twoTargets.take 1 }

def halfChange : Work (List Int64) :=
  LocalChange.modifyTargets { batch := 1, business := 7, operation := .modifyTargetWeight }
    (.weight 5) LocalJob.twoTargets

def halfChanged : World :=
  (Program.run none halfChange halfStocked).2

theorem run_halfChange :
    Program.run none halfChange halfStocked =
      (some (.error (missingTarget "t-2")), halfChanged) :=
  Prod.ext (by decide +kernel) rfl

theorem updates_stop_at_missing_target_halfChange :
    ∃ reached t, LocalChange.Stops (.weight 5) LocalJob.twoTargets (missingTarget "t-2")
        halfStocked.catalog halfChanged.catalog reached t ∧
      ∃ u ∈ reached, (halfStocked.catalog.targets.get? u.id).map (TargetChange.weight 5).apply ≠
        halfStocked.catalog.targets.get? u.id := by
  obtain ⟨-, runs⟩ := updates_stop_at_missing_target halfStocked.catalog
    (LocalJob.twoTargets.map (TargetChange.weight 5).patch)
  obtain ⟨stops, -⟩ := runs rfl rfl .empty (by decide +kernel) run_halfChange
  obtain ⟨-, reached, t, stop, same_iff⟩ := stops trivial
  refine ⟨reached, t, stop, ?_⟩
  by_contra none
  have same := same_iff.2 fun u mem => by_contra fun other => none ⟨u, mem, other⟩
  exact absurd (same "t-1") (by decide +kernel)

/-- A change that fails at a missing target, with all its details failed, may have changed another
one; patches of targets are not all or nothing. -/
theorem not_updates_all_or_nothing :
    (¬ ∀ deadline scope change targets (w w' : World) failure, w.store.tables.Reachable →
        w.catalog.Reachable →
        Program.run deadline (LocalChange.modifyTargets scope change targets) w =
          (some (.error failure), w') →
        failure.NamesMissing → (∀ d ∈ w'.store.tables.details.values, d.state = .failed) →
        ∀ id, w'.catalog.targets.get? id = w.catalog.targets.get? id) ∧
      ¬ ∀ (c : Catalog) (patches : List TargetPatch), (c.updateTargets patches).1 = .ok () ∨
        (c.updateTargets patches).2 = c := by
  constructor
  · intro keeps
    have same := keeps none _ _ _ halfStocked halfChanged _ .empty (.insert _ .empty)
      run_halfChange trivial (by decide +kernel) "t-1"
    exact absurd same (by decide +kernel)
  · intro atomic
    rcases atomic halfStocked.catalog [{ id := "t-1", weight := some 5 },
      { id := "t-2", weight := some 5 }] with done | same
    · exact absurd done (by decide +kernel)
    · exact absurd same (by decide +kernel)

end Catalog

end BalancerFlows
