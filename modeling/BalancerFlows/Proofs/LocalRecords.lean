import BalancerFlows.Proofs.Acceptance
import BalancerFlows.Proofs.TargetWrites
import BalancerFlows.Proofs.Timeline

/-!
# What local jobs record, and what they have done

A local job makes three writes to two places: it creates details, changes the inventory in one call,
and settles the details; each of them may be refused or come too late. What the details say in the
end is compared with what has become of the inventory. Main statement:
`LocalJob.recorded_truthfully`, for calls that each take any time: a detail that says that its item
was carried out is true.
-/
namespace BalancerFlows

/-- The failure complains about a record that does not exist. -/
def Failure.NamesMissing : Failure → Prop
  | notFound _ => True
  | _ => False

namespace Failure

variable {failure : Failure}

theorem not_namesMissing_of_machinery (machinery : failure.isPrecondition = false) :
    ¬ failure.NamesMissing := by
  cases failure with
  | notFound text => cases machinery
  | _ => exact id

theorem not_namesMissing_of_blamesInput (blames : failure.BlamesInput) :
    ¬ failure.NamesMissing := by
  cases failure with
  | notFound text => exact blames.elim
  | _ => exact id

end Failure

theorem LocalJob.blames_of_check {job : LocalJob} {recorded : Operation} {failure : Failure}
    (refused : job.check recorded = .error failure) : failure.BlamesInput := by
  cases job with
  | remove group targets => cases refused
  | modify group change targets =>
      have matched := Decides.past (LocalChange.mismatch change.operation recorded) trivial
        fun (_ : ¬ change.operation ≠ recorded) => .ok ()
      exact (change.decides_check.bind fun _ _ => matched).blames failure refused
  | add group specs =>
      exact ((Plan.decides_checkSpecs specs).bind fun _ _ =>
        decides_ensureUnique _ _ specs).blames failure refused

/-- The call fails details. -/
def Step.Unwinds (m : Step) : Prop :=
  ∃ patches, m.call = .store (.updateDetails patches) ∧ ∀ p ∈ patches, p.Fails

theorem Moment.Obeys.same_of_isCut {m : Moment} {deadline : Option Nat} (h : m.Obeys deadline)
    (cut : m.IsCut deadline) : m.after = m.before := by
  cases h with
  | cut _ _ same => exact same
  | completed h => exact absurd cut (Moment.not_isCut h)

theorem DetailScope.ensures_create_quiet {faults : Faults} (scope : DetailScope)
    (params : List Json) (call : CatalogCall) {s : Contents} :
    Program.Ensures faults (fun past _ _ => ∀ m ∈ past, m.call ≠ .catalog call)
      (scope.create params) [] s := by
  have stores : Program.Makes (· ≠ .catalog call) (scope.create params) := by
    unfold create
    split
    · trivial
    · refine Program.makes_iff.2 (Work.asks_bind ⟨?_, fun _ => trivial⟩ fun _ => trivial)
      intro same
      cases same
  apply stores.ensures (I := fun past _ => ∀ m ∈ past, m.call ≠ .catalog call)
  · intro past s c outcome s' other quiet _ _ m mem
    rcases List.mem_append.1 mem with mem | mem
    · exact quiet m mem
    · rw [List.mem_singleton.1 mem]
      exact other
  · exact List.forall_mem_nil _

theorem Tables.unwinds_failing {ι : Type} (t : Tables) (items : List ι) (reason : String)
    (outcome : Except Failure Unit) (s s' : Contents) :
    Step.Unwinds ⟨.store (t.failing items reason), outcome, s, s'⟩ := by
  refine ⟨_, rfl, fun p mem => ?_⟩
  obtain ⟨make, new, id, rfl⟩ := Table.exists_make_of_mem_label mem
  obtain ⟨item, -, rfl⟩ := List.mem_map.1 new
  exact ⟨id, reason, rfl⟩

namespace LocalChange

/-- How the one write to the inventory went in work that failed. -/
inductive Written (call : CatalogCall) (before : Catalog) (failure : Failure) : Catalog → Prop
  | refused (other : ¬ failure.NamesMissing) : Written call before failure before
  | rejected (h : (before.perform call).1 = .error failure) :
      Written call before failure (before.perform call).2
  | done {answer : call.Answer} (h : (before.perform call).1 = .ok answer)
      (other : ¬ failure.NamesMissing) :
      Written call before failure (before.perform call).2

/-- What the inventory is like after the write, for work with that outcome. -/
def Lands {α : Type} (call : CatalogCall) (before : Catalog) :
    Option (Except Failure α) → Catalog → Prop
  | none, _ => False
  | some (.error failure), c => Written call before failure c
  | some (.ok _), c => (∃ answer, (before.perform call).1 = .ok answer) ∧
      c = (before.perform call).2

/-- The write is the one call that may have changed the inventory. -/
def Spares (call : CatalogCall) (before : Catalog) (past : List Step) (c : Catalog) : Prop :=
  ∀ m ∈ past, m.call = .catalog call → m.before.catalog = before ∧ m.after.catalog = c

/-- The reason that is recorded for a failure; there is none if recording it was refused. -/
def Explains (failure : Failure) (past : List Step) (reason : Option String) : Prop :=
  reason = some failure.message ∨
    reason = none ∧ ∃ m ∈ past, m.Unwinds ∧ ∃ refusal, m.outcome = .error refusal

/-- What is recorded of a settled write with that outcome. -/
def Records (scope : DetailScope) (params : List Json) (before : Contents) (past : List Step) :
    Option (Except Failure (List Int64)) → Contents → Prop
  | none, _ => False
  | some (.ok ids), s =>
      ids = Table.label before.tables.details.created (params.map fun _ id => id) ∧
        s.tables = before.tables.withDetails (scope.rows params Detail.succeed)
  | some (.error failure), s => s = before ∨ ∃ reason, Explains failure past reason ∧
      s.tables = before.tables.withDetails (scope.rows params (Detail.unwound reason))

/-- What a settled write leaves behind, with the calls that were made for it. -/
structure Settles (scope : DetailScope) (params : List Json) (call : CatalogCall)
    (before : Contents) (past : List Step) (r : Option (Except Failure (List Int64)))
    (s : Contents) : Prop where
  records : Records scope params before past r s
  lands : Lands call before.catalog r s.catalog
  spares : Spares call before.catalog past s.catalog

/-- What has come of the write and of settling its details, before a failure is recorded. -/
structure Reaches (scope : DetailScope) (params : List Json) (call : CatalogCall)
    (before : Contents) (past : List Step) (r : Option (Except Failure (List Detail)))
    (s : Contents) : Prop where
  carries : Carries (fun _ => True) scope params before.tables r s
  lands : Lands call before.catalog r s.catalog
  spares : Spares call before.catalog past s.catalog

section Steps

variable {faults : Faults} {scope : DetailScope} {params : List Json} {call : CatalogCall}
  {before s : Contents} {past : List Step}

theorem Spares.concat {c : Catalog} (h : Spares call before.catalog past c) {made : StoreCall}
    (outcome : Except Failure made.Answer) (s s' : Contents) :
    Spares call before.catalog (past ++ [⟨.store made, outcome, s, s'⟩]) c := by
  intro m mem same
  rcases List.mem_append.1 mem with mem | mem
  · exact h m mem same
  · rw [List.mem_singleton.1 mem] at same
    cases same

/-- The work of the one write: it may be refused, or be rejected by the inventory. -/
def writing (call : CatalogCall) : Work Unit := do
  let _ ← LocalChange.call call
  return ()

theorem ensures_writing (call : CatalogCall) : Program.Ensures faults
    (fun past' r s' => s'.tables = s.tables ∧ Lands call s.catalog r s'.catalog ∧
      ∃ m, past' = past ++ [m] ∧ m.before = s ∧ m.after = s') (writing call) past s := by
  intro outcome s' answered _
  cases answered with
  | refused _ _ machinery =>
      exact ⟨rfl, .refused (Failure.not_namesMissing_of_machinery machinery), _, rfl, rfl, rfl⟩
  | catalog =>
      cases answer : (s.catalog.perform call).1 with
      | error failure => exact ⟨rfl, .rejected answer, _, rfl, rfl, rfl⟩
      | ok a => exact ⟨rfl, ⟨⟨a, answer⟩, rfl⟩, _, rfl, rfl, rfl⟩

theorem ensures_carryOut_writing (numbered : s.tables.Numbered)
    (tables : s.tables = before.tables.withDetails (scope.rows params id))
    (catalog : s.catalog = before.catalog) (quiet : ∀ m ∈ past, m.call ≠ .catalog call) :
    Program.Ensures faults (Reaches scope params call before)
      (carryOut (writing call) (scope.news params before.tables)) past s := by
  have spared : ∀ {m : Step}, m.before = s → Spares call before.catalog (past ++ [m])
      m.after.catalog := by
    intro m found m' mem same
    rcases List.mem_append.1 mem with mem | mem
    · exact absurd same (quiet m' mem)
    · rw [List.mem_singleton.1 mem, found]
      exact ⟨catalog, rfl⟩
  apply Work.ensures_bind (ensures_writing call)
  · intro past' s' died
    exact died.2.1.elim
  · intro past' failure s' failed
    obtain ⟨kept, landed, m, rfl, found, rfl⟩ := failed
    constructor
    · exact ⟨.inr trivial, kept ▸ numbered, kept.trans tables⟩
    · exact catalog ▸ landed
    · exact spared found
  · intro past' _ s' written
    obtain ⟨kept, ⟨⟨answer, done⟩, landed⟩, m, rfl, found, rfl⟩ := written
    rw [catalog] at done landed
    have settled : Program.Ensures faults (fun _ => Carries (fun _ => False) scope params
        before.tables) (Detail.writeSuccess (scope.news params before.tables)) (past ++ [m])
        m.after := ensures_writeSuccess (kept ▸ numbered) (kept.trans tables)
    intro outcome s'' answered numbered'
    have same : s''.catalog = m.after.catalog := answered.catalog_of_store
    have carries := settled outcome s'' answered numbered'
    cases outcome with
    | error failure =>
        obtain ⟨machinery | never, recorded⟩ := carries
        · constructor
          · exact ⟨.inr trivial, recorded⟩
          · show Written call before.catalog failure s''.catalog
            rw [same, landed]
            exact .done done (Failure.not_namesMissing_of_machinery machinery)
          · exact same ▸ (spared found).concat _ _ _
        · exact never.elim
    | ok _ =>
        constructor
        · exact carries
        · exact ⟨⟨answer, done⟩, same.trans landed⟩
        · exact same ▸ (spared found).concat _ _ _

theorem ensures_conclude_reached {r : Except Failure (List Detail)}
    (items : params ≠ []) (reached : Reaches scope params call before past (some r) s) :
    (conclude (scope.news params before.tables) r).Ensures faults
      (Settles scope params call before) past s := by
  obtain ⟨carries, lands, spares⟩ := reached
  cases r with
  | ok settled => exact ⟨carries.imp_left id, lands, spares⟩
  | error failure =>
      obtain ⟨-, numbered, tables⟩ := carries
      have unwinding : (Unwind.run failure (scope.news params before.tables)).Ensures faults
          (fun past r s => r ≠ none ∧
            Settles scope params call before past (some (.error failure)) s) past s := by
        apply Unwind.ensures_run params tables numbered
          DetailScope.pending_news (DetailScope.map_news Detail.id)
        · intro none
          exact absurd none items
        · intro refusal
          refine ⟨.inr ⟨none, .inr ⟨rfl, _, List.mem_concat_self, ?_, refusal, rfl⟩, tables⟩,
            lands, spares.concat _ _ _⟩
          exact Tables.unwinds_failing ..
        · intro s' _ same failed
          exact ⟨.inr ⟨some failure.message, .inl rfl, failed⟩, same ▸ lands,
            same ▸ spares.concat _ _ _⟩
      apply unwinding.bind
      · intro past s died
        exact absurd rfl died.1
      · intro past unwound s left
        exact left.2

/-- What a settled write leaves behind. -/
theorem ensures_settle_writing (items : params ≠ []) (numbered : s.tables.Numbered) :
    Program.Ensures faults (Settles scope params call s) (settle scope params (writing call)) []
      s := by
  unfold settle
  apply Program.ensures_within.2
  split
  next empty => exact absurd (List.isEmpty_iff.1 empty) items
  next =>
    apply Work.ensures_bind
      ((scope.ensures_create params numbered).and (scope.ensures_create_quiet params call))
    · intro past s' died
      exact died.1.elim
    · intro past failure s' refused
      obtain ⟨⟨machinery, rfl⟩, quiet⟩ := refused
      exact ⟨.inl rfl, .refused (Failure.not_namesMissing_of_machinery machinery),
        fun m mem same => absurd same (quiet m mem)⟩
    · intro past details s' created
      obtain ⟨⟨numbered', rfl, rfl⟩, quiet⟩ := created
      apply (ensures_carryOut_writing numbered' rfl rfl quiet).bind
      · intro past s' died
        exact died.carries.elim
      · intro past r s' reached
        exact ensures_conclude_reached items reached

theorem ensures_runLocalJob_settles {job : LocalJob} (items : job.params ≠ [])
    (numbered : s.tables.Numbered) :
    Program.Ensures faults (Settles scope job.params job.write s)
      (Submission.runLocalJob scope job) [] s := by
  rw [Submission.runLocalJob_eq]
  apply Work.ensures_check
  · intro failure refused
    have blames := LocalJob.blames_of_check refused
    exact ⟨.inl rfl, .refused (Failure.not_namesMissing_of_blamesInput blames),
      List.forall_mem_nil _⟩
  · intro _ _
    exact ensures_settle_writing items numbered

end Steps

end LocalChange

namespace LocalJob

/-- A job that was carried out: each of its items has a detail that says so. -/
structure Done (job : LocalJob) (ids : List Int64) (news : List Detail) (before after : Catalog) :
    Prop where
  ids : ids = news.map Detail.id
  params : news.map Detail.param = job.params
  settled : ∀ d ∈ news, d.state = .success ∧ d.flow = none ∧ d.action = none
  applied : job.Applied before after

/-- A job that failed: none of its details says that it was carried out, and the inventory is as
before unless details exist and the deadline has let the write pass. -/
structure Failed (job : LocalJob) (deadline : Option Nat) (ms : List Moment) (failure : Failure)
    (news : List Detail) (before after : Catalog) : Prop where
  unrecorded : news = [] → after = before
  params : news ≠ [] → news.map Detail.param = job.params
  unsuccessful : ∀ d ∈ news, d.state ≠ .success
  explained : (∀ m ∈ ms, m.Unwinds → ∃ answer, m.outcome = .ok answer) →
    ∀ d ∈ news, d.state = .failed ∧ d.reason = some failure.message
  cut : (∃ m ∈ ms, m.call = .catalog job.write ∧ m.IsCut deadline) → after = before

end LocalJob

namespace LocalChange

variable {deadline : Option Nat} {scope : DetailScope} {job : LocalJob} {w w' : World}
  {ms : List Moment} {ids : List Int64} {failure : Failure}

/-- Only details are recorded. -/
theorem Settles.details {params : List Json} {call : CatalogCall} {before s : Contents}
    {past : List Step} {r : Option (Except Failure (List Int64))}
    (h : Settles scope params call before past r s) :
    s.tables = { before.tables with details := s.tables.details } := by
  obtain ⟨records, -, -⟩ := h
  match r, records with
  | some (.ok _), ⟨_, tables⟩ =>
      rw [tables]
      rfl
  | some (.error _), .inl same => rw [same]
  | some (.error _), .inr ⟨_, _, tables⟩ =>
      rw [tables]
      rfl

theorem Settles.done (h : Settles scope job.params job.write w.contents (ms.map Moment.toStep)
    (some (.ok ids)) w'.contents) (numbered : w.store.tables.Numbered)
    (fits : w'.store.tables.Fits) : ∃ news,
      w'.store.tables.details.values = w.store.tables.details.values ++ news ∧
        job.Done ids news w.catalog w'.catalog := by
  obtain ⟨⟨own, tables⟩, ⟨⟨answer, done⟩, catalog⟩, -⟩ := h
  have tables : w'.store.tables = w.store.tables.withDetails
    (scope.rows job.params Detail.succeed) := tables
  have own_id : ∀ d, (Detail.succeed d).id = d.id := fun _ => rfl
  rw [tables] at fits ⊢
  refine ⟨_, DetailScope.values_rows numbered own_id fits, ?_⟩
  constructor
  · exact own.trans (DetailScope.rows_ids _ own_id).symm
  · exact DetailScope.rows_params _ fun _ => rfl
  · intro d mem
    obtain ⟨new, rfl, -, flow, action⟩ := DetailScope.exists_of_mem_rows mem
    exact ⟨rfl, flow, action⟩
  · have catalog : w'.catalog = (w.catalog.perform job.write).2 := catalog
    rw [catalog]
    have count : w.store.tables.details.created + job.params.length < 2 ^ 63 := by
      simpa [Tables.withDetails, DetailScope.rows] using fits.details
    have few : job.params.length ≤ UInt64.size := by
      rw [UInt64.size]
      omega
    exact LocalJob.applied_write (LocalJob.nameable_of_params few) done

/-- Where the deadline stops the write, the inventory is as before. -/
theorem Settles.kept_of_isCut {params : List Json} {call : CatalogCall}
    {r : Option (Except Failure (List Int64))}
    (h : Settles scope params call w.contents (ms.map Moment.toStep) r w'.contents)
    (obeys : ∀ m ∈ ms, m.Obeys deadline)
    (cut : ∃ m ∈ ms, m.call = .catalog call ∧ m.IsCut deadline) : w'.catalog = w.catalog := by
  obtain ⟨m, mem, write, cut⟩ := cut
  obtain ⟨before, after⟩ := h.spares m.toStep (List.mem_map_of_mem mem) write
  have same : m.after.catalog = m.before.catalog :=
    congrArg Contents.catalog ((obeys m mem).same_of_isCut cut)
  exact (after.symm.trans same).trans before

theorem Settles.failed (h : Settles scope job.params job.write w.contents (ms.map Moment.toStep)
    (some (.error failure)) w'.contents) (items : job.params ≠ [])
    (obeys : ∀ m ∈ ms, m.Obeys deadline) (numbered : w.store.tables.Numbered)
    (fits : w'.store.tables.Fits) : ∃ news,
      w'.store.tables.details.values = w.store.tables.details.values ++ news ∧
        job.Failed deadline ms failure news w.catalog w'.catalog := by
  rcases h.records with same | ⟨reason, explains, tables⟩
  · have tables : w'.store.tables = w.store.tables := congrArg Contents.tables same
    refine ⟨[], by rw [tables, List.append_nil], ?_⟩
    constructor
    · exact fun _ => congrArg Contents.catalog same
    · exact fun new => absurd rfl new
    · exact List.forall_mem_nil _
    · exact fun _ => List.forall_mem_nil _
    · exact h.kept_of_isCut obeys
  · have tables : w'.store.tables = w.store.tables.withDetails
      (scope.rows job.params (Detail.unwound reason)) := tables
    rw [tables] at fits ⊢
    refine ⟨_, DetailScope.values_rows numbered (Detail.unwound_id reason) fits, ?_⟩
    constructor
    · exact fun none => absurd (DetailScope.eq_nil_of_rows none) items
    · exact fun _ => DetailScope.rows_params _ fun d => by cases reason <;> rfl
    · intro d mem
      obtain ⟨new, rfl, pending, -, -⟩ := DetailScope.exists_of_mem_rows mem
      exact new.unwound_state_ne reason pending
    · intro succeed d mem
      obtain ⟨new, rfl, -, -, -⟩ := DetailScope.exists_of_mem_rows mem
      rcases explains with rfl | ⟨rfl, m, made, unwinds, refusal, refused⟩
      · exact ⟨rfl, rfl⟩
      · obtain ⟨m, moment, rfl⟩ := List.mem_map.1 made
        obtain ⟨answer, answered⟩ := succeed m moment unwinds
        rw [refused] at answered
        cases answered
    · exact h.kept_of_isCut obeys

end LocalChange

namespace LocalJob

/-- What a local job records is what has happened. -/
theorem recorded_truthfully {deadline : Option Nat} {scope : DetailScope} {job : LocalJob}
    {w w' : World} {ms : List Moment} {r : Option (Except Failure (List Int64))}
    (reachable : w.store.tables.Reachable) (items : job.params ≠ [])
    (took : Program.Takes deadline (Submission.runLocalJob scope job) w ms r w')
    (fits : w'.store.tables.Fits) :
    w'.store.tables = { w.store.tables with details := w'.store.tables.details } ∧
      ∃ news, w'.store.tables.details.values = w.store.tables.details.values ++ news ∧
        ((∃ ids, r = some (.ok ids) ∧ job.Done ids news w.catalog w'.catalog) ∨
          ∃ failure, r = some (.error failure) ∧
            job.Failed deadline ms failure news w.catalog w'.catalog) ∧
        ((∃ d ∈ news, d.state = .success) → job.Applied w.catalog w'.catalog) := by
  have numbered := reachable.numbered (fits.of_later took.later)
  have settles : LocalChange.Settles scope job.params job.write w.contents
      (ms.map Moment.toStep) r w'.contents :=
    (LocalChange.ensures_runLocalJob_settles items numbered).takes took numbered fits
  refine ⟨settles.details, ?_⟩
  match r, settles with
  | none, settles => exact settles.records.elim
  | some (.ok ids), settles =>
      obtain ⟨news, values, done⟩ := settles.done numbered fits
      exact ⟨news, values, .inl ⟨ids, rfl, done⟩, fun _ => done.applied⟩
  | some (.error failure), settles =>
      obtain ⟨news, values, failed⟩ := settles.failed items took.obeys numbered fits
      refine ⟨news, values, .inr ⟨failure, rfl, failed⟩, ?_⟩
      rintro ⟨d, mem, succeeded⟩
      exact absurd succeeded (failed.unsuccessful d mem)

def twoTargets : List Target := [
  { id := "t-1", group := "tg-1", instanceId := "i-1", ip := "10.0.0.1", port := 80
    weight := 10 },
  { id := "t-2", group := "tg-1", instanceId := "i-2", ip := "10.0.0.2", port := 80
    weight := 20 }]

def twoWeightChanges : LocalJob :=
  .modify "tg-1" (.weight 5) twoTargets

/-- It takes ten milliseconds to change targets. -/
def slowInventory : World :=
  (World.insert {} { targets := twoTargets }).setDelay "update_targets" 10

def slowChanges : Work (List Int64) :=
  Submission.runLocalJob { batch := 1, business := 7, operation := .modifyTargetWeight }
    twoWeightChanges

theorem recorded_truthfully_slowInventory :
    ∃ w', Program.run (some 5) slowChanges slowInventory =
        (some (.error (.expired "catalog_write")), w') ∧ w'.catalog = slowInventory.catalog ∧
      ∃ news, w'.store.tables.details.values = news ∧
        news.map Detail.param = twoWeightChanges.params ∧
        ∀ d ∈ news, d.state = .failed ∧
          d.reason = some "Aborted: deadline exceeded during catalog_write" := by
  have fits : (Program.run (some 5) slowChanges slowInventory).2.store.tables.Fits := by
    decide +kernel
  have ended : (Program.run (some 5) slowChanges slowInventory).1 =
      some (.error (.expired "catalog_write")) := by
    decide +kernel
  have write : ((Program.timeline (some 5) slowChanges slowInventory).map fun m =>
      (m.call, m.guard, m.start, m.span))[1]? =
        some (.catalog twoWeightChanges.write, .timed "catalog_write", 0, 10) := by
    decide +kernel
  have others : (Program.timeline (some 5) slowChanges slowInventory).all fun m =>
      m.call = .catalog twoWeightChanges.write ∨ m.outcome.isOk := by
    decide +kernel
  obtain ⟨-, news, values, outcome, -⟩ := recorded_truthfully .empty (by decide +kernel)
    (Program.takes_run (some 5) slowChanges slowInventory) fits
  rcases outcome with ⟨ids, ok, -⟩ | ⟨failure, same, failed⟩
  · rw [ended] at ok
    cases ok
  · rw [ended] at same
    cases same
    have unwound : ∀ m ∈ Program.timeline (some 5) slowChanges slowInventory, m.Unwinds →
        ∃ answer, m.outcome = .ok answer := by
      rintro m mem ⟨patches, call, -⟩
      rcases of_decide_eq_true (List.all_eq_true.1 others m mem) with same | ok
      · rw [call] at same
        cases same
      · cases outcome : m.outcome with
        | ok answer => exact ⟨answer, rfl⟩
        | error failure =>
            rw [outcome] at ok
            cases ok
    have cut : ∃ m ∈ Program.timeline (some 5) slowChanges slowInventory,
        m.call = .catalog twoWeightChanges.write ∧ m.IsCut (some 5) := by
      rw [List.getElem?_map] at write
      obtain ⟨m, made, same⟩ := Option.map_eq_some_iff.1 write
      simp only [Prod.mk.injEq] at same
      obtain ⟨call, guard, start, span⟩ := same
      refine ⟨m, List.mem_of_getElem? made, call, 5, "catalog_write", ?_⟩
      rw [guard, start, span]
      rfl
    refine ⟨_, Prod.ext ended rfl, failed.cut cut, news, values, ?_, failed.explained unwound⟩
    apply failed.params
    rintro rfl
    exact absurd values (by decide +kernel)

end LocalJob

end BalancerFlows
