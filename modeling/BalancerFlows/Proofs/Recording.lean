import BalancerFlows.Batch.Submission
import BalancerFlows.Proofs.Holding
import BalancerFlows.Proofs.Traces

/-!
# What is recorded

New details get the ids that follow, so the tables after a piece of work can be computed from its
parameter records and from the tables before. This is done here for the creation of details, for
their unwinding, and for local changes, whose details succeed or are unwound in the end. Main
statement: `LocalChange.ensures_runLocalJob`, which covers all local jobs.
-/
namespace BalancerFlows

theorem Call.Answered.plain_cases {faults : Faults} {c : StoreCall} (plain : c.Plain)
    {s s' : Contents} {outcome : Except Failure c.Answer}
    (h : (Call.store c).Answered faults s outcome s') :
    (∃ failure, failure.isPrecondition = false ∧ outcome = .error failure ∧ s' = s) ∨
      outcome = (s.tables.carryOut c).1 ∧ s' = { s with tables := (s.tables.carryOut c).2 } := by
  cases h with
  | store catalog answered =>
      cases answered with
      | refused c t machinery => exact .inl ⟨_, machinery, rfl, rfl⟩
      | done => exact .inr ⟨rfl, rfl⟩
      | unseen => exact plain.elim
      | cancelled => exact plain.elim
      | uncancelled => exact plain.elim

/-- The detail after its work was unwound for that reason, if it was. -/
def Detail.unwound (reason : Option String) (d : Detail) : Detail :=
  match reason with
  | none => d
  | some reason => { d with state := .failed, reason := some reason }

namespace Detail

variable (reason : Option String) (d : Detail)

@[simp] theorem unwound_id : (d.unwound reason).id = d.id := by
  cases reason <;> rfl

@[simp] theorem unwound_flow : (d.unwound reason).flow = d.flow := by
  cases reason <;> rfl

@[simp] theorem unwound_action : (d.unwound reason).action = d.action := by
  cases reason <;> rfl

theorem unwound_state_ne (pending : d.state = .pending) : (d.unwound reason).state ≠ .success := by
  cases reason with
  | none =>
      intro succeeded
      have succeeded : d.state = .success := succeeded
      rw [pending] at succeeded
      cases succeeded
  | some text =>
      intro succeeded
      cases succeeded

end Detail

namespace Tables

def withDetails (t : Tables) (makes : List (Int64 → Detail)) : Tables :=
  { t with details := (t.details.addAll makes).2 }

/-- New details that are patched at once might have been created so. -/
theorem withDetails_patched {ι : Type} (t : Tables) (items : List ι) (row : ι → Int64 → Detail)
    (patch : ι → Int64 → DetailPatch) (ids : ∀ i ∈ items, ∀ id, (patch i id).id = id)
    (fits : (t.withDetails (items.map row)).Fits) :
    ((t.withDetails (items.map row)).carryOut
        (.updateDetails (Table.label t.details.created (items.map patch)))).2 =
      t.withDetails (items.map fun i id => (patch i id).apply (row i id)) := by
  have room : t.details.created + items.length < 2 ^ 63 := by
    simpa [withDetails] using fits.details
  have rows := patchDetails_addAll t.details items row patch ids room
  exact congrArg (fun details => { t with details }) rows

theorem values_withDetails {t : Tables} (numbered : t.details.Numbered Detail.id)
    {makes : List (Int64 → Detail)}
    (own : ∀ make ∈ makes, ∀ id, (make id).id = id) (fits : (t.withDetails makes).Fits) :
    (t.withDetails makes).details.values =
      t.details.values ++ Table.label t.details.created makes := by
  have room : t.details.created + makes.length < 2 ^ 63 := by
    simpa [withDetails] using fits.details
  have rows := Table.addAll_rows numbered own room
  simp only [withDetails, Table.values, rows, Keyed.values, List.map_append, List.map_map]
  simp [Table.addAll_fst, Function.comp_def]

end Tables

section Unwinding

variable {ι : Type} {t : Tables} {past : List Step} {s : Contents}

/-- The call that fails new details. -/
def Tables.failing (t : Tables) (items : List ι) (reason : String) : StoreCall :=
  .updateDetails (Table.label t.details.created
    (items.map fun _ id => .settle id .failed (some reason)))

/-- An unwinding of new details fails all of them in one call, which may be refused. -/
theorem Unwind.ensures_run {faults : Faults} (items : List ι) {row : ι → Int64 → Detail}
    (tables : s.tables = t.withDetails (items.map row)) (numbered : s.tables.Numbered)
    {details : List Detail} (pending : ∀ d ∈ details, d.state = .pending)
    (ids : details.map Detail.id = Table.label t.details.created (items.map fun _ id => id))
    {cause : Failure} {Q : List Step → Contents → Prop} (idle : items = [] → Q past s)
    (refused : ∀ failure,
      Q (past ++ [⟨.store (t.failing items cause.message), .error failure, s, s⟩]) s)
    (done : ∀ s', s'.tables.Numbered → s'.catalog = s.catalog →
      s'.tables = t.withDetails (items.map fun i id => (row i id).unwound (some cause.message)) →
      Q (past ++ [⟨.store (t.failing items cause.message), .ok (), s, s'⟩]) s') :
    (Unwind.run cause details).Ensures faults (fun past r s => r ≠ none ∧ Q past s) past s := by
  have patches : (details.map fun d => DetailPatch.settle d.id .failed (some cause.message)) =
      Table.label t.details.created
        (items.map fun _ id => .settle id .failed (some cause.message)) := by
    have made :=
      congrArg (List.map fun id => DetailPatch.settle id .failed (some cause.message)) ids
    rw [List.map_map, Table.map_label, List.map_map] at made
    exact made
  unfold Unwind.run
  rw [Unwind.patches_of_pending pending, patches]
  simp only
  split
  next empty =>
    rw [List.isEmpty_iff, ← List.length_eq_zero_iff, Table.length_label, List.length_map] at empty
    exact ⟨by simp, idle (List.length_eq_zero_iff.1 empty)⟩
  next =>
    intro outcome s' answered numbered'
    have plain : (t.failing items cause.message).Plain := trivial
    rcases answered.plain_cases plain with ⟨refusal, -, rfl, rfl⟩ | ⟨rfl, rfl⟩
    · exact ⟨by simp, refused refusal⟩
    · refine ⟨by simp, done _ numbered' rfl ?_⟩
      have fits := numbered.toFits
      simp only [tables] at fits ⊢
      exact Tables.withDetails_patched t items row
        (fun _ id => .settle id .failed (some cause.message)) (fun _ _ _ => rfl) fits

end Unwinding

/-- The rows of details for these records, with something done to each. -/
def DetailScope.rows (scope : DetailScope) (params : List Json) (change : Detail → Detail) :
    List (Int64 → Detail) :=
  params.map fun param id => change ((scope.detail param).store id)

def DetailScope.news (scope : DetailScope) (params : List Json) (before : Tables) : List Detail :=
  Table.label before.details.created (scope.rows params id)

theorem DetailScope.map_news {scope : DetailScope} {params : List Json} {before : Tables}
    {α : Type} (f : Detail → α) :
    (scope.news params before).map f = Table.label before.details.created
      (params.map fun param id => f ((scope.detail param).store id)) := by
  rw [news, Table.map_label, rows, List.map_map]
  rfl

theorem DetailScope.pending_news {scope : DetailScope} {params : List Json} {before : Tables} :
    ∀ d ∈ scope.news params before, d.state = .pending := by
  intro d mem
  obtain ⟨make, new, id, rfl⟩ := Table.exists_make_of_mem_label mem
  obtain ⟨param, -, rfl⟩ := List.mem_map.1 new
  rfl

namespace DetailScope

variable {scope : DetailScope} {params : List Json} {change : Detail → Detail} {t : Tables}

theorem rows_params (n : Nat) (keeps : ∀ d, (change d).param = d.param) :
    (Table.label n (scope.rows params change)).map Detail.param = params := by
  rw [Table.map_label, rows, List.map_map]
  have same : ((fun make id => (make id).param) ∘ fun param id =>
      change ((scope.detail param).store id)) = fun (param : Json) (_ : Int64) => id param := by
    funext param id
    exact keeps _
  rw [same, Table.label_const, List.map_id]

theorem rows_ids (n : Nat) (keeps : ∀ d, (change d).id = d.id) :
    (Table.label n (scope.rows params change)).map Detail.id =
      Table.label n (params.map fun _ id => id) := by
  rw [Table.map_label, rows, List.map_map]
  have same : ((fun make id => (make id).id) ∘ fun param id =>
      change ((scope.detail param).store id)) = fun (_ : Json) (id : Int64) => id := by
    funext param id
    exact keeps _
  rw [same]

/-- A new detail is pending and bound to nothing before something is done to it. -/
theorem exists_of_mem_rows {n : Nat} {d : Detail}
    (mem : d ∈ Table.label n (scope.rows params change)) :
    ∃ new, d = change new ∧ new.state = .pending ∧ new.flow = none ∧ new.action = none := by
  obtain ⟨make, listed, id, rfl⟩ := Table.exists_make_of_mem_label mem
  obtain ⟨param, -, rfl⟩ := List.mem_map.1 listed
  exact ⟨_, rfl, rfl, rfl, rfl⟩

theorem eq_nil_of_rows {n : Nat} (none : Table.label n (scope.rows params change) = []) :
    params = [] := by
  have count := congrArg List.length none
  rw [Table.length_label, rows, List.length_map] at count
  exact List.length_eq_zero_iff.1 count

theorem values_rows (numbered : t.Numbered) (keeps : ∀ d, (change d).id = d.id)
    (fits : (t.withDetails (scope.rows params change)).Fits) :
    (t.withDetails (scope.rows params change)).details.values =
      t.details.values ++ Table.label t.details.created (scope.rows params change) := by
  apply Tables.values_withDetails numbered.details _ fits
  intro make mem id
  obtain ⟨param, -, rfl⟩ := List.mem_map.1 mem
  exact keeps _

end DetailScope

/-- What comes of creating details. -/
def DetailScope.Creates (scope : DetailScope) (params : List Json) (before : Contents) :
    Option (Except Failure (List Detail)) → Contents → Prop
  | none, _ => False
  | some (.error failure), s => failure.isPrecondition = false ∧ s = before
  | some (.ok details), s => s.tables.Numbered ∧
      details = scope.news params before.tables ∧
      s = { before with tables := before.tables.withDetails (scope.rows params id) }

theorem DetailScope.ensures_create {faults : Faults} (scope : DetailScope) (params : List Json)
    {past : List Step} {s : Contents} (numbered : s.tables.Numbered) :
    Program.Ensures faults (fun _ => scope.Creates params s) (scope.create params) past s := by
  have stored : (params.map scope.detail).map NewDetail.store = scope.rows params id := by
    rw [DetailScope.rows, List.map_map]
    rfl
  unfold DetailScope.create
  split
  next empty =>
    rw [List.isEmpty_iff] at empty
    subst empty
    exact ⟨numbered, rfl, rfl⟩
  next =>
    have plain : StoreCall.Plain (.createDetails (params.map scope.detail)) := trivial
    intro outcome s' answered numbered'
    rcases answered.plain_cases plain with ⟨refusal, machinery, rfl, rfl⟩ | ⟨rfl, rfl⟩
    · exact ⟨machinery, rfl⟩
    · refine ⟨numbered', ?_, ?_⟩
      · rw [DetailScope.news, ← stored]
        exact Table.addAll_fst _ _
      · rw [← stored]
        rfl

namespace LocalChange

/-- What comes of a write to the catalog that may be refused in some ways. -/
def Writes {α : Type} (refuses : Failure → Prop) (before : Contents) :
    Option (Except Failure α) → Contents → Prop
  | none, _ => False
  | some (.error failure), s => (failure.isPrecondition = false ∨ refuses failure) ∧
      s.tables = before.tables
  | some (.ok _), s => s.tables = before.tables

/-- What a local change leaves behind: details that have succeeded, or nothing, or details that
have failed unless this was refused. -/
def Leaves (refuses : Failure → Prop) (scope : DetailScope) (params : List Json)
    (before : Tables) : Option (Except Failure (List Int64)) → Tables → Prop
  | none, _ => False
  | some (.ok ids), t =>
      ids = Table.label before.details.created (params.map fun _ id => id) ∧
      t = before.withDetails (scope.rows params Detail.succeed)
  | some (.error failure), t => failure.isPrecondition = false ∧ t = before ∨
      (failure.isPrecondition = false ∨ refuses failure) ∧
        ∃ reason, (reason = none ∨ reason = some failure.message) ∧
          t = before.withDetails (scope.rows params (Detail.unwound reason))

section Settling

variable {faults : Faults} {refuses : Failure → Prop} {scope : DetailScope} {params : List Json}
  {before : Tables} {past : List Step} {s : Contents}

/-- What comes of the write and of settling the details. -/
def Carries (refuses : Failure → Prop) (scope : DetailScope) (params : List Json)
    (before : Tables) : Option (Except Failure (List Detail)) → Contents → Prop
  | none, _ => False
  | some (.error failure), s => (failure.isPrecondition = false ∨ refuses failure) ∧
      s.tables.Numbered ∧ s.tables = before.withDetails (scope.rows params id)
  | some (.ok settled), s =>
      settled.map Detail.id = Table.label before.details.created (params.map fun _ id => id) ∧
      s.tables = before.withDetails (scope.rows params Detail.succeed)

theorem ensures_writeSuccess (numbered : s.tables.Numbered)
    (tables : s.tables = before.withDetails (scope.rows params id)) :
    Program.Ensures faults (fun _ => Carries refuses scope params before)
      (Detail.writeSuccess (scope.news params before)) past s := by
  have patches : ((scope.news params before).map fun d => DetailPatch.settle d.id .success none) =
      Table.label before.details.created (params.map fun _ id => .settle id .success none) :=
    DetailScope.map_news _
  have ids : ((scope.news params before).map Detail.succeed).map Detail.id =
      Table.label before.details.created (params.map fun _ id => id) := by
    rw [List.map_map]
    exact DetailScope.map_news _
  have fits := numbered.toFits
  intro outcome s' answered numbered'
  have plain : StoreCall.Plain (.updateDetails
      ((scope.news params before).map fun d => .settle d.id .success none)) := trivial
  rcases answered.plain_cases plain with ⟨refusal, machinery, rfl, rfl⟩ | ⟨rfl, rfl⟩
  · exact ⟨.inl machinery, numbered, tables⟩
  · refine ⟨ids, ?_⟩
    show (s.tables.carryOut _).2 = _
    rw [tables] at fits ⊢
    rw [patches]
    exact Tables.withDetails_patched before params (fun param id => (scope.detail param).store id)
      (fun _ id => .settle id .success none) (fun _ _ _ => rfl) fits

theorem ensures_carryOut {write : Work Unit} (numbered : s.tables.Numbered)
    (tables : s.tables = before.withDetails (scope.rows params id))
    (writes : Program.Ensures faults (fun _ => Writes refuses s) write past s) :
    Program.Ensures faults (fun _ => Carries refuses scope params before)
      (carryOut write (scope.news params before)) past s := by
  unfold carryOut
  apply Work.ensures_bind writes
  · intro past s died
    exact died
  · intro past failure s' failed
    obtain ⟨reason, kept⟩ := failed
    exact ⟨reason, kept ▸ numbered, kept.trans tables⟩
  · intro past _ s' written
    have kept : s'.tables = s.tables := written
    exact ensures_writeSuccess (kept ▸ numbered) (kept.trans tables)

theorem ensures_conclude {r : Except Failure (List Detail)}
    (carried : Carries refuses scope params before (some r) s) :
    (conclude (scope.news params before) r).Ensures faults
      (fun _ r s => Leaves refuses scope params before r s.tables) past s := by
  cases r with
  | ok settled => exact carried
  | error failure =>
      obtain ⟨reason, numbered, tables⟩ := carried
      have unwinding : (Unwind.run failure (scope.news params before)).Ensures faults
          (fun _ r s => r ≠ none ∧
            Leaves refuses scope params before (some (.error failure)) s.tables) past s := by
        apply Unwind.ensures_run params tables numbered
          DetailScope.pending_news (DetailScope.map_news Detail.id)
        · intro _
          exact .inr ⟨reason, none, .inl rfl, tables⟩
        · intro refusal
          exact .inr ⟨reason, none, .inl rfl, tables⟩
        · intro s' _ _ failed
          exact .inr ⟨reason, some failure.message, .inr rfl, failed⟩
      apply unwinding.bind
      · intro past s died
        exact absurd rfl died.1
      · intro past unwound s left
        exact left.2

theorem ensures_settle {write : Work Unit} (numbered : s.tables.Numbered)
    (writes : ∀ past s', s'.catalog = s.catalog →
      Program.Ensures faults (fun _ => Writes refuses s') write past s') :
    Program.Ensures faults (fun _ r s' => Leaves refuses scope params s.tables r s'.tables)
      (settle scope params write) past s := by
  unfold settle
  apply Program.ensures_within.2
  split
  next empty =>
    rw [List.isEmpty_iff] at empty
    subst empty
    exact ⟨rfl, rfl⟩
  next =>
    apply Work.ensures_bind (scope.ensures_create params numbered)
    · intro past s died
      exact died
    · intro past failure s' refused
      obtain ⟨machinery, rfl⟩ := refused
      exact .inl ⟨machinery, rfl⟩
    · intro past details s' created
      obtain ⟨numbered', rfl, rfl⟩ := created
      apply Program.Ensures.bind (ensures_carryOut numbered' rfl (writes past _ rfl))
      · intro past s died
        exact died
      · intro past r s carried
        exact ensures_conclude carried

end Settling

end LocalChange

theorem Catalog.updateTargets_error {c c' : Catalog} {patches : List TargetPatch}
    {failure : Failure} (refused : c.updateTargets patches = (.error failure, c')) :
    ∃ p ∈ patches, c.targets.get? p.id = none ∧ failure = missingTarget p.id := by
  induction patches generalizing c with
  | nil => cases refused
  | cons p rest ih =>
      unfold updateTargets at refused
      split at refused
      next missing =>
        rw [Prod.mk.injEq, Except.error.injEq] at refused
        exact ⟨p, List.mem_cons_self, missing, refused.1.symm⟩
      next t found =>
        obtain ⟨q, mem, missing, rfl⟩ := ih refused
        -- The patch before it has only changed its own target, so `q` misses one all along.
        have other : p.id ≠ q.id := by
          intro same
          rw [← same, Keyed.get?_update, found] at missing
          cases missing
        rw [Keyed.get?_update_of_ne _ other] at missing
        exact ⟨q, List.mem_cons_of_mem p mem, missing, rfl⟩

namespace LocalJob

def params : LocalJob → List Json
  | remove _ targets => targets.map Plan.targetParam
  | modify _ change targets => targets.map change.param
  | add group specs => specs.map (Plan.specParam group)

/-- The job is to change a target that the catalog does not have. -/
def Misses (job : LocalJob) (c : Catalog) (failure : Failure) : Prop :=
  ∃ group change targets, job = modify group change targets ∧
    ∃ target ∈ targets, c.targets.get? target.id = none ∧
      failure = Catalog.missingTarget target.id

end LocalJob

namespace LocalChange

variable {faults : Faults} {scope : DetailScope} {past : List Step} {s : Contents}

theorem ensures_call (c : CatalogCall) {refuses : Failure → Prop}
    (refusals : ∀ failure, (s.catalog.perform c).1 = .error failure → refuses failure) :
    Program.Ensures faults (fun _ => Writes refuses s) (call c) past s := by
  intro outcome s' answered _
  cases answered with
  | refused _ _ machinery => exact ⟨.inl machinery, rfl⟩
  | catalog =>
      cases answer : (s.catalog.perform c).1 with
      | error failure => exact ⟨.inr (refusals failure answer), rfl⟩
      | ok a => exact rfl

/-- What a local job leaves behind; one that was refused before anything was created has changed
nothing. -/
def Does (scope : DetailScope) (job : LocalJob) (before : Contents)
    (r : Option (Except Failure (List Int64))) (t : Tables) : Prop :=
  (∃ failure, r = some (.error failure) ∧ t = before.tables) ∨
    Leaves (job.Misses before.catalog) scope job.params before.tables r t

theorem does_of_settle (job : LocalJob) {write : Work Unit}
    (settles : Program.Ensures faults
      (fun _ r s' => Leaves (job.Misses s.catalog) scope job.params s.tables r s'.tables)
      (settle scope job.params write) past s) :
    Program.Ensures faults (fun _ r s' => Does scope job s r s'.tables)
      (settle scope job.params write) past s :=
  settles.mono fun _ _ _ leaves => .inr leaves

variable (numbered : s.tables.Numbered)
include numbered

theorem ensures_removeTargets (group : String) (targets : List Target) :
    Program.Ensures faults (fun _ r s' => Does scope (.remove group targets) s r s'.tables)
      (removeTargets scope targets) past s := by
  apply does_of_settle (.remove group targets)
  apply ensures_settle numbered
  intro past s' _
  apply ensures_call
  intro failure refused
  cases refused

theorem ensures_modifyTargets (group : String) (change : TargetChange) (targets : List Target) :
    Program.Ensures faults (fun _ r s' => Does scope (.modify group change targets) s r s'.tables)
      (modifyTargets scope change targets) past s := by
  unfold modifyTargets
  apply Work.ensures_check
  · intro failure _
    exact .inl ⟨failure, rfl, rfl⟩
  · intro _ _
    split
    next => exact .inl ⟨_, rfl, rfl⟩
    next =>
      apply does_of_settle (.modify group change targets)
      apply ensures_settle numbered
      intro past s' same
      apply ensures_call
      intro failure refused
      obtain ⟨p, mem, missing, rfl⟩ := Catalog.updateTargets_error (Prod.ext refused rfl)
      obtain ⟨target, listed, rfl⟩ := List.mem_map.1 mem
      have id : (change.patch target).id = target.id := by cases change <;> rfl
      rw [same, id] at missing
      exact ⟨group, change, targets, rfl, target, listed, missing, by rw [id]⟩

theorem ensures_addTargets (group : String) (specs : List TargetSpec) :
    Program.Ensures faults (fun _ r s' => Does scope (.add group specs) s r s'.tables)
      (addTargets scope group specs) past s := by
  unfold addTargets
  apply Work.ensures_check
  · intro failure _
    exact .inl ⟨failure, rfl, rfl⟩
  · intro _ _
    apply Work.ensures_check
    · intro failure _
      exact .inl ⟨failure, rfl, rfl⟩
    · intro _ _
      apply does_of_settle (.add group specs)
      apply ensures_settle numbered
      intro past s' _
      have created : Program.Ensures faults
          (fun _ => Writes ((LocalJob.add group specs).Misses s.catalog) s')
          (call (.createTargets (specs.map (newTarget group)))) past s' :=
        ensures_call _ fun failure refused => by cases refused
      apply Work.ensures_bind created
      · intro past s died
        exact died
      · intro past failure s failed
        exact failed
      · intro past _ s written
        exact written

theorem ensures_runLocalJob (job : LocalJob) :
    Program.Ensures faults (fun _ r s' => Does scope job s r s'.tables)
      (Submission.runLocalJob scope job) past s := by
  cases job with
  | remove group targets => exact ensures_removeTargets numbered group targets
  | modify group change targets => exact ensures_modifyTargets numbered group change targets
  | add group specs => exact ensures_addTargets numbered group specs

end LocalChange

end BalancerFlows
