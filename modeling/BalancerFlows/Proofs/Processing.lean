import BalancerFlows.Proofs.Building
import BalancerFlows.Proofs.Calls
import BalancerFlows.Proofs.Settling

/-!
# A batch as a sequence of attempts

Local jobs and jobs of load balancers are worked off by one loop over pieces of work, each of which
starts with nothing of its own. `attempts` lists what became of the pieces in a run: what each was
about, the tables before and after it, and its outcome. Main statements: `attempts_keep`, by which
each attempt is a path of its own, and `process_run`, by which the attempts, with what comes before
and after them, make up the run of a request.
-/
namespace BalancerFlows

/-- What a piece of work yields: details settled without a flow, or a flow. -/
structure Yield where
  settled : List Int64 := []
  flows : List Int64 := []
  deriving Repr, DecidableEq, Inhabited

/-- A piece of the work of a batch, and what it is about. -/
structure Piece where
  resource : String
  work : Work Yield

/-- What became of a piece of work in a run. A piece whose run died has no outcome. -/
structure Attempt where
  resource : String
  outcome : Option (Except Failure Yield)
  before : Tables
  after : Tables

namespace Attempt

def yield (a : Attempt) : Yield :=
  match a.outcome with
  | some (.ok y) => y
  | _ => {}

def failure? (a : Attempt) : Option JobFailure :=
  match a.outcome with
  | some (.error failure) => some { resource := a.resource, failure }
  | _ => none

/-- Each attempt starts from what the one before it left. -/
def Consecutive : Tables → List Attempt → Tables → Prop
  | t, [], t' => t' = t
  | t, a :: rest, t' => a.before = t ∧ Consecutive a.after rest t'

/-- What every attempt keeps, all of them keep. -/
theorem Consecutive.keeps {P : Tables → Prop} {as : List Attempt}
    (step : ∀ a ∈ as, P a.before → P a.after) {t t' : Tables} (h : Consecutive t as t') :
    P t → P t' := by
  induction as generalizing t with
  | nil =>
      have same : t' = t := h
      exact fun before => same ▸ before
  | cons a rest ih =>
      obtain ⟨first, others⟩ := List.forall_mem_cons.1 step
      obtain ⟨rfl, tail⟩ := h
      exact fun before => ih others tail (first before)

end Attempt

/-- What becomes of pieces of work in a run that ends with the first one that dies. -/
def attempts (deadline : Option Nat) : List Piece → World → List Attempt
  | [], _ => []
  | p :: rest, w =>
      let (outcome, after) := (Work.outcome p.work).run deadline w
      { resource := p.resource, outcome, before := w.store.tables, after := after.store.tables } ::
        if outcome.isSome then attempts deadline rest after else []

namespace Submission

def absorb (s : Submission) (y : Yield) : Submission :=
  { s with settled := s.settled ++ y.settled, flows := s.flows ++ y.flows }

def fail (s : Submission) (failure : JobFailure) : Submission :=
  { s with failures := s.failures ++ [failure] }

/-- The submission after some attempts. -/
def follow (s : Submission) (as : List Attempt) : Submission :=
  { s with
    settled := s.settled ++ as.flatMap fun a => a.yield.settled
    flows := s.flows ++ as.flatMap fun a => a.yield.flows
    failures := s.failures ++ as.filterMap Attempt.failure? }

def workAll : Submission → List Piece → Program Submission
  | s, [] => return s
  | s, p :: rest => do
      match ← Work.outcome p.work with
      | .ok y => workAll (s.absorb y) rest
      | .error failure => workAll (← s.noteFailure p.resource failure) rest

def localPiece (scope : DetailScope) (job : LocalJob) : Piece :=
  { resource := job.group, work := (fun ids => { settled := ids }) <$> runLocalJob scope job }

def boundPiece (settings : Settings) (r : BatchRequest) (batch : Int64) (entry : String × Job) :
    Piece :=
  { resource := entry.1
    work := (fun built => { flows := [built.flow] }) <$>
      Construction.buildJob settings (flowScope r batch entry.1) entry.2 }

def pieces (settings : Settings) (r : BatchRequest) (work : Routed) (batch : Int64) : List Piece :=
  work.unbound.map (localPiece (localScope r batch)) ++
    work.bound.map (boundPiece settings r batch)

theorem outcome_map {α β γ : Type} (f : α → β) (w : Work α)
    (k : Except Failure β → Program γ) :
    (Work.outcome (f <$> w) >>= k) = Work.outcome w >>= fun r => k (r.map f) := by
  unfold Work.outcome
  rw [ExceptT.run_map, bind_map_left]

theorem runLocalJobs_eq (scope : DetailScope) (s : Submission) (jobs : List LocalJob) :
    runLocalJobs scope s jobs = workAll s (jobs.map (localPiece scope)) := by
  induction jobs generalizing s with
  | nil => rfl
  | cons job rest ih =>
      rw [List.map_cons, workAll, runLocalJobs, localPiece, outcome_map]
      refine congrArg ((Work.outcome (runLocalJob scope job)).bind ·) (funext fun outcome => ?_)
      cases outcome with
      | ok ids => simp [Except.map, ih, absorb]
      | error failure => simp [Except.map, ih]

theorem runJobs_eq (settings : Settings) (r : BatchRequest) (s : Submission)
    (jobs : List (String × Job)) :
    runJobs settings r s jobs = workAll s (jobs.map (boundPiece settings r s.batch)) := by
  induction jobs generalizing s with
  | nil => rfl
  | cons entry rest ih =>
      obtain ⟨balancer, job⟩ := entry
      rw [List.map_cons, workAll, runJobs, boundPiece, outcome_map]
      refine congrArg (Program.bind _) (funext fun outcome => ?_)
      cases outcome with
      | ok built => simp [Except.map, ih, absorb]
      | error failure => simp [Except.map, ih, noteFailure]

/-- Both loops are one, since what is worked off does not change the batch. -/
theorem workAll_then_runJobs (settings : Settings) (r : BatchRequest) (s : Submission)
    (ps : List Piece) (jobs : List (String × Job)) :
    (workAll s ps >>= fun s => runJobs settings r s jobs) =
      workAll s (ps ++ jobs.map (boundPiece settings r s.batch)) := by
  induction ps generalizing s with
  | nil => exact runJobs_eq settings r s jobs
  | cons p rest ih =>
      rw [List.cons_append, workAll, workAll, bind_assoc]
      refine congrArg (Program.bind _) (funext fun outcome => ?_)
      cases outcome with
      | ok y => exact ih (s.absorb y)
      | error failure =>
          have rest := ih (s.fail { resource := p.resource, failure })
          exact congrArg (Program.report _) rest

theorem workAll_append (s : Submission) (ps qs : List Piece) :
    workAll s (ps ++ qs) = workAll s ps >>= fun s => workAll s qs := by
  induction ps generalizing s with
  | nil => rfl
  | cons p rest ih =>
      rw [List.cons_append, workAll, workAll, bind_assoc]
      refine congrArg (Program.bind _) (funext fun outcome => ?_)
      cases outcome with
      | ok y => exact ih (s.absorb y)
      | error failure => exact congrArg (Program.report _) (ih _)

theorem run_workAll_cons (deadline : Option Nat) (s : Submission) (p : Piece) (rest : List Piece)
    (w : World) : (workAll s (p :: rest)).run deadline w =
      match (Work.outcome p.work).run deadline w with
      | (none, w) => (none, w)
      | (some (.ok y), w) => (workAll (s.absorb y) rest).run deadline w
      | (some (.error failure), w) =>
          (workAll (s.fail { resource := p.resource, failure }) rest).run deadline
            (w.note { event := .workFailed p.resource failure }) := by
  refine (Program.run_bind deadline (Work.outcome p.work) _ w).trans ?_
  rcases (Work.outcome p.work).run deadline w with ⟨_ | _ | _, w⟩ <;> rfl

theorem follow_cons_ok (s : Submission) {a : Attempt} {y : Yield} (ok : a.outcome = some (.ok y))
    (as : List Attempt) : s.follow (a :: as) = (s.absorb y).follow as := by
  have yield : a.yield = y := by rw [Attempt.yield, ok]
  have failure : a.failure? = none := by rw [Attempt.failure?, ok]
  simp [follow, absorb, yield, List.filterMap_cons_none failure]

theorem follow_cons_error (s : Submission) {a : Attempt} {failure : Failure}
    (error : a.outcome = some (.error failure)) (as : List Attempt) :
    s.follow (a :: as) = (s.fail { resource := a.resource, failure }).follow as := by
  have yield : a.yield = {} := by rw [Attempt.yield, error]
  have failure : a.failure? = some { resource := a.resource, failure } := by
    rw [Attempt.failure?, error]
  simp [follow, fail, yield, List.filterMap_cons_some failure]

theorem attempts_with_events (deadline : Option Nat) (ps : List Piece) (w : World)
    (events : List Occurrence) :
    attempts deadline ps { w with events } = attempts deadline ps w := by
  induction ps generalizing w events with
  | nil => rfl
  | cons p rest ih =>
      obtain ⟨events', same⟩ :=
        Program.run_with_events deadline (Work.outcome p.work) w events
      simp [attempts, same, ih]

theorem run_workAll (deadline : Option Nat) (s : Submission) (ps : List Piece) (w : World) :
    ((workAll s ps).run deadline w).1 =
        (if ∀ a ∈ attempts deadline ps w, a.outcome.isSome then
          some (s.follow (attempts deadline ps w)) else none) ∧
      Attempt.Consecutive w.store.tables (attempts deadline ps w)
        ((workAll s ps).run deadline w).2.store.tables := by
  induction ps generalizing s w with
  | nil => simp [workAll, attempts, follow, Attempt.Consecutive, pure, Program.run]
  | cons p rest ih =>
      rw [run_workAll_cons, attempts]
      rcases (Work.outcome p.work).run deadline w with ⟨_ | failure | y, w₁⟩
      · simp [Attempt.Consecutive]
      · have tail := ih (s.fail { resource := p.resource, failure })
          (w₁.note { event := .workFailed p.resource failure })
        have same : attempts deadline rest (w₁.note { event := .workFailed p.resource failure }) =
          attempts deadline rest w₁ := attempts_with_events ..
        rw [same] at tail
        simp only [Option.isSome_some, if_true, List.forall_mem_cons, true_and]
        rw [follow_cons_error s rfl]
        exact ⟨tail.1, rfl, tail.2⟩
      · have tail := ih (s.absorb y) w₁
        simp only [Option.isSome_some, if_true, List.forall_mem_cons, true_and]
        rw [follow_cons_ok s rfl]
        exact ⟨tail.1, rfl, tail.2⟩

/-- Each attempt is a path of its own, and ends as its piece of work keeps to. -/
theorem attempts_keep {T : Terms} {Q : Except Failure Yield → Own → Tables → Prop}
    {answers : Guard → (c : StoreCall) → Except Failure c.Answer → Prop} (covers : T.Covers answers)
    {deadline : Option Nat} {s : Submission} {ps : List Piece}
    (keeps : ∀ p ∈ ps, ∀ t, Program.Keeps T Q p.work {} t) {w : World}
    (always : (workAll s ps).Always deadline answers w) (numbered : w.store.tables.Numbered)
    (fits : ((workAll s ps).run deadline w).2.store.tables.Fits) :
    ∀ a ∈ attempts deadline ps w, ∃ o, T.Path {} a.before o a.after ∧
      ∀ r, a.outcome = some r → Q r o a.after := by
  induction ps generalizing s w with
  | nil => simp [attempts]
  | cons p rest ih =>
      obtain ⟨first, others⟩ := List.forall_mem_cons.1 keeps
      have first : Program.Keeps T Q (Work.outcome p.work) {} w.store.tables := first _
      obtain ⟨always_first, always_rest⟩ := (Program.always_bind _ _ w).1 always
      obtain ⟨o, path, ends⟩ := first.run covers always_first numbered (Program.fits_of_bind fits)
      rw [run_workAll_cons] at fits
      rw [attempts]
      rcases ran : (Work.outcome p.work).run deadline w with ⟨_ | failure | y, w₁⟩
      · rw [ran] at path ends
        refine List.forall_mem_cons.2 ⟨⟨o, path, ends⟩, ?_⟩
        simp
      · rw [ran] at path ends fits always_rest
        have always_rest : (workAll (s.fail { resource := p.resource, failure }) rest).Always
          deadline answers (w₁.note { event := .workFailed p.resource failure }) :=
          always_rest (.error failure) rfl
        have tail := ih others always_rest (path.numbered numbered) fits
        have same : attempts deadline rest (w₁.note { event := .workFailed p.resource failure }) =
          attempts deadline rest w₁ := attempts_with_events ..
        rw [same] at tail
        exact List.forall_mem_cons.2 ⟨⟨o, path, ends⟩, tail⟩
      · rw [ran] at path ends fits always_rest
        have tail := ih others (always_rest (.ok y) rfl) (path.numbered numbered) fits
        exact List.forall_mem_cons.2 ⟨⟨o, path, ends⟩, tail⟩

/-- What comes before the pieces of work: the work itself and the batch. -/
def prepare (settings : Settings) (r : BatchRequest) : Work (Routed × Int64) := do
  Work.ofExcept r.command.check
  let work ← Routing.route r
  let batch ← Work.askStore (.timed "create_task_management") (.createBatch (newBatch settings r))
  return (work, batch.id)

def attach (batch : Int64) (s : Submission) : Work Submission := do
  Work.askStore (.timed "attach_flows") (.attachFlows batch s.flows)
  Work.report (.batchProcessed batch s.flows.length s.settled.length s.failures.length)
  return s

def workOn (batch : Int64) (ps : List Piece) : Work Submission := do
  let s ← workAll { batch } ps
  attach batch s

theorem workOff_eq (settings : Settings) (r : BatchRequest) (work : Routed) (batch : Int64) :
    workOff settings r work batch = workOn batch (pieces settings r work batch) := by
  have loops := workAll_then_runJobs settings r { batch }
    (work.unbound.map (localPiece (localScope r batch))) work.bound
  rw [← runLocalJobs_eq] at loops
  unfold workOff workOn pieces
  rw [← loops, liftM_bind, bind_assoc]
  rfl

def carryOut (settings : Settings) (r : BatchRequest) : Work Submission := do
  let ready ← prepare settings r
  workOn ready.2 (pieces settings r ready.1 ready.2)

theorem process_eq (settings : Settings) (r : BatchRequest) :
    process settings r =
      Work.within (.processing r.business r.command.operation) (carryOut settings r) := by
  unfold process carryOut prepare
  simp only [bind_assoc, pure_bind, workOff_eq]

/-- What becomes of the pieces of work of a request in a run. -/
def attemptsOf (deadline : Option Nat) (settings : Settings) (r : BatchRequest) (w : World) :
    List Attempt :=
  match Program.run deadline (prepare settings r) w with
  | (some (.ok ready), w) => attempts deadline (pieces settings r ready.1 ready.2) w
  | _ => []

end Submission

theorem Program.Makes.keeps {α : Type} {T : Terms} {p : Program α} (reads : p.Makes Call.Reads)
    {P : Own → Tables → Prop} (stable : T.Stable P) {o : Own} {t : Tables} (h : P o t) :
    p.Keeps T (fun _ => P) o t := by
  induction p with
  | done a => exact Program.keeps_done stable h
  | overflow => trivial
  | report _ next ih => exact ih reads
  | call guard c next ih =>
      cases c with
      | store c => exact reads.1.elim
      | catalog c => exact fun outcome => ih outcome (reads.2 outcome)

namespace Submission

/-- How the details of a piece of work stand when it is over. -/
def Accounted (T : Terms) : Except Failure Yield → Own → Tables → Prop
  | .ok y, o, t => ∀ id ∈ o.details, ∃ d, t.details.get? id = some d ∧
      (d.state = .success ∧ d.flow = none ∧ id ∈ y.settled ∨
        d.state = .pending ∧ ∃ f, d.flow = some f.id ∧ t.flows.get? f.id = some f ∧
          f.state = .pending ∧ f.Lists d ∧ f.id ∈ y.flows)
  | .error failure, o, t => Fallen T failure o t

/-- What the attempts of a request have to do with a run of it. Before and after them no rows are
added in a run that returns. -/
structure Processed (T : Terms) (Q : Except Failure Yield → Own → Tables → Prop)
    (as : List Attempt) (t : Tables) (result : Option (Except Failure Submission))
    (t' : Tables) : Prop where
  parts : ∃ t₁ t₂ o₁ o₂, T.Path {} t o₁ t₁ ∧ Attempt.Consecutive t₁ as t₂ ∧ T.Path {} t₂ o₂ t' ∧
    ∀ value, result = some value → o₁ = {} ∧ o₂ = {}
  kept : ∀ a ∈ as, ∃ o, T.Path {} a.before o a.after ∧ ∀ r, a.outcome = some r → Q r o a.after
  returned : ∀ value, result = some value → (∀ a ∈ as, a.outcome.isSome) ∧
    ∀ s, value = .ok s → ∃ batch, s = ({ batch } : Submission).follow as

/-- What every path of its own keeps, a request keeps. -/
theorem Processed.keeps {T : Terms} {Q : Except Failure Yield → Own → Tables → Prop}
    {as : List Attempt} {t t' : Tables} {result : Option (Except Failure Submission)}
    (h : Processed T Q as t result t') {P : Tables → Prop}
    (step : ∀ {o t t'}, T.Path {} t o t' → P t → P t') (before : P t) : P t' := by
  obtain ⟨t₁, t₂, o₁, o₂, first, consecutive, last, -⟩ := h.parts
  have worked : P t₁ → P t₂ := consecutive.keeps fun a mem => by
    obtain ⟨o, path, -⟩ := h.kept a mem
    exact step path
  exact step last (worked (step first before))

variable {T : Terms} {claims : ResourceKey → Prop} (hosts : T.Hosts claims)
include hosts

theorem keeps_localPiece (scope : DetailScope) (job : LocalJob) (t : Tables) :
    Program.Keeps T (Accounted T) (localPiece scope job).work {} t := by
  refine Work.keeps_map ((keeps_runLocalJob hosts scope job t).mono ?_)
  intro outcome o t settled
  cases outcome with
  | error failure => exact settled
  | ok ids =>
      obtain ⟨rfl, success⟩ := settled
      intro id mem
      obtain ⟨d, found, state, flow⟩ := success id mem
      exact ⟨d, found, .inl ⟨state, flow, mem⟩⟩

theorem keeps_boundPiece (settings : Settings) (r : BatchRequest) (batch : Int64)
    (entry : String × Job) (claimed : claims (flowScope r batch entry.1).resource) (t : Tables) :
    Program.Keeps T (Accounted T) (boundPiece settings r batch entry).work {} t := by
  refine Work.keeps_map ((Construction.keeps_buildJob hosts settings entry.2 claimed t).mono ?_)
  intro outcome o t delivered
  cases outcome with
  | error failure => exact delivered
  | ok built =>
      obtain ⟨f, details, running, flow, -⟩ := delivered
      intro id mem
      rw [running.stored.own] at mem
      obtain ⟨d, d_mem, rfl⟩ := List.mem_map.1 mem
      obtain ⟨pending, names, lists⟩ := running.bound d d_mem
      refine ⟨d, running.stored.get? d d_mem, .inr ⟨pending, f, names, running.flow,
        running.state, lists, ?_⟩⟩
      exact flow ▸ List.mem_singleton_self _

theorem keeps_pieces (claimed : ∀ balancer, claims { id := balancer, kind := .loadBalancer })
    (settings : Settings) (r : BatchRequest) (work : Routed) (batch : Int64) :
    ∀ p ∈ pieces settings r work batch, ∀ t, Program.Keeps T (Accounted T) p.work {} t := by
  intro p mem t
  rcases List.mem_append.1 mem with mem | mem
  · obtain ⟨job, -, rfl⟩ := List.mem_map.1 mem
    exact keeps_localPiece hosts _ job t
  · obtain ⟨entry, -, rfl⟩ := List.mem_map.1 mem
    exact keeps_boundPiece hosts settings r batch entry (claimed entry.1) t

omit hosts in
theorem stable_nothing : T.Stable fun o _ => o = {} :=
  fun _ _ _ _ => id

theorem keeps_createBatch (new : NewBatch) (guard : Guard) (t : Tables) :
    Program.Keeps T (fun _ o _ => o = {}) (Work.askStore guard (.createBatch new)) {} t := by
  apply Work.keeps_plain hosts (c := .createBatch new) trivial (P := fun o _ => o = {})
    stable_nothing (fun _ => stable_nothing) rfl
  · intro failure t none refused
    exact none
  · intro t none numbered numbered'
    exact ⟨.batches _, (Own.grow_eq_self rfl rfl _).trans none⟩

theorem keeps_attachFlows (batch : Int64) (flows : List Int64) (guard : Guard) (t : Tables) :
    Program.Keeps T (fun _ o _ => o = {}) (Work.askStore guard (.attachFlows batch flows))
      {} t := by
  apply Work.keeps_askStore (c := .attachFlows batch flows) (P := fun o _ => o = {})
    stable_nothing (fun _ => stable_nothing) rfl
  intro t₁ _ numbered outcome t₂ allowed numbered'
  have effect := T.effect_of_allows allowed
  cases effect with
  | refused => exact ⟨hosts.promise .nothing, Own.grow_self _ _⟩
  | done =>
      have attached : ∃ batches, (t₁.carryOut (.attachFlows batch flows)).2 =
          { t₁ with batches } := by
        simp only [Tables.carryOut, Tables.attachFlows]
        split
        · exact ⟨_, rfl⟩
        · exact ⟨_, rfl⟩
      obtain ⟨batches, same⟩ := attached
      rw [same]
      exact ⟨hosts.promise (.batches batches), Own.grow_eq_self rfl rfl _⟩

theorem keeps_prepare (settings : Settings) (r : BatchRequest) (t : Tables) :
    Program.Keeps T (fun _ o _ => o = {}) (prepare settings r) {} t := by
  have stable : ∀ _ : Except Failure (Routed × Int64), T.Stable fun o _ => o = {} :=
    fun _ => stable_nothing
  have checked : Program.Keeps T (fun _ o _ => o = {}) (Work.ofExcept r.command.check) {} t :=
    Program.keeps_done stable_nothing rfl
  apply Work.keeps_bind stable checked
  · intro failure o t none
    exact none
  intro _ o t none
  apply Work.keeps_bind stable ((Routing.asks_route r).makes.keeps stable_nothing none)
  · intro failure o t none
    exact none
  intro work o t none
  subst none
  apply Work.keeps_bind stable (keeps_createBatch hosts _ _ t)
  · intro failure o t none
    exact none
  · intro batch o t none
    exact fun _ _ => none

/-- After them nothing is added at all. -/
theorem keeps_attach (batch : Int64) (s : Submission) (t : Tables) :
    Program.Keeps T (fun r o _ => o = {} ∧ ∀ s', r = .ok s' → s' = s) (attach batch s) {} t := by
  apply Work.keeps_bind (fun _ _ _ _ _ => id) (keeps_attachFlows hosts batch s.flows _ t)
  · intro failure o t none
    exact ⟨none, by simp⟩
  · intro _ o t none
    exact fun _ _ => ⟨none, fun s' ok => (Except.ok.inj ok).symm⟩

theorem workOn_run {Q : Except Failure Yield → Own → Tables → Prop}
    {answers : Guard → (c : StoreCall) → Except Failure c.Answer → Prop} (covers : T.Covers answers)
    {deadline : Option Nat} {batch : Int64} {ps : List Piece} {w : World}
    (keeps : ∀ p ∈ ps, ∀ t, Program.Keeps T Q p.work {} t)
    (always : Program.Always deadline answers (workOn batch ps) w)
    (numbered : w.store.tables.Numbered)
    (fits : (Program.run deadline (workOn batch ps) w).2.store.tables.Fits) :
    ∃ t₂ o₂, Attempt.Consecutive w.store.tables (attempts deadline ps w) t₂ ∧
      (∀ a ∈ attempts deadline ps w, ∃ o, T.Path {} a.before o a.after ∧
        ∀ r, a.outcome = some r → Q r o a.after) ∧
      T.Path {} t₂ o₂ (Program.run deadline (workOn batch ps) w).2.store.tables ∧
      ∀ result, (Program.run deadline (workOn batch ps) w).1 = some result →
        o₂ = {} ∧ (∀ a ∈ attempts deadline ps w, a.outcome.isSome) ∧
          ∀ s, result = .ok s → s = ({ batch } : Submission).follow (attempts deadline ps w) := by
  obtain ⟨always_work, always_attach⟩ := Work.always_bind always
  obtain ⟨value, consecutive⟩ := run_workAll deadline { batch } ps w
  have fits_work := Work.fits_of_bind fits
  rw [Work.run_lift] at fits_work
  have kept := attempts_keep covers keeps (Work.always_lift always_work) numbered fits_work
  have numbered₂ := consecutive.keeps (P := Tables.Numbered)
    (fun a mem before => (kept a mem).elim fun _ path => path.1.numbered before) numbered
  unfold workOn at fits ⊢
  rw [Work.run_bind, Work.run_lift] at fits ⊢
  rcases ran : (workAll { batch } ps).run deadline w with ⟨_ | s, w₂⟩
  -- A run that dies among its pieces does not come to attach anything.
  · rw [ran] at consecutive
    refine ⟨w₂.store.tables, {}, consecutive, kept, .refl _ _, ?_⟩
    intro result none
    cases none
  · rw [ran] at consecutive numbered₂ fits value
    have always_attach := always_attach s w₂ (by rw [Work.run_lift, ran]; rfl)
    obtain ⟨o₂, path, ends⟩ := (keeps_attach hosts batch s w₂.store.tables).run covers
      always_attach numbered₂ fits
    refine ⟨w₂.store.tables, o₂, consecutive, kept, path, ?_⟩
    intro result returned
    have all : ∀ a ∈ attempts deadline ps w, a.outcome.isSome := by
      by_contra died
      rw [if_neg died] at value
      cases value
    rw [if_pos all] at value
    obtain ⟨none, same⟩ := ends result returned
    exact ⟨none, all, fun s' ok => (same s' ok).trans (Option.some.inj value)⟩

theorem carryOut_run {Q : Except Failure Yield → Own → Tables → Prop}
    {answers : Guard → (c : StoreCall) → Except Failure c.Answer → Prop} (covers : T.Covers answers)
    {deadline : Option Nat} {settings : Settings} {r : BatchRequest} {w : World}
    (keeps : ∀ work batch, ∀ p ∈ pieces settings r work batch, ∀ t, Program.Keeps T Q p.work {} t)
    (always : Program.Always deadline answers (carryOut settings r) w)
    (numbered : w.store.tables.Numbered)
    (fits : (Program.run deadline (carryOut settings r) w).2.store.tables.Fits) :
    Processed T Q (attemptsOf deadline settings r w) w.store.tables
      (Program.run deadline (carryOut settings r) w).1
      (Program.run deadline (carryOut settings r) w).2.store.tables := by
  obtain ⟨always_first, always_rest⟩ := Work.always_bind always
  obtain ⟨o₁, path, ends⟩ := (keeps_prepare hosts settings r w.store.tables).run covers
    always_first numbered (Work.fits_of_bind fits)
  unfold carryOut at fits ⊢
  rw [Work.run_bind] at fits ⊢
  unfold attemptsOf
  rcases ran : Program.run deadline (prepare settings r) w with ⟨_ | failure | ready, w₁⟩
  · rw [ran] at path
    refine ⟨⟨w₁.store.tables, w₁.store.tables, o₁, {}, path, rfl, .refl _ _, ?_⟩, by simp, ?_⟩
    · intro value none
      cases none
    · intro value none
      cases none
  · rw [ran] at path ends
    refine ⟨⟨w₁.store.tables, w₁.store.tables, o₁, {}, path, rfl, .refl _ _, ?_⟩, by simp, ?_⟩
    · intro value _
      exact ⟨ends _ rfl, rfl⟩
    · intro value error
      refine ⟨by simp, fun s ok => ?_⟩
      cases error
      cases ok
  · rw [ran] at path ends fits
    obtain ⟨t₂, o₂, consecutive, kept, path₂, ends₂⟩ := workOn_run hosts covers
      (keeps ready.1 ready.2) (always_rest ready w₁ ran) (path.numbered numbered) fits
    refine ⟨⟨w₁.store.tables, t₂, o₁, o₂, path, consecutive, path₂, ?_⟩, kept, ?_⟩
    · intro value returned
      exact ⟨ends _ rfl, (ends₂ value returned).1⟩
    · intro value returned
      obtain ⟨-, all, same⟩ := ends₂ value returned
      exact ⟨all, fun s ok => ⟨ready.2, same s ok⟩⟩

theorem process_run {Q : Except Failure Yield → Own → Tables → Prop}
    {answers : Guard → (c : StoreCall) → Except Failure c.Answer → Prop} (covers : T.Covers answers)
    {deadline : Option Nat} {settings : Settings} {r : BatchRequest} {w : World}
    (keeps : ∀ work batch, ∀ p ∈ pieces settings r work batch, ∀ t, Program.Keeps T Q p.work {} t)
    (always : Program.Always deadline answers (process settings r) w)
    (numbered : w.store.tables.Numbered)
    (fits : (Program.run deadline (process settings r) w).2.store.tables.Fits) :
    Processed T Q (attemptsOf deadline settings r w) w.store.tables
      (Program.run deadline (process settings r) w).1
      (Program.run deadline (process settings r) w).2.store.tables := by
  rw [process_eq] at always fits ⊢
  have always := (Program.always_within _ _ _).1 always
  obtain ⟨events, same⟩ := Program.run_within deadline
    (.processing r.business r.command.operation) (carryOut settings r) w w.events
  have same : Program.run deadline
      (Work.within (.processing r.business r.command.operation) (carryOut settings r)) w =
    ((Program.run deadline (carryOut settings r) w).1,
      { (Program.run deadline (carryOut settings r) w).2 with events }) := same
  rw [same] at fits ⊢
  exact carryOut_run hosts covers keeps always numbered fits

end Submission

end BalancerFlows
