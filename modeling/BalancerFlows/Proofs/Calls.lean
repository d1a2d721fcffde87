import BalancerFlows.Batch.Submission
import BalancerFlows.Proofs.Traces

/-!
# Which calls a program makes

`Program.Asks` says of a program that all calls it may come to make are of a kind and under a guard
of that kind, whatever the earlier ones are answered; `Program.Makes` says so of the calls alone.
What every call of a kind keeps, the program then keeps (`Makes.ensures`), so that much about a run
follows from the calls alone: routing only reads the inventory, and a piece of work neither touches
a batch nor releases a lock. Every call is bound to the deadline, but for the creation of details,
which only has to begin before it, and for the unwinding.
-/
namespace BalancerFlows

namespace Call

/-- The call only looks something up in the inventory. -/
def Reads : Call → Prop
  | store _ | catalog (.createTargets _) | catalog (.updateTargets _)
  | catalog (.deleteTargets _) => False
  | catalog _ => True

/-- The call releases no lock, and changes no state of a flow but from `init` to `pending`. -/
def Steady : Call → Prop
  | store (.releaseLock ..) => False
  | store (.moveFlow _ expected target) => expected = .init ∧ target = .pending
  | _ => True

/-- The call does not touch a batch, either. -/
def Inner : Call → Prop
  | store (.createBatch _) | store (.attachFlows ..) => False
  | c => c.Steady

/-- The call neither creates a flow nor changes the state of one. -/
def SparesFlows : Call → Prop
  | store (.createFlow _) | store (.moveFlow ..) => False
  | _ => True

/-- The call changes no state of a flow at all. -/
def Still : Call → Prop
  | store (.moveFlow ..) => False
  | c => c.Inner

/-- The call creates or changes details. -/
def Notes : Call → Prop
  | store (.createDetails _) | store (.updateDetails _) => True
  | _ => False

/-- The call creates or changes details, or is one to the inventory. -/
def Records : Call → Prop
  | catalog _ => True
  | c => c.Notes

/-- The call is one to the store, and changes no state of a flow. -/
def Secures : Call → Prop
  | catalog _ => False
  | c => c.Still

/-- The call is one to the store, as constructions make them. -/
def Builds : Call → Prop
  | catalog _ => False
  | c => c.Inner

theorem Inner.steady {c : Call} (h : c.Inner) : c.Steady := by
  cases c with
  | catalog c => trivial
  | store c =>
      cases c with
      | createBatch new => exact h.elim
      | attachFlows batch flows => exact h.elim
      | _ => exact h

theorem Still.inner {c : Call} (h : c.Still) : c.Inner := by
  cases c with
  | catalog c => trivial
  | store c =>
      cases c with
      | moveFlow id expected target => exact h.elim
      | _ => exact h

theorem Records.still {c : Call} (h : c.Records) : c.Still := by
  cases c with
  | catalog c => trivial
  | store c =>
      cases c with
      | createDetails news => trivial
      | updateDetails patches => trivial
      | _ => exact h.elim

theorem Records.inner {c : Call} (h : c.Records) : c.Inner :=
  h.still.inner

theorem Notes.records {c : Call} (h : c.Notes) : c.Records := by
  cases c with
  | catalog c => trivial
  | store c => exact h

theorem Secures.still {c : Call} (h : c.Secures) : c.Still := by
  cases c with
  | catalog c => exact h.elim
  | store c => exact h

theorem Builds.inner {c : Call} (h : c.Builds) : c.Inner := by
  cases c with
  | catalog c => exact h.elim
  | store c => exact h

theorem Secures.builds {c : Call} (h : c.Secures) : c.Builds := by
  cases c with
  | catalog c => exact h.elim
  | store c => exact Still.inner (c := .store c) h

theorem Notes.builds {c : Call} (h : c.Notes) : c.Builds := by
  cases c with
  | catalog c => exact h.elim
  | store c => exact h.records.inner

theorem Records.sparesFlows {c : Call} (h : c.Records) : c.SparesFlows := by
  cases c with
  | catalog c => trivial
  | store c =>
      cases c with
      | createFlow new => exact h.elim
      | moveFlow id expected target => exact h.elim
      | _ => trivial

theorem Reads.steady {c : Call} (h : c.Reads) : c.Steady := by
  cases c with
  | store c => exact h.elim
  | catalog c => trivial

theorem Reads.sparesFlows {c : Call} (h : c.Reads) : c.SparesFlows := by
  cases c with
  | store c => exact h.elim
  | catalog c => trivial

theorem Reads.contents_eq {faults : Faults} {c : Call} (reads : c.Reads) {s s' : Contents}
    {outcome : Except Failure c.Answer} (h : c.Answered faults s outcome s') : s' = s := by
  cases h with
  | store catalog answered => exact reads.elim
  | refused c s machinery => rfl
  | catalog c s =>
      cases c with
      | createTargets news => exact reads.elim
      | updateTargets patches => exact reads.elim
      | deleteTargets ids => exact reads.elim
      | _ => rfl

end Call

/-- What a call to the store changes in the tables, if anything. -/
inductive StoreCall.Change (t : Tables) : StoreCall → Tables → Prop
  | nothing (c : StoreCall) : Change t c t
  | batch (new : NewBatch) :
      Change t (.createBatch new) { t with batches := (t.batches.add new.store).2 }
  | attachment (batch : Int64) (flows : List Int64) : Change t (.attachFlows batch flows)
      { t with batches := t.batches.update batch fun b => { b with flows } }
  | details (news : List NewDetail) : Change t (.createDetails news)
      { t with details := (t.details.addAll (news.map NewDetail.store)).2 }
  | patches (patches : List DetailPatch) : Change t (.updateDetails patches)
      { t with details := Tables.patchDetails t.details patches }
  | flow (new : NewFlow) {state : FlowState} (hidden : state ≠ .pending) :
      Change t (.createFlow new) (t.withFlow new state)
  | move (id : Int64) (expected target : FlowState) : Change t (.moveFlow id expected target)
      { t with flows := t.flows.update id fun f => { f with state := target } }
  | lock (wanted : Lock) (free : t.locks.get? wanted.resource = none) :
      Change t (.takeLock wanted) { t with locks := t.locks.put wanted.resource wanted }
  | release (resource : ResourceKey) (flow : Int64) :
      Change t (.releaseLock resource flow) { t with locks := t.locks.erase resource }
  | subFlows (rows : List SubFlow) : Change t (.createSubFlows rows)
      { t with subFlows := Tables.addSubFlows t.subFlows rows }

theorem StoreCall.change_carryOut (t : Tables) (c : StoreCall) :
    c.Change t (t.carryOut c).2 := by
  cases c with
  | createBatch new => exact .batch new
  | attachFlows batch flows =>
      simp only [Tables.carryOut, Tables.attachFlows]
      split
      · exact .nothing _
      · exact .attachment batch flows
  | createDetails news => exact .details news
  | updateDetails patches => exact .patches patches
  | createFlow new => exact .flow new (by decide)
  | moveFlow id expected target =>
      simp only [Tables.carryOut, Tables.moveFlow]
      split
      · split
        · exact .move id expected target
        · exact .nothing _
      · exact .nothing _
  | takeLock wanted =>
      simp only [Tables.carryOut, Tables.takeLock]
      split
      next => exact .nothing _
      next free => exact .lock wanted free
  | releaseLock resource flow =>
      simp only [Tables.carryOut]
      rcases t.releaseLock_cases resource flow with same | ⟨l, -, -, same⟩
      · rw [same]
        exact .nothing _
      · rw [same]
        exact .release resource flow
  | createSubFlows rows => exact .subFlows rows
  | _ => exact .nothing _

namespace Call

variable {faults : Faults} {c : Call} {s s' : Contents} {outcome : Except Failure c.Answer}

theorem Answered.change (h : c.Answered faults s outcome s') : s'.tables = s.tables ∨
    ∃ call t, c = .store call ∧ call.Change s.tables t ∧ s' = { s with tables := t } := by
  cases h with
  | catalog c s => exact .inl rfl
  | refused c s machinery => exact .inl rfl
  | @store c t t' outcome catalog answered =>
      cases answered with
      | refused c t machinery => exact .inl rfl
      | unseen stale resource t => exact .inl rfl
      | done c t => exact .inr ⟨c, _, rfl, c.change_carryOut t, rfl⟩
      | cancelled cancels new t => exact .inr ⟨_, _, rfl, .flow new (by decide), rfl⟩
      | uncancelled cancels new t machinery => exact .inr ⟨_, _, rfl, .flow new (by decide), rfl⟩

theorem Inner.batches_eq (inner : c.Inner) (h : c.Answered faults s outcome s') :
    s'.tables.batches = s.tables.batches := by
  rcases h.change with same | ⟨call, t, rfl, change, rfl⟩
  · rw [same]
  · cases change with
    | batch new => exact inner.elim
    | attachment batch flows => exact inner.elim
    | _ => rfl

theorem SparesFlows.flows_eq (spares : c.SparesFlows) (h : c.Answered faults s outcome s') :
    s'.tables.flows = s.tables.flows := by
  rcases h.change with same | ⟨call, t, rfl, change, rfl⟩
  · rw [same]
  · cases change with
    | flow new hidden => exact spares.elim
    | move id expected target => exact spares.elim
    | _ => rfl

/-- A call that releases nothing leaves every lock alone. -/
theorem Steady.get?_locks (steady : c.Steady) (h : c.Answered faults s outcome s')
    {k : ResourceKey} {l : Lock} (found : s.tables.locks.get? k = some l) :
    s'.tables.locks.get? k = some l := by
  rcases h.change with same | ⟨call, t, rfl, change, rfl⟩
  · rwa [same]
  · cases change with
    | release resource flow => exact steady.elim
    | lock wanted free =>
        have other : wanted.resource ≠ k := by
          rintro rfl
          rw [free] at found
          cases found
        rwa [← Keyed.get?_put_of_ne _ other wanted] at found
    | _ => exact found

end Call

/-- The patch fails a detail for a reason, and changes nothing else. -/
def DetailPatch.Fails (p : DetailPatch) : Prop :=
  ∃ id reason, p = .settle id .failed (some reason)

/-- A guard that a call is made under: one that ends the call by the deadline, or one for a creation
of details that has begun, or one for an unwinding. -/
inductive Guard.Suits : Guard → Call → Prop
  | timed (name : String) (c : Call) : Suits (.timed name) c
  | creation (name : String) (news : List NewDetail) :
      Suits (.started name) (.store (.createDetails news))
  | unwinding {patches : List DetailPatch} (fails : ∀ p ∈ patches, p.Fails) :
      Suits .free (.store (.updateDetails patches))

/-- A call of a kind, under a guard that suits it. -/
def Call.Suited (P : Call → Prop) (g : Guard) (c : Call) : Prop :=
  g.Suits c ∧ P c

namespace Program

section Asks

variable {α β : Type} {P Q : Guard → Call → Prop}

/-- Every call that the program may come to make is of a kind, together with its guard. -/
def Asks (P : Guard → Call → Prop) : Program α → Prop
  | done _ => True
  | overflow => True
  | report _ next => next.Asks P
  | call g c next => P g c ∧ ∀ outcome, (next outcome).Asks P

theorem Asks.mono {p : Program α} (h : p.Asks P) (imp : ∀ g c, P g c → Q g c) : p.Asks Q := by
  induction p with
  | done a => trivial
  | overflow => trivial
  | report _ next ih => exact ih h
  | call g c next ih => exact ⟨imp g c h.1, fun outcome => ih outcome (h.2 outcome)⟩

theorem Asks.bind {p : Program α} {f : α → Program β} (first : p.Asks P)
    (next : ∀ a, (f a).Asks P) : (p >>= f).Asks P := by
  show (p.bind f).Asks P
  induction p with
  | done a => exact next a
  | overflow => trivial
  | report _ rest ih => exact ih first
  | call _ c rest ih => exact ⟨first.1, fun outcome => ih outcome (first.2 outcome)⟩

@[simp] theorem asks_within {span : Span} {p : Program α} :
    (p.within span).Asks P ↔ p.Asks P := by
  induction p with
  | done a => exact Iff.rfl
  | overflow => exact Iff.rfl
  | report _ next ih => exact ih
  | call _ c next ih => exact and_congr Iff.rfl (forall_congr' ih)

end Asks

variable {α β : Type} {P Q : Call → Prop}

theorem Asks.kind {p : Program α} (h : p.Asks (Call.Suited P)) (imp : ∀ c, P c → Q c) :
    p.Asks (Call.Suited Q) :=
  h.mono fun _ c suited => ⟨suited.1, imp c suited.2⟩

/-- Every call that the program may come to make is of a kind. -/
def Makes (P : Call → Prop) : Program α → Prop
  | done _ => True
  | overflow => True
  | report _ next => next.Makes P
  | call _ c next => P c ∧ ∀ outcome, (next outcome).Makes P

theorem makes_iff {p : Program α} : p.Makes P ↔ p.Asks fun _ => P := by
  induction p with
  | done a => exact Iff.rfl
  | overflow => exact Iff.rfl
  | report _ next ih => exact ih
  | call _ c next ih => exact and_congr Iff.rfl (forall_congr' ih)

theorem Asks.makes {p : Program α} (h : p.Asks (Call.Suited P)) : p.Makes P :=
  makes_iff.2 (h.mono fun _ _ suited => suited.2)

theorem Makes.mono {p : Program α} (h : p.Makes P) (imp : ∀ c, P c → Q c) : p.Makes Q :=
  makes_iff.2 ((makes_iff.1 h).mono fun _ => imp)

/-- Nothing is said about the calls of a program by saying nothing about calls. -/
theorem makes_any (p : Program α) : p.Makes fun _ => True := by
  induction p with
  | done a => trivial
  | overflow => trivial
  | report _ next ih => exact ih
  | call _ c next ih => exact ⟨trivial, ih⟩

/-- What every call of the kind keeps, the program keeps. -/
theorem Makes.ensures {faults : Faults} {I : List Step → Contents → Prop} {p : Program α}
    (h : p.Makes P)
    (keep : ∀ {past s} {c : Call} {outcome s'}, P c → I past s →
      c.Answered faults s outcome s' → s'.tables.Numbered → I (past ++ [⟨c, outcome, s, s'⟩]) s')
    {past : List Step} {s : Contents} (before : I past s) :
    p.Ensures faults (fun past _ s => I past s) past s := by
  induction p generalizing past s with
  | done a => exact before
  | overflow => exact before
  | report _ next ih => exact ih h before
  | call _ c next ih =>
      intro outcome s' answered numbered'
      exact ih outcome (h.2 outcome) (keep h.1 before answered numbered')

theorem Makes.same_flows {faults : Faults} {p : Program α} (h : p.Makes Call.SparesFlows)
    (past : List Step) (s : Contents) :
    p.Ensures faults (fun _ _ s' => s'.tables.flows = s.tables.flows) past s :=
  h.ensures (I := fun _ s' => s'.tables.flows = s.tables.flows)
    (fun spares same answered _ => (spares.flows_eq answered).trans same) rfl

/-- A program that has changed something has done so with one of its calls. -/
theorem ensures_ending (faults : Faults) (p : Program α) (s : Contents) :
    p.Ensures faults (fun past _ s' => s' = s ∨ ∃ step ∈ past, step.after = s') [] s := by
  apply p.makes_any.ensures (I := fun past s' => s' = s ∨ ∃ step ∈ past, step.after = s')
  · intro past s' c outcome s'' _ _ _ _
    exact .inr ⟨_, List.mem_append_right _ (List.mem_singleton_self _), rfl⟩
  · exact .inl rfl

theorem yields_any (faults : Faults) (p : Program α) (s : Contents) :
    p.Yields faults (fun _ _ => True) s := by
  intro numbered past
  have kept : p.Ensures faults (fun _ _ s => s.tables.Numbered) past s :=
    (makes_any p).ensures (I := fun _ s => s.tables.Numbered) (fun _ _ _ numbered' => numbered')
      numbered
  exact kept.mono fun _ _ _ numbered' => ⟨numbered', fun _ _ => trivial⟩

end Program

namespace Work

variable {α β : Type} {P : Call → Prop}

theorem asks_timed {name : String} {c : Call} (h : P c) :
    Program.Asks (Call.Suited P) (ask (.timed name) c) :=
  ⟨⟨.timed name c, h⟩, fun _ => trivial⟩

theorem asks_bind {Q : Guard → Call → Prop} {x : Work α} {f : α → Work β}
    (first : Program.Asks Q x) (next : ∀ a, Program.Asks Q (f a)) :
    Program.Asks Q (x >>= f : Work β) := by
  apply Program.Asks.bind first
  intro r
  cases r with
  | error failure => trivial
  | ok a => exact next a

theorem asks_check {Q : Guard → Call → Prop} {check : Except Failure α} {f : α → Work β}
    (next : ∀ a, Program.Asks Q (f a)) : Program.Asks Q (ofExcept check >>= f : Work β) :=
  asks_bind (x := ofExcept check) trivial next

theorem asks_lift {Q : Guard → Call → Prop} {p : Program α} (h : p.Asks Q) :
    Program.Asks Q (liftM p : Work α) :=
  h.bind fun _ => trivial

theorem asks_map {Q : Guard → Call → Prop} {x : Work α} {f : α → β} (h : Program.Asks Q x) :
    Program.Asks Q (f <$> x : Work β) := by
  rw [map_eq_pure_bind]
  exact asks_bind h fun _ => trivial

/-- The rule for some work behind other work, of which only the value is known. -/
theorem yields_after {faults : Faults} {Q : β → Contents → Prop} {x : Work α} {f : α → Work β}
    {s : Contents} (next : ∀ a s', (f a).Yields faults Q s') :
    Work.Yields faults Q (x >>= f) s := by
  apply (Program.yields_any faults x s).bind
  intro r s' _
  cases r with
  | error failure => exact yields_throw failure
  | ok a => exact next a s'

end Work

namespace Routing

variable (r : BatchRequest)

theorem asks_group (id : String) : Program.Asks (Call.Suited Call.Reads) (group r id) := by
  refine Work.asks_bind (Work.asks_timed trivial) fun found => ?_
  cases found with
  | none => trivial
  | some g => exact Work.asks_check fun _ => trivial

theorem asks_balancer (id : String) : Program.Asks (Call.Suited Call.Reads) (balancer r id) := by
  refine Work.asks_bind (Work.asks_timed trivial) fun found => ?_
  cases found with
  | none => trivial
  | some b => exact Work.asks_check fun _ => trivial

theorem asks_splitGroups (s : SplitGroups) (groups : List (String × List Target)) :
    Program.Asks (Call.Suited Call.Reads) (splitGroups r s groups) := by
  induction groups generalizing s with
  | nil => trivial
  | cons g rest ih =>
      refine Work.asks_bind (asks_group r g.1) fun _ =>
        Work.asks_bind (Work.asks_timed trivial) fun found => ?_
      cases found with
      | none => exact ih _
      | some binding => exact ih _

theorem asks_targets (route : TargetRoute) (ids : List String) :
    Program.Asks (Call.Suited Call.Reads) (targets r route ids) :=
  Work.asks_bind (Work.asks_timed trivial) fun _ => Work.asks_check fun _ =>
    Work.asks_bind (asks_splitGroups r _ _) fun _ => trivial

theorem asks_newTargets (id : String) (specs : List TargetSpec) :
    Program.Asks (Call.Suited Call.Reads) (newTargets r id specs) := by
  refine Work.asks_bind (asks_group r id) fun _ =>
    Work.asks_bind (Work.asks_timed trivial) fun found => ?_
  cases found with
  | none => trivial
  | some binding => trivial

theorem asks_listeners (id : String) (ids : List String) :
    Program.Asks (Call.Suited Call.Reads) (listeners r id ids) :=
  Work.asks_bind (asks_balancer r id) fun _ => Work.asks_bind (Work.asks_timed trivial) fun _ =>
    Work.asks_check fun _ => trivial

theorem asks_bindingListener (b : Binding) :
    Program.Asks (Call.Suited Call.Reads) (bindingListener b) := by
  refine Work.asks_bind (Work.asks_timed trivial) fun found => ?_
  split
  · trivial
  · trivial

theorem asks_newBinding (b : Binding) : Program.Asks (Call.Suited Call.Reads) (newBinding r b) := by
  refine Work.asks_bind (asks_group r b.group) fun _ =>
    Work.asks_bind (Work.asks_timed trivial) fun found => ?_
  cases found with
  | some existing => trivial
  | none =>
      exact Work.asks_bind (asks_balancer r b.balancer) fun _ =>
        Work.asks_bind (asks_bindingListener b) fun _ =>
          Work.asks_bind (Work.asks_timed trivial) fun _ => trivial

theorem asks_newBindings (wanted : List Binding) :
    Program.Asks (Call.Suited Call.Reads) (newBindings r wanted) := by
  induction wanted with
  | nil => trivial
  | cons b rest ih =>
      exact Work.asks_bind (asks_newBinding r b) fun _ => Work.asks_bind ih fun _ => trivial

/-- Routing asks the inventory only, and changes nothing in it. -/
theorem asks_route : Program.Asks (Call.Suited Call.Reads) (route r) := by
  unfold route
  split
  · exact asks_targets r _ _
  · exact asks_targets r _ _
  · exact asks_targets r _ _
  · exact asks_newTargets r _ _
  · exact asks_listeners r _ _
  · exact Work.asks_bind (asks_newBindings r _) fun _ => trivial

end Routing

theorem DetailScope.asks_create (scope : DetailScope) (params : List Json) :
    Program.Asks (Call.Suited Call.Notes) (scope.create params) := by
  unfold create
  split
  · trivial
  next => exact Work.asks_bind ⟨⟨.creation _ _, trivial⟩, fun _ => trivial⟩ fun _ => trivial

theorem Unwind.fails_of_mem {reason : String} {details : List Detail} {p : DetailPatch}
    (mem : p ∈ patches reason details) : p.Fails := by
  obtain ⟨d, -, rfl⟩ := List.mem_map.1 mem
  exact ⟨d.id, reason, rfl⟩

theorem Unwind.asks_run (cause : Failure) (details : List Detail) :
    (run cause details).Asks (Call.Suited Call.Notes) := by
  unfold run
  simp only
  split
  · trivial
  · refine Program.Asks.bind (P := Call.Suited Call.Notes)
      ⟨⟨.unwinding fun _ => fails_of_mem, trivial⟩, fun _ => trivial⟩ fun outcome => ?_
    cases outcome with
    | error failure => trivial
    | ok _ => trivial

namespace LocalChange

theorem asks_settle (scope : DetailScope) (params : List Json) {write : Work Unit}
    (writes : Program.Asks (Call.Suited Call.Records) write) :
    Program.Asks (Call.Suited Call.Records) (settle scope params write) := by
  unfold settle
  apply Program.asks_within.2
  split
  · trivial
  · refine Work.asks_bind ((scope.asks_create params).kind fun _ => Call.Notes.records)
      fun details => ?_
    have carried : Program.Asks (Call.Suited Call.Records) (carryOut write details) :=
      Work.asks_bind writes fun _ => Work.asks_bind (Work.asks_timed trivial) fun _ => trivial
    refine carried.bind fun outcome => ?_
    cases outcome with
    | ok settled => trivial
    | error failure =>
        exact ((Unwind.asks_run failure details).kind fun _ => Call.Notes.records).bind
          fun _ => trivial

theorem asks_runLocalJob (scope : DetailScope) (job : LocalJob) :
    Program.Asks (Call.Suited Call.Records) (Submission.runLocalJob scope job) := by
  cases job with
  | remove group targets => exact asks_settle scope _ (Work.asks_timed trivial)
  | modify group change targets =>
      refine Work.asks_check fun _ => ?_
      split
      · trivial
      · exact asks_settle scope _ (Work.asks_timed trivial)
  | add group specs =>
      refine Work.asks_check fun _ => Work.asks_check fun _ => asks_settle scope _ ?_
      exact Work.asks_bind (Work.asks_timed trivial) fun _ => trivial

end LocalChange

namespace Gate

theorem asks_ensureFree (resource : ResourceKey) :
    Program.Asks (Call.Suited Call.Secures) (ensureFree resource) := by
  apply Program.asks_within.2
  refine Work.asks_bind (Work.asks_timed trivial) fun owner => ?_
  cases owner with
  | none => trivial
  | some owner => trivial

theorem asks_acquire (wanted : Lock) :
    Program.Asks (Call.Suited Call.Secures) (acquire wanted) := by
  apply Program.asks_within.2
  refine Work.asks_bind (Work.asks_timed trivial) fun attempt => ?_
  cases attempt with
  | created lock => trivial
  | conflict owner =>
      simp only [settle]
      split
      · trivial
      · trivial

end Gate

theorem Chain.asks_pushAll (c : Chain) (calls : List PlannedCall) :
    (c.pushAll calls).Asks (Call.Suited Call.Notes) := by
  induction calls generalizing c with
  | nil => trivial
  | cons call rest ih =>
      have pushed : Program.Asks (Call.Suited Call.Notes) (c.push call) := by
        refine Work.asks_bind (c.scope.asks_create call.params) fun details =>
          Work.asks_lift ?_
        unfold append
        split
        · trivial
        · trivial
      refine pushed.bind fun outcome => ?_
      cases outcome with
      | error failure => trivial
      | ok pushed => exact ih pushed.2

namespace FlowDraft

/-- What comes before a flow is made pending: its bindings, the further resources and the lock. -/
def secure (d : FlowDraft) (flow : Flow) (details : List Detail) : Work Lock := do
  Detail.writeBindings details
  Work.askStore (.timed "create_sub_flow_relations") (.createSubFlows (d.subFlows flow.id))
  Gate.acquire (d.lock flow.id)

/-- Making the flow pending, which is the last call of its assembly. -/
def start (flow : Flow) (details : List Detail) : Work Flow := do
  let moved ← Work.askStore (.timed "cas_flow_state") (.moveFlow flow.id .init .pending)
  if moved then
    Work.report (.flowAssembled flow.id flow.tasks.length details.length)
    return { flow with state := .pending }
  else throw (notActivated flow.id)

theorem activate_eq (d : FlowDraft) (flow : Flow) (details : List Detail) :
    d.activate flow details = d.secure flow details >>= fun _ => start flow details := by
  unfold activate secure start
  simp only [bind_assoc]

theorem asks_secure (d : FlowDraft) (flow : Flow) (details : List Detail) :
    Program.Asks (Call.Suited Call.Secures) (d.secure flow details) :=
  Work.asks_bind (Work.asks_timed trivial) fun _ => Work.asks_bind (Work.asks_timed trivial)
    fun _ => Gate.asks_acquire _

theorem asks_start (flow : Flow) (details : List Detail) :
    Program.Asks (Call.Suited Call.Builds) (start flow details) := by
  refine Work.asks_bind (Work.asks_timed ⟨rfl, rfl⟩) fun moved => ?_
  cases moved with
  | true => trivial
  | false => trivial

theorem asks_assemble (d : FlowDraft) (details : List Detail) :
    (d.assemble details).Asks (Call.Suited Call.Builds) := by
  apply Program.asks_within.2
  split
  · trivial
  · refine Program.Asks.bind (Work.asks_timed trivial) fun outcome => ?_
    cases outcome with
    | error failure => trivial
    | ok flow =>
        have activated : Program.Asks (Call.Suited Call.Builds)
            (d.activate flow (details.map (Detail.bindFlow flow.id))) := by
          rw [activate_eq]
          exact Work.asks_bind ((d.asks_secure _ _).kind fun _ => Call.Secures.builds)
            fun _ => asks_start _ _
        exact activated.bind fun _ => trivial

end FlowDraft

namespace Construction

theorem asks_conclude (scope : FlowScope) (operation : Operation) (a : FlowDraft.Assembled) :
    (conclude scope operation a).Asks (Call.Suited Call.Notes) := by
  unfold conclude
  split
  · trivial
  next failure _ => exact (Unwind.asks_run failure a.details).bind fun _ => trivial

/-- A construction asks the store only; it touches no batch, releases nothing, and makes a flow
pending at most. -/
theorem asks_build (scope : FlowScope) (retry : RetryPolicy) (plan : Plan) :
    Program.Asks (Call.Suited Call.Builds) (build scope retry plan) := by
  apply Program.asks_within.2
  refine ((Gate.asks_ensureFree scope.resource).kind fun _ => Call.Secures.builds).bind
    fun outcome => ?_
  cases outcome with
  | error failure => trivial
  | ok _ =>
      have assembled : (assemble scope retry plan).Asks (Call.Suited Call.Builds) := by
        refine ((Chain.asks_pushAll _ plan.calls).kind fun _ => Call.Notes.builds).bind
          fun pushed => ?_
        split
        · trivial
        · exact FlowDraft.asks_assemble _ _
      exact assembled.bind fun a =>
        (asks_conclude scope plan.operation a).kind fun _ => Call.Notes.builds

theorem asks_buildJob (settings : Settings) (scope : FlowScope) (job : Job) :
    Program.Asks (Call.Suited Call.Builds) (buildJob settings scope job) :=
  Work.asks_check fun plan => asks_build scope settings.retry plan

end Construction

end BalancerFlows
