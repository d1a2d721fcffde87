import BalancerFlows.Proofs.Timeline

/-!
# What a program reports

`Program.Course` is a path through a program: the steps it makes, the operation records it reports
meanwhile, and the value it ends with. Each run of a program in time is a path of it
(`Takes.course`), so worlds, clocks and spans do not matter for what is reported. Most programs
report no operation record at all; `Program.Mute` says so, together with the kind of their calls and
what is known of their value.
-/
namespace BalancerFlows

/-- The operation record of an event, if it is one. -/
def Occurrence.record? (o : Occurrence) : Option OperationRecord :=
  match o.event with
  | .operation record => some record
  | _ => none

def World.records (w : World) : List OperationRecord :=
  w.events.filterMap Occurrence.record?

@[simp] theorem World.records_note (w : World) (o : Occurrence) :
    (w.note o).records = w.records ++ o.record?.toList := by
  cases recorded : o.record? <;> simp [records, note, List.filterMap_append, recorded]

theorem World.events_call (w : World) (deadline : Option Nat) (guard : Guard) (c : Call) :
    (w.call deadline guard c).2.events = w.events := by
  unfold call
  split
  · cases c with
    | store c => rfl
    | catalog c =>
        simp only [perform]
        cases w.catalogFaults.get? c.name <;> rfl
  · rfl

namespace Program

variable {α β : Type}

/-- A path through a program: its steps, the value it ends with unless it dies, and the operation
records it reports. -/
inductive Course : Program α → List Step → Option α → List OperationRecord → Prop
  | done (a : α) : Course (.done a) [] (some a) []
  | overflow : Course .overflow [] none []
  | report {o : Occurrence} {next : Program α} {steps : List Step} {r : Option α}
      {records : List OperationRecord} (rest : Course next steps r records) :
      Course (.report o next) steps r (o.record?.toList ++ records)
  | call {guard : Guard} {c : Call} {next : Except Failure c.Answer → Program α} {faults : Faults}
      {s s' : Contents} {outcome : Except Failure c.Answer} {steps : List Step} {r : Option α}
      {records : List OperationRecord} (answered : c.Answered faults s outcome s')
      (rest : Course (next outcome) steps r records) :
      Course (.call guard c next) (⟨c, outcome, s, s'⟩ :: steps) r records

/-- A run in time is a path, and leaves its operation records in the world. -/
theorem Takes.course {deadline : Option Nat} {p : Program α} {w w' : World} {ms : List Moment}
    {r : Option α} (took : p.Takes deadline w ms r w') :
    ∃ records, w'.records = w.records ++ records ∧ p.Course (ms.map Moment.toStep) r records := by
  induction took with
  | done a w => exact ⟨[], (List.append_nil _).symm, .done a⟩
  | overflow w => exact ⟨[], (List.append_nil _).symm, .overflow⟩
  | report _ ih =>
      obtain ⟨records, reported, course⟩ := ih
      refine ⟨_, ?_, .report course⟩
      rw [reported, World.records_note, List.append_assoc]
  | @call guard c next w w' ms r delays rest ih =>
      obtain ⟨records, reported, course⟩ := ih
      refine ⟨records, ?_, .call (World.answered { w with delays } deadline guard c).1 course⟩
      rw [reported, World.records, World.events_call]
      rfl

namespace Course

variable {steps : List Step} {records : List OperationRecord}

theorem of_bind {p : Program α} {f : α → Program β} {r : Option β}
    (h : (p >>= f).Course steps r records) :
    (r = none ∧ p.Course steps none records) ∨ ∃ first rest early late a, steps = first ++ rest ∧
      records = early ++ late ∧ p.Course first (some a) early ∧ (f a).Course rest r late := by
  have h : (p.bind f).Course steps r records := h
  induction p generalizing steps records with
  | done a => exact .inr ⟨[], steps, [], records, a, rfl, rfl, .done a, h⟩
  | overflow =>
      cases h
      exact .inl ⟨rfl, .overflow⟩
  | report o next ih =>
      cases h with
      | report rest =>
          rcases ih rest rest with ⟨died, course⟩ |
            ⟨first, others, early, late, a, rfl, rfl, course, course'⟩
          · exact .inl ⟨died, .report course⟩
          · exact .inr ⟨first, others, _, late, a, rfl, (List.append_assoc ..).symm,
              .report course, course'⟩
  | call guard c next ih =>
      cases h with
      | call answered rest =>
          rcases ih _ rest rest with ⟨died, course⟩ |
            ⟨first, others, early, late, a, rfl, rfl, course, course'⟩
          · exact .inl ⟨died, .call answered course⟩
          · exact .inr ⟨_ :: first, others, early, late, a, rfl, rfl, .call answered course,
              course'⟩

theorem of_within {span : Span} {p : Program α} {r : Option α}
    (h : (p.within span).Course steps r records) : p.Course steps r records := by
  induction p generalizing steps records with
  | done a => exact h
  | overflow => exact h
  | report o next ih =>
      cases h with
      | report rest => exact .report (ih rest)
  | call guard c next ih =>
      cases h with
      | call answered rest => exact .call answered (ih _ rest)

end Course

end Program

namespace Work

variable {α β : Type} {steps : List Step} {records : List OperationRecord}

theorem course_bind {x : Work α} {f : α → Work β} {r : Option (Except Failure β)}
    (h : Program.Course (x >>= f : Work β) steps r records) :
    (r = none ∧ Program.Course x steps none records) ∨
      (∃ failure, r = some (.error failure) ∧
        Program.Course x steps (some (.error failure)) records) ∨
      ∃ first rest early late a, steps = first ++ rest ∧ records = early ++ late ∧
        Program.Course x first (some (.ok a)) early ∧ Program.Course (f a) rest r late := by
  rcases Program.Course.of_bind h with ⟨rfl, course⟩ |
    ⟨first, rest, early, late, outcome, rfl, rfl, course, next⟩
  · exact .inl ⟨rfl, course⟩
  · cases outcome with
    | error failure =>
        cases next
        exact .inr (.inl ⟨failure, rfl, by simpa using course⟩)
    | ok a => exact .inr (.inr ⟨first, rest, early, late, a, rfl, rfl, course, next⟩)

theorem course_ask {guard : Guard} {c : Call} {f : Except Failure c.Answer → Program β}
    {r : Option β} (h : (outcome (ask guard c) >>= f).Course steps r records) :
    ∃ faults s s' answer rest, c.Answered faults s answer s' ∧
      steps = ⟨c, answer, s, s'⟩ :: rest ∧ (f answer).Course rest r records := by
  have h : Program.Course (.call guard c fun answer => (Program.done answer).bind f) steps r
    records := h
  cases h with
  | call answered rest => exact ⟨_, _, _, _, _, answered, rfl, rest⟩

theorem course_ask_bind {guard : Guard} {c : Call} {f : c.Answer → Work β}
    {r : Option (Except Failure β)}
    (h : Program.Course (ask guard c >>= f : Work β) steps r records) : ∃ faults s s',
      (∃ failure, c.Answered faults s (.error failure) s' ∧ r = some (.error failure) ∧
        steps = [⟨c, .error failure, s, s'⟩] ∧ records = []) ∨
      ∃ a rest, c.Answered faults s (.ok a) s' ∧ steps = ⟨c, .ok a, s, s'⟩ :: rest ∧
        Program.Course (f a) rest r records := by
  obtain ⟨faults, s, s', outcome, rest, answered, rfl, next⟩ := course_ask h
  refine ⟨faults, s, s', ?_⟩
  cases outcome with
  | error failure =>
      cases next
      exact .inl ⟨failure, answered, rfl, rfl, rfl⟩
  | ok a => exact .inr ⟨a, rest, answered, rfl, next⟩

theorem course_lift {p : Program α} {r : Option (Except Failure α)}
    (h : Program.Course (liftM p : Work α) steps r records) :
    ∃ r', p.Course steps r' records ∧ r = r'.map .ok := by
  rcases Program.Course.of_bind h with ⟨rfl, course⟩ |
    ⟨first, rest, early, late, a, rfl, rfl, course, next⟩
  · exact ⟨none, course, rfl⟩
  · cases next
    exact ⟨some a, by simpa using course, rfl⟩

theorem course_lift_bind {p : Program α} {f : α → Work β} {r : Option (Except Failure β)}
    (h : Program.Course (liftM p >>= f : Work β) steps r records) :
    (p >>= fun a => (f a).run).Course steps r records := by
  have h : Program.Course (ExceptT.lift p >>= f : Work β).run steps r records := h
  rwa [ExceptT.run_bind_lift] at h

end Work

namespace Program

section Mute

variable {α β : Type} {P P' : Call → Prop} {V : α → Prop} {W : β → Prop}

/-- Whatever its calls are answered, the program reports no operation record, makes calls of one
kind only, and ends with a value of which something is known. -/
def Mute (P : Call → Prop) (V : α → Prop) : Program α → Prop
  | done a => V a
  | overflow => False
  | report o next => o.record? = none ∧ next.Mute P V
  | call _ c next => P c ∧ ∀ outcome, (next outcome).Mute P V

theorem Mute.course {p : Program α} (h : p.Mute P V) {steps : List Step} {r : Option α}
    {records : List OperationRecord} (course : p.Course steps r records) :
    records = [] ∧ (∀ step ∈ steps, P step.call) ∧ ∃ a, r = some a ∧ V a := by
  induction course with
  | done a => exact ⟨rfl, List.forall_mem_nil _, a, rfl, h⟩
  | overflow => exact h.elim
  | report _ ih =>
      obtain ⟨rfl, calls, value⟩ := ih h.2
      exact ⟨by rw [h.1]; rfl, calls, value⟩
  | call _ _ ih =>
      obtain ⟨rfl, calls, value⟩ := ih (h.2 _)
      exact ⟨rfl, List.forall_mem_cons.2 ⟨h.1, calls⟩, value⟩

/-- Before anything else is done, a mute program ends without a report. -/
theorem Mute.course_bind {p : Program α} {f : α → Program β} (h : p.Mute P V) {steps : List Step}
    {r : Option β} {records : List OperationRecord} (course : (p >>= f).Course steps r records) :
    ∃ first rest a, steps = first ++ rest ∧ (∀ step ∈ first, P step.call) ∧ V a ∧
      p.Course first (some a) [] ∧ (f a).Course rest r records := by
  rcases course.of_bind with ⟨-, died⟩ | ⟨first, rest, early, late, a, rfl, rfl, done, next⟩
  · obtain ⟨-, -, _, none, -⟩ := h.course died
    cases none
  · obtain ⟨rfl, calls, _, same, value⟩ := h.course done
    cases same
    exact ⟨first, rest, a, rfl, calls, value, done, next⟩

theorem Mute.bind {p : Program α} {f : α → Program β} (first : p.Mute P V)
    (next : ∀ a, V a → (f a).Mute P W) : (p >>= f).Mute P W := by
  show (p.bind f).Mute P W
  induction p with
  | done a => exact next a first
  | overflow => exact first.elim
  | report _ rest ih => exact ⟨first.1, ih first.2⟩
  | call _ c rest ih => exact ⟨first.1, fun outcome => ih outcome (first.2 outcome)⟩

@[simp] theorem mute_within {span : Span} {p : Program α} :
    (p.within span).Mute P V ↔ p.Mute P V := by
  induction p with
  | done a => exact Iff.rfl
  | overflow => exact Iff.rfl
  | report _ next ih => exact and_congr Iff.rfl ih
  | call _ c next ih => exact and_congr Iff.rfl (forall_congr' ih)

end Mute

end Program

namespace Work

variable {α β : Type} {P : Call → Prop} {V : α → Prop} {W : β → Prop}

/-- The same for work, with what is known of its value if it does not fail. -/
def Mute (P : Call → Prop) (V : α → Prop) (x : Work α) : Prop :=
  Program.Mute P (fun r => ∀ a, r = .ok a → V a) x

theorem mute_bind {x : Work α} {f : α → Work β} (first : Mute P V x)
    (next : ∀ a, V a → Mute P W (f a)) : Mute P W (x >>= f) := by
  apply Program.Mute.bind first
  intro r value
  cases r with
  | error failure => exact fun _ ok => by cases ok
  | ok a => exact next a (value a rfl)

theorem mute_ask {guard : Guard} {c : Call} (kind : P c) : Mute P (fun _ => True) (ask guard c) :=
  ⟨kind, fun _ _ _ => trivial⟩

/-- Nothing is known of the value. -/
def Silent (x : Work α) : Prop :=
  Mute (fun _ => True) (fun _ => True) x

theorem silent_done (r : Except Failure α) : Silent (Program.done r : Work α) :=
  fun _ _ => trivial

theorem silent_bind {x : Work α} {f : α → Work β} (first : Silent x) (next : ∀ a, Silent (f a)) :
    Silent (x >>= f) :=
  mute_bind first fun a _ => next a

theorem silent_ask (guard : Guard) (c : Call) : Silent (ask guard c) :=
  mute_ask trivial

theorem silent_check {check : Except Failure α} {f : α → Work β} (next : ∀ a, Silent (f a)) :
    Silent (ofExcept check >>= f) :=
  silent_bind (silent_done check) next

theorem silent_outcome {x : Work α} {f : Except Failure α → Program (Except Failure β)}
    (first : Silent x) (next : ∀ r, Silent (ExceptT.mk (f r))) :
    Silent (ExceptT.mk (outcome x >>= f)) :=
  Program.Mute.bind first fun r _ => next r

theorem Silent.within {x : Work α} (h : Silent x) (span : Span) : Silent (Work.within span x) :=
  Program.mute_within.2 h

end Work

/-! ## What reports no operation record -/

namespace Routing

open Work (silent_bind silent_ask silent_done silent_check)

variable (r : BatchRequest)

theorem silent_group (id : String) : (group r id).Silent := by
  refine silent_bind (silent_ask _ _) fun found => ?_
  cases found with
  | none => exact silent_done _
  | some g => exact silent_check fun _ => silent_done _

theorem silent_balancer (id : String) : (balancer r id).Silent := by
  refine silent_bind (silent_ask _ _) fun found => ?_
  cases found with
  | none => exact silent_done _
  | some b => exact silent_check fun _ => silent_done _

theorem silent_splitGroups (s : SplitGroups) (groups : List (String × List Target)) :
    (splitGroups r s groups).Silent := by
  induction groups generalizing s with
  | nil => exact silent_done _
  | cons g rest ih =>
      refine silent_bind (silent_group r g.1) fun _ => silent_bind (silent_ask _ _) fun found => ?_
      cases found with
      | none => exact ih _
      | some binding => exact ih _

theorem silent_targets (route : TargetRoute) (ids : List String) : (targets r route ids).Silent :=
  silent_bind (silent_ask _ _) fun _ => silent_check fun _ =>
    silent_bind (silent_splitGroups r _ _) fun _ => silent_done _

theorem silent_newTargets (id : String) (specs : List TargetSpec) :
    (newTargets r id specs).Silent := by
  refine silent_bind (silent_group r id) fun _ => silent_bind (silent_ask _ _) fun found => ?_
  cases found with
  | none => exact silent_done _
  | some binding => exact silent_done _

theorem silent_listeners (id : String) (ids : List String) : (listeners r id ids).Silent :=
  silent_bind (silent_balancer r id) fun _ => silent_bind (silent_ask _ _) fun _ =>
    silent_check fun _ => silent_done _

theorem silent_bindingListener (b : Binding) : (bindingListener b).Silent := by
  refine silent_bind (silent_ask _ _) fun found => ?_
  split
  · exact silent_done _
  · exact silent_done _

theorem silent_newBinding (b : Binding) : (newBinding r b).Silent := by
  refine silent_bind (silent_group r b.group) fun _ =>
    silent_bind (silent_ask _ _) fun found => ?_
  cases found with
  | some existing => exact silent_done _
  | none =>
      exact silent_bind (silent_balancer r b.balancer) fun _ =>
        silent_bind (silent_bindingListener b) fun _ =>
          silent_bind (silent_ask _ _) fun _ => silent_done _

theorem silent_newBindings (wanted : List Binding) : (newBindings r wanted).Silent := by
  induction wanted with
  | nil => exact silent_done _
  | cons b rest ih =>
      exact silent_bind (silent_newBinding r b) fun _ => silent_bind ih fun _ => silent_done _

theorem silent_route : (route r).Silent := by
  unfold route
  split
  · exact silent_targets r _ _
  · exact silent_targets r _ _
  · exact silent_targets r _ _
  · exact silent_newTargets r _ _
  · exact silent_listeners r _ _
  · exact silent_bind (silent_newBindings r _) fun _ => silent_done _

end Routing

theorem DetailScope.silent_create (scope : DetailScope) (params : List Json) :
    (scope.create params).Silent := by
  unfold create
  split
  · exact Work.silent_done _
  · exact Work.silent_bind (Work.silent_ask _ _) fun _ => ⟨rfl, fun _ _ => trivial⟩

theorem Unwind.silent_run (cause : Failure) (details : List Detail) :
    (run cause details).Mute (fun _ => True) fun _ => True := by
  unfold run
  simp only
  split
  · trivial
  · refine Program.Mute.bind (Work.silent_ask .free (.store (.updateDetails _)))
      fun outcome _ => ?_
    cases outcome with
    | error failure => exact ⟨rfl, trivial⟩
    | ok _ => exact ⟨rfl, trivial⟩

namespace LocalChange

open Work (silent_bind silent_ask silent_done silent_check silent_outcome)

theorem silent_settle (scope : DetailScope) (params : List Json) {write : Work Unit}
    (writes : write.Silent) : (settle scope params write).Silent := by
  unfold settle
  refine Work.Silent.within ?_ _
  split
  · exact silent_done _
  · refine silent_bind (scope.silent_create params) fun details =>
      silent_outcome ?_ fun outcome => ?_
    · exact silent_bind writes fun _ => silent_bind (silent_ask _ _) fun _ => silent_done _
    · cases outcome with
      | ok settled => exact ⟨rfl, fun _ _ => trivial⟩
      | error failure =>
          exact (Unwind.silent_run failure details).bind fun _ _ => fun _ _ => trivial

theorem silent_runLocalJob (scope : DetailScope) (job : LocalJob) :
    (Submission.runLocalJob scope job).Silent := by
  cases job with
  | remove group targets => exact silent_settle scope _ (silent_ask _ _)
  | modify group change targets =>
      refine silent_check fun _ => ?_
      split
      · exact silent_done _
      · exact silent_settle scope _ (silent_ask _ _)
  | add group specs =>
      refine silent_check fun _ => silent_check fun _ => silent_settle scope _ ?_
      exact silent_bind (silent_ask _ _) fun _ => silent_done _

end LocalChange

namespace Submission

theorem silent_runLocalJobs (scope : DetailScope) (s : Submission) (jobs : List LocalJob) :
    (runLocalJobs scope s jobs).Mute (fun _ => True) fun after => after.batch = s.batch := by
  induction jobs generalizing s with
  | nil => exact rfl
  | cons job rest ih =>
      refine Program.Mute.bind (LocalChange.silent_runLocalJob scope job) fun outcome _ => ?_
      cases outcome with
      | ok ids => exact ih { s with settled := s.settled ++ ids }
      | error failure =>
          exact ⟨rfl, ih { s with failures := s.failures ++ [{ resource := job.group, failure }] }⟩

end Submission

end BalancerFlows
