import BalancerFlows.Proofs.Calls
import BalancerFlows.Proofs.Recording

/-!
# Runs where nothing is wrong

Where the store refuses nothing, reads are fresh and there is no deadline, each call is carried out
as it stands, but those to the inventory that are refused. What a program comes to is then a
function of what is stored: `Program.exec`, which knows neither a clock nor events. Main statements:
`Program.run_calm`, by which runs compute this function, and `Program.exec_bind`.
-/
namespace BalancerFlows

/-- Nothing is wrong with the store, and reads of locks are fresh. -/
structure Store.Calm (s : Store) : Prop extends s.Sound where
  fresh : s.faults.staleReads = false

theorem Store.Calm.perform {s : Store} (calm : s.Calm) (c : StoreCall) : ∃ counts,
    s.perform c =
      ((s.tables.carryOut c).1, { s with counts, tables := (s.tables.carryOut c).2 }) := by
  obtain ⟨counts, same⟩ := calm.toSound.attempt c
  refine ⟨counts, ?_⟩
  cases c with
  | findLock resource =>
      simp only [Store.perform]
      rw [same]
      simp [Tables.carryOut, calm.fresh]
  | createFlow new =>
      simp only [Store.perform]
      rw [same]
      simp [Tables.carryOut, calm.cancelOnCreate]
  | _ =>
      simp only [Store.perform]
      exact same

/-- A call as it is carried out, unless it is one to the inventory that is refused. -/
def Call.exec (refused : Keyed String String) (s : Contents) :
    (c : Call) → Except Failure c.Answer × Contents
  | .store c => ((s.tables.carryOut c).1, { s with tables := (s.tables.carryOut c).2 })
  | .catalog c =>
      match refused.get? c.name with
      | some message => (.error (.aborted message), s)
      | none => ((s.catalog.perform c).1, { s with catalog := (s.catalog.perform c).2 })

/-- What a program comes to if its calls are carried out like this, and what is stored then. The
value is missing when a counter of task ids ran over. -/
def Program.exec {α : Type} (refused : Keyed String String) :
    Program α → Contents → Option α × Contents
  | done a, s => (some a, s)
  | overflow, s => (none, s)
  | report _ next, s => next.exec refused s
  | call _ c next, s => (next (c.exec refused s).1).exec refused (c.exec refused s).2

namespace World

variable {w : World}

theorem call_catalog (w : World) (guard : Guard) (c : CatalogCall) :
    (w.call none guard (.catalog c)).1 = ((Call.catalog c).exec w.catalogFaults w.contents).1 ∧
      (w.call none guard (.catalog c)).2.contents =
        ((Call.catalog c).exec w.catalogFaults w.contents).2 ∧
      (w.call none guard (.catalog c)).2.store = w.store ∧
      (w.call none guard (.catalog c)).2.catalogFaults = w.catalogFaults := by
  unfold call
  rw [Deadline.admission_none]
  simp only [perform, Call.exec]
  cases w.catalogFaults.get? c.name with
  | none => exact ⟨rfl, rfl, rfl, rfl⟩
  | some message => exact ⟨rfl, rfl, rfl, rfl⟩

theorem call_carried {c : StoreCall} (guard : Guard)
    (carried : ∃ counts, w.store.perform c = ((w.store.tables.carryOut c).1,
      { w.store with counts, tables := (w.store.tables.carryOut c).2 })) :
    (w.call none guard (.store c)).1 = ((Call.store c).exec w.catalogFaults w.contents).1 ∧
      (w.call none guard (.store c)).2.contents =
        ((Call.store c).exec w.catalogFaults w.contents).2 ∧
      (w.call none guard (.store c)).2.store.faults = w.store.faults ∧
      (w.call none guard (.store c)).2.catalogFaults = w.catalogFaults := by
  obtain ⟨counts, same⟩ := carried
  unfold call
  rw [Deadline.admission_none]
  simp only [perform, same]
  exact ⟨rfl, rfl, trivial, trivial⟩

/-- The call is carried out as it stands, and leaves the store of its kind. -/
structure CarriesOut (S : Store → Prop) (w : World) (guard : Guard) (c : Call) : Prop where
  outcome : (w.call none guard c).1 = (c.exec w.catalogFaults w.contents).1
  contents : (w.call none guard c).2.contents = (c.exec w.catalogFaults w.contents).2
  store : S (w.call none guard c).2.store
  catalogFaults : (w.call none guard c).2.catalogFaults = w.catalogFaults

theorem carriesOut_catalog {S : Store → Prop} (kind : S w.store) (guard : Guard)
    (c : CatalogCall) : CarriesOut S w guard (.catalog c) := by
  obtain ⟨outcome, contents, store, same⟩ := w.call_catalog guard c
  exact ⟨outcome, contents, store ▸ kind, same⟩

theorem carriesOut_calm (calm : w.store.Calm) (guard : Guard) (c : Call) :
    CarriesOut Store.Calm w guard c := by
  cases c with
  | store c =>
      obtain ⟨outcome, contents, faults, same⟩ := call_carried guard (calm.perform c)
      refine ⟨outcome, contents, ⟨⟨?_, ?_⟩, ?_⟩, same⟩
      · exact faults ▸ calm.refusals
      · exact faults ▸ calm.cancelOnCreate
      · exact faults ▸ calm.fresh
  | catalog c => exact carriesOut_catalog calm guard c

/-- Details are recorded as they should be also where reads of locks may be stale. -/
theorem carriesOut_records (sound : w.store.Sound) (guard : Guard) {c : Call}
    (records : c.Records) : CarriesOut Store.Sound w guard c := by
  cases c with
  | store c =>
      have carried : ∃ counts, w.store.perform c = ((w.store.tables.carryOut c).1,
          { w.store with counts, tables := (w.store.tables.carryOut c).2 }) := by
        cases c with
        | createDetails news => exact sound.attempt _
        | updateDetails patches => exact sound.attempt _
        | _ => exact records.elim
      obtain ⟨outcome, contents, faults, same⟩ := call_carried guard carried
      refine ⟨outcome, contents, ⟨?_, ?_⟩, same⟩
      · exact faults ▸ sound.refusals
      · exact faults ▸ sound.cancelOnCreate
  | catalog c => exact carriesOut_catalog sound guard c

end World

namespace Program

variable {α β : Type} {refused : Keyed String String}

/-- A program is run to what it comes to, if all its calls are carried out as they stand. -/
theorem Makes.run_exec {P : Call → Prop} {S : Store → Prop}
    (carried : ∀ {w : World} guard c, S w.store → P c → World.CarriesOut S w guard c)
    {p : Program α} (makes : p.Makes P) {w : World} (kind : S w.store) :
    ((p.run none w).1, (p.run none w).2.contents) = p.exec w.catalogFaults w.contents := by
  induction p generalizing w with
  | done a => rfl
  | overflow => rfl
  | report o next ih => exact ih makes (w := w.note o) kind
  | call guard c next ih =>
      obtain ⟨outcome, contents, kind', same⟩ := carried guard c kind makes.1
      have rest := ih (w.call none guard c).1 (makes.2 _) kind'
      rw [same, contents] at rest
      refine rest.trans ?_
      rw [outcome]
      rfl

/-- A calm world runs a program to what it comes to. -/
theorem run_calm {w : World} (calm : w.store.Calm) (p : Program α) :
    ((p.run none w).1, (p.run none w).2.contents) = p.exec w.catalogFaults w.contents :=
  p.makes_any.run_exec (fun guard c calm _ => World.carriesOut_calm calm guard c) calm

theorem Makes.run_records {p : Program α} (records : p.Makes Call.Records) {w : World}
    (sound : w.store.Sound) :
    ((p.run none w).1, (p.run none w).2.contents) = p.exec w.catalogFaults w.contents :=
  records.run_exec (fun guard _ sound records => World.carriesOut_records sound guard records)
    sound

/-- What only looks things up in the inventory comes to the same in every store. -/
theorem Makes.run_reads {p : Program α} (reads : p.Makes Call.Reads) (w : World) :
    (p.run none w).1 = (p.exec w.catalogFaults w.contents).1 := by
  have carried : ∀ {w : World} guard (c : Call), True → c.Reads →
      World.CarriesOut (fun _ => True) w guard c := by
    intro w guard c kind reads
    cases c with
    | store c => exact reads.elim
    | catalog c => exact World.carriesOut_catalog (S := fun _ => True) kind guard c
  exact congrArg Prod.fst (reads.run_exec (S := fun _ => True) carried trivial)

theorem run_of_exec {w : World} (calm : w.store.Calm) {p : Program α} {r : Option α}
    {s : Contents} (ended : p.exec w.catalogFaults w.contents = (r, s)) :
    (p.run none w).1 = r ∧ (p.run none w).2.contents = s := by
  rw [← run_calm calm, Prod.mk.injEq] at ended
  exact ended

@[simp] theorem exec_pure (a : α) (s : Contents) :
    Program.exec refused (pure a) s = (some a, s) := rfl

theorem exec_bind (p : Program α) (f : α → Program β) (s : Contents) :
    (p >>= f).exec refused s =
      match p.exec refused s with
      | (some a, s') => (f a).exec refused s'
      | (none, s') => (none, s') := by
  show (p.bind f).exec refused s = _
  induction p generalizing s with
  | done a => rfl
  | overflow => rfl
  | report o next ih => exact ih s
  | call guard c next ih => exact ih _ _

@[simp] theorem exec_within (span : Span) (p : Program α) (s : Contents) :
    (p.within span).exec refused s = p.exec refused s := by
  induction p generalizing s with
  | done a => rfl
  | overflow => rfl
  | report o next ih => exact ih s
  | call guard c next ih => exact ih _ _

theorem Makes.exec {P : Call → Prop} {I : Contents → Prop} {p : Program α} (makes : p.Makes P)
    (keep : ∀ c s, P c → I s → I (c.exec refused s).2) {s : Contents} (before : I s) :
    I (p.exec refused s).2 := by
  induction p generalizing s with
  | done a => exact before
  | overflow => exact before
  | report o next ih => exact ih makes before
  | call guard c next ih => exact ih _ (makes.2 _) (keep c s makes.1 before)

end Program

namespace Call

variable {refused : Keyed String String}

theorem later_exec (c : Call) (s : Contents) : s.tables.Later (c.exec refused s).2.tables := by
  cases c with
  | store c => exact (StoreCall.Effect.done c s.tables).later
  | catalog c =>
      simp only [exec]
      split
      · exact .refl _
      · exact .refl _

theorem numbered_exec (c : Call) {s : Contents} (numbered : s.tables.Numbered)
    (fits : (c.exec refused s).2.tables.Fits) : (c.exec refused s).2.tables.Numbered := by
  cases c with
  | store c => exact Tables.numbered_carryOut numbered c fits
  | catalog c =>
      simp only [exec]
      split
      · exact numbered
      · exact numbered

end Call

namespace Program

variable {α : Type} {refused : Keyed String String}

theorem later_exec (p : Program α) (s : Contents) :
    s.tables.Later (p.exec refused s).2.tables := by
  induction p generalizing s with
  | done a => exact .refl _
  | overflow => exact .refl _
  | report o next ih => exact ih s
  | call guard c next ih => exact (c.later_exec s).trans (ih _ _)

theorem numbered_exec (p : Program α) {s : Contents} (numbered : s.tables.Numbered)
    (fits : (p.exec refused s).2.tables.Fits) : (p.exec refused s).2.tables.Numbered := by
  induction p generalizing s with
  | done a => exact numbered
  | overflow => exact numbered
  | report o next ih => exact ih numbered fits
  | call guard c next ih =>
      exact ih _ (c.numbered_exec numbered (fits.of_later (later_exec _ _))) fits

end Program

namespace Work

variable {α β : Type} {refused : Keyed String String}

@[simp] theorem exec_within (span : Span) (x : Work α) (s : Contents) :
    Program.exec refused (Work.within span x) s = Program.exec refused x s :=
  Program.exec_within span x s

theorem exec_ask (guard : Guard) (c : Call) (s : Contents) :
    Program.exec refused (ask guard c) s = (some (c.exec refused s).1, (c.exec refused s).2) := rfl

theorem exec_askStore_of_ok {guard : Guard} {c : StoreCall} {s : Contents} {answer : c.Answer}
    {t : Tables} (done : s.tables.carryOut c = (.ok answer, t)) :
    Program.exec refused (askStore guard c) s = (some (.ok answer), { s with tables := t }) := by
  refine (exec_ask guard (.store c) s).trans ?_
  rw [Call.exec, done]

theorem exec_bind (x : Work α) (f : α → Work β) (s : Contents) :
    Program.exec refused (x >>= f : Work β) s =
      match Program.exec refused x s with
      | (some (.ok a), s') => Program.exec refused (f a) s'
      | (some (.error failure), s') => (some (.error failure), s')
      | (none, s') => (none, s') := by
  refine (Program.exec_bind x _ s).trans ?_
  rcases Program.exec refused x s with ⟨_ | _ | _, s'⟩ <;> rfl

theorem exec_map (refused : Keyed String String) (f : α → β) (x : Work α) (s : Contents) :
    Program.exec refused (f <$> x : Work β) s =
      ((Program.exec refused x s).1.map (Except.map f), (Program.exec refused x s).2) := by
  rw [map_eq_pure_bind]
  refine (exec_bind x _ s).trans ?_
  rcases Program.exec refused x s with ⟨_ | _ | _, s'⟩ <;> rfl

theorem exec_lift (p : Program α) (s : Contents) :
    Program.exec refused (liftM p : Work α) s =
      ((p.exec refused s).1.map .ok, (p.exec refused s).2) := by
  refine (Program.exec_bind p _ s).trans ?_
  rcases p.exec refused s with ⟨_ | _, s'⟩ <;> rfl

theorem exec_bind_of_ok {x : Work α} {f : α → Work β} {s s' : Contents} {a : α}
    (first : Program.exec refused x s = (some (.ok a), s')) :
    Program.exec refused (x >>= f : Work β) s = Program.exec refused (f a) s' := by
  rw [exec_bind, first]

theorem exec_bind_of_error {x : Work α} {f : α → Work β} {s s' : Contents} {failure : Failure}
    (first : Program.exec refused x s = (some (.error failure), s')) :
    Program.exec refused (x >>= f : Work β) s = (some (.error failure), s') := by
  rw [exec_bind, first]

end Work

theorem Program.exec_bind_of_some {α β : Type} {refused : Keyed String String} {p : Program α}
    {f : α → Program β} {s s' : Contents} {a : α} (first : p.exec refused s = (some a, s')) :
    (p >>= f).exec refused s = (f a).exec refused s' := by
  rw [exec_bind, first]

theorem Program.fits_of_exec_bind {α β : Type} {refused : Keyed String String} {p : Program α}
    {f : α → Program β} {s : Contents} (fits : ((p >>= f).exec refused s).2.tables.Fits) :
    (p.exec refused s).2.tables.Fits := by
  rw [exec_bind] at fits
  rcases ended : p.exec refused s with ⟨_ | a, s'⟩
  · rw [ended] at fits
    exact fits
  · rw [ended] at fits
    exact fits.of_later (later_exec (f a) s')

theorem DetailScope.exec_create (refused : Keyed String String) (scope : DetailScope)
    (params : List Json) (s : Contents) :
    Program.exec refused (scope.create params) s = (some (.ok (scope.news params s.tables)),
      { s with tables := s.tables.withDetails (scope.rows params id) }) := by
  have stored : (params.map scope.detail).map NewDetail.store = scope.rows params id := by
    rw [DetailScope.rows, List.map_map]
    rfl
  unfold create
  split
  next empty =>
    rw [List.isEmpty_iff] at empty
    subst empty
    rfl
  next =>
    have created : Program.exec refused (Work.askStore (.started "create_task_details")
        (.createDetails (params.map scope.detail))) s =
          (some (.ok (scope.news params s.tables)),
            { s with tables := s.tables.withDetails (scope.rows params id) }) := by
      rw [news, ← stored, ← Table.addAll_fst]
      rfl
    exact Work.exec_bind_of_ok created

end BalancerFlows
