import BalancerFlows.Gate
import BalancerFlows.Proofs.Effects

/-!
# Runs of programs

How a run of a program is made up of runs of its parts, that a run never takes a row away, and that
events make no difference to it. `Program.Always` says that every call to the store in a run is
answered in a certain way. Main statements: `Program.always_bind`, `Work.run_bind`, and
`Gate.run_release` for the one program whose run is a single change.
-/
namespace BalancerFlows

namespace World

theorem call_with_events (w : World) (events : List Occurrence) (deadline : Option Nat)
    (guard : Guard) (c : Call) : { w with events }.call deadline guard c =
      ((w.call deadline guard c).1, { (w.call deadline guard c).2 with events }) := by
  unfold World.call World.delayOf
  cases Deadline.admission deadline guard w.now ((w.delays.get? c.name).getD 0) with
  | cut time name => rfl
  | completes time =>
      cases c with
      | store c => rfl
      | catalog c =>
          simp only [World.perform]
          cases w.catalogFaults.get? c.name <;> rfl

theorem sound_call {w : World} (sound : w.store.Sound) (deadline : Option Nat) (guard : Guard)
    (c : Call) : (w.call deadline guard c).2.store.Sound := by
  cases c with
  | catalog c =>
      rw [call_catalog_store]
      exact sound
  | store c =>
      unfold World.call
      split
      next time _ => exact (sound.perform c).2
      next time name _ => exact sound

end World

namespace Program

variable {α β : Type}

/-- Every call to the store in a run is answered in a certain way. -/
def Always (deadline : Option Nat)
    (answers : Guard → (c : StoreCall) → Except Failure c.Answer → Prop) :
    Program α → World → Prop
  | done _, _ => True
  | overflow, _ => True
  | report occurrence next, w => next.Always deadline answers (w.note occurrence)
  | call guard (.catalog c) next, w =>
      (next (w.call deadline guard (.catalog c)).1).Always deadline answers
        (w.call deadline guard (.catalog c)).2
  | call guard (.store c) next, w =>
      answers guard c (w.call deadline guard (.store c)).1 ∧
        (next (w.call deadline guard (.store c)).1).Always deadline answers
          (w.call deadline guard (.store c)).2

theorem later_call (deadline : Option Nat) (guard : Guard) (c : Call) (w : World) :
    w.store.tables.Later (w.call deadline guard c).2.store.tables := by
  cases c with
  | catalog c => rw [World.call_catalog_store]
  | store c => exact (w.call_effect deadline guard c).later

theorem later_run (deadline : Option Nat) (p : Program α) (w : World) :
    w.store.tables.Later (p.run deadline w).2.store.tables := by
  induction p generalizing w with
  | done a => exact .refl _
  | overflow => exact .refl _
  | report occurrence next ih => exact ih (w.note occurrence)
  | call guard c next ih => exact (later_call deadline guard c w).trans (ih _ _)

theorem fits_of_run {deadline : Option Nat} {p : Program α} {w w' : World} {r : Option α}
    (returned : p.run deadline w = (r, w')) (fits : w'.store.tables.Fits) :
    w.store.tables.Fits := by
  have later := later_run deadline p w
  rw [returned] at later
  exact fits.of_later later

/-- What every call and every event keeps, a run keeps. -/
theorem run_keeps {I : World → Prop} {deadline : Option Nat}
    (calls : ∀ {w : World} guard c, I w → I (w.call deadline guard c).2)
    (events : ∀ {w : World} o, I w → I (w.note o)) (p : Program α) {w : World} (before : I w) :
    I (p.run deadline w).2 := by
  induction p generalizing w with
  | done a => exact before
  | overflow => exact before
  | report o next ih => exact ih (events o before)
  | call guard c next ih => exact ih _ (calls guard c before)

theorem reachable_run (deadline : Option Nat) (p : Program α) {w : World}
    (h : w.store.tables.Reachable) : (p.run deadline w).2.store.tables.Reachable := by
  refine run_keeps (I := fun w => w.store.tables.Reachable) (fun {w} guard c before => ?_)
    (fun _ => id) p h
  cases c with
  | catalog c => rwa [World.call_catalog_store]
  | store c =>
      unfold World.call
      split
      next time _ => exact .call (s := w.store) c before
      next time name _ => exact before

theorem fits_of_bind {deadline : Option Nat} {p : Program α} {f : α → Program β} {w : World}
    (fits : ((p >>= f).run deadline w).2.store.tables.Fits) :
    (p.run deadline w).2.store.tables.Fits := by
  have split := run_bind deadline p f w
  have fits : ((p.bind f).run deadline w).2.store.tables.Fits := fits
  rw [split] at fits
  rcases ran : p.run deadline w with ⟨_ | a, w₁⟩
  · rwa [ran] at fits
  · rw [ran] at fits
    exact fits.of_later (later_run deadline (f a) w₁)

/-- A program that ends has ended each of its parts. -/
theorem exists_run_of_bind {deadline : Option Nat} {p : Program α} {f : α → Program β}
    {w w' : World} {b : β} (ran : (p >>= f).run deadline w = (some b, w')) :
    ∃ a w₁, p.run deadline w = (some a, w₁) ∧ (f a).run deadline w₁ = (some b, w') := by
  have split := run_bind deadline p f w
  replace ran := split.symm.trans ran
  rcases first : p.run deadline w with ⟨_ | a, w₁⟩
  · rw [first] at ran
    cases ran
  · rw [first] at ran
    exact ⟨a, w₁, rfl, ran⟩

theorem later_step (deadline : Option Nat) (p : Program α) (w : World) :
    w.store.tables.Later (p.step deadline w).2.store.tables := by
  induction p generalizing w with
  | done a => exact .refl _
  | overflow => exact .refl _
  | report occurrence next ih => exact ih (w.note occurrence)
  | call guard c next ih => exact later_call deadline guard c w

theorem sound_step (deadline : Option Nat) (p : Program α) {w : World} (sound : w.store.Sound) :
    (p.step deadline w).2.store.Sound := by
  induction p generalizing w with
  | done a => exact sound
  | overflow => exact sound
  | report occurrence next ih => exact ih (w := w.note occurrence) sound
  | call guard c next ih => exact World.sound_call sound deadline guard c

theorem run_with_events (deadline : Option Nat) (p : Program α) (w : World)
    (events : List Occurrence) : ∃ events', p.run deadline { w with events } =
      ((p.run deadline w).1, { (p.run deadline w).2 with events := events' }) := by
  induction p generalizing w events with
  | done a => exact ⟨events, rfl⟩
  | overflow => exact ⟨events, rfl⟩
  | report o next ih => exact ih (w.note o) (events ++ [o])
  | call guard c next ih =>
      have same := w.call_with_events events deadline guard c
      simpa [run, same] using ih _ _ events

variable {deadline : Option Nat}
  {answers : Guard → (c : StoreCall) → Except Failure c.Answer → Prop}

theorem always_with_events (p : Program α) (w : World) (events : List Occurrence) :
    p.Always deadline answers { w with events } ↔ p.Always deadline answers w := by
  induction p generalizing w events with
  | done a => exact Iff.rfl
  | overflow => exact Iff.rfl
  | report o next ih => exact (ih (w.note o) (events ++ [o]))
  | call guard c next ih =>
      cases c with
      | catalog c =>
          simp only [Always, w.call_with_events events deadline guard (.catalog c)]
          exact ih _ _ events
      | store c =>
          simp only [Always, w.call_with_events events deadline guard (.store c)]
          exact and_congr Iff.rfl (ih _ _ events)

theorem always_within (s : Span) (p : Program α) (w : World) :
    (p.within s).Always deadline answers w ↔ p.Always deadline answers w := by
  induction p generalizing w with
  | done a => exact Iff.rfl
  | overflow => exact Iff.rfl
  | report o next ih =>
      exact (ih (w.note (o.within s))).trans
        (always_with_events next (w.note o) (w.events ++ [o.within s]))
  | call guard c next ih =>
      cases c with
      | catalog c => exact ih _ _
      | store c => exact and_congr Iff.rfl (ih _ _)

theorem always_bind (p : Program α) (f : α → Program β) (w : World) :
    (p >>= f).Always deadline answers w ↔ p.Always deadline answers w ∧
      ∀ a, (p.run deadline w).1 = some a →
        (f a).Always deadline answers (p.run deadline w).2 := by
  show (p.bind f).Always deadline answers w ↔ _
  induction p generalizing w with
  | done a => simp [bind, Always, run]
  | overflow => simp [bind, Always, run]
  | report o next ih => exact ih (w.note o)
  | call guard c next ih =>
      cases c with
      | catalog c => exact ih _ _
      | store c =>
          simp only [bind, Always, run, ih, and_assoc]

theorem always_of_forall (all : ∀ guard c outcome, answers guard c outcome) (p : Program α)
    (w : World) : p.Always deadline answers w := by
  induction p generalizing w with
  | done a => trivial
  | overflow => trivial
  | report o next ih => exact ih (w.note o)
  | call guard c next ih =>
      cases c with
      | catalog c => exact ih _ _
      | store c => exact ⟨all guard c _, ih _ _⟩

end Program

namespace Work

variable {α β : Type}

theorem run_bind (deadline : Option Nat) (x : Work α) (f : α → Work β) (w : World) :
    Program.run deadline (x >>= f : Work β) w =
      match Program.run deadline x w with
      | (none, w) => (none, w)
      | (some (.ok a), w) => Program.run deadline (f a) w
      | (some (.error failure), w) => (some (.error failure), w) := by
  refine (Program.run_bind deadline x _ w).trans ?_
  rcases Program.run deadline x w with ⟨_ | _ | _, w⟩ <;> rfl

theorem run_lift (deadline : Option Nat) (p : Program α) (w : World) :
    Program.run deadline (liftM p : Work α) w =
      ((p.run deadline w).1.map .ok, (p.run deadline w).2) := by
  refine (Program.run_bind deadline p _ w).trans ?_
  rcases p.run deadline w with ⟨_ | _, w⟩ <;> rfl

/-- Work that succeeds has succeeded in each of its parts. -/
theorem exists_run_of_bind {deadline : Option Nat} {x : Work α} {f : α → Work β} {w w' : World}
    {b : β} (ran : Program.run deadline (x >>= f : Work β) w = (some (.ok b), w')) :
    ∃ a w₁, Program.run deadline x w = (some (.ok a), w₁) ∧
      Program.run deadline (f a) w₁ = (some (.ok b), w') := by
  rw [run_bind] at ran
  rcases first : Program.run deadline x w with ⟨_ | failure | a, w₁⟩ <;> rw [first] at ran
  · cases ran
  · cases ran
  · exact ⟨a, w₁, rfl, ran⟩

theorem run_of_lift {deadline : Option Nat} {p : Program α} {w w' : World} {a : α}
    (ran : Program.run deadline (liftM p : Work α) w = (some (.ok a), w')) :
    p.run deadline w = (some a, w') := by
  rw [run_lift] at ran
  rcases ended : p.run deadline w with ⟨_ | b, w₁⟩ <;> rw [ended] at ran <;> cases ran
  rfl

theorem exists_run_of_map {deadline : Option Nat} {f : α → β} {x : Work α} {w w' : World}
    {r : Except Failure β} (ran : Program.run deadline (f <$> x : Work β) w = (some r, w')) :
    ∃ o : Except Failure α, Program.run deadline x w = (some o, w') ∧ r = o.map f := by
  rw [map_eq_pure_bind, run_bind] at ran
  rcases ended : Program.run deadline x w with ⟨_ | failure | a, w₁⟩ <;> rw [ended] at ran <;>
    cases ran
  · exact ⟨.error failure, rfl, rfl⟩
  · exact ⟨.ok a, rfl, rfl⟩

theorem fits_of_bind {deadline : Option Nat} {x : Work α} {f : α → Work β} {w : World}
    (fits : (Program.run deadline (x >>= f : Work β) w).2.store.tables.Fits) :
    (Program.run deadline x w).2.store.tables.Fits :=
  Program.fits_of_bind fits

theorem always_bind {deadline : Option Nat}
    {answers : Guard → (c : StoreCall) → Except Failure c.Answer → Prop} {x : Work α}
    {f : α → Work β} {w : World}
    (always : Program.Always deadline answers (x >>= f : Work β) w) :
    Program.Always deadline answers x w ∧ ∀ a w', Program.run deadline x w = (some (.ok a), w') →
      Program.Always deadline answers (f a) w' := by
  obtain ⟨first, rest⟩ := (Program.always_bind _ _ w).1 always
  refine ⟨first, fun a w' ran => ?_⟩
  have rest := rest (.ok a) (congrArg Prod.fst ran)
  have after : (Program.run deadline x w).2 = w' := congrArg Prod.snd ran
  exact after ▸ rest

theorem always_lift {deadline : Option Nat}
    {answers : Guard → (c : StoreCall) → Except Failure c.Answer → Prop} {p : Program α}
    {w : World} (always : Program.Always deadline answers (liftM p : Work α) w) :
    p.Always deadline answers w :=
  ((Program.always_bind p _ w).1 always).1

end Work

theorem Gate.run_release (deadline : Option Nat) (resource : ResourceKey) (flow : Int64)
    (w : World) :
    (Program.run deadline (Gate.release resource flow) w).1 =
        some (.ok (w.store.tables.releaseLock resource flow).1) ∧
      (Program.run deadline (Gate.release resource flow) w).2.store.tables =
        (w.store.tables.releaseLock resource flow).2 := by
  have called : Program.run deadline
      (Work.askStore .free (.releaseLock resource flow) : Work Bool) w =
        (some (.ok (w.store.tables.releaseLock resource flow).1),
          { w with
            now := w.now + w.delayOf (.store (.releaseLock resource flow))
            store := { w.store with
              tables := (w.store.tables.releaseLock resource flow).2 } }) := by
    show (some (w.call _ _ _).1, (w.call _ _ _).2) = _
    unfold World.call
    rw [Deadline.admission_free]
    rfl
  unfold Gate.release
  rw [Work.run_bind, called]
  exact ⟨rfl, rfl⟩

end BalancerFlows
