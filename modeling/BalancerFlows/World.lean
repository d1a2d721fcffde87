import BalancerFlows.Program

/-!
# Worlds

What programs run in: a store, a catalog, a clock and the events so far. Each call first takes the
time that calls of its name take at the moment, and then happens as a whole, unless the deadline
cuts it off before it has any effect. `Program.step` makes one call and hands back the rest of the
program; `Program.run` runs a program to its end.
-/
namespace BalancerFlows

/-- A store and a catalog under a clock. -/
structure World where
  store : Store := {}
  catalog : Catalog := {}
  /-- How many milliseconds the calls of a name take. -/
  delays : Keyed String Nat := []
  /-- The catalog calls that are refused, with the message. -/
  catalogFaults : Keyed String String := []
  now : Nat := 0
  events : List Occurrence := []
  deriving Repr, Inhabited

namespace World

/-- How long a call takes at the moment. -/
def delayOf (w : World) (c : Call) : Nat :=
  (w.delays.get? c.name).getD 0

def note (w : World) (o : Occurrence) : World :=
  { w with events := w.events ++ [o] }

def perform (w : World) : (c : Call) → Except Failure c.Answer × World
  | .store c =>
      let (outcome, store) := w.store.perform c
      (outcome, { w with store })
  | .catalog c =>
      match w.catalogFaults.get? c.name with
      | some message => (.error (.aborted message), w)
      | none =>
          let (outcome, catalog) := w.catalog.perform c
          (outcome, { w with catalog })

def call (w : World) (deadline : Option Nat) (guard : Guard) (c : Call) :
    Except Failure c.Answer × World :=
  match Deadline.admission deadline guard w.now (w.delayOf c) with
  | .completes time => { w with now := time }.perform c
  | .cut time name => (.error (.expired name), { w with now := time })

/-- Calls of that name take that long from now on. -/
def setDelay (w : World) (name : String) (ms : Nat) : World :=
  { w with delays := w.delays.put name ms }

/-- Catalog calls of that name are refused from now on with a message, or without one no longer
refused. -/
def setCatalogFault (w : World) (name : String) : Option String → World
  | some message => { w with catalogFaults := w.catalogFaults.put name message }
  | none => { w with catalogFaults := w.catalogFaults.erase name }

def setFaults (w : World) (change : Faults → Faults) : World :=
  { w with store := { w.store with faults := change w.store.faults } }

def insert (w : World) (stock : Stock) : World :=
  { w with catalog := w.catalog.insert stock }

end World

namespace Program

variable {α : Type}

/-- Runs a program to its end. The value is missing when a counter of task ids ran over. -/
def run (deadline : Option Nat) : Program α → World → Option α × World
  | done a, w => (some a, w)
  | overflow, w => (none, w)
  | report o next, w => next.run deadline (w.note o)
  | call g c next, w =>
      let (outcome, w) := w.call deadline g c
      (next outcome).run deadline w

/-- Goes on to the next call and makes it: the rest of the program and the world after it. A
program that makes no further call stays where it ends. -/
def step (deadline : Option Nat) : Program α → World → Program α × World
  | done a, w => (done a, w)
  | overflow, w => (overflow, w)
  | report o next, w => next.step deadline (w.note o)
  | call g c next, w =>
      let (outcome, w) := w.call deadline g c
      (next outcome, w)

theorem run_step (deadline : Option Nat) (p : Program α) (w : World) :
    (p.step deadline w).1.run deadline (p.step deadline w).2 = p.run deadline w := by
  induction p generalizing w with
  | done a => rfl
  | overflow => rfl
  | report o next ih => exact ih (w.note o)
  | call g c next ih => rfl

/-- A bind runs the first program and then the second, unless the first one dies. -/
theorem run_bind {β : Type} (deadline : Option Nat) (p : Program α) (f : α → Program β)
    (w : World) :
    (p.bind f).run deadline w =
      match p.run deadline w with
      | (some a, w) => (f a).run deadline w
      | (none, w) => (none, w) := by
  induction p generalizing w with
  | done a => rfl
  | overflow => rfl
  | report o next ih => exact ih (w.note o)
  | call g c next ih => exact ih _ _

theorem run_within (deadline : Option Nat) (s : Span) (p : Program α) (w : World)
    (events : List Occurrence) :
    ∃ events', (p.within s).run deadline { w with events } =
      ((p.run deadline w).1, { (p.run deadline w).2 with events := events' }) := by
  induction p generalizing w events with
  | done a => exact ⟨events, rfl⟩
  | overflow => exact ⟨events, rfl⟩
  | report o next ih => exact ih (w.note o) (events ++ [o.within s])
  | call g c next ih =>
      have same : { w with events }.call deadline g c =
          ((w.call deadline g c).1, { (w.call deadline g c).2 with events }) := by
        unfold World.call World.delayOf
        cases Deadline.admission deadline g w.now ((w.delays.get? c.name).getD 0) with
        | cut time name => rfl
        | completes time =>
            cases c with
            | store c => rfl
            | catalog c =>
                simp only [World.perform]
                cases w.catalogFaults.get? c.name <;> rfl
      simpa [within, run, same] using ih _ _ events

end Program

end BalancerFlows
