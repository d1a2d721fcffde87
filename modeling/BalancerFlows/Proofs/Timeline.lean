import BalancerFlows.Proofs.Calls

/-!
# Runs in time

The calls of a run, with when they were made and when they were over. `Program.Takes` is a run in
which each call takes a time of its own; the run of a world, where calls of one name always take the
same time, is one of these. Calls follow each other (`Takes.inOrder`), each obeys the deadline
(`Takes.obeys`), and a run in which no call was cut off is one without a deadline
(`Takes.unhurried`).
-/
namespace BalancerFlows

/-- One call of a run, with when it was made, how long it takes, and when it was over. -/
structure Moment extends Step where
  guard : Guard
  start : Nat
  span : Nat
  finish : Nat

namespace Deadline

variable {limit now span time : Nat} {name : String}

theorem of_admission_completes {deadline : Option Nat} {guard : Guard}
    (h : admission deadline guard now span = .completes time) : time = now + span := by
  cases deadline with
  | none => simpa using h.symm
  | some limit =>
      cases guard with
      | timed name => exact (of_admission_timed_completes h).2.1
      | started name =>
          simp only [admission] at h
          split at h
          · cases h
          · simpa using h.symm
      | free => simpa using h.symm

theorem of_admission_started_completes
    (h : admission (some limit) (.started name) now span = .completes time) : now < limit := by
  simp only [admission] at h
  split at h
  · cases h
  next open_ => exact Nat.lt_of_not_le open_

theorem admission_timed_late (name : String) (late : limit ≤ now ∨ limit < now + span) :
    admission (some limit) (.timed name) now span = .cut (max now limit) name := by
  simp only [admission]
  split
  next passed => rw [Nat.max_eq_left passed]
  next open_ =>
    rw [if_neg (by omega), Nat.max_eq_right (by omega)]

end Deadline

namespace Moment

/-- The deadline cuts the call off. -/
def IsCut (deadline : Option Nat) (m : Moment) : Prop :=
  ∃ time name, Deadline.admission deadline m.guard m.start m.span = .cut time name

/-- The call was made too late, or would not have ended in time. -/
def IsLate (limit : Nat) (m : Moment) : Prop :=
  limit ≤ m.start ∨ limit < m.start + m.span

/-- The deadline has let the call complete, or has cut it off before it had any effect. -/
inductive Obeys (deadline : Option Nat) (m : Moment) : Prop
  | completed
      (h : Deadline.admission deadline m.guard m.start m.span = .completes m.finish)
  | cut {name : String}
      (h : Deadline.admission deadline m.guard m.start m.span = .cut m.finish name)
      (expired : m.outcome = .error (.expired name)) (same : m.after = m.before)

variable {m : Moment} {limit : Nat}

theorem Obeys.start_le_finish {deadline : Option Nat} (h : m.Obeys deadline) :
    m.start ≤ m.finish := by
  cases h with
  | completed h =>
      have := Deadline.of_admission_completes h
      omega
  | cut h =>
      cases deadline with
      | none => cases h
      | some limit =>
          have := Deadline.of_admission_cut h
          omega

/-- A call that was cut off leaves the clock at the deadline or behind it. -/
theorem Obeys.le_finish_of_isCut (h : m.Obeys (some limit)) (cut : m.IsCut (some limit)) :
    limit ≤ m.finish := by
  obtain ⟨time, name, cut⟩ := cut
  cases h with
  | completed h =>
      rw [h] at cut
      cases cut
  | cut h =>
      have := Deadline.of_admission_cut h
      omega

theorem error_of_toStep {c : Call} {outcome : Except Failure c.Answer} {before after : Contents}
    (step : m.toStep = ⟨c, outcome, before, after⟩) {failure : Failure}
    (failed : m.outcome = .error failure) : outcome = .error failure := by
  obtain ⟨⟨c', outcome', before', after'⟩, guard, start, span, finish⟩ := m
  cases step
  exact failed

theorem not_isCut {deadline : Option Nat} {time : Nat}
    (h : Deadline.admission deadline m.guard m.start m.span = .completes time) :
    ¬ m.IsCut deadline := by
  rintro ⟨time', name, cut⟩
  rw [h] at cut
  cases cut

/-- A call that has changed something was over by the deadline, unless it was a creation that had
begun before, or an unwinding. -/
theorem Obeys.on_time (h : m.Obeys (some limit)) (suits : m.guard.Suits m.call)
    (changed : m.after ≠ m.before) :
    m.finish ≤ limit ∨ (∃ news, m.call = .store (.createDetails news)) ∧ m.start < limit ∨
      ∃ patches, m.call = .store (.updateDetails patches) ∧ ∀ p ∈ patches, p.Fails := by
  cases h with
  | cut _ _ same => exact absurd same changed
  | completed h =>
      obtain ⟨⟨call, outcome, before, after⟩, guard, start, span, finish⟩ := m
      cases suits with
      | timed name => exact .inl (Deadline.of_admission_timed_completes h).2.2
      | creation name news =>
          exact .inr (.inl ⟨⟨news, rfl⟩, Deadline.of_admission_started_completes h⟩)
      | unwinding fails => exact .inr (.inr ⟨_, rfl, fails⟩)

/-- Moments that follow each other between two times. -/
def InOrder : Nat → List Moment → Nat → Prop
  | first, [], last => first ≤ last
  | first, m :: ms, last => first ≤ m.start ∧ m.start ≤ m.finish ∧ InOrder m.finish ms last

/-- A call is over before any later one is made. -/
theorem InOrder.finish_le_start {first last : Nat} {before after : List Moment}
    (h : InOrder first (before ++ m :: after) last) :
    ∀ earlier ∈ before, earlier.finish ≤ m.start := by
  induction before generalizing first with
  | nil => exact List.forall_mem_nil _
  | cons head before ih =>
      have next : ∀ {time} {ms : List Moment}, InOrder time (ms ++ m :: after) last →
          time ≤ m.start := by
        intro time ms h
        induction ms generalizing time with
        | nil => exact h.1
        | cons head ms ih => exact (h.1.trans h.2.1).trans (ih h.2.2)
      exact List.forall_mem_cons.2 ⟨next h.2.2, ih h.2.2⟩

end Moment

namespace World

def moment (w : World) (deadline : Option Nat) (guard : Guard) (c : Call) : Moment where
  call := c
  outcome := (w.call deadline guard c).1
  before := w.contents
  after := (w.call deadline guard c).2.contents
  guard
  start := w.now
  span := w.delayOf c
  finish := (w.call deadline guard c).2.now

@[simp] theorem now_perform (w : World) (c : Call) : (w.perform c).2.now = w.now := by
  cases c with
  | store c => rfl
  | catalog c =>
      simp only [perform]
      cases w.catalogFaults.get? c.name <;> rfl

theorem obeys_moment (w : World) (deadline : Option Nat) (guard : Guard) (c : Call) :
    (w.moment deadline guard c).Obeys deadline := by
  have finish : (w.moment deadline guard c).finish = (w.call deadline guard c).2.now := rfl
  cases admitted : Deadline.admission deadline guard w.now (w.delayOf c) with
  | completes time =>
      refine .completed ?_
      rw [finish]
      unfold call
      rw [admitted, now_perform]
      exact admitted
  | cut time name =>
      have called : w.call deadline guard c = (.error (.expired name), { w with now := time }) := by
        unfold call
        rw [admitted]
      have cut : Deadline.admission deadline guard w.now (w.delayOf c) =
          .cut (w.moment deadline guard c).finish name := by
        rw [finish, called]
        exact admitted
      have same : (w.call deadline guard c).2.contents = w.contents := by
        rw [called]
        rfl
      exact .cut cut (congrArg Prod.fst called) same

theorem call_of_not_isCut {w : World} {deadline : Option Nat} {guard : Guard} {c : Call}
    (uncut : ¬ (w.moment deadline guard c).IsCut deadline) :
    w.call deadline guard c = w.call none guard c := by
  unfold call
  cases admitted : Deadline.admission deadline guard w.now (w.delayOf c) with
  | completes time => rw [Deadline.admission_none, Deadline.of_admission_completes admitted]
  | cut time name => exact absurd ⟨time, name, admitted⟩ uncut

end World

namespace Program

variable {α β : Type} {deadline : Option Nat}

/-- The program makes its calls in these moments and ends with that value, in a world where calls
may take another time each time. -/
inductive Takes (deadline : Option Nat) :
    Program α → World → List Moment → Option α → World → Prop
  | done (a : α) (w : World) : Takes deadline (.done a) w [] (some a) w
  | overflow (w : World) : Takes deadline .overflow w [] none w
  | report {o : Occurrence} {next : Program α} {w w' : World} {ms : List Moment} {r : Option α}
      (rest : Takes deadline next (w.note o) ms r w') : Takes deadline (.report o next) w ms r w'
  | call {guard : Guard} {c : Call} {next : Except Failure c.Answer → Program α} {w w' : World}
      {ms : List Moment} {r : Option α} (delays : Keyed String Nat)
      (rest : Takes deadline (next ({ w with delays }.call deadline guard c).1)
        ({ w with delays }.call deadline guard c).2 ms r w') :
      Takes deadline (.call guard c next) w ({ w with delays }.moment deadline guard c :: ms) r w'

/-- The calls of the run of a world, with their times. -/
def timeline (deadline : Option Nat) : Program α → World → List Moment
  | done _, _ => []
  | overflow, _ => []
  | report o next, w => next.timeline deadline (w.note o)
  | call guard c next, w => w.moment deadline guard c ::
      (next (w.call deadline guard c).1).timeline deadline (w.call deadline guard c).2

theorem takes_run (deadline : Option Nat) (p : Program α) (w : World) :
    p.Takes deadline w (p.timeline deadline w) (p.run deadline w).1 (p.run deadline w).2 := by
  induction p generalizing w with
  | done a => exact .done a w
  | overflow => exact .overflow w
  | report o next ih => exact .report (ih (w.note o))
  | call guard c next ih => exact .call w.delays (ih _ _)

namespace Takes

variable {p : Program α} {w w' : World} {ms : List Moment} {r : Option α}

theorem later (h : p.Takes deadline w ms r w') : w.store.tables.Later w'.store.tables := by
  induction h with
  | done a w => exact .refl _
  | overflow w => exact .refl _
  | report _ ih => exact ih
  | @call guard c _ w _ _ _ delays _ ih =>
      exact (later_call deadline guard c { w with delays }).trans ih

theorem obeys (h : p.Takes deadline w ms r w') : ∀ m ∈ ms, m.Obeys deadline := by
  induction h with
  | done a w => exact List.forall_mem_nil _
  | overflow w => exact List.forall_mem_nil _
  | report _ ih => exact ih
  | call delays _ ih => exact List.forall_mem_cons.2 ⟨World.obeys_moment .., ih⟩

theorem inOrder (h : p.Takes deadline w ms r w') : Moment.InOrder w.now ms w'.now := by
  induction h with
  | done a w => exact Nat.le_refl _
  | overflow w => exact Nat.le_refl _
  | report _ ih => exact ih
  | call delays _ ih =>
      exact ⟨Nat.le_refl _, (World.obeys_moment _ deadline _ _).start_le_finish, ih⟩

/-- Where no call is cut off, the deadline does not matter. -/
theorem unhurried (h : p.Takes deadline w ms r w') (uncut : ∀ m ∈ ms, ¬ m.IsCut deadline) :
    p.Takes none w ms r w' := by
  induction h with
  | done a w => exact .done a w
  | overflow w => exact .overflow w
  | report _ ih => exact .report (ih uncut)
  | @call guard c next w w' ms r delays rest ih =>
      obtain ⟨first, others⟩ := List.forall_mem_cons.1 uncut
      have called := World.call_of_not_isCut first
      have moment : { w with delays }.moment deadline guard c =
          { w with delays }.moment none guard c := by
        simp only [World.moment, called]
      have rest := ih others
      rw [called] at rest
      rw [moment]
      exact .call delays rest

theorem suits {P : Guard → Call → Prop} (h : p.Takes deadline w ms r w') (asks : p.Asks P) :
    ∀ m ∈ ms, P m.guard m.call := by
  induction h with
  | done a w => exact List.forall_mem_nil _
  | overflow w => exact List.forall_mem_nil _
  | report _ ih => exact ih asks
  | call delays _ ih => exact List.forall_mem_cons.2 ⟨asks.1, ih (asks.2 _)⟩

theorem of_bind {f : α → Program β} {r : Option β} (h : (p >>= f).Takes deadline w ms r w') :
    (r = none ∧ p.Takes deadline w ms none w') ∨ ∃ first rest a w₁, ms = first ++ rest ∧
      p.Takes deadline w first (some a) w₁ ∧ (f a).Takes deadline w₁ rest r w' := by
  have h : (p.bind f).Takes deadline w ms r w' := h
  induction p generalizing w ms with
  | done a => exact .inr ⟨[], ms, a, w, rfl, .done a w, h⟩
  | overflow =>
      cases h
      exact .inl ⟨rfl, .overflow _⟩
  | report o next ih =>
      cases h with
      | report rest =>
          rcases ih rest rest with ⟨died, took⟩ | ⟨first, others, a, w₁, split, took, took'⟩
          · exact .inl ⟨died, .report took⟩
          · exact .inr ⟨first, others, a, w₁, split, .report took, took'⟩
  | call guard c next ih =>
      cases h with
      | call delays rest =>
          rcases ih _ rest rest with ⟨died, took⟩ | ⟨first, others, a, w₁, rfl, took, took'⟩
          · exact .inl ⟨died, .call delays took⟩
          · exact .inr ⟨_ :: first, others, a, w₁, rfl, .call delays took, took'⟩

theorem of_within {s : Span} (h : (p.within s).Takes deadline w ms r w') :
    ∃ events, p.Takes deadline w ms r { w' with events } := by
  suffices general : ∀ (p : Program α) (w : World) (events : List Occurrence) (ms : List Moment),
      (p.within s).Takes deadline { w with events } ms r w' →
        ∃ events', p.Takes deadline w ms r { w' with events := events' } from
    general p w w.events ms h
  intro p
  induction p with
  | done a =>
      intro w events ms h
      cases h
      exact ⟨w.events, .done a w⟩
  | overflow =>
      intro w events ms h
      cases h
      exact ⟨w.events, .overflow w⟩
  | report o next ih =>
      intro w events ms h
      cases h with
      | report rest =>
          obtain ⟨events', took⟩ := ih (w.note o) (events ++ [o.within s]) _ rest
          exact ⟨events', .report took⟩
  | call guard c next ih =>
      intro w events ms h
      cases h with
      | call delays rest =>
          have called : World.call { w with events, delays } deadline guard c = _ :=
            World.call_with_events { w with delays } events deadline guard c
          have moment : World.moment { w with events, delays } deadline guard c =
              World.moment { w with delays } deadline guard c := by
            simp only [World.moment, called]
            rfl
          rw [called] at rest
          obtain ⟨events', took⟩ := ih _ _ _ _ rest
          rw [moment]
          exact ⟨events', .call delays took⟩

end Takes

/-- What is ensured of a program holds of all its runs in time. -/
theorem Ensures.takes {Q : List Step → Option α → Contents → Prop} {p : Program α} {w w' : World}
    {ms : List Moment} {r : Option α} {past : List Step} (took : p.Takes deadline w ms r w')
    (h : p.Ensures w.store.faults Q past w.contents) (numbered : w.store.tables.Numbered)
    (fits : w'.store.tables.Fits) : Q (past ++ ms.map Moment.toStep) r w'.contents := by
  induction took generalizing past with
  | done a w =>
      rw [List.map_nil, List.append_nil]
      exact h
  | overflow w =>
      rw [List.map_nil, List.append_nil]
      exact h
  | report _ ih => exact ih h numbered fits
  | @call guard c next w w' ms r delays rest ih =>
      obtain ⟨answered, faults⟩ := World.answered { w with delays } deadline guard c
      have numbered' : ({ w with delays }.call deadline guard c).2.store.tables.Numbered := by
        cases c with
        | catalog c => rwa [World.call_catalog_store]
        | store c =>
            exact (World.call_effect { w with delays } deadline guard c).numbered numbered
              (fits.of_later rest.later)
      have next := h _ _ answered numbered'
      rw [← show _ = w.store.faults from faults] at next
      have ended := ih next numbered' fits
      rw [List.append_assoc] at ended
      exact ended

end Program

namespace Work

variable {α β : Type} {deadline : Option Nat} {w w' : World} {ms : List Moment}

theorem takes_bind {x : Work α} {f : α → Work β} {r : Option (Except Failure β)}
    (h : Program.Takes deadline (x >>= f : Work β) w ms r w') :
    (r = none ∧ Program.Takes deadline x w ms none w') ∨
      (∃ failure, r = some (.error failure) ∧
        Program.Takes deadline x w ms (some (.error failure)) w') ∨
      ∃ first rest a w₁, ms = first ++ rest ∧ Program.Takes deadline x w first (some (.ok a)) w₁ ∧
        Program.Takes deadline (f a) w₁ rest r w' := by
  rcases Program.Takes.of_bind h with ⟨rfl, took⟩ | ⟨first, rest, outcome, w₁, rfl, took, next⟩
  · exact .inl ⟨rfl, took⟩
  · cases outcome with
    | error failure =>
        cases next
        exact .inr (.inl ⟨failure, rfl, by simpa using took⟩)
    | ok a => exact .inr (.inr ⟨first, rest, a, w₁, rfl, took, next⟩)

theorem takes_ask {guard : Guard} {c : Call} {r : Option (Except Failure c.Answer)}
    (h : Program.Takes deadline (ask guard c) w ms r w') : ∃ delays : Keyed String Nat,
      ms = [{ w with delays }.moment deadline guard c] ∧
        r = some ({ w with delays }.call deadline guard c).1 ∧
        w' = ({ w with delays }.call deadline guard c).2 := by
  have h : Program.Takes deadline (.call guard c .done) w ms r w' := h
  cases h with
  | call delays rest =>
      cases rest
      exact ⟨delays, rfl, rfl, rfl⟩

theorem takes_lift {p : Program α} {r : Option (Except Failure α)}
    (h : Program.Takes deadline (liftM p : Work α) w ms r w') :
    ∃ r', p.Takes deadline w ms r' w' ∧ r = r'.map .ok := by
  rcases Program.Takes.of_bind h with ⟨rfl, took⟩ | ⟨first, rest, a, w₁, rfl, took, next⟩
  · exact ⟨none, took, rfl⟩
  · cases next
    exact ⟨some a, by simpa using took, rfl⟩

end Work

end BalancerFlows
