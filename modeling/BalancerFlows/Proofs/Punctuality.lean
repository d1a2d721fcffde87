import BalancerFlows.Proofs.Timeline

/-!
# Any calls under a deadline

A deadline is kept by calls of any kind, whatever they do and however long each of them takes. An
`Errand` is such a call; what comes of it is decided by `Deadline.admission` alone, and the calls of
a world are errands on that world (`World.call_eq_attempt`). Main statement: `Errand.punctual`, for
errands that are run one after the other.
-/
namespace BalancerFlows

/-- A call on a state of some kind: how it is bound to the deadline, how long it takes, and what it
answers and leaves when it completes. -/
structure Errand (σ : Type) where
  guard : Guard
  span : Nat
  Answer : Type
  perform : σ → Except Failure Answer × σ

namespace Errand

variable {σ : Type}

/-- What came of an errand, when it was over, and what it left. -/
structure Ending (σ α : Type) where
  outcome : Except Failure α
  finish : Nat
  after : σ

/-- Runs an errand, which has its effect when it completes and no effect when it is cut off. -/
def attempt (deadline : Option Nat) (e : Errand σ) (now : Nat) (s : σ) : Ending σ e.Answer :=
  match Deadline.admission deadline e.guard now e.span with
  | .completes time => ⟨(e.perform s).1, time, (e.perform s).2⟩
  | .cut time name => ⟨.error (.expired name), time, s⟩

/-- An errand that was run, with when and on what it was begun. -/
structure Trip (σ : Type) where
  errand : Errand σ
  start : Nat
  before : σ
  ending : Ending σ errand.Answer

/-- Runs errands one after the other. -/
def trips (deadline : Option Nat) : List (Errand σ) → Nat → σ → List (Trip σ)
  | [], _, _ => []
  | e :: rest, now, s =>
      ⟨e, now, s, e.attempt deadline now s⟩ ::
        trips deadline rest (e.attempt deadline now s).finish (e.attempt deadline now s).after

namespace Trip

/-- The errand has come to its own result, after its own time. -/
structure Completes (t : Trip σ) : Prop where
  result : (t.ending.outcome, t.ending.after) = t.errand.perform t.before
  finish : t.ending.finish = t.start + t.errand.span

/-- The errand has failed under a name because of the deadline, and has done nothing. -/
structure IsCutOff (name : String) (t : Trip σ) : Prop where
  outcome : t.ending.outcome = .error (.aborted ("deadline exceeded during " ++ name))
  after : t.ending.after = t.before

/-- The errand was begun too late, or takes too long to end by the deadline. -/
def IsLate (limit : Nat) (t : Trip σ) : Prop :=
  limit ≤ t.start ∨ limit < t.start + t.errand.span

/-- How the deadline bears on an errand, by its guard. -/
structure Keeps (limit : Nat) (t : Trip σ) : Prop where
  timed : ∀ name, t.errand.guard = .timed name →
    ¬ t.IsLate limit ∧ t.Completes ∧ t.start < limit ∧ t.ending.finish ≤ limit ∨
      t.IsLate limit ∧ t.IsCutOff name ∧ t.ending.finish = max t.start limit
  started : ∀ name, t.errand.guard = .started name →
    t.start < limit ∧ t.Completes ∨
      limit ≤ t.start ∧ t.IsCutOff name ∧ t.ending.finish = t.start
  free : t.errand.guard = .free → t.Completes

end Trip

section

variable {deadline : Option Nat} {e : Errand σ} {now time : Nat} {name : String} (s : σ)

theorem attempt_of_completes
    (h : Deadline.admission deadline e.guard now e.span = .completes time) :
    Trip.Completes ⟨e, now, s, e.attempt deadline now s⟩ := by
  have finish := Deadline.of_admission_completes h
  unfold attempt
  rw [h]
  exact ⟨rfl, finish⟩

theorem attempt_of_cut (h : Deadline.admission deadline e.guard now e.span = .cut time name) :
    Trip.IsCutOff name ⟨e, now, s, e.attempt deadline now s⟩ ∧
      (e.attempt deadline now s).finish = time := by
  unfold attempt
  rw [h]
  exact ⟨⟨rfl, rfl⟩, rfl⟩

end

/-- One errand keeps the deadline, whenever it is begun. -/
theorem keeps_attempt (limit : Nat) (e : Errand σ) (now : Nat) (s : σ) :
    Trip.Keeps limit ⟨e, now, s, e.attempt (some limit) now s⟩ := by
  refine ⟨fun name guard => ?_, fun name guard => ?_, fun guard => ?_⟩
  · have guard : e.guard = .timed name := guard
    by_cases late : limit ≤ now ∨ limit < now + e.span
    · have cut := Deadline.admission_timed_late name late
      rw [← guard] at cut
      obtain ⟨cut_off, finish⟩ := attempt_of_cut s cut
      exact .inr ⟨late, cut_off, finish⟩
    · obtain ⟨begun, in_time⟩ := not_or.1 late
      have admitted : Deadline.admission (some limit) e.guard now e.span =
          .completes (now + e.span) := by
        rw [guard, Deadline.admission, if_neg begun, if_pos (Nat.le_of_not_lt in_time)]
      have completes := attempt_of_completes s admitted
      exact .inl ⟨late, completes, Nat.lt_of_not_le begun,
        completes.finish.trans_le (Nat.le_of_not_lt in_time)⟩
  · have guard : e.guard = .started name := guard
    by_cases begun : limit ≤ now
    · have cut : Deadline.admission (some limit) e.guard now e.span = .cut now name := by
        rw [guard, Deadline.admission, if_pos begun]
      obtain ⟨cut_off, finish⟩ := attempt_of_cut s cut
      exact .inr ⟨begun, cut_off, finish⟩
    · have admitted : Deadline.admission (some limit) e.guard now e.span =
          .completes (now + e.span) := by
        rw [guard, Deadline.admission, if_neg begun]
      exact .inl ⟨Nat.lt_of_not_le begun, attempt_of_completes s admitted⟩
  · have guard : e.guard = .free := guard
    have admitted : Deadline.admission (some limit) e.guard now e.span =
        .completes (now + e.span) := by
      rw [guard, Deadline.admission_free]
    exact attempt_of_completes s admitted

/-- A call may end just when the deadline passes, but not begin then. -/
example : Deadline.admission (some 5) (.timed "lookup") 2 3 = .completes 5 ∧
    Deadline.admission (some 5) (.timed "lookup") 5 0 = .cut 5 "lookup" := by
  decide

theorem start_le_finish (deadline : Option Nat) (e : Errand σ) (now : Nat) (s : σ) :
    now ≤ (e.attempt deadline now s).finish := by
  cases admitted : Deadline.admission deadline e.guard now e.span with
  | completes time =>
      have finish := (attempt_of_completes s admitted).finish
      exact finish ▸ Nat.le_add_right now e.span
  | cut time name =>
      rw [(attempt_of_cut s admitted).2]
      cases deadline with
      | none => cases admitted
      | some limit =>
          rw [Deadline.of_admission_cut admitted]
          exact Nat.le_max_left now limit

/-- Every errand keeps the deadline, and each begins where the one before has ended. -/
theorem forall_trips {P : Trip σ → Prop} {deadline : Option Nat}
    (all : ∀ e now s, P ⟨e, now, s, e.attempt deadline now s⟩) (errands : List (Errand σ))
    (now : Nat) (s : σ) : ∀ t ∈ trips deadline errands now s, P t := by
  induction errands generalizing now s with
  | nil => exact List.forall_mem_nil _
  | cons e rest ih => exact List.forall_mem_cons.2 ⟨all e now s, ih _ _⟩

/-- What an errand comes to that is run when the deadline has passed. -/
structure Trip.IsTooLate (limit : Nat) (t : Trip σ) : Prop where
  start : Deadline.isExpired (some limit) t.start = true
  finish : Deadline.isExpired (some limit) t.ending.finish = true
  refused : ∀ name, t.errand.guard = .timed name ∨ t.errand.guard = .started name →
    t.IsCutOff name ∧ t.ending.finish = t.start

theorem isExpired_iff {limit now : Nat} :
    Deadline.isExpired (some limit) now = true ↔ limit ≤ now := by
  simp [Deadline.isExpired]

theorem isTooLate_attempt {limit now : Nat} (passed : limit ≤ now) (e : Errand σ) (s : σ) :
    Trip.IsTooLate limit ⟨e, now, s, e.attempt (some limit) now s⟩ := by
  have keeps := keeps_attempt limit e now s
  refine ⟨isExpired_iff.2 passed,
    isExpired_iff.2 (passed.trans (start_le_finish (some limit) e now s)), ?_⟩
  rintro name (guard | guard)
  · rcases keeps.timed name guard with ⟨-, -, begun, -⟩ | ⟨-, cut, finish⟩
    · exact absurd begun (Nat.not_lt_of_le passed)
    · exact ⟨cut, finish.trans (Nat.max_eq_left passed)⟩
  · rcases keeps.started name guard with ⟨begun, -⟩ | ⟨-, cut, finish⟩
    · exact absurd begun (Nat.not_lt_of_le passed)
    · exact ⟨cut, finish⟩

/-- Once the deadline has passed it stays so. -/
theorem isTooLate_trips {limit now : Nat} (passed : limit ≤ now) (errands : List (Errand σ))
    (s : σ) : ∀ t ∈ trips (some limit) errands now s, t.IsTooLate limit := by
  induction errands generalizing now s with
  | nil => exact List.forall_mem_nil _
  | cons e rest ih =>
      have later := start_le_finish (some limit) e now s
      exact List.forall_mem_cons.2 ⟨isTooLate_attempt passed e s, ih (passed.trans later) _⟩

theorem trips_eq_append {deadline : Option Nat} {errands : List (Errand σ)} {now : Nat} {s : σ}
    {before after : List (Trip σ)} (split : trips deadline errands now s = before ++ after) :
    ∃ rest now' s', after = trips deadline rest now' s' := by
  induction before generalizing errands now s with
  | nil => exact ⟨errands, now, s, split.symm⟩
  | cons t before ih =>
      cases errands with
      | nil => cases split
      | cons e rest => exact ih (List.cons.inj split).2

end Errand

/-- The calls of a world are errands. -/
def World.errand (w : World) (guard : Guard) (c : Call) : Errand World where
  guard
  span := w.delayOf c
  Answer := c.Answer
  perform := fun w => w.perform c

theorem World.perform_with_now (w : World) (time : Nat) (c : Call) :
    { w with now := time }.perform c =
      ((w.perform c).1, { (w.perform c).2 with now := time }) := by
  cases c with
  | store c => rfl
  | catalog c =>
      simp only [perform]
      cases w.catalogFaults.get? c.name <;> rfl

/-- A call of a world is an errand on it that sets its clock. -/
theorem World.call_eq_attempt (w : World) (deadline : Option Nat) (guard : Guard) (c : Call) :
    w.call deadline guard c =
      (((w.errand guard c).attempt deadline w.now w).outcome,
        { ((w.errand guard c).attempt deadline w.now w).after with
          now := ((w.errand guard c).attempt deadline w.now w).finish }) := by
  unfold call Errand.attempt errand
  simp only
  cases Deadline.admission deadline guard w.now (w.delayOf c) with
  | completes time => exact w.perform_with_now time c
  | cut time name => rfl

namespace Errand

variable {σ : Type}

/-- Errands under a deadline, whatever they do and however long they take. One that has to end by
the deadline comes to its own result and is over in time, or fails under its name, has done nothing,
and leaves the clock at the deadline or where it was behind it. One that only has to begin before
the deadline comes to its own result, however late, or has done nothing. Once the deadline has
passed it stays so, and both kinds fail from then on. Without a deadline all errands come to their
own results. The calls of a world are such errands. -/
theorem punctual (errands : List (Errand σ)) (now : Nat) (s : σ) :
    (∀ limit, (∀ t ∈ trips (some limit) errands now s, t.Keeps limit) ∧
      ∀ before t after, trips (some limit) errands now s = before ++ t :: after →
        Deadline.isExpired (some limit) t.start = true → ∀ u ∈ t :: after, u.IsTooLate limit) ∧
    (∀ t ∈ trips none errands now s, t.Completes) ∧
    ∀ (w : World) deadline guard c, w.call deadline guard c =
      (((w.errand guard c).attempt deadline w.now w).outcome,
        { ((w.errand guard c).attempt deadline w.now w).after with
          now := ((w.errand guard c).attempt deadline w.now w).finish }) := by
  refine ⟨fun limit => ⟨forall_trips (keeps_attempt limit) errands now s, ?_⟩, ?_,
    World.call_eq_attempt⟩
  · intro before t after split expired
    obtain ⟨rest, now', s', same⟩ := trips_eq_append split
    have first : t.start = now' := by
      cases rest with
      | nil => cases same
      | cons e rest => exact congrArg Trip.start (List.cons.inj same).1
    rw [same]
    exact isTooLate_trips (first ▸ isExpired_iff.1 expired) rest s'
  · exact forall_trips (fun e now s => attempt_of_completes s (Deadline.admission_none ..)) errands
      now s

end Errand

end BalancerFlows
