import BalancerFlows.Failure

/-!
# Deadlines

A call takes some time. Under a deadline a `timed` call must end by it and is otherwise dropped
before it has any effect; a `started` call only has to begin before it and then always completes;
a `free` call does not look at the deadline. Time is counted in milliseconds.
-/
namespace BalancerFlows

/-- How a call is bound to the deadline. The name is the one the failure reports. -/
inductive Guard where
  | timed (name : String)
  | started (name : String)
  | free
  deriving Repr, DecidableEq, Inhabited

/-- What the deadline lets a call do: complete at a time, or be cut off at a time. -/
inductive Admission where
  | completes (time : Nat)
  | cut (time : Nat) (name : String)
  deriving Repr, DecidableEq, Inhabited

namespace Deadline

def isExpired (deadline : Option Nat) (now : Nat) : Bool :=
  match deadline with
  | none => false
  | some limit => limit ≤ now

/-- What happens to a call that starts now and takes a while. -/
def admission (deadline : Option Nat) (guard : Guard) (now span : Nat) : Admission :=
  match deadline, guard with
  | some limit, .timed name =>
      if limit ≤ now then .cut now name
      else if now + span ≤ limit then .completes (now + span)
      else .cut limit name
  | some limit, .started name =>
      if limit ≤ now then .cut now name else .completes (now + span)
  | _, _ => .completes (now + span)

@[simp] theorem admission_none (guard : Guard) (now span : Nat) :
    admission none guard now span = .completes (now + span) := rfl

@[simp] theorem admission_free (deadline : Option Nat) (now span : Nat) :
    admission deadline .free now span = .completes (now + span) := by
  cases deadline <;> rfl

theorem of_admission_timed_completes {limit now span time : Nat} {name : String}
    (h : admission (some limit) (.timed name) now span = .completes time) :
    now < limit ∧ time = now + span ∧ time ≤ limit := by
  simp only [admission] at h
  split at h
  · simp at h
  · split at h
    · simp only [Admission.completes.injEq] at h
      omega
    · simp at h

/-- A call that is cut off leaves the clock at the deadline, or where it was when that is
later. -/
theorem of_admission_cut {limit now span time : Nat} {guard : Guard} {name : String}
    (h : admission (some limit) guard now span = .cut time name) : time = max now limit := by
  cases guard with
  | timed other =>
      simp only [admission] at h
      split at h
      · simp only [Admission.cut.injEq] at h
        omega
      · split at h
        · simp at h
        · simp only [Admission.cut.injEq] at h
          omega
  | started other =>
      simp only [admission] at h
      split at h
      · simp only [Admission.cut.injEq] at h
        omega
      · simp at h
  | free => simp [admission] at h

end Deadline

end BalancerFlows
