import BalancerFlows.Program

/-!
# Unwinding

When a piece of work fails, the details it created that are still pending become failed with the
failure's message as their reason. Everything else that was written stays. The update does not
look at the deadline, which often is what failed, and its own failure is reported and dropped, so
that the first failure is the one that is seen.
-/
namespace BalancerFlows

/-- What an unwinding did: how many details it marked, and the details afterwards. -/
structure Unwound where
  marked : Nat
  details : List Detail
  deriving Repr, DecidableEq, Inhabited

namespace Unwind

/-- The patches that fail the pending details. -/
def patches (reason : String) (details : List Detail) : List DetailPatch :=
  (details.filter fun d => d.state = .pending).map fun d => .settle d.id .failed (some reason)

/-- What the outcome of the update means. -/
def conclude (cause : Failure) (details : List Detail) (count : Nat) :
    Except Failure Unit → Program Unwound
  | .error failure => do
      Work.report (.unwindFailed count cause failure)
      return { marked := 0, details }
  | .ok () => do
      Work.report (.unwound count cause)
      return { marked := count, details := details.map (Detail.failIfPending cause.message) }

/-- Fails the pending details; without any there is nothing to call. -/
def run (cause : Failure) (details : List Detail) : Program Unwound :=
  let patches := patches cause.message details
  if patches.isEmpty then return { marked := 0, details }
  else do
    conclude cause details patches.length
      (← Work.outcome (Work.askStore .free (.updateDetails patches)))

@[simp] theorem patches_of_settled {reason : String} {details : List Detail}
    (h : ∀ d ∈ details, d.state ≠ .pending) : patches reason details = [] := by
  simpa [patches, List.filter_eq_nil_iff] using h

end Unwind

end BalancerFlows
