import BalancerFlows.Vocabulary

/-!
# Failures

One type for everything that can go wrong, with the stable code callers branch on and the
message people read. `isPrecondition` marks the failures that complain about the request rather
than about the machinery.
-/
namespace BalancerFlows

/-- Why an operation did not go through. -/
inductive Failure where
  /-- The input is malformed or out of range. -/
  | invalidParameter (message : String)
  /-- A named record does not exist. -/
  | notFound (message : String)
  /-- Something is named twice where once is allowed. -/
  | duplicated (message : String)
  /-- The record exists but may not be changed in this way. -/
  | notUpdatable (message : String)
  /-- Another flow owns the resource. -/
  | busy (resource : String) (kind : ResourceKind) (owner : Int64) (lock : LockKind)
  /-- A cloud call carried out only some of its items. -/
  | partly (succeeded failed : UInt64) (message : String)
  /-- The store failed, or the deadline passed. -/
  | aborted (message : String)
  /-- The settings cannot be used. -/
  | configuration (message : String)
  deriving Repr, DecidableEq, Inhabited

namespace Failure

/-- The stable name of the kind of failure. -/
def code : Failure → String
  | invalidParameter _ => "invalid_parameter"
  | notFound _ => "record_not_found"
  | duplicated _ => "record_duplicated"
  | notUpdatable _ => "record_not_update"
  | busy .. => "resource_busy"
  | partly .. => "partial_failed"
  | aborted _ => "aborted"
  | configuration _ => "configuration_error"

/-- The message shown to people and recorded as the reason of a failed item. -/
def message : Failure → String
  | invalidParameter m => "Invalid parameter: " ++ m
  | notFound m => "Record not found: " ++ m
  | duplicated m => "Record duplicated: " ++ m
  | notUpdatable m => "Record not in updatable state: " ++ m
  | busy resource kind owner lock =>
      "Resource busy: " ++ text kind ++ " " ++ resource ++ " is locked by flow " ++
        toString owner ++ " (" ++ text lock ++ ")"
  | partly succeeded failed m =>
      "Partially failed (" ++ toString succeeded ++ " succeeded, " ++ toString failed ++
        " failed): " ++ m
  | aborted m => "Aborted: " ++ m
  | configuration m => "Configuration error: " ++ m

/-- The failures that complain about the request itself. -/
def isPrecondition : Failure → Bool
  | invalidParameter _ | notFound _ | duplicated _ | notUpdatable _ | busy .. => true
  | partly .. | aborted _ | configuration _ => false

/-- A call was cut off by the deadline, or not started because of it. -/
def expired (call : String) : Failure :=
  aborted ("deadline exceeded during " ++ call)

@[simp] theorem isPrecondition_expired (call : String) :
    (expired call).isPrecondition = false := rfl

end Failure

/-- What a database can report instead of an answer. -/
inductive DatabaseFault where
  | rowNotFound
  | poolTimedOut
  | unexpectedData (message : String)
  deriving Repr, DecidableEq, Inhabited

namespace DatabaseFault

def message : DatabaseFault → String
  | rowNotFound => "no rows returned by a query that expected to return at least one row"
  | poolTimedOut => "pool timed out while waiting for an open connection"
  | unexpectedData m => "encountered unexpected or invalid data: " ++ m

/-- A missing row is a missing record; every other fault aborts. -/
def toFailure : DatabaseFault → Failure
  | rowNotFound => .notFound "row not found"
  | fault => .aborted ("storage failure: " ++ fault.message)

end DatabaseFault

/-- A payload that cannot be written or read aborts. -/
def Failure.ofEncoding (message : String) : Failure :=
  .aborted ("payload encoding failed: " ++ message)

end BalancerFlows
