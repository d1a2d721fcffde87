import BalancerFlows.Program

/-!
# The gate

At most one flow owns a resource. Ownership is a lock row, taken by one conditional call, so of
two flows that both saw the resource free only one gets it. The flow that owns a resource may take
it again and keeps the lock it has; only the owner can release it.
-/
namespace BalancerFlows.Gate

def owner? (resource : ResourceKey) : Work (Option Lock) :=
  Work.askStore (.timed "find_resource_relation") (.findLock resource)

/-- What a look at the owner means for a flow that wants the resource. -/
def refuseOwned (resource : ResourceKey) : Option Lock → Work Unit
  | none => return ()
  | some owner => do
      Work.report (.resourceOwned resource.id owner.flow owner.kind)
      throw owner.busy

/-- Goes on only if nobody owns the resource. -/
def ensureFree (resource : ResourceKey) : Work Unit :=
  Work.within (.checking resource) do
    refuseOwned resource (← owner? resource)

/-- What an attempt to take a lock means for the flow that made it. -/
def settle (wanted : Lock) : LockAttempt → Work Lock
  | .created lock => do
      Work.report (.lockTaken wanted.resource.id wanted.flow wanted.kind)
      return lock
  | .conflict owner =>
      if owner.flow = wanted.flow then do
        Work.report (.lockHeld wanted.resource.id wanted.flow)
        return owner
      else do
        Work.report (.lockLost wanted.resource.id wanted.flow owner.flow)
        throw owner.busy

/-- Takes a lock, or finds that the flow has it already. -/
def acquire (wanted : Lock) : Work Lock :=
  Work.within (.locking wanted) do
    settle wanted (← Work.askStore (.timed "create_resource_relation") (.takeLock wanted))

/-- Gives a resource up; says whether the flow owned it. -/
def release (resource : ResourceKey) (flow : Int64) : Work Bool := do
  let released ← Work.askStore .free (.releaseLock resource flow)
  Work.report (.lockReleased resource.id flow released)
  return released

end BalancerFlows.Gate
