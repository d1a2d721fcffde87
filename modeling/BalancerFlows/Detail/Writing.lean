import BalancerFlows.Program

/-!
# Writing details

Details are created before anything else is written for their items. A creation that has started
is never cut off, so whoever asked for the details gets to know all that exist. Bindings to tasks
and flows are first made on the values at hand and written together later.
-/
namespace BalancerFlows

/-- Creates one pending detail per parameter record, in order; nothing to create makes no call. -/
def DetailScope.create (scope : DetailScope) (params : List Json) : Work (List Detail) :=
  if params.isEmpty then return []
  else do
    let details ← Work.askStore (.started "create_task_details")
      (.createDetails (params.map scope.detail))
    Work.report (.detailsCreated scope.batch scope.operation details.length)
    return details

namespace Detail

def write (patches : List DetailPatch) : Work Unit :=
  Work.askStore (.timed "update_task_details") (.updateDetails patches)

/-- Writes the tasks and flows that details are bound to. -/
def writeBindings (details : List Detail) : Work Unit :=
  write (details.map bindingPatch)

def succeed (d : Detail) : Detail :=
  { d with state := .success }

/-- Settles details that need no flow as successful. -/
def writeSuccess (details : List Detail) : Work (List Detail) := do
  write (details.map fun d => .settle d.id .success none)
  return details.map succeed

end Detail

end BalancerFlows
