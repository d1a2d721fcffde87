import BalancerFlows.Detail.Writing
import BalancerFlows.Plan
import BalancerFlows.Unwind

/-!
# Local changes

Targets of a group without binding were never pushed to the cloud, so their change needs no flow:
details are created for the record, the catalog is changed in one call, and the details succeed.
When that call or the last update fails, the details are unwound.
-/
namespace BalancerFlows

/-- A change of existing targets. -/
inductive TargetChange where
  | weight (value : UInt32)
  | port (value : UInt16)
  deriving Repr, DecidableEq, Inhabited

namespace TargetChange

/-- The operation the change is recorded under. -/
def operation : TargetChange → Operation
  | weight _ => .modifyTargetWeight
  | port _ => .modifyTargetPort

def check : TargetChange → Except Failure Unit
  | weight value => Plan.checkWeight value
  | port value => Plan.checkPort value

def patch (c : TargetChange) (t : Target) : TargetPatch :=
  match c with
  | weight value => { id := t.id, weight := some value }
  | port value => { id := t.id, port := some value }

def param (c : TargetChange) (t : Target) : Json :=
  match c with
  | weight value => Plan.weightParam value t
  | port value => Plan.portParam value t

end TargetChange

namespace LocalChange

/-- A change may only be recorded under its own operation. -/
def mismatch (change scope : Operation) : Failure :=
  .invalidParameter (text change ++ " change cannot be recorded as " ++ text scope)

/-- The catalog call and the update that settles the details. -/
def carryOut (write : Work Unit) (details : List Detail) : Work (List Detail) := do
  write
  Detail.writeSuccess details

/-- The ids of the settled details, or the failure after the details were unwound. -/
def conclude (details : List Detail) : Except Failure (List Detail) →
    Program (Except Failure (List Int64))
  | .ok settled => do
      Work.report (.settledLocally details.length)
      return .ok (settled.map Detail.id)
  | .error failure => do
      let _ ← Unwind.run failure details
      return .error failure

/-- One catalog call for items with these parameters; no items make no call. -/
def settle (scope : DetailScope) (params : List Json) (write : Work Unit) : Work (List Int64) :=
  Work.within (.settling scope.operation params.length) do
    if params.isEmpty then return []
    let details ← scope.create params
    ExceptT.mk do conclude details (← Work.outcome (carryOut write details))

def call (c : CatalogCall) : Work c.Answer :=
  Work.askCatalog (.timed "catalog_write") c

def removeTargets (scope : DetailScope) (targets : List Target) : Work (List Int64) :=
  settle scope (targets.map Plan.targetParam) (call (.deleteTargets (targets.map Target.id)))

/-- Changes the weight or the port of targets. -/
def modifyTargets (scope : DetailScope) (change : TargetChange) (targets : List Target) :
    Work (List Int64) := do
  Work.ofExcept change.check
  if change.operation ≠ scope.operation then throw (mismatch change.operation scope.operation)
  settle scope (targets.map change.param) (call (.updateTargets (targets.map change.patch)))

def newTarget (group : String) (s : TargetSpec) : NewTarget :=
  { group, instanceId := s.instanceId, ip := s.ip, port := s.port, weight := s.weight }

def addTargets (scope : DetailScope) (group : String) (specs : List TargetSpec) :
    Work (List Int64) := do
  Work.ofExcept (Plan.checkSpecs specs)
  Work.ofExcept (ensureUnique Plan.endpointLabel Plan.specEndpoint specs)
  settle scope (specs.map (Plan.specParam group)) do
    let _ ← call (.createTargets (specs.map (newTarget group)))
    return ()

end LocalChange

end BalancerFlows
