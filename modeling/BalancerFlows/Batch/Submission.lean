import BalancerFlows.Batch.Routing
import BalancerFlows.Construction

/-!
# Submitting a batch

A request is checked, routed, recorded as a batch, and worked off: first the local jobs, then one
flow per load balancer. A job that fails is noted and does not stop the others. At the end the
flows that were built are attached to the batch. A submission that is returned may still contain
failures; the first of them is what a caller is told.
-/
namespace BalancerFlows

/-- A job that failed while the rest of the batch went ahead. -/
structure JobFailure where
  resource : String
  failure : Failure
  deriving Repr, DecidableEq, Inhabited

/-- What became of a batch. -/
structure Submission where
  batch : Int64
  flows : List Int64 := []
  /-- The details that were settled without a flow. -/
  settled : List Int64 := []
  /-- In the order in which they happened. -/
  failures : List JobFailure := []
  deriving Repr, DecidableEq, Inhabited

namespace Submission

def isComplete (s : Submission) : Bool :=
  s.failures.isEmpty

def firstFailure? (s : Submission) : Option Failure :=
  s.failures.head?.map JobFailure.failure

/-- The submission, or its first failure. -/
def toResult (s : Submission) : Except Failure Submission :=
  match s.firstFailure? with
  | some failure => .error failure
  | none => .ok s

def noteFailure (s : Submission) (resource : String) (failure : Failure) : Program Submission := do
  Work.report (.workFailed resource failure)
  return { s with failures := s.failures ++ [{ resource, failure }] }

def newBatch (settings : Settings) (r : BatchRequest) : NewBatch :=
  { business := r.business, vendor := r.vendor, account := r.account
    source := r.source.getD settings.defaultSource, operation := r.command.operation }

def runLocalJob (scope : DetailScope) : LocalJob → Work (List Int64)
  | .remove _ targets => LocalChange.removeTargets scope targets
  | .modify _ change targets => LocalChange.modifyTargets scope change targets
  | .add group specs => LocalChange.addTargets scope group specs

def runLocalJobs (scope : DetailScope) : Submission → List LocalJob → Program Submission
  | s, [] => return s
  | s, job :: rest => do
      match ← Work.outcome (runLocalJob scope job) with
      | .ok ids => runLocalJobs scope { s with settled := s.settled ++ ids } rest
      | .error failure => runLocalJobs scope (← s.noteFailure job.group failure) rest

def flowScope (r : BatchRequest) (batch : Int64) (balancer : String) : FlowScope :=
  .ofBalancer balancer r.account batch r.vendor r.business

def runJobs (settings : Settings) (r : BatchRequest) :
    Submission → List (String × Job) → Program Submission
  | s, [] => return s
  | s, (balancer, job) :: rest => do
      let scope := flowScope r s.batch balancer
      match ← Work.outcome (Construction.buildJob settings scope job) with
      | .ok built => runJobs settings r { s with flows := s.flows ++ [built.flow] } rest
      | .error failure => runJobs settings r (← s.noteFailure balancer failure) rest

def localScope (r : BatchRequest) (batch : Int64) : DetailScope :=
  { batch, business := r.business, operation := r.command.operation }

/-- Works off everything and attaches the flows. -/
def workOff (settings : Settings) (r : BatchRequest) (work : Routed) (batch : Int64) :
    Work Submission := do
  let s ← runLocalJobs (localScope r batch) { batch } work.unbound
  let s ← runJobs settings r s work.bound
  Work.askStore (.timed "attach_flows") (.attachFlows batch s.flows)
  Work.report (.batchProcessed batch s.flows.length s.settled.length s.failures.length)
  return s

/-- Processes one request. It fails when nothing was written, or when the flows could not be
attached. -/
def process (settings : Settings) (r : BatchRequest) : Work Submission :=
  Work.within (.processing r.business r.command.operation) do
    Work.ofExcept r.command.check
    let work ← Routing.route r
    let batch ← Work.askStore (.timed "create_task_management") (.createBatch (newBatch settings r))
    workOff settings r work batch.id

end Submission

end BalancerFlows
