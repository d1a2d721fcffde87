import BalancerFlows.Plan

/-!
# Batch requests

What one caller asks for, in raw ids. `Command.check` refuses a command that cannot be meant,
without looking anything up. A command is written as an object that names it under `operation`
beside its own members; in a request those members stand beside the members of the request.
-/
namespace BalancerFlows

/-- The change a batch asks for. -/
inductive Command where
  | modifyWeight (targets : List String) (weight : UInt32)
  | modifyPort (targets : List String) (port : UInt16)
  | removeTargets (targets : List String)
  | addTargets (group : String) (specs : List TargetSpec)
  | deleteListeners (balancer : String) (listeners : List String)
  | bindTargetGroups (bindings : List Binding)
  deriving Repr, DecidableEq, Inhabited

/-- One caller's request. Without a source it is recorded under the one that is set. -/
structure BatchRequest where
  business : Int64
  vendor : Vendor
  account : String
  source : Option String
  command : Command
  deriving Repr, DecidableEq, Inhabited

namespace Command

def operation : Command → Operation
  | modifyWeight .. => .modifyTargetWeight
  | modifyPort .. => .modifyTargetPort
  | removeTargets _ => .removeTarget
  | addTargets .. => .addTarget
  | deleteListeners .. => .deleteListener
  | bindTargetGroups _ => .bindTargetGroup

/-- Refuses an empty list, under the name it has in the request. -/
def requireItems {α : Type} (name : String) (items : List α) : Except Failure Unit :=
  if items.isEmpty then .error (.invalidParameter (name ++ " must not be empty")) else .ok ()

def requireId (name id : String) : Except Failure Unit :=
  if id.isEmpty then .error (.invalidParameter (name ++ " is required")) else .ok ()

/-- Checks what can be checked without looking anything up. -/
def check : Command → Except Failure Unit
  | modifyWeight targets weight => do
      requireItems "target_ids" targets
      Plan.checkWeight weight
  | modifyPort targets port => do
      requireItems "target_ids" targets
      Plan.checkPort port
  | removeTargets targets => requireItems "target_ids" targets
  | addTargets group specs => do
      requireId "target_group_id" group
      requireItems "targets" specs
      Plan.checkSpecs specs
  | deleteListeners balancer listeners => do
      requireId "lb_id" balancer
      requireItems "listener_ids" listeners
  | bindTargetGroups bindings => requireItems "bindings" bindings

inductive Name where
  | modifyWeight | modifyPort | removeTargets | addTargets | deleteListeners | bindTargetGroups
  deriving Repr, DecidableEq, Inhabited

instance : Vocabulary Name where
  all := [.modifyWeight, .modifyPort, .removeTargets, .addTargets, .deleteListeners,
    .bindTargetGroups]
  text
    | .modifyWeight => "modify_target_weight"
    | .modifyPort => "modify_target_port"
    | .removeTargets => "remove_targets"
    | .addTargets => "add_targets"
    | .deleteListeners => "delete_listeners"
    | .bindTargetGroups => "bind_target_groups"

def name : Command → Name
  | modifyWeight .. => .modifyWeight
  | modifyPort .. => .modifyPort
  | removeTargets _ => .removeTargets
  | addTargets .. => .addTargets
  | deleteListeners .. => .deleteListeners
  | bindTargetGroups _ => .bindTargetGroups

def members : Command → List (String × Json)
  | modifyWeight targets weight =>
      [("target_ids", encode targets), ("new_weight", encode weight)]
  | modifyPort targets port => [("target_ids", encode targets), ("new_port", encode port)]
  | removeTargets targets => [("target_ids", encode targets)]
  | addTargets group specs => [("target_group_id", encode group), ("targets", encode specs)]
  | deleteListeners balancer listeners =>
      [("lb_id", encode balancer), ("listener_ids", encode listeners)]
  | bindTargetGroups bindings => [("bindings", encode bindings)]

def read? : Name → Json → Option Command
  | .modifyWeight => readRecord do
      return .modifyWeight (← required "target_ids") (← required "new_weight")
  | .modifyPort => readRecord do
      return .modifyPort (← required "target_ids") (← required "new_port")
  | .removeTargets => readRecord do return .removeTargets (← required "target_ids")
  | .addTargets => readRecord do
      return .addTargets (← required "target_group_id") (← required "targets")
  | .deleteListeners => readRecord do
      return .deleteListeners (← required "lb_id") (← required "listener_ids")
  | .bindTargetGroups => readRecord do return .bindTargetGroups (← required "bindings")

def nameOfText? : Json → Option Name
  | .str s => Vocabulary.ofText? s
  | _ => none

/-- Reads a name given as text or as its place among the names, counted from 0. -/
def nameOfTextOrPlace? : Json → Option Name
  | .int n => if n < 0 then none else (Vocabulary.all : List Name)[n.toNat]?
  | j => nameOfText? j

end Command

instance : Wire Command where
  encode c := .obj (("operation", encode c.name) :: c.members)
  decode
    | .obj members => do
        let name ← Command.nameOfText? (← members.lookup "operation")
        Command.read? name (.obj members)
    | .arr (name :: members) => do Command.read? (← Command.nameOfText? name) (.arr members)
    | _ => none

/-- Reads the members of a request that are no members of its command. -/
def BatchRequest.ofCommand (command : Command) : Reading BatchRequest := do
  return { business := ← required "business_id", vendor := ← required "vendor",
           account := ← required "account_id", source := ← optional "source", command }

instance : Wire BatchRequest where
  encode r := .obj ([("business_id", encode r.business), ("vendor", encode r.vendor),
    ("account_id", encode r.account), ("source", encode r.source),
    ("operation", encode r.command.name)] ++ r.command.members)
  decode
    | .obj members => do
        let name ← Command.nameOfTextOrPlace? (← members.lookup "operation")
        let command ← Command.read? name (.obj members)
        readRecord (BatchRequest.ofCommand command) (.obj members)
    | _ => none

end BalancerFlows
