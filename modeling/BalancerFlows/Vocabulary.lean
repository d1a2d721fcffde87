/-!
# Fixed vocabularies

The finite types every record is written in. Each member has one text, in lower case with
underscores, and that text is what stored rows, requests and messages carry.
-/
namespace BalancerFlows

/-- A finite type whose members are each written as one text. -/
class Vocabulary (α : Type) where
  all : List α
  text : α → String

namespace Vocabulary

variable {α : Type} [Vocabulary α]

def ofText? (s : String) : Option α :=
  (all : List α).find? fun a => text a == s

/-- The member that is written as `s`, or the complaint that names the vocabulary. -/
def ofText (label : String) (s : String) : Except String α :=
  match ofText? s with
  | some a => .ok a
  | none => .error ("Invalid " ++ label ++ ": " ++ s)

end Vocabulary

/-- The cloud a resource lives in. -/
inductive Vendor where
  | tCloud | aws | huaWei | azure | gcp
  deriving Repr, DecidableEq, Inhabited

/-- What a batch asks for. Flows are typed by the same operations. -/
inductive Operation where
  | addTarget | removeTarget | modifyTargetWeight | modifyTargetPort | deleteListener
  | bindTargetGroup
  deriving Repr, DecidableEq, Inhabited

/-- The routine that executes one task. -/
inductive Action where
  | registerTargets | deregisterTargets | modifyTargetWeight | modifyTargetPort
  | deleteListeners | bindTargetGroupRule
  deriving Repr, DecidableEq, Inhabited

/-- How far one item has come. -/
inductive DetailState where
  | pending | success | failed
  deriving Repr, DecidableEq, Inhabited

/-- How far a flow has come: `init` is stored but hidden from the executor, `pending` is locked
and may run. -/
inductive FlowState where
  | init | pending | running | success | failed | cancelled
  deriving Repr, DecidableEq, Inhabited

/-- What an exclusive lock or a sub-flow row is about. -/
inductive ResourceKind where
  | loadBalancer | listener | targetGroup
  deriving Repr, DecidableEq, Inhabited

/-- The change in progress on a locked resource. -/
inductive LockKind where
  | targetGroupModify | listenerDelete | targetGroupBind
  deriving Repr, DecidableEq, Inhabited

instance : Vocabulary Vendor where
  all := [.tCloud, .aws, .huaWei, .azure, .gcp]
  text
    | .tCloud => "t_cloud"
    | .aws => "aws"
    | .huaWei => "hua_wei"
    | .azure => "azure"
    | .gcp => "gcp"

instance : Vocabulary Operation where
  all := [.addTarget, .removeTarget, .modifyTargetWeight, .modifyTargetPort, .deleteListener,
    .bindTargetGroup]
  text
    | .addTarget => "add_target"
    | .removeTarget => "remove_target"
    | .modifyTargetWeight => "modify_target_weight"
    | .modifyTargetPort => "modify_target_port"
    | .deleteListener => "delete_listener"
    | .bindTargetGroup => "bind_target_group"

instance : Vocabulary Action where
  all := [.registerTargets, .deregisterTargets, .modifyTargetWeight, .modifyTargetPort,
    .deleteListeners, .bindTargetGroupRule]
  text
    | .registerTargets => "register_targets"
    | .deregisterTargets => "deregister_targets"
    | .modifyTargetWeight => "modify_target_weight"
    | .modifyTargetPort => "modify_target_port"
    | .deleteListeners => "delete_listeners"
    | .bindTargetGroupRule => "bind_target_group_rule"

instance : Vocabulary DetailState where
  all := [.pending, .success, .failed]
  text
    | .pending => "pending"
    | .success => "success"
    | .failed => "failed"

instance : Vocabulary FlowState where
  all := [.init, .pending, .running, .success, .failed, .cancelled]
  text
    | .init => "init"
    | .pending => "pending"
    | .running => "running"
    | .success => "success"
    | .failed => "failed"
    | .cancelled => "cancelled"

instance : Vocabulary ResourceKind where
  all := [.loadBalancer, .listener, .targetGroup]
  text
    | .loadBalancer => "load_balancer"
    | .listener => "listener"
    | .targetGroup => "target_group"

instance : Vocabulary LockKind where
  all := [.targetGroupModify, .listenerDelete, .targetGroupBind]
  text
    | .targetGroupModify => "target_group_modify"
    | .listenerDelete => "listener_delete"
    | .targetGroupBind => "target_group_bind"

export Vocabulary (text)

/-- The lock an operation's flow takes on its load balancer. -/
def Operation.lockKind : Operation → LockKind
  | .addTarget | .removeTarget | .modifyTargetWeight | .modifyTargetPort => .targetGroupModify
  | .deleteListener => .listenerDelete
  | .bindTargetGroup => .targetGroupBind

/-- A terminal item is never changed by this library again. -/
def DetailState.isTerminal : DetailState → Bool
  | .pending => false
  | .success | .failed => true

end BalancerFlows
