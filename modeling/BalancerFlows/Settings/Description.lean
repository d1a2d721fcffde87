import BalancerFlows.Settings.Basic
import BalancerFlows.Text.Basic

/-!
# Descriptions

One-line descriptions of the parts that work under the settings, for people who look into a running
program. A description names a part and its settings; two points stand for what it leaves out.
-/
namespace BalancerFlows.Description

/-- A part with some of its fields; the rest is left out. -/
def partly (name : String) (fields : List (String × String)) : String :=
  let shown := fields.map fun f => f.1 ++ ": " ++ f.2 ++ ", "
  name ++ " \x7b " ++ String.join shown ++ ".. \x7d"

def whole (name : String) (fields : List (String × String)) : String :=
  let shown := fields.map fun f => f.1 ++ ": " ++ f.2
  name ++ " \x7b " ++ ", ".intercalate shown ++ " \x7d"

def limits (l : BatchLimits) : String :=
  whole "BatchLimits" [("add_targets", toString l.addTargets),
    ("remove_targets", toString l.removeTargets), ("modify_weight", toString l.modifyWeight),
    ("modify_port", toString l.modifyPort), ("delete_listeners", toString l.deleteListeners)]

def retry (r : RetryPolicy) : String :=
  whole "RetryPolicy" [("max_attempts", toString r.maxAttempts),
    ("min_sleep_ms", toString r.minSleepMs), ("max_sleep_ms", toString r.maxSleepMs)]

def gate : String := partly "ResourceGate" []

def detailFactory : String := partly "TaskDetailFactory" []

def unwind : String := partly "FailureUnwind" []

def localResolver : String := partly "LocalResolver" []

def assembler : String := partly "FlowAssembler" [("gate", gate)]

def flowBuilder (s : Settings) : String :=
  partly "FlowBuilder" [("limits", limits s.limits), ("retry", retry s.retry)]

def processor (s : Settings) : String :=
  partly "BatchRequestProcessor"
    [("builder", flowBuilder s), ("default_source", Text.quoted s.defaultSource)]

end BalancerFlows.Description
