import BalancerFlows.Proofs.Acceptance
import BalancerFlows.Proofs.Portions
import BalancerFlows.World
import Mathlib.Logic.Relation

/-!
# Rules come before their registrations

A binding plan has, group by group, the rule of the group in a call of its own and the registrations
of its targets behind it. The tasks of a chain stand in line, whatever was pushed and however far
it got, so each registration waits, directly or through others, for the rule of its own group. Main
statement: `Plan.bindings_planned_in_order`.
-/
namespace BalancerFlows

namespace Program

variable {α β : Type} {P : β → Prop} {Q : α → Prop}

/-- Whatever its calls come to, the program gives only values of a kind. -/
def Gives (Q : α → Prop) : Program α → Prop
  | done a => Q a
  | overflow => True
  | report _ next => next.Gives Q
  | call _ _ next => ∀ outcome, (next outcome).Gives Q

theorem gives_any (p : Program α) : p.Gives fun _ => True := by
  induction p with
  | done a => trivial
  | overflow => trivial
  | report _ next ih => exact ih
  | call _ c next ih => exact ih

theorem Gives.mono {Q' : α → Prop} {p : Program α} (h : p.Gives Q) (imp : ∀ a, Q a → Q' a) :
    p.Gives Q' := by
  induction p with
  | done a => exact imp a h
  | overflow => trivial
  | report _ next ih => exact ih h
  | call _ c next ih => exact fun outcome => ih outcome (h outcome)

theorem Gives.bind {p : Program β} {f : β → Program α} (first : p.Gives P)
    (next : ∀ b, P b → (f b).Gives Q) : (p >>= f).Gives Q := by
  show (p.bind f).Gives Q
  induction p with
  | done b => exact next b first
  | overflow => trivial
  | report _ rest ih => exact ih first
  | call _ c rest ih => exact fun outcome => ih outcome (first outcome)

theorem Gives.run {p : Program α} (h : p.Gives Q) {deadline : Option Nat} {w w' : World} {a : α}
    (ended : p.run deadline w = (some a, w')) : Q a := by
  induction p generalizing w with
  | done b =>
      cases ended
      exact h
  | overflow => cases ended
  | report o next ih => exact ih h ended
  | call g c next ih => exact ih _ (h _) ended

end Program

namespace FlowTask

/-- Each task waits for the one before it and for no other, and the first one for `behind`. -/
def InLine : (behind : Option ActionId) → List FlowTask → Prop
  | _, [] => True
  | behind, task :: rest => task.dependsOn = behind.toList ∧ InLine (some task.id) rest

/-- One of the tasks waits for another one of them. -/
def WaitsFor (tasks : List FlowTask) (task other : FlowTask) : Prop :=
  task ∈ tasks ∧ other ∈ tasks ∧ other.id ∈ task.dependsOn

variable {behind : Option ActionId} {tasks : List FlowTask}

theorem InLine.next (h : InLine behind tasks) {n : Nat} {task other : FlowTask}
    (found : tasks[n]? = some task) (found' : tasks[n + 1]? = some other) :
    other.dependsOn = [task.id] := by
  induction tasks generalizing behind n with
  | nil => cases found
  | cons head rest ih =>
      cases n with
      | succ n => exact ih h.2 found found'
      | zero =>
          cases found
          cases rest with
          | nil => cases found'
          | cons second rest =>
              cases found'
              exact h.2.1

/-- In a line, each task waits for all that stand before it, at least through others. -/
theorem InLine.waits (h : InLine behind tasks) {j k : Nat} (lt : j < k) {task other : FlowTask}
    (found : tasks[k]? = some task) (earlier : tasks[j]? = some other) :
    Relation.TransGen (WaitsFor tasks) task other := by
  have direct : ∀ n before after, tasks[n]? = some before → tasks[n + 1]? = some after →
      WaitsFor tasks after before := fun n before after at_n at_next =>
    ⟨List.mem_of_getElem? at_next, List.mem_of_getElem? at_n, by simp [h.next at_n at_next]⟩
  induction k, lt using Nat.le_induction generalizing task with
  | base => exact .single (direct j other task earlier found)
  | succ k _ ih =>
      have inside : k < tasks.length := by
        have := (List.getElem?_eq_some_iff.1 found).1
        omega
      have at_k : tasks[k]? = some tasks[k] := List.getElem?_eq_getElem inside
      exact .head (direct k _ task at_k found) (ih at_k)

end FlowTask

namespace Chain

/-- What a chain has gained when calls were pushed: tasks in line behind its last one, for the
calls in order, and for all of them if no call failed. -/
def Gains (c : Chain) (calls : List PlannedCall) (pushed : Pushed) : Prop :=
  ∃ tasks, pushed.chain.tasks = c.tasks ++ tasks ∧ FlowTask.InLine c.last tasks ∧
    tasks.map (fun task => task.params.request) <+: calls.map PlannedCall.request ∧
    (pushed.outcome = .ok () →
      tasks.map (fun task => task.params.request) = calls.map PlannedCall.request)

/-- What a chain has gained when one call was pushed: a task for it, behind the last one. -/
structure GainsOne (c : Chain) (request : CloudRequest) (pushed : FlowTask × Chain) : Prop where
  tasks : pushed.2.tasks = c.tasks ++ [pushed.1]
  last : pushed.2.last = some pushed.1.id
  behind : pushed.1.dependsOn = c.last.toList
  request : pushed.1.params.request = request

theorem gives_append (c : Chain) (details : List Detail) (request : CloudRequest) :
    (c.append details request).Gives (c.GainsOne request) := by
  unfold append
  split
  next => trivial
  next => exact ⟨rfl, rfl, rfl, rfl⟩

theorem gives_push (c : Chain) (call : PlannedCall) :
    Program.Gives (fun outcome => ∀ pushed, outcome = .ok pushed → c.GainsOne call.request pushed)
      (Work.outcome (c.push call)) := by
  apply (Program.gives_any (Work.outcome (c.scope.create call.params))).bind
  intro created _
  cases created with
  | error failure =>
      intro pushed ok
      cases ok
  | ok details =>
      apply (c.gives_append details call.request).bind
      intro pushed appended other ok
      cases ok
      exact appended

/-- One call and then others: the task of the first one stands in front of the others' tasks. -/
theorem GainsOne.gains {c : Chain} {call : PlannedCall} {rest : List PlannedCall}
    {first : FlowTask × Chain} (one : c.GainsOne call.request first) {pushed : Pushed}
    (more : first.2.Gains rest pushed) : c.Gains (call :: rest) pushed := by
  obtain ⟨tasks, grown, line, made, whole⟩ := more
  refine ⟨first.1 :: tasks, ?_, ⟨one.behind, one.last ▸ line⟩, ?_, fun ok => ?_⟩
  · rw [grown, one.tasks, List.append_assoc, List.singleton_append]
  · rw [List.map_cons, List.map_cons, one.request]
    exact (List.prefix_cons_inj _).2 made
  · rw [List.map_cons, List.map_cons, one.request, whole ok]

/-- However far the pushing gets, the chain has gained tasks in line for the calls so far. -/
theorem gives_pushAll (c : Chain) (calls : List PlannedCall) :
    (c.pushAll calls).Gives (c.Gains calls) := by
  induction calls generalizing c with
  | nil => exact ⟨[], by simp, trivial, List.prefix_rfl, fun _ => rfl⟩
  | cons call rest ih =>
      apply (c.gives_push call).bind
      intro outcome one
      cases outcome with
      | error failure => exact ⟨[], by simp, trivial, List.nil_prefix, nofun⟩
      | ok first => exact (ih first.2).mono fun pushed => (one first rfl).gains

end Chain

namespace Plan

/-- Before each registration of targets stands the rule of the same binding. -/
def RulesFirst (requests : List CloudRequest) : Prop :=
  ∀ (k : Nat) b specs, requests[k]? = some (.registerTargets b specs) →
    ∃ j < k, requests[j]? = some (.bindTargetGroupRule b)

namespace RulesFirst

variable {xs ys : List CloudRequest}

theorem append (h : RulesFirst xs) (h' : RulesFirst ys) : RulesFirst (xs ++ ys) := by
  intro k b specs found
  rcases Nat.lt_or_ge k xs.length with inside | behind
  · rw [List.getElem?_append_left inside] at found
    obtain ⟨j, lt, rule⟩ := h k b specs found
    exact ⟨j, lt, by rw [List.getElem?_append_left (by omega), rule]⟩
  · rw [List.getElem?_append_right behind] at found
    obtain ⟨j, lt, rule⟩ := h' _ b specs found
    refine ⟨xs.length + j, by omega, ?_⟩
    rw [List.getElem?_append_right (by omega), Nat.add_sub_cancel_left, rule]

theorem of_append (h : RulesFirst (xs ++ ys)) : RulesFirst xs := by
  intro k b specs found
  have inside := (List.getElem?_eq_some_iff.1 found).1
  rw [← List.getElem?_append_left inside] at found
  obtain ⟨j, lt, rule⟩ := h k b specs found
  rw [List.getElem?_append_left (by omega)] at rule
  exact ⟨j, lt, rule⟩

/-- A registration among tasks in line waits for the rule of the same binding. -/
theorem waits {behind : Option ActionId} {tasks : List FlowTask}
    (h : RulesFirst (tasks.map fun task => task.params.request))
    (line : FlowTask.InLine behind tasks) {task : FlowTask} (mem : task ∈ tasks) {b : Binding}
    {specs : List TargetSpec} (registers : task.params.request = .registerTargets b specs) :
    ∃ rule ∈ tasks, rule.params.request = .bindTargetGroupRule b ∧
      Relation.TransGen (FlowTask.WaitsFor tasks) task rule := by
  obtain ⟨k, at_k⟩ := List.getElem?_of_mem mem
  obtain ⟨j, lt, found⟩ := h k b specs (by rw [List.getElem?_map, at_k, ← registers]; rfl)
  obtain ⟨rule, at_j, binds⟩ := Option.map_eq_some_iff.1 (List.getElem?_map ▸ found)
  exact ⟨rule, List.mem_of_getElem? at_j, binds, line.waits lt at_k at_j⟩

end RulesFirst

theorem rulesFirst_bindingCalls (limit : Nat) (g : BoundSpecs) :
    RulesFirst ((bindingCalls limit g).map PlannedCall.request) := by
  intro k b specs found
  cases k with
  | zero => cases found
  | succ k =>
      obtain ⟨call, at_k, registers⟩ := Option.map_eq_some_iff.1 (List.getElem?_map ▸ found)
      obtain ⟨chunk, -, rfl⟩ := List.mem_map.1 (List.mem_of_getElem? at_k)
      cases registers
      exact ⟨0, by omega, rfl⟩

theorem rulesFirst_groups (limit : Nat) (groups : List BoundSpecs) :
    RulesFirst ((groups.flatMap (bindingCalls limit)).map PlannedCall.request) := by
  induction groups with
  | nil =>
      intro k b specs found
      cases found
  | cons g rest ih =>
      rw [List.flatMap_cons, List.map_append]
      exact (rulesFirst_bindingCalls limit g).append ih

/-- The calls for a group: its rule, alone in a call, and the registrations of its targets. -/
structure BindsThenRegisters (limit : Nat) (g : BoundSpecs) (rule : PlannedCall)
    (registrations : List PlannedCall) : Prop where
  binds : rule.request = .bindTargetGroupRule g.binding
  single : rule.request.itemCount = 1
  counted : rule.Counted
  recorded : List.Forall₂ CloudItem.RecordedIn rule.request.items rule.params
  registers : Portioned limit (fun r => ∃ specs, r = .registerTargets g.binding specs)
    (g.targets.map .newTarget) registrations

theorem bindingCalls_parts (limit : Nat) (g : BoundSpecs) :
    ∃ rule registrations, bindingCalls limit g = rule :: registrations ∧
      BindsThenRegisters limit g rule registrations := by
  refine ⟨_, _, rfl, rfl, rfl, rfl, .cons ⟨rfl, rfl⟩ .nil, ?_⟩
  exact portioned_chunks (carries_registrationShape.items g.binding)
    (carries_registrationShape.records g.binding) (carries_registrationShape.suits g.binding) _

/-- Which binding plans are accepted, how their calls lie, and that in every chain built from one,
however far it got, each registration waits for the rule of its own group. -/
theorem bindings_planned_in_order (balancer : String) (limit : Nat) (groups : List BoundSpecs) :
    ((∃ p, bindTargetGroups balancer limit groups = .ok p) ↔
      groups ≠ [] ∧ (∀ g ∈ groups, Registrable balancer g) ∧
        (groups.map fun g => g.binding.group).Nodup) ∧
    ∀ p, bindTargetGroups balancer limit groups = .ok p →
      (∃ parts : List (PlannedCall × List PlannedCall),
        p.calls = parts.flatMap (fun part => part.1 :: part.2) ∧
        List.Forall₂ (fun g part => BindsThenRegisters limit g part.1 part.2) groups parts) ∧
      ∀ (c : Chain) deadline w pushed w',
        (c.pushAll p.calls).run deadline w = (some pushed, w') →
        ∃ tasks, pushed.chain.tasks = c.tasks ++ tasks ∧
          (pushed.outcome = .ok () → tasks.map (fun task => task.params.request) =
            p.calls.map PlannedCall.request) ∧
          ∀ task ∈ tasks, ∀ b specs, task.params.request = .registerTargets b specs →
            ∃ rule ∈ tasks, rule.params.request = .bindTargetGroupRule b ∧
              Relation.TransGen (FlowTask.WaitsFor tasks) task rule := by
  refine ⟨(decides_bindTargetGroups balancer limit groups).passes, fun p planned => ?_⟩
  have calls := groupBindings_spec (bindTargetGroups_spec planned).2
  refine ⟨?_, fun c deadline w pushed w' ended => ?_⟩
  · choose rule registrations made parts using bindingCalls_parts limit
    refine ⟨groups.map fun g => (rule g, registrations g), ?_, ?_⟩
    · rw [calls, List.flatMap_map]
      exact List.flatMap_congr fun g _ => made g
    · exact List.forall₂_map_right_iff.2 (List.forall₂_same.2 fun g _ => parts g)
  · obtain ⟨tasks, grown, line, ⟨unmade, requests⟩, whole⟩ := (c.gives_pushAll p.calls).run ended
    have ordered := rulesFirst_groups limit groups
    rw [← calls, ← requests] at ordered
    exact ⟨tasks, grown, whole, fun task mem b specs => ordered.of_append.waits line mem⟩

/-- Two groups to bind, the second of which has no targets. -/
def twoRules : List BoundSpecs :=
  let spec (instanceId : String) : TargetSpec :=
    { instanceId, ip := "10.0.0.1", port := 80, weight := 10 }
  [{ binding := bindingOn "tg-1", targets := [spec "i-1", spec "i-2", spec "i-3"] },
   { binding := bindingOn "tg-2", targets := [] }]

def emptyChain : Chain where
  scope := { batch := 1, business := 7, operation := .bindTargetGroup }
  vendor := .tCloud
  retry := {}

/-- Under a limit of two, the three targets of the first group are registered by two tasks, and
both wait for the rule. -/
theorem bindings_planned_in_order_twoRules : ∃ p pushed w',
    bindTargetGroups "lb-1" 2 twoRules = .ok p ∧
      (emptyChain.pushAll p.calls).run none {} = (some pushed, w') ∧
      pushed.chain.tasks.map FlowTask.action = [.bindTargetGroupRule, .registerTargets,
        .registerTargets, .bindTargetGroupRule] ∧
      ∀ task ∈ pushed.chain.tasks, ∀ b specs, task.params.request = .registerTargets b specs →
        ∃ rule ∈ pushed.chain.tasks, rule.params.request = .bindTargetGroupRule b ∧
          Relation.TransGen (FlowTask.WaitsFor pushed.chain.tasks) task rule := by
  let p := (bindTargetGroups "lb-1" 2 twoRules).toOption.getD default
  have planned : bindTargetGroups "lb-1" 2 twoRules = .ok p := by decide +kernel
  have chained : ((emptyChain.pushAll p.calls).run none {}).1.map
      (fun pushed => pushed.chain.tasks.map FlowTask.action) =
        some [.bindTargetGroupRule, .registerTargets, .registerTargets, .bindTargetGroupRule] := by
    decide +kernel
  obtain ⟨pushed, ended, actions⟩ := Option.map_eq_some_iff.1 chained
  obtain ⟨tasks, grown, -, behind⟩ := ((bindings_planned_in_order "lb-1" 2 twoRules).2 p planned).2
    emptyChain none {} pushed _ (Prod.ext ended rfl)
  have only : pushed.chain.tasks = tasks := grown
  exact ⟨p, pushed, _, planned, Prod.ext ended rfl, actions, only ▸ behind⟩

end Plan

end BalancerFlows
