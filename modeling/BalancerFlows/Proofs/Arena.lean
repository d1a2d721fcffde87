import BalancerFlows.Proofs.Building

/-!
# Constructions that race

Constructions of flows share one world and make their calls in any order. An arena keeps what is
left of each of them and which rows it has added. Main statement: `Arena.Fair.advance`, by which a
call of one construction leaves all of them at their terms, whoever is next.
-/
namespace BalancerFlows

/-- A construction on its way: what is left of it, its deadline, and the rows it has added. -/
structure Contender where
  program : Program (Except Failure Built)
  deadline : Option Nat := none
  own : Own := {}

/-- The contender after its next call, and the world after it. -/
def Contender.step (c : Contender) (w : World) : Contender × World :=
  let (program, after) := c.program.step c.deadline w
  ({ c with program, own := c.own.grow w.store.tables after.store.tables }, after)

def Contender.outcome (c : Contender) : Option (Except Failure Built) :=
  match c.program with
  | .done r => some r
  | _ => none

theorem Contender.outcome_eq_some {c : Contender} {r : Except Failure Built} :
    c.outcome = some r ↔ c.program = .done r := by
  unfold outcome
  cases c.program <;> simp

/-- A flow that is to be built on a load balancer, by a plan that was accepted. -/
structure Bid where
  balancer : String
  account : String
  batch : Int64
  vendor : Vendor
  business : Int64
  retry : RetryPolicy
  plan : Plan
  planned : ∃ (job : Job) (planner : String) (limit : Nat), job.plan planner limit = .ok plan

namespace Bid

def scope (b : Bid) : FlowScope :=
  .ofBalancer b.balancer b.account b.batch b.vendor b.business

/-- The construction of the flow, which has not made any call. -/
def contender (b : Bid) (deadline : Option Nat) : Contender :=
  { program := Construction.build b.scope b.retry b.plan, deadline }

theorem keeps {T : Terms} {claims : ResourceKey → Prop} (hosts : T.Hosts claims) (b : Bid)
    (claimed : claims b.scope.resource) (deadline : Option Nat) (t : Tables) :
    (b.contender deadline).program.Keeps T (Construction.Finished T b.scope.resource) {} t := by
  obtain ⟨job, planner, limit, planned⟩ := b.planned
  exact Construction.keeps_build hosts b.retry claimed (Job.plan_complete planned) t

/-- An account has one listener of a load balancer deleted. -/
def deletion (account : String) : Bid where
  balancer := "lb-1"
  account := account
  batch := 1
  vendor := .tCloud
  business := 7
  retry := {}
  plan := {
    operation := .deleteListener
    calls := [{
      params := [.obj [("listener_id", .str "li-1"), ("cloud_id", .str "c-li-1"),
        ("protocol", .str "TCP"), ("port", .int 80)]]
      request := .deleteListeners "c-lb-1" [{ listener := "li-1", cloudId := "c-li-1" }] }]
    subResources := [{ id := "li-1", kind := .listener }] }
  planned := ⟨.deleteListeners
    { id := "lb-1", cloudId := "c-lb-1", vendor := .tCloud, account := "acc", region := "r-1" }
    [{ id := "li-1", cloudId := "c-li-1", balancer := "lb-1", protocol := "TCP", port := 80 }],
    "lb-1", 10, by decide +kernel⟩

end Bid

/-- A world, the constructions in it, and the flows whose locks were released. -/
structure Arena where
  world : World
  contenders : List Contender := []
  released : List Int64 := []

namespace Arena

def tables (a : Arena) : Tables :=
  a.world.store.tables

def contender? (a : Arena) (i : Nat) : Option Contender :=
  a.contenders[i]?

def advance (a : Arena) (i : Nat) : Arena :=
  match a.contender? i with
  | none => a
  | some c =>
      { a with world := (c.step a.world).2, contenders := a.contenders.set i (c.step a.world).1 }

def enter (a : Arena) (c : Contender) : Arena :=
  { a with contenders := a.contenders ++ [c] }

def run (a : Arena) (schedule : List Nat) : Arena :=
  schedule.foldl advance a

end Arena

/-- Two pieces of work have no row in common. -/
structure Own.Apart (o o' : Own) : Prop where
  details : ∀ id ∈ o.details, id ∉ o'.details
  flows : ∀ id ∈ o.flows, id ∉ o'.flows

namespace Own.Apart

variable {o o' : Own} {t t' : Tables}

theorem symm (h : o.Apart o') : o'.Apart o :=
  ⟨fun id mem mem' => h.details id mem' mem, fun id mem mem' => h.flows id mem' mem⟩

theorem empty (o : Own) : o.Apart {} :=
  ⟨by simp, by simp⟩

/-- What one of them adds is new to the other one. -/
theorem grow (h : o.Apart o') (present : o.Present t) : o.Apart (o'.grow t t') := by
  constructor
  · intro id mem grown
    rcases mem_grow_details.1 grown with own | new
    · exact h.details id mem own
    · exact new.2 (present.details id mem)
  · intro id mem grown
    rcases mem_grow_flows.1 grown with own | new
    · exact h.flows id mem own
    · exact new.2 (present.flows id mem)

end Own.Apart

theorem Contender.step_done {c : Contender} {r : Except Failure Built} (h : c.program = .done r)
    (w : World) : c.step w = (c, w) := by
  obtain ⟨program, deadline, own⟩ := c
  cases h
  simp [Contender.step, Program.step]

namespace Arena

variable {a : Arena} {i j : Nat} {c : Contender}

theorem advance_of_none (h : a.contender? i = none) : a.advance i = a := by
  rw [advance, h]

theorem world_advance (h : a.contender? i = some c) :
    (a.advance i).world = (c.step a.world).2 := by
  rw [advance, h]

theorem tables_advance (h : a.contender? i = some c) :
    (a.advance i).tables = (c.step a.world).2.store.tables := by
  rw [advance, h]
  rfl

theorem released_advance (a : Arena) (i : Nat) : (a.advance i).released = a.released := by
  unfold advance
  split <;> rfl

theorem later_advance (a : Arena) (i : Nat) : a.tables.Later (a.advance i).tables := by
  cases here : a.contender? i with
  | none => rw [advance_of_none here]
  | some c =>
      rw [tables_advance here]
      exact Program.later_step c.deadline c.program a.world

theorem later_run (a : Arena) (schedule : List Nat) : a.tables.Later (a.run schedule).tables := by
  induction schedule generalizing a with
  | nil => exact .refl _
  | cons i rest ih => exact (a.later_advance i).trans (ih (a.advance i))

theorem length_advance (a : Arena) (i : Nat) :
    (a.advance i).contenders.length = a.contenders.length := by
  unfold advance
  split
  · rfl
  · exact List.length_set

theorem length_run (a : Arena) (schedule : List Nat) :
    (a.run schedule).contenders.length = a.contenders.length := by
  induction schedule generalizing a with
  | nil => rfl
  | cons i rest ih => exact (ih (a.advance i)).trans (a.length_advance i)

theorem contender?_advance (h : a.contender? i = some c) (j : Nat) :
    (a.advance i).contender? j = if i = j then some (c.step a.world).1 else a.contender? j := by
  have room : i < a.contenders.length := by
    by_contra gt
    have none : a.contenders[i]? = none := List.getElem?_eq_none (Nat.le_of_not_lt gt)
    rw [contender?, none] at h
    cases h
  rw [advance, h]
  show (a.contenders.set i (c.step a.world).1)[j]? = _
  rw [List.getElem?_set]
  by_cases same : i = j
  · simp [same, same ▸ room]
  · simp [same, contender?]

/-- Whose turn it is keeps the rows it has added, and everybody else stays as it is. -/
theorem exists_own_advance (i : Nat) {c' : Contender} (there : a.contender? j = some c') {g : Int64}
    (own : g ∈ c'.own.flows) :
    ∃ c'', (a.advance i).contender? j = some c'' ∧ g ∈ c''.own.flows := by
  cases here : a.contender? i with
  | none =>
      rw [advance_of_none here]
      exact ⟨c', there, own⟩
  | some c =>
      rw [contender?_advance here]
      by_cases same : i = j
      · subst same
        rw [here, Option.some.injEq] at there
        subst there
        exact ⟨_, if_pos rfl, Own.mem_grow_flows.2 (.inl own)⟩
      · exact ⟨c', by rw [if_neg same, there], own⟩

theorem contender?_enter (there : a.contender? i = some c) (new : Contender) :
    (a.enter new).contender? i = some c := by
  have room : i < a.contenders.length := (List.getElem?_eq_some_iff.1 there).1
  show (a.contenders ++ [new])[i]? = some c
  rw [List.getElem?_append_left room]
  exact there

theorem contender?_enter_cases {new : Contender} (found : (a.enter new).contender? i = some c) :
    a.contender? i = some c ∨ i = a.contenders.length ∧ c = new := by
  have found : (a.contenders ++ [new])[i]? = some c := found
  rcases Nat.lt_trichotomy i a.contenders.length with lt | eq | gt
  · rw [List.getElem?_append_left lt] at found
    exact .inl found
  · rw [eq, List.getElem?_concat_length, Option.some.injEq] at found
    exact .inr ⟨eq, found.symm⟩
  · rw [List.getElem?_eq_none (by simp; omega)] at found
    cases found

/-- What a contender is held to: it keeps to the terms, or it has returned and is past them. -/
def Stands (T : Terms) (Q : Except Failure Built → Own → Tables → Prop)
    (past : Contender → Prop) (c : Contender) (t : Tables) : Prop :=
  c.program.Keeps T Q c.own t ∨ past c

/-- All contenders stand as they should, and no two of them have added the same row. -/
structure Fair (T : Terms) (Q : Except Failure Built → Own → Tables → Prop)
    (past : Contender → Prop) (a : Arena) : Prop where
  numbered : a.tables.Numbered
  stands : ∀ {i c}, a.contender? i = some c → Stands T Q past c a.tables
  present : ∀ {i c}, a.contender? i = some c → c.own.Present a.tables
  apart : ∀ {i j c c'}, a.contender? i = some c → a.contender? j = some c' → i ≠ j →
    c.own.Apart c'.own

namespace Fair

variable {T : Terms} {claims : ResourceKey → Prop} {Q : Except Failure Built → Own → Tables → Prop}
  {past : Contender → Prop}

/-- A call of a contender is a write of its own. -/
theorem step (shares : T.Shares claims) (idle : ∀ c, past c → c.outcome.isSome)
    (fair : Fair T Q past a) (here : a.contender? i = some c)
    (governs : T.Governs c.deadline a.world.store) (fits : (a.advance i).tables.Fits) :
    Write claims c.own a.tables (a.advance i).tables ∧ (a.advance i).tables.Numbered ∧
      a.tables.Later (a.advance i).tables ∧
      Stands T Q past (c.step a.world).1 (a.advance i).tables := by
  have later : a.tables.Later (c.step a.world).2.store.tables :=
    Program.later_step c.deadline c.program a.world
  rw [tables_advance here] at fits ⊢
  rcases fair.stands here with keeps | done
  · obtain ⟨keeps', promise, numbered'⟩ := keeps.step governs fair.numbered fits
    exact ⟨shares.write promise, numbered', later, .inl keeps'⟩
  · obtain ⟨r, outcome⟩ := Option.isSome_iff_exists.1 (idle c done)
    rw [Contender.step_done (Contender.outcome_eq_some.1 outcome)]
    exact ⟨.nothing, fair.numbered, .refl _, .inr done⟩

/-- A call of one contender leaves all of them at their terms. -/
theorem advance (shares : T.Shares claims) (idle : ∀ c, past c → c.outcome.isSome)
    (fair : Fair T Q past a) (here : a.contender? i = some c)
    (governs : T.Governs c.deadline a.world.store) (fits : (a.advance i).tables.Fits) :
    Fair T Q past (a.advance i) := by
  obtain ⟨write, numbered', later, stands⟩ := fair.step shares idle here governs fits
  have grown : (c.step a.world).1.own = c.own.grow a.tables (a.advance i).tables := by
    rw [tables_advance here]
    rfl
  -- Everybody but the contender whose turn it is stays as it is.
  have cases : ∀ {j c'}, (a.advance i).contender? j = some c' →
      i = j ∧ c' = (c.step a.world).1 ∨ i ≠ j ∧ a.contender? j = some c' := by
    intro j c' found
    rw [contender?_advance here] at found
    split at found
    next same => exact .inl ⟨same, (Option.some.inj found).symm⟩
    next other => exact .inr ⟨other, found⟩
  constructor
  · exact numbered'
  · intro j c' found
    rcases cases found with ⟨-, rfl⟩ | ⟨other, found⟩
    · exact stands
    · have apart := fair.apart found here (Ne.symm other)
      have undisturbed := write.undisturbed fair.numbered numbered' (fair.present found)
        apart.details apart.flows
      have rely := shares.rely undisturbed fun _ _ held => write.get?_locks held
      exact (fair.stands found).imp (fun keeps => keeps.of_rely rely) id
  · intro j c' found
    rcases cases found with ⟨-, rfl⟩ | ⟨-, found⟩
    · rw [grown]
      exact (fair.present here).grow fair.numbered numbered' later
    · exact (fair.present found).later fair.numbered numbered' later
  · intro j k c₁ c₂ found₁ found₂ ne
    rcases cases found₁ with ⟨rfl, rfl⟩ | ⟨-, found₁⟩
    · rcases cases found₂ with ⟨rfl, -⟩ | ⟨other, found₂⟩
      · exact absurd rfl ne
      · rw [grown]
        exact ((fair.apart found₂ here ne.symm).grow (fair.present found₂)).symm
    · rcases cases found₂ with ⟨rfl, rfl⟩ | ⟨-, found₂⟩
      · rw [grown]
        exact (fair.apart found₁ here ne).grow (fair.present found₁)
      · exact fair.apart found₁ found₂ ne

theorem enter (fair : Fair T Q past a) {new : Contender} (stands : Stands T Q past new a.tables)
    (empty : new.own = {}) : Fair T Q past (a.enter new) := by
  constructor
  · exact fair.numbered
  · intro i c found
    rcases contender?_enter_cases found with found | ⟨-, rfl⟩
    · exact fair.stands found
    · exact stands
  · intro i c found
    rcases contender?_enter_cases found with found | ⟨-, rfl⟩
    · exact fair.present found
    · exact empty ▸ Own.present_empty a.tables
  · intro i j c c' found found' ne
    rcases contender?_enter_cases found with found | ⟨rfl, rfl⟩
    · rcases contender?_enter_cases found' with found' | ⟨-, rfl⟩
      · exact fair.apart found found' ne
      · exact empty ▸ .empty c.own
    · exact empty ▸ (Own.Apart.empty c'.own).symm

end Fair

end Arena

end BalancerFlows
