import BalancerFlows.Batch.Submission
import BalancerFlows.World

/-!
# Sessions

One caller's dealings with one world: programs are run one after the other under the settings,
each with a deadline of its own, and the details and the chain at hand are kept in between.
-/
namespace BalancerFlows

/-- A world with its settings, and what the caller has at hand. -/
structure Session where
  settings : Settings := {}
  world : World := {}
  held : List Detail := []
  chain : Option Chain := none

/-- A part of a list, from one place up to another; places behind the end are the end. -/
structure Slice where
  first : Nat := 0
  last : Option Nat := none
  deriving Repr, DecidableEq, Inhabited

namespace Slice

variable {α : Type}

/-- Where the slice of a list ends. -/
def stop (s : Slice) (items : List α) : Nat :=
  min (s.last.getD items.length) items.length

/-- Where the slice of a list starts. -/
def start (s : Slice) (items : List α) : Nat :=
  min s.first (s.stop items)

def before (s : Slice) (items : List α) : List α :=
  items.take (s.start items)

def within (s : Slice) (items : List α) : List α :=
  (items.take (s.stop items)).drop (s.start items)

def behind (s : Slice) (items : List α) : List α :=
  items.drop (s.stop items)

theorem before_within_behind (s : Slice) (items : List α) :
    s.before items ++ s.within items ++ s.behind items = items := by
  have le : s.start items ≤ s.stop items := Nat.min_le_right _ _
  have cut : s.before items = (items.take (s.stop items)).take (s.start items) := by
    rw [before, List.take_take, Nat.min_eq_left le]
  rw [cut, within, List.take_append_drop, behind, List.take_append_drop]

def map (s : Slice) (f : α → α) (items : List α) : List α :=
  s.before items ++ (s.within items).map f ++ s.behind items

/-- The list with the items in the slice replaced. -/
def replace (s : Slice) (new items : List α) : List α :=
  s.before items ++ new ++ s.behind items

end Slice

namespace Session

variable {α : Type}

/-- The session under some settings whose catalog holds some records. -/
def start (settings : Settings) (stock : Stock) : Session :=
  { settings, world := ({} : World).insert stock }

/-- The deadline of a program that starts now and has that long. -/
def deadline (s : Session) (timeout : Option Nat) : Option Nat :=
  timeout.map (s.world.now + ·)

/-- Runs a program. The value is missing when a counter of task ids ran over; what happened up to
then stays. -/
def perform (s : Session) (timeout : Option Nat) (p : Program α) : Option α × Session :=
  let (value, world) := p.run (s.deadline timeout) s.world
  (value, { s with world })

def build (s : Session) (scope : FlowScope) (job : Job) : Work Built :=
  Construction.buildJob s.settings scope job

def process (s : Session) (r : BatchRequest) : Work Submission :=
  Submission.process s.settings r

end Session

end BalancerFlows
