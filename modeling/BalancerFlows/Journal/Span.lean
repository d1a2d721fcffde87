import BalancerFlows.Journal.Event

/-!
# Spans

Stretches of work that events are reported in. A span has a name, the part of the program it
belongs to, and fields that say what the work is about. Spans are no events: they are never written
down, but a filter may let more through within some of them.
-/
namespace BalancerFlows

/-- A stretch of work, one constructor per kind of work. -/
inductive Span where
  /-- A request is processed. -/
  | processing (business : Int64) (work : Operation)
  /-- Items without binding are changed. -/
  | settling (work : Operation) (items : Nat)
  /-- The gate is asked whether a resource is free. -/
  | checking (resource : ResourceKey)
  /-- A lock is taken. -/
  | locking (lock : Lock)
  /-- The flow of a resource is built. -/
  | building (resource : String) (work : Operation)
  /-- Tasks are turned into a flow. -/
  | assembling (resource : String) (work : Operation)
  deriving Repr, DecidableEq, Inhabited

inductive SpanValue where
  | text (value : String)
  | number (value : Int)
  deriving Repr, DecidableEq, Inhabited

namespace Span

def name : Span → String
  | processing .. => "process"
  | settling .. => "resolve"
  | checking _ => "ensure_available"
  | locking _ => "lock"
  | building .. => "build_flow"
  | assembling .. => "assemble"

def target : Span → String
  | processing .. => "lbflow_core::orchestration::request_processor"
  | settling .. => "lbflow_core::orchestration::local_resolver"
  | checking _ | locking _ => "lbflow_core::orchestration::resource_gate"
  | building .. => "lbflow_core::orchestration::flow_builder"
  | assembling .. => "lbflow_core::orchestration::flow_assembler"

/-- All spans are as important as this. -/
def level : Level :=
  .info

/-- A word of lower case letters with a capital in front. -/
def capitalized (word : String) : String :=
  match word.toList with
  | c :: cs => String.ofList (c.toUpper :: cs)
  | [] => ""

/-- The text of a vocabulary without underscores, each of its words with a capital in front. -/
def titleOf {α : Type} [Vocabulary α] (a : α) : String :=
  String.join (((text a).splitOn "_").map capitalized)

/-- The form of the id of a request. The digits are chosen at random and mean nothing. -/
def requestId : String :=
  "00000000-0000-4000-8000-000000000000"

/-- What a span says about its work, without its request. -/
def details : Span → List (String × SpanValue)
  | processing business work =>
      [("business_id", .number business.toInt), ("task_type", .text (text work))]
  | settling work items => [("task_type", .text (text work)), ("item_count", .number items)]
  | checking resource =>
      [("resource_id", .text resource.id), ("resource_type", .text (titleOf resource.kind))]
  | locking lock =>
      [("resource_id", .text lock.resource.id),
        ("resource_type", .text (titleOf lock.resource.kind)),
        ("flow_id", .number lock.flow.toInt), ("lock_kind", .text (titleOf lock.kind))]
  | building resource work =>
      [("resource_id", .text resource), ("task_type", .text (text work))]
  | assembling resource work =>
      [("resource_id", .text resource), ("flow_type", .text (text work))]

def fields (s : Span) : List (String × SpanValue) :=
  ("request_id", .text requestId) :: s.details

end Span

/-- An event and the spans it was reported in, the outermost first. -/
structure Occurrence where
  event : Event
  spans : List Span := []
  deriving Repr, DecidableEq, Inhabited

/-- An occurrence within a further span around its own. -/
def Occurrence.within (s : Span) (o : Occurrence) : Occurrence :=
  { o with spans := s :: o.spans }

end BalancerFlows
