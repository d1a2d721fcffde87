import BalancerFlows.Proofs.Recording
import BalancerFlows.Proofs.Timeline

/-!
# What an unwinding settles

An unwinding fails the pending details at hand and their rows together, in one call, or leaves both
as they are. Its patches are computed from the details at hand, and the rows may say something else
by then; so what becomes of the rows is said for every store, whatever it holds under the ids. Main
statement: `Unwind.settled_together`.
-/
namespace BalancerFlows

/-- The rows of some ids were changed, and nothing else in the table. -/
structure Table.Alters {α : Type} (ids : List Int64) (change : α → α) (t t' : Table α) : Prop where
  created : t'.created = t.created
  keys : t'.rows.keys = t.rows.keys
  rows : ∀ id, t'.get? id = if id ∈ ids then (t.get? id).map change else t.get? id

theorem Tables.alters_failing (reason : String) (ids : List Int64) (t : Table Detail) :
    Table.Alters ids (Detail.unwound (some reason)) t
      (patchDetails t (ids.map fun id => .settle id .failed (some reason))) := by
  induction ids generalizing t with
  | nil => exact ⟨rfl, rfl, fun id => (if_neg List.not_mem_nil).symm⟩
  | cons first rest ih =>
      have others := ih (t.update first (Detail.unwound (some reason)))
      refine ⟨others.created, others.keys.trans (Keyed.keys_update ..), fun id => ?_⟩
      have row := others.rows id
      rw [Table.get?_update_eq] at row
      refine Eq.trans row ?_
      by_cases here : first = id
      · subst here
        rw [if_pos rfl, if_pos List.mem_cons_self]
        split
        · -- The row is patched again, which makes no difference.
          rw [Option.map_map]
          rfl
        · rfl
      · simp only [if_neg here, List.mem_cons, Ne.symm here, false_or]

/-- The run of a world is the one whose calls are its steps. -/
theorem Program.map_timeline {α : Type} (deadline : Option Nat) (p : Program α) (w : World) :
    (p.timeline deadline w).map Moment.toStep = p.steps deadline w := by
  induction p generalizing w with
  | done a => rfl
  | overflow => rfl
  | report o next ih => exact ih (w.note o)
  | call guard c next ih => exact congrArg (_ :: ·) (ih _ _)

/-- A call that only says what was carried out is refused, or happens as a whole. -/
theorem Work.takes_plain {c : StoreCall} (plain : c.Plain) {guard : Guard} {deadline : Option Nat}
    {w w' : World} {ms : List Moment} {r : Option (Except Failure c.Answer)}
    (took : Program.Takes deadline (askStore guard c) w ms r w') :
    ∃ outcome s', r = some outcome ∧
      ms.map Moment.toStep = [⟨.store c, outcome, w.contents, s'⟩] ∧ w'.contents = s' ∧
      ((∃ failure, outcome = .error failure ∧ s' = w.contents) ∨
        outcome = (w.store.tables.carryOut c).1 ∧
          s' = { w.contents with tables := (w.store.tables.carryOut c).2 }) := by
  obtain ⟨delays, rfl, rfl, rfl⟩ := takes_ask took
  obtain ⟨answered, -⟩ := World.answered { w with delays } deadline guard (.store c)
  refine ⟨_, _, rfl, rfl, rfl, ?_⟩
  rcases answered.plain_cases plain with ⟨failure, -, refused, same⟩ | ⟨done, after⟩
  · exact .inl ⟨failure, refused, same⟩
  · exact .inr ⟨done, after⟩

namespace Unwind

def pendingIds (details : List Detail) : List Int64 :=
  (details.filter fun d => d.state = .pending).map Detail.id

/-- The call that fails the pending details. -/
def update (cause : Failure) (details : List Detail) : StoreCall :=
  .updateDetails (patches cause.message details)

theorem patches_eq (reason : String) (details : List Detail) :
    patches reason details =
      (pendingIds details).map fun id => .settle id .failed (some reason) := by
  rw [patches, pendingIds, List.map_map]
  rfl

theorem patches_eq_nil_iff {reason : String} {details : List Detail} :
    patches reason details = [] ↔ ∀ d ∈ details, d.state ≠ .pending := by
  simp [patches, List.filter_eq_nil_iff]

/-- What an unwinding comes to: its calls, what it hands back, and what is stored then. -/
inductive Leaves (cause : Failure) (details : List Detail) (s : Contents) :
    List Step → Unwound → Contents → Prop
  /-- There is nothing to fail. -/
  | idle (settled : ∀ d ∈ details, d.state ≠ .pending) : Leaves cause details s [] ⟨0, details⟩ s
  /-- The update is refused. -/
  | refused (pending : ∃ d ∈ details, d.state = .pending) (failure : Failure) :
      Leaves cause details s [⟨.store (update cause details), .error failure, s, s⟩]
        ⟨0, details⟩ s
  /-- The details at hand and their rows have failed. -/
  | done (pending : ∃ d ∈ details, d.state = .pending) {s' : Contents}
      (after : s' = { s with tables := { s.tables with
        details := Tables.patchDetails s.tables.details (patches cause.message details) } }) :
      Leaves cause details s [⟨.store (update cause details), .ok (), s, s'⟩]
        ⟨(pendingIds details).length, details.map (Detail.failIfPending cause.message)⟩ s'

/-- Without pending details an unwinding is over at once. -/
theorem run_of_settled (cause : Failure) {details : List Detail}
    (settled : ∀ d ∈ details, d.state ≠ .pending) :
    run cause details = .done ⟨0, details⟩ := by
  unfold run
  rw [patches_of_settled settled]
  rfl

theorem run_of_pending (cause : Failure) {details : List Detail}
    (pending : ∃ d ∈ details, d.state = .pending) :
    run cause details = (Work.outcome (Work.askStore .free (update cause details)) >>=
      fun outcome => conclude cause details (pendingIds details).length outcome) := by
  have some_patch : ¬ (patches cause.message details).isEmpty = true := by
    rw [List.isEmpty_iff, patches_eq_nil_iff]
    obtain ⟨d, mem, state⟩ := pending
    exact fun settled => settled d mem state
  have count : (patches cause.message details).length = (pendingIds details).length := by
    rw [patches_eq, List.length_map]
  unfold run
  simp only
  rw [if_neg some_patch, count]
  rfl

/-- An unwinding always ends, and makes one call at most. -/
theorem takes_run {cause : Failure} {details : List Detail} {deadline : Option Nat} {w w' : World}
    {ms : List Moment} {r : Option Unwound}
    (took : (run cause details).Takes deadline w ms r w') :
    ∃ u, r = some u ∧ Leaves cause details w.contents (ms.map Moment.toStep) u w'.contents := by
  by_cases settled : ∀ d ∈ details, d.state ≠ .pending
  · rw [run_of_settled cause settled] at took
    cases took
    exact ⟨_, rfl, .idle settled⟩
  have pending : ∃ d ∈ details, d.state = .pending := by
    by_contra none
    exact settled fun d mem state => none ⟨d, mem, state⟩
  rw [run_of_pending cause pending] at took
  have plain : (update cause details).Plain := trivial
  rcases took.of_bind with ⟨rfl, died⟩ | ⟨first, rest, outcome, w₁, rfl, asked, concluded⟩
  · obtain ⟨outcome, s', none, -⟩ := Work.takes_plain plain died
    cases none
  obtain ⟨_, s', same, steps, after, ends⟩ := Work.takes_plain plain asked
  cases same
  rw [List.map_append, steps]
  rcases ends with ⟨failure, rfl, rfl⟩ | ⟨rfl, rfl⟩
  · cases concluded with
    | report ended =>
        cases ended
        refine ⟨_, rfl, ?_⟩
        rw [show (World.note _ _).contents = _ from after]
        exact .refused pending failure
  · cases concluded with
    | report ended =>
        cases ended
        refine ⟨_, rfl, ?_⟩
        rw [show (World.note _ _).contents = _ from after]
        exact .done pending rfl

theorem settled_of_failed (reason : String) (details : List Detail) :
    ∀ d ∈ details.map (Detail.failIfPending reason), d.state ≠ .pending := by
  intro d mem
  obtain ⟨before, -, rfl⟩ := List.mem_map.1 mem
  unfold Detail.failIfPending
  split
  · exact fun pending => by cases pending
  next settled => exact settled

/-- An unwinding always ends. Without pending details it calls nothing and changes nothing. If its
one call is refused, it counts nothing, and neither the details at hand nor what is stored change.
Otherwise it counts the pending details; each of them has failed for the cause, at hand and in its
row, where there is one, and is otherwise as it was; all else is as it was; and unwinding the same
details again, for any cause and in any world, changes nothing. -/
theorem settled_together (cause : Failure) (details : List Detail) (deadline : Option Nat)
    (w : World) :
    ∃ u w', (run cause details).run deadline w = (some u, w') ∧
      ((∀ d ∈ details, d.state ≠ .pending) →
        (run cause details).steps deadline w = [] ∧ u.marked = 0 ∧ u.details = details ∧ w' = w) ∧
      ((∃ d ∈ details, d.state = .pending) → ∃ outcome,
        (run cause details).steps deadline w =
          [⟨.store (update cause details), outcome, w.contents, w'.contents⟩] ∧
        (∀ failure, outcome = .error failure →
          u.marked = 0 ∧ u.details = details ∧ w'.contents = w.contents) ∧
        (outcome = .ok () →
          u.marked = (details.filter fun d => d.state = .pending).length ∧
          u.details = details.map (fun d =>
            if d.state = .pending then { d with state := .failed, reason := some cause.message }
            else d) ∧
          w'.contents = { w.contents with
            tables := { w.store.tables with details := w'.store.tables.details } } ∧
          Table.Alters (pendingIds details)
            (fun d => { d with state := .failed, reason := some cause.message })
            w.store.tables.details w'.store.tables.details ∧
          ∀ again deadline' w'', (run again u.details).run deadline' w'' =
            (some ⟨0, u.details⟩, w''))) := by
  have took := Program.takes_run deadline (run cause details) w
  obtain ⟨u, ended, leaves⟩ := takes_run took
  rw [Program.map_timeline] at leaves
  refine ⟨u, _, Prod.ext ended rfl, fun settled => ?_, fun ⟨d, mem, state⟩ => ?_⟩
  · rw [run_of_settled cause settled] at ended ⊢
    cases ended
    exact ⟨rfl, rfl, rfl, rfl⟩
  generalize steps_eq : (run cause details).steps deadline w = steps at leaves
  generalize contents_eq : ((run cause details).run deadline w).2.contents = left at leaves
  cases leaves with
  | idle settled => exact absurd state (settled d mem)
  | refused _ failure =>
      refine ⟨_, rfl, fun _ _ => ⟨rfl, rfl, rfl⟩, fun ok => by cases ok⟩
  | done _ after =>
      have tables : ((run cause details).run deadline w).2.store.tables = left.tables :=
        congrArg Contents.tables contents_eq
      refine ⟨_, rfl, fun _ failed => (by cases failed), fun _ => ⟨?_, rfl, ?_, ?_, ?_⟩⟩
      · exact List.length_map _
      · rw [tables, after]
        rfl
      · rw [tables, after, patches_eq]
        exact Tables.alters_failing cause.message _ _
      · intro again deadline' w''
        rw [run_of_settled again (settled_of_failed cause.message details)]
        rfl

end Unwind

end BalancerFlows
