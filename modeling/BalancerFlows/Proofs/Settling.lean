import BalancerFlows.Batch.Submission
import BalancerFlows.Proofs.Holding

/-!
# Local changes keep to the terms

A local change creates its details, changes the catalog, and settles the details. What it does to
the catalog is of no concern to the store. Main statement: `Submission.keeps_runLocalJob`, by which
the details of a local job end as successes that belong to no flow, or fail with what stopped it.
-/
namespace BalancerFlows

/-- Work that asks the store for nothing. -/
def Work.Quiet {α : Type} (T : Terms) (w : Work α) : Prop :=
  ∀ P : Own → Tables → Prop, T.Stable P → ∀ o t, P o t → Program.Keeps T (fun _ => P) w o t

namespace LocalChange

/-- What settling details without a flow leads to. -/
def Settled (T : Terms) : Except Failure (List Int64) → Own → Tables → Prop
  | .ok ids, o, t => o.details = ids ∧ ∀ id ∈ ids, ∃ d,
      t.details.get? id = some d ∧ d.state = .success ∧ d.flow = none
  | .error failure, o, t => Fallen T failure o t

/-- What carrying out a change leads to, before it is concluded. -/
def AfterChange (T : Terms) (details : List Detail) :
    Except Failure (List Detail) → Own → Tables → Prop
  | .ok settled, o, t => Stored settled o t ∧
      ∀ d ∈ settled, d.state = .success ∧ d.flow = none
  | .error _, o, t => Unfinished T details o t

theorem quiet_call {T : Terms} (c : CatalogCall) : (call c).Quiet T :=
  fun _ stable o t h _ t' rely => stable o t t' rely h

variable {T : Terms} {claims : ResourceKey → Prop} (hosts : T.Hosts claims)
include hosts

theorem stable_settled (outcome : Except Failure (List Int64)) :
    T.Stable (Settled T outcome) := by
  intro o t t' rely h
  cases outcome with
  | error failure => exact stable_fallen hosts failure o t t' rely h
  | ok ids =>
      refine ⟨h.1, fun id mem => ?_⟩
      rw [(hosts.undisturbed rely).details id (h.1 ▸ mem)]
      exact h.2 id mem

theorem stable_afterChange (details : List Detail) (outcome : Except Failure (List Detail)) :
    T.Stable (AfterChange T details outcome) := by
  intro o t t' rely h
  cases outcome with
  | error failure => exact stable_unfinished hosts details o t t' rely h
  | ok settled => exact h.imp_left (stable_stored hosts settled o t t' rely)

theorem keeps_updateSuccess {batch : Int64} {details : List Detail}
    (opened : ∀ d ∈ details, d.Open batch) {o : Own} {t : Tables} (stored : Stored details o t)
    (first : o.flows = []) (guard : Guard) :
    Program.Keeps T (fun r => AfterChange T details (r.map fun _ => details.map Detail.succeed))
      (Work.askStore guard (.updateDetails
        (details.map fun d => .settle d.id .success none))) o t := by
  have pending : ∀ d ∈ details, d.state = .pending := fun d mem => (opened d mem).state
  have stable : T.Stable fun o t => Stored details o t ∧ o.flows = [] :=
    fun o t t' rely h => h.imp_left (stable_stored hosts _ o t t' rely)
  apply Work.keeps_plain hosts (c := .updateDetails _) trivial stable
    (fun _ => stable_afterChange hosts details _) ⟨stored, first⟩
  · intro failure t held refused
    exact ⟨⟨details, held.1, rfl⟩, pending, by simp [Unrun, held.2]⟩
  · intro t held numbered numbered'
    obtain ⟨stored, first⟩ := held
    have settled := Stored.patch details id
      (fun d => .settle d.id .success none) (fun _ _ => rfl) (by simpa using stored)
    have rows : (details.map fun d => (DetailPatch.settle d.id .success none).apply (id d)) =
        details.map Detail.succeed := by
      apply List.map_congr_left
      intro d _
      simp [DetailPatch.apply, DetailPatch.settle, Detail.succeed]
    rw [rows] at settled
    rw [Tables.carryOut, Own.grow_patched]
    refine ⟨.outcomes _ (by simp [Own.Hidden, first]) fun p mem => ?_, settled, fun d mem => ?_⟩
    · obtain ⟨d, d_mem, rfl⟩ := List.mem_map.1 mem
      exact ⟨stored.own ▸ List.mem_map_of_mem d_mem, rfl, rfl⟩
    · obtain ⟨d, d_mem, rfl⟩ := List.mem_map.1 mem
      exact ⟨rfl, (opened d d_mem).flow⟩

theorem keeps_writeSuccess {batch : Int64} {details : List Detail}
    (opened : ∀ d ∈ details, d.Open batch) {o : Own} {t : Tables} (stored : Stored details o t)
    (first : o.flows = []) :
    Program.Keeps T (AfterChange T details) (Detail.writeSuccess details) o t := by
  have stable := stable_afterChange hosts details
  apply Work.keeps_bind stable (keeps_updateSuccess hosts opened stored first _)
  · intro failure o t changed
    exact changed
  · intro _ o t changed
    exact Program.keeps_done (stable (.ok _)) changed

theorem keeps_carryOut {write : Work Unit} (quiet : write.Quiet T) {batch : Int64}
    {details : List Detail} (opened : ∀ d ∈ details, d.Open batch) {o : Own} {t : Tables}
    (stored : Stored details o t) (first : o.flows = []) :
    Program.Keeps T (AfterChange T details) (carryOut write details) o t := by
  have stable : T.Stable fun o t => Stored details o t ∧ o.flows = [] :=
    fun o t t' rely h => h.imp_left (stable_stored hosts _ o t t' rely)
  unfold carryOut
  apply Work.keeps_bind (stable_afterChange hosts details)
    (quiet _ stable o t ⟨stored, first⟩)
  · intro failure o t held
    exact ⟨⟨details, held.1, rfl⟩, fun d mem => (opened d mem).state, by simp [Unrun, held.2]⟩
  · intro _ o t held
    exact keeps_writeSuccess hosts opened held.1 held.2

theorem keeps_conclude {details : List Detail} {outcome : Except Failure (List Detail)} {o : Own}
    {t : Tables} (h : AfterChange T details outcome o t) :
    Program.Keeps T (Settled T) (conclude details outcome) o t := by
  cases outcome with
  | ok settled =>
      obtain ⟨stored, success⟩ := h
      have result : Settled T (.ok (settled.map Detail.id)) o t := by
        refine ⟨stored.own, fun id mem => ?_⟩
        obtain ⟨d, d_mem, rfl⟩ := List.mem_map.1 mem
        exact ⟨d, stored.get? d d_mem, success d d_mem⟩
      exact fun t' rely => stable_settled hosts _ o t t' rely result
  | error failure =>
      have nothing : T.Stable fun _ _ => True := fun _ _ _ _ => id
      apply (keeps_unwind hosts nothing (fun _ _ _ => id) failure h trivial).bind
      intro unwound o t fallen t' rely
      exact stable_settled hosts (.error failure) o t t' rely fallen.1

theorem keeps_settle {write : Work Unit} (quiet : write.Quiet T) (scope : DetailScope)
    (params : List Json) (t : Tables) :
    Program.Keeps T (Settled T) (settle scope params write) {} t := by
  have empty : Stored [] {} t := ⟨rfl, by simp, by simp⟩
  unfold settle
  apply Program.keeps_within.2
  split
  · exact Program.keeps_done (stable_settled hosts (.ok [])) ⟨rfl, by simp⟩
  · apply Work.keeps_bind (stable_settled hosts) (keeps_create hosts scope params empty rfl)
    · intro failure o t created
      obtain ⟨stored, first, -⟩ := created
      constructor
      · simp [Unrun, first]
      · simp [stored.own]
    · intro details o t created
      obtain ⟨stored, first, -, new⟩ := created
      have opened : ∀ d ∈ details, d.Open scope.batch := fun d mem => (new d mem).1
      apply (keeps_carryOut hosts quiet opened stored first).bind
      intro outcome o t changed
      exact keeps_conclude hosts changed

theorem keeps_refusal (failure : Failure) (t : Tables) :
    Program.Keeps T (Settled T) (Program.done (.error failure)) {} t := by
  have fallen : Fallen T failure {} t := ⟨by simp [Unrun], by simp⟩
  exact Program.keeps_done (stable_settled hosts (.error failure)) fallen

theorem keeps_check {α : Type} (check : Except Failure α) {next : α → Work (List Int64)}
    {t : Tables} (h : ∀ a, Program.Keeps T (Settled T) (next a) {} t) :
    Program.Keeps T (Settled T) (Work.ofExcept check >>= next : Work (List Int64)) {} t := by
  cases check with
  | error failure => exact keeps_refusal hosts failure t
  | ok a => exact h a

theorem keeps_removeTargets (scope : DetailScope) (targets : List Target) (t : Tables) :
    Program.Keeps T (Settled T) (removeTargets scope targets) {} t :=
  keeps_settle hosts (quiet_call _) scope _ t

theorem keeps_modifyTargets (scope : DetailScope) (change : TargetChange) (targets : List Target)
    (t : Tables) : Program.Keeps T (Settled T) (modifyTargets scope change targets) {} t := by
  unfold modifyTargets
  refine keeps_check hosts change.check fun _ => ?_
  split
  · exact keeps_refusal hosts _ t
  · exact keeps_settle hosts (quiet_call _) scope _ t

theorem keeps_addTargets (scope : DetailScope) (group : String) (specs : List TargetSpec)
    (t : Tables) : Program.Keeps T (Settled T) (addTargets scope group specs) {} t := by
  unfold addTargets
  refine keeps_check hosts _ fun _ => keeps_check hosts _ fun _ => ?_
  refine keeps_settle hosts ?_ scope _ t
  intro P stable o t h outcome
  cases outcome with
  | error failure => exact fun t' rely => stable o t t' rely h
  | ok created => exact fun t' rely => stable o t t' rely h

end LocalChange

/-- The details of a local job end as successes without a flow, or fail with what stopped it. -/
theorem Submission.keeps_runLocalJob {T : Terms} {claims : ResourceKey → Prop}
    (hosts : T.Hosts claims) (scope : DetailScope) (job : LocalJob) (t : Tables) :
    Program.Keeps T (LocalChange.Settled T) (runLocalJob scope job) {} t := by
  cases job with
  | remove group targets => exact LocalChange.keeps_removeTargets hosts scope targets t
  | modify group change targets =>
      exact LocalChange.keeps_modifyTargets hosts scope change targets t
  | add group specs => exact LocalChange.keeps_addTargets hosts scope group specs t

end BalancerFlows
