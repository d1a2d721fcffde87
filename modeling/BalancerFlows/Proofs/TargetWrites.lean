import BalancerFlows.Proofs.Authority
import BalancerFlows.Proofs.LocalOutcomes
import Mathlib.Data.List.TakeWhile

/-!
# What the writes of local jobs do to the inventory

Each of the three writes, as what can be read afterwards under each id. Dropping targets and putting
new ones in always succeeds. Patches are applied one after the other up to the first whose target is
missing, and those before it stay applied. Main statements: `Catalog.updateTargets_eq_patched`, and
`LocalJob.applied_write`, which says that a write that succeeds is done as a whole.
-/
namespace BalancerFlows

namespace Keyed

variable {κ α : Type} [DecidableEq κ]

theorem get?_eraseAll (t : Keyed κ α) (ks : List κ) (key : κ) :
    (ks.foldl erase t).get? key = if key ∈ ks then none else t.get? key := by
  induction ks generalizing t with
  | nil => rfl
  | cons k rest ih =>
      rw [List.foldl_cons, ih]
      by_cases same : k = key
      · subst same
        simp
      · simp [get?_erase_of_ne t same, Ne.symm same]

theorem get?_putAll_of_notMem {key : α → κ} {k : κ} {items : List α}
    (other : k ∉ items.map key) (t : Keyed κ α) :
    (items.foldl (fun t a => t.put (key a) a) t).get? k = t.get? k := by
  induction items generalizing t with
  | nil => rfl
  | cons a rest ih =>
      rw [List.map_cons, List.mem_cons, not_or] at other
      rw [List.foldl_cons, ih other.2, get?_put_of_ne _ (Ne.symm other.1)]

theorem get?_putAll_of_mem {key : α → κ} {a : α} {items : List α}
    (nodup : (items.map key).Nodup) (mem : a ∈ items) (t : Keyed κ α) :
    (items.foldl (fun t a => t.put (key a) a) t).get? (key a) = some a := by
  induction items generalizing t with
  | nil => cases mem
  | cons b rest ih =>
      obtain ⟨new, nodup⟩ := List.nodup_cons.1 nodup
      rw [List.foldl_cons]
      rcases List.mem_cons.1 mem with rfl | mem
      · rw [get?_putAll_of_notMem new, get?_put]
      · exact ih nodup mem _

end Keyed

namespace TargetChange

def apply (change : TargetChange) (t : Target) : Target :=
  (change.patch t).apply t

@[simp] theorem patch_id (change : TargetChange) (t : Target) : (change.patch t).id = t.id := by
  cases change <;> rfl

theorem apply_patch (change : TargetChange) (t u : Target) :
    (change.patch u).apply t = change.apply t := by
  cases change <;> rfl

@[simp] theorem apply_apply (change : TargetChange) (t : Target) :
    change.apply (change.apply t) = change.apply t := by
  cases change <;> rfl

end TargetChange

namespace Catalog

variable (c : Catalog)

/-- The patch changes a target that is there. -/
def Has (p : TargetPatch) : Prop :=
  (c.targets.get? p.id).isSome

instance : DecidablePred c.Has :=
  fun p => inferInstanceAs (Decidable ((c.targets.get? p.id).isSome = true))

/-- The patches before the first whose target is missing. -/
def reached (patches : List TargetPatch) : List TargetPatch :=
  patches.takeWhile fun p => c.Has p

/-- The inventory with all of these patches applied, in order. -/
def patched (patches : List TargetPatch) : Catalog :=
  { c with targets := patches.foldl (fun targets p => targets.update p.id p.apply) c.targets }

theorem has_update (p q : TargetPatch) :
    { c with targets := c.targets.update p.id p.apply }.Has q ↔ c.Has q := by
  unfold Has
  rw [Keyed.get?_update_eq]
  split <;> simp

/-- What comes of patches: those before the first whose target is missing are applied, and its
target is what is complained about. -/
theorem updateTargets_eq_patched (patches : List TargetPatch) :
    c.updateTargets patches =
      (match patches.find? fun p => ¬ c.Has p with
        | none => .ok ()
        | some p => .error (missingTarget p.id),
      c.patched (c.reached patches)) := by
  induction patches generalizing c with
  | nil => rfl
  | cons p rest ih =>
      unfold updateTargets
      cases found : c.targets.get? p.id with
      | none =>
          have missing : ¬ c.Has p := by simp [Has, found]
          simp [reached, missing, patched]
      | some t =>
          have there : c.Has p := by simp [Has, found]
          rw [ih]
          simp [reached, there, patched, has_update]

theorem has_of_updateTargets {patches : List TargetPatch}
    (done : (c.updateTargets patches).1 = .ok ()) : ∀ p ∈ patches, c.Has p := by
  rw [updateTargets_eq_patched] at done
  cases missed : patches.find? fun p => ¬ c.Has p with
  | some p =>
      simp only [missed] at done
      cases done
  | none => simpa using List.find?_eq_none.1 missed

variable {c} in
theorem reached_of_has {patches : List TargetPatch} (all : ∀ p ∈ patches, c.Has p) :
    c.reached patches = patches :=
  List.takeWhile_eq_self_iff.2 fun p mem => decide_eq_true (all p mem)

variable {c} in
theorem reached_append {before : List TargetPatch} (all : ∀ p ∈ before, c.Has p)
    {p : TargetPatch} (missing : ¬ c.Has p) (rest : List TargetPatch) :
    c.reached (before ++ p :: rest) = before := by
  unfold reached
  rw [List.takeWhile_append_of_pos fun q mem => decide_eq_true (all q mem)]
  simp [missing]

/-- Patches fail at the first one whose target is missing, after those before it were applied. -/
theorem updateTargets_of_error {patches : List TargetPatch} {failure : Failure}
    (failed : (c.updateTargets patches).1 = .error failure) : ∃ before p rest,
      patches = before ++ p :: rest ∧ (∀ q ∈ before, c.Has q) ∧ ¬ c.Has p ∧
        failure = missingTarget p.id ∧ (c.updateTargets patches).2 = c.patched before := by
  rw [updateTargets_eq_patched] at failed
  cases missed : patches.find? fun p => ¬ c.Has p with
  | none =>
      simp only [missed] at failed
      cases failed
  | some p =>
      simp only [missed, Except.error.injEq] at failed
      obtain ⟨missing, before, rest, rfl, all⟩ := List.find?_eq_some_iff_append.1 missed
      have all : ∀ q ∈ before, c.Has q := by simpa using all
      have missing : ¬ c.Has p := by simpa using missing
      refine ⟨before, p, rest, rfl, all, missing, failed.symm, ?_⟩
      rw [updateTargets_eq_patched, reached_append all missing]

/-- The inventory after a change of just these targets. -/
structure Changed (change : TargetChange) (targets : List Target) (c c' : Catalog) : Prop where
  others : c' = { c with targets := c'.targets }
  targets : ∀ id, c'.targets.get? id =
    if id ∈ targets.map Target.id then (c.targets.get? id).map change.apply
    else c.targets.get? id

theorem changed_patched (change : TargetChange) (targets : List Target) :
    Changed change targets c (c.patched (targets.map change.patch)) where
  others := rfl
  targets := by
    intro id
    simp only [patched, List.foldl_map, TargetChange.patch_id]
    generalize c.targets = stored
    induction targets generalizing stored with
    | nil => rfl
    | cons t rest ih =>
        rw [List.foldl_cons, ih, Keyed.get?_update_eq]
        have same : (change.patch t).apply = change.apply :=
          funext fun u => change.apply_patch u t
        by_cases here : t.id = id
        · subst here
          cases stored.get? t.id <;> simp [same]
        · simp [here, Ne.symm here]

theorem nthName_injective {m n : UInt64} (same : nthName m = nthName n) : m = n := by
  have texts : toString m.toNat = toString n.toNat := by
    simpa [nthName, String.append_right_inj] using same
  rw [Nat.toString_eq_ofList_toDigits, Nat.toString_eq_ofList_toDigits] at texts
  have digits := String.ofList_injective texts
  rw [← UInt64.toNat_inj, ← Nat.ofDigitChars_ten_toDigits (n := m.toNat), digits,
    Nat.ofDigitChars_ten_toDigits]

/-- The number of the `k`-th target, from 0, that is named behind the number `named`. -/
def numberAfter (named : UInt64) (k : Nat) : UInt64 :=
  named + .ofNat (k + 1)

theorem numberAfter_add (named : UInt64) (j k : Nat) :
    numberAfter (named + .ofNat j) k = numberAfter named (j + k) := by
  unfold numberAfter
  rw [UInt64.add_assoc, ← UInt64.ofNat_add, Nat.add_assoc]

/-- Numbers repeat only after all of them were given. -/
theorem numberAfter_injective {named : UInt64} {j k : Nat} (j_lt : j < UInt64.size)
    (k_lt : k < UInt64.size) (same : numberAfter named j = numberAfter named k) : j = k := by
  have numbers := (UInt64.add_right_inj named).1 same
  rw [UInt64.ofNat_add, UInt64.ofNat_add, UInt64.add_left_inj, ← UInt64.toNat_inj,
    UInt64.toNat_ofNat_of_lt' j_lt, UInt64.toNat_ofNat_of_lt' k_lt] at numbers
  exact numbers

/-- The target that a new one becomes under that number. -/
def settled (n : NewTarget) (number : UInt64) : Target :=
  { id := nthName number, group := n.group, instanceId := n.instanceId, ip := n.ip, port := n.port
    weight := n.weight }

theorem nameTargets_eq (named : UInt64) (news : List NewTarget) :
    nameTargets named news = news.mapIdx fun k n => settled n (numberAfter named k) := by
  induction news generalizing named with
  | nil => rfl
  | cons n rest ih =>
      have shift : ∀ k, numberAfter (named + 1) k = numberAfter named (k + 1) := by
        intro k
        rw [Nat.add_comm k 1]
        exact numberAfter_add named 1 k
      rw [nameTargets, ih, List.mapIdx_cons]
      simp only [shift]
      rfl

theorem names_nameTargets (named : UInt64) (news : List NewTarget) :
    (nameTargets named news).map Target.id =
      (List.range news.length).map fun k => nthName (numberAfter named k) := by
  rw [nameTargets_eq, List.mapIdx_eq_zipIdx_map, List.map_map, List.range_eq_range',
    ← List.zipIdx_map_snd, List.map_map]
  rfl

theorem names_nodup (named : UInt64) {news : List NewTarget}
    (few : news.length ≤ UInt64.size) : ((nameTargets named news).map Target.id).Nodup := by
  rw [names_nameTargets]
  apply List.Nodup.map_on _ List.nodup_range
  intro j j_mem k k_mem same
  have j_lt := Nat.lt_of_lt_of_le (List.mem_range.1 j_mem) few
  have k_lt := Nat.lt_of_lt_of_le (List.mem_range.1 k_mem) few
  exact numberAfter_injective j_lt k_lt (nthName_injective same)

theorem targets_createTargets (news : List NewTarget) : (c.createTargets news).2.targets =
    (c.createTargets news).1.foldl (fun t a => t.put a.id a) c.targets := by
  have same : ∀ (created : List Target) (c : Catalog), (created.foldl insertTarget c).targets =
      created.foldl (fun t a => t.put a.id a) c.targets := by
    intro created
    induction created with
    | nil => exact fun _ => rfl
    | cons t rest ih => exact fun c => ih (c.insertTarget t)
  exact same _ c

theorem mem_names {named : UInt64} {news : List NewTarget} {id : String} :
    id ∈ (nameTargets named news).map Target.id ↔
      ∃ k < news.length, id = nthName (numberAfter named k) := by
  rw [names_nameTargets]
  simp only [List.mem_map, List.mem_range, eq_comm]

/-- The inventory after these targets were put in under the names that follow. -/
structure Added (news : List NewTarget) (c c' : Catalog) : Prop where
  others : c' = { c with targets := c'.targets, named := c.named + .ofNat news.length }
  created : ∀ k n, news[k]? = some n → c'.targets.get? (nthName (numberAfter c.named k)) =
    some (settled n (numberAfter c.named k))
  kept : ∀ id, (∀ k < news.length, id ≠ nthName (numberAfter c.named k)) →
    c'.targets.get? id = c.targets.get? id

/-- No two of the new targets get the same name, as there are no more of them than numbers. -/
theorem added_createTargets {news : List NewTarget} (few : news.length ≤ UInt64.size) :
    Added news c (c.createTargets news).2 where
  others := by
    obtain ⟨targets, named, same⟩ := c.perform_snd (.createTargets news)
    have here : (c.createTargets news).2 = { c with targets, named } := same
    have count : (c.createTargets news).2.named = c.named + .ofNat news.length := rfl
    rw [here] at count ⊢
    exact congrArg (fun named => { c with targets, named }) count
  created := by
    intro k n listed
    rw [targets_createTargets]
    refine Keyed.get?_putAll_of_mem (a := settled n (numberAfter c.named k))
      (names_nodup c.named few) ?_ _
    show _ ∈ nameTargets c.named news
    rw [nameTargets_eq]
    exact List.mem_of_getElem? (by rw [List.getElem?_mapIdx, listed]; rfl)
  kept := by
    intro id other
    rw [targets_createTargets]
    refine Keyed.get?_putAll_of_notMem (fun mem => ?_) _
    obtain ⟨k, bound, same⟩ := mem_names.1 mem
    exact other k bound same

end Catalog

namespace LocalJob

/-- The write of the job is done as a whole. -/
def Applied : LocalJob → Catalog → Catalog → Prop
  | remove _ targets, c, c' => c' = { c with targets := c'.targets } ∧
      ∀ id, c'.targets.get? id =
        if id ∈ targets.map Target.id then none else c.targets.get? id
  | modify _ change targets, c, c' => (∀ t ∈ targets, (c.targets.get? t.id).isSome) ∧
      c.Changed change targets c'
  | add group specs, c, c' => c.Added (specs.map (LocalChange.newTarget group)) c'

/-- The job adds no more targets than there are numbers for. -/
def Nameable : LocalJob → Prop
  | add _ specs => specs.length ≤ UInt64.size
  | remove .. | modify .. => True

theorem nameable_of_params {job : LocalJob} (few : job.params.length ≤ UInt64.size) :
    job.Nameable := by
  cases job with
  | add group specs => rwa [params, List.length_map] at few
  | _ => trivial

theorem applied_write {job : LocalJob} (nameable : job.Nameable) {c : Catalog}
    {answer : job.write.Answer} (done : (c.perform job.write).1 = .ok answer) :
    job.Applied c (c.perform job.write).2 := by
  cases job with
  | remove group targets => exact ⟨rfl, Keyed.get?_eraseAll c.targets (targets.map Target.id)⟩
  | add group specs =>
      have few : (specs.map (LocalChange.newTarget group)).length ≤ UInt64.size := by
        rwa [List.length_map]
      exact c.added_createTargets few
  | modify group change targets =>
      have all := c.has_of_updateTargets done
      refine ⟨fun t mem => ?_, ?_⟩
      · simpa [Catalog.Has] using all _ (List.mem_map_of_mem mem)
      · show c.Changed change targets (c.updateTargets (targets.map change.patch)).2
        rw [c.updateTargets_eq_patched, Catalog.reached_of_has all]
        exact c.changed_patched change targets

end LocalJob

end BalancerFlows
