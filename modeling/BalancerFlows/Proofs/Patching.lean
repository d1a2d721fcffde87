import BalancerFlows.Proofs.Effects

/-!
# What patches make of the details

Patches are applied one after the other, each to the row it names. What becomes of a row depends
only on the patches that name it, and of these, for each field, only on the last one that sets it.
So lists of patches that agree in this, row by row, make the same of a table
(`Tables.patchDetails_congr`), and that a list may be applied twice or put in another order are
cases of it. Main statement: `updates_by_field`.
-/
namespace BalancerFlows

namespace DetailPatch

section

variable {β : Type} (field : DetailPatch → Option β)

/-- The value that the last of the patches to set a field gives it. -/
def lastSet (patches : List DetailPatch) : Option β :=
  (patches.filterMap field).getLast?

theorem lastSet_cons (p : DetailPatch) (patches : List DetailPatch) :
    lastSet field (p :: patches) = (lastSet field patches).or (field p) := by
  unfold lastSet
  cases set : field p with
  | none => rw [List.filterMap_cons_none set, Option.or_none]
  | some value =>
      rw [List.filterMap_cons_some set, List.getLast?_cons]
      cases (patches.filterMap field).getLast? <;> rfl

end

/-- The patches of one detail. -/
def naming (id : Int64) (patches : List DetailPatch) : List DetailPatch :=
  patches.filter fun p => p.id = id

theorem naming_cons (id : Int64) (p : DetailPatch) (patches : List DetailPatch) :
    naming id (p :: patches) =
      if p.id = id then p :: naming id patches else naming id patches := by
  simp only [naming, List.filter_cons, decide_eq_true_eq]

theorem naming_append (id : Int64) (patches others : List DetailPatch) :
    naming id (patches ++ others) = naming id patches ++ naming id others :=
  List.filter_append ..

theorem naming_filter_ne (id other : Int64) (patches : List DetailPatch) :
    naming other (patches.filter fun p => p.id ≠ id) =
      if other = id then [] else naming other patches := by
  unfold naming
  rw [List.filter_filter]
  split
  next same => simp [same]
  next apart =>
    apply List.filter_congr
    intro p _
    by_cases own : p.id = other
    · simp [own, apart]
    · simp [own]

/-- The detail with each field that some of the patches set at the value that the last of these
gives it. -/
def overwrite (patches : List DetailPatch) (d : Detail) : Detail :=
  { d with
    flow := (lastSet flow patches).or d.flow
    action := (lastSet action patches).or d.action
    state := (lastSet state patches).getD d.state
    reason := (lastSet reason patches).or d.reason }

@[simp] theorem overwrite_nil (d : Detail) : overwrite [] d = d := rfl

@[simp] theorem overwrite_cons (p : DetailPatch) (patches : List DetailPatch) (d : Detail) :
    overwrite (p :: patches) d = overwrite patches (p.apply d) := by
  simp only [overwrite, apply, lastSet_cons, Option.or_assoc, Option.getD_or,
    Option.orElse_eq_orElse, Option.orElse_eq_or]

theorem overwrite_append (patches others : List DetailPatch) (d : Detail) :
    overwrite (patches ++ others) d = overwrite others (overwrite patches d) := by
  induction patches generalizing d with
  | nil => rfl
  | cons p patches ih => rw [List.cons_append, overwrite_cons, overwrite_cons, ih]

theorem overwrite_overwrite (patches : List DetailPatch) (d : Detail) :
    overwrite patches (overwrite patches d) = overwrite patches d := by
  simp [overwrite, ← Option.or_assoc, ← Option.getD_or]

/-- A binding and a settlement set different fields. -/
theorem settle_bindingPatch_comm (b d : Detail) (id : Int64) (state : DetailState)
    (reason : Option String) :
    (settle id state reason).apply (b.bindingPatch.apply d) =
      b.bindingPatch.apply ((settle id state reason).apply d) := by
  rfl

end DetailPatch

namespace Tables

open DetailPatch

theorem patchDetails_append (details : Table Detail) (patches others : List DetailPatch) :
    patchDetails details (patches ++ others) = patchDetails (patchDetails details patches) others :=
  List.foldl_append

/-- Each row comes to what the patches that name it make of it. -/
theorem get?_patchDetails_eq (details : Table Detail) (patches : List DetailPatch) (id : Int64) :
    (patchDetails details patches).get? id =
      (details.get? id).map (overwrite (naming id patches)) := by
  induction patches generalizing details with
  | nil =>
      have same : overwrite (naming id []) = fun d => d := rfl
      rw [same, Option.map_id']
      rfl
  | cons p patches ih =>
      show (patchDetails (details.update p.id p.apply) patches).get? id = _
      rw [ih, Table.get?_update_eq]
      rw [naming_cons]
      by_cases own : p.id = id
      · rw [if_pos own, if_pos own, Option.map_map]
        congr 1
        funext d
        rw [overwrite_cons]
        rfl
      · rw [if_neg own, if_neg own]

/-- The first row of a table gets its own patches, and the rows behind it get the others. -/
theorem rows_patchDetails_cons (id : Int64) (d : Detail) (rest : Keyed Int64 Detail) (created : Nat)
    (patches : List DetailPatch) :
    (patchDetails ⟨(id, d) :: rest, created⟩ patches).rows =
      (id, overwrite (naming id patches) d) ::
        (patchDetails ⟨rest, created⟩ (patches.filter fun p => p.id ≠ id)).rows := by
  induction patches generalizing d rest with
  | nil => rfl
  | cons p patches ih =>
      show (patchDetails ((Table.mk ((id, d) :: rest) created).update p.id p.apply) patches).rows =
        _
      rw [naming_cons]
      by_cases own : p.id = id
      · have here : (Table.mk ((id, d) :: rest) created).update p.id p.apply =
            ⟨(id, p.apply d) :: rest, created⟩ := by
          simp [Table.update, Keyed.update, own]
        rw [here, ih, if_pos own, overwrite_cons, List.filter_cons_of_neg (by simpa using own)]
      · have behind : (Table.mk ((id, d) :: rest) created).update p.id p.apply =
            ⟨(id, d) :: rest.update p.id p.apply, created⟩ := by
          simp [Table.update, Keyed.update, Ne.symm own]
        rw [behind, ih, if_neg own, List.filter_cons_of_pos (by simpa using own)]
        rfl

/-- Patches that make the same of each row make the same of a table. -/
theorem patchDetails_congr {details : Table Detail} {patches others : List DetailPatch}
    (same : ∀ id ∈ details.rows.keys, ∀ d,
      overwrite (naming id patches) d = overwrite (naming id others) d) :
    patchDetails details patches = patchDetails details others := by
  obtain ⟨rows, created⟩ := details
  have all : (patchDetails ⟨rows, created⟩ patches).rows =
      (patchDetails ⟨rows, created⟩ others).rows := by
    induction rows generalizing patches others with
    | nil =>
        have none : ∀ ps, (patchDetails ⟨[], created⟩ ps).rows = [] := by
          intro ps
          have keys := keys_patchDetails ⟨[], created⟩ ps
          exact List.map_eq_nil_iff.1 keys
        rw [none, none]
    | cons row rest ih =>
        obtain ⟨id, d⟩ := row
        have first := same id List.mem_cons_self d
        have behind : (patchDetails ⟨rest, created⟩ (patches.filter fun p => p.id ≠ id)).rows =
            (patchDetails ⟨rest, created⟩ (others.filter fun p => p.id ≠ id)).rows := by
          apply ih
          intro other mem d
          rw [naming_filter_ne, naming_filter_ne]
          split
          next => rfl
          next => exact same other (List.mem_cons_of_mem id mem) d
        rw [rows_patchDetails_cons, rows_patchDetails_cons, first, behind]
  have count : (patchDetails ⟨rows, created⟩ patches).created =
      (patchDetails ⟨rows, created⟩ others).created := by
    rw [patchDetails_created, patchDetails_created]
  exact congrArg₂ Table.mk all count

theorem patchDetails_known (details : Table Detail) (patches : List DetailPatch) :
    patchDetails details (patches.filter fun p => p.id ∈ details.rows.keys) =
      patchDetails details patches := by
  apply patchDetails_congr
  intro id known d
  have same : naming id (patches.filter fun p => p.id ∈ details.rows.keys) =
      naming id patches := by
    unfold naming
    rw [List.filter_filter]
    apply List.filter_congr
    intro p _
    by_cases own : p.id = id
    · simp [own, known]
    · simp [own]
  rw [same]

theorem patchDetails_twice (details : Table Detail) (patches : List DetailPatch) :
    patchDetails (patchDetails details patches) patches = patchDetails details patches := by
  rw [← patchDetails_append]
  apply patchDetails_congr
  intro id _ d
  rw [naming_append, overwrite_append, overwrite_overwrite]

/-- The order matters only among the patches of one detail. -/
theorem patchDetails_reordered (details : Table Detail) {patches others : List DetailPatch}
    (same : ∀ id, naming id patches = naming id others) :
    patchDetails details patches = patchDetails details others := by
  apply patchDetails_congr
  intro id _ d
  rw [same]

/-- Next to each other, a binding and a settlement of one detail may change places. -/
theorem patchDetails_swap (details : Table Detail) (before after : List DetailPatch) (d : Detail)
    (state : DetailState) (reason : Option String) :
    patchDetails details (before ++ d.bindingPatch :: .settle d.id state reason :: after) =
      patchDetails details (before ++ .settle d.id state reason :: d.bindingPatch :: after) := by
  apply patchDetails_congr
  intro id _ old
  rw [naming_append, naming_append, overwrite_append, overwrite_append]
  rw [naming_cons, naming_cons, naming_cons, naming_cons]
  by_cases own : d.id = id
  · have binds : d.bindingPatch.id = id := own
    have settles : (settle d.id state reason).id = id := own
    simp only [if_pos binds, if_pos settles, overwrite_cons, settle_bindingPatch_comm]
  · have binds : d.bindingPatch.id ≠ id := own
    have settles : (settle d.id state reason).id ≠ id := own
    simp only [if_neg binds, if_neg settles]

end Tables

namespace Store

/-- No failure rule hits the call. -/
def Admits (s : Store) (c : StoreCall) : Prop :=
  ∀ op, c.op? = some op → (s.countCall op).refusal? op = none

theorem Admits.attempt {s : Store} {c : StoreCall} (h : s.Admits c) :
    (s.attempt c).1 = (s.tables.carryOut c).1 ∧
      (s.attempt c).2.tables = (s.tables.carryOut c).2 := by
  unfold Store.attempt
  split
  next => exact ⟨rfl, rfl⟩
  next op kind =>
    simp only [h op kind]
    exact ⟨rfl, rfl⟩

/-- An update that was made changes nothing when it is made again, carried out or refused. -/
theorem updateDetails_again {s : Store} {patches : List DetailPatch}
    (made : Tables.patchDetails s.tables.details patches = s.tables.details) :
    (s.perform (.updateDetails patches)).2.tables = s.tables := by
  show (s.attempt (.updateDetails patches)).2.tables = s.tables
  rcases s.attempt_cases (.updateDetails patches) with ⟨_, _, -, refused⟩ | ⟨_, done⟩
  · rw [refused]
  · rw [done]
    simp only [Tables.carryOut, made]

end Store

/-- What a list of patches makes of the details: of each row, field by field, and of the table. What
is written twice stays, and the order matters only among the patches of one detail, where a binding
and a settlement next to each other may still change places. -/
structure Patched (details : Table Detail) (patches : List DetailPatch) : Prop where
  row : ∀ id, (Tables.patchDetails details patches).get? id =
    (details.get? id).map (DetailPatch.overwrite (DetailPatch.naming id patches))
  keys : (Tables.patchDetails details patches).rows.keys = details.rows.keys
  created : (Tables.patchDetails details patches).created = details.created
  known : Tables.patchDetails details (patches.filter fun p => p.id ∈ details.rows.keys) =
    Tables.patchDetails details patches
  twice : Tables.patchDetails (Tables.patchDetails details patches) patches =
    Tables.patchDetails details patches
  reordered : ∀ others : List DetailPatch,
    (∀ id, DetailPatch.naming id patches = DetailPatch.naming id others) →
      Tables.patchDetails details patches = Tables.patchDetails details others
  swapped : ∀ before after (d : Detail) state reason,
    patches = before ++ d.bindingPatch :: .settle d.id state reason :: after →
      Tables.patchDetails details patches =
        Tables.patchDetails details (before ++ .settle d.id state reason :: d.bindingPatch :: after)

theorem patched (details : Table Detail) (patches : List DetailPatch) :
    Patched details patches where
  row := Tables.get?_patchDetails_eq details patches
  keys := Tables.keys_patchDetails details patches
  created := Tables.patchDetails_created details patches
  known := Tables.patchDetails_known details patches
  twice := Tables.patchDetails_twice details patches
  reordered _ same := Tables.patchDetails_reordered details same
  swapped before after d state reason same := by
    rw [same]
    exact Tables.patchDetails_swap details before after d state reason

/-- An update that no failure rule hits succeeds, leaves all tables but that of the details alone,
and gives each field of a detail the value of the last patch of this detail that sets it. Making it
again, at any later time at which the rows are still the same, changes nothing. -/
theorem updates_by_field {s : Store} {patches : List DetailPatch}
    (admits : s.Admits (.updateDetails patches)) :
    (s.perform (.updateDetails patches)).1 = .ok () ∧
      (s.perform (.updateDetails patches)).2.tables =
        { s.tables with details := Tables.patchDetails s.tables.details patches } ∧
      Patched s.tables.details patches ∧
      ∀ later : Store, later.tables = (s.perform (.updateDetails patches)).2.tables →
        (later.perform (.updateDetails patches)).2.tables = later.tables := by
  obtain ⟨answer, tables⟩ := admits.attempt
  refine ⟨answer, tables, patched _ _, fun later same => ?_⟩
  apply Store.updateDetails_again
  have details : later.tables.details = Tables.patchDetails s.tables.details patches := by
    rw [same]
    exact congrArg Tables.details tables
  rw [details]
  exact Tables.patchDetails_twice _ _

/-- Two details, and a rule that hits the second update from now on. -/
def twoDetails : Store :=
  { tables := { details := (({} : Table Detail).addAll (List.replicate 2 (NewDetail.store
      { batch := 1, business := 7, operation := .removeTarget, param := .null }))).2 }
    faults := ({} : Faults).refuseNth .updateDetails 2 "gone" }

/-- The first detail is bound twice and failed in between; the other patch names no detail. -/
def fourPatches : List DetailPatch :=
  [{ id := 1, flow := some 5, action := some ⟨"1"⟩ }, .settle 1 .failed (some "boom"),
    { id := 9, flow := some 5 }, { id := 1, flow := some 6 }]

theorem updates_by_field_fourPatches :
    twoDetails.Admits (.updateDetails fourPatches) ∧
      (twoDetails.perform (.updateDetails fourPatches)).2.tables.details.get? 1 =
        some { id := 1, batch := 1, business := 7, operation := .removeTarget, param := .null
               flow := some 6, action := some ⟨"1"⟩, state := .failed, reason := some "boom" } ∧
      (twoDetails.perform (.updateDetails fourPatches)).2.tables.details.get? 2 =
        twoDetails.tables.details.get? 2 := by
  have admits : twoDetails.Admits (.updateDetails fourPatches) := by
    intro op kind
    cases kind
    decide +kernel
  obtain ⟨-, tables, fields, -⟩ := updates_by_field admits
  rw [tables]
  refine ⟨admits, (fields.row 1).trans ?_, (fields.row 2).trans ?_⟩
  · decide +kernel
  · decide +kernel

end BalancerFlows
