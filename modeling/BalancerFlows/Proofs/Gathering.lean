import BalancerFlows.Proofs.Rows
import Mathlib.Data.List.Induction
import Mathlib.Data.List.Perm.Basic

/-!
# Gathered items

Gathering sorts items into groups and loses none: each key comes once, in the order of the first
items, a group has all items of its key in their order, and all groups together are the items,
reordered.
-/
namespace BalancerFlows

section Distinct

variable {α β : Type} [DecidableEq α] [DecidableEq β]

theorem eraseDups_concat (items : List α) (a : α) :
    (items ++ [a]).eraseDups = if a ∈ items then items.eraseDups else items.eraseDups ++ [a] := by
  rw [List.eraseDups_append]
  by_cases mem : a ∈ items <;> simp [List.removeAll, List.eraseDups_cons, mem]

theorem eraseDups_filter (p : α → Bool) (items : List α) :
    (items.filter p).eraseDups = items.eraseDups.filter p := by
  induction items using List.reverseRecOn with
  | nil => rfl
  | append_singleton items a ih =>
      rw [eraseDups_concat, List.filter_append, List.filter_singleton]
      cases kept : p a with
      | false => split <;> simp [ih, kept]
      | true =>
          rw [Bool.cond_true, eraseDups_concat, ih]
          split <;> simp_all

theorem nodup_eraseDups (items : List α) : items.eraseDups.Nodup := by
  induction items using List.reverseRecOn with
  | nil => exact List.nodup_nil
  | append_singleton items a ih =>
      rw [eraseDups_concat]
      split
      next => exact ih
      next new =>
        refine ih.append (List.nodup_singleton a) (List.disjoint_singleton.2 ?_)
        rwa [List.mem_eraseDups]

/-- What first comes from the items is what first comes from the items without repetition. -/
theorem eraseDups_filterMap (f : α → Option β) (items : List α) :
    (items.eraseDups.filterMap f).eraseDups = (items.filterMap f).eraseDups := by
  induction items using List.reverseRecOn with
  | nil => rfl
  | append_singleton items a ih =>
      rw [eraseDups_concat, List.filterMap_append]
      cases found : f a with
      | none => split <;> simp [ih, found]
      | some b =>
          rw [List.filterMap_cons_some found, List.filterMap_nil, eraseDups_concat, ← ih]
          split
          next old =>
            rw [if_pos (List.mem_filterMap.2 ⟨a, old, found⟩)]
          next new =>
            rw [List.filterMap_append, List.filterMap_cons_some found, List.filterMap_nil,
              eraseDups_concat]
            simp only [List.mem_filterMap, List.mem_eraseDups]

end Distinct

namespace Keyed

variable {κ α ι : Type} [DecidableEq κ]

theorem keys_put (t : Keyed κ α) (key : κ) (value : α) :
    (t.put key value).keys = if key ∈ t.keys then t.keys else t.keys ++ [key] := by
  induction t with
  | nil => rfl
  | cons p rest ih =>
      obtain ⟨k, a⟩ := p
      by_cases h : k = key
      · simp [put, h]
      · have other : key ≠ k := fun same => h same.symm
        rw [put, if_neg h, keys_cons, keys_cons, ih]
        by_cases mem : key ∈ keys rest <;> simp [mem, other]

theorem nodup_put {t : Keyed κ α} (nodup : t.keys.Nodup) (key : κ) (value : α) :
    (t.put key value).keys.Nodup := by
  rw [keys_put]
  split
  next => exact nodup
  next new => exact nodup.append (List.nodup_singleton key) (by simpa using new)

theorem keys_erase (t : Keyed κ α) (key : κ) : (t.erase key).keys = t.keys.filter (· ≠ key) := by
  induction t with
  | nil => rfl
  | cons p rest ih =>
      by_cases same : p.1 = key
      · simp [erase, same, ih]
      · simp [erase, same, ih]

theorem flatten_pushTo (t : Keyed κ (List ι)) (key : κ) (item : ι) :
    ((t.pushTo key item).flatMap Prod.snd).Perm (t.flatMap Prod.snd ++ [item]) := by
  induction t with
  | nil => exact .refl _
  | cons p rest ih =>
      obtain ⟨k, group⟩ := p
      by_cases h : k = key
      · have swap : (item :: rest.flatMap Prod.snd).Perm (rest.flatMap Prod.snd ++ [item]) :=
          (List.perm_append_singleton item _).symm
        simpa [pushTo, put, get?, h, List.append_assoc] using swap.append_left group
      · have deeper : pushTo ((k, group) :: rest) key item =
            (k, group) :: pushTo rest key item := by
          simp [pushTo, put, get?, h]
        rw [deeper, List.flatMap_cons, List.flatMap_cons, List.append_assoc]
        exact ih.append_left group

section Gather

variable (key : ι → κ) (items : List ι)

theorem gather_concat (item : ι) :
    gather key (items ++ [item]) = (gather key items).pushTo (key item) item := by
  simp [gather]

theorem keys_gather : (gather key items).keys = (items.map key).eraseDups := by
  induction items using List.reverseRecOn with
  | nil => rfl
  | append_singleton items item ih =>
      rw [gather_concat, pushTo, keys_put, ih, List.map_append, List.map_singleton,
        eraseDups_concat]
      simp only [List.mem_eraseDups]

theorem nodup_gather : (gather key items).keys.Nodup := by
  rw [keys_gather]
  exact nodup_eraseDups _

theorem mem_keys_gather (k : κ) : k ∈ (gather key items).keys ↔ ∃ item ∈ items, key item = k := by
  rw [keys_gather, List.mem_eraseDups, List.mem_map]

theorem gather_perm : ((gather key items).flatMap Prod.snd).Perm items := by
  induction items using List.reverseRecOn with
  | nil => exact .refl _
  | append_singleton items item ih =>
      rw [gather_concat]
      exact (flatten_pushTo _ _ _).trans (ih.append_right [item])

theorem getD_gather (k : κ) :
    ((gather key items).get? k).getD [] = items.filter fun item => key item = k := by
  induction items using List.reverseRecOn with
  | nil => rfl
  | append_singleton items item ih =>
      rw [gather_concat, pushTo, List.filter_append]
      by_cases same : key item = k
      · subst same
        rw [get?_put, Option.getD_some, ih]
        simp
      · rw [get?_put_of_ne _ same, ih]
        simp [same]

variable {key items}

/-- A group has all items of its key, in their order. -/
theorem eq_filter_of_mem_gather {k : κ} {group : List ι} (mem : (k, group) ∈ gather key items) :
    group = items.filter fun item => key item = k := by
  rw [← getD_gather, get?_of_mem (nodup_gather key items) mem]
  rfl

theorem ne_nil_of_mem_gather {k : κ} {group : List ι} (mem : (k, group) ∈ gather key items) :
    group ≠ [] := by
  obtain ⟨item, item_mem, same⟩ := (mem_keys_gather key items k).1 (List.mem_map_of_mem mem)
  rw [eq_filter_of_mem_gather mem]
  exact List.ne_nil_of_mem (List.mem_filter.2 ⟨item_mem, decide_eq_true same⟩)

theorem key_of_mem_gather {k : κ} {group : List ι} (mem : (k, group) ∈ gather key items) :
    ∀ item ∈ group, key item = k := by
  intro item item_mem
  rw [eq_filter_of_mem_gather mem] at item_mem
  exact of_decide_eq_true (List.mem_filter.1 item_mem).2

end Gather

end Keyed

end BalancerFlows
