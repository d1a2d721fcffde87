import BalancerFlows.Proofs.Chaining
import Mathlib.Algebra.Order.Floor.Div

/-!
# Where chunks lie

The item at a place `i` of a list lies in the chunk at `i / max size 1`, and each chunk is the part
of the list that starts at its number times the size. From this follow the number of chunks and the
length of each, and that no chunk names a thing twice just if no two items of one chunk have the
same key. Main statements: `getElem?_chunksOf`, `length_chunksOf` and `nodup_chunks_iff`.
-/
namespace BalancerFlows

variable {α : Type} {size : Nat} {items : List α}

/-- The chunk at a place is the part of the list from there on, up to the size. -/
theorem getElem?_chunksOf (size : Nat) (items : List α) (k : Nat) :
    (chunksOf size items)[k]? =
      if k * max size 1 < items.length then
        some ((items.drop (k * max size 1)).take (max size 1))
      else none := by
  induction items using chunksOf.induct size generalizing k with
  | case1 => simp [chunksOf]
  | case2 item rest ih =>
      obtain ⟨m, positive⟩ : ∃ m, max size 1 = m + 1 := ⟨max size 1 - 1, by omega⟩
      rw [chunksOf]
      rw [positive] at ih ⊢
      simp only [Nat.add_sub_cancel] at ih ⊢
      cases k with
      | zero => simp
      | succ k =>
          rw [List.getElem?_cons_succ, ih, List.length_drop, List.length_cons, List.drop_drop]
          have shift : (k + 1) * (m + 1) = k * (m + 1) + m + 1 := Nat.succ_mul k (m + 1)
          rw [shift, List.drop_succ_cons, Nat.add_comm m (k * _)]
          simp only [Nat.lt_sub_iff_add_lt, Nat.add_lt_add_iff_right]

theorem lt_length_chunksOf {k : Nat} :
    k < (chunksOf size items).length ↔ k * max size 1 < items.length := by
  rw [← not_le, ← List.getElem?_eq_none_iff, getElem?_chunksOf]
  split <;> simp_all

theorem length_chunksOf (size : Nat) (items : List α) :
    (chunksOf size items).length = items.length ⌈/⌉ max size 1 := by
  have positive : 0 < max size 1 := by omega
  refine eq_of_forall_lt_iff fun k => ?_
  rw [lt_length_chunksOf, ← not_le (a := items.length ⌈/⌉ max size 1),
    ceilDiv_le_iff_le_mul positive, not_le, Nat.mul_comm]

/-- Every chunk that is not the last one is full. -/
theorem length_of_not_last {k : Nat} {chunk : List α}
    (found : (chunksOf size items)[k]? = some chunk)
    (more : k + 1 < (chunksOf size items).length) : chunk.length = max size 1 := by
  rw [lt_length_chunksOf, Nat.succ_mul] at more
  rw [getElem?_chunksOf, if_pos (by omega), Option.some.injEq] at found
  rw [← found, List.length_take, List.length_drop]
  omega

theorem getElem?_chunk {k p : Nat} {chunk : List α} (found : (chunksOf size items)[k]? = some chunk)
    (small : p < max size 1) : chunk[p]? = items[k * max size 1 + p]? := by
  rw [getElem?_chunksOf] at found
  split at found
  next =>
    cases found
    rw [List.getElem?_take_of_lt small, List.getElem?_drop]
  next => cases found

/-- An item lies in the chunk that the place of the item over the size says. -/
theorem exists_chunk (size : Nat) {i : Nat} {a : α} (found : items[i]? = some a) :
    ∃ chunk, (chunksOf size items)[i / max size 1]? = some chunk ∧
      chunk[i % max size 1]? = some a := by
  have small : i % max size 1 < max size 1 := Nat.mod_lt i (by omega)
  have place : i / max size 1 * max size 1 + i % max size 1 = i := Nat.div_add_mod' i _
  have inside : i < items.length := (List.getElem?_eq_some_iff.1 found).1
  have chunk := getElem?_chunksOf size items (i / max size 1)
  rw [if_pos (by omega)] at chunk
  exact ⟨_, chunk, by rw [getElem?_chunk chunk small, place, found]⟩

/-- No two items whose places lie in one chunk have the same key. -/
def ApartInChunks {κ : Type} (size : Nat) (key : α → κ) (items : List α) : Prop :=
  ∀ i j a b, i < j → i / max size 1 = j / max size 1 →
    items[i]? = some a → items[j]? = some b → key a ≠ key b

/-- Every chunk has each key once just if no two items of one chunk have the same key. -/
theorem nodup_chunks_iff {κ : Type} {key : α → κ} :
    (∀ chunk ∈ chunksOf size items, (chunk.map key).Nodup) ↔ ApartInChunks size key items := by
  constructor
  · intro nodup i j a b lt same found found' eq
    obtain ⟨chunk, at_i, first⟩ := exists_chunk size found
    obtain ⟨chunk', at_j, second⟩ := exists_chunk size found'
    rw [← same, at_i, Option.some.injEq] at at_j
    subst at_j
    have distinct := List.nodup_iff_getElem?_ne_getElem?.1 (nodup chunk (List.mem_of_getElem? at_i))
    refine distinct (i % max size 1) (j % max size 1) ?_ ?_ ?_
    · have place := Nat.div_add_mod' i (max size 1)
      have place' := Nat.div_add_mod' j (max size 1)
      rw [← same] at place'
      omega
    · rw [List.length_map]
      exact (List.getElem?_eq_some_iff.1 second).1
    · rw [List.getElem?_map, List.getElem?_map, first, second, Option.map_some, eq, Option.map_some]
  · intro apart chunk mem
    obtain ⟨k, at_k⟩ := List.getElem?_of_mem mem
    have short := (length_of_mem_chunksOf mem).2
    have place : ∀ p < chunk.length, (k * max size 1 + p) / max size 1 = k := by
      intro p inside
      rw [Nat.mul_comm, Nat.mul_add_div (by omega), Nat.div_eq_of_lt (by omega), Nat.add_zero]
    rw [List.Nodup, List.pairwise_map, List.pairwise_iff_getElem]
    intro p q p_lt q_lt lt
    have first := getElem?_chunk at_k (show p < max size 1 by omega)
    have second := getElem?_chunk at_k (show q < max size 1 by omega)
    rw [List.getElem?_eq_getElem p_lt] at first
    rw [List.getElem?_eq_getElem q_lt] at second
    exact apart _ _ _ _ (by omega) ((place p p_lt).trans (place q q_lt).symm) first.symm second.symm

/-- What the calls for the chunks are about is what the items are about, in order. -/
theorem flatMap_chunksOf {β γ : Type} {call : List α → γ} {f : γ → List β} {item : α → β}
    (calls : ∀ chunk, f (call chunk) = chunk.map item) :
    ((chunksOf size items).map call).flatMap f = items.map item := by
  simp only [List.flatMap_map, calls]
  rw [List.flatMap_def, ← List.map_flatten, chunksOf_flatten]

theorem Plan.flatMap_groupedCalls {β : Type} {shape : CallShape α} {limit : Nat}
    {groups : List (Binding × List α)} {f : PlannedCall → List β} {item : α → β}
    (calls : ∀ b items, f (shape.call b items) = items.map item) :
    (groupedCalls shape limit groups).flatMap f = (groups.flatMap Prod.snd).map item := by
  simp only [groupedCalls, List.flatMap_assoc, flatMap_chunksOf (calls _), List.map_flatMap]

end BalancerFlows
