import BalancerFlows.Proofs.Chunking

/-!
# Cutting a list to the end

A list is cut by taking pieces off its front until nothing is left. `Cut` follows this piece by
piece, and comes to the chunks of the list and to nothing else. How many there are is computed from
the length alone; `Word.chunkCount?` follows this computation in words of 64 bits, where a division
or a sum can fail. Main statement: `chunks_exact`.
-/
namespace BalancerFlows

section

variable {α : Type} {size : Nat} {items : List α}

/-- Takes the next piece off a list that is not empty: the piece and what is left. -/
def nextChunk? (size : Nat) (items : List α) : Option (List α × List α) :=
  if items.isEmpty then none else some (items.take (max size 1), items.drop (max size 1))

/-- The pieces that are taken off a list, one after the other, until nothing is left. -/
inductive Cut (size : Nat) : List α → List (List α) → Prop
  | done {items : List α} : nextChunk? size items = none → Cut size items []
  | step {items chunk rest : List α} {chunks : List (List α)} :
      nextChunk? size items = some (chunk, rest) → Cut size rest chunks →
        Cut size items (chunk :: chunks)

theorem length_of_nextChunk? {chunk rest : List α}
    (cut : nextChunk? size items = some (chunk, rest)) : rest.length < items.length := by
  unfold nextChunk? at cut
  split at cut
  next => cases cut
  next some_items =>
    have filled : 0 < items.length := by
      rw [List.isEmpty_iff] at some_items
      exact List.length_pos_iff.2 some_items
    cases cut
    rw [List.length_drop]
    omega

theorem nextChunk?_cons (size : Nat) (item : α) (rest : List α) :
    nextChunk? size (item :: rest) =
      some (item :: rest.take (max size 1 - 1), rest.drop (max size 1 - 1)) := by
  have positive : max size 1 = max size 1 - 1 + 1 := by omega
  rw [nextChunk?, List.isEmpty_cons, positive, List.take_succ_cons, List.drop_succ_cons]
  rfl

theorem cut_chunksOf (size : Nat) (items : List α) : Cut size items (chunksOf size items) := by
  induction items using chunksOf.induct size with
  | case1 =>
      rw [chunksOf]
      exact .done rfl
  | case2 item rest ih =>
      rw [chunksOf]
      exact .step (nextChunk?_cons size item rest) ih

theorem Cut.eq_chunksOf {chunks : List (List α)} (h : Cut size items chunks) :
    chunks = chunksOf size items := by
  induction h with
  | @done items stop =>
      cases items with
      | nil => rw [chunksOf]
      | cons item rest =>
          rw [nextChunk?_cons] at stop
          cases stop
  | @step items chunk rest chunks cut _ ih =>
      cases items with
      | nil => cases cut
      | cons item others =>
          rw [nextChunk?_cons] at cut
          cases cut
          rw [chunksOf, ih]

theorem length_of_mem_dropLast_chunksOf {chunk : List α}
    (mem : chunk ∈ (chunksOf size items).dropLast) : chunk.length = max size 1 := by
  obtain ⟨k, inside, rfl⟩ := List.getElem_of_mem mem
  rw [List.length_dropLast] at inside
  have found : (chunksOf size items)[k]? = some ((chunksOf size items).dropLast[k]) := by
    rw [List.getElem_dropLast, List.getElem?_eq_getElem]
  exact length_of_not_last found (by omega)

end

theorem chunkCount_of_mod_eq_zero {length size : Nat} (none_left : length % max size 1 = 0) :
    chunkCount length size = length / max size 1 := by
  simp [chunkCount, none_left]

theorem chunkCount_of_mod_ne_zero {length size : Nat} (some_left : length % max size 1 ≠ 0) :
    chunkCount length size = length / max size 1 + 1 := by
  simp [chunkCount, some_left]

/-- Rounding up changes nothing where nothing is left. -/
theorem add_pred_div_of_mod_eq_zero {n m : Nat} (positive : 0 < m) (none_left : n % m = 0) :
    (n + m - 1) / m = n / m := by
  have whole := Nat.div_add_mod' n m
  have next : (n / m + 1) * m = n / m * m + m := Nat.succ_mul _ _
  apply Nat.div_eq_of_lt_le
  · omega
  · omega

theorem add_pred_div_of_mod_ne_zero {n m : Nat} (positive : 0 < m) (some_left : n % m ≠ 0) :
    (n + m - 1) / m = n / m + 1 := by
  have whole := Nat.div_add_mod' n m
  have part := Nat.mod_lt n positive
  have next : (n / m + 1) * m = n / m * m + m := Nat.succ_mul _ _
  have most : (n / m + 1 + 1) * m = (n / m + 1) * m + m := Nat.succ_mul _ _
  apply Nat.div_eq_of_lt_le
  · omega
  · omega

theorem chunkCount_eq_ceilDiv (length size : Nat) :
    chunkCount length size = length ⌈/⌉ max size 1 := by
  rw [Nat.ceilDiv_eq_add_pred_div]
  by_cases none_left : length % max size 1 = 0
  · rw [chunkCount_of_mod_eq_zero none_left]
    exact (add_pred_div_of_mod_eq_zero (by omega) none_left).symm
  · rw [chunkCount_of_mod_ne_zero none_left]
    exact (add_pred_div_of_mod_ne_zero (by omega) none_left).symm

namespace Word

/-- The quotient of two words; nothing when the second one is zero. -/
def div? (a b : UInt64) : Option UInt64 :=
  if b = 0 then none else some (a / b)

/-- The remainder of a division; nothing when the second word is zero. -/
def mod? (a b : UInt64) : Option UInt64 :=
  if b = 0 then none else some (a % b)

def add? (a b : UInt64) : Option UInt64 :=
  if a.toNat + b.toNat < UInt64.size then some (a + b) else none

/-- The number of chunks, computed in words. -/
def chunkCount? (length size : UInt64) : Option UInt64 := do
  let full ← div? length (max size 1)
  let left ← mod? length (max size 1)
  if left = 0 then return full else add? full 1

/-- The computation never fails and gives the number of chunks. -/
theorem chunkCount?_eq (length size : UInt64) : ∃ count,
    chunkCount? length size = some count ∧
      count.toNat = chunkCount length.toNat size.toNat := by
  have divisor : (max size 1).toNat = max size.toNat 1 := UInt64.toNat_max size 1
  have nonzero : max size 1 ≠ 0 := by
    intro zero
    rw [zero, UInt64.toNat_zero] at divisor
    omega
  have full : (length / max size 1).toNat = length.toNat / max size.toNat 1 := by
    rw [UInt64.toNat_div, divisor]
  have left : length % max size 1 = 0 ↔ length.toNat % max size.toNat 1 = 0 := by
    rw [← UInt64.toNat_inj, UInt64.toNat_mod, divisor, UInt64.toNat_zero]
  unfold chunkCount? div? mod?
  rw [if_neg nonzero, if_neg nonzero]
  simp only [Option.bind_eq_bind, Option.bind_some]
  by_cases none_left : length % max size 1 = 0
  · rw [if_pos none_left, chunkCount_of_mod_eq_zero (left.1 none_left)]
    exact ⟨_, rfl, full⟩
  · have some_left := mt left.2 none_left
    -- A remainder means that the divisor is at least two, so the quotient is far from the top.
    have divisor_ne : max size.toNat 1 ≠ 1 := by
      intro one
      rw [one, Nat.mod_one] at some_left
      exact some_left rfl
    have half : length.toNat / max size.toNat 1 ≤ length.toNat / 2 :=
      Nat.div_le_div_left (by omega) (by omega)
    have top : length.toNat < 2 ^ 64 := UInt64.toNat_lt length
    have fits : (length / max size 1).toNat + (1 : UInt64).toNat < UInt64.size := by
      rw [full, UInt64.toNat_one, UInt64.size]
      omega
    rw [if_neg none_left, chunkCount_of_mod_ne_zero some_left, add?, if_pos fits]
    refine ⟨_, rfl, ?_⟩
    rw [UInt64.toNat_add, Nat.mod_eq_of_lt fits, full, UInt64.toNat_one]

end Word

/-- Pieces of a list: they join to it, all but the last one are full, the last one is not empty, and
there are as many as were computed. -/
structure Pieces {α : Type} (size : Nat) (items : List α) (chunks : List (List α)) : Prop where
  joined : chunks.flatten = items
  full : ∀ chunk ∈ chunks.dropLast, chunk.length = max size 1
  last : ∀ chunk, chunks.getLast? = some chunk → 1 ≤ chunk.length ∧ chunk.length ≤ max size 1
  count : chunks.length = chunkCount items.length size
  empty : items = [] → chunks = []

theorem pieces_chunksOf {α : Type} (size : Nat) (items : List α) :
    Pieces size items (chunksOf size items) where
  joined := chunksOf_flatten size items
  full _ mem := length_of_mem_dropLast_chunksOf mem
  last _ found := length_of_mem_chunksOf (List.mem_of_getLast? found)
  count := by rw [length_chunksOf, chunkCount_eq_ceilDiv]
  empty nothing := by rw [nothing, chunksOf]

/-- Cutting a list always comes to an end, in one way, because each piece leaves a shorter list. Its
chunks are full pieces of the list, as many as the length over the limit, rounded up, and in words
this number is computed without a division by zero or a sum that does not fit. A limit of zero
counts as one. -/
theorem chunks_exact {α : Type} (limit : Nat) (items : List α) :
    (∀ chunks, Cut limit items chunks ↔ chunks = chunksOf limit items) ∧
      (∀ (left : List α) chunk rest, nextChunk? limit left = some (chunk, rest) →
        rest.length < left.length) ∧
      Pieces limit items (chunksOf limit items) ∧
      (∀ length, chunkCount length limit = length ⌈/⌉ max limit 1) ∧
      ∀ length size : UInt64, ∃ count, Word.chunkCount? length size = some count ∧
        count.toNat = chunkCount length.toNat size.toNat := by
  have ends : ∀ chunks, Cut limit items chunks ↔ chunks = chunksOf limit items := by
    intro chunks
    constructor
    · exact Cut.eq_chunksOf
    · intro same
      rw [same]
      exact cut_chunksOf limit items
  exact ⟨ends, fun _ _ _ => length_of_nextChunk?, pieces_chunksOf limit items,
    fun length => chunkCount_eq_ceilDiv length limit, Word.chunkCount?_eq⟩

end BalancerFlows
