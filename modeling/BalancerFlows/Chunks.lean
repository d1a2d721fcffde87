import BalancerFlows.Failure

/-!
# Chunks

Lists cut into pieces of bounded size, and the check that no piece names a thing twice. A size of
zero counts as one. Main statements: the chunks join to the list, `chunkCount` is their number,
and `firstRepeated?` is `none` exactly on lists without repetition.
-/
namespace BalancerFlows

/-- Consecutive pieces of `max size 1` items; only the last may be shorter, and none is empty. -/
def chunksOf {α : Type} (size : Nat) (items : List α) : List (List α) :=
  match items with
  | [] => []
  | item :: rest =>
      (item :: rest.take (max size 1 - 1)) :: chunksOf size (rest.drop (max size 1 - 1))
termination_by items.length
decreasing_by simp only [List.length_cons, List.length_drop]; omega

def chunkCount (length size : Nat) : Nat :=
  let size := max size 1
  length / size + if length % size = 0 then 0 else 1

/-- Joining the chunks gives the list back. -/
theorem chunksOf_flatten {α : Type} (size : Nat) (items : List α) :
    (chunksOf size items).flatten = items := by
  induction items using chunksOf.induct size with
  | case1 => simp [chunksOf]
  | case2 item rest ih =>
      rw [chunksOf, List.flatten_cons, ih]
      simp [List.take_append_drop]

def firstRepeated? {κ : Type} [DecidableEq κ] : (seen items : List κ) → Option κ
  | _, [] => none
  | seen, k :: ks => if k ∈ seen then some k else firstRepeated? (k :: seen) ks

/-- Refuses a list in which two items have one key. -/
def ensureUnique {α : Type} (label : String) (key : α → String) (items : List α) :
    Except Failure Unit :=
  match firstRepeated? [] (items.map key) with
  | some k => .error (.duplicated (label ++ " " ++ k ++ " appears more than once in one batch"))
  | none => .ok ()

theorem firstRepeated?_eq_none_iff {κ : Type} [DecidableEq κ] {seen items : List κ} :
    firstRepeated? seen items = none ↔ items.Nodup ∧ ∀ k ∈ items, k ∉ seen := by
  induction items generalizing seen with
  | nil => simp [firstRepeated?]
  | cons k ks ih =>
      simp only [firstRepeated?]
      split
      next h => simp [h]
      next h =>
        rw [ih]
        simp only [List.nodup_cons, List.mem_cons]
        constructor
        · rintro ⟨nodup, fresh⟩
          refine ⟨⟨fun m => (fresh k m) (.inl rfl), nodup⟩, ?_⟩
          rintro j (rfl | m)
          · exact h
          · exact fun s => fresh j m (.inr s)
        · rintro ⟨⟨notMem, nodup⟩, fresh⟩
          refine ⟨nodup, fun j m => ?_⟩
          rintro (rfl | s)
          · exact notMem m
          · exact fresh j (.inr m) s

end BalancerFlows
