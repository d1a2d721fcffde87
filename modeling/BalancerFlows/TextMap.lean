import BalancerFlows.Json.Wire

/-!
# Texts by key

A finite map from texts to texts, kept in ascending order of its keys, so that two maps with the
same members are equal.
-/
namespace BalancerFlows

/-- Texts by key, in ascending order of the keys. -/
structure TextMap where
  entries : List (String × String) := []
  ascending : entries.Pairwise (fun a b => a.1 < b.1) := by simp
  deriving Repr, DecidableEq

instance : Inhabited TextMap := ⟨{}⟩

namespace TextMap

/-- Sets one key in ascending entries. -/
def insertEntry (key value : String) : List (String × String) → List (String × String)
  | [] => [(key, value)]
  | (k, v) :: rest =>
      if k < key then (k, v) :: insertEntry key value rest
      else if k = key then (key, value) :: rest
      else (key, value) :: (k, v) :: rest

/-- Every key after an insertion is the new one or was there before. -/
theorem of_mem_insertEntry {key value : String} {entries : List (String × String)}
    {e : String × String} (h : e ∈ insertEntry key value entries) :
    e = (key, value) ∨ e ∈ entries := by
  induction entries with
  | nil => simpa [insertEntry] using h
  | cons head tail ih =>
      obtain ⟨k, v⟩ := head
      simp only [insertEntry] at h
      split at h
      · rcases List.mem_cons.1 h with h | h
        · exact .inr (h ▸ List.mem_cons_self)
        · exact (ih h).imp id fun m => List.mem_cons_of_mem _ m
      · split at h
        · rcases List.mem_cons.1 h with h | h
          · exact .inl h
          · exact .inr (List.mem_cons_of_mem _ h)
        · rcases List.mem_cons.1 h with h | h
          · exact .inl h
          · exact .inr h

theorem ascending_insertEntry (key value : String) {entries : List (String × String)}
    (h : entries.Pairwise fun a b => a.1 < b.1) :
    (insertEntry key value entries).Pairwise fun a b => a.1 < b.1 := by
  induction entries with
  | nil => simp [insertEntry]
  | cons head tail ih =>
      obtain ⟨k, v⟩ := head
      obtain ⟨first, rest⟩ := List.pairwise_cons.1 h
      simp only [insertEntry]
      split
      next lt =>
        refine List.pairwise_cons.2 ⟨fun e he => ?_, ih rest⟩
        rcases of_mem_insertEntry he with rfl | he
        · exact lt
        · exact first e he
      next notLt =>
        split
        next same => exact List.pairwise_cons.2 ⟨fun e he => same ▸ first e he, rest⟩
        next differ =>
          have gt : key < k := Std.lt_of_le_of_ne (String.not_lt.1 notLt) (Ne.symm differ)
          refine List.pairwise_cons.2 ⟨fun e he => ?_, h⟩
          rcases List.mem_cons.1 he with rfl | he
          · exact gt
          · exact String.lt_trans gt (first e he)

def insert (m : TextMap) (key value : String) : TextMap :=
  ⟨insertEntry key value m.entries, ascending_insertEntry key value m.ascending⟩

/-- The map of some pairs, of which the later ones win. -/
def ofList (pairs : List (String × String)) : TextMap :=
  pairs.foldl (fun m p => m.insert p.1 p.2) {}

def get? (m : TextMap) (key : String) : Option String :=
  m.entries.lookup key

/-- The pairs of an object whose members are all texts. -/
def readPairs : List (String × Json) → Option (List (String × String))
  | [] => some []
  | (k, .str v) :: rest => (readPairs rest).map ((k, v) :: ·)
  | _ :: _ => none

end TextMap

instance : Wire TextMap where
  encode m := .obj (m.entries.map fun e => (e.1, .str e.2))
  decode
    | .obj members => (TextMap.readPairs members).map TextMap.ofList
    | _ => none

end BalancerFlows
