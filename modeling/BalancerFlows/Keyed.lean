/-!
# Keyed lists

Finite maps as lists of pairs, in the order in which the keys were first set. `get?` is the view:
each operation is described by what it does to `get?`.
-/
namespace BalancerFlows

/-- Values by key, in the order in which the keys were first set. -/
abbrev Keyed (κ α : Type) := List (κ × α)

namespace Keyed

variable {κ α : Type} [DecidableEq κ]

def get? : Keyed κ α → κ → Option α
  | [], _ => none
  | (k, a) :: rest, key => if k = key then some a else get? rest key

/-- Sets one key: it keeps its place if it is there, and goes to the end otherwise. -/
def put : Keyed κ α → κ → α → Keyed κ α
  | [], key, value => [(key, value)]
  | (k, a) :: rest, key, value =>
      if k = key then (key, value) :: rest else (k, a) :: put rest key value

/-- Changes the value under a key, if there is one. -/
def update : Keyed κ α → κ → (α → α) → Keyed κ α
  | [], _, _ => []
  | (k, a) :: rest, key, change =>
      if k = key then (k, change a) :: rest else (k, a) :: update rest key change

def erase : Keyed κ α → κ → Keyed κ α
  | [], _ => []
  | (k, a) :: rest, key => if k = key then erase rest key else (k, a) :: erase rest key

/-- Puts an item behind the others under its key. -/
def pushTo {ι : Type} (t : Keyed κ (List ι)) (key : κ) (item : ι) : Keyed κ (List ι) :=
  t.put key ((t.get? key).getD [] ++ [item])

/-- Items gathered under their keys; keys in the order of their first items, and the items of a
key in their own order. -/
def gather {ι : Type} (key : ι → κ) (items : List ι) : Keyed κ (List ι) :=
  items.foldl (fun t item => t.pushTo (key item) item) []

def keys (t : Keyed κ α) : List κ :=
  t.map Prod.fst

def values (t : Keyed κ α) : List α :=
  t.map Prod.snd

omit [DecidableEq κ] in
@[simp] theorem keys_cons (p : κ × α) (t : Keyed κ α) : keys (p :: t) = p.1 :: keys t := rfl

@[simp] theorem get?_put (t : Keyed κ α) (key : κ) (value : α) :
    (t.put key value).get? key = some value := by
  induction t with
  | nil => simp [put, get?]
  | cons p rest ih =>
      obtain ⟨k, a⟩ := p
      by_cases h : k = key <;> simp [put, get?, h, ih]

theorem get?_put_of_ne (t : Keyed κ α) {key other : κ} (h : key ≠ other) (value : α) :
    (t.put key value).get? other = t.get? other := by
  induction t with
  | nil => simp [put, get?, h]
  | cons p rest ih =>
      obtain ⟨k, a⟩ := p
      by_cases hk : k = key
      · subst hk
        simp [put, get?, h]
      · by_cases ho : k = other
        · subst ho
          simp [put, get?, hk]
        · simp [put, get?, hk, ho, ih]

@[simp] theorem get?_update (t : Keyed κ α) (key : κ) (change : α → α) :
    (t.update key change).get? key = (t.get? key).map change := by
  induction t with
  | nil => rfl
  | cons p rest ih =>
      obtain ⟨k, a⟩ := p
      by_cases h : k = key <;> simp [update, get?, h, ih]

theorem get?_update_of_ne (t : Keyed κ α) {key other : κ} (h : key ≠ other) (change : α → α) :
    (t.update key change).get? other = t.get? other := by
  induction t with
  | nil => rfl
  | cons p rest ih =>
      obtain ⟨k, a⟩ := p
      by_cases hk : k = key
      · subst hk
        simp [update, get?, h]
      · by_cases ho : k = other
        · subst ho
          simp [update, get?, hk]
        · simp [update, get?, hk, ho, ih]

@[simp] theorem keys_update (t : Keyed κ α) (key : κ) (change : α → α) :
    (t.update key change).keys = t.keys := by
  induction t with
  | nil => rfl
  | cons p rest ih =>
      obtain ⟨k, a⟩ := p
      by_cases h : k = key <;> simp_all [update]

@[simp] theorem get?_erase (t : Keyed κ α) (key : κ) : (t.erase key).get? key = none := by
  induction t with
  | nil => rfl
  | cons p rest ih =>
      obtain ⟨k, a⟩ := p
      by_cases h : k = key <;> simp [erase, get?, h, ih]

theorem get?_erase_of_ne (t : Keyed κ α) {key other : κ} (h : key ≠ other) :
    (t.erase key).get? other = t.get? other := by
  induction t with
  | nil => rfl
  | cons p rest ih =>
      obtain ⟨k, a⟩ := p
      by_cases hk : k = key
      · subst hk
        simp [erase, get?, h, ih]
      · by_cases ho : k = other
        · subst ho
          simp [erase, get?, hk]
        · simp [erase, get?, hk, ho, ih]

end Keyed

end BalancerFlows
