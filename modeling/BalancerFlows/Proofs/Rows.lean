import BalancerFlows.Store
import Mathlib.Algebra.Group.Nat.Defs
import Mathlib.Data.List.Nodup
import Mathlib.Data.List.Sort

/-!
# Rows under counted ids

A table hands out the ids 1, 2, 3 and so on, and nothing ever takes a row away. `Table.Numbered`
says that the keys of a table are the ids handed out so far and that every row stands under its own
id. Ids have 64 bits, so this can only last while fewer than `2 ^ 63` rows were created. Main
statements: creating and changing rows keeps the numbering, and an id that is handed out is new.
-/
namespace BalancerFlows

namespace Keyed

variable {κ α : Type} [DecidableEq κ]

omit [DecidableEq κ] in
@[simp] theorem keys_append (t u : Keyed κ α) : keys (t ++ u) = keys t ++ keys u := by
  simp [keys]

theorem get?_eq_none_iff (t : Keyed κ α) (key : κ) : t.get? key = none ↔ key ∉ t.keys := by
  induction t with
  | nil => simp [get?, keys]
  | cons p rest ih =>
      obtain ⟨k, a⟩ := p
      by_cases h : k = key
      · simp [get?, h]
      · simp [get?, h, ih, Ne.symm h]

theorem mem_keys_of_get? {t : Keyed κ α} {key : κ} {a : α} (h : t.get? key = some a) :
    key ∈ t.keys := by
  by_contra absent
  rw [(get?_eq_none_iff t key).2 absent] at h
  cases h

theorem exists_of_mem_keys {t : Keyed κ α} {key : κ} (h : key ∈ t.keys) :
    ∃ a, t.get? key = some a := by
  cases found : t.get? key with
  | none => exact absurd h ((get?_eq_none_iff t key).1 found)
  | some a => exact ⟨a, rfl⟩

theorem mem_of_get? {t : Keyed κ α} {key : κ} {a : α} (h : t.get? key = some a) :
    (key, a) ∈ t := by
  induction t with
  | nil => simp [get?] at h
  | cons p rest ih =>
      obtain ⟨k, b⟩ := p
      by_cases hk : k = key
      · simp only [get?, hk, if_true, Option.some.injEq] at h
        simp [hk, h]
      · simp only [get?, hk, if_false] at h
        exact List.mem_cons_of_mem _ (ih h)

theorem get?_of_mem {t : Keyed κ α} (nodup : t.keys.Nodup) {key : κ} {a : α} (h : (key, a) ∈ t) :
    t.get? key = some a := by
  induction t with
  | nil => simp at h
  | cons p rest ih =>
      obtain ⟨k, b⟩ := p
      obtain ⟨new, nodup⟩ := List.nodup_cons.1 nodup
      rcases List.mem_cons.1 h with h | h
      · simp only [Prod.mk.injEq] at h
        simp [get?, h.1, h.2]
      · have other : k ≠ key := fun e => new (List.mem_map.2 ⟨_, h, e.symm⟩)
        simp only [get?, other, if_false]
        exact ih nodup h

theorem get?_append (t u : Keyed κ α) (key : κ) :
    get? (t ++ u) key = (t.get? key).or (u.get? key) := by
  induction t with
  | nil => simp [get?]
  | cons p rest ih =>
      obtain ⟨k, a⟩ := p
      by_cases h : k = key <;> simp [get?, h, ih]

theorem put_of_notMem {t : Keyed κ α} {key : κ} (h : key ∉ t.keys) (value : α) :
    t.put key value = t ++ [(key, value)] := by
  induction t with
  | nil => rfl
  | cons p rest ih =>
      obtain ⟨k, a⟩ := p
      simp only [keys_cons, List.mem_cons, not_or] at h
      simp [put, Ne.symm h.1, ih h.2]

@[simp] theorem update_put (t : Keyed κ α) (key : κ) (value : α) (change : α → α) :
    (t.put key value).update key change = t.put key (change value) := by
  induction t with
  | nil => simp [put, update]
  | cons p rest ih =>
      obtain ⟨k, a⟩ := p
      by_cases h : k = key <;> simp [put, update, h, ih]

theorem update_put_of_ne (t : Keyed κ α) {key other : κ} (h : key ≠ other) (value : α)
    (change : α → α) :
    (t.put key value).update other change = (t.update other change).put key value := by
  induction t with
  | nil => simp [put, update, h]
  | cons p rest ih =>
      obtain ⟨k, a⟩ := p
      by_cases first : k = key
      · subst first
        simp [put, update, h]
      · by_cases second : k = other
        · subst second
          simp [put, update, first]
        · simp [put, update, first, second, ih]

theorem get?_update_eq (t : Keyed κ α) (key other : κ) (change : α → α) :
    (t.update key change).get? other =
      if key = other then (t.get? other).map change else t.get? other := by
  by_cases h : key = other
  · subst h
    simp
  · rw [get?_update_of_ne t h, if_neg h]

end Keyed

namespace Table

variable {α : Type} {key : α → Int64}

/-- The id of the row that is created after `n` others. -/
def nth (n : Nat) : Int64 :=
  Int64.ofNat (n + 1)

theorem nth_lt_nth {m n : Nat} (h : m < n) (fits : n + 1 < 2 ^ 63) : nth m < nth n := by
  rw [nth, nth, Int64.ofNat_lt_iff_lt (by omega) fits]
  omega

theorem nth_injective {m n : Nat} (hm : m + 1 < 2 ^ 63) (hn : n + 1 < 2 ^ 63)
    (h : nth m = nth n) : m = n := by
  have same := congrArg Int64.toInt h
  rw [nth, nth, Int64.toInt_ofNat_of_lt hm, Int64.toInt_ofNat_of_lt hn] at same
  omega

/-- The keys are the ids handed out, each row stands under its own, and no id comes twice. -/
structure Numbered (key : α → Int64) (t : Table α) : Prop where
  keys_eq : t.rows.keys = (List.range t.created).map nth
  key_eq : ∀ p ∈ t.rows, key p.2 = p.1
  fits : t.created < 2 ^ 63

namespace Numbered

variable {t : Table α}

theorem empty (key : α → Int64) : Numbered key ({} : Table α) :=
  ⟨rfl, by simp, Nat.two_pow_pos 63⟩

theorem ascending (h : t.Numbered key) : t.rows.keys.Pairwise (· < ·) := by
  rw [h.keys_eq, List.pairwise_map]
  refine List.pairwise_lt_range.imp_of_mem fun _ hn lt => ?_
  have := List.mem_range.1 hn
  exact nth_lt_nth lt (by have := h.fits; omega)

theorem nodup (h : t.Numbered key) : t.rows.keys.Nodup :=
  h.ascending.imp fun lt => Int64.ne_of_lt lt

/-- The next id is new, also where it is the first one that is negative. -/
theorem nextId_notMem (h : t.Numbered key) : t.nextId ∉ t.rows.keys := by
  rw [h.keys_eq, List.mem_map]
  rintro ⟨n, hn, same⟩
  have lt := List.mem_range.1 hn
  have fits := h.fits
  have positive : (nth n).toInt = n + 1 := by
    rw [nth, Int64.toInt_ofNat_of_lt (by omega)]
    rfl
  rcases Nat.lt_or_ge (t.created + 1) (2 ^ 63) with room | full
  · have := nth_injective (by omega) room same
    omega
  · have last : t.created + 1 = 2 ^ 63 := by omega
    have negative : t.nextId.toInt < 0 := by
      rw [nextId, last]
      decide
    rw [← same, positive] at negative
    omega

theorem key_of_get? (h : t.Numbered key) {id : Int64} {a : α} (found : t.get? id = some a) :
    key a = id :=
  h.key_eq _ (Keyed.mem_of_get? found)

theorem get?_of_mem_rows (h : t.Numbered key) {id : Int64} {a : α} (mem : (id, a) ∈ t.rows) :
    t.get? id = some a :=
  Keyed.get?_of_mem h.nodup mem

theorem mem_values (h : t.Numbered key) {a : α} : a ∈ t.values ↔ t.get? (key a) = some a := by
  constructor
  · intro mem
    obtain ⟨⟨id, b⟩, row, rfl⟩ := List.mem_map.1 mem
    have own : key b = id := h.key_eq (id, b) row
    rw [own]
    exact h.get?_of_mem_rows row
  · exact fun found => List.mem_map_of_mem (f := Prod.snd) (Keyed.mem_of_get? found)

theorem values_ascending (h : t.Numbered key) :
    t.values.Pairwise fun a b => key a < key b := by
  have keyed : t.rows.Pairwise fun p q => p.1 < q.1 := List.pairwise_map.1 h.ascending
  refine List.pairwise_map.2 (keyed.imp_of_mem fun hp hq lt => ?_)
  rw [h.key_eq _ hp, h.key_eq _ hq]
  exact lt

end Numbered

theorem add_rows {t : Table α} (h : t.nextId ∉ t.rows.keys) (make : Int64 → α) :
    (t.add make).2.rows = t.rows ++ [(t.nextId, make t.nextId)] :=
  Keyed.put_of_notMem h _

theorem numbered_add {t : Table α} (h : t.Numbered key) {make : Int64 → α}
    (own : ∀ id, key (make id) = id) (room : t.created + 1 < 2 ^ 63) :
    (t.add make).2.Numbered key := by
  have rows := add_rows h.nextId_notMem make
  refine ⟨?_, ?_, room⟩
  · rw [rows, Keyed.keys_append, h.keys_eq]
    show _ = (List.range (t.created + 1)).map nth
    rw [List.range_succ, List.map_append]
    rfl
  · intro p mem
    rw [rows, List.mem_append, List.mem_singleton] at mem
    rcases mem with mem | rfl
    · exact h.key_eq p mem
    · exact own _

@[simp] theorem addAll_created (t : Table α) (makes : List (Int64 → α)) :
    (t.addAll makes).2.created = t.created + makes.length := by
  induction makes generalizing t with
  | nil => rfl
  | cons make makes ih =>
      have step : (t.add make).2.created = t.created + 1 := rfl
      simp only [addAll, ih, step, List.length_cons]
      omega

@[simp] theorem addAll_length (t : Table α) (makes : List (Int64 → α)) :
    (t.addAll makes).1.length = makes.length := by
  induction makes generalizing t with
  | nil => rfl
  | cons make makes ih => simp [addAll, ih]

theorem numbered_addAll {t : Table α} (h : t.Numbered key) {makes : List (Int64 → α)}
    (own : ∀ make ∈ makes, ∀ id, key (make id) = id)
    (room : t.created + makes.length < 2 ^ 63) : (t.addAll makes).2.Numbered key := by
  induction makes generalizing t with
  | nil => exact h
  | cons make makes ih =>
      simp only [List.length_cons] at room
      have first := numbered_add h (own make List.mem_cons_self) (by omega)
      have room : (t.add make).2.created + makes.length < 2 ^ 63 := by
        show t.created + 1 + makes.length < 2 ^ 63
        omega
      exact ih first (fun other mem => own other (List.mem_cons_of_mem _ mem)) room

theorem addAll_rows {t : Table α} (h : t.Numbered key) {makes : List (Int64 → α)}
    (own : ∀ make ∈ makes, ∀ id, key (make id) = id)
    (room : t.created + makes.length < 2 ^ 63) :
    (t.addAll makes).2.rows = t.rows ++ (t.addAll makes).1.map fun a => (key a, a) := by
  induction makes generalizing t with
  | nil => simp [addAll]
  | cons make makes ih =>
      simp only [List.length_cons] at room
      have mine := own make List.mem_cons_self
      have first := numbered_add h mine (by omega)
      have room' : (t.add make).2.created + makes.length < 2 ^ 63 := by
        show t.created + 1 + makes.length < 2 ^ 63
        omega
      have rest := ih first (fun other mem => own other (List.mem_cons_of_mem _ mem)) room'
      have row : (t.add make).1 = make t.nextId := rfl
      simp only [addAll, List.map_cons]
      rw [rest, add_rows h.nextId_notMem make, row, mine, List.append_assoc]
      rfl

/-- What is made for the ids that follow the first `n`. -/
def label {β : Type} (n : Nat) : List (Int64 → β) → List β
  | [] => []
  | make :: makes => make (nth n) :: label (n + 1) makes

theorem map_label {β γ : Type} (f : β → γ) (n : Nat) (makes : List (Int64 → β)) :
    (label n makes).map f = label n (makes.map fun make id => f (make id)) := by
  induction makes generalizing n with
  | nil => rfl
  | cons make makes ih => simp [label, ih]

theorem label_append {β : Type} (n : Nat) (makes more : List (Int64 → β)) :
    label n (makes ++ more) = label n makes ++ label (n + makes.length) more := by
  induction makes generalizing n with
  | nil => rfl
  | cons make makes ih =>
      have shift : n + 1 + makes.length = n + (makes.length + 1) := by omega
      simp [label, ih, shift]

theorem label_const {ι β : Type} (f : ι → β) (n : Nat) (items : List ι) :
    label n (items.map fun i _ => f i) = items.map f := by
  induction items generalizing n with
  | nil => rfl
  | cons i items ih => exact congrArg (f i :: ·) (ih (n + 1))

@[simp] theorem length_label {β : Type} (n : Nat) (makes : List (Int64 → β)) :
    (label n makes).length = makes.length := by
  induction makes generalizing n with
  | nil => rfl
  | cons make makes ih => simp [label, ih]

theorem exists_make_of_mem_label {β : Type} {n : Nat} {makes : List (Int64 → β)} {b : β}
    (h : b ∈ label n makes) : ∃ make ∈ makes, ∃ id, b = make id := by
  induction makes generalizing n with
  | nil => simp [label] at h
  | cons make makes ih =>
      rcases List.mem_cons.1 h with rfl | h
      · exact ⟨make, List.mem_cons_self, _, rfl⟩
      · obtain ⟨other, mem, id, rfl⟩ := ih h
        exact ⟨other, List.mem_cons_of_mem _ mem, id, rfl⟩

theorem addAll_fst (t : Table α) (makes : List (Int64 → α)) :
    (t.addAll makes).1 = label t.created makes := by
  induction makes generalizing t with
  | nil => rfl
  | cons make makes ih => exact congrArg (make t.nextId :: ·) (ih (t.add make).2)

theorem exists_make_of_mem_addAll {t : Table α} {makes : List (Int64 → α)} {a : α}
    (h : a ∈ (t.addAll makes).1) : ∃ make ∈ makes, ∃ id, a = make id :=
  exists_make_of_mem_label (addAll_fst t makes ▸ h)

theorem addAll_append (t : Table α) (makes more : List (Int64 → α)) :
    (t.addAll (makes ++ more)).2 = ((t.addAll makes).2.addAll more).2 := by
  induction makes generalizing t with
  | nil => rfl
  | cons make makes ih => exact ih (t.add make).2

theorem update_add (t : Table α) (make : Int64 → α) (change : α → α) :
    (t.add make).2.update t.nextId change = (t.add fun id => change (make id)).2 := by
  simp [add, update]

/-- Rows that were there may as well be changed before others are added. -/
theorem update_addAll (t : Table α) {id : Int64} (makes : List (Int64 → α))
    (other : ∀ n, t.created ≤ n → n < t.created + makes.length → nth n ≠ id) (change : α → α) :
    (t.addAll makes).2.update id change = ((t.update id change).addAll makes).2 := by
  induction makes generalizing t with
  | nil => rfl
  | cons make makes ih =>
      have first : nth t.created ≠ id := other t.created le_rfl (by simp)
      have rest : ∀ n, (t.add make).2.created ≤ n →
          n < (t.add make).2.created + makes.length → nth n ≠ id := by
        intro n lower upper
        have created : (t.add make).2.created = t.created + 1 := rfl
        rw [created] at lower upper
        exact other n (by omega) (by simp only [List.length_cons]; omega)
      have commute : (t.add make).2.update id change = ((t.update id change).add make).2 :=
        congrArg (Table.mk · _) (Keyed.update_put_of_ne t.rows first _ change)
      have later := ih (t.add make).2 rest
      rw [commute] at later
      exact later

theorem get?_add (t : Table α) (make : Int64 → α) (id : Int64) :
    (t.add make).2.get? id = if t.nextId = id then some (make t.nextId) else t.get? id := by
  by_cases h : t.nextId = id
  · rw [if_pos h, ← h]
    exact Keyed.get?_put ..
  · rw [if_neg h]
    exact Keyed.get?_put_of_ne _ h _

section

variable {t : Table α} (h : t.Numbered key) {makes : List (Int64 → α)}
  (own : ∀ make ∈ makes, ∀ id, key (make id) = id) (after : (t.addAll makes).2.Numbered key)
include h own after

theorem get?_addAll_of_mem {id : Int64} (old : id ∈ t.rows.keys) :
    (t.addAll makes).2.get? id = t.get? id := by
  obtain ⟨a, found⟩ := Keyed.exists_of_mem_keys old
  have room : t.created + makes.length < 2 ^ 63 := addAll_created t makes ▸ after.fits
  rw [get?, addAll_rows h own room, Keyed.get?_append, found, get?, found]
  rfl

theorem get?_addAll_new {a : α} (new : a ∈ (t.addAll makes).1) :
    (t.addAll makes).2.get? (key a) = some a := by
  have room : t.created + makes.length < 2 ^ 63 := addAll_created t makes ▸ after.fits
  refine after.get?_of_mem_rows ?_
  rw [addAll_rows h own room]
  exact List.mem_append_right _ (List.mem_map.2 ⟨a, new, rfl⟩)

theorem mem_addAll_of_get? {id : Int64} {a : α} (found : (t.addAll makes).2.get? id = some a)
    (new : id ∉ t.rows.keys) : a ∈ (t.addAll makes).1 := by
  have room : t.created + makes.length < 2 ^ 63 := addAll_created t makes ▸ after.fits
  have row := Keyed.mem_of_get? found
  rw [addAll_rows h own room] at row
  rcases List.mem_append.1 row with row | row
  · exact absurd (List.mem_map_of_mem (f := Prod.fst) row) new
  · obtain ⟨b, mem, same⟩ := List.mem_map.1 row
    have same : b = a := congrArg Prod.snd same
    exact same ▸ mem

theorem addAll_ascending :
    ((t.addAll makes).1.map key).Pairwise (· < ·) ∧
      ∀ id ∈ t.rows.keys, ∀ a ∈ (t.addAll makes).1, id < key a := by
  have room : t.created + makes.length < 2 ^ 63 := addAll_created t makes ▸ after.fits
  have ascending := after.ascending
  rw [addAll_rows h own room, Keyed.keys_append, List.pairwise_append] at ascending
  obtain ⟨-, new, behind⟩ := ascending
  have keys : Keyed.keys ((t.addAll makes).1.map fun a => (key a, a)) =
      (t.addAll makes).1.map key := by simp [Keyed.keys, Function.comp_def]
  rw [keys] at new behind
  exact ⟨new, fun id old a mem => behind id old _ (List.mem_map_of_mem mem)⟩

end

theorem get?_update_eq (t : Table α) (id other : Int64) (change : α → α) :
    (t.update id change).get? other =
      if id = other then (t.get? other).map change else t.get? other :=
  Keyed.get?_update_eq ..

/-- What is found after a change was there before, or it is the changed row. -/
theorem update_cases {t : Table α} {id other : Int64} {change : α → α} {a : α}
    (found : (t.update id change).get? other = some a) :
    t.get? other = some a ∨ id = other ∧ ∃ b, t.get? other = some b ∧ change b = a := by
  rw [get?_update_eq] at found
  split at found
  next same => exact .inr ⟨same, Option.map_eq_some_iff.1 found⟩
  next => exact .inl found

theorem numbered_update {t : Table α} (h : t.Numbered key) (id : Int64) {change : α → α}
    (same : ∀ a, key (change a) = key a) : (t.update id change).Numbered key := by
  have keys : (t.update id change).rows.keys = t.rows.keys := Keyed.keys_update ..
  refine ⟨keys.trans h.keys_eq, ?_, h.fits⟩
  rintro ⟨k, a⟩ mem
  have found : (t.update id change).get? k = some a := Keyed.get?_of_mem (keys ▸ h.nodup) mem
  rcases update_cases found with old | ⟨-, b, old, rfl⟩
  · exact h.key_of_get? old
  · exact (same b).trans (h.key_of_get? old)

/-- A change that leaves a feature of every row alone leaves the list of that feature alone. -/
theorem map_values_update {β : Type} (t : Table α) (id : Int64) {change : α → α} {f : α → β}
    (same : ∀ a, f (change a) = f a) : (t.update id change).values.map f = t.values.map f := by
  have rows : ∀ rows : Keyed Int64 α,
      (rows.update id change).map (fun p => f p.2) = rows.map fun p => f p.2 := by
    intro rows
    induction rows with
    | nil => rfl
    | cons p rest ih =>
        obtain ⟨k, a⟩ := p
        by_cases h : k = id <;> simp [Keyed.update, h, same, ih]
  simpa [values, update, Keyed.values, Function.comp_def] using rows t.rows

end Table

end BalancerFlows
