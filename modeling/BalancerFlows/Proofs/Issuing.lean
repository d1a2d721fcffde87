import BalancerFlows.Proofs.Retrying

/-!
# Ids as a counter issues them

A counter writes its position in decimal and moves on by its step. Reading a numeral back gives the
position again, so its ids are told apart by their numbers, in the order in which they were issued.
The counter stops where it cannot move on, and there it refuses an id that would still be in range.
Main statement: `Numbering.ids_issued_in_order`.
-/
namespace BalancerFlows

namespace Decimal

theorem digits_ne_plus (n : Nat) (rest : List Char) : digits n ≠ '+' :: rest := by
  intro signed
  have read := read?_digits n
  have refused : read? ('+' :: rest) = none := rfl
  rw [signed, refused] at read
  cases read

/-- Reading undoes writing, below the bound. -/
theorem unsigned?_text {bound n : Nat} (small : n < bound) :
    unsigned? bound (text n) = some n := by
  unfold unsigned? text
  rw [String.toList_ofList]
  split
  next rest signed => exact absurd signed (digits_ne_plus n rest)
  next =>
    rw [read?_digits]
    exact if_pos small

end Decimal

theorem ActionId.sequence?_text {n : Nat} (small : n < UInt64.size) :
    (⟨Decimal.text n⟩ : ActionId).sequence? = some (.ofNat n) := by
  rw [sequence?, Decimal.unsigned?_text small]
  rfl

/-- Both ids have a number, and the first one has the lower number. -/
def ActionId.Precedes (a b : ActionId) : Prop :=
  ∃ m n, a.sequence? = some m ∧ b.sequence? = some n ∧ m < n

theorem ActionId.Precedes.text_ne {a b : ActionId} (h : a.Precedes b) : a.text ≠ b.text := by
  intro same
  obtain ⟨m, n, first, second, lt⟩ := h
  rw [sequence?, same, ← sequence?, second, Option.some.injEq] at first
  rw [first] at lt
  exact UInt64.lt_irrefl m lt

namespace Numbering

/-- Issues `k` ids one after the other: the ids and the advanced counter, or nothing when the
counter stops before. -/
def issueMany? (n : Numbering) : Nat → Option (List ActionId × Numbering)
  | 0 => some ([], n)
  | k + 1 => do
      let (ids, last) ← n.issueMany? k
      let (id, next) ← last.issue?
      return (ids ++ [id], next)

section

variable {n : Numbering} {k : Nat}

/-- A counter that has room for `k` steps issues `k` ids. -/
theorem issueMany?_eq (room : n.next.toNat + k * n.step.toNat < UInt64.size) :
    n.issueMany? k = some ((List.range k).map n.nth, n.after k) := by
  induction k with
  | zero => rw [issueMany?, after_zero, List.range_zero, List.map_nil]
  | succ k ih =>
      have before : n.next.toNat + k * n.step.toNat < UInt64.size := by
        rw [Nat.succ_mul] at room
        omega
      rw [issueMany?, ih before]
      show (n.after k).issue? >>= _ = _
      rw [issue?_after n room, List.range_succ, List.map_append]
      rfl

theorem next_after (room : n.next.toNat + k * n.step.toNat < UInt64.size) :
    (n.after k).next.toNat = n.next.toNat + k * n.step.toNat :=
  UInt64.toNat_ofNat_of_lt' room

/-- How many ids were issued can be told from how far the counter has come. -/
theorem issued_after (moves : 0 < n.step.toNat)
    (room : n.next.toNat + k * n.step.toNat < UInt64.size) : (n.after k).issued n.next = k := by
  rw [issued, next_after room, Nat.add_sub_cancel_left]
  exact Nat.mul_div_cancel k moves

theorem sequence?_nth (room : n.next.toNat + k * n.step.toNat < UInt64.size) :
    (n.nth k).sequence? = some (n.after k).next :=
  ActionId.sequence?_text room

/-- A counter that has room for some steps has room for fewer. -/
theorem room_of_le {i : Nat} (le : i ≤ k)
    (room : n.next.toNat + k * n.step.toNat < UInt64.size) :
    n.next.toNat + i * n.step.toNat < UInt64.size := by
  have least : i * n.step.toNat ≤ k * n.step.toNat := Nat.mul_le_mul_right _ le
  omega

theorem precedes_nth (moves : 0 < n.step.toNat) {i : Nat} (lt : i < k)
    (room : n.next.toNat + k * n.step.toNat < UInt64.size) : (n.nth i).Precedes (n.nth k) := by
  have less : i * n.step.toNat < k * n.step.toNat := Nat.mul_lt_mul_of_pos_right lt moves
  have earlier := room_of_le (Nat.le_of_lt lt) room
  have below : (n.after i).next < (n.after k).next := by
    rw [UInt64.lt_iff_toNat_lt, next_after earlier, next_after room]
    omega
  exact ⟨_, _, sequence?_nth earlier, sequence?_nth room, below⟩

theorem pairwise_nth (moves : 0 < n.step.toNat)
    (room : n.next.toNat + k * n.step.toNat < UInt64.size) :
    ((List.range k).map n.nth).Pairwise ActionId.Precedes := by
  rw [List.pairwise_map]
  apply List.pairwise_lt_range.imp_of_mem
  intro i j _ inside lt
  exact precedes_nth moves lt (room_of_le (Nat.le_of_lt (List.mem_range.1 inside)) room)

theorem eq_nth_of_getElem? {i : Nat} {id : ActionId}
    (found : ((List.range k).map n.nth)[i]? = some id) : i < k ∧ id = n.nth i := by
  rw [List.getElem?_map, Option.map_eq_some_iff] at found
  obtain ⟨j, here, same⟩ := found
  obtain ⟨inside, at_j⟩ := List.getElem?_eq_some_iff.1 here
  rw [List.getElem_range] at at_j
  rw [List.length_range] at inside
  exact ⟨inside, by rw [← same, at_j]⟩

theorem take_nth {i : Nat} (le : i ≤ k) :
    ((List.range k).map n.nth).take i = (List.range i).map n.nth := by
  rw [← List.map_take, List.take_range, Nat.min_eq_left le]

theorem issue?_eq_none_iff : n.issue? = none ↔ UInt64.size ≤ n.next.toNat + n.step.toNat := by
  unfold issue?
  split
  next room => simp [room]
  next full => simpa using full

end

/-- What the ids are that a counter has issued, how many it was at any time, and where the counter
stands now. The id that comes next has a number, whether it can be issued or not. -/
structure InOrder (start step : UInt64) (ids : List ActionId) (last : Numbering) : Prop where
  sequence : ∀ i id, ids[i]? = some id →
    ∃ n, id.sequence? = some n ∧ n.toNat = start.toNat + i * max step.toNat 1
  distinct : (ids.map ActionId.text).Nodup
  ascending : ids.Pairwise ActionId.Precedes
  issued : ∀ i ≤ ids.length, ∃ stage,
    (withStep start step).issueMany? i = some (ids.take i, stage) ∧ stage.issued start = i
  next : last.next.toNat = start.toNat + ids.length * max step.toNat 1
  stops : last.issue? = none ↔ UInt64.size ≤ last.next.toNat + max step.toNat 1
  inRange : (⟨Decimal.text last.next.toNat⟩ : ActionId).sequence? = some last.next

/-- A counter issues ids as long as it has room for its steps: each one is the numeral of the
position, and they ascend. It stops as soon as it cannot move on. -/
theorem ids_issued_in_order (start step : UInt64) (k : Nat)
    (room : start.toNat + k * max step.toNat 1 < UInt64.size) :
    ∃ ids last, (withStep start step).issueMany? k = some (ids, last) ∧ ids.length = k ∧
      InOrder start step ids last := by
  have step_eq := step_withStep start step
  have moves : 0 < (withStep start step).step.toNat := by omega
  have fits : (withStep start step).next.toNat + k * (withStep start step).step.toNat <
      UInt64.size := by
    rw [step_eq]
    exact room
  have length : ((List.range k).map (withStep start step).nth).length = k := by
    rw [List.length_map, List.length_range]
  have ascending := pairwise_nth moves fits
  refine ⟨_, _, issueMany?_eq fits, length, ?_⟩
  constructor
  case sequence =>
    intro i id found
    obtain ⟨inside, same⟩ := eq_nth_of_getElem? found
    rw [same]
    have earlier := room_of_le (Nat.le_of_lt inside) fits
    have value := next_after earlier
    rw [step_eq] at value
    exact ⟨_, sequence?_nth earlier, value⟩
  case distinct => exact List.pairwise_map.2 (ascending.imp ActionId.Precedes.text_ne)
  case ascending => exact ascending
  case issued =>
    intro i le
    rw [length] at le
    have earlier := room_of_le le fits
    rw [take_nth le]
    exact ⟨_, issueMany?_eq earlier, issued_after moves earlier⟩
  case next =>
    have value := next_after fits
    rw [step_eq] at value
    rw [length]
    exact value
  case stops =>
    rw [issue?_eq_none_iff, ← step_eq]
    rfl
  case inRange => rw [ActionId.sequence?_text (UInt64.toNat_lt_size _), UInt64.ofNat_toNat]

/-- A counter just below the top of the range issues three ids. The next one, the highest number
there is, could still be written, but the counter is stuck. -/
theorem ids_issued_in_order_atTop :
    (18446744073709551612 : UInt64).toNat + 3 * max (0 : UInt64).toNat 1 < UInt64.size ∧
      ∃ ids last, (withStep 18446744073709551612 0).issueMany? 3 = some (ids, last) ∧
        ids.length = 3 ∧ InOrder 18446744073709551612 0 ids last ∧
        last.next = 18446744073709551615 ∧ last.issue? = none := by
  have room : (18446744073709551612 : UInt64).toNat + 3 * max (0 : UInt64).toNat 1 <
      UInt64.size := by decide
  obtain ⟨ids, last, issued, count, order⟩ := ids_issued_in_order 18446744073709551612 0 3 room
  have next : last.next = 18446744073709551615 := by
    rw [← UInt64.toNat_inj, order.next, count]
    rfl
  have stuck : last.issue? = none := by
    rw [order.stops, next]
    decide
  exact ⟨room, ids, last, issued, count, order, next, stuck⟩

end Numbering

end BalancerFlows
