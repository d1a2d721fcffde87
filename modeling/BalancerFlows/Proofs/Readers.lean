import BalancerFlows.Proofs.Layouts
import BalancerFlows.TextMap

/-!
# Readers of records

What makes a type readable from its layout: what is written is read back, and values that agree
are read alike. A reader of a record is built from readers of its members, and follows the known
members when each of them does.
-/
namespace BalancerFlows

/-- A type whose JSON has a layout: what is written is read back, and readers see no more than
the layout says they may. -/
class Legible (α : Type) [Wire α] where
  layout : Layout
  decode_encode (a : α) : (decode (encode a) : Option α) = some a
  agree_encode (a : α) : layout.Agree (encode a) (encode a)
  decode_congr {i j : Json} (h : layout.Agree i j) : (decode i : Option α) = decode j

namespace Legible

attribute [simp] decode_encode

/-- Every variation of what is written is read back as it was. -/
theorem decode_varied {α : Type} [Wire α] [Legible α] {a : α} {j : Json}
    (varied : (layout α).Varies (encode a) j) : (decode j : Option α) = some a := by
  rw [← decode_congr (varied.agree (agree_encode a)), decode_encode]

/-- A member with a default stands for that default where it is not kept. -/
theorem stands {α : Type} [Wire α] [Legible α] {fields : Layout.Fields} {kept : String → Bool}
    {name : String} {a default : α} {j : Json}
    (known : (name, .defaulted (encode default), layout α) ∈ fields)
    (varied : (layout α).Varies (encode a) j) :
    Layout.Stands fields kept (name, j) (name, encode (if kept name then a else default)) :=
  ⟨_, _, known, rfl, by cases h : kept name <;> simp [Presence.instead?, varied]⟩

end Legible

namespace Reading

open Layout

variable {α β : Type} {fields : Fields}

section Named

variable (ms : List (String × Json))

@[simp] theorem bind_named (reader : Reading α) (next : α → Reading β) :
    (reader >>= next) (.named ms) = (reader (.named ms)).bind fun p => next p.1 p.2 := rfl

@[simp] theorem map_named (f : α → β) (reader : Reading α) :
    (f <$> reader) (.named ms) = (reader (.named ms)).map fun p => (f p.1, p.2) := by
  cases h : reader (.named ms) <;> simp [Functor.map, StateT.map, h]

@[simp] theorem pure_named (a : α) : (pure a : Reading α) (.named ms) = some (a, .named ms) := rfl

@[simp] theorem required_eq [Wire α] (name : String) :
    (required name : Reading α) (.named ms) =
      ((ms.lookup name).bind decode).map (·, .named ms) := by
  cases h : ms.lookup name <;> simp [required, h]

@[simp] theorem optional_named [Wire α] (name : String) :
    (optional name : Reading (Option α)) (.named ms) =
      (((ms.lookup name).or (some .null)).bind decode).map (·, .named ms) := by
  cases h : ms.lookup name <;> simp [optional, h, Wire.decode]

@[simp] theorem defaulted_named [Wire α] (name : String) (default : α) :
    (defaulted name default) (.named ms) =
      (match ms.lookup name with
        | some j => decode j
        | none => some default).map (·, .named ms) := by
  cases h : ms.lookup name <;> simp [defaulted, h]

@[simp] theorem readRecord_named (reader : Reading α) :
    readRecord reader (.obj ms) =
      (reader (.named ms)).bind fun p => if p.2.isUsedUp then some p.1 else none := rfl

end Named

/-- Whatever the reader gives is as stated. -/
def Only (P : α → Prop) (reader : Reading α) : Prop :=
  ∀ m a rest, reader m = some (a, rest) → P a

namespace Only

variable {P : α → Prop}

theorem pure {a : α} (h : P a) : Only P (pure a) := by
  rintro _ _ _ ⟨⟩
  exact h

theorem bind {reader : Reading β} {next : β → Reading α} (h : ∀ b, Only P (next b)) :
    Only P (reader >>= next) := by
  intro m a rest given
  obtain ⟨⟨b, m'⟩, -, given⟩ := Option.bind_eq_some_iff.1 given
  exact h b m' a rest given

theorem readRecord {reader : Reading α} (only : Only P reader) {j : Json} {a : α}
    (h : readRecord reader j = some a) : P a := by
  obtain ⟨m, -, h⟩ := Option.bind_eq_some_iff.1 h
  obtain ⟨⟨b, rest⟩, given, h⟩ := Option.bind_eq_some_iff.1 h
  dsimp only at h
  split at h
  · cases h
    exact only m a rest given
  · cases h

end Only

/-- A reader that gives the same on any two objects whose known members agree, and looks at no
other member. -/
def Follows (fields : Fields) (reader : Reading α) : Prop :=
  ∀ ms ms', Agree (.record fields) (.obj ms) (.obj ms') → ∃ read : Option α,
    reader (.named ms) = read.map (·, .named ms) ∧ reader (.named ms') = read.map (·, .named ms')

namespace Follows

theorem pure (a : α) : Follows fields (pure a) :=
  fun _ _ _ => ⟨some a, rfl, rfl⟩

theorem bind {reader : Reading α} {next : α → Reading β} (first : Follows fields reader)
    (second : ∀ a, Follows fields (next a)) : Follows fields (reader >>= next) := by
  intro ms ms' agree
  obtain ⟨read, h, h'⟩ := first ms ms' agree
  cases read with
  | none => exact ⟨none, by simp [Bind.bind, StateT.bind, h], by simp [Bind.bind, StateT.bind, h']⟩
  | some a =>
      obtain ⟨read, hn, hn'⟩ := second a ms ms' agree
      refine ⟨read, ?_, ?_⟩
      · simp [Bind.bind, StateT.bind, h, hn]
      · simp [Bind.bind, StateT.bind, h', hn']

theorem member [Wire α] {reader : Reading α} {name : String} {presence : Presence} {l : Layout}
    (known : (name, presence, l) ∈ fields)
    (congr : ∀ {i j : Json}, Agree l i j → (decode i : Option α) = decode j)
    (reads : ∀ ms, reader (.named ms) = ((seen ms name presence).bind decode).map (·, .named ms)) :
    Follows fields reader := by
  intro ms ms' agree
  refine ⟨(seen ms name presence).bind decode, reads ms, ?_⟩
  rw [reads ms']
  obtain ⟨h, h'⟩ | ⟨i, j, h, h', inner⟩ := agree.member known
  · rw [h, h']
  · rw [h, h', Option.bind_some, Option.bind_some, congr inner]

theorem required [Wire α] [Legible α] {name : String}
    (known : (name, .required, Legible.layout α) ∈ fields) :
    Follows fields (required name : Reading α) :=
  member known Legible.decode_congr fun ms => by
    rw [required_eq, seen, Presence.instead?, Option.or_none]

theorem optional [Wire α] [Legible (Option α)] {name : String}
    (known : (name, .optional, Legible.layout (Option α)) ∈ fields) :
    Follows fields (optional name : Reading (Option α)) :=
  member known Legible.decode_congr fun ms => by rw [optional_named]; rfl

theorem defaulted [Wire α] [Legible α] {name : String} {default : α}
    (known : (name, .defaulted (encode default), Legible.layout α) ∈ fields) :
    Follows fields (defaulted name default) :=
  member known Legible.decode_congr fun ms => by
    rw [defaulted_named]
    cases h : ms.lookup name <;> simp [seen, Presence.instead?, h]

/-- A record is read alike from objects whose known members agree. -/
theorem readRecord {reader : Reading α} (follows : Follows fields reader) {i j : Json}
    (h : Agree (.record fields) i j) : readRecord reader i = readRecord reader j := by
  cases h with
  | @record _ ms ms' distinct single single' both inner =>
      obtain ⟨read, h, h'⟩ := follows ms ms' (.record distinct single single' both inner)
      rw [readRecord_obj, readRecord_obj, h, h']
      cases read <;> rfl

end Follows

end Reading

open Layout Legible

/-! ### Plain values -/

namespace Legible

/-- A type whose JSON is looked at as a whole. -/
@[reducible] def ofPlain {α : Type} [Wire α]
    (read_back : ∀ a : α, (decode (encode a) : Option α) = some a) : Legible α where
  layout := .plain
  decode_encode := read_back
  agree_encode _ := .plain _
  decode_congr := by rintro _ _ ⟨⟩; rfl

/-- A plain type that never writes null, with null for none. -/
@[reducible] def ofOption {α : Type} [Wire α] [Legible α] (solid : ∀ a : α, encode a ≠ .null) :
    Legible (Option α) :=
  ofPlain fun
    | none => rfl
    | some a => by
        have : (decode (encode a) : Option (Option α)) = (decode (encode a)).map some := by
          cases h : encode a <;> first | rfl | exact absurd h (solid a)
        change decode (encode a) = _
        rw [this, decode_encode, Option.map_some]

end Legible

instance : Legible String := .ofPlain fun _ => rfl

instance : Legible UInt16 := .ofPlain fun n => by
  have := n.toNat_lt
  simp [decode, encode, Json.intWithin, UInt16.size]
  omega

instance : Legible UInt32 := .ofPlain fun n => by
  have := n.toNat_lt
  simp [decode, encode, Json.intWithin, UInt32.size]
  omega

instance : Legible UInt64 := .ofPlain fun n => by
  have := n.toNat_lt
  simp [decode, encode, Json.intWithin, UInt64.size]
  omega

instance : Legible Int64 := .ofPlain fun n => by
  have := n.le_toInt
  have := n.toInt_le
  simp [decode, encode, Json.intWithin, *]
  omega

instance : Legible (Option String) := .ofOption fun _ => nofun

instance : Legible (Option Int64) := .ofOption fun _ => nofun

instance : Legible (Option UInt16) := .ofOption fun _ => nofun

instance : Legible (Option UInt32) := .ofOption fun _ => nofun

/-! ### Lists -/

instance {α : Type} [Wire α] [Legible α] : Legible (List α) where
  layout := .items (layout α)
  decode_encode as := by
    change Json.decodeItems (as.map encode) = some as
    induction as with
    | nil => rfl
    | cons a as ih => simp [Json.decodeItems, ih]
  agree_encode as := by
    refine .items rfl fun n i j hi hj => ?_
    cases hi.symm.trans hj
    rw [List.getElem?_map] at hi
    obtain ⟨a, -, rfl⟩ := Option.map_eq_some_iff.1 hi
    exact agree_encode a
  decode_congr := by
    rintro _ _ (_ | _ | @⟨_, is, js, length, inner⟩)
    change Json.decodeItems is = Json.decodeItems js
    induction is generalizing js with
    | nil => cases js with
      | nil => rfl
      | cons => cases length
    | cons i is ih => cases js with
      | nil => cases length
      | cons j js =>
          have head := decode_congr (inner 0 i j rfl rfl)
          have tail := ih (Nat.succ.inj length) fun n => inner (n + 1)
          simp [Json.decodeItems, head, tail]

/-! ### Texts by key -/

namespace TextMap

theorem perm_insertEntry {key value : String} {entries : List (String × String)}
    (new : key ∉ entries.map Prod.fst) :
    (insertEntry key value entries).Perm ((key, value) :: entries) := by
  induction entries with
  | nil => exact .refl _
  | cons head tail ih =>
      obtain ⟨k, v⟩ := head
      simp only [List.map_cons, List.mem_cons, not_or] at new
      simp only [insertEntry]
      split
      next => exact ((ih new.2).cons (k, v)).trans (.swap _ _ _)
      next => rw [if_neg (Ne.symm new.1)]

theorem perm_foldl_insert {pairs : List (String × String)} {m : TextMap}
    (nodup : ((m.entries ++ pairs).map Prod.fst).Nodup) :
    (pairs.foldl (fun m p => m.insert p.1 p.2) m).entries.Perm (m.entries ++ pairs) := by
  induction pairs generalizing m with
  | nil => simp
  | cons p rest ih =>
      have moved : (m.entries ++ p :: rest).Perm (p :: m.entries ++ rest) := List.perm_middle
      have nodup' := (moved.map Prod.fst).nodup_iff.1 nodup
      have new : p.1 ∉ m.entries.map Prod.fst := by
        simp at nodup'
        simp [nodup'.1]
      have inserted : (m.insert p.1 p.2).entries.Perm (p :: m.entries) := perm_insertEntry new
      have both := inserted.append_right rest
      have done := ih ((both.map Prod.fst).nodup_iff.2 nodup')
      exact (done.trans both).trans moved.symm

theorem perm_ofList {pairs : List (String × String)} (nodup : (pairs.map Prod.fst).Nodup) :
    (ofList pairs).entries.Perm pairs :=
  perm_foldl_insert (m := {}) nodup

theorem eq_of_perm {m m' : TextMap} (h : m.entries.Perm m'.entries) : m = m' := by
  obtain ⟨entries, ascending⟩ := m
  obtain ⟨entries', ascending'⟩ := m'
  congr 1
  have antisymm : ∀ a b : String × String, a ∈ entries → b ∈ entries' → a.1 < b.1 → b.1 < a.1 →
      a = b := fun a b _ _ lt gt => absurd (String.lt_trans lt gt) (String.lt_irrefl _)
  exact h.eq_of_pairwise antisymm ascending ascending'

theorem nodup_keys (m : TextMap) : (m.entries.map Prod.fst).Nodup := by
  rw [List.Nodup, List.pairwise_map]
  exact m.ascending.imp fun {a b} (lt : a.1 < b.1) same => String.lt_irrefl _ (same ▸ lt)

theorem readPairs_map (entries : List (String × String)) :
    readPairs (entries.map fun e => (e.1, .str e.2)) = some entries := by
  induction entries with
  | nil => rfl
  | cons e rest ih => simp [readPairs, ih]

theorem readPairs_cons {m : String × Json} {rest : List (String × Json)}
    {pairs : List (String × String)} (h : readPairs (m :: rest) = some pairs) :
    ∃ v pairs', m.2 = .str v ∧ readPairs rest = some pairs' ∧ pairs = (m.1, v) :: pairs' := by
  obtain ⟨k, j⟩ := m
  cases j with
  | str v =>
      obtain ⟨pairs', h', rfl⟩ := Option.map_eq_some_iff.1 h
      exact ⟨v, pairs', rfl, h', rfl⟩
  | _ => cases h

theorem keys_of_readPairs {ms : List (String × Json)} {pairs : List (String × String)}
    (h : readPairs ms = some pairs) : pairs.map Prod.fst = ms.map Prod.fst := by
  induction ms generalizing pairs with
  | nil => cases h; rfl
  | cons m rest ih =>
      obtain ⟨v, pairs', -, h', rfl⟩ := readPairs_cons h
      simp [ih h']

theorem readPairs_perm {ms ms' : List (String × Json)} {pairs : List (String × String)}
    (moved : ms.Perm ms') (h : readPairs ms = some pairs) :
    ∃ pairs', readPairs ms' = some pairs' ∧ pairs.Perm pairs' := by
  induction moved generalizing pairs with
  | nil => exact ⟨pairs, h, .refl _⟩
  | cons m _ ih =>
      obtain ⟨k, j⟩ := m
      obtain ⟨v, rest, rfl, h', rfl⟩ := readPairs_cons h
      obtain ⟨rest', h'', moved⟩ := ih h'
      exact ⟨(k, v) :: rest', by simp [readPairs, h''], moved.cons _⟩
  | swap m n rest =>
      obtain ⟨⟨k, j⟩, k', j'⟩ := m, n
      obtain ⟨v, pairs, rfl, h', rfl⟩ := readPairs_cons h
      obtain ⟨v', pairs, rfl, h'', rfl⟩ := readPairs_cons h'
      exact ⟨_, by simp [readPairs, h''], .swap _ _ _⟩
  | trans _ _ ih₁ ih₂ =>
      obtain ⟨pairs', h', moved⟩ := ih₁ h
      obtain ⟨pairs'', h'', moved'⟩ := ih₂ h'
      exact ⟨pairs'', h'', moved.trans moved'⟩

/-- Objects of distinct keys read as the same map in every order of their members. -/
theorem decode_perm {ms ms' : List (String × Json)} (distinct : (ms.map Prod.fst).Nodup)
    (moved : ms.Perm ms') : (decode (.obj ms) : Option TextMap) = decode (.obj ms') := by
  change (readPairs ms).map ofList = (readPairs ms').map ofList
  cases h : readPairs ms with
  | none =>
      cases h' : readPairs ms' with
      | none => rfl
      | some pairs =>
          obtain ⟨_, absurd, -⟩ := readPairs_perm moved.symm h'
          rw [h] at absurd
          cases absurd
  | some pairs =>
      obtain ⟨pairs', h', same⟩ := readPairs_perm moved h
      have distinct : (pairs.map Prod.fst).Nodup := keys_of_readPairs h ▸ distinct
      have distinct' := (same.map Prod.fst).nodup_iff.1 distinct
      rw [h', Option.map_some, Option.map_some,
        eq_of_perm (((perm_ofList distinct).trans same).trans (perm_ofList distinct').symm)]

end TextMap

instance : Legible TextMap where
  layout := .data
  decode_encode m := by
    change (TextMap.readPairs _).map TextMap.ofList = some m
    have same := TextMap.eq_of_perm (TextMap.perm_ofList m.nodup_keys)
    rw [TextMap.readPairs_map, Option.map_some, same]
  agree_encode m := .data (by simpa [Function.comp_def] using m.nodup_keys) (.refl _)
  decode_congr := by
    rintro _ _ (_ | ⟨distinct, moved⟩)
    exact TextMap.decode_perm distinct moved

end BalancerFlows
