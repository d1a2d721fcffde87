import BalancerFlows.Proofs.Rows
import BalancerFlows.Settings.Loading
import Mathlib

/-!
# What a layer leaves where

`RawValue.at?` follows names from table to table. Laying members over a value changes what is under
their names and keeps every other member, and putting a value at the end of a path keeps what is at
the end of every path that parts from it (`RawValue.Parts`). A bare key is a path of one step, so a
layer whose keys are bare is laid over as a table is (`Layer.layOver_of_bare`).
-/
namespace BalancerFlows

namespace Layer

/-! ## Letters in lower case -/

theorem forall_ascii {P : Char → Prop} (each : ∀ n : Fin 128, P (Char.ofNat n)) {c : Char}
    (small : c.toNat < 128) : P c := by
  have := each ⟨c.toNat, small⟩
  rwa [Char.ofNat_toNat] at this

theorem toNat_lt_of_isBare {c : Char} (bare : Toml.isBare c = true) : c.toNat < 128 := by
  simp only [Toml.isBare, Bool.or_eq_true, decide_eq_true_eq] at bare
  obtain (alphanumeric | rfl) | rfl := bare
  · simp only [Char.isAlphanum, Char.isAlpha, Char.isUpper, Char.isLower, Char.isDigit,
      Bool.or_eq_true, Bool.and_eq_true, decide_eq_true_eq, UInt32.le_iff_toNat_le, ge_iff_le]
      at alphanumeric
    have : c.toNat = c.val.toNat := rfl
    have : 'Z'.val.toNat = 90 := rfl
    have : 'z'.val.toNat = 122 := rfl
    have : '9'.val.toNat = 57 := rfl
    omega
  all_goals decide

theorem isNameChar_toLower {c : Char} (bare : Toml.isBare c = true) :
    PathStep.isNameChar c.toLower = true :=
  forall_ascii (P := fun c => Toml.isBare c = true → PathStep.isNameChar c.toLower = true)
    (by decide +kernel) (toNat_lt_of_isBare bare) bare

/-- A key without quotes: letters, digits, underscores and minus signs. -/
def Bare (key : String) : Prop :=
  key.toList ≠ [] ∧ ∀ c ∈ key.toList, Toml.isBare c = true

/-- The characters of the key are looked through, not all characters that there are. -/
instance (key : String) : Decidable (Bare key) :=
  decidable_of_iff (key.toList ≠ [] ∧ key.toList.all Toml.isBare = true)
    (and_congr_right fun _ => List.all_eq_true)

theorem ofKey_lowerKey {key : String} (bare : Bare key) :
    PathStep.ofKey (lowerKey key) = [.child (lowerKey key)] := by
  have named : ∀ c ∈ (lowerKey key).toList, PathStep.isNameChar c = true := by
    simpa [lowerKey] using fun c inside => isNameChar_toLower (bare.2 c inside)
  have whole : (lowerKey key).toList.span PathStep.isNameChar = ((lowerKey key).toList, []) := by
    rw [List.span_eq_takeWhile_dropWhile, List.takeWhile_eq_self_iff.2 named,
      List.dropWhile_eq_nil_iff.2 named]
  have filled : (lowerKey key).toList ≠ [] := by simpa [lowerKey] using bare.1
  unfold PathStep.ofKey
  rw [whole]
  split
  next empty => exact absurd (Prod.mk.inj empty).1 filled
  next root rest _ same =>
    obtain ⟨rfl, rfl⟩ := Prod.mk.inj same
    simp [PathStep.behindRoot?]

end Layer

theorem PathStep.ofKey_eq_cons (key : String) :
    ∃ root steps, ofKey key = child root :: steps := by
  unfold ofKey
  split
  · exact ⟨_, _, rfl⟩
  · split <;> exact ⟨_, _, rfl⟩

namespace RawValue

def isTable : RawValue → Bool
  | table _ => true
  | _ => false

theorem isTable_iff {v : RawValue} : v.isTable = true ↔ ∃ ms, v = table ms := by
  cases v <;> simp [isTable]

theorem ne_table {v : RawValue} (scalar : v.isTable = false) (ms : List (String × RawValue)) :
    v ≠ table ms := by
  rintro rfl
  cases scalar

theorem members_of_not_table {v : RawValue} (scalar : v.isTable = false) : v.members = [] := by
  cases v <;> first | rfl | cases scalar

/-! ## Names from table to table -/

/-- The value behind some names, each the name of a member of the table before. -/
def at? : List String → RawValue → Option RawValue
  | [], v => some v
  | name :: names, v => (v.members.get? name).bind (at? names)

def path (names : List String) : List PathStep :=
  names.map .child

/-- A path and some names start alike and then go on with different names. -/
inductive Parts : List PathStep → List String → Prop where
  | here {name other : String} {steps : List PathStep} {names : List String} :
      name ≠ other → Parts (.child name :: steps) (other :: names)
  | later {name : String} {steps : List PathStep} {names : List String} :
      Parts steps names → Parts (.child name :: steps) (name :: names)

theorem Parts.at?_absent {steps : List PathStep} {names : List String} (parts : Parts steps names) :
    at? names absent = none := by
  cases parts <;> rfl

theorem at?_put {value : RawValue} (scalar : ∀ ms, value ≠ table ms) :
    ∀ (names : List String) (v : RawValue),
      ∃ w, put value (path names) v = some w ∧ at? names w = some value
  | [], v => ⟨value, by simp [path, put, laidOver_of_not_table scalar], rfl⟩
  | name :: names, v => by
      obtain ⟨w, done, there⟩ := at?_put scalar names (v.member name)
      refine ⟨table (v.members.put name w), ?_, ?_⟩
      · exact Option.bind_eq_some_iff.2 ⟨w, done, rfl⟩
      · simp [at?, there]

/-- Names that part from a path lead to where they led before. A value on the way that was no table
had no members, and the table in its place has the one on the path only. -/
theorem at?_put_of_parts {steps : List PathStep} {names : List String} (parts : Parts steps names)
    (value : RawValue) :
    ∀ {v w : RawValue}, put value steps v = some w → at? names w = at? names v := by
  induction parts with
  | here other =>
      intro v w done
      obtain ⟨inner, -, same⟩ := Option.bind_eq_some_iff.1 done
      cases same
      simp [at?, Keyed.get?_put_of_ne _ other]
  | @later name steps names apart ih =>
      intro v w done
      obtain ⟨inner, laid, same⟩ := Option.bind_eq_some_iff.1 done
      cases same
      have kept : at? names inner = at? names (v.member name) := ih laid
      simp only [at?, members_table, Keyed.get?_put, Option.bind_some, kept, member]
      cases v.members.get? name with
      | none => simp [apart.at?_absent]
      | some below => simp

/-- What is put somewhere changes the member its path starts with, and no other. -/
theorem get?_put_of_ne {steps : List PathStep} {root name : String} (other : root ≠ name)
    {value v w : RawValue} (done : put value (.child root :: steps) v = some w) :
    w.members.get? name = v.members.get? name := by
  obtain ⟨inner, -, same⟩ := Option.bind_eq_some_iff.1 done
  cases same
  simp [Keyed.get?_put_of_ne _ other]

/-! ## Members laid over a value -/

theorem overlay_cons_eq_table (current : RawValue) (m : String × RawValue)
    (ms : List (String × RawValue)) : ∃ after, overlay current (m :: ms) = table after := by
  induction ms generalizing current m with
  | nil => exact ⟨_, rfl⟩
  | cons next rest ih => exact ih _ next

theorem get?_overlay {ms : List (String × RawValue)} (distinct : (ms.map Prod.fst).Nodup)
    (current : RawValue) (name : String) :
    (overlay current ms).members.get? name =
      match Keyed.get? ms name with
      | some v => some (laidOver (current.member name) v)
      | none => current.members.get? name := by
  induction ms generalizing current with
  | nil => rfl
  | cons m rest ih =>
      obtain ⟨own, value⟩ := m
      obtain ⟨fresh, distinct⟩ := List.nodup_cons.1 distinct
      rw [overlay, ih distinct]
      by_cases same : own = name
      · subst same
        have gone : Keyed.get? rest own = none := (Keyed.get?_eq_none_iff _ _).2 fresh
        simp [gone, Keyed.get?]
      · simp [Keyed.get?, same, member, Keyed.get?_put_of_ne _ same]

end RawValue

namespace Layer

open RawValue

theorem layOver_cons (root : RawValue) (m : String × RawValue) (rest : Layer) :
    layOver root (m :: rest) =
      (put (lowered m.2) (PathStep.ofKey (lowerKey m.1)) root).bind fun v => layOver v rest :=
  List.foldlM_cons

theorem layOver_of_bare {file : Layer} (bare : ∀ m ∈ file, Bare m.1) (root : RawValue) :
    layOver root file = some (overlay root (loweredMembers file)) := by
  induction file generalizing root with
  | nil => rfl
  | cons m rest ih =>
      obtain ⟨key, value⟩ := m
      have step := ih (fun m inside => bare m (List.mem_cons_of_mem _ inside))
      have whole : put (lowered value) (PathStep.ofKey (lowerKey key)) root =
          some (table (root.members.put (lowerKey key)
            (laidOver (root.member (lowerKey key)) (lowered value)))) := by
        rw [ofKey_lowerKey (bare _ (List.mem_cons_self ..))]
        rfl
      rw [layOver_cons, whole]
      exact step _

theorem isTable_layOver {layer : Layer} {root w : RawValue} (rooted : root.isTable = true)
    (done : layOver root layer = some w) : w.isTable = true := by
  induction layer generalizing root with
  | nil =>
      cases done
      exact rooted
  | cons m rest ih =>
      rw [layOver_cons] at done
      obtain ⟨between, first, others⟩ := Option.bind_eq_some_iff.1 done
      refine ih ?_ others
      obtain ⟨start, steps, shape⟩ := PathStep.ofKey_eq_cons (lowerKey m.1)
      simp only [shape, put] at first
      obtain ⟨_, -, same⟩ := Option.bind_eq_some_iff.1 first
      cases same
      rfl

/-- The value of a table under a name, whatever the case of its letters. -/
def under? (members : List (String × RawValue)) (name : String) : Option RawValue :=
  (members.find? fun m => lowerKey m.1 = name).map Prod.snd

theorem get?_loweredMembers (members : List (String × RawValue)) (name : String) :
    Keyed.get? (loweredMembers members) name = (under? members name).map lowered := by
  induction members with
  | nil => rfl
  | cons m rest ih =>
      by_cases own : lowerKey m.1 = name
      · simp [loweredMembers, Keyed.get?, under?, own]
      · simpa [loweredMembers, Keyed.get?, under?, own] using ih

theorem keys_loweredMembers (members : List (String × RawValue)) :
    (loweredMembers members).map Prod.fst = members.map fun m => lowerKey m.1 := by
  induction members with
  | nil => rfl
  | cons m rest ih => simp [loweredMembers, ih]

end Layer
end BalancerFlows
