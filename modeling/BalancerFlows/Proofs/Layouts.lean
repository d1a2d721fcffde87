import BalancerFlows.Json.Basic
import Mathlib.Data.List.Nodup
import Mathlib.Data.List.Sort

/-!
# Layouts

What a reader may rely on in the JSON of a record. A layout says which members a value has, which
of them may be left out and what then stands for them, and where an object is data. Two values of
one layout vary in the order of members, in members nobody knows and in members that say what
their absence says; they agree when all that a reader of the layout looks at is the same. Every
variation keeps agreement, so a reader that sees no more than agreement reads both alike.
-/
namespace BalancerFlows

/-- Whether a member of a record has to be there, and what its absence reads as. -/
inductive Presence where
  | required
  | optional
  | defaulted (value : Json)
  deriving DecidableEq

/-- What stands for a member that is absent. -/
def Presence.instead? : Presence → Option Json
  | .required => none
  | .optional => some .null
  | .defaulted value => some value

/-- The shape of the JSON of a type. A `tagged` object has the members of the case that the text
of its tag names, beside the tag. -/
inductive Layout where
  | plain
  | data
  | items (each : Layout)
  | record (members : List (String × Presence × Layout))
  | tagged (tag : String) (cases : List (String × List (String × Presence × Layout)))

namespace Layout

/-- The known members of a record, by name. -/
abbrev Fields := List (String × Presence × Layout)

/-- The members of a case, with its tag. -/
abbrev withTag (tag : String) (fields : Fields) : Fields :=
  (tag, .required, .plain) :: fields

/-- One JSON value is made from another by steps that leave what it says as it is: the members of
an object change places, a member of an unknown name is added to a record, one that reads as its
absence is left out, or such a step is made within a member or an item. -/
inductive Varies : Layout → Json → Json → Prop where
  | same {l : Layout} (j : Json) : Varies l j j
  | trans {l : Layout} {i j k : Json} (first : Varies l i j) (second : Varies l j k) : Varies l i k
  | permute {fields : Fields} {ms ms' : List (String × Json)} (moved : ms.Perm ms') :
      Varies (.record fields) (.obj ms) (.obj ms')
  | permuteData {ms ms' : List (String × Json)} (moved : ms.Perm ms') :
      Varies .data (.obj ms) (.obj ms')
  | add {fields : Fields} {name : String} (unknown : name ∉ fields.map Prod.fst) (value : Json)
      (ms : List (String × Json)) :
      Varies (.record fields) (.obj ms) (.obj ((name, value) :: ms))
  | leaveOut {fields : Fields} {name : String} {presence : Presence} {l : Layout} {value : Json}
      (known : (name, presence, l) ∈ fields) (instead : presence.instead? = some value)
      (ms : List (String × Json)) :
      Varies (.record fields) (.obj ((name, value) :: ms)) (.obj ms)
  | within {fields : Fields} {name : String} {presence : Presence} {l : Layout} {i j : Json}
      (known : (name, presence, l) ∈ fields) (inner : Varies l i j) (ms : List (String × Json)) :
      Varies (.record fields) (.obj ((name, i) :: ms)) (.obj ((name, j) :: ms))
  | item {each : Layout} {i j : Json} (inner : Varies each i j) (before after : List Json) :
      Varies (.items each) (.arr (before ++ i :: after)) (.arr (before ++ j :: after))
  | underTag {tag text : String} {cases : List (String × Fields)} {fields : Fields}
      {ms ms' : List (String × Json)} (found : cases.lookup text = some fields)
      (named : ms.lookup tag = some (.str text))
      (inner : Varies (.record (withTag tag fields)) (.obj ms) (.obj ms')) :
      Varies (.tagged tag cases) (.obj ms) (.obj ms')

/-- What a reader sees of one member. -/
def seen (ms : List (String × Json)) (name : String) (presence : Presence) : Option Json :=
  (ms.lookup name).or presence.instead?

/-- No known member is given twice. -/
def Single (fields : Fields) (ms : List (String × Json)) : Prop :=
  ∀ name ∈ fields.map Prod.fst, (ms.map Prod.fst).count name ≤ 1

/-- Two JSON values have the layout and look the same to its readers. -/
inductive Agree : Layout → Json → Json → Prop where
  | plain (j : Json) : Agree .plain j j
  | data {ms ms' : List (String × Json)} (distinct : (ms.map Prod.fst).Nodup)
      (moved : ms.Perm ms') : Agree .data (.obj ms) (.obj ms')
  | items {each : Layout} {is js : List Json} (length : is.length = js.length)
      (inner : ∀ (n : Nat) (i j : Json), is[n]? = some i → js[n]? = some j → Agree each i j) :
      Agree (.items each) (.arr is) (.arr js)
  | record {fields : Fields} {ms ms' : List (String × Json)}
      (distinct : (fields.map Prod.fst).Nodup) (single : Single fields ms)
      (single' : Single fields ms')
      (both : ∀ name presence l, (name, presence, l) ∈ fields →
        (seen ms name presence).isSome = (seen ms' name presence).isSome)
      (inner : ∀ name presence l i j, (name, presence, l) ∈ fields →
        seen ms name presence = some i → seen ms' name presence = some j → Agree l i j) :
      Agree (.record fields) (.obj ms) (.obj ms')
  | tagged {tag text : String} {cases : List (String × Fields)} {fields : Fields}
      {ms ms' : List (String × Json)} (found : cases.lookup text = some fields)
      (named : ms.lookup tag = some (.str text))
      (inner : Agree (.record (withTag tag fields)) (.obj ms) (.obj ms')) :
      Agree (.tagged tag cases) (.obj ms) (.obj ms')

section Members

variable {name : String} {ms ms' : List (String × Json)}

theorem lookup_eq_none_of_count (h : (ms.map Prod.fst).count name = 0) : ms.lookup name = none := by
  rw [List.lookup_eq_none_iff]
  intro p hp
  have := List.count_eq_zero.1 h
  simp only [List.mem_map, not_exists, not_and] at this
  simpa using (Ne.symm (this p hp))

theorem lookup_perm (moved : ms.Perm ms') (once : (ms.map Prod.fst).count name ≤ 1) :
    ms.lookup name = ms'.lookup name := by
  induction moved with
  | nil => rfl
  | cons p _ ih =>
      obtain ⟨k, v⟩ := p
      simp only [List.lookup_cons]
      cases name == k with
      | true => rfl
      | false => exact ih (by rw [List.map_cons, List.count_cons] at once; omega)
  | swap p q rest =>
      obtain ⟨k, v⟩ := p
      obtain ⟨k', v'⟩ := q
      simp only [List.lookup_cons]
      cases hk : name == k <;> cases hk' : name == k' <;> try rfl
      simp only [beq_iff_eq] at hk hk'
      simp [← hk, ← hk'] at once
  | trans first _ ih₁ ih₂ =>
      exact (ih₁ once).trans (ih₂ ((first.map Prod.fst).count_eq name ▸ once))

theorem seen_cons_of_ne {other : String} {presence : Presence} (h : name ≠ other) (j : Json) :
    seen ((other, j) :: ms) name presence = seen ms name presence := by
  have : (name == other) = false := by simpa using h
  simp [seen, List.lookup_cons, this]

theorem seen_cons_self (presence : Presence) (j : Json) :
    seen ((name, j) :: ms) name presence = some j := by
  simp [seen]

end Members

namespace Agree

variable {l : Layout} {fields : Fields} {i j k : Json} {ms ms' : List (String × Json)}

/-- A known member is seen in both of two records that agree, or in neither. -/
theorem member {name : String} {presence : Presence}
    (h : Agree (.record fields) (.obj ms) (.obj ms')) (known : (name, presence, l) ∈ fields) :
    (seen ms name presence = none ∧ seen ms' name presence = none) ∨
      ∃ i j, seen ms name presence = some i ∧ seen ms' name presence = some j ∧ Agree l i j := by
  cases h with
  | record _ _ _ both inner =>
      have both := both name presence l known
      cases hi : seen ms name presence with
      | none => exact .inl ⟨rfl, by simpa [hi] using both.symm⟩
      | some i =>
          rw [hi] at both
          obtain ⟨j, hj⟩ := Option.isSome_iff_exists.1 both.symm
          exact .inr ⟨i, j, rfl, hj, inner name presence l i j known hi hj⟩

theorem lookup_tag {tag text : String}
    (h : Agree (.record (withTag tag fields)) (.obj ms) (.obj ms'))
    (named : ms.lookup tag = some (.str text)) : ms'.lookup tag = some (.str text) := by
  have given : seen ms tag .required = some (.str text) := by simp [seen, named]
  obtain ⟨absent, -⟩ | ⟨i, j, hi, hj, inner⟩ :=
    h.member (show (tag, .required, .plain) ∈ withTag tag fields from List.mem_cons_self)
  · simp [given] at absent
  · cases given.symm.trans hi
    cases inner
    simpa [seen, Presence.instead?] using hj

theorem symm (h : Agree l i j) : Agree l j i := by
  induction h with
  | plain j => exact .plain j
  | data distinct moved =>
      exact .data ((moved.map Prod.fst).nodup_iff.1 distinct) moved.symm
  | items length _ ih => exact .items length.symm fun n i j hi hj => ih n j i hj hi
  | record distinct single single' both _ ih =>
      exact .record distinct single' single (fun name p l known => (both name p l known).symm)
        fun name p l i j known hi hj => ih name p l j i known hj hi
  | tagged found named inner ih => exact .tagged found (inner.lookup_tag named) ih

theorem trans (h : Agree l i j) (h' : Agree l j k) : Agree l i k := by
  induction h generalizing k with
  | plain j => exact h'
  | data distinct moved =>
      cases h' with
      | data _ moved' => exact .data distinct (moved.trans moved')
  | @items _ is js length _ ih =>
      cases h' with
      | items length' inner' =>
          refine .items (length.trans length') fun n i k hi hk => ?_
          have lt : n < js.length := length ▸ (List.getElem?_eq_some_iff.1 hi).1
          have hj : js[n]? = some js[n] := List.getElem?_eq_getElem lt
          exact ih n i js[n] hi hj (inner' n js[n] k hj hk)
  | record distinct single _ both _ ih =>
      cases h' with
      | record _ _ single'' both' inner' =>
          refine .record distinct single single''
            (fun name p l known => (both name p l known).trans (both' name p l known))
            fun name p l i k known hi hk => ?_
          obtain ⟨j, hj⟩ := Option.isSome_iff_exists.1
            ((both name p l known).symm.trans (by rw [hi]; rfl))
          exact ih name p l i j known hi hj (inner' name p l j k known hj hk)
  | tagged found named inner ih =>
      cases h' with
      | tagged found' named' inner' =>
          cases (inner.lookup_tag named).symm.trans named'
          cases found.symm.trans found'
          exact .tagged found named (ih inner')

theorem record_self (distinct : (fields.map Prod.fst).Nodup) (single : Single fields ms)
    (inner : ∀ field ∈ fields, ∀ j, seen ms field.1 field.2.1 = some j → Agree field.2.2 j j) :
    Agree (.record fields) (.obj ms) (.obj ms) :=
  .record distinct single single (fun _ _ _ _ => rfl) fun name p l i j known hi hj => by
    cases hi.symm.trans hj
    exact inner (name, p, l) known i hi

theorem lookup_written {field : String × Presence × Layout}
    (distinct : (fields.map Prod.fst).Nodup)
    (each : List.Forall₂ (fun field m => m.1 = field.1 ∧ Agree field.2.2 m.2 m.2) fields ms)
    (known : field ∈ fields) : ∃ j, ms.lookup field.1 = some j ∧ Agree field.2.2 j j := by
  induction each with
  | nil => cases known
  | @cons first m _ _ head _ ih =>
      obtain ⟨k, j⟩ := m
      obtain ⟨rfl, self⟩ := head
      obtain ⟨new, distinct⟩ := List.nodup_cons.1 distinct
      obtain rfl | known := List.mem_cons.1 known
      · exact ⟨j, by simp, self⟩
      · have differ : (field.1 == first.1) = false := by
          simpa using fun same : field.1 = first.1 => new (same ▸ List.mem_map_of_mem known)
        simpa [List.lookup_cons, differ] using ih distinct known

/-- An object written with exactly the known members, in order, agrees with itself. -/
theorem written (distinct : (fields.map Prod.fst).Nodup)
    (each : List.Forall₂ (fun field m => m.1 = field.1 ∧ Agree field.2.2 m.2 m.2) fields ms) :
    Agree (.record fields) (.obj ms) (.obj ms) := by
  have names : ms.map Prod.fst = fields.map Prod.fst := by
    clear distinct
    induction each with
    | nil => rfl
    | cons head _ ih => rw [List.map_cons, List.map_cons, head.1, ih]
  refine record_self distinct
    (fun name _ => List.nodup_iff_count_le_one.1 (names ▸ distinct) name) fun field known j h => ?_
  obtain ⟨i, found, self⟩ := lookup_written distinct each known
  cases (by simpa [seen, found] using h : i = j)
  exact self

end Agree

section Steps

variable {l : Layout} {fields : Fields} {name : String} {presence : Presence} {i j : Json}
  {ms ms' : List (String × Json)}

theorem eq_of_known (distinct : (fields.map Prod.fst).Nodup) {other other' : Presence × Layout}
    (known : (name, other) ∈ fields) (known' : (name, other') ∈ fields) : other = other' :=
  congrArg Prod.snd (List.inj_on_of_nodup_map distinct known known' rfl)

/-- Objects whose known members look the same agree when one of them agrees with itself. -/
theorem Agree.of_seen (self : Agree (.record fields) (.obj ms) (.obj ms))
    (single : Single fields ms')
    (same : ∀ name p l, (name, p, l) ∈ fields → seen ms' name p = seen ms name p) :
    Agree (.record fields) (.obj ms) (.obj ms') := by
  cases self with
  | record distinct single₀ _ _ inner =>
      exact .record distinct single₀ single (fun name p l known => by rw [same name p l known])
        fun name p l i j known hi hj => inner name p l i j known hi (same name p l known ▸ hj)

theorem agree_permute (moved : ms.Perm ms') (self : Agree (.record fields) (.obj ms) (.obj ms)) :
    Agree (.record fields) (.obj ms) (.obj ms') := by
  cases self with
  | record distinct single _ both inner =>
      refine Agree.of_seen (.record distinct single single both inner)
        (fun name known => (moved.map Prod.fst).count_eq name ▸ single name known)
        fun name p l known => ?_
      rw [seen, seen, lookup_perm moved (single name (List.mem_map_of_mem known))]

theorem agree_add (unknown : name ∉ fields.map Prod.fst) (value : Json)
    (self : Agree (.record fields) (.obj ms) (.obj ms)) :
    Agree (.record fields) (.obj ms) (.obj ((name, value) :: ms)) := by
  have differ {other : String} (known : other ∈ fields.map Prod.fst) : other ≠ name :=
    fun same => unknown (same ▸ known)
  cases self with
  | record distinct single _ both inner =>
      refine Agree.of_seen (.record distinct single single both inner) (fun other known => ?_)
        fun other p l known => seen_cons_of_ne (differ (List.mem_map_of_mem known)) value
      rw [List.map_cons, List.count_cons_of_ne (differ known).symm]
      exact single other known

theorem agree_leaveOut {value : Json} (known : (name, presence, l) ∈ fields)
    (instead : presence.instead? = some value)
    (self : Agree (.record fields) (.obj ((name, value) :: ms)) (.obj ((name, value) :: ms))) :
    Agree (.record fields) (.obj ((name, value) :: ms)) (.obj ms) := by
  cases self with
  | record distinct single _ both inner =>
      have none_left : (ms.map Prod.fst).count name = 0 := by
        have := single name (List.mem_map_of_mem known)
        simpa using this
      refine Agree.of_seen (.record distinct single single both inner)
        (fun other known => (List.count_le_count_cons).trans (single other known))
        fun other p l' known' => ?_
      by_cases same : other = name
      · subst same
        cases eq_of_known distinct known known'
        rw [seen_cons_self, seen, lookup_eq_none_of_count none_left, instead]
        rfl
      · rw [seen_cons_of_ne same]

theorem agree_within (known : (name, presence, l) ∈ fields)
    (inner' : Agree l i i → Agree l i j)
    (self : Agree (.record fields) (.obj ((name, i) :: ms)) (.obj ((name, i) :: ms))) :
    Agree (.record fields) (.obj ((name, i) :: ms)) (.obj ((name, j) :: ms)) := by
  cases self with
  | record distinct single _ both inner =>
      refine .record distinct single (fun other known => by simpa using single other known)
        (fun other p l' known' => ?_) fun other p l' i' j' known' hi hj => ?_
      · by_cases same : other = name
        · subst same
          rw [seen_cons_self, seen_cons_self]
          rfl
        · rw [seen_cons_of_ne same, seen_cons_of_ne same]
      · by_cases same : other = name
        · subst same
          cases eq_of_known distinct known known'
          have self := inner _ _ _ _ _ known hi hi
          cases (seen_cons_self presence i).symm.trans hi
          cases (seen_cons_self presence j).symm.trans hj
          exact inner' self
        · rw [seen_cons_of_ne same] at hi hj
          exact inner other p l' i' j' known' (by rw [seen_cons_of_ne same, hi])
            (by rw [seen_cons_of_ne same, hj])

theorem agree_item {each : Layout} (inner' : Agree each i i → Agree each i j)
    (before after : List Json)
    (self : Agree (.items each) (.arr (before ++ i :: after)) (.arr (before ++ i :: after))) :
    Agree (.items each) (.arr (before ++ i :: after)) (.arr (before ++ j :: after)) := by
  cases self with
  | items _ inner =>
      refine .items (by simp) fun n i' j' hi hj => ?_
      rw [List.getElem?_append] at hj
      split at hj
      next lt =>
        exact inner n i' j' hi (by rw [List.getElem?_append, if_pos lt, hj])
      next le =>
        cases at_ : n - before.length with
        | zero =>
            have hi' : i' = i := by
              rw [List.getElem?_append, if_neg le, at_] at hi
              exact (Option.some.inj hi).symm
            rw [at_] at hj
            cases hj
            subst hi'
            exact inner' (inner n i' i' hi hi)
        | succ m =>
            rw [at_] at hj
            exact inner n i' j' hi (by rw [List.getElem?_append, if_neg le, at_]; exact hj)

/-- A variation of a value that has the layout agrees with it. -/
theorem Varies.agree (h : Varies l i j) (self : Agree l i i) : Agree l i j := by
  induction h with
  | same => exact self
  | trans _ _ ih₁ ih₂ =>
      have first := ih₁ self
      exact first.trans (ih₂ (first.symm.trans first))
  | permute moved => exact agree_permute moved self
  | permuteData moved =>
      cases self with
      | data distinct _ => exact .data distinct moved
  | add unknown value ms => exact agree_add unknown value self
  | leaveOut known instead ms => exact agree_leaveOut known instead self
  | within known _ ms ih => exact agree_within known ih self
  | item _ before after ih => exact agree_item ih before after self
  | underTag found named _ ih =>
      cases self with
      | tagged found' named' inner =>
          cases named.symm.trans named'
          cases found.symm.trans found'
          exact .tagged found named (ih inner)

end Steps

end Layout

section Keeping

variable {fields : Layout.Fields}

/-- The object with only the members of the names that are kept. -/
def Json.keep (kept : String → Bool) : Json → Json
  | .obj ms => .obj (ms.filter fun m => kept m.1)
  | j => j

/-- The object with each member changed in place. -/
def Json.inside (change : String → Json → Json) : Json → Json
  | .obj ms => .obj (ms.map fun m => (m.1, change m.1 m.2))
  | j => j

namespace Layout

/-- A member `m` stands for `whole`: it is a variation of it, or it is not kept and its absence
reads as `whole`. -/
def Stands (fields : Fields) (kept : String → Bool) (m whole : String × Json) : Prop :=
  ∃ presence l, (m.1, presence, l) ∈ fields ∧ m.1 = whole.1 ∧
    if kept m.1 then Varies l whole.2 m.2 else presence.instead? = some whole.2

theorem varies_keep_behind {kept : String → Bool} {ms whole : List (String × Json)}
    (each : List.Forall₂ (Stands fields kept) ms whole) (before : List (String × Json)) :
    Varies (.record fields) (.obj (before ++ whole)) (.obj (before ++ ms.filter (kept ·.1))) := by
  induction each generalizing before with
  | nil => exact .same _
  | @cons m w rest rest' head _ ih =>
      obtain ⟨name, j⟩ := m
      obtain ⟨_, i⟩ := w
      obtain ⟨presence, l, known, rfl, stands⟩ := head
      have first : Varies (.record fields) (.obj (before ++ (name, i) :: rest'))
          (.obj ((name, i) :: (before ++ rest'))) := .permute List.perm_middle
      refine first.trans ?_
      cases h : kept name with
      | true =>
          have varied : Varies l i j := by simpa [h] using stands
          have back : ((name, j) :: (before ++ rest')).Perm (before ++ [(name, j)] ++ rest') := by
            simpa using List.perm_middle.symm
          simpa [h] using (Varies.within known varied _).trans
            ((Varies.permute back).trans (ih (before ++ [(name, j)])))
      | false =>
          have instead : presence.instead? = some i := by simpa [h] using stands
          simpa [h] using (Varies.leaveOut known instead _).trans (ih before)

/-- An object whose members stand for those of `whole`, less the ones that are not kept, is a
variation of `whole`. -/
theorem varies_keep {kept : String → Bool} {ms whole : List (String × Json)}
    (each : List.Forall₂ (Stands fields kept) ms whole) :
    Varies (.record fields) (.obj whole) ((Json.obj ms).keep kept) :=
  varies_keep_behind each []

end Layout

end Keeping

end BalancerFlows
