import BalancerFlows.Number.Binary64

/-!
# JSON values

The values that payloads, item parameters and settings are written as. Whole numbers and numbers
with a fraction or an exponent are different things: only the first kind is ever read as an
integer. Objects keep their members in the order they were written.
-/
namespace BalancerFlows

inductive Json where
  | null
  | bool (value : Bool)
  | int (value : Int)
  | float (value : Binary64)
  | str (value : String)
  | arr (items : List Json)
  | obj (members : List (String × Json))
  deriving Repr, Inhabited

namespace Json

mutual

def decEq : (a b : Json) → Decidable (a = b)
  | null, null => isTrue rfl
  | bool x, bool y => decidable_of_iff (x = y) (by simp)
  | int x, int y => decidable_of_iff (x = y) (by simp)
  | float x, float y => decidable_of_iff (x = y) (by simp)
  | str x, str y => decidable_of_iff (x = y) (by simp)
  | arr xs, arr ys =>
      match decEqItems xs ys with
      | isTrue h => isTrue (h ▸ rfl)
      | isFalse h => isFalse fun e => h (by simpa using e)
  | obj xs, obj ys =>
      match decEqMembers xs ys with
      | isTrue h => isTrue (h ▸ rfl)
      | isFalse h => isFalse fun e => h (by simpa using e)
  | null, bool _ | null, int _ | null, float _ | null, str _ | null, arr _ | null, obj _
  | bool _, null | bool _, int _ | bool _, float _ | bool _, str _ | bool _, arr _
  | bool _, obj _
  | int _, null | int _, bool _ | int _, float _ | int _, str _ | int _, arr _ | int _, obj _
  | float _, null | float _, bool _ | float _, int _ | float _, str _ | float _, arr _
  | float _, obj _
  | str _, null | str _, bool _ | str _, int _ | str _, float _ | str _, arr _ | str _, obj _
  | arr _, null | arr _, bool _ | arr _, int _ | arr _, float _ | arr _, str _ | arr _, obj _
  | obj _, null | obj _, bool _ | obj _, int _ | obj _, float _ | obj _, str _
  | obj _, arr _ => isFalse (by simp)

def decEqItems : (xs ys : List Json) → Decidable (xs = ys)
  | [], [] => isTrue rfl
  | [], _ :: _ => isFalse (by simp)
  | _ :: _, [] => isFalse (by simp)
  | x :: xs, y :: ys =>
      match decEq x y, decEqItems xs ys with
      | isTrue h, isTrue hs => isTrue (by rw [h, hs])
      | isFalse h, _ => isFalse (by simp [h])
      | _, isFalse h => isFalse (by simp [h])

def decEqMembers : (xs ys : List (String × Json)) → Decidable (xs = ys)
  | [], [] => isTrue rfl
  | [], _ :: _ => isFalse (by simp)
  | _ :: _, [] => isFalse (by simp)
  | (k, x) :: xs, (l, y) :: ys =>
      match decEq x y, decEqMembers xs ys with
      | isTrue h, isTrue hs =>
          if hk : k = l then isTrue (by rw [h, hs, hk]) else isFalse (by simp [hk])
      | isFalse h, _ => isFalse (by simp [h])
      | _, isFalse h => isFalse (by simp [h])

end

instance : DecidableEq Json := decEq

/-- Sets one member: it keeps its place if it is there, and goes to the end otherwise. -/
def setMember (key : String) (value : Json) : List (String × Json) → List (String × Json)
  | [] => [(key, value)]
  | (k, v) :: rest =>
      if k = key then (key, value) :: rest else (k, v) :: setMember key value rest

/-- The object with one member set; other values have no members and stay. -/
def withMember (value : Json) (key : String) (field : Json) : Json :=
  match value with
  | obj members => obj (setMember key field members)
  | other => other

/-- The value of the first member of that name. -/
def member? (key : String) : Json → Option Json
  | obj members => members.lookup key
  | _ => none

theorem lookup_setMember_of_ne {key other : String} (h : other ≠ key) (value : Json)
    (members : List (String × Json)) :
    (setMember key value members).lookup other = members.lookup other := by
  induction members with
  | nil =>
      have h' : (other == key) = false := by simpa using h
      simp [setMember, List.lookup_cons, h']
  | cons head tail ih =>
      obtain ⟨k, v⟩ := head
      by_cases hk : k = key
      · have h' : (other == key) = false := by simpa using h
        subst hk
        simp [setMember, List.lookup_cons, h']
      · simp only [setMember, hk, if_false, List.lookup_cons]
        cases other == k <;> simp [ih]

end Json

end BalancerFlows
