import BalancerFlows.Proofs.CatalogRuns
import Mathlib.Algebra.Ring.Nat

/-!
# The ids of new targets

The inventory names new targets by counting, and targets also come in under ids of their own. Over
any history in which the count does not run over, a new name is none that was given before, but it
may be one under which a target was put in, and then that target is replaced. Main statement:
`Catalog.creations_replace_insertions`, which says when new targets stand beside all the others and
which of them can be lost otherwise.
-/
namespace BalancerFlows

namespace Keyed

variable {κ α : Type} [DecidableEq κ]

theorem mem_keys_put {t : Keyed κ α} {key other : κ} {value : α} :
    other ∈ (t.put key value).keys ↔ other ∈ t.keys ∨ other = key := by
  rw [keys_put]
  split
  next old =>
    constructor
    · exact .inl
    · intro known
      cases known with
      | inl known => exact known
      | inr same => rwa [same]
  next => rw [List.mem_append, List.mem_singleton]

theorem length_put (t : Keyed κ α) (key : κ) (value : α) :
    (t.put key value).length = if key ∈ t.keys then t.length else t.length + 1 := by
  have counted : (t.put key value).keys.length = _ := congrArg List.length (t.keys_put key value)
  have length : ∀ u : Keyed κ α, u.keys.length = u.length := fun u => List.length_map _
  rw [length] at counted
  rw [counted]
  split <;> simp [length]

section PutAll

variable {key : α → κ} {items : List α}

theorem mem_keys_putAll {t : Keyed κ α} {k : κ} :
    k ∈ (items.foldl (fun t a => t.put (key a) a) t).keys ↔
      k ∈ t.keys ∨ k ∈ items.map key := by
  induction items generalizing t with
  | nil => simp
  | cons a rest ih =>
      rw [List.foldl_cons, ih, mem_keys_put, List.map_cons, List.mem_cons, or_assoc]

/-- Items with distinct keys of which none is there come to stand behind what is there. -/
theorem putAll_eq_append (nodup : (items.map key).Nodup) {t : Keyed κ α}
    (new : ∀ a ∈ items, key a ∉ t.keys) :
    items.foldl (fun t a => t.put (key a) a) t = t ++ items.map fun a => (key a, a) := by
  induction items generalizing t with
  | nil => simp
  | cons a rest ih =>
      rw [List.map_cons, List.nodup_cons] at nodup
      have first : key a ∉ t.keys := new a (List.mem_cons_self ..)
      rw [List.foldl_cons, put_of_notMem first, ih nodup.2, List.append_assoc]
      · rfl
      · intro b mem
        rw [keys_append, List.mem_append, not_or]
        have other : key b ≠ key a := fun same => nodup.1 (same ▸ List.mem_map_of_mem mem)
        exact ⟨new b (List.mem_cons_of_mem _ mem), by simpa [keys] using other⟩

/-- Items with distinct keys are counted once each, but for those that replace others. -/
theorem length_putAll (nodup : (items.map key).Nodup) (t : Keyed κ α) :
    (items.foldl (fun t a => t.put (key a) a) t).length +
      (items.filter fun a => key a ∈ t.keys).length = t.length + items.length := by
  induction items generalizing t with
  | nil => simp
  | cons a rest ih =>
      rw [List.map_cons, List.nodup_cons] at nodup
      have later : (rest.filter fun b => key b ∈ (t.put (key a) a).keys) =
          rest.filter fun b => key b ∈ t.keys := by
        apply List.filter_congr
        intro b mem
        have other : key b ≠ key a := fun same => nodup.1 (same ▸ List.mem_map_of_mem mem)
        simp [mem_keys_put, other]
      have counted := ih nodup.2 (t.put (key a) a)
      rw [later, length_put] at counted
      rw [List.foldl_cons, List.length_cons, List.filter_cons]
      by_cases old : key a ∈ t.keys
      · simp only [old, decide_true, if_true, List.length_cons] at counted ⊢
        omega
      · simp only [old, decide_false, if_false, Bool.false_eq_true] at counted ⊢
        omega

end PutAll

end Keyed

/-- A way in which targets come into the inventory, change there or leave it. -/
inductive TargetEvent where
  | insertion (t : Target)
  | creation (news : List NewTarget)
  | update (patches : List TargetPatch)
  | deletion (ids : List String)
  deriving Repr, DecidableEq

namespace TargetEvent

/-- The ids that the event brings in from outside. -/
def broughtIn : TargetEvent → List String
  | insertion t => [t.id]
  | creation _ | update _ | deletion _ => []

/-- How many targets the event has the inventory name. -/
def given : TargetEvent → Nat
  | creation news => news.length
  | insertion _ | update _ | deletion _ => 0

end TargetEvent

namespace Catalog

def absorb (c : Catalog) : TargetEvent → Catalog
  | .insertion t => c.insertTarget t
  | .creation news => (c.createTargets news).2
  | .update patches => (c.updateTargets patches).2
  | .deletion ids => c.deleteTargets ids

def after (c : Catalog) (events : List TargetEvent) : Catalog :=
  events.foldl absorb c

variable (c : Catalog)

/-- The count does not run over, also when that many targets are named after the events. -/
def Lasts (events : List TargetEvent) (more : Nat) : Prop :=
  c.named.toNat + (events.map TargetEvent.given).sum + more < UInt64.size

/-- Where the ids in an inventory come from: each stands there once, and was brought in from outside
or is one of the `given` names behind the number `first`. -/
structure Traced (first : UInt64) (given : Nat) (broughtIn : List String) : Prop where
  named : c.named = first + .ofNat given
  once : c.targets.keys.Nodup
  origin : ∀ id ∈ c.targets.keys,
    id ∈ broughtIn ∨ ∃ k < given, id = nthName (numberAfter first k)

variable {c} {first : UInt64} {given : Nat} {ids : List String}

namespace Traced

theorem insertTarget (h : c.Traced first given ids) (t : Target) :
    (c.insertTarget t).Traced first given (ids ++ [t.id]) where
  named := h.named
  once := Keyed.nodup_put h.once t.id t
  origin := by
    intro id mem
    rw [List.mem_append, List.mem_singleton]
    cases Keyed.mem_keys_put.1 mem with
    | inl old => exact (h.origin id old).imp_left .inl
    | inr new => exact .inl (.inr new)

theorem createTargets (h : c.Traced first given ids) (news : List NewTarget) :
    (c.createTargets news).2.Traced first (given + news.length) ids where
  named := by
    show c.named + .ofNat news.length = _
    rw [h.named, UInt64.add_assoc, ← UInt64.ofNat_add]
  once := by
    rw [targets_createTargets]
    exact List.foldlRecOn (motive := fun t : Keyed String Target => t.keys.Nodup) _ _ h.once
      fun _ nodup t _ => Keyed.nodup_put nodup t.id t
  origin := by
    intro id mem
    rw [targets_createTargets, Keyed.mem_keys_putAll] at mem
    cases mem with
    | inl old =>
        apply (h.origin id old).imp_right
        intro before
        obtain ⟨k, bound, same⟩ := before
        exact ⟨k, by omega, same⟩
    | inr new =>
        obtain ⟨k, bound, same⟩ := mem_names.1 new
        rw [h.named, numberAfter_add] at same
        exact .inr ⟨given + k, by omega, same⟩

theorem updateTargets (h : c.Traced first given ids) (patches : List TargetPatch) :
    (c.updateTargets patches).2.Traced first given ids := by
  have keys := c.keys_updateTargets patches
  have named : (c.updateTargets patches).2.named = c.named := by
    rw [updateTargets_eq_patched]
    rfl
  constructor
  · rw [named]
    exact h.named
  · rw [keys]
    exact h.once
  · rw [keys]
    exact h.origin

theorem deleteTargets (h : c.Traced first given ids) (dropped : List String) :
    (c.deleteTargets dropped).Traced first given ids := by
  have fewer : (dropped.foldl Keyed.erase c.targets).keys.Sublist c.targets.keys := by
    apply List.foldlRecOn (motive := fun t : Keyed String Target => t.keys.Sublist c.targets.keys)
    · exact List.Sublist.refl _
    · intro t sub id _
      rw [Keyed.keys_erase]
      exact List.filter_sublist.trans sub
  exact ⟨h.named, fewer.nodup h.once, fun id mem => h.origin id (fewer.subset mem)⟩

theorem absorb (h : c.Traced first given ids) (e : TargetEvent) :
    (c.absorb e).Traced first (given + e.given) (ids ++ e.broughtIn) := by
  cases e with
  | insertion t => exact h.insertTarget t
  | creation news =>
      rw [TargetEvent.broughtIn, List.append_nil]
      exact h.createTargets news
  | update patches =>
      rw [TargetEvent.broughtIn, List.append_nil]
      exact h.updateTargets patches
  | deletion dropped =>
      rw [TargetEvent.broughtIn, List.append_nil]
      exact h.deleteTargets dropped

theorem after (h : c.Traced first given ids) (events : List TargetEvent) :
    (c.after events).Traced first (given + (events.map TargetEvent.given).sum)
      (ids ++ events.flatMap TargetEvent.broughtIn) := by
  induction events generalizing c given ids with
  | nil => simpa [Catalog.after] using h
  | cons e rest ih =>
      rw [List.flatMap_cons, ← List.append_assoc, List.map_cons, List.sum_cons, ← Nat.add_assoc]
      exact ih (h.absorb e)

/-- A name that was given is not given again before all numbers were given. -/
theorem broughtIn_of_name (h : c.Traced first given ids) {k : Nat}
    (room : given + k < UInt64.size)
    (taken : nthName (numberAfter c.named k) ∈ c.targets.keys) :
    nthName (numberAfter c.named k) ∈ ids := by
  rw [h.named, numberAfter_add] at taken ⊢
  cases h.origin _ taken with
  | inl outside => exact outside
  | inr before =>
      obtain ⟨j, bound, same⟩ := before
      have again := numberAfter_injective room (by omega) (nthName_injective same)
      omega

end Traced

/-- New targets stand beside those that are there: under ids of their own that no other has, with
everything else as it was. -/
structure CreatesAside (c : Catalog) (news : List NewTarget) : Prop where
  distinct : ((c.createTargets news).1.map Target.id).Nodup
  new : ∀ t ∈ (c.createTargets news).1, t.id ∉ c.targets.keys
  all : (c.createTargets news).1.length = news.length
  beside : (c.createTargets news).2.targets =
    c.targets ++ (c.createTargets news).1.map fun t => (t.id, t)

/-- What the creation of targets does over any history. The ids that were `broughtIn` from outside
are the only ones that a new target can take from another. -/
structure Creates (broughtIn : List String) (c : Catalog) (news : List NewTarget) : Prop where
  names : (c.createTargets news).1 = news.mapIdx fun k n => settled n (numberAfter c.named k)
  distinct : ((c.createTargets news).1.map Target.id).Nodup
  once : (c.createTargets news).2.targets.keys.Nodup
  stored : ∀ t ∈ (c.createTargets news).1, (c.createTargets news).2.targets.get? t.id = some t
  others : ∀ id ∉ (c.createTargets news).1.map Target.id,
    (c.createTargets news).2.targets.get? id = c.targets.get? id
  rest : (c.createTargets news).2 = { c with
    targets := (c.createTargets news).2.targets, named := c.named + .ofNat news.length }
  count : (c.createTargets news).2.targets.length +
    ((c.createTargets news).1.filter fun t => t.id ∈ c.targets.keys).length =
      c.targets.length + news.length
  taken : ∀ t ∈ (c.createTargets news).1, t.id ∈ c.targets.keys → t.id ∈ broughtIn
  aside : (∀ t ∈ (c.createTargets news).1, t.id ∉ broughtIn) → c.CreatesAside news

theorem Traced.creates (h : c.Traced first given ids) {news : List NewTarget}
    (room : given + news.length ≤ UInt64.size) : c.Creates ids news := by
  have few : news.length ≤ UInt64.size := by omega
  have distinct : ((c.createTargets news).1.map Target.id).Nodup := names_nodup c.named few
  have named : (c.createTargets news).1 =
      news.mapIdx fun k n => settled n (numberAfter c.named k) := nameTargets_eq c.named news
  have many : (c.createTargets news).1.length = news.length := by
    rw [named, List.length_mapIdx]
  have taken : ∀ t ∈ (c.createTargets news).1, t.id ∈ c.targets.keys → t.id ∈ ids := by
    intro t mem there
    obtain ⟨k, bound, same⟩ := mem_names.1 (List.mem_map_of_mem mem)
    rw [same] at there ⊢
    exact h.broughtIn_of_name (by omega) there
  constructor
  case names => exact named
  case distinct => exact distinct
  case once => exact (h.createTargets news).once
  case stored =>
    intro t mem
    rw [targets_createTargets]
    exact Keyed.get?_putAll_of_mem distinct mem c.targets
  case others =>
    intro id other
    rw [targets_createTargets]
    exact Keyed.get?_putAll_of_notMem other c.targets
  case rest => exact (c.added_createTargets few).others
  case count =>
    rw [targets_createTargets, ← many]
    exact Keyed.length_putAll distinct c.targets
  case taken => exact taken
  case aside =>
    intro outside
    have new : ∀ t ∈ (c.createTargets news).1, t.id ∉ c.targets.keys :=
      fun t mem there => outside t mem (taken t mem there)
    refine ⟨distinct, new, many, ?_⟩
    rw [targets_createTargets]
    exact Keyed.putAll_eq_append distinct new

/-- Over any history of an inventory in which the count does not run over: new targets get distinct
ids that were never given before, and stand beside all that was there unless one of these ids was
brought in from outside, in which case the target under that id is replaced. The same goes for every
run of a local addition, which creates its targets or leaves the inventory alone. -/
theorem creations_replace_insertions {start : Catalog} (empty : start.targets = [])
    (events : List TargetEvent) :
    (∀ news, start.Lasts events news.length →
        (start.after events).Creates (events.flatMap TargetEvent.broughtIn) news) ∧
      ∀ (deadline : Option Nat) (scope : DetailScope) (group : String) (specs : List TargetSpec)
        (w : World), w.catalog = start.after events → start.Lasts events specs.length →
        let w' := (Program.run deadline (LocalChange.addTargets scope group specs) w).2
        (w'.catalog = w.catalog ∨ w'.catalog =
            (w.catalog.createTargets (specs.map (LocalChange.newTarget group))).2) ∧
          ∀ id t, w.catalog.targets.get? id = some t → w'.catalog.targets.get? id = some t ∨
            id ∈ events.flatMap TargetEvent.broughtIn ∧
              ∃ k < specs.length, id = nthName (numberAfter w.catalog.named k) := by
  have blank : start.Traced start.named 0 [] := by
    constructor
    · exact (UInt64.add_zero start.named).symm
    · rw [empty]
      exact List.nodup_nil
    · rw [empty]
      exact fun _ mem => absurd mem List.not_mem_nil
  have creates : ∀ news, start.Lasts events news.length →
      (start.after events).Creates (events.flatMap TargetEvent.broughtIn) news := by
    intro news lasts
    apply (blank.after events).creates
    unfold Lasts at lasts
    omega
  refine ⟨creates, fun deadline scope group specs w known lasts => ?_⟩
  intro w'
  let news := specs.map (LocalChange.newTarget group)
  have turned : w'.catalog = w.catalog ∨ w'.catalog = (w.catalog.createTargets news).2 :=
    (((LocalJob.add group specs).turns_run scope w.catalog).run deadline).1
  have creation : w.catalog.Creates (events.flatMap TargetEvent.broughtIn) news :=
    known ▸ creates news (by rwa [List.length_map])
  refine ⟨turned, fun id t found => ?_⟩
  cases turned with
  | inl same =>
      rw [same]
      exact .inl found
  | inr created =>
      rw [created]
      by_cases given : id ∈ (w.catalog.createTargets news).1.map Target.id
      · obtain ⟨k, bound, named⟩ := mem_names.1 given
        obtain ⟨u, mem, same⟩ := List.mem_map.1 given
        have taken := creation.taken u mem
        rw [same] at taken
        exact .inr ⟨taken (Keyed.mem_keys_of_get? found), k, by simpa [news] using bound, named⟩
      · left
        rw [creation.others id given]
        exact found

/-- A target under an id that looks like a given name, and one that leaves again. -/
def outsiders : List TargetEvent :=
  [.insertion { id := "target-1", group := "tg-1", instanceId := "i-1", ip := "10.0.0.1"
                port := 80, weight := 10 },
    .insertion { id := "t-9", group := "tg-1", instanceId := "i-9", ip := "10.0.0.9"
                 port := 80, weight := 10 },
    .deletion ["t-9"]]

def newcomer : NewTarget :=
  { group := "tg-1", instanceId := "i-2", ip := "10.0.0.2", port := 80, weight := 20 }

theorem lasts_outsiders : ({} : Catalog).Lasts outsiders 1 := by
  unfold Lasts
  decide

theorem creations_replace_insertions_outsiders :
    ({} : Catalog).targets = [] ∧ ({} : Catalog).Lasts outsiders 1 ∧
      (({} : Catalog).after outsiders).Creates ["target-1", "t-9"] [newcomer] :=
  ⟨rfl, lasts_outsiders,
    (@creations_replace_insertions {} rfl outsiders).1 [newcomer] lasts_outsiders⟩

/-- The first new target is named like the one that was put in, and replaces it. -/
theorem not_creates_aside : ¬ ∀ (events : List TargetEvent) (news : List NewTarget),
    ({} : Catalog).Lasts events news.length → (({} : Catalog).after events).CreatesAside news := by
  intro aside
  have new := (aside outsiders [newcomer] lasts_outsiders).new
  revert new
  decide

end Catalog

end BalancerFlows
