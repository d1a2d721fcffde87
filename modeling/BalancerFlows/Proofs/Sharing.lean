import BalancerFlows.Proofs.Runs

/-!
# Programs that share tables

Between two calls of a program, others may change the tables. `Terms` say what a program may count
on meanwhile (`rely`), what each of its own calls has to keep to (`promise`), and what calls may do
at all (`allows`), always relative to the rows the program has added itself (`Own`).
`Program.Keeps` says of a program in its present state that it will keep to the terms and end as
wanted; it is defined along the tree of the program and composes along `bind`. Main statements:
`Keeps.step` for one call among those of others, and `Keeps.run` for a run that is alone.
-/
namespace BalancerFlows

namespace Table

variable {α : Type}

/-- The ids of the rows that have come. -/
def added (before after : Table α) : List Int64 :=
  after.rows.keys.filter fun id => id ∉ before.rows.keys

theorem mem_added {before after : Table α} {id : Int64} :
    id ∈ added before after ↔ id ∈ after.rows.keys ∧ id ∉ before.rows.keys := by
  simp [added]

@[simp] theorem added_of_keys_eq {before after : Table α}
    (h : after.rows.keys = before.rows.keys) : added before after = [] := by
  simp [added, h]

theorem added_addAll {key : α → Int64} {t : Table α} (h : t.Numbered key)
    {makes : List (Int64 → α)} (own : ∀ make ∈ makes, ∀ id, key (make id) = id)
    (after : (t.addAll makes).2.Numbered key) :
    added t (t.addAll makes).2 = (t.addAll makes).1.map key := by
  have room : t.created + makes.length < 2 ^ 63 := addAll_created t makes ▸ after.fits
  have keys : (t.addAll makes).2.rows.keys = t.rows.keys ++ (t.addAll makes).1.map key := by
    rw [addAll_rows h own room, Keyed.keys_append]
    simp [Keyed.keys, Function.comp_def]
  have nodup := after.nodup
  rw [keys, List.nodup_append] at nodup
  rw [added, keys, List.filter_append, List.filter_eq_nil_iff.2 (by simp),
    List.filter_eq_self.2, List.nil_append]
  intro id mem
  simpa using fun old => nodup.2.2 id old id mem rfl

theorem added_add {key : α → Int64} {t : Table α} (h : t.Numbered key) {make : Int64 → α}
    (own : ∀ id, key (make id) = id) (after : (t.add make).2.Numbered key) :
    added t (t.add make).2 = [t.nextId] := by
  have owns : ∀ other ∈ [make], ∀ id, key (other id) = id := by simpa using own
  have all := added_addAll h owns after
  have row : key (t.add make).1 = t.nextId := own _
  simpa [addAll, row] using all

/-- More rows created means that every id there was is still there. -/
theorem Numbered.keys_subset {key : α → Int64} {t t' : Table α} (h : t.Numbered key)
    (h' : t'.Numbered key) (later : t.created ≤ t'.created) : t.rows.keys ⊆ t'.rows.keys := by
  rw [h.keys_eq, h'.keys_eq]
  exact List.map_subset _ (List.range_subset.2 later)

end Table

/-- The rows a program has added to the tables. -/
structure Own where
  details : List Int64 := []
  flows : List Int64 := []
  deriving Repr, DecidableEq, Inhabited

namespace Own

def grow (o : Own) (before after : Tables) : Own :=
  { details := o.details ++ Table.added before.details after.details
    flows := o.flows ++ Table.added before.flows after.flows }

theorem grow_eq_self {before after : Tables}
    (details : after.details.rows.keys = before.details.rows.keys)
    (flows : after.flows.rows.keys = before.flows.rows.keys) (o : Own) :
    o.grow before after = o := by
  simp [grow, Table.added_of_keys_eq details, Table.added_of_keys_eq flows]

theorem grow_flows_of_keys_eq {before after : Tables}
    (flows : after.flows.rows.keys = before.flows.rows.keys) (o : Own) :
    (o.grow before after).flows = o.flows := by
  simp [grow, Table.added_of_keys_eq flows]

@[simp] theorem grow_self (o : Own) (t : Tables) : o.grow t t = o :=
  grow_eq_self rfl rfl o

end Own

/-- The terms on which a program shares the tables with others. -/
structure Terms where
  /-- What a call may do. -/
  allows : Guard → (c : StoreCall) → Tables → Except Failure c.Answer → Tables → Prop
  /-- What others may do between two calls. -/
  rely : Own → Tables → Tables → Prop
  /-- What a call of the program itself has to keep to. -/
  promise : Own → Tables → Tables → Prop
  effect_of_allows : ∀ {guard c t outcome t'}, allows guard c t outcome t' → c.Effect t outcome t'
  rely_refl : ∀ o t, rely o t t
  rely_trans : ∀ {o t₁ t₂ t₃}, rely o t₁ t₂ → rely o t₂ t₃ → rely o t₁ t₃
  promise_refl : ∀ o t, promise o t t

namespace Terms

/-- What others do cannot spoil it. -/
def Stable (T : Terms) (P : Own → Tables → Prop) : Prop :=
  ∀ o t t', T.rely o t t' → P o t → P o t'

end Terms

namespace Program

variable {α β : Type} {T : Terms} {Q : α → Own → Tables → Prop}

/-- From here on the program keeps to the terms, and where it is done `Q` holds. -/
def Keeps (T : Terms) (Q : α → Own → Tables → Prop) : Program α → Own → Tables → Prop
  | done a, o, t => ∀ t', T.rely o t t' → Q a o t'
  | overflow, _, _ => True
  | report _ next, o, t => next.Keeps T Q o t
  | call _ (.catalog _) next, o, t => ∀ outcome, (next outcome).Keeps T Q o t
  | call guard (.store c) next, o, t =>
      ∀ t₁, T.rely o t t₁ → t₁.Numbered → ∀ outcome t₂, T.allows guard c t₁ outcome t₂ →
        t₂.Numbered → T.promise o t₁ t₂ ∧ (next outcome).Keeps T Q (o.grow t₁ t₂) t₂

theorem Keeps.of_rely {p : Program α} {o : Own} {t t' : Tables} (h : p.Keeps T Q o t)
    (rely : T.rely o t t') : p.Keeps T Q o t' := by
  induction p with
  | done a => exact fun t₁ later => h t₁ (T.rely_trans rely later)
  | overflow => trivial
  | report _ next ih => exact ih h
  | call guard c next ih =>
      cases c with
      | catalog c => exact fun outcome => ih outcome (h outcome)
      | store c => exact fun t₁ later => h t₁ (T.rely_trans rely later)

/-- The continuations of a call carry it from one pair of terms and ends to another. -/
theorem Keeps.call_imp {guard : Guard} {c : Call} {next : Except Failure c.Answer → Program α}
    {next' : Except Failure c.Answer → Program β} {Q' : β → Own → Tables → Prop}
    (imp : ∀ outcome o t, (next outcome).Keeps T Q o t → (next' outcome).Keeps T Q' o t)
    {o : Own} {t : Tables} (h : (call guard c next).Keeps T Q o t) :
    (call guard c next').Keeps T Q' o t := by
  cases c with
  | catalog c => exact fun outcome => imp outcome o t (h outcome)
  | store c =>
      intro t₁ rely numbered outcome t₂ allowed numbered'
      obtain ⟨promise, rest⟩ := h t₁ rely numbered outcome t₂ allowed numbered'
      exact ⟨promise, imp outcome _ t₂ rest⟩

theorem Keeps.mono {Q' : α → Own → Tables → Prop} (imp : ∀ a o t, Q a o t → Q' a o t)
    {p : Program α} {o : Own} {t : Tables} (h : p.Keeps T Q o t) : p.Keeps T Q' o t := by
  induction p generalizing o t with
  | done a => exact fun t' rely => imp a o t' (h t' rely)
  | overflow => trivial
  | report _ next ih => exact ih h
  | call guard c next ih => exact h.call_imp fun outcome o t rest => ih outcome rest

theorem keeps_done {a : α} {o : Own} {t : Tables} (stable : T.Stable (Q a)) (h : Q a o t) :
    (done a).Keeps T Q o t :=
  fun t' rely => stable o t t' rely h

theorem keeps_bind {p : Program α} {f : α → Program β} {Q : β → Own → Tables → Prop} {o : Own}
    {t : Tables} :
    (p >>= f).Keeps T Q o t ↔ p.Keeps T (fun a o t => (f a).Keeps T Q o t) o t := by
  show (p.bind f).Keeps T Q o t ↔ _
  -- Along the tree of the first program; only where it is done do the two sides differ.
  induction p generalizing o t with
  | done a => exact ⟨fun h t' rely => h.of_rely rely, fun h => h t (T.rely_refl o t)⟩
  | overflow => exact Iff.rfl
  | report _ next ih => exact ih
  | call guard c next ih =>
      constructor
      · exact Keeps.call_imp fun outcome o t => (ih outcome).1
      · exact Keeps.call_imp fun outcome o t => (ih outcome).2

theorem Keeps.bind {p : Program α} {f : α → Program β} {P : α → Own → Tables → Prop}
    {Q : β → Own → Tables → Prop} {o : Own} {t : Tables} (first : p.Keeps T P o t)
    (next : ∀ a o t, P a o t → (f a).Keeps T Q o t) : (p >>= f).Keeps T Q o t :=
  keeps_bind.2 (first.mono next)

theorem keeps_map {f : α → β} {p : Program α} {Q : β → Own → Tables → Prop} {o : Own}
    {t : Tables} : (f <$> p).Keeps T Q o t ↔ p.Keeps T (fun a => Q (f a)) o t := by
  show (p.bind fun a => done (f a)).Keeps T Q o t ↔ _
  induction p generalizing o t with
  | done a => exact Iff.rfl
  | overflow => exact Iff.rfl
  | report _ next ih => exact ih
  | call guard c next ih =>
      constructor
      · exact Keeps.call_imp fun outcome o t => (ih outcome).1
      · exact Keeps.call_imp fun outcome o t => (ih outcome).2

@[simp] theorem keeps_within {s : Span} {p : Program α} {o : Own} {t : Tables} :
    (p.within s).Keeps T Q o t ↔ p.Keeps T Q o t := by
  induction p generalizing o t with
  | done a => exact Iff.rfl
  | overflow => exact Iff.rfl
  | report _ next ih => exact ih
  | call guard c next ih =>
      constructor
      · exact Keeps.call_imp fun outcome o t => (ih outcome).1
      · exact Keeps.call_imp fun outcome o t => (ih outcome).2

theorem keeps_report {event : Event} {f : Unit → Program α} {Q : α → Own → Tables → Prop}
    {o : Own} {t : Tables} :
    (Work.report event >>= f).Keeps T Q o t ↔ (f ()).Keeps T Q o t :=
  Iff.rfl

theorem keeps_call {P : Own → Tables → Prop} (stable : T.Stable P) {guard : Guard} {c : StoreCall}
    {next : Except Failure c.Answer → Program α} {o : Own} {t : Tables} (h : P o t)
    (step : ∀ t₁, P o t₁ → t₁.Numbered → ∀ outcome t₂, T.allows guard c t₁ outcome t₂ →
      t₂.Numbered → T.promise o t₁ t₂ ∧ (next outcome).Keeps T Q (o.grow t₁ t₂) t₂) :
    (call guard (.store c) next).Keeps T Q o t :=
  fun t₁ rely => step t₁ (stable o t t₁ rely h)

end Program

theorem Work.keeps_bind {α β : Type} {T : Terms} {w : Work α} {f : α → Work β}
    {P : Except Failure α → Own → Tables → Prop} {Q : Except Failure β → Own → Tables → Prop}
    (stable : ∀ r, T.Stable (Q r)) {o : Own} {t : Tables} (first : Program.Keeps T P w o t)
    (failed : ∀ failure o t, P (.error failure) o t → Q (.error failure) o t)
    (next : ∀ a o t, P (.ok a) o t → Program.Keeps T Q (f a) o t) :
    Program.Keeps T Q (w >>= f : Work β) o t := by
  apply first.bind
  intro r o t h
  cases r with
  | error failure => exact Program.keeps_done (stable (.error failure)) (failed failure o t h)
  | ok a => exact next a o t h

theorem Work.keeps_lift {α : Type} {T : Terms} {p : Program α}
    {Q : Except Failure α → Own → Tables → Prop} (stable : ∀ a, T.Stable (Q (.ok a))) {o : Own}
    {t : Tables} (h : p.Keeps T (fun a => Q (.ok a)) o t) :
    Program.Keeps T Q (liftM p : Work α) o t :=
  Program.keeps_bind.2 (h.mono fun a _ _ => Program.keeps_done (stable a))

theorem Work.keeps_map {α β : Type} {T : Terms} {f : α → β} {x : Work α}
    {Q : Except Failure β → Own → Tables → Prop} {o : Own} {t : Tables}
    (h : Program.Keeps T (fun r => Q (r.map f)) x o t) :
    Program.Keeps T Q (f <$> x : Work β) o t := by
  have same : (f <$> x : Work β).run = Except.map f <$> x.run := ExceptT.run_map f x
  show Program.Keeps T Q (f <$> x : Work β).run o t
  rw [same]
  exact Program.keeps_map.2 h

theorem Work.keeps_askStore {T : Terms} {guard : Guard} {c : StoreCall}
    {P : Own → Tables → Prop} {Q : Except Failure c.Answer → Own → Tables → Prop}
    (stable : T.Stable P) (stable' : ∀ outcome, T.Stable (Q outcome)) {o : Own} {t : Tables}
    (h : P o t)
    (step : ∀ t₁, P o t₁ → t₁.Numbered → ∀ outcome t₂, T.allows guard c t₁ outcome t₂ →
      t₂.Numbered → T.promise o t₁ t₂ ∧ Q outcome (o.grow t₁ t₂) t₂) :
    Program.Keeps T Q (Work.askStore guard c) o t :=
  Program.keeps_call stable h fun t₁ before numbered outcome t₂ allowed numbered' =>
    (step t₁ before numbered outcome t₂ allowed numbered').imp id
      (Program.keeps_done (stable' outcome))

namespace Terms

/-- Steps that keep to the terms, with the rows added on the way. -/
inductive Path (T : Terms) : Own → Tables → Own → Tables → Prop
  | refl (o : Own) (t : Tables) : Path T o t o t
  | step {o o' : Own} {t t₁ t' : Tables} : T.promise o t t₁ → t.Later t₁ → t.Numbered →
      t₁.Numbered → Path T (o.grow t t₁) t₁ o' t' → Path T o t o' t'

variable {T : Terms} {o o' : Own} {t t' : Tables}

/-- What every step keeps, a path keeps. -/
theorem Path.keeps {P : Own → Tables → Prop} (h : T.Path o t o' t')
    (step : ∀ o t t', T.promise o t t' → t.Later t' → t.Numbered → t'.Numbered → P o t →
      P (o.grow t t') t') : P o t → P o' t' := by
  induction h with
  | refl o t => exact id
  | step promise later numbered numbered' _ ih =>
      exact fun before => ih (step _ _ _ promise later numbered numbered' before)

theorem Path.later (h : T.Path o t o' t') : t.Later t' := by
  induction h with
  | refl o t => exact .refl t
  | step _ later _ _ _ ih => exact later.trans ih

theorem Path.numbered (h : T.Path o t o' t') (before : t.Numbered) : t'.Numbered := by
  induction h with
  | refl o t => exact before
  | step _ _ _ numbered _ ih => exact ih numbered

/-- The rows added on a path are those that were not there before. -/
theorem Path.mem_details (h : T.Path o t o' t') (id : Int64) :
    id ∈ o'.details ↔
      id ∈ o.details ∨ id ∈ t'.details.rows.keys ∧ id ∉ t.details.rows.keys := by
  induction h with
  | refl o t => simp
  | @step o o' t t₁ t' _ later numbered numbered₁ rest ih =>
      have first := numbered.details.keys_subset numbered₁.details later.details
      have second := numbered₁.details.keys_subset (rest.numbered numbered₁).details
        rest.later.details
      -- No row ever goes, so what was there in between is there at the end.
      have := @first id
      have := @second id
      rw [ih, Own.grow, List.mem_append, Table.mem_added]
      tauto

/-- Calls that are answered in this way are allowed. -/
def Covers (T : Terms)
    (answers : Guard → (c : StoreCall) → Except Failure c.Answer → Prop) : Prop :=
  ∀ {guard c t outcome t'}, c.Effect t outcome t' → answers guard c outcome →
    T.allows guard c t outcome t'

/-- The calls of a world are allowed. -/
def Governs (T : Terms) (deadline : Option Nat) (store : Store) : Prop :=
  ∀ w : World, w.store = store → ∀ guard c, T.allows guard c store.tables
    (w.call deadline guard (.store c)).1 (w.call deadline guard (.store c)).2.store.tables

end Terms

namespace Program

variable {α : Type} {T : Terms} {Q : α → Own → Tables → Prop}

/-- One call among those of others: the program goes on keeping to the terms. -/
theorem Keeps.step {deadline : Option Nat} {p : Program α} {o : Own} {w : World}
    (h : p.Keeps T Q o w.store.tables) (governs : T.Governs deadline w.store)
    (numbered : w.store.tables.Numbered) (fits : (p.step deadline w).2.store.tables.Fits) :
    (p.step deadline w).1.Keeps T Q (o.grow w.store.tables (p.step deadline w).2.store.tables)
        (p.step deadline w).2.store.tables ∧
      T.promise o w.store.tables (p.step deadline w).2.store.tables ∧
      (p.step deadline w).2.store.tables.Numbered := by
  induction p generalizing w with
  | done a =>
      simp only [Program.step, Own.grow_self]
      exact ⟨h, T.promise_refl o _, numbered⟩
  | overflow =>
      simp only [Program.step, Own.grow_self]
      exact ⟨h, T.promise_refl o _, numbered⟩
  | report occurrence next ih => exact ih (w := w.note occurrence) h governs numbered fits
  | call guard c next ih =>
      cases c with
      | catalog c =>
          simp only [Program.step, World.call_catalog_store, Own.grow_self]
          exact ⟨h _, T.promise_refl o _, numbered⟩
      | store c =>
          have numbered' := (w.call_effect deadline guard c).numbered numbered fits
          obtain ⟨promise, rest⟩ :=
            h _ (T.rely_refl o _) numbered _ _ (governs w rfl guard c) numbered'
          exact ⟨rest, promise, numbered'⟩

/-- A run that is alone takes a path that keeps to the terms, and ends as wanted. -/
theorem Keeps.run {answers : Guard → (c : StoreCall) → Except Failure c.Answer → Prop}
    (covers : T.Covers answers) {deadline : Option Nat} {p : Program α} {o : Own} {w : World}
    (h : p.Keeps T Q o w.store.tables) (always : p.Always deadline answers w)
    (numbered : w.store.tables.Numbered) (fits : (p.run deadline w).2.store.tables.Fits) :
    ∃ o', T.Path o w.store.tables o' (p.run deadline w).2.store.tables ∧
      ∀ a, (p.run deadline w).1 = some a → Q a o' (p.run deadline w).2.store.tables := by
  induction p generalizing o w with
  | done a =>
      refine ⟨o, .refl o _, fun b same => ?_⟩
      simp only [Program.run, Option.some.injEq] at same
      exact same ▸ h _ (T.rely_refl o _)
  | overflow => exact ⟨o, .refl o _, fun b none => by simp [Program.run] at none⟩
  | report occurrence next ih => exact ih (w := w.note occurrence) h always numbered fits
  | call guard c next ih =>
      cases c with
      | catalog c =>
          have store := w.call_catalog_store deadline guard c
          have rest := ih _ (o := o) (w := (w.call deadline guard (.catalog c)).2)
            (store ▸ h _) always (store ▸ numbered) fits
          rwa [store] at rest
      | store c =>
          have effect := w.call_effect deadline guard c
          have numbered' := effect.numbered numbered (fits.of_later (later_run deadline _ _))
          -- Nobody else is there, so the call finds the tables as they were left.
          obtain ⟨promise, rest⟩ := h _ (T.rely_refl o _) numbered _ _
            (covers effect always.1) numbered'
          obtain ⟨o', path, wanted⟩ := ih _ rest always.2 numbered' fits
          exact ⟨o', .step promise effect.later numbered numbered' path, wanted⟩

theorem Keeps.run_governed {S : Store → Prop} {deadline : Option Nat}
    (governs : ∀ {store}, S store → T.Governs deadline store)
    (stays : ∀ {w : World} guard c, S w.store → S (w.call deadline guard c).2.store)
    {p : Program α} {o : Own} {w : World} (h : p.Keeps T Q o w.store.tables) (kind : S w.store)
    (numbered : w.store.tables.Numbered) (fits : (p.run deadline w).2.store.tables.Fits) {a : α}
    (ended : (p.run deadline w).1 = some a) : ∃ o', Q a o' (p.run deadline w).2.store.tables := by
  induction p generalizing o w with
  | done b =>
      cases ended
      exact ⟨o, h _ (T.rely_refl o _)⟩
  | overflow => cases ended
  | report occurrence next ih => exact ih (w := w.note occurrence) h kind numbered fits ended
  | call guard c next ih =>
      have kind' := stays guard c kind
      cases c with
      | catalog c =>
          have store := w.call_catalog_store deadline guard c
          have rest : (next (w.call deadline guard (.catalog c)).1).Keeps T Q o
              (w.call deadline guard (.catalog c)).2.store.tables := by
            rw [store]
            exact h _
          have numbered' : (w.call deadline guard (.catalog c)).2.store.tables.Numbered := by
            rwa [store]
          exact ih _ rest kind' numbered' fits ended
      | store c =>
          have numbered' := (w.call_effect deadline guard c).numbered numbered
            (fits.of_later (later_run deadline _ _))
          obtain ⟨-, rest⟩ := h _ (T.rely_refl o _) numbered _ _ (governs kind w rfl guard c)
            numbered'
          exact ih _ rest kind' numbered' fits ended

end Program

end BalancerFlows
