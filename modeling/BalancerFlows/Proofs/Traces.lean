import BalancerFlows.Proofs.Runs

/-!
# Traces of runs

The calls that a run makes, with what each of them found, how it was answered and what it left.
`Program.Ensures` says of a program that whatever its calls are answered under some faults, the
trace so far, the value it ends with and what is stored then are as wanted; the value is missing
where the run dies. It is defined along the tree of the program and composes along `bind`. Main
statement: `Ensures.run`, which is about the trace of an actual run. `Program.Yields` and
`Work.Yields` are for statements about the value alone.
-/
namespace BalancerFlows

/-- All that is stored: the rows and the inventory. -/
structure Contents where
  tables : Tables
  catalog : Catalog

def World.contents (w : World) : Contents :=
  { tables := w.store.tables, catalog := w.catalog }

structure Step where
  call : Call
  outcome : Except Failure call.Answer
  before : Contents
  after : Contents

/-- What a call may do under some faults; a refusal complains about the machinery. -/
inductive Call.Answered (faults : Faults) :
    (c : Call) → Contents → Except Failure c.Answer → Contents → Prop
  | store {c : StoreCall} {t t' : Tables} {outcome : Except Failure c.Answer} (catalog : Catalog)
      (answered : c.Answered faults t outcome t') :
      Answered faults (.store c) ⟨t, catalog⟩ outcome ⟨t', catalog⟩
  | catalog (c : CatalogCall) (s : Contents) :
      Answered faults (.catalog c) s (s.catalog.perform c).1
        { s with catalog := (s.catalog.perform c).2 }
  | refused (c : CatalogCall) (s : Contents) {failure : Failure}
      (machinery : failure.isPrecondition = false) :
      Answered faults (.catalog c) s (.error failure) s

theorem Call.Answered.catalog_of_store {faults : Faults} {c : StoreCall} {s s' : Contents}
    {outcome : Except Failure c.Answer} (h : (Call.store c).Answered faults s outcome s') :
    s'.catalog = s.catalog := by
  cases h with
  | store catalog _ => rfl

namespace World

theorem call_catalog_answered (w : World) (deadline : Option Nat) (guard : Guard)
    (c : CatalogCall) (faults : Faults) :
    (Call.catalog c).Answered faults w.contents (w.call deadline guard (.catalog c)).1
      (w.call deadline guard (.catalog c)).2.contents := by
  unfold World.call
  split
  next time _ =>
    simp only [World.perform]
    cases w.catalogFaults.get? c.name with
    | none => exact .catalog c w.contents
    | some message => exact .refused c w.contents rfl
  next time name _ => exact .refused c w.contents rfl

theorem answered (w : World) (deadline : Option Nat) (guard : Guard) (c : Call) :
    c.Answered w.store.faults w.contents (w.call deadline guard c).1
        (w.call deadline guard c).2.contents ∧
      (w.call deadline guard c).2.store.faults = w.store.faults := by
  cases c with
  | store c =>
      obtain ⟨answered, faults⟩ := w.call_answered deadline guard c
      have catalog : (w.call deadline guard (.store c)).2.catalog = w.catalog := by
        unfold World.call
        split <;> rfl
      have after : (w.call deadline guard (.store c)).2.contents =
          { tables := (w.call deadline guard (.store c)).2.store.tables, catalog := w.catalog } :=
        congrArg (Contents.mk _) catalog
      rw [after]
      exact ⟨.store w.catalog answered, faults⟩
  | catalog c =>
      refine ⟨w.call_catalog_answered deadline guard c w.store.faults, ?_⟩
      rw [World.call_catalog_store]

end World

namespace Program

variable {α β : Type}

def steps (deadline : Option Nat) : Program α → World → List Step
  | done _, _ => []
  | overflow, _ => []
  | report o next, w => next.steps deadline (w.note o)
  | call guard c next, w =>
      { call := c
        outcome := (w.call deadline guard c).1
        before := w.contents
        after := (w.call deadline guard c).2.contents } ::
        (next (w.call deadline guard c).1).steps deadline (w.call deadline guard c).2

/-- Whatever the calls are answered, the program ends as wanted. `past` are its calls so far. -/
def Ensures (faults : Faults) (Q : List Step → Option α → Contents → Prop) :
    Program α → (past : List Step) → Contents → Prop
  | done a, past, s => Q past (some a) s
  | overflow, past, s => Q past none s
  | report _ next, past, s => next.Ensures faults Q past s
  | call _ c next, past, s => ∀ outcome s', c.Answered faults s outcome s' → s'.tables.Numbered →
      (next outcome).Ensures faults Q (past ++ [⟨c, outcome, s, s'⟩]) s'

variable {faults : Faults} {P Q : List Step → Option α → Contents → Prop} {past : List Step}
  {s : Contents}

theorem Ensures.mono {p : Program α} (h : p.Ensures faults P past s)
    (imp : ∀ past r s, P past r s → Q past r s) : p.Ensures faults Q past s := by
  induction p generalizing past s with
  | done a => exact imp past (some a) s h
  | overflow => exact imp past none s h
  | report _ next ih => exact ih h
  | call _ c next ih =>
      intro outcome s' answered numbered
      exact ih outcome (h outcome s' answered numbered)

theorem Ensures.and {p : Program α} (h : p.Ensures faults P past s)
    (k : p.Ensures faults Q past s) :
    p.Ensures faults (fun past r s => P past r s ∧ Q past r s) past s := by
  induction p generalizing past s with
  | done a => exact ⟨h, k⟩
  | overflow => exact ⟨h, k⟩
  | report _ next ih => exact ih h k
  | call _ c next ih =>
      intro outcome s' answered numbered
      exact ih outcome (h outcome s' answered numbered) (k outcome s' answered numbered)

theorem Ensures.bind {p : Program α} {f : α → Program β}
    {Q : List Step → Option β → Contents → Prop} (first : p.Ensures faults P past s)
    (died : ∀ past s, P past none s → Q past none s)
    (next : ∀ past a s, P past (some a) s → (f a).Ensures faults Q past s) :
    (p >>= f).Ensures faults Q past s := by
  show (p.bind f).Ensures faults Q past s
  induction p generalizing past s with
  | done a => exact next past a s first
  | overflow => exact died past s first
  | report _ rest ih => exact ih first
  | call _ c rest ih =>
      intro outcome s' answered numbered
      exact ih outcome (first outcome s' answered numbered)

@[simp] theorem ensures_within {span : Span} {p : Program α} :
    (p.within span).Ensures faults Q past s ↔ p.Ensures faults Q past s := by
  induction p generalizing past s with
  | done a => exact Iff.rfl
  | overflow => exact Iff.rfl
  | report _ next ih => exact ih
  | call _ c next ih =>
      constructor
      · intro h outcome s' answered numbered
        exact (ih outcome).1 (h outcome s' answered numbered)
      · intro h outcome s' answered numbered
        exact (ih outcome).2 (h outcome s' answered numbered)

theorem ensures_report {event : Event} {f : Unit → Program α} :
    (Work.report event >>= f).Ensures faults Q past s ↔ (f ()).Ensures faults Q past s :=
  Iff.rfl

/-- What is ensured of a program holds of each of its runs. -/
theorem Ensures.run (deadline : Option Nat) {p : Program α} {w : World}
    (h : p.Ensures w.store.faults Q past w.contents) (numbered : w.store.tables.Numbered)
    (fits : (p.run deadline w).2.store.tables.Fits) :
    Q (past ++ p.steps deadline w) (p.run deadline w).1 (p.run deadline w).2.contents := by
  induction p generalizing past w with
  | done a =>
      rw [steps, List.append_nil]
      exact h
  | overflow =>
      rw [steps, List.append_nil]
      exact h
  | report o next ih => exact ih (w := w.note o) h numbered fits
  | call guard c next ih =>
      obtain ⟨answered, faults⟩ := w.answered deadline guard c
      have later := later_run deadline (next (w.call deadline guard c).1)
        (w.call deadline guard c).2
      have numbered' : (w.call deadline guard c).2.store.tables.Numbered := by
        cases c with
        | catalog c => rwa [World.call_catalog_store]
        | store c => exact (w.call_effect deadline guard c).numbered numbered (fits.of_later later)
      have rest := h _ _ answered numbered'
      rw [← faults] at rest
      have ended := ih _ rest numbered' fits
      rw [List.append_assoc] at ended
      exact ended

end Program

namespace Work

variable {α β : Type} {faults : Faults} {past : List Step} {s : Contents}

theorem ensures_bind {x : Work α} {f : α → Work β}
    {P : List Step → Option (Except Failure α) → Contents → Prop}
    {Q : List Step → Option (Except Failure β) → Contents → Prop}
    (first : Program.Ensures faults P x past s)
    (died : ∀ past s, P past none s → Q past none s)
    (failed : ∀ past failure s, P past (some (.error failure)) s → Q past (some (.error failure)) s)
    (next : ∀ past a s, P past (some (.ok a)) s → Program.Ensures faults Q (f a) past s) :
    Program.Ensures faults Q (x >>= f : Work β) past s := by
  apply Program.Ensures.bind first died
  intro past r s h
  cases r with
  | error failure => exact failed past failure s h
  | ok a => exact next past a s h

theorem ensures_lift {p : Program α} {Q : List Step → Option (Except Failure α) → Contents → Prop}
    (h : p.Ensures faults (fun past r s => Q past (r.map .ok) s) past s) :
    Program.Ensures faults Q (liftM p : Work α) past s := by
  apply Program.Ensures.bind h
  · intro past s died
    exact died
  · intro past a s done
    exact done

theorem ensures_check {check : Except Failure α} {f : α → Work β}
    {Q : List Step → Option (Except Failure β) → Contents → Prop}
    (refused : ∀ failure, check = .error failure → Q past (some (.error failure)) s)
    (passed : ∀ a, check = .ok a → Program.Ensures faults Q (f a) past s) :
    Program.Ensures faults Q (Work.ofExcept check >>= f : Work β) past s := by
  cases check with
  | error failure => exact refused failure rfl
  | ok a => exact passed a rfl

end Work

section Yields

variable {α β : Type} {faults : Faults} {s : Contents}

namespace Program

theorem Ensures.and_numbered {Q : List Step → Option α → Contents → Prop} {p : Program α}
    {past : List Step} (h : p.Ensures faults Q past s) (numbered : s.tables.Numbered) :
    p.Ensures faults (fun past r s => s.tables.Numbered ∧ Q past r s) past s := by
  induction p generalizing past s with
  | done a => exact ⟨numbered, h⟩
  | overflow => exact ⟨numbered, h⟩
  | report _ next ih => exact ih h numbered
  | call _ c next ih =>
      intro outcome s' answered numbered'
      exact ih outcome (h outcome s' answered numbered') numbered'

theorem Ensures.behind {Q : List Step → Option α → Contents → Prop} {p : Program α}
    {own : List Step} (h : p.Ensures faults Q own s) (past : List Step) :
    p.Ensures faults (fun whole r s => ∃ own, whole = past ++ own ∧ Q own r s) (past ++ own) s := by
  induction p generalizing own s with
  | done a => exact ⟨own, rfl, h⟩
  | overflow => exact ⟨own, rfl, h⟩
  | report _ next ih => exact ih h
  | call _ c next ih =>
      intro outcome s' answered numbered
      rw [List.append_assoc]
      exact ih outcome (h outcome s' answered numbered)

/-- Whatever the calls are answered, the value is as wanted if there is one. -/
def Yields (faults : Faults) (P : α → Contents → Prop) (p : Program α) (s : Contents) : Prop :=
  s.tables.Numbered → ∀ past,
    p.Ensures faults (fun _ r s => s.tables.Numbered ∧ ∀ a, r = some a → P a s) past s

variable {P : α → Contents → Prop} {Q : β → Contents → Prop}

theorem yields_of_ensures {R : List Step → Option α → Contents → Prop} {p : Program α}
    (h : s.tables.Numbered → p.Ensures faults R [] s)
    (imp : ∀ past a s, R past (some a) s → P a s) : p.Yields faults P s := by
  intro numbered past
  have whole := ((h numbered).behind past).and_numbered numbered
  rw [List.append_nil] at whole
  apply whole.mono
  rintro _ r s ⟨numbered', own, -, ended⟩
  exact ⟨numbered', fun a some => imp own a s (some ▸ ended)⟩

theorem Yields.mono {P' : α → Contents → Prop} {p : Program α} (h : p.Yields faults P s)
    (imp : ∀ a s, P a s → P' a s) : p.Yields faults P' s := by
  intro numbered past
  apply (h numbered past).mono
  intro past r s ended
  exact ⟨ended.1, fun a some => imp a s (ended.2 a some)⟩

theorem yields_done {a : α} (h : P a s) : (done a).Yields faults P s := by
  intro numbered past
  refine ⟨numbered, fun a' same => ?_⟩
  cases same
  exact h

theorem Yields.bind {p : Program α} {f : α → Program β} (first : p.Yields faults P s)
    (next : ∀ a s, P a s → (f a).Yields faults Q s) : (p >>= f).Yields faults Q s := by
  intro numbered past
  apply (first numbered past).bind
  · intro past s died
    exact ⟨died.1, fun _ some => by cases some⟩
  · intro past a s ended
    exact next a s (ended.2 a rfl) ended.1 past

theorem Yields.within {span : Span} {p : Program α} (h : p.Yields faults P s) :
    (p.within span).Yields faults P s :=
  fun numbered past => ensures_within.2 (h numbered past)

theorem Yields.run {deadline : Option Nat} {p : Program α} {w w' : World} {a : α}
    (h : p.Yields w.store.faults P w.contents) (numbered : w.store.tables.Numbered)
    (returned : p.run deadline w = (some a, w')) (fits : w'.store.tables.Fits) :
    P a w'.contents := by
  have ended := (h numbered []).run deadline numbered (by rwa [returned])
  rw [returned] at ended
  exact ended.2 a rfl

end Program

namespace Work

/-- Whatever the calls are answered, the value is as wanted if the work does not fail. -/
def Yields (faults : Faults) (P : α → Contents → Prop) (x : Work α) (s : Contents) : Prop :=
  Program.Yields faults (fun r s => ∀ a, r = .ok a → P a s) x s

variable {P : α → Contents → Prop} {Q : β → Contents → Prop}

theorem yields_pure {a : α} (h : P a s) : Work.Yields faults P (pure a) s := by
  apply Program.yields_done
  intro a' same
  cases same
  exact h

theorem yields_throw (failure : Failure) : Work.Yields faults P (throw failure) s := by
  apply Program.yields_done
  intro a same
  cases same

theorem Yields.bind {x : Work α} {f : α → Work β} (first : x.Yields faults P s)
    (next : ∀ a s, P a s → (f a).Yields faults Q s) :
    Work.Yields faults Q (x >>= f) s := by
  apply Program.Yields.bind first
  intro r s ended
  cases r with
  | error failure => exact yields_throw failure
  | ok a => exact next a s (ended a rfl)

theorem Yields.and {P' : α → Contents → Prop} {x : Work α} (h : x.Yields faults P s)
    (k : x.Yields faults P' s) : x.Yields faults (fun a s => P a s ∧ P' a s) s := by
  intro numbered past
  apply ((h numbered past).and (k numbered past)).mono
  rintro past r s ⟨⟨numbered', ended⟩, -, ended'⟩
  exact ⟨numbered', fun r some a ok => ⟨ended r some a ok, ended' r some a ok⟩⟩

theorem yields_askStore (guard : Guard) (c : StoreCall) :
    Work.Yields faults (fun _ s' => s'.catalog = s.catalog) (askStore guard c) s :=
  fun _ _ _ _ answered numbered' => ⟨numbered', fun _ _ _ _ => answered.catalog_of_store⟩

theorem Yields.map {x : Work α} {f : α → β} (h : x.Yields faults (fun a s => Q (f a) s) s) :
    Work.Yields faults Q (f <$> x) s := by
  rw [map_eq_pure_bind]
  apply h.bind
  intro a s ended
  exact yields_pure ended

theorem yields_check {check : Except Failure α} {f : α → Work β}
    (passed : ∀ a, check = .ok a → (f a).Yields faults Q s) :
    Work.Yields faults Q (Work.ofExcept check >>= f) s := by
  cases check with
  | error failure => exact yields_throw failure
  | ok a => exact passed a rfl

theorem yields_lift {p : Program α} (h : p.Yields faults P s) :
    Work.Yields faults P (liftM p) s := by
  apply Program.Yields.bind h
  intro a s ended
  exact yields_pure ended

end Work

end Yields

end BalancerFlows
