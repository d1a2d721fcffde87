import BalancerFlows.Proofs.TargetWrites

/-!
# What runs make of the inventory

`Program.Turns` says what a program ends with and what it makes of the inventory, whatever the
store answers, whichever calls of the inventory are refused, and whichever calls come too late. It
asks nothing of the tables, so what it says holds of every run, also where counters run over. Main
statements: `Turns.run`, and `LocalJob.turns_run` for the only programs that write to the
inventory.
-/
namespace BalancerFlows

/-- What a call may be answered, and what it then makes of the inventory. -/
inductive Call.Turns : (call : Call) → Catalog → Except Failure call.Answer → Catalog → Prop
  | store (call : StoreCall) (c : Catalog) (outcome : Except Failure call.Answer) :
      Turns (.store call) c outcome c
  | catalog (call : CatalogCall) (c : Catalog) :
      Turns (.catalog call) c (c.perform call).1 (c.perform call).2
  | refused (call : CatalogCall) (c : Catalog) {failure : Failure}
      (machinery : failure.isPrecondition = false) : Turns (.catalog call) c (.error failure) c

namespace Call

theorem Answered.turns {faults : Faults} {call : Call} {s s' : Contents}
    {outcome : Except Failure call.Answer} (h : call.Answered faults s outcome s') :
    call.Turns s.catalog outcome s'.catalog := by
  cases h with
  | store c answered => exact .store _ c _
  | catalog call s => exact .catalog call s.catalog
  | refused call s machinery => exact .refused call s.catalog machinery

variable {call : Call} {c c' : Catalog} {outcome : Except Failure call.Answer}

theorem Builds.catalog_eq (builds : call.Builds) (h : call.Turns c outcome c') : c' = c := by
  cases h with
  | store call c outcome => rfl
  | catalog call c => exact builds.elim
  | refused call c machinery => rfl

theorem Notes.catalog_eq (notes : call.Notes) (h : call.Turns c outcome c') : c' = c :=
  notes.builds.catalog_eq h

theorem Reads.answered (reads : call.Reads) (h : call.Turns c outcome c') (faults : Faults) :
    call.Answered faults ⟨{}, c⟩ outcome ⟨{}, c'⟩ := by
  cases h with
  | store call c outcome => exact reads.elim
  | catalog call c => exact .catalog call ⟨{}, c⟩
  | refused call c machinery => exact .refused call ⟨{}, c⟩ machinery

end Call

namespace Program

variable {α β : Type} {P Q : Option α → Catalog → Prop} {c : Catalog}

/-- Whatever the calls are answered, the program ends as wanted. -/
def Turns (Q : Option α → Catalog → Prop) : Program α → Catalog → Prop
  | done a, c => Q (some a) c
  | overflow, c => Q none c
  | report _ next, c => next.Turns Q c
  | call _ request next, c =>
      ∀ outcome c', request.Turns c outcome c' → (next outcome).Turns Q c'

theorem Turns.mono {p : Program α} (h : p.Turns P c) (imp : ∀ r c, P r c → Q r c) :
    p.Turns Q c := by
  induction p generalizing c with
  | done a => exact imp (some a) c h
  | overflow => exact imp none c h
  | report _ next ih => exact ih h
  | call _ request next ih =>
      intro outcome c' turned
      exact ih outcome (h outcome c' turned)

theorem Turns.bind {p : Program α} {f : α → Program β} {Q : Option β → Catalog → Prop}
    (first : p.Turns P c) (died : ∀ c, P none c → Q none c)
    (next : ∀ a c, P (some a) c → (f a).Turns Q c) : (p >>= f).Turns Q c := by
  show (p.bind f).Turns Q c
  induction p generalizing c with
  | done a => exact next a c first
  | overflow => exact died c first
  | report _ rest ih => exact ih first
  | call _ request rest ih =>
      intro outcome c' turned
      exact ih outcome (first outcome c' turned)

@[simp] theorem turns_within {span : Span} {p : Program α} :
    (p.within span).Turns Q c ↔ p.Turns Q c := by
  induction p generalizing c with
  | done a => exact Iff.rfl
  | overflow => exact Iff.rfl
  | report _ next ih => exact ih
  | call _ request next ih =>
      exact forall_congr' fun outcome => forall_congr' fun _ => imp_congr Iff.rfl (ih outcome)

theorem Turns.run (deadline : Option Nat) {p : Program α} {w : World} (h : p.Turns Q w.catalog) :
    Q (p.run deadline w).1 (p.run deadline w).2.catalog := by
  induction p generalizing w with
  | done a => exact h
  | overflow => exact h
  | report o next ih => exact ih (w := w.note o) h
  | call guard request next ih =>
      have turned := (w.answered deadline guard request).1.turns
      exact ih _ (h _ _ turned)

theorem turns_any (p : Program α) (c : Catalog) :
    p.Turns (fun _ c' => ∃ targets named, c' = { c with targets, named }) c := by
  suffices ∀ c', (∃ targets named, c' = { c with targets, named }) →
      p.Turns (fun _ c' => ∃ targets named, c' = { c with targets, named }) c' from
    this c ⟨c.targets, c.named, rfl⟩
  intro c' before
  induction p generalizing c' with
  | done a => exact before
  | overflow => exact before
  | report _ next ih => exact ih c' before
  | call _ request next ih =>
      intro outcome c'' turned
      apply ih outcome
      cases turned with
      | store call c' outcome => exact before
      | refused call c' machinery => exact before
      | catalog call c' =>
          obtain ⟨targets, named, rfl⟩ := before
          obtain ⟨targets', named', same⟩ := { c with targets, named }.perform_snd call
          exact ⟨targets', named', same⟩

/-- A program that only makes calls which leave the inventory alone leaves it alone. -/
theorem Makes.turns {K : Call → Prop} {p : Program α} (makes : p.Makes K)
    (keep : ∀ {call : Call} {c outcome c'}, K call → call.Turns c outcome c' → c' = c) :
    p.Turns (fun _ c' => c' = c) c := by
  induction p with
  | done a => exact rfl
  | overflow => exact rfl
  | report _ next ih => exact ih makes
  | call _ request next ih =>
      intro outcome c' turned
      rw [keep makes.1 turned]
      exact ih outcome (makes.2 outcome)

/-- What a program that only looks things up yields, it yields whatever the rows are. -/
theorem Yields.turns {faults : Faults} {R : α → Contents → Prop} {p : Program α}
    (h : p.Yields faults R ⟨{}, c⟩) (reads : p.Makes Call.Reads) :
    p.Turns (fun r c' => c' = c ∧ ∀ a, r = some a → R a ⟨{}, c⟩) c := by
  have ended := h Tables.numbered_empty []
  generalize ([] : List Step) = past at ended
  clear h
  induction p generalizing past with
  | done a => exact ⟨rfl, ended.2⟩
  | overflow => exact ⟨rfl, ended.2⟩
  | report _ next ih => exact ih reads past ended
  | call _ request next ih =>
      intro outcome c' turned
      have answered := reads.1.answered turned faults
      have same : c' = c := congrArg Contents.catalog (reads.1.contents_eq answered)
      subst same
      exact ih outcome (reads.2 outcome) _ (ended _ _ answered Tables.numbered_empty)

end Program

namespace Work

variable {α β : Type} {P : Option (Except Failure α) → Catalog → Prop}
  {Q : Option (Except Failure β) → Catalog → Prop} {c : Catalog}

theorem turns_bind {x : Work α} {f : α → Work β} (first : Program.Turns P x c)
    (died : ∀ c, P none c → Q none c)
    (failed : ∀ failure c, P (some (.error failure)) c → Q (some (.error failure)) c)
    (next : ∀ a c, P (some (.ok a)) c → Program.Turns Q (f a) c) :
    Program.Turns Q (x >>= f : Work β) c := by
  apply Program.Turns.bind first died
  intro r c ended
  cases r with
  | error failure => exact failed failure c ended
  | ok a => exact next a c ended

theorem turns_check {check : Except Failure α} {f : α → Work β}
    (refused : ∀ failure, check = .error failure → Q (some (.error failure)) c)
    (passed : ∀ a, check = .ok a → Program.Turns Q (f a) c) :
    Program.Turns Q (Work.ofExcept check >>= f : Work β) c := by
  cases check with
  | error failure => exact refused failure rfl
  | ok a => exact passed a rfl

theorem turns_lift {p : Program α} (h : p.Turns (fun r c' => P (r.map .ok) c') c) :
    Program.Turns P (liftM p : Work α) c :=
  Program.Turns.bind h (fun _ => id) fun _ _ => id

theorem turns_map {x : Work α} {f : α → β}
    (h : Program.Turns (fun r c' => Q (r.map (Except.map f)) c') x c) :
    Program.Turns Q (f <$> x : Work β) c := by
  rw [map_eq_pure_bind]
  exact turns_bind h (fun _ => id) (fun _ _ => id) fun _ _ => id

end Work

/-- What a call leaves of an inventory that it is made on at most once: what was there, or what the
call makes of it, and the latter without a failure where it is known to have succeeded. -/
structure CatalogCall.Left (call : CatalogCall) (c : Catalog) (succeeded : Prop) (c' : Catalog) :
    Prop where
  catalog : c' = c ∨ c' = (c.perform call).2
  done : succeeded → c' = (c.perform call).2 ∧ ∃ answer, (c.perform call).1 = .ok answer

namespace CatalogCall.Left

variable {call : CatalogCall} {c c' : Catalog} {p q : Prop}

theorem nothing (not : ¬ p) : call.Left c p c :=
  ⟨.inl rfl, fun succeeded => (not succeeded).elim⟩

theorem mono (h : call.Left c p c') (imp : q → p) : call.Left c q c' :=
  ⟨h.catalog, fun succeeded => h.done (imp succeeded)⟩

end CatalogCall.Left

namespace LocalChange

variable {c : Catalog}

theorem turns_call (call : CatalogCall) :
    Program.Turns (fun r c' => call.Left c (∃ a, r = some (.ok a)) c') (LocalChange.call call)
      c := by
  intro outcome c' turned
  cases turned with
  | refused call c machinery => exact .nothing (by simp)
  | catalog call c =>
      refine ⟨.inr rfl, fun succeeded => ⟨rfl, ?_⟩⟩
      simpa using succeeded

theorem turns_carryOut (call : CatalogCall) (details : List Detail) :
    Program.Turns (fun r c' => call.Left c (∃ a, r = some (.ok a)) c')
      (carryOut (do let _ ← LocalChange.call call; return ()) details) c := by
  unfold carryOut
  rw [bind_assoc]
  apply Work.turns_bind (turns_call call)
  · intro c' left
    exact left.mono (by simp)
  · intro failure c' left
    exact left.mono (by simp)
  · intro answer c' left
    have noted : Program.Asks (Call.Suited Call.Notes) (Detail.writeSuccess details) :=
      Work.asks_bind (Work.asks_timed trivial) fun _ => trivial
    apply (noted.makes.turns Call.Notes.catalog_eq).mono
    intro r c'' same
    rw [same]
    exact left.mono fun _ => ⟨answer, rfl⟩

/-- A settled call is made at most once, and if there is something to settle and it was settled the
call has succeeded. -/
theorem turns_settle (scope : DetailScope) (params : List Json) (call : CatalogCall) :
    Program.Turns (fun r c' => call.Left c ((∃ ids, r = some (.ok ids)) ∧ params ≠ []) c')
      (settle scope params (do let _ ← LocalChange.call call; return ())) c := by
  unfold settle
  apply Program.turns_within.2
  split
  next empty => exact .nothing fun some => some.2 (List.isEmpty_iff.1 empty)
  next =>
    apply Work.turns_bind ((scope.asks_create params).makes.turns Call.Notes.catalog_eq)
    · intro c' same
      rw [same]
      exact .nothing (by simp)
    · intro failure c' same
      rw [same]
      exact .nothing (by simp)
    · intro details c' same
      rw [same]
      apply (turns_carryOut call details).bind
      · intro c' left
        exact left.mono (by simp)
      · intro outcome c' left
        cases outcome with
        | ok settled => exact left.mono fun _ => ⟨settled, rfl⟩
        | error failure =>
            apply ((Unwind.asks_run failure details).makes.turns Call.Notes.catalog_eq).bind
            · intro c'' same
              rw [same]
              exact left.mono (by simp)
            · intro _ c'' same
              rw [same]
              exact left.mono (by simp)

end LocalChange

namespace LocalJob

/-- What a run of a local job makes of the inventory: nothing, or what its call does; and the whole
change, if the job succeeds and has anything to do. -/
theorem turns_run (scope : DetailScope) (job : LocalJob) (c : Catalog) :
    Program.Turns (fun r c' => (c' = c ∨ c' = (c.perform job.write).2) ∧
        ((∃ ids, r = some (.ok ids)) → job.params ≠ [] → job.Nameable → job.Applied c c'))
      (Submission.runLocalJob scope job) c := by
  rw [Submission.runLocalJob_eq]
  apply Work.turns_check
  · intro failure _
    exact ⟨.inl rfl, by simp⟩
  · intro _ _
    apply (LocalChange.turns_settle scope job.params job.write).mono
    intro r c' left
    refine ⟨left.catalog, fun ended some nameable => ?_⟩
    obtain ⟨same, answer, done⟩ := left.done ⟨ended, some⟩
    rw [same]
    exact applied_write nameable done

end LocalJob

end BalancerFlows
