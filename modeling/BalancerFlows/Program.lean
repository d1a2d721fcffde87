import BalancerFlows.Catalog
import BalancerFlows.Deadline
import BalancerFlows.Journal.Span
import BalancerFlows.Store

/-!
# Programs

What a piece of work asks of the store and the catalog, as a tree: one call, then what to do with
each possible outcome of it. A program does nothing by itself, so the states between two calls,
calls that fail and calls that come too late are all visible from outside.
-/
namespace BalancerFlows

inductive Call where
  | store (call : StoreCall)
  | catalog (call : CatalogCall)
  deriving Repr, DecidableEq

namespace Call

@[reducible] def Answer : Call → Type
  | store c => c.Answer
  | catalog c => c.Answer

def name : Call → String
  | store c => c.name
  | catalog c => c.name

end Call

/-- Work that ends with a value: it may report events and make calls. -/
inductive Program (α : Type) where
  /-- The work is done. -/
  | done (value : α)
  /-- A counter of task ids ran over and the run dies here. -/
  | overflow
  /-- Reports an event, with the spans it happens in. -/
  | report (occurrence : Occurrence) (next : Program α)
  /-- Makes a call and goes on with its outcome. -/
  | call (guard : Guard) (request : Call) (next : Except Failure request.Answer → Program α)

namespace Program

variable {α β : Type}

/-- Goes on with another program when this one is done. -/
def bind : Program α → (α → Program β) → Program β
  | done a, f => f a
  | overflow, _ => overflow
  | report o next, f => report o (next.bind f)
  | call g c next, f => call g c fun outcome => (next outcome).bind f

instance : Monad Program where
  pure := done
  bind := bind

@[simp] theorem pure_bind' (a : α) (f : α → Program β) : (done a).bind f = f a := rfl

theorem bind_done (p : Program α) : p.bind done = p := by
  induction p with
  | done a => rfl
  | overflow => rfl
  | report o next ih => simp [bind, ih]
  | call g c next ih => simp [bind, ih]

theorem bind_assoc {γ : Type} (p : Program α) (f : α → Program β) (g : β → Program γ) :
    (p.bind f).bind g = p.bind fun a => (f a).bind g := by
  induction p with
  | done a => rfl
  | overflow => rfl
  | report o next ih => simp [bind, ih]
  | call guard c next ih => simp [bind, ih]

instance : LawfulMonad Program :=
  LawfulMonad.mk' Program bind_done (fun _ _ => rfl) bind_assoc

/-- The program with all its events in a span. -/
def within (s : Span) : Program α → Program α
  | done a => done a
  | overflow => overflow
  | report o next => report (o.within s) (next.within s)
  | call g c next => call g c fun outcome => (next outcome).within s

end Program

/-- Work that ends with a value or a failure. -/
abbrev Work := ExceptT Failure Program

namespace Work

variable {α : Type}

def report (e : Event) : Program Unit :=
  .report { event := e } (.done ())

def within (s : Span) (w : Work α) : Work α :=
  ExceptT.mk (Program.within s w.run)

def ask (guard : Guard) (c : Call) : Work c.Answer :=
  Program.call guard c Program.done

def askStore (guard : Guard) (c : StoreCall) : Work c.Answer :=
  ask guard (.store c)

def askCatalog (guard : Guard) (c : CatalogCall) : Work c.Answer :=
  ask guard (.catalog c)

/-- Work that only decides. -/
def ofExcept : Except Failure α → Work α :=
  fun r => Program.done r

def outcome (w : Work α) : Program (Except Failure α) :=
  w.run

end Work

end BalancerFlows
