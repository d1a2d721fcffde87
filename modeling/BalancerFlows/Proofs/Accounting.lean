import BalancerFlows.Proofs.Processing

/-!
# What becomes of the details of a request

Every detail that a request creates belongs to one attempt at a piece of its work, and ends with it:
settled at once, bound to a flow that may run, or failed for the reason the attempt failed for. The
details of each attempt are accounted for when it ends (`Submission.Accounted`), and what comes
after it leaves them as they are (`Preserved`).
-/
namespace BalancerFlows

/-- An update that an unwinding issues is not refused. Nothing else updates details regardless of
the deadline. -/
def Unwind.Unrefused : Guard → (c : StoreCall) → Except Failure c.Answer → Prop
  | .free, .updateDetails _, outcome => ∃ answer, outcome = .ok answer
  | _, _, _ => True

/-- The terms of a run that is alone, and whose unwindings are not refused. -/
def Terms.unwinding : Terms :=
  .ofWrites (fun _ => True)
    (fun guard c t outcome t' => c.Effect t outcome t' ∧ Unwind.Unrefused guard c outcome)
    And.left False

theorem hosts_unwinding : Terms.unwinding.Hosts fun _ => True :=
  Terms.hosts_ofWrites And.left

theorem covers_unwinding : Terms.unwinding.Covers Unwind.Unrefused :=
  fun effect unrefused => ⟨effect, unrefused⟩

theorem spares_unwinding : Terms.unwinding.Spares :=
  fun allowed => allowed.2

namespace Attempt

def Creates (a : Attempt) (id : Int64) : Prop :=
  id ∈ a.after.details.rows.keys ∧ id ∉ a.before.details.rows.keys

/-- What has become of a detail that the attempt created, when its request returned. -/
def Accounts (a : Attempt) (result : Except Failure Submission) (t : Tables) (d : Detail) : Prop :=
  match d.state with
  | .success => d.flow = none ∧ ∀ s, result = .ok s → d.id ∈ s.settled
  | .pending => ∃ f, d.flow = some f.id ∧ t.flows.get? f.id = some f ∧ f.state = .pending ∧
      (∃ task ∈ f.tasks, d.action = some task.id ∧ d.id ∈ task.params.detailIds) ∧
      ∀ s, result = .ok s → f.id ∈ s.flows
  | .failed => ∃ failure, a.outcome = some (.error failure) ∧ d.reason = some failure.message ∧
      ∀ s, result = .ok s → { resource := a.resource, failure } ∈ s.failures

/-- What is created by consecutive attempts is created by one of them, and kept by the others. -/
theorem Consecutive.exists_creates {as : List Attempt} {t t' : Tables} (h : Consecutive t as t')
    (kept : ∀ a ∈ as, Preserved a.before a.after) :
    Preserved t t' ∧ ∀ id ∈ t'.details.rows.keys, id ∉ t.details.rows.keys →
      ∃ a ∈ as, a.Creates id ∧ Preserved a.after t' := by
  induction as generalizing t with
  | nil =>
      have same : t' = t := h
      subst same
      constructor
      · rfl
      · intro id mem new
        exact absurd mem new
  | cons a rest ih =>
      obtain ⟨first, others⟩ := List.forall_mem_cons.1 kept
      obtain ⟨rfl, tail⟩ := h
      obtain ⟨later, created⟩ := ih tail others
      constructor
      · exact first.trans later
      · intro id mem new
        by_cases here : id ∈ a.after.details.rows.keys
        · exact ⟨a, List.mem_cons_self, ⟨here, new⟩, later⟩
        · obtain ⟨b, b_mem, creates, kept⟩ := created id mem here
          exact ⟨b, List.mem_cons_of_mem a b_mem, creates, kept⟩

end Attempt

namespace Submission

variable {s : Submission} {as : List Attempt} {a : Attempt}

theorem mem_follow_settled (mem : a ∈ as) {id : Int64} (settled : id ∈ a.yield.settled) :
    id ∈ (s.follow as).settled :=
  List.mem_append_right _ (List.mem_flatMap.2 ⟨a, mem, settled⟩)

theorem mem_follow_flows (mem : a ∈ as) {id : Int64} (flow : id ∈ a.yield.flows) :
    id ∈ (s.follow as).flows :=
  List.mem_append_right _ (List.mem_flatMap.2 ⟨a, mem, flow⟩)

theorem mem_follow_failures (mem : a ∈ as) {failure : Failure}
    (failed : a.outcome = some (.error failure)) :
    { resource := a.resource, failure } ∈ (s.follow as).failures := by
  have noted : a.failure? = some { resource := a.resource, failure } := by
    rw [Attempt.failure?, failed]
  exact List.mem_append_right _ (List.mem_filterMap.2 ⟨a, mem, noted⟩)

end Submission

theorem Attempt.accounts_of_accounted {a : Attempt} {as : List Attempt} (mem : a ∈ as) {o : Own}
    {r : Except Failure Yield} (outcome : a.outcome = some r)
    (accounted : Submission.Accounted .unwinding r o a.after) {t' : Tables}
    (numbered : t'.Numbered) (kept : Preserved a.after t') {result : Except Failure Submission}
    (followed : ∀ s, result = .ok s → ∃ batch, s = ({ batch } : Submission).follow as)
    {id : Int64} (own : id ∈ o.details) :
    ∃ d, t'.details.get? id = some d ∧ a.Accounts result t' d ∧
      ∀ failure, a.outcome = some (.error failure) → d.state = .failed := by
  cases r with
  | error failure =>
      obtain ⟨d, found, failed, reason⟩ := accounted.failed spares_unwinding id own
      refine ⟨d, kept.get?_detail found, ?_, fun _ _ => failed⟩
      unfold Accounts
      rw [failed]
      refine ⟨failure, outcome, reason, fun s ok => ?_⟩
      obtain ⟨batch, rfl⟩ := followed s ok
      exact Submission.mem_follow_failures mem outcome
  | ok y =>
      have yield : a.yield = y := by rw [Attempt.yield, outcome]
      have no_failure : ∀ failure, a.outcome ≠ some (.error failure) := by simp [outcome]
      obtain ⟨d, found, stands⟩ := accounted id own
      have stored := kept.get?_detail found
      have d_id : d.id = id := Tables.numbered_detail_id numbered stored
      refine ⟨d, stored, ?_, fun failure failed => absurd failed (no_failure failure)⟩
      unfold Accounts
      rcases stands with
        ⟨success, unbound, settled⟩ | ⟨pending, f, flow, f_found, runs, lists, built⟩
      · rw [success]
        refine ⟨unbound, fun s ok => ?_⟩
        obtain ⟨batch, rfl⟩ := followed s ok
        apply Submission.mem_follow_settled mem
        rwa [yield, d_id]
      · rw [pending]
        refine ⟨f, flow, kept.get?_flow f_found, runs, lists, fun s ok => ?_⟩
        obtain ⟨batch, rfl⟩ := followed s ok
        apply Submission.mem_follow_flows mem
        rwa [yield]

theorem Submission.Processed.exists_creates {Q : Except Failure Yield → Own → Tables → Prop}
    {as : List Attempt} {t t' : Tables} {result : Except Failure Submission}
    (h : Processed .unwinding Q as t (some result) t') {id : Int64}
    (mem : id ∈ t'.details.rows.keys) (new : id ∉ t.details.rows.keys) :
    ∃ a ∈ as, a.Creates id ∧ Preserved a.after t' := by
  obtain ⟨t₁, t₂, o₁, o₂, first, consecutive, last, nothing⟩ := h.parts
  obtain ⟨rfl, rfl⟩ := nothing result rfl
  have kept : ∀ a ∈ as, Preserved a.before a.after := by
    intro a a_mem
    obtain ⟨o, path, -⟩ := h.kept a a_mem
    exact path.frame fun write => write
  have none_before : id ∉ t₁.details.rows.keys := by
    intro mem
    have added := (first.mem_details id).2 (.inr ⟨mem, new⟩)
    exact List.not_mem_nil added
  have none_behind : id ∈ t₂.details.rows.keys := by
    by_contra missing
    have added := (last.mem_details id).2 (.inr ⟨mem, missing⟩)
    exact List.not_mem_nil added
  obtain ⟨-, created⟩ := consecutive.exists_creates kept
  obtain ⟨a, a_mem, creates, later⟩ := created id none_behind none_before
  exact ⟨a, a_mem, creates, later.trans (last.frame fun write => write)⟩

/-- Whatever is refused, cut off or late, if only no unwinding is refused: each detail that a
request has created was created by one of its attempts, and is settled, bound to a flow that may
run, or failed for the reason of the attempt. An attempt that failed leaves none behind that is not
failed. -/
theorem created_details_accounted {deadline : Option Nat} {settings : Settings} {r : BatchRequest}
    {w w' : World} {result : Except Failure Submission} (reachable : w.store.tables.Reachable)
    (returned : Program.run deadline (Submission.process settings r) w = (some result, w'))
    (fits : w'.store.tables.Fits)
    (unrefused : Program.Always deadline Unwind.Unrefused (Submission.process settings r) w) :
    ∀ id ∈ w'.store.tables.details.rows.keys, id ∉ w.store.tables.details.rows.keys →
      ∃ a ∈ Submission.attemptsOf deadline settings r w, a.Creates id ∧
        ∃ d, w'.store.tables.details.get? id = some d ∧ a.Accounts result w'.store.tables d ∧
          ∀ failure, a.outcome = some (.error failure) → d.state = .failed := by
  intro id mem new
  have later : w.store.tables.Later w'.store.tables := by
    have later := Program.later_run deadline (Submission.process settings r) w
    rwa [returned] at later
  have numbered := reachable.numbered (fits.of_later later)
  have keeps := Submission.keeps_pieces hosts_unwinding (fun _ => trivial) settings r
  have processed := Submission.process_run hosts_unwinding covers_unwinding keeps unrefused numbered
    (by rwa [returned])
  rw [returned] at processed
  have numbered' := processed.keeps (P := Tables.Numbered) (fun path => path.numbered) numbered
  -- Nothing but the attempts adds details, so the row is of one of them.
  obtain ⟨a, a_mem, creates, kept⟩ := processed.exists_creates mem new
  obtain ⟨ended, followed⟩ := processed.returned result rfl
  obtain ⟨o, path, ends⟩ := processed.kept a a_mem
  obtain ⟨r, outcome⟩ := Option.isSome_iff_exists.1 (ended a a_mem)
  have own : id ∈ o.details := (path.mem_details id).2 (.inr creates)
  exact ⟨a, a_mem, creates, a.accounts_of_accounted a_mem outcome (ends r outcome) numbered' kept
    followed own⟩

namespace World

/-- A sound store refuses no unwinding, whatever the deadline. -/
theorem unrefused_call {w : World} (sound : w.store.Sound) (deadline : Option Nat) (guard : Guard)
    (c : StoreCall) : Unwind.Unrefused guard c (w.call deadline guard (.store c)).1 := by
  cases guard with
  | free =>
      cases c with
      | updateDetails patches =>
          have called : (w.call deadline .free (.store (.updateDetails patches))).1 =
              (w.store.perform (.updateDetails patches)).1 := by
            unfold World.call
            rw [Deadline.admission_free]
            rfl
          rw [called]
          exact (sound.perform (.updateDetails patches)).1.ok (by simp)
      | _ => trivial
  | _ => trivial

end World

theorem Program.always_unrefused {α : Type} (p : Program α) (deadline : Option Nat) {w : World}
    (sound : w.store.Sound) : p.Always deadline Unwind.Unrefused w := by
  induction p generalizing w with
  | done a => trivial
  | overflow => trivial
  | report occurrence next ih => exact ih (w := w.note occurrence) sound
  | call guard c next ih =>
      have after := World.sound_call sound deadline guard c
      cases c with
      | catalog c => exact ih _ after
      | store c => exact ⟨World.unrefused_call sound deadline guard c, ih _ after⟩

def oneListener : Stock :=
  { balancers := [{
      id := "lb-1", cloudId := "c-lb-1", vendor := .tCloud, account := "acc", region := "r-1" }]
    listeners := [{
      id := "li-1", cloudId := "c-li-1", balancer := "lb-1", protocol := "TCP", port := 80 }] }

/-- Somebody else has locked the load balancer, but the lock is not seen before it is wanted. -/
def unseenOwner : World :=
  World.insert {
    store := {
      tables := (({} : Store).perform (.takeLock {
        resource := { id := "lb-1", kind := .loadBalancer }, flow := 9
        kind := .targetGroupModify })).2.tables
      faults := { staleReads := true } } } oneListener

def oneDeletion : BatchRequest :=
  { business := 7, vendor := .tCloud, account := "acc", source := none
    command := .deleteListeners "lb-1" ["li-1"] }

theorem created_details_accounted_oneDeletion :
    ∃ result w', Program.run none (Submission.process {} oneDeletion) unseenOwner =
        (some result, w') ∧
      ∃ a ∈ Submission.attemptsOf none {} oneDeletion unseenOwner, a.Creates 1 ∧
        ∃ d, w'.store.tables.details.get? 1 = some d ∧ a.Accounts result w'.store.tables d ∧
          ∀ failure, a.outcome = some (.error failure) → d.state = .failed := by
  have reachable : unseenOwner.store.tables.Reachable := .call (s := {}) _ .empty
  have ended : (Program.run none (Submission.process {} oneDeletion) unseenOwner).1.isSome := by
    decide +kernel
  obtain ⟨result, value⟩ := Option.isSome_iff_exists.1 ended
  have fits : (Program.run none (Submission.process {} oneDeletion)
      unseenOwner).2.store.tables.Fits := by
    decide +kernel
  have unrefused := Program.always_unrefused (Submission.process {} oneDeletion) none
    (w := unseenOwner) ⟨rfl, rfl⟩
  refine ⟨result, _, Prod.ext value rfl, ?_⟩
  exact created_details_accounted reachable (Prod.ext value rfl) fits unrefused 1
    (by decide +kernel) (by decide +kernel)

end BalancerFlows
