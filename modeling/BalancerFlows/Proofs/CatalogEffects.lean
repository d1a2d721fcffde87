import BalancerFlows.Proofs.CatalogRuns
import BalancerFlows.Proofs.Fulfilment

/-!
# What requests change in the inventory

Of all records only targets are ever changed, and of the targets only those that a request names and
whose group was never pushed. What happens to those is what the request wants, or nothing; and it is
what the request wants if nothing failed. Main statement: `Submission.process_changes`.
-/
namespace BalancerFlows

namespace Command

/-- What a command wants of a target that it names: a weight or a port set, or the target gone. -/
def wanted : Command → Target → Option Target
  | modifyWeight _ weight, t => some { t with weight }
  | modifyPort _ port, t => some { t with port }
  | removeTargets _, _ => none
  | addTargets .., t | deleteListeners .., t | bindTargetGroups _, t => some t

theorem wanted_wanted (command : Command) (t : Option Target) :
    (t.bind command.wanted).bind command.wanted = t.bind command.wanted := by
  cases t with
  | none => rfl
  | some t => cases command <;> rfl

end Command

namespace Catalog

/-- The inventory after some of the targets that may change have changed as wanted. -/
structure Moved (may : String → Prop) (wanted : Target → Option Target) (c c' : Catalog) :
    Prop where
  others : c' = { c with targets := c'.targets }
  each : ∀ id, c'.targets.get? id = c.targets.get? id ∨
    may id ∧ c'.targets.get? id = (c.targets.get? id).bind wanted

namespace Moved

variable {may : String → Prop} {command : Command} {c c' c'' : Catalog}

theorem refl (may : String → Prop) (wanted : Target → Option Target) (c : Catalog) :
    c.Moved may wanted c :=
  ⟨rfl, fun _ => .inl rfl⟩

theorem stays (h : c.Moved may command.wanted c') {id : String} {t : Option Target}
    (done : c.targets.get? id = t.bind command.wanted) :
    c'.targets.get? id = t.bind command.wanted := by
  cases h.each id with
  | inl same => rw [same, done]
  | inr moved => rw [moved.2, done, command.wanted_wanted]

theorem trans (h : c.Moved may command.wanted c') (k : c'.Moved may command.wanted c'') :
    c.Moved may command.wanted c'' where
  others := by
    have first := h.others
    have second := k.others
    rw [first] at second
    exact second
  each := by
    intro id
    cases h.each id with
    | inr moved => exact .inr ⟨moved.1, k.stays moved.2⟩
    | inl same =>
        have later := k.each id
        rw [same] at later
        exact later

end Moved

theorem mem_found {c : Catalog} (filed : Keyed.Filed Target.id c.targets) {ids : List String}
    {t : Target} : t ∈ c.found ids ↔ t.id ∈ ids ∧ c.targets.get? t.id = some t := by
  rw [found, List.mem_filterMap]
  constructor
  · intro listed
    obtain ⟨id, mem, stored⟩ := listed
    rw [filed id t stored]
    exact ⟨mem, stored⟩
  · intro stored
    exact ⟨t.id, stored.1, stored.2⟩

end Catalog

/-- The job makes of these targets what the command wants. -/
structure Command.Serves (command : Command) (targets : List Target) (job : LocalJob) : Prop where
  idle : job.params = [] → targets = []
  nameable : job.Nameable
  writes : ∀ {may : String → Prop} (c : Catalog), (∀ t ∈ targets, may t.id) →
    c.Moved may command.wanted (c.perform job.write).2
  applied : ∀ {c c' : Catalog}, job.Applied c c' →
    ∀ t ∈ targets, c'.targets.get? t.id = (c.targets.get? t.id).bind command.wanted

namespace LocalJob

open Catalog

theorem serves_remove (ids : List String) (group : String) (targets : List Target) :
    (Command.removeTargets ids).Serves targets (.remove group targets) where
  idle none := List.map_eq_nil_iff.1 none
  nameable := trivial
  writes := by
    intro may c all
    refine ⟨rfl, fun id => ?_⟩
    have dropped : ((targets.map Target.id).foldl Keyed.erase c.targets).get? id = _ :=
      Keyed.get?_eraseAll c.targets (targets.map Target.id) id
    by_cases named : id ∈ targets.map Target.id
    · obtain ⟨t, mem, same⟩ := List.mem_map.1 named
      rw [if_pos named] at dropped
      refine .inr ⟨same ▸ all t mem, dropped.trans ?_⟩
      cases c.targets.get? id <;> rfl
    · rw [if_neg named] at dropped
      exact .inl dropped
  applied := by
    intro c c' done t mem
    rw [done.2, if_pos (List.mem_map_of_mem mem)]
    cases c.targets.get? t.id <;> rfl

/-- A change that stops halfway has changed some of its targets. -/
theorem serves_modify {command : Command} (change : TargetChange)
    (same : command.wanted = fun t => some (change.apply t)) (group : String)
    (targets : List Target) : command.Serves targets (.modify group change targets) where
  idle none := List.map_eq_nil_iff.1 none
  nameable := trivial
  writes := by
    intro may c all
    have changed := c.changed_patched change
      (targets.takeWhile fun t => c.Has (change.patch t))
    have whole : (c.perform (LocalJob.modify group change targets).write).2 =
        c.patched ((targets.takeWhile fun t => c.Has (change.patch t)).map change.patch) := by
      show (c.updateTargets (targets.map change.patch)).2 = _
      rw [updateTargets_eq_patched, reached, List.takeWhile_map]
      rfl
    rw [whole]
    refine ⟨changed.others, fun id => ?_⟩
    rw [changed.targets id]
    split
    next named =>
      obtain ⟨t, mem, rfl⟩ := List.mem_map.1 named
      refine .inr ⟨all t (List.takeWhile_subset _ mem), ?_⟩
      rw [same]
      cases c.targets.get? t.id <;> rfl
    next => exact .inl rfl
  applied := by
    intro c c' done t mem
    rw [done.2.targets, if_pos (List.mem_map_of_mem mem), same]
    cases c.targets.get? t.id <;> rfl

variable {command : Command} {targets : List Target} {job : LocalJob}

/-- What a run of a local job makes of the inventory, if the job serves a command: some of its
targets may have changed as wanted, and all of them have if it succeeds. -/
theorem turns_served (serves : command.Serves targets job) {may : String → Prop}
    (all : ∀ t ∈ targets, may t.id) (scope : DetailScope) (c : Catalog) :
    Program.Turns (fun r c' => c.Moved may command.wanted c' ∧ ((∃ ids, r = some (.ok ids)) →
        ∀ t ∈ targets, c'.targets.get? t.id = (c.targets.get? t.id).bind command.wanted))
      (Submission.runLocalJob scope job) c := by
  apply (job.turns_run scope c).mono
  intro r c' turned
  constructor
  · cases turned.1 with
    | inl same =>
        rw [same]
        exact Moved.refl may command.wanted c
    | inr written =>
        rw [written]
        exact serves.writes c all
  · intro ended
    by_cases none : job.params = []
    · rw [serves.idle none]
      exact List.forall_mem_nil _
    · exact serves.applied (turned.2 ended none serves.nameable)

end LocalJob

namespace Command

variable {r : BatchRequest} {ids : List String}

/-- A command that names existing targets routes them to jobs that serve it. -/
theorem exists_route (asked : r.command.targetIds? = some ids) : ∃ route : Routing.TargetRoute,
    Routing.route r = Routing.targets r route ids ∧
      ∀ group targets, r.command.Serves targets (route.unbound group targets) := by
  unfold Routing.route
  cases command : r.command with
  | modifyWeight named weight =>
      rw [command] at asked
      cases asked
      exact ⟨_, rfl, LocalJob.serves_modify (.weight weight) rfl⟩
  | modifyPort named port =>
      rw [command] at asked
      cases asked
      exact ⟨_, rfl, LocalJob.serves_modify (.port port) rfl⟩
  | removeTargets named =>
      rw [command] at asked
      cases asked
      exact ⟨_, rfl, LocalJob.serves_remove _⟩
  | addTargets group specs =>
      rw [command] at asked
      cases asked
  | deleteListeners balancer listeners =>
      rw [command] at asked
      cases asked
  | bindTargetGroups bindings =>
      rw [command] at asked
      cases asked

end Command

namespace Routing

variable {c : Catalog} {ids : List String}

/-- The targets of local jobs are those that are named and whose group has no binding. -/
theorem mem_unboundGroups {t : Target} :
    (∃ g ∈ unboundGroups c (groupsOf c ids), t ∈ g.2) ↔
      t ∈ c.found ids ∧ c.bindings.get? t.group = none := by
  have gathered := Keyed.gather_perm Target.group (c.found ids)
  constructor
  · intro listed
    obtain ⟨g, split, mem⟩ := listed
    obtain ⟨grouped, unbound⟩ := List.mem_filter.1 split
    have own := group_of_mem_groupsOf grouped t mem
    exact ⟨gathered.mem_iff.1 (List.mem_flatMap.2 ⟨g, grouped, mem⟩), by simpa [own] using unbound⟩
  · intro named
    obtain ⟨g, grouped, mem⟩ := List.mem_flatMap.1 (gathered.mem_iff.2 named.1)
    have own := group_of_mem_groupsOf grouped t mem
    refine ⟨g, List.mem_filter.2 ⟨grouped, ?_⟩, mem⟩
    rw [← own, named.2]
    rfl

/-- A request that names no existing targets has local jobs only if it adds targets to a group that
has no binding. -/
theorem yields_no_local {faults : Faults} {r : BatchRequest} {s : Contents}
    (other : r.command.targetIds? = none)
    (bound : ∀ group specs, r.command = .addTargets group specs →
      (s.catalog.bindings.get? group).isSome) :
    Work.Yields faults (fun work _ => work.unbound = []) (route r) s := by
  unfold route
  split
  next ids weight asked => simp [asked, Command.targetIds?] at other
  next ids port asked => simp [asked, Command.targetIds?] at other
  next ids asked => simp [asked, Command.targetIds?] at other
  next group specs asked =>
    apply (yields_group r group).bind
    intro _ s' same
    apply (yields_ask (.findBinding group) rfl).bind
    intro binding s'' looked
    rw [same.1] at looked
    have found : s.catalog.bindings.get? group = binding := Except.ok.inj looked.2
    cases binding with
    | none => simpa [found] using bound group specs asked
    | some binding => exact Work.yields_pure rfl
  next id ids asked =>
    exact Work.yields_after fun _ _ => Work.yields_after fun _ _ => Work.yields_check fun _ _ =>
      Work.yields_pure rfl
  next wanted asked => exact Work.yields_after fun _ _ => Work.yields_pure rfl

end Routing

namespace Submission

variable {settings : Settings} {r : BatchRequest} {c : Catalog}

/-- A loop over pieces of work: what each of them keeps is kept, and what each that succeeds leads
to is reached where nothing fails, if the others do not undo it. -/
theorem turns_workAll {ι : Type} {piece : ι → Piece} {I : Catalog → Prop}
    {E : ι → Catalog → Prop} {items : List ι}
    (step : ∀ i ∈ items, ∀ c, I c → Program.Turns (fun r c' => I c' ∧
      (∀ j, E j c → E j c') ∧ ((∃ y, r = some (.ok y)) → E i c')) (piece i).work c)
    {s : Submission} {c : Catalog} (before : I c) :
    (workAll s (items.map piece)).Turns (fun r c' => I c' ∧ (∀ j, E j c → E j c') ∧
      ∀ s', r = some s' → s'.failures = [] → s.failures = [] ∧ ∀ i ∈ items, E i c') c := by
  induction items generalizing s c with
  | nil =>
      refine ⟨before, fun _ => id, fun s' same none => ?_⟩
      cases same
      exact ⟨none, List.forall_mem_nil _⟩
  | cons i rest ih =>
      obtain ⟨first, others⟩ := List.forall_mem_cons.1 step
      apply (first c before).bind
      · intro c' died
        exact ⟨died.1, died.2.1, by simp⟩
      · intro outcome c' turned
        obtain ⟨kept, stay, done⟩ := turned
        cases outcome with
        | ok y =>
            apply (ih others kept).mono
            intro r c'' ended
            refine ⟨ended.1, fun j h => ended.2.1 j (stay j h), fun s' same none => ?_⟩
            obtain ⟨clean, all⟩ := ended.2.2 s' same none
            exact ⟨clean, List.forall_mem_cons.2 ⟨ended.2.1 i (done ⟨y, rfl⟩), all⟩⟩
        | error failure =>
            apply (ih others kept (s := s.fail { resource := (piece i).resource, failure })).mono
            intro r c'' ended
            refine ⟨ended.1, fun j h => ended.2.1 j (stay j h), fun s' same none => ?_⟩
            simpa [fail] using (ended.2.2 s' same none).1

/-- The flows of a batch are built without a write to the inventory. -/
theorem turns_boundPieces (batch : Int64) (entries : List (String × Job)) (s : Submission) :
    (workAll s (entries.map (boundPiece settings r batch))).Turns (fun r c' => c' = c ∧
      ∀ s', r = some s' → s'.failures = [] → s.failures = []) c := by
  apply (turns_workAll (I := (· = c)) (E := fun (_ : String × Job) _ => True) ?_ rfl).mono
  · exact fun r c' ended => ⟨ended.1, fun s' same none => (ended.2.2 s' same none).1⟩
  · intro entry _ c' same
    rw [same]
    apply ((Work.asks_map (Construction.asks_buildJob settings _ entry.2)).makes.turns
      Call.Builds.catalog_eq).mono
    exact fun _ _ same => ⟨same, fun _ => id, fun _ => trivial⟩

theorem turns_attach (batch : Int64) (s : Submission) :
    Program.Turns (fun r c' => c' = c ∧ ∀ s', r = some (.ok s') → s' = s) (attach batch s) c := by
  intro outcome c' turned
  cases turned with
  | store call c outcome =>
      cases outcome with
      | error failure => exact ⟨rfl, by simp⟩
      | ok _ => exact ⟨rfl, by simp⟩

/-- What the local jobs of a request make of the inventory is what the request does. -/
theorem turns_process {R : Routed → Prop} {I D : Catalog → Prop}
    (routed : Program.Turns (fun r c' => c' = c ∧ ∀ work, r = some (.ok work) → R work)
      (Routing.route r) c) (start : I c)
    (locally : ∀ work batch, R work →
      (workAll { batch } (work.unbound.map (localPiece (localScope r batch)))).Turns
        (fun r c' => I c' ∧ ∀ s, r = some s → s.failures = [] → D c') c) :
    Program.Turns (fun r c' => I c' ∧ ∀ s, r = some (.ok s) → s.failures = [] → D c')
      (process settings r) c := by
  have prepared : Program.Turns (fun r c' => c' = c ∧ ∀ ready, r = some (.ok ready) → R ready.1)
      (prepare settings r) c := by
    apply Work.turns_check
    · exact fun _ _ => ⟨rfl, by simp⟩
    · intro _ _
      apply Work.turns_bind routed
      · exact fun _ ended => ⟨ended.1, by simp⟩
      · exact fun _ _ ended => ⟨ended.1, by simp⟩
      · intro work c' ended outcome c'' turned
        cases turned with
        | store call c' outcome =>
            cases outcome with
            | error failure => exact ⟨ended.1, by simp⟩
            | ok batch => exact ⟨ended.1, fun ready same => by
                cases same
                exact ended.2 work rfl⟩
  rw [process_eq]
  apply Program.turns_within.2
  apply Work.turns_bind prepared
  · intro c' ended
    rw [ended.1]
    exact ⟨start, by simp⟩
  · intro failure c' ended
    rw [ended.1]
    exact ⟨start, by simp⟩
  · intro ready c' ended
    rw [ended.1]
    have worked : (workAll { batch := ready.2 } (pieces settings r ready.1 ready.2)).Turns
        (fun r c' => I c' ∧ ∀ s, r = some s → s.failures = [] → D c') c := by
      rw [pieces, workAll_append]
      apply (locally ready.1 ready.2 (ended.2 ready rfl)).bind
      · exact fun c' died => ⟨died.1, by simp⟩
      · intro s c' turned
        apply (turns_boundPieces ready.2 ready.1.bound s).mono
        intro r c'' ended
        rw [ended.1]
        exact ⟨turned.1, fun s' same none => turned.2 s rfl (ended.2 s' same none)⟩
    have lifted : Program.Turns
        (fun r c' => I c' ∧ ∀ s, r = some (.ok s) → s.failures = [] → D c')
        (liftM (workAll { batch := ready.2 } (pieces settings r ready.1 ready.2)) :
          Work Submission) c :=
      Work.turns_lift (worked.mono fun r c' ended =>
        ⟨ended.1, fun s same => ended.2 s (by simpa using same)⟩)
    apply Work.turns_bind lifted
    · exact fun c' died => ⟨died.1, by simp⟩
    · exact fun failure c' failed => ⟨failed.1, by simp⟩
    · intro s c' turned
      apply (turns_attach ready.2 s).mono
      intro r c'' ended
      rw [ended.1]
      refine ⟨turned.1, fun s' same none => turned.2 s rfl ?_⟩
      rw [← ended.2 s' same]
      exact none

/-- What becomes of the targets under a request that names them by these ids. -/
structure Settles (command : Command) (ids : List String) (c : Catalog)
    (result : Option (Except Failure Submission)) (c' : Catalog) : Prop where
  absent : ∀ id, c.targets.get? id = none → c'.targets.get? id = none
  spared : ∀ id t, c.targets.get? id = some t →
    id ∉ ids ∨ (c.bindings.get? t.group).isSome → c'.targets.get? id = some t
  moved : ∀ id ∈ ids, ∀ t, c.targets.get? id = some t → c.bindings.get? t.group = none →
    c'.targets.get? id = some t ∨ c'.targets.get? id = command.wanted t
  finished : ∀ s, result = some (.ok s) → s.failures = [] →
    ∀ id ∈ ids, ∀ t, c.targets.get? id = some t → c.bindings.get? t.group = none →
      c'.targets.get? id = command.wanted t

theorem turns_settles (known : c.Reachable) {ids : List String}
    (asked : r.command.targetIds? = some ids) :
    Program.Turns (Settles r.command ids c) (process settings r) c := by
  obtain ⟨route, routes, serves⟩ := Command.exists_route asked
  let groups := Routing.unboundGroups c (Routing.groupsOf c ids)
  let may (id : String) : Prop := ∃ g ∈ groups, ∃ t ∈ g.2, t.id = id
  have routed : Program.Turns (fun r c' => c' = c ∧ ∀ work, r = some (.ok work) →
      work = Routing.targetWork c route ids) (Routing.route r) c := by
    rw [routes]
    have looked : Work.Yields {} _ (Routing.targets r route ids) ⟨{}, c⟩ :=
      Routing.yields_targets r route ids
    apply (looked.turns (Routing.asks_targets r route ids).makes).mono
    exact fun _ _ ended => ⟨ended.1, fun work same => (ended.2 _ same work rfl).2.2.2⟩
  have worked : Program.Turns (fun r' c' => c.Moved may r.command.wanted c' ∧
      ∀ s, r' = some (.ok s) → s.failures = [] → ∀ g ∈ groups, ∀ t ∈ g.2,
        c'.targets.get? t.id = (c.targets.get? t.id).bind r.command.wanted)
      (process settings r) c := by
    apply turns_process (D := fun c' => ∀ g ∈ groups, ∀ t ∈ g.2,
      c'.targets.get? t.id = (c.targets.get? t.id).bind r.command.wanted)
      routed (Catalog.Moved.refl may r.command.wanted c)
    intro work batch same
    have jobs : work.unbound.map (localPiece (localScope r batch)) =
        groups.map fun g => localPiece (localScope r batch) (route.unbound g.1 g.2) := by
      rw [same]
      exact List.map_map
    rw [jobs]
    apply (turns_workAll (E := fun g c' => ∀ t ∈ g.2,
      c'.targets.get? t.id = (c.targets.get? t.id).bind r.command.wanted) ?_
      (Catalog.Moved.refl may r.command.wanted c)).mono
    · exact fun r' c' ended => ⟨ended.1, fun s same none => (ended.2.2 s same none).2⟩
    · intro g mem c' kept
      have all : ∀ t ∈ g.2, may t.id := fun t t_mem => ⟨g, mem, t, t_mem, rfl⟩
      apply Work.turns_map
      apply (LocalJob.turns_served (serves g.1 g.2) all (localScope r batch) c').mono
      intro r' c'' ended
      refine ⟨kept.trans ended.1, fun j done t t_mem => ended.1.stays (done t t_mem), ?_⟩
      intro succeeded t t_mem
      have ok : ∃ ids, r' = some (.ok ids) := by
        obtain ⟨y, same⟩ := succeeded
        obtain ⟨outcome, rfl, mapped⟩ := Option.map_eq_some_iff.1 same
        cases outcome with
        | error failure => cases mapped
        | ok ids => exact ⟨ids, rfl⟩
      rw [ended.2 ok t t_mem]
      cases kept.each t.id with
      | inl same => rw [same]
      | inr moved => rw [moved.2, r.command.wanted_wanted]
  apply worked.mono
  intro r' c' ended
  constructor
  case absent =>
    intro id none
    cases ended.1.each id with
    | inl same => rw [same, none]
    | inr moved => rw [moved.2, none, Option.bind_none]
  case spared =>
    intro id t found aside
    cases ended.1.each id with
    | inl same => rw [same, found]
    | inr moved =>
        obtain ⟨g, split, u, mem, rfl⟩ := moved.1
        obtain ⟨listed, unbound⟩ := Routing.mem_unboundGroups.1 ⟨g, split, mem⟩
        obtain ⟨named, stored⟩ := (Catalog.mem_found known.filed).1 listed
        rw [stored] at found
        cases found
        cases aside with
        | inl other => exact absurd named other
        | inr bound => simp [unbound] at bound
  case moved =>
    intro id named t found unbound
    cases ended.1.each id with
    | inl same => exact .inl (by rw [same, found])
    | inr moved => exact .inr (by rw [moved.2, found, Option.bind_some])
  case finished =>
    intro s same none id named t found unbound
    have own : t.id = id := known.filed id t found
    subst own
    obtain ⟨g, split, mem⟩ := Routing.mem_unboundGroups.2
      ⟨(Catalog.mem_found known.filed).2 ⟨named, found⟩, unbound⟩
    rw [ended.2 s same none g split t mem, found, Option.bind_some]

/-- A request that names no existing targets and adds none to a group without binding leaves the
inventory as it is. -/
theorem turns_idle (other : r.command.targetIds? = none)
    (bound : ∀ group specs, r.command = .addTargets group specs →
      (c.bindings.get? group).isSome) :
    Program.Turns (fun _ c' => c' = c) (process settings r) c := by
  have routed : Work.Yields {} (fun work _ => work.unbound = []) (Routing.route r) ⟨{}, c⟩ :=
    Routing.yields_no_local other bound
  have worked : Program.Turns (fun r' c' => c' = c ∧ ∀ s, r' = some (.ok s) →
      s.failures = [] → True) (process settings r) c := by
    apply turns_process (I := (· = c)) (D := fun _ => True) (R := fun work => work.unbound = []) ?_
      rfl
    · intro work batch none
      rw [none]
      exact ⟨rfl, fun _ _ _ => trivial⟩
    · apply (routed.turns (Routing.asks_route r).makes).mono
      exact fun _ _ ended => ⟨ended.1, fun work same => ended.2 _ same work rfl⟩
  exact worked.mono fun _ _ ended => ended.1

/-- Whatever the store and the inventory are like, whatever fails and whenever the deadline is:
processing a request changes no load balancer, group, binding or listener of the inventory. A
request that names existing targets changes only those whose group has no binding, and those have
become what the request wants if nothing failed. Every other request but the addition of targets to
a group without binding changes nothing in the inventory at all. -/
theorem process_changes (deadline : Option Nat) (settings : Settings) (r : BatchRequest) {w : World}
    (known : w.catalog.Reachable) :
    let ran := Program.run deadline (process settings r) w
    ran.2.catalog = { w.catalog with
        targets := ran.2.catalog.targets, named := ran.2.catalog.named } ∧
      (∀ ids, r.command.targetIds? = some ids →
        Settles r.command ids w.catalog ran.1 ran.2.catalog) ∧
      (r.command.targetIds? = none →
        (∀ group specs, r.command = .addTargets group specs →
          (w.catalog.bindings.get? group).isSome) →
        ran.2.catalog = w.catalog) := by
  intro ran
  constructor
  · obtain ⟨targets, named, same⟩ :=
      (Program.turns_any (process settings r) w.catalog).run deadline
    rw [same]
  · constructor
    · intro ids asked
      exact (turns_settles known asked).run deadline
    · intro other bound
      exact (turns_idle other bound).run deadline

/-- The target of the group without binding goes, the other one stays. -/
theorem process_changes_twoGroups :
    let w := World.insert {} twoGroups
    let ran := Program.run none (process {} (removalOf ["t-3", "t-2"])) w
    w.catalog.Reachable ∧ ran.2.catalog.targets.get? "t-3" = none ∧
      ran.2.catalog.targets.get? "t-2" = some (stockedTarget "t-2" "tg-2") := by
  intro w ran
  have known : w.catalog.Reachable := .insert _ .empty
  have ended : ran.1 = some (.ok { batch := 1, flows := [1], settled := [1] }) := by
    decide +kernel
  have settles := (process_changes none {} (removalOf ["t-3", "t-2"]) known).2.1 _ rfl
  constructor
  · exact known
  · constructor
    · have gone := settles.finished _ ended rfl "t-3" (by decide) (stockedTarget "t-3" "tg-3")
        rfl rfl
      -- without the name the run is compared as it stands and not carried out
      simp only [ran]
      exact gone
    · have kept := settles.spared "t-2" (stockedTarget "t-2" "tg-2") rfl (.inr rfl)
      simp only [ran]
      exact kept

end Submission

end BalancerFlows
