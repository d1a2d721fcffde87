import BalancerFlows.Proofs.Overlays

/-!
# How each setting is read

A section is read member by member: a table by the names of the members, a list by their places
(`RawSection.next_behind`). `Setting` names the eleven things that can be set, with their sections,
names, places and conversions, and `Setting.found?` is the value of each in what the layers gave.
Main statement: settings that are read from gathered values have each setting converted from what is
found for it, or its standard value if nothing is (`Setting.isFrom_found?`).
-/
namespace BalancerFlows

/-! ## Reading a section -/

/-- What reading a member gave: its value converted, or the standard value if it has none. -/
def ReadAs {α : Type} (read : RawValue → Option α) (standard : α) (given : Option RawValue)
    (a : α) : Prop :=
  match given with
  | some v => read v = some a
  | none => a = standard

theorem ReadAs.map {α β : Type} {read : RawValue → Option α} {standard a : α}
    {given : Option RawValue} (h : ReadAs read standard given a) (f : α → β) :
    ReadAs (fun v => (read v).map f) (f standard) given (f a) := by
  cases given with
  | none => exact congrArg f h
  | some v => exact Option.map_eq_some_iff.2 ⟨a, h, rfl⟩

namespace RawSection

variable {α β : Type}

/-- The value of a member: under its name, or in its place. -/
def value? (place : Nat) (name : String) : RawSection → Option RawValue
  | named members => Keyed.get? members name
  | placed items => items[place]?

/-- What is left of a section when so many members have been read. -/
def behind (count : Nat) : RawSection → RawSection
  | named members => named members
  | placed items => placed (items.drop count)

theorem next_behind (s : RawSection) (count : Nat) (name : String) :
    (s.behind count).next name = (s.value? count name, s.behind (count + 1)) := by
  cases s with
  | named members => rfl
  | placed items =>
      cases left : items.drop count with
      | nil =>
          have short : items.length ≤ count := List.drop_eq_nil_iff.1 left
          simp [behind, left, next, value?, short, Nat.le_succ_of_le short]
      | cons v rest =>
          have here : items[count]? = some v := by
            rw [← List.head?_drop, left, List.head?_cons]
          have others : items.drop (count + 1) = rest := by
            rw [← List.tail_drop, left, List.tail_cons]
          simp [behind, left, next, value?, here, others]

theorem setting_bind {read : RawValue → Option α} {name : String} {standard : α}
    {f : α → SectionReading β} {s : RawSection} {count : Nat} {r : β × RawSection}
    (h : (setting read name standard >>= f) (s.behind count) = some r) :
    ∃ a, ReadAs read standard (s.value? count name) a ∧ f a (s.behind (count + 1)) = some r := by
  obtain ⟨⟨a, left⟩, got, rest⟩ := Option.bind_eq_some_iff.1 h
  simp only [setting, next_behind] at got
  cases given : s.value? count name with
  | some v =>
      simp only [given] at got
      obtain ⟨_, converted, same⟩ := Option.map_eq_some_iff.1 got
      cases same
      exact ⟨a, converted, rest⟩
  | none =>
      simp only [given] at got
      cases got
      exact ⟨_, rfl, rest⟩

/-- A reading starts at the first member of a table or of a list. -/
theorem read_eq_some {reader : SectionReading α} {v : RawValue} {a : α}
    (h : read reader v = some a) :
    ∃ s left, of? v = some s ∧ reader (s.behind 0) = some (a, left) := by
  obtain ⟨s, is, h⟩ := Option.bind_eq_some_iff.1 h
  obtain ⟨⟨_, left⟩, got, same⟩ := Option.bind_eq_some_iff.1 h
  cases same
  refine ⟨s, left, is, ?_⟩
  cases s <;> simpa [behind] using got

end RawSection

namespace Settings

open RawSection

theorem readDatabase_eq_some {v : RawValue} {d : DatabaseSettings} (h : readDatabase v = some d) :
    ∃ s, of? v = some s ∧
      ReadAs RawValue.text? ({} : DatabaseSettings).url (s.value? 0 "url") d.url ∧
      ReadAs RawValue.word32? ({} : DatabaseSettings).maxConnections (s.value? 1 "max_connections")
        d.maxConnections := by
  obtain ⟨s, left, is, h⟩ := read_eq_some h
  obtain ⟨url, first, h⟩ := setting_bind h
  obtain ⟨connections, second, h⟩ := setting_bind h
  cases h
  exact ⟨s, is, first, second⟩

theorem readLimits_eq_some {v : RawValue} {l : BatchLimits} (h : readLimits v = some l) :
    ∃ s, of? v = some s ∧
      ReadAs RawValue.word64? ({} : BatchLimits).addTargets (s.value? 0 "add_targets")
        l.addTargets ∧
      ReadAs RawValue.word64? ({} : BatchLimits).removeTargets (s.value? 1 "remove_targets")
        l.removeTargets ∧
      ReadAs RawValue.word64? ({} : BatchLimits).modifyWeight (s.value? 2 "modify_weight")
        l.modifyWeight ∧
      ReadAs RawValue.word64? ({} : BatchLimits).modifyPort (s.value? 3 "modify_port")
        l.modifyPort ∧
      ReadAs RawValue.word64? ({} : BatchLimits).deleteListeners (s.value? 4 "delete_listeners")
        l.deleteListeners := by
  obtain ⟨s, left, is, h⟩ := read_eq_some h
  obtain ⟨add, first, h⟩ := setting_bind h
  obtain ⟨remove, second, h⟩ := setting_bind h
  obtain ⟨weight, third, h⟩ := setting_bind h
  obtain ⟨port, fourth, h⟩ := setting_bind h
  obtain ⟨listeners, fifth, h⟩ := setting_bind h
  cases h
  exact ⟨s, is, first, second, third, fourth, fifth⟩

theorem readRetry_eq_some {v : RawValue} {p : RetryPolicy} (h : readRetry v = some p) :
    ∃ s, of? v = some s ∧
      ReadAs RawValue.word32? ({} : RetryPolicy).maxAttempts (s.value? 0 "max_attempts")
        p.maxAttempts ∧
      ReadAs RawValue.word64? ({} : RetryPolicy).minSleepMs (s.value? 1 "min_sleep_ms")
        p.minSleepMs ∧
      ReadAs RawValue.word64? ({} : RetryPolicy).maxSleepMs (s.value? 2 "max_sleep_ms")
        p.maxSleepMs := by
  obtain ⟨s, left, is, h⟩ := read_eq_some h
  obtain ⟨attempts, first, h⟩ := setting_bind h
  obtain ⟨least, second, h⟩ := setting_bind h
  obtain ⟨most, third, h⟩ := setting_bind h
  cases h
  exact ⟨s, is, first, second, third⟩

theorem ofRaw?_eq_some {members : List (String × RawValue)} {c : Settings}
    (h : ofRaw? (.table members) = some c) :
    ReadAs readDatabase {} (Keyed.get? members "database") c.database ∧
      ReadAs readLimits {} (Keyed.get? members "batch_limits") c.limits ∧
      ReadAs readRetry {} (Keyed.get? members "retry") c.retry ∧
      ReadAs RawValue.text? ({} : Settings).defaultSource (Keyed.get? members "default_source")
        c.defaultSource := by
  obtain ⟨s, left, is, h⟩ := read_eq_some h
  cases is
  obtain ⟨database, first, h⟩ := setting_bind h
  obtain ⟨limits, second, h⟩ := setting_bind h
  obtain ⟨retry, third, h⟩ := setting_bind h
  obtain ⟨source, fourth, h⟩ := setting_bind h
  cases h
  exact ⟨first, second, third, fourth⟩

end Settings

/-! ## The settings one by one -/

/-- What a setting may be set to. -/
inductive SettingValue where
  | text (value : String)
  | number (value : Nat)
  deriving Repr, DecidableEq

/-- One thing that can be set. -/
inductive Setting where
  | url | maxConnections
  | addTargets | removeTargets | modifyWeight | modifyPort | deleteListeners
  | maxAttempts | minSleepMs | maxSleepMs
  | defaultSource
  deriving Repr, DecidableEq

namespace Setting

def all : List Setting :=
  [url, maxConnections, addTargets, removeTargets, modifyWeight, modifyPort, deleteListeners,
   maxAttempts, minSleepMs, maxSleepMs, defaultSource]

theorem mem_all (s : Setting) : s ∈ all := by
  cases s <;> decide

def section? : Setting → Option String
  | url | maxConnections => some "database"
  | addTargets | removeTargets | modifyWeight | modifyPort | deleteListeners => some "batch_limits"
  | maxAttempts | minSleepMs | maxSleepMs => some "retry"
  | defaultSource => none

def name : Setting → String
  | url => "url"
  | maxConnections => "max_connections"
  | addTargets => "add_targets"
  | removeTargets => "remove_targets"
  | modifyWeight => "modify_weight"
  | modifyPort => "modify_port"
  | deleteListeners => "delete_listeners"
  | maxAttempts => "max_attempts"
  | minSleepMs => "min_sleep_ms"
  | maxSleepMs => "max_sleep_ms"
  | defaultSource => "default_source"

def place : Setting → Nat
  | url | addTargets | maxAttempts | defaultSource => 0
  | maxConnections | removeTargets | minSleepMs => 1
  | modifyWeight | maxSleepMs => 2
  | modifyPort => 3
  | deleteListeners => 4

/-- The names that lead to it from the root. -/
def names (s : Setting) : List String :=
  s.section?.toList ++ [s.name]

/-- The variable that sets it, in lower case. -/
def variableName (s : Setting) : String :=
  "__".intercalate ("lbflow" :: s.names)

/-- The documented conversion of its values. -/
def convert : Setting → RawValue → Option SettingValue
  | url, v | defaultSource, v => v.text?.map .text
  | maxConnections, v | maxAttempts, v => v.word32?.map fun n => .number n.toNat
  | addTargets, v | removeTargets, v | modifyWeight, v | modifyPort, v | deleteListeners, v
  | minSleepMs, v | maxSleepMs, v => v.word64?.map fun n => .number n.toNat

def of : Setting → Settings → SettingValue
  | url, c => .text c.database.url
  | maxConnections, c => .number c.database.maxConnections.toNat
  | addTargets, c => .number c.limits.addTargets.toNat
  | removeTargets, c => .number c.limits.removeTargets.toNat
  | modifyWeight, c => .number c.limits.modifyWeight.toNat
  | modifyPort, c => .number c.limits.modifyPort.toNat
  | deleteListeners, c => .number c.limits.deleteListeners.toNat
  | maxAttempts, c => .number c.retry.maxAttempts.toNat
  | minSleepMs, c => .number c.retry.minSleepMs.toNat
  | maxSleepMs, c => .number c.retry.maxSleepMs.toNat
  | defaultSource, c => .text c.defaultSource

/-- It is set from a value, or has its standard value if there is none. -/
def IsFrom (s : Setting) (given : Option RawValue) (c : Settings) : Prop :=
  ReadAs s.convert (s.of {}) given (s.of c)

/-- The value of a setting in a section that is given as a list. -/
def placed? (s : Setting) (root : RawValue) : Option RawValue :=
  s.section?.bind fun name => (root.member name).items[s.place]?

/-- The value a setting is read from: by its names, or by its place in a list. -/
def found? (s : Setting) (root : RawValue) : Option RawValue :=
  (RawValue.at? s.names root).or (s.placed? root)

theorem found?_of_section {s : Setting} {name : String} (within : s.section? = some name)
    (members : List (String × RawValue)) :
    s.found? (.table members) =
      (Keyed.get? members name).bind fun v =>
        (RawSection.of? v).bind fun inside => inside.value? s.place s.name := by
  simp only [found?, placed?, names, within, Option.toList_some, List.singleton_append,
    Option.bind_some, RawValue.at?, RawValue.members_table, RawValue.member]
  cases Keyed.get? members name with
  | none => simp [RawValue.items]
  | some v =>
      cases v <;> simp [RawValue.members, RawValue.items, RawSection.of?, RawSection.value?,
        Keyed.get?]

/-- A setting is read with its section: from the member of the section, if the section is given and
has one. -/
theorem isFrom_of_section {s : Setting} {name : String} (within : s.section? = some name)
    {members : List (String × RawValue)} {c : Settings} {σ : Type}
    {read : RawValue → Option σ} {standard own : σ}
    (got : ReadAs read standard (Keyed.get? members name) own)
    (missing : own = standard → s.of c = s.of {})
    (inner : ∀ v, read v = some own → ∃ inside, RawSection.of? v = some inside ∧
      ReadAs s.convert (s.of {}) (inside.value? s.place s.name) (s.of c)) :
    s.IsFrom (s.found? (.table members)) c := by
  rw [found?_of_section within]
  cases given : Keyed.get? members name with
  | none =>
      rw [given] at got
      exact missing got
  | some v =>
      rw [given] at got
      obtain ⟨inside, is, from_⟩ := inner v got
      simpa [IsFrom, is] using from_

/-- What the sections are read from is where each setting is from. -/
theorem isFrom_found? {members : List (String × RawValue)} {c : Settings}
    (h : Settings.ofRaw? (.table members) = some c) (s : Setting) :
    s.IsFrom (s.found? (.table members)) c := by
  obtain ⟨database, limits, retry, source⟩ := Settings.ofRaw?_eq_some h
  cases s with
  | url =>
      exact isFrom_of_section rfl database (fun same => by rw [of, same]; rfl) fun v read =>
        let ⟨inside, is, own, _⟩ := Settings.readDatabase_eq_some read
        ⟨inside, is, ReadAs.map own _⟩
  | maxConnections =>
      exact isFrom_of_section rfl database (fun same => by rw [of, same]; rfl) fun v read =>
        let ⟨inside, is, _, own⟩ := Settings.readDatabase_eq_some read
        ⟨inside, is, ReadAs.map own _⟩
  | addTargets =>
      exact isFrom_of_section rfl limits (fun same => by rw [of, same]; rfl) fun v read =>
        let ⟨inside, is, own, _⟩ := Settings.readLimits_eq_some read
        ⟨inside, is, ReadAs.map own _⟩
  | removeTargets =>
      exact isFrom_of_section rfl limits (fun same => by rw [of, same]; rfl) fun v read =>
        let ⟨inside, is, _, own, _⟩ := Settings.readLimits_eq_some read
        ⟨inside, is, ReadAs.map own _⟩
  | modifyWeight =>
      exact isFrom_of_section rfl limits (fun same => by rw [of, same]; rfl) fun v read =>
        let ⟨inside, is, _, _, own, _⟩ := Settings.readLimits_eq_some read
        ⟨inside, is, ReadAs.map own _⟩
  | modifyPort =>
      exact isFrom_of_section rfl limits (fun same => by rw [of, same]; rfl) fun v read =>
        let ⟨inside, is, _, _, _, own, _⟩ := Settings.readLimits_eq_some read
        ⟨inside, is, ReadAs.map own _⟩
  | deleteListeners =>
      exact isFrom_of_section rfl limits (fun same => by rw [of, same]; rfl) fun v read =>
        let ⟨inside, is, _, _, _, _, own⟩ := Settings.readLimits_eq_some read
        ⟨inside, is, ReadAs.map own _⟩
  | maxAttempts =>
      exact isFrom_of_section rfl retry (fun same => by rw [of, same]; rfl) fun v read =>
        let ⟨inside, is, own, _⟩ := Settings.readRetry_eq_some read
        ⟨inside, is, ReadAs.map own _⟩
  | minSleepMs =>
      exact isFrom_of_section rfl retry (fun same => by rw [of, same]; rfl) fun v read =>
        let ⟨inside, is, _, own, _⟩ := Settings.readRetry_eq_some read
        ⟨inside, is, ReadAs.map own _⟩
  | maxSleepMs =>
      exact isFrom_of_section rfl retry (fun same => by rw [of, same]; rfl) fun v read =>
        let ⟨inside, is, _, _, own⟩ := Settings.readRetry_eq_some read
        ⟨inside, is, ReadAs.map own _⟩
  | defaultSource =>
      have own : found? defaultSource (.table members) = Keyed.get? members "default_source" := by
        cases given : Keyed.get? members "default_source" <;>
          simp [found?, placed?, names, section?, name, RawValue.at?, given]
      rw [IsFrom, own]
      exact ReadAs.map source _

end Setting

end BalancerFlows
