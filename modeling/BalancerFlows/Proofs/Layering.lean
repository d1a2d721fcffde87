import BalancerFlows.Proofs.SettingReading

/-!
# Where settings come from

The layers of settings are the standard values, a file and the environment. A file gives a setting a
value by its name, or by its place in a section that it has as a list; the environment gives it one
under its variable. `Setting.source?` is the value of the first layer that gives one, looked at from
the last layer on, with one exception: a section that is a list is dropped as a whole as soon as the
environment gives any setting of it (`Environment.touches`). Keys are taken as they are usually
written: those of a file without quotes (`Layer.Plain`), and the variables of the environment either
for a setting or away from all of them (`Environment.Proper`).

The file and the environment are each described by what they leave for one setting
(`Layer.at?_overlay_file`, `Environment.layOver_layer`, by induction on the variables). Main
statement: `Settings.load_layered`.
-/
namespace BalancerFlows

open RawValue (at? path Parts)

/-! ## What a file gives -/

namespace Layer

/-- The keys of a file that quotes none of them: those at the root are bare, and no two of one table
are equal but for the case of their letters. -/
@[mk_iff] structure Plain (file : Layer) : Prop where
  bare : ∀ m ∈ file, Bare m.1
  distinct : (file.map fun m => lowerKey m.1).Nodup
  within : ∀ m ∈ file, (m.2.members.map fun n => lowerKey n.1).Nodup

instance (file : Layer) : Decidable file.Plain :=
  decidable_of_iff _ (plain_iff file).symm

/-- The value a file gives a setting by its names; a table is none. -/
def named? (file : Layer) (s : Setting) : Option RawValue :=
  (match s.section? with
    | none => under? file s.name
    | some name => (under? file name).bind fun v => under? v.members s.name).filter (!·.isTable)

/-- The value a file gives a setting by its place, in a section it has as a list. -/
def placed? (file : Layer) (s : Setting) : Option RawValue :=
  s.section?.bind fun name => (under? file name).bind fun v => v.items[s.place]?

@[simp] theorem under?_nil (name : String) : under? [] name = none := rfl

theorem lowered_of_not_table {v : RawValue} (scalar : v.isTable = false) :
    (lowered v).isTable = false := by
  cases v <;> first | rfl | exact scalar

theorem loweredItems_eq (items : List RawValue) : loweredItems items = items.map lowered := by
  induction items with
  | nil => rfl
  | cons v rest ih => simp [loweredItems, ih]

theorem convert_lowered (s : Setting) (v : RawValue) : s.convert (lowered v) = s.convert v := by
  cases v <;> cases s <;> rfl

/-- One table of a file over what was there. A value that is no table takes the place of the one
before; an empty table changes nothing, and another one leaves a table. -/
theorem get?_overlay_loweredMembers {ms : List (String × RawValue)}
    (distinct : (ms.map fun m => lowerKey m.1).Nodup) {current before : RawValue} {name : String}
    (there : current.members.get? name = some before) :
    ∃ after, (RawValue.overlay current (loweredMembers ms)).members.get? name = some after ∧
      (after = (((under? ms name).filter (!·.isTable)).map lowered).getD before ∨
        (under? ms name).filter (!·.isTable) = none ∧ after.isTable = true) := by
  have keys : ((loweredMembers ms).map Prod.fst).Nodup := by rwa [keys_loweredMembers]
  have laid := RawValue.get?_overlay keys current name
  rw [get?_loweredMembers] at laid
  cases given : under? ms name with
  | none => exact ⟨before, by simpa [given, there] using laid, .inl rfl⟩
  | some v =>
      refine ⟨_, by simpa [given] using laid, ?_⟩
      cases kind : v.isTable with
      | false =>
          left
          simpa [kind, Option.filter_some] using RawValue.laidOver_of_not_table
            (RawValue.ne_table (lowered_of_not_table kind))
      | true =>
          obtain ⟨inner, rfl⟩ := RawValue.isTable_iff.1 kind
          cases inner with
          | nil =>
              left
              simp [kind, Option.filter_some, lowered, loweredMembers, RawValue.laidOver,
                RawValue.overlay, RawValue.member, there]
          | cons m rest =>
              right
              obtain ⟨after, table⟩ := RawValue.overlay_cons_eq_table (current.member name)
                (lowerKey m.1, lowered m.2) (loweredMembers rest)
              simp [Option.filter_some, lowered, loweredMembers, RawValue.laidOver, table,
                RawValue.isTable]

/-- What a file leaves under a name of the root. -/
theorem get?_overlay_file {file : Layer} (plain : file.Plain) {root inside : RawValue}
    {name : String} (present : root.members.get? name = some inside) :
    (RawValue.overlay root (loweredMembers file)).members.get? name =
      some (((under? file name).map fun v =>
        RawValue.laidOver inside (lowered v)).getD inside) := by
  have keys : ((loweredMembers file).map Prod.fst).Nodup := by
    rw [keys_loweredMembers]
    exact plain.distinct
  rw [RawValue.get?_overlay keys root name, get?_loweredMembers]
  cases under? file name <;> simp [RawValue.member, present]

/-- What a file leaves for a setting: the value it gives by name, the one from before, or a table;
or, where its section is no table, nothing under its name. -/
theorem at?_overlay_file {file : Layer} (plain : file.Plain) {s : Setting} {root before : RawValue}
    (there : at? s.names root = some before) :
    (file.placed? s = none ∧ ∃ after,
        at? s.names (RawValue.overlay root (loweredMembers file)) = some after ∧
        (after = ((file.named? s).map lowered).getD before ∨
          file.named? s = none ∧ after.isTable = true)) ∨
      file.named? s = none ∧ at? s.names (RawValue.overlay root (loweredMembers file)) = none := by
  cases own : s.section? with
  | none =>
      simp only [Setting.names, own, Option.toList_none, List.nil_append, at?, Option.bind_fun_some]
        at there ⊢
      obtain ⟨after, here, kind⟩ := get?_overlay_loweredMembers plain.distinct there
      left
      exact ⟨by simp [placed?, own], after, here, by simpa [named?, own] using kind⟩
  | some name =>
      simp only [Setting.names, own, Option.toList_some, List.singleton_append, at?,
        Option.bind_fun_some] at there ⊢
      obtain ⟨inside, present, there⟩ := Option.bind_eq_some_iff.1 there
      rw [get?_overlay_file plain present, Option.bind_some]
      cases given : under? file name with
      | none =>
          left
          exact ⟨by simp [placed?, own, given], before, there, .inl (by simp [named?, own, given])⟩
      | some v =>
          rw [Option.map_some, Option.getD_some]
          cases kind : v.isTable with
          | false =>
              right
              have scalar := lowered_of_not_table kind
              rw [RawValue.laidOver_of_not_table (RawValue.ne_table scalar)]
              constructor
              · simp [named?, own, given, RawValue.members_of_not_table kind]
              · simp [RawValue.members_of_not_table scalar, Keyed.get?]
          | true =>
              left
              obtain ⟨inner, rfl⟩ := RawValue.isTable_iff.1 kind
              obtain ⟨m, member, key⟩ : ∃ m ∈ file, m.2 = .table inner := by
                obtain ⟨m, found, same⟩ := Option.map_eq_some_iff.1 given
                exact ⟨m, List.mem_of_find?_eq_some found, same⟩
              obtain ⟨after, here, kind⟩ := get?_overlay_loweredMembers
                (by simpa [key] using plain.within m member) there
              refine ⟨by simp [placed?, own, given, RawValue.items], after, ?_,
                by simpa [named?, own, given] using kind⟩
              simpa [lowered, RawValue.laidOver] using here

/-- The places of a section that was a table are those the file gives. -/
theorem placed?_overlay_file {file : Layer} (plain : file.Plain) {s : Setting}
    {root before : RawValue} (there : at? s.names root = some before) :
    s.placed? (RawValue.overlay root (loweredMembers file)) = (file.placed? s).map lowered := by
  cases own : s.section? with
  | none => simp [Setting.placed?, placed?, own]
  | some name =>
      simp only [Setting.names, own, Option.toList_some, List.singleton_append, at?,
        Option.bind_fun_some] at there
      obtain ⟨inside, present, there⟩ := Option.bind_eq_some_iff.1 there
      have tabled : inside.isTable = true := by
        by_contra scalar
        rw [RawValue.members_of_not_table (by simpa using scalar)] at there
        cases there
      obtain ⟨ms, rfl⟩ := RawValue.isTable_iff.1 tabled
      simp only [Setting.placed?, placed?, own, Option.bind_some, RawValue.member,
        get?_overlay_file plain present, Option.getD_some]
      cases given : under? file name with
      | none => rfl
      | some v =>
          rw [Option.map_some, Option.getD_some, Option.bind_some]
          cases v with
          | table inner =>
              cases inner with
              | nil => rfl
              | cons m rest =>
                  obtain ⟨after, table⟩ := RawValue.overlay_cons_eq_table (.table ms)
                    (lowerKey m.1, lowered m.2) (loweredMembers rest)
                  simp [lowered, loweredMembers, RawValue.laidOver, table, RawValue.items]
          | list items => simp [lowered, RawValue.laidOver, RawValue.items, loweredItems_eq]
          | _ => simp [lowered, RawValue.laidOver, RawValue.items]

end Layer

/-! ## What the environment gives -/

namespace Setting

theorem variableName_ne {s t : Setting} (other : t ≠ s) : t.variableName ≠ s.variableName := by
  have apart : (all.map variableName).Nodup := by decide +kernel
  exact fun same => other (List.inj_on_of_nodup_map apart t.mem_all s.mem_all same)

/-- The paths of two settings part. -/
theorem parts {s t : Setting} (other : t ≠ s) : Parts (path t.names) s.names := by
  cases t <;> cases s <;>
    first
    | exact absurd rfl other
    | exact .here (by decide)
    | exact .later (.here (by decide))

theorem names_of_other {s t : Setting} {name : String} (within : s.section? = some name)
    (other : t.section? ≠ some name) : ∃ root names, t.names = root :: names ∧ root ≠ name := by
  cases own : t.section? with
  | some root => exact ⟨root, [t.name], by simp [names, own], fun same => other (by rw [own, same])⟩
  | none =>
      refine ⟨t.name, [], by simp [names, own], ?_⟩
      have alone : t = defaultSource := by cases t <;> first | rfl | cases own
      subst alone
      cases s <;> cases within <;> decide

variable {value root w : RawValue}

theorem placed?_congr {s : Setting} (same : ∀ name, s.section? = some name →
    w.members.get? name = root.members.get? name) : s.placed? w = s.placed? root := by
  cases own : s.section? with
  | none => simp [placed?, own]
  | some name => simp [placed?, own, RawValue.member, same name own]

/-- What is put in the place of a setting is there, every other setting stays by its names, and the
section of the setting is no list any more. -/
theorem put_names {t : Setting} (scalar : value.isTable = false)
    (done : RawValue.put value (path t.names) root = some w) :
    at? t.names w = some value ∧ (∀ s, s ≠ t → at? s.names w = at? s.names root) ∧
      ∀ s : Setting, s.placed? w = if s.section? = t.section? then none else s.placed? root := by
  refine ⟨?_, fun s other => RawValue.at?_put_of_parts (parts (Ne.symm other)) value done,
    fun s => ?_⟩
  · obtain ⟨_, done', there⟩ := RawValue.at?_put (RawValue.ne_table scalar) t.names root
    cases done.symm.trans done'
    exact there
  · split
    next same =>
      cases own : s.section? with
      | none => simp [placed?, own]
      | some name =>
          have shape : path t.names = [.child name, .child t.name] := by
            simp [names, path, ← same, own]
          rw [shape, RawValue.put] at done
          obtain ⟨inner, below, same⟩ := Option.bind_eq_some_iff.1 done
          rw [RawValue.put] at below
          obtain ⟨_, -, tabled⟩ := Option.bind_eq_some_iff.1 below
          cases same
          cases tabled
          simp [placed?, own, RawValue.member, RawValue.items]
    next other =>
      refine placed?_congr fun name within => ?_
      obtain ⟨first, others, shape, apart⟩ := names_of_other within (t := t) fun same =>
        other (within.trans same.symm)
      rw [shape] at done
      exact RawValue.get?_put_of_ne apart done

theorem put_foreign {steps : List PathStep} {first : String}
    (foreign : ∀ s : Setting, (path s.names).head? ≠ some (.child first))
    (done : RawValue.put value (.child first :: steps) root = some w) (s : Setting) :
    at? s.names w = at? s.names root ∧ s.placed? w = s.placed? root := by
  obtain ⟨name, names, shape⟩ : ∃ name names, s.names = name :: names := by
    cases s <;> exact ⟨_, _, rfl⟩
  have apart : first ≠ name := fun same => foreign s (by simp [shape, path, same])
  constructor
  · rw [shape]
    exact RawValue.at?_put_of_parts (.here apart) value done
  · refine placed?_congr fun own within => RawValue.get?_put_of_ne ?_ done
    have : name = own := by simpa [Setting.names, within] using (congrArg List.head? shape).symm
    rwa [← this]

end Setting

namespace Environment

/-- The value it gives a setting, under its variable in letters of any case. -/
def given? (e : Environment) (s : Setting) : Option RawValue :=
  (e.find? fun v => Layer.lowerKey v.1 = s.variableName).map fun v => valueOf v.2

/-- Whether it gives a setting of a section. -/
def touches (e : Environment) (section? : Option String) : Bool :=
  Setting.all.any fun s => s.section? = section? && (e.given? s).isSome

/-- No two variables are equal but for the case of their letters, and each that gives a value is the
variable of a setting or gives it outside of all that can be set. -/
@[mk_iff] structure Proper (e : Environment) : Prop where
  distinct : (e.map fun v => Layer.lowerKey v.1).Nodup
  known : ∀ v ∈ e, ∀ key, keyOf? v.1 = some key →
    (∃ s : Setting, Layer.lowerKey v.1 = s.variableName) ∨
      ∀ s : Setting, (PathStep.ofKey key).head? ≠ (path s.names).head?

theorem proper_iff_all {e : Environment} : e.Proper ↔
    (e.map fun v => Layer.lowerKey v.1).Nodup ∧ ∀ v ∈ e, ∀ key ∈ keyOf? v.1,
      (∃ s ∈ Setting.all, Layer.lowerKey v.1 = s.variableName) ∨
        ∀ s ∈ Setting.all, (PathStep.ofKey key).head? ≠ (path s.names).head? := by
  simp [proper_iff, Setting.mem_all]

instance (e : Environment) : Decidable e.Proper :=
  decidable_of_iff _ proper_iff_all.symm

theorem Proper.tail {v : String × String} {e : Environment} (h : Proper (v :: e)) : Proper e :=
  ⟨(List.nodup_cons.1 h.distinct).2, fun w inside => h.known w (List.mem_cons_of_mem _ inside)⟩

theorem given?_cons (v : String × String) (e : Environment) (s : Setting) :
    given? (v :: e) s =
      if Layer.lowerKey v.1 = s.variableName then some (valueOf v.2) else e.given? s := by
  by_cases own : Layer.lowerKey v.1 = s.variableName <;> simp [given?, own]

theorem touches_iff {e : Environment} {section? : Option String} : e.touches section? = true ↔
    ∃ s : Setting, s.section? = section? ∧ (e.given? s).isSome = true := by
  simp [touches, Setting.mem_all]

theorem Proper.given?_tail {v : String × String} {e : Environment} (h : Proper (v :: e))
    {s : Setting} (own : Layer.lowerKey v.1 = s.variableName) : e.given? s = none := by
  have fresh := (List.nodup_cons.1 h.distinct).1
  rw [given?, Option.map_eq_none_iff, List.find?_eq_none]
  intro w inside same
  exact fresh (List.mem_map.2 ⟨w, inside, by simpa [own] using same⟩)

theorem isTable_valueOf (text : String) : (valueOf text).isTable = false := by
  unfold valueOf
  split
  · rfl
  · split
    · rfl
    · split <;> rfl

theorem lowered_valueOf (text : String) : Layer.lowered (valueOf text) = valueOf text := by
  unfold valueOf
  split
  · rfl
  · split
    · rfl
    · split <;> rfl

theorem mem_dotted {c : Char} : ∀ {cs : List Char}, c ∈ dotted cs → c = '.' ∨ c ∈ cs := by
  intro cs
  fun_induction dotted cs with
  | case1 cs ih => grind
  | case2 d cs _ ih => grind
  | case3 => simp

theorem lowerKey_of_keyOf? {name key : String} (keyed : keyOf? name = some key) :
    Layer.lowerKey key = key := by
  simp only [keyOf?, Option.ite_none_right_eq_some, Option.some.injEq] at keyed
  obtain ⟨-, rfl⟩ := keyed
  have low : ∀ c ∈ dotted ((Layer.lowerKey name).toList.drop marker.length), c.toLower = c := by
    intro c inside
    obtain rfl | inside := mem_dotted inside
    · rfl
    · obtain ⟨d, -, rfl⟩ := List.mem_map.1 (by
        simpa [Layer.lowerKey] using List.mem_of_mem_drop inside)
      exact Char.toLower_toLower_eq_toLower d
  have same := (List.map_congr_left low).trans (List.map_id _)
  rw [Layer.lowerKey, String.toList_ofList, same]

/-- The variable of a setting stands for its path. -/
theorem ofKey_of_variable {name : String} {s : Setting}
    (own : Layer.lowerKey name = s.variableName) :
    (keyOf? name).map PathStep.ofKey = some (path s.names) := by
  rw [keyOf?, own]
  cases s <;> decide +kernel

theorem touches_cons_of_foreign {v : String × String} {e : Environment}
    (foreign : ∀ s : Setting, Layer.lowerKey v.1 ≠ s.variableName) (section? : Option String) :
    touches (v :: e) section? = e.touches section? := by
  rw [Bool.eq_iff_iff]
  simp only [touches_iff, given?_cons, foreign, if_false]

theorem touches_cons_of_setting {v : String × String} {e : Environment} {t : Setting}
    (own : Layer.lowerKey v.1 = t.variableName) (section? : Option String) :
    touches (v :: e) section? = (decide (t.section? = section?) || e.touches section?) := by
  rw [Bool.eq_iff_iff]
  simp only [Bool.or_eq_true, decide_eq_true_eq, touches_iff, given?_cons, own]
  constructor
  · rintro ⟨s, within, given⟩
    by_cases same : t = s
    · exact .inl (same ▸ within)
    · exact .inr ⟨s, within, by simpa [Setting.variableName_ne same] using given⟩
  · rintro (within | ⟨s, within, given⟩)
    · exact ⟨t, within, by simp⟩
    · exact ⟨s, within, by split <;> simp [given]⟩

/-- What the environment leaves for each setting: the value it gives, or what was there by name; and
what was there by place, if it gives nothing of the section. -/
theorem layOver_layer {e : Environment} (proper : e.Proper) {root w : RawValue}
    (done : Layer.layOver root e.layer = some w) (s : Setting) :
    at? s.names w = (e.given? s).or (at? s.names root) ∧
      s.placed? w = if e.touches s.section? = true then none else s.placed? root := by
  induction e generalizing root with
  | nil =>
      cases done
      simp [given?, touches]
  | cons v e ih =>
      cases keyed : keyOf? v.1 with
      | none =>
          have foreign : ∀ t : Setting, Layer.lowerKey v.1 ≠ t.variableName := fun t own => by
            simpa [keyed] using ofKey_of_variable own
          simp only [layer, List.filterMap_cons, keyed, Option.map_none] at done
          rw [given?_cons, touches_cons_of_foreign foreign, if_neg (foreign s)]
          exact ih proper.tail done
      | some key =>
          simp only [layer, List.filterMap_cons, keyed, Option.map_some, Layer.layOver_cons,
            lowered_valueOf, lowerKey_of_keyOf? keyed] at done
          obtain ⟨between, first, rest⟩ := Option.bind_eq_some_iff.1 done
          obtain ⟨named, placed⟩ := ih proper.tail rest
          rw [given?_cons, named, placed]
          have steps_of {t : Setting} (own : Layer.lowerKey v.1 = t.variableName) :
              PathStep.ofKey key = path t.names := by
            simpa [keyed] using ofKey_of_variable own
          obtain ⟨t, own⟩ | foreign := proper.known v (List.mem_cons_self ..) key keyed
          · rw [steps_of own] at first
            obtain ⟨there, others, places⟩ := Setting.put_names (isTable_valueOf v.2) first
            rw [touches_cons_of_setting own, places]
            constructor
            · by_cases same : t = s
              · subst same
                simp [own, proper.given?_tail own, there]
              · rw [own, if_neg (Setting.variableName_ne same), others s (Ne.symm same)]
            · by_cases same : t.section? = s.section?
              · simp [same]
              · simp [same, Ne.symm same]
          · obtain ⟨start, steps, shape⟩ := PathStep.ofKey_eq_cons key
            rw [shape] at first
            have other : ∀ t : Setting, Layer.lowerKey v.1 ≠ t.variableName := fun t own =>
              foreign t (by rw [steps_of own])
            obtain ⟨same, places⟩ := Setting.put_foreign
              (fun t start => foreign t (by rw [shape, start]; rfl)) first s
            rw [touches_cons_of_foreign other, if_neg (other s), same, places]
            exact ⟨rfl, rfl⟩

end Environment

/-! ## Where each setting comes from -/

namespace Setting

/-- The value a setting is from: the one the environment gives, or the one the file gives by name,
or the one in its place in a section that the file gives as a list and the environment leaves
alone. -/
def source? (s : Setting) (file : Layer) (e : Environment) : Option RawValue :=
  (e.given? s).or <| (file.named? s).or <|
    if e.touches s.section? = true then none else file.placed? s

theorem at?_toRaw (s : Setting) : ∃ raw, at? s.names ({} : Settings).toRaw = some raw ∧
    s.convert raw = some (s.of {}) := by
  cases s <;> exact ⟨_, rfl, by decide +kernel⟩

theorem convert_table {s : Setting} {v : RawValue} (tabled : v.isTable = true) :
    s.convert v = none := by
  obtain ⟨ms, rfl⟩ := RawValue.isTable_iff.1 tabled
  cases s <;> rfl

theorem isFrom_lowered {s : Setting} {given : Option RawValue} {c : Settings}
    (h : s.IsFrom (given.map Layer.lowered) c) : s.IsFrom given c := by
  cases given with
  | none => exact h
  | some v => exact (Layer.convert_lowered s v).symm.trans h

end Setting

namespace Settings

theorem load_eq_ok {file : Option SettingsFile} {layer : Layer} {e : Environment} {c : Settings}
    (content : fileLayer? file = some layer) (loaded : load file e = .ok c) :
    ∃ root, gather layer e = some root ∧ ofRaw? root = some c ∧ c.objection? = none := by
  simp only [load, content] at loaded
  split at loaded
  · cases loaded
  · cases loaded
  next read =>
    split at loaded
    · cases loaded
    next accepted =>
      cases loaded
      obtain ⟨root, gathered, read⟩ := Option.map_eq_some_iff.1 read
      exact ⟨root, gathered, read, accepted⟩

/-- Each setting that was loaded is from its source. -/
theorem isFrom_source? {file : Option SettingsFile} {layer : Layer} {e : Environment} {c : Settings}
    (content : fileLayer? file = some layer) (plain : layer.Plain) (proper : e.Proper)
    (loaded : load file e = .ok c) (s : Setting) : s.IsFrom (s.source? layer e) c := by
  obtain ⟨root, gathered, read, -⟩ := load_eq_ok content loaded
  obtain ⟨between, first, second⟩ := Option.bind_eq_some_iff.1 gathered
  obtain ⟨ms, rfl⟩ := RawValue.isTable_iff.1
    (Layer.isTable_layOver (Layer.isTable_layOver rfl first) second)
  have found := Setting.isFrom_found? read s
  obtain ⟨named, placed⟩ := Environment.layOver_layer proper second s
  rw [Setting.found?, named, placed] at found
  unfold Setting.source?
  cases given : e.given? s with
  | some v => simpa [given] using found
  | none =>
      rw [given, Option.none_or] at found
      rw [Option.none_or]
      cases (Layer.layOver_of_bare plain.bare _).symm.trans first
      obtain ⟨standard, there, converts⟩ := s.at?_toRaw
      rw [Layer.placed?_overlay_file plain there] at found
      obtain ⟨unplaced, after, here, kind⟩ | ⟨unnamed, nowhere⟩ :=
        Layer.at?_overlay_file plain there
      · rw [here, Option.some_or] at found
        obtain rfl | ⟨-, tabled⟩ := kind
        · cases own : layer.named? s with
          | some v => exact Setting.isFrom_lowered (by simpa [own] using found)
          | none =>
              have same : some (s.of c) = some (s.of {}) := by
                rw [own] at found
                exact found.symm.trans converts
              simpa [unplaced, Setting.IsFrom, ReadAs] using Option.some.inj same
        · cases (Setting.convert_table tabled).symm.trans found
      · rw [nowhere, Option.none_or] at found
        rw [unnamed, Option.none_or]
        refine Setting.isFrom_lowered ?_
        by_cases touched : e.touches s.section? = true <;> simpa [touched] using found

/-- What is refused is refused for nothing else: settings that were loaded can be used. -/
structure Usable (c : Settings) : Prop where
  limits : ∀ field ∈ c.limitFields, 1 ≤ field.2
  attempts : 1 ≤ c.retry.maxAttempts
  connections : 1 ≤ c.database.maxConnections
  sleeps : c.retry.minSleepMs ≤ c.retry.maxSleepMs

theorem usable_of_no_objection {c : Settings} (h : c.objection? = none) : c.Usable := by
  unfold objection? at h
  split at h
  · cases h
  next passed =>
    split at h
    · cases h
    next attempts =>
      split at h
      · cases h
      next sleeps =>
        split at h
        · cases h
        next connections =>
          refine ⟨fun field inside => ?_, by grind, by grind, by simpa using sleeps⟩
          have := List.find?_eq_none.1 passed field inside
          grind

end Settings

namespace Setting

theorem IsFrom.unique {s : Setting} {given : Option RawValue} {c c' : Settings}
    (h : s.IsFrom given c) (h' : s.IsFrom given c') : s.of c' = s.of c := by
  cases given with
  | none => exact Eq.trans h' (Eq.symm h)
  | some v => exact Option.some.inj (Eq.trans (Eq.symm h') h)

/-- Sections are touched alike where each setting is given alike. -/
theorem touches_congr {e e' : Environment} {section? : Option String}
    (alike : ∀ s : Setting, s.section? = section? → e'.given? s = e.given? s) :
    e'.touches section? = e.touches section? := by
  rw [Bool.eq_iff_iff, Environment.touches_iff, Environment.touches_iff]
  exact exists_congr fun s => and_congr_right fun within => by rw [alike s within]

/-- A setting that two environments give alike is from the same value under both, unless the file
gives it in its place in a list and one of the two touches the section. -/
theorem source?_congr {s : Setting} {file : Layer} {e e' : Environment}
    (alike : e'.given? s = e.given? s)
    (same : file.placed? s = none ∨ e'.touches s.section? = e.touches s.section?) :
    s.source? file e' = s.source? file e := by
  obtain unplaced | same := same
  · simp [source?, alike, unplaced]
  · simp [source?, alike, same]

end Setting

namespace Settings

/-- Loaded settings come from the environment, the file and the standard values, in this order of
precedence, and can be used. Another environment that gives every other setting the same value has
those settings the same: only a setting that the file gives in its place in a list differs when one
of the two environments touches the section and the other does not. -/
theorem load_layered {file : Option SettingsFile} {layer : Layer} {e : Environment} {c : Settings}
    (content : fileLayer? file = some layer) (plain : layer.Plain) (proper : e.Proper)
    (loaded : load file e = .ok c) :
    (∀ s : Setting, s.IsFrom (s.source? layer e) c) ∧ c.Usable ∧
      ∀ (t : Setting) (e' : Environment) (c' : Settings), e'.Proper →
        (∀ s : Setting, s ≠ t → e'.given? s = e.given? s) → load file e' = .ok c' →
        ∀ s : Setting, s ≠ t → s.of c' = s.of c ∨
          s.section? = t.section? ∧ layer.placed? s ≠ none ∧
            e'.touches s.section? ≠ e.touches s.section? := by
  obtain ⟨_, -, -, accepted⟩ := load_eq_ok content loaded
  refine ⟨isFrom_source? content plain proper loaded, usable_of_no_objection accepted,
    fun t e' c' proper' alike loaded' s other => ?_⟩
  by_cases same : layer.placed? s = none ∨ e'.touches s.section? = e.touches s.section?
  · left
    have from_ := isFrom_source? content plain proper' loaded' s
    rw [Setting.source?_congr (alike s other) same] at from_
    exact (isFrom_source? content plain proper loaded s).unique from_
  · right
    obtain ⟨given, touched⟩ := not_or.1 same
    refine ⟨?_, given, touched⟩
    by_contra apart
    refine touched (Setting.touches_congr fun u within => alike u ?_)
    rintro rfl
    exact apart within.symm

/-- A file that sets a part of a section. -/
def partlySet : SettingsFile :=
  .content "default_source = \"console\"\n[retry]\nmax_attempts = \"yes\"\nmin_sleep_ms = 30\n"

/-- An environment that sets one setting of it, in letters of any case. -/
def shortSleep : Environment :=
  [("HOME", "/"), ("LBFLOW__Retry__Min_Sleep_Ms", "50.4")]

/-- An environment that sets the same to something else. -/
def longSleep : Environment :=
  [("LBFLOW__RETRY__MIN_SLEEP_MS", "60"), ("LBFLOW__LOG__LEVEL", "debug")]

theorem load_layered_partlySet : ∃ layer, fileLayer? (some partlySet) = some layer ∧ layer.Plain ∧
    shortSleep.Proper ∧ longSleep.Proper ∧ ∃ c c' : Settings,
      c = { defaultSource := "console", retry := { maxAttempts := 1, minSleepMs := 50 } } ∧
      load (some partlySet) shortSleep = .ok c ∧ load (some partlySet) longSleep = .ok c' ∧
      (∀ s : Setting, s.IsFrom (s.source? layer shortSleep) c) ∧ c.Usable ∧
      ∀ s : Setting, s ≠ .minSleepMs → s.of c' = s.of c := by
  have content : (fileLayer? (some partlySet)).any (fun layer =>
      decide layer.Plain && Setting.all.all fun s => (layer.placed? s).isNone) = true := by
    decide +kernel
  obtain ⟨layer, content, kind⟩ := (Option.any_eq_true _ _).1 content
  obtain ⟨plain, unplaced⟩ := Bool.and_eq_true_iff.1 kind
  have proper : shortSleep.Proper := by decide +kernel
  have proper' : longSleep.Proper := by decide +kernel
  have loaded : load (some partlySet) shortSleep =
      .ok { defaultSource := "console", retry := { maxAttempts := 1, minSleepMs := 50 } } := by
    decide +kernel
  have loaded' : load (some partlySet) longSleep =
      .ok { defaultSource := "console", retry := { maxAttempts := 1, minSleepMs := 60 } } := by
    decide +kernel
  have silent : ∀ s ∈ Setting.all, s ≠ .minSleepMs →
      (shortSleep.given? s).isNone ∧ (longSleep.given? s).isNone := by
    decide +kernel
  obtain ⟨sources, usable, alone⟩ := load_layered content (of_decide_eq_true plain) proper loaded
  refine ⟨layer, content, of_decide_eq_true plain, proper, proper', _, _, rfl, loaded, loaded',
    sources, usable, fun s other => ?_⟩
  have alike (s : Setting) (other : s ≠ .minSleepMs) :
      longSleep.given? s = shortSleep.given? s := by
    obtain ⟨short, long⟩ := silent s s.mem_all other
    rw [Option.isNone_iff_eq_none.1 short, Option.isNone_iff_eq_none.1 long]
  refine (alone .minSleepMs longSleep _ proper' alike loaded' s other).resolve_right ?_
  rintro ⟨-, given, -⟩
  exact given (Option.isNone_iff_eq_none.1 (List.all_eq_true.1 unplaced s s.mem_all))

/-- A section may be given as a list. The file names no number of attempts and neither does the
environment, and yet it is not the standard one; and a number of attempts from the environment takes
the place of the list, so the least sleep changes as well. -/
theorem list_read_by_place : ∃ layer,
    fileLayer? (some (.content "retry = [5, 10, 20]\n")) = some layer ∧ layer.Plain ∧
    Environment.Proper [] ∧ Environment.Proper [("LBFLOW__RETRY__MAX_ATTEMPTS", "9")] ∧
    ∃ c c' : Settings, load (some (.content "retry = [5, 10, 20]\n")) [] = .ok c ∧
      load (some (.content "retry = [5, 10, 20]\n")) [("LBFLOW__RETRY__MAX_ATTEMPTS", "9")] =
        .ok c' ∧
      layer.named? .maxAttempts = none ∧ Setting.maxAttempts.of c ≠ Setting.maxAttempts.of {} ∧
      Setting.minSleepMs.of c' ≠ Setting.minSleepMs.of c := by
  have content : (fileLayer? (some (.content "retry = [5, 10, 20]\n"))).any (fun layer =>
      decide layer.Plain && (layer.named? .maxAttempts).isNone) = true := by
    decide +kernel
  obtain ⟨layer, same, kind⟩ := (Option.any_eq_true _ _).1 content
  obtain ⟨plain, unnamed⟩ := Bool.and_eq_true_iff.1 kind
  exact ⟨layer, same, of_decide_eq_true plain, by decide +kernel, by decide +kernel,
    { retry := { maxAttempts := 5, minSleepMs := 10, maxSleepMs := 20 } },
    { retry := { maxAttempts := 9 } }, by decide +kernel, by decide +kernel,
    Option.isNone_iff_eq_none.1 unnamed, by decide +kernel, by decide +kernel⟩

end Settings

end BalancerFlows
