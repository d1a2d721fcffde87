import BalancerFlows.Batch.Record
import BalancerFlows.Batch.Request
import BalancerFlows.Detail
import BalancerFlows.Settings.Basic
import BalancerFlows.Proofs.Readers

/-!
# Wire forms

The layouts of the records that are stored and sent. Each of them is read back as it was written,
from every object that says the same.
-/
namespace BalancerFlows

open Layout Legible Reading

/-! ### Vocabularies and ids -/

instance : Legible ActionId := .ofPlain fun _ => rfl

instance : Legible Vendor := .ofPlain fun v => by cases v <;> rfl

instance : Legible Operation := .ofPlain fun o => by cases o <;> rfl

instance : Legible Action := .ofPlain fun a => by cases a <;> rfl

instance : Legible DetailState := .ofPlain fun s => by cases s <;> rfl

instance : Legible Command.Name := .ofPlain fun n => by cases n <;> rfl

instance : Legible (Option ActionId) := .ofOption fun _ => nofun

instance : Legible (Option DetailState) := .ofOption fun _ => nofun

/-! ### Records -/

instance : Legible TargetSpec where
  layout := .record [
    ("cloud_inst_id", .required, layout String),
    ("ip", .required, layout String),
    ("port", .required, layout UInt16),
    ("weight", .required, layout UInt32)]
  decode_encode s := by
    change readRecord _ (.obj _) = some s
    simp [Members.isUsedUp, List.lookup_cons]
  agree_encode s := .written (by decide) (by simp [agree_encode])
  decode_congr := Follows.readRecord (
    .bind (.required (by simp)) fun _ =>
    .bind (.required (by simp)) fun _ =>
    .bind (.required (by simp)) fun _ =>
    .bind (.required (by simp)) fun _ =>
    .pure _)

instance : Legible TargetRef where
  layout := .record [
    ("target_id", .required, layout String),
    ("cloud_inst_id", .required, layout String),
    ("port", .required, layout UInt16)]
  decode_encode r := by
    change readRecord _ (.obj _) = some r
    simp [Members.isUsedUp, List.lookup_cons]
  agree_encode r := .written (by decide) (by simp [agree_encode])
  decode_congr := Follows.readRecord (
    .bind (.required (by simp)) fun _ =>
    .bind (.required (by simp)) fun _ =>
    .bind (.required (by simp)) fun _ =>
    .pure _)

instance : Legible ListenerRef where
  layout := .record [
    ("listener_id", .required, layout String),
    ("cloud_id", .required, layout String)]
  decode_encode r := by
    change readRecord _ (.obj _) = some r
    simp [Members.isUsedUp, List.lookup_cons]
  agree_encode r := .written (by decide) (by simp [agree_encode])
  decode_congr := Follows.readRecord (
    .bind (.required (by simp)) fun _ =>
    .bind (.required (by simp)) fun _ =>
    .pure _)

instance : Legible Target where
  layout := .record [
    ("id", .required, layout String),
    ("target_group_id", .required, layout String),
    ("cloud_inst_id", .required, layout String),
    ("ip", .required, layout String),
    ("port", .required, layout UInt16),
    ("weight", .required, layout UInt32)]
  decode_encode t := by
    change readRecord _ (.obj _) = some t
    simp [Members.isUsedUp, List.lookup_cons]
  agree_encode t := .written (by decide) (by simp [agree_encode])
  decode_congr := Follows.readRecord (
    .bind (.required (by simp)) fun _ =>
    .bind (.required (by simp)) fun _ =>
    .bind (.required (by simp)) fun _ =>
    .bind (.required (by simp)) fun _ =>
    .bind (.required (by simp)) fun _ =>
    .bind (.required (by simp)) fun _ =>
    .pure _)

instance : Legible Listener where
  layout := .record [
    ("id", .required, layout String),
    ("cloud_id", .required, layout String),
    ("lb_id", .required, layout String),
    ("protocol", .required, layout String),
    ("port", .required, layout UInt16)]
  decode_encode l := by
    change readRecord _ (.obj _) = some l
    simp [Members.isUsedUp, List.lookup_cons]
  agree_encode l := .written (by decide) (by simp [agree_encode])
  decode_congr := Follows.readRecord (
    .bind (.required (by simp)) fun _ =>
    .bind (.required (by simp)) fun _ =>
    .bind (.required (by simp)) fun _ =>
    .bind (.required (by simp)) fun _ =>
    .bind (.required (by simp)) fun _ =>
    .pure _)

instance : Legible TargetPatch where
  layout := .record [
    ("id", .required, layout String),
    ("port", .optional, layout (Option UInt16)),
    ("weight", .optional, layout (Option UInt32))]
  decode_encode p := by
    change readRecord _ (.obj _) = some p
    simp [Members.isUsedUp, List.lookup_cons]
  agree_encode p := .written (by decide) (by simp [agree_encode])
  decode_congr := Follows.readRecord (
    .bind (.required (by simp)) fun _ =>
    .bind (.optional (by simp)) fun _ =>
    .bind (.optional (by simp)) fun _ =>
    .pure _)

instance : Legible Binding where
  layout := .record [
    ("target_group_id", .required, layout String),
    ("lb_id", .required, layout String),
    ("lb_cloud_id", .required, layout String),
    ("listener_id", .required, layout String),
    ("listener_cloud_id", .required, layout String),
    ("rule_cloud_id", .optional, layout (Option String))]
  decode_encode b := by
    change readRecord _ (.obj _) = some b
    simp [Members.isUsedUp, List.lookup_cons]
  agree_encode b := .written (by decide) (by simp [agree_encode])
  decode_congr := Follows.readRecord (
    .bind (.required (by simp)) fun _ =>
    .bind (.required (by simp)) fun _ =>
    .bind (.required (by simp)) fun _ =>
    .bind (.required (by simp)) fun _ =>
    .bind (.required (by simp)) fun _ =>
    .bind (.optional (by simp)) fun _ =>
    .pure _)

instance : Legible DetailPatch where
  layout := .record [
    ("id", .required, layout Int64),
    ("flow_id", .optional, layout (Option Int64)),
    ("action_id", .optional, layout (Option ActionId)),
    ("state", .optional, layout (Option DetailState)),
    ("reason", .optional, layout (Option String))]
  decode_encode p := by
    change readRecord _ (.obj _) = some p
    simp [Members.isUsedUp, List.lookup_cons]
  agree_encode p := .written (by decide) (by simp [agree_encode])
  decode_congr := Follows.readRecord (
    .bind (.required (by simp)) fun _ =>
    .bind (.optional (by simp)) fun _ =>
    .bind (.optional (by simp)) fun _ =>
    .bind (.optional (by simp)) fun _ =>
    .bind (.optional (by simp)) fun _ =>
    .pure _)

instance : Legible NewBatch where
  layout := .record [
    ("business_id", .required, layout Int64),
    ("vendor", .required, layout Vendor),
    ("account_id", .required, layout String),
    ("source", .required, layout String),
    ("task_type", .required, layout Operation)]
  decode_encode n := by
    change readRecord _ (.obj _) = some n
    simp [Members.isUsedUp, List.lookup_cons]
  agree_encode n := .written (by decide) (by simp [agree_encode])
  decode_congr := Follows.readRecord (
    .bind (.required (by simp)) fun _ =>
    .bind (.required (by simp)) fun _ =>
    .bind (.required (by simp)) fun _ =>
    .bind (.required (by simp)) fun _ =>
    .bind (.required (by simp)) fun _ =>
    .pure _)

instance : Legible RetryPolicy where
  layout := .record [
    ("max_attempts", .defaulted (encode ({} : RetryPolicy).maxAttempts), layout UInt32),
    ("min_sleep_ms", .defaulted (encode ({} : RetryPolicy).minSleepMs), layout UInt64),
    ("max_sleep_ms", .defaulted (encode ({} : RetryPolicy).maxSleepMs), layout UInt64)]
  decode_encode r := by
    change readRecord _ (.obj _) = some r
    simp [Members.isUsedUp, List.lookup_cons]
  agree_encode r := .written (by decide) (by simp [agree_encode])
  decode_congr := Follows.readRecord (
    .bind (.defaulted (by simp)) fun _ =>
    .bind (.defaulted (by simp)) fun _ =>
    .bind (.defaulted (by simp)) fun _ =>
    .pure _)

instance : Legible DatabaseSettings where
  layout := .record [
    ("url", .defaulted (encode ({} : DatabaseSettings).url), layout String),
    ("max_connections", .defaulted (encode ({} : DatabaseSettings).maxConnections), layout UInt32)]
  decode_encode d := by
    change readRecord _ (.obj _) = some d
    simp [Members.isUsedUp, List.lookup_cons]
  agree_encode d := .written (by decide) (by simp [agree_encode])
  decode_congr := Follows.readRecord (
    .bind (.defaulted (by simp)) fun _ =>
    .bind (.defaulted (by simp)) fun _ =>
    .pure _)

instance : Legible BatchLimits where
  layout := .record [
    ("add_targets", .defaulted (encode ({} : BatchLimits).addTargets), layout UInt64),
    ("remove_targets", .defaulted (encode ({} : BatchLimits).removeTargets), layout UInt64),
    ("modify_weight", .defaulted (encode ({} : BatchLimits).modifyWeight), layout UInt64),
    ("modify_port", .defaulted (encode ({} : BatchLimits).modifyPort), layout UInt64),
    ("delete_listeners", .defaulted (encode ({} : BatchLimits).deleteListeners), layout UInt64)]
  decode_encode l := by
    change readRecord _ (.obj _) = some l
    simp [Members.isUsedUp, List.lookup_cons]
  agree_encode l := .written (by decide) (by simp [agree_encode])
  decode_congr := Follows.readRecord (
    .bind (.defaulted (by simp)) fun _ =>
    .bind (.defaulted (by simp)) fun _ =>
    .bind (.defaulted (by simp)) fun _ =>
    .bind (.defaulted (by simp)) fun _ =>
    .bind (.defaulted (by simp)) fun _ =>
    .pure _)

instance : Legible Settings where
  layout := .record [
    ("database", .defaulted (encode ({} : Settings).database), layout DatabaseSettings),
    ("batch_limits", .defaulted (encode ({} : Settings).limits), layout BatchLimits),
    ("retry", .defaulted (encode ({} : Settings).retry), layout RetryPolicy),
    ("default_source", .defaulted (encode ({} : Settings).defaultSource), layout String)]
  decode_encode s := by
    change readRecord _ (.obj _) = some s
    simp [Members.isUsedUp, List.lookup_cons]
  agree_encode s := .written (by decide) (by simp [agree_encode])
  decode_congr := Follows.readRecord (
    .bind (.defaulted (by simp)) fun _ =>
    .bind (.defaulted (by simp)) fun _ =>
    .bind (.defaulted (by simp)) fun _ =>
    .bind (.defaulted (by simp)) fun _ =>
    .pure _)

/-! ### Tagged records -/

namespace Vocabulary

variable {α β : Type} [Vocabulary α]

theorem lookup_texts (f : α → β) (s : String) :
    ((all : List α).map fun a => (text a, f a)).lookup s = (ofText? s).map f := by
  rw [ofText?]
  induction (all : List α) with
  | nil => rfl
  | cons a as ih =>
      rw [List.map_cons, List.lookup_cons, List.find?_cons, ih, BEq.comm]
      cases text a == s <;> rfl

theorem lookup_text (f : α → β) {a : α} (own : ofText? (text a) = some a) :
    ((all : List α).map fun a => (text a, f a)).lookup (text a) = some (f a) := by
  rw [lookup_texts, own, Option.map_some]

end Vocabulary

theorem Action.ofText?_text (a : Action) : Vocabulary.ofText? (text a) = some a := by
  cases a <;> rfl

theorem Command.Name.ofText?_text (n : Command.Name) : Vocabulary.ofText? (text n) = some n := by
  cases n <;> rfl

namespace CloudRequest

/-- The members of the payload of an action. -/
def payloadFields : Action → Fields
  | .registerTargets =>
      [("binding", .required, layout Binding), ("targets", .required, layout (List TargetSpec))]
  | .deregisterTargets =>
      [("binding", .required, layout Binding), ("targets", .required, layout (List TargetRef))]
  | .modifyTargetWeight =>
      [("binding", .required, layout Binding), ("new_weight", .required, layout UInt32),
        ("targets", .required, layout (List TargetRef))]
  | .modifyTargetPort =>
      [("binding", .required, layout Binding), ("new_port", .required, layout UInt16),
        ("targets", .required, layout (List TargetRef))]
  | .deleteListeners =>
      [("lb_cloud_id", .required, layout String),
        ("listeners", .required, layout (List ListenerRef))]
  | .bindTargetGroupRule => [("binding", .required, layout Binding)]

theorem distinct_payloadFields (a : Action) : ((payloadFields a).map Prod.fst).Nodup := by
  cases a <;> decide

theorem ofPayload?_payload (r : CloudRequest) : ofPayload? r.action r.payload = some r := by
  cases r <;> simp [ofPayload?, action, payload, Members.isUsedUp, List.lookup_cons]

theorem agree_payload (r : CloudRequest) :
    Agree (.record (payloadFields r.action)) r.payload r.payload := by
  cases r <;>
    exact .written (distinct_payloadFields _) (by simp [payloadFields, action, agree_encode])

theorem ofPayload?_congr {a : Action} {i j : Json} (h : Agree (.record (payloadFields a)) i j) :
    ofPayload? a i = ofPayload? a j := by
  cases a with
  | bindTargetGroupRule =>
      exact Follows.readRecord (.bind (.required (by simp [payloadFields])) fun _ => .pure _) h
  | modifyTargetWeight | modifyTargetPort =>
      exact Follows.readRecord (
        .bind (.required (by simp [payloadFields])) fun _ =>
        .bind (.required (by simp [payloadFields])) fun _ =>
        .bind (.required (by simp [payloadFields])) fun _ =>
        .pure _) h
  | _ =>
      exact Follows.readRecord (
        .bind (.required (by simp [payloadFields])) fun _ =>
        .bind (.required (by simp [payloadFields])) fun _ =>
        .pure _) h

/-- A payload is only ever read as the request of its action. -/
theorem action_of_ofPayload? {a : Action} {j : Json} {r : CloudRequest}
    (h : ofPayload? a j = some r) : r.action = a := by
  have one {reader : Reading CloudRequest} (only : Only (·.action = a) reader)
      (read : readRecord reader j = some r) : r.action = a := only.readRecord read
  cases a with
  | bindTargetGroupRule => exact one (.bind fun _ => .pure rfl) h
  | modifyTargetWeight | modifyTargetPort =>
      exact one (.bind fun _ => .bind fun _ => .bind fun _ => .pure rfl) h
  | _ => exact one (.bind fun _ => .bind fun _ => .pure rfl) h

theorem decode_obj (ms : List (String × Json)) :
    (decode (.obj ms) : Option CloudRequest) = (do
      let a ← decode (← ms.lookup "action")
      ofPayload? a (← ms.lookup "payload")) := by
  change (TaggedPayload.ofJson? (.obj ms)).bind _ = _
  rw [TaggedPayload.ofJson?, readRecord_named]
  simp only [bind_named, required_eq]
  cases ms.lookup "action" with
  | none => rfl
  | some t =>
      cases h : (decode t : Option Action) with
      | none => simp [h]
      | some a =>
          have whole (j : Json) : (decode j : Option Json) = some j := rfl
          cases h' : ms.lookup "payload" <;> simp [h, h', whole, Members.isUsedUp]

end CloudRequest

instance : Legible CloudRequest where
  layout := .tagged "action" (Vocabulary.all.map fun a : Action =>
    (text a, [("payload", .required, .record (CloudRequest.payloadFields a))]))
  decode_encode r := by
    change decode (.obj _) = some r
    simp [CloudRequest.decode_obj, List.lookup_cons, CloudRequest.ofPayload?_payload]
  agree_encode r := by
    refine .tagged (Vocabulary.lookup_text _ r.action.ofText?_text) rfl (.written (by simp) ?_)
    simpa [encode] using ⟨.plain _, r.agree_payload⟩
  decode_congr := by
    rintro _ _ (_ | _ | _ | _ | @⟨_, t, _, fields, ms, ms', found, named, inner⟩)
    rw [Vocabulary.lookup_texts] at found
    obtain ⟨a, named', rfl⟩ := Option.map_eq_some_iff.1 found
    have read : (decode (.str t) : Option Action) = some a := named'
    simp only [CloudRequest.decode_obj, named, inner.lookup_tag named]
    have given (ms : List (String × Json)) : seen ms "payload" .required = ms.lookup "payload" :=
      Option.or_none
    obtain ⟨h, h'⟩ | ⟨i, j, h, h', same⟩ :=
      inner.member (List.mem_cons_of_mem _ List.mem_cons_self)
    · rw [given] at h h'
      simp [-List.lookup_eq_none_iff, h, h']
    · rw [given] at h h'
      simp [h, h', read, CloudRequest.ofPayload?_congr same]

instance : Legible TaskParams where
  layout := .record [
    ("vendor", .required, layout Vendor),
    ("detail_ids", .required, layout (List Int64)),
    ("request", .required, layout CloudRequest)]
  decode_encode p := by
    change readRecord _ (.obj _) = some p
    simp [Members.isUsedUp, List.lookup_cons]
  agree_encode p := .written (by decide) (by simp [agree_encode])
  decode_congr := Follows.readRecord (
    .bind (.required (by simp)) fun _ =>
    .bind (.required (by simp)) fun _ =>
    .bind (.required (by simp)) fun _ =>
    .pure _)

instance : Legible FlowTask where
  layout := .record [
    ("action_id", .required, layout ActionId),
    ("action_name", .required, layout Action),
    ("params", .required, layout TaskParams),
    ("depends_on", .required, layout (List ActionId)),
    ("retry", .required, layout RetryPolicy)]
  decode_encode t := by
    change readRecord _ (.obj _) = some t
    simp [Members.isUsedUp, List.lookup_cons]
  agree_encode t := .written (by decide) (by simp [agree_encode])
  decode_congr := Follows.readRecord (
    .bind (.required (by simp)) fun _ =>
    .bind (.required (by simp)) fun _ =>
    .bind (.required (by simp)) fun _ =>
    .bind (.required (by simp)) fun _ =>
    .bind (.required (by simp)) fun _ =>
    .pure _)

instance : Legible NewFlow where
  layout := .record [
    ("flow_type", .required, layout Operation),
    ("share_data", .required, layout TextMap),
    ("tasks", .required, layout (List FlowTask))]
  decode_encode f := by
    change readRecord _ (.obj _) = some f
    simp [Members.isUsedUp, List.lookup_cons]
  agree_encode f := .written (by decide) (by simp [agree_encode])
  decode_congr := Follows.readRecord (
    .bind (.required (by simp)) fun _ =>
    .bind (.required (by simp)) fun _ =>
    .bind (.required (by simp)) fun _ =>
    .pure _)

namespace Command

/-- The members of a request that are no members of its command. -/
def commonFields : Fields :=
  [("business_id", .required, layout Int64), ("vendor", .required, layout Vendor),
    ("account_id", .required, layout String), ("source", .optional, layout (Option String))]

def ownFields : Name → Fields
  | .modifyWeight =>
      [("target_ids", .required, layout (List String)), ("new_weight", .required, layout UInt32)]
  | .modifyPort =>
      [("target_ids", .required, layout (List String)), ("new_port", .required, layout UInt16)]
  | .removeTargets => [("target_ids", .required, layout (List String))]
  | .addTargets =>
      [("target_group_id", .required, layout String),
        ("targets", .required, layout (List TargetSpec))]
  | .deleteListeners =>
      [("lb_id", .required, layout String), ("listener_ids", .required, layout (List String))]
  | .bindTargetGroups => [("bindings", .required, layout (List Binding))]

/-- The members of a request of a command, its name among them. -/
abbrev requestFields (name : Name) : Fields :=
  withTag "operation" (commonFields ++ ownFields name)

theorem distinct_requestFields (name : Name) : ((requestFields name).map Prod.fst).Nodup := by
  cases name <;> decide

theorem read?_congr {name : Name} {i j : Json} (h : Agree (.record (requestFields name)) i j) :
    read? name i = read? name j := by
  cases name with
  | removeTargets | bindTargetGroups =>
      exact Follows.readRecord
        (.bind (.required (by simp [requestFields, commonFields, ownFields])) fun _ => .pure _) h
  | _ =>
      exact Follows.readRecord (
        .bind (.required (by simp [requestFields, commonFields, ownFields])) fun _ =>
        .bind (.required (by simp [requestFields, commonFields, ownFields])) fun _ =>
        .pure _) h

end Command

namespace BatchRequest

open Command

theorem ofCommand_congr {name : Name} {i j : Json} (command : Command)
    (h : Agree (.record (requestFields name)) i j) :
    readRecord (ofCommand command) i = readRecord (ofCommand command) j := by
  have follows : Follows (requestFields name) (ofCommand command) := by
    refine .bind (.required ?_) fun _ => .bind (.required ?_) fun _ => .bind (.required ?_) fun _ =>
      .bind (.optional ?_) fun _ => .pure _
    all_goals simp [requestFields, commonFields]
  exact follows.readRecord h

theorem decode_obj (ms : List (String × Json)) :
    (decode (.obj ms) : Option BatchRequest) = (do
      let name ← nameOfTextOrPlace? (← ms.lookup "operation")
      let command ← read? name (.obj ms)
      readRecord (ofCommand command) (.obj ms)) := rfl

/-- The members a request is written with, beside the name of its command. -/
def members (r : BatchRequest) : List (String × Json) :=
  [("business_id", encode r.business), ("vendor", encode r.vendor),
    ("account_id", encode r.account), ("source", encode r.source)]

theorem agree_members (r : BatchRequest) :
    Agree (.record (requestFields r.command.name))
      (.obj (("operation", encode r.command.name) :: (r.members ++ r.command.members)))
      (.obj (("operation", encode r.command.name) :: (r.members ++ r.command.members))) := by
  obtain ⟨business, vendor, account, source, command⟩ := r
  refine .written (distinct_requestFields _) (.cons ⟨rfl, .plain _⟩ ?_)
  cases command <;>
    simp [name, commonFields, ownFields, members, Command.members, agree_encode]

end BatchRequest

instance : Legible BatchRequest where
  layout := .tagged "operation" (Vocabulary.all.map fun name : Command.Name =>
    (text name, Command.commonFields ++ Command.ownFields name))
  decode_encode r := by
    obtain ⟨business, vendor, account, source, command⟩ := r
    have named (name : Command.Name) : Command.nameOfTextOrPlace? (encode name) = some name :=
      name.ofText?_text
    change decode (.obj _) = some _
    cases command <;>
      simp [BatchRequest.decode_obj, List.lookup_cons, named, Command.name, Command.members,
        Command.read?, BatchRequest.ofCommand, Members.isUsedUp]
  agree_encode r := by
    refine .tagged (Vocabulary.lookup_text _ r.command.name.ofText?_text) rfl ?_
    have moved := agree_permute (@List.perm_middle _ _ r.members _).symm r.agree_members
    exact moved.symm.trans moved
  decode_congr := by
    rintro _ _ (_ | _ | _ | _ | @⟨_, t, _, fields, ms, ms', found, named, inner⟩)
    rw [Vocabulary.lookup_texts] at found
    obtain ⟨name, named', rfl⟩ := Option.map_eq_some_iff.1 found
    have read : Command.nameOfTextOrPlace? (.str t) = some name := named'
    simp only [BatchRequest.decode_obj, named, inner.lookup_tag named, Option.bind_eq_bind,
      Option.bind_some, read, Command.read?_congr inner]
    cases Command.read? name (.obj ms') with
    | none => rfl
    | some command => exact BatchRequest.ofCommand_congr command inner

/-! ### Members that are left out -/

/-- The policy whose fields that are not kept are the standard ones. -/
def RetryPolicy.keeping (kept : String → Bool) (r : RetryPolicy) : RetryPolicy :=
  let standard : RetryPolicy := {}
  { maxAttempts := if kept "max_attempts" then r.maxAttempts else standard.maxAttempts,
    minSleepMs := if kept "min_sleep_ms" then r.minSleepMs else standard.minSleepMs,
    maxSleepMs := if kept "max_sleep_ms" then r.maxSleepMs else standard.maxSleepMs }

def DatabaseSettings.keeping (kept : String → Bool) (d : DatabaseSettings) : DatabaseSettings :=
  let standard : DatabaseSettings := {}
  { url := if kept "url" then d.url else standard.url,
    maxConnections := if kept "max_connections" then d.maxConnections
      else standard.maxConnections }

def BatchLimits.keeping (kept : String → Bool) (l : BatchLimits) : BatchLimits :=
  let standard : BatchLimits := {}
  { addTargets := if kept "add_targets" then l.addTargets else standard.addTargets,
    removeTargets := if kept "remove_targets" then l.removeTargets else standard.removeTargets,
    modifyWeight := if kept "modify_weight" then l.modifyWeight else standard.modifyWeight,
    modifyPort := if kept "modify_port" then l.modifyPort else standard.modifyPort,
    deleteListeners := if kept "delete_listeners" then l.deleteListeners
      else standard.deleteListeners }

/-- The settings of which only some members are kept, and within each section only some. -/
def Settings.keeping (kept : String → Bool) (within : String → String → Bool) (s : Settings) :
    Settings :=
  let standard : Settings := {}
  { database := if kept "database" then s.database.keeping (within "database")
      else standard.database,
    limits := if kept "batch_limits" then s.limits.keeping (within "batch_limits")
      else standard.limits,
    retry := if kept "retry" then s.retry.keeping (within "retry") else standard.retry,
    defaultSource := if kept "default_source" then s.defaultSource else standard.defaultSource }

theorem RetryPolicy.varies_keep (kept : String → Bool) (r : RetryPolicy) :
    (layout RetryPolicy).Varies (encode (r.keeping kept)) ((encode r).keep kept) :=
  Layout.varies_keep (.cons (stands (by simp) (.same _)) (.cons (stands (by simp) (.same _))
    (.cons (stands (by simp) (.same _)) .nil)))

theorem DatabaseSettings.varies_keep (kept : String → Bool) (d : DatabaseSettings) :
    (layout DatabaseSettings).Varies (encode (d.keeping kept)) ((encode d).keep kept) :=
  Layout.varies_keep (.cons (stands (by simp) (.same _)) (.cons (stands (by simp) (.same _)) .nil))

theorem BatchLimits.varies_keep (kept : String → Bool) (l : BatchLimits) :
    (layout BatchLimits).Varies (encode (l.keeping kept)) ((encode l).keep kept) :=
  Layout.varies_keep (.cons (stands (by simp) (.same _)) (.cons (stands (by simp) (.same _))
    (.cons (stands (by simp) (.same _)) (.cons (stands (by simp) (.same _))
    (.cons (stands (by simp) (.same _)) .nil)))))

theorem Settings.varies_keep (kept : String → Bool) (within : String → String → Bool)
    (s : Settings) :
    (layout Settings).Varies (encode (s.keeping kept within))
      (((encode s).inside fun name => Json.keep (within name)).keep kept) :=
  Layout.varies_keep (.cons (stands (by simp) (s.database.varies_keep _))
    (.cons (stands (by simp) (s.limits.varies_keep _))
    (.cons (stands (by simp) (s.retry.varies_keep _)) (.cons (stands (by simp) (.same _)) .nil))))

/-! ### All forms -/

/-- What is written is read back, also from every object that says the same. -/
def Faithful (α : Type) [Wire α] [Legible α] : Prop :=
  ∀ a : α, (decode (encode a) : Option α) = some a ∧
    ∀ j, (layout α).Varies (encode a) j → (decode j : Option α) = some a

theorem Legible.faithful (α : Type) [Wire α] [Legible α] : Faithful α :=
  fun a => ⟨decode_encode a, fun _ => decode_varied⟩

theorem CloudRequest.action_of_decode {j : Json} {r : CloudRequest} (h : decode j = some r) :
    ∃ payload, TaggedPayload.ofJson? j = some ⟨r.action, payload⟩ := by
  obtain ⟨⟨a, payload⟩, tagged, read⟩ := Option.bind_eq_some_iff.1 h
  exact ⟨payload, action_of_ofPayload? read ▸ tagged⟩

/-- Whatever is stored or sent is read back as it was written, from any order of members, beside
members of unknown names, and without the members that say what their absence says; a retry
policy and the settings are read from any part of their members, with the standard value for the
others. A cloud request carries the text of its action and is read under no other. -/
theorem wire_forms_faithful :
    (Faithful TaskParams ∧ Faithful CloudRequest ∧ Faithful FlowTask ∧ Faithful NewFlow ∧
      Faithful BatchRequest ∧ Faithful RetryPolicy ∧ Faithful DetailPatch ∧
      Faithful TargetPatch ∧ Faithful Target ∧ Faithful Listener ∧ Faithful Binding ∧
      Faithful NewBatch ∧ Faithful Settings) ∧
    (∀ (r : RetryPolicy) kept j, (layout RetryPolicy).Varies ((encode r).keep kept) j →
      decode j = some (r.keeping kept)) ∧
    (∀ (d : DatabaseSettings) kept j,
      (layout DatabaseSettings).Varies ((encode d).keep kept) j →
        decode j = some (d.keeping kept)) ∧
    (∀ (l : BatchLimits) kept j, (layout BatchLimits).Varies ((encode l).keep kept) j →
      decode j = some (l.keeping kept)) ∧
    (∀ (s : Settings) kept within j,
      (layout Settings).Varies
          (((encode s).inside fun name => Json.keep (within name)).keep kept) j →
        decode j = some (s.keeping kept within)) ∧
    (∀ r : CloudRequest, (encode r).member? "action" = some (.str (text r.action))) ∧
    ∀ j (r : CloudRequest), decode j = some r →
      ∃ payload, TaggedPayload.ofJson? j = some ⟨r.action, payload⟩ :=
  ⟨⟨faithful _, faithful _, faithful _, faithful _, faithful _, faithful _, faithful _,
      faithful _, faithful _, faithful _, faithful _, faithful _, faithful _⟩,
    fun r kept _ varied => decode_varied ((r.varies_keep kept).trans varied),
    fun d kept _ varied => decode_varied ((d.varies_keep kept).trans varied),
    fun l kept _ varied => decode_varied ((l.varies_keep kept).trans varied),
    fun s kept within _ varied => decode_varied ((s.varies_keep kept within).trans varied),
    fun _ => rfl, fun _ _ => CloudRequest.action_of_decode⟩

example : (decode (.obj [("jitter", .null), ("min_sleep_ms", .int 7)]) : Option RetryPolicy) =
    some { minSleepMs := 7 } := by
  decide

end BalancerFlows
