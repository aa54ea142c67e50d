import Starweaver.Library.AssocMap
import Starweaver.Library.Calendar
import Starweaver.Library.Json
import Starweaver.Library.Machine
import Starweaver.Library.Text
import Starweaver.Gateway.Domain

namespace Starweaver.Gateway

open Library Library.AssocMap Library.Calendar Library.Machine Library.Text

/-- The kinds of records with a resource version. -/
inductive ResourceKind
  | serviceAccount
  | maintenanceWindow
  | user
  | organization
  | project
  | organizationMember
  | projectMember
  | organizationInvitation
  | secretRef
  | providerEndpoint
  | upstreamCredential
  | codexOauthConnection
  | modelTarget
  | routingGroup
  | routingGroupTarget
  | modelAlias
  | routePolicy
  | providerGrant
  | pricingSku
  | budgetPolicy
  | quotaPolicy
  | otelExportConfig
  | notificationSink
  | notificationSubscription
  | loginProvider
deriving DecidableEq, Repr

/-- The other fields of a record, by name. -/
abbrev Fields := String → Json

def patched (patch : List (String × Json)) (fields : Fields) : Fields := fun field =>
  (patch.lookup field).getD (fields field)

structure VersionedRecord where
  fields : Fields
  resourceVersion : Int
  updatedAt : DateTime

/-- The optional fields of an update of a notification sink. -/
structure NotificationSinkPatch where
  name : Option Json
  endpointConfig : Option Json
  signingSecretRefId : Option Json
  status : Option Json

structure OtelExportConfigPatch where
  organizationId : Option Json
  projectId : Option Json
  endpointUrl : Option Json
  protocol : Option Json
  headerRefs : Option Json
  enabledSignals : Option Json
  resourceAttributes : Option Json
  exportIntervalSeconds : Option Json
  timeoutSeconds : Option Json
  status : Option Json

inductive UpdateOperation
  | updateStatus (kind : ResourceKind) (status : Json)
  | revokeOrganizationInvitation
  | rotateSecretRef (backendLocator displayMask fingerprint : Json)
  | updateCodexOauthConnectionStatus (status : Json)
  | updateModelAlias (status routePolicyId : Option Json)
  | updateNotificationSink (patch : NotificationSinkPatch)
  | updateOtelExportConfig (patch : OtelExportConfigPatch)

namespace UpdateOperation

def kind : UpdateOperation → ResourceKind
  | updateStatus kind _ => kind
  | revokeOrganizationInvitation => .organizationInvitation
  | rotateSecretRef _ _ _ => .secretRef
  | updateCodexOauthConnectionStatus _ => .codexOauthConnection
  | updateModelAlias _ _ => .modelAlias
  | updateNotificationSink _ => .notificationSink
  | updateOtelExportConfig _ => .otelExportConfig

/-- The fields that an update names, with their new values. -/
def named : UpdateOperation → List (String × Json)
  | updateStatus _ status => [("status", status)]
  | revokeOrganizationInvitation => [("status", .string "revoked")]
  | rotateSecretRef backendLocator displayMask fingerprint =>
    [("backend_locator", backendLocator), ("display_mask", displayMask), ("fingerprint", fingerprint),
      ("status", .string "rotating")]
  | updateCodexOauthConnectionStatus status => [("status", status)]
  | updateModelAlias status routePolicyId =>
    (status.map ("status", ·)).toList ++ (routePolicyId.map ("route_policy_id", ·)).toList
  | updateNotificationSink patch =>
    (patch.name.map ("name", ·)).toList ++ (patch.endpointConfig.map ("endpoint_config", ·)).toList ++
      (patch.signingSecretRefId.map ("signing_secret_ref_id", ·)).toList ++ (patch.status.map ("status", ·)).toList
  | updateOtelExportConfig patch =>
    (patch.organizationId.map ("organization_id", ·)).toList ++ (patch.projectId.map ("project_id", ·)).toList ++
      (patch.endpointUrl.map ("endpoint_url", ·)).toList ++ (patch.protocol.map ("protocol", ·)).toList ++
      (patch.headerRefs.map ("header_refs", ·)).toList ++ (patch.enabledSignals.map ("enabled_signals", ·)).toList ++
      (patch.resourceAttributes.map ("resource_attributes", ·)).toList ++
      (patch.exportIntervalSeconds.map ("export_interval_seconds", ·)).toList ++
      (patch.timeoutSeconds.map ("timeout_seconds", ·)).toList ++ (patch.status.map ("status", ·)).toList

/-- Updates that compare the version under a read lock and write under a second lock. -/
def locksTwice : UpdateOperation → Bool
  | updateNotificationSink _ | updateOtelExportConfig _ => true
  | _ => false

end UpdateOperation

def trimText : Json → Json
  | .string text => .string (trim text)
  | value => value

/-- The fields that a two-lock update writes from its merged copy. -/
def copiedFields : ResourceKind → List String
  | .notificationSink => ["name", "endpoint_config", "signing_secret_ref_id"]
  | .otelExportConfig => ["organization_id", "project_id", "endpoint_url", "protocol", "header_refs", "enabled_signals",
      "resource_attributes", "export_interval_seconds", "timeout_seconds"]
  | _ => []

def ownerOf (organizationOf : String → String) (projectId organizationId : Json) : Json :=
  match projectId with
  | .string projectId => .string (organizationOf projectId)
  | _ => organizationId

/-- A sink is stored with its name trimmed, an export config of a project with the organization of that project. -/
def normalized (organizationOf : String → String) (kind : ResourceKind) (fields : Fields) : Fields :=
  match kind with
  | .notificationSink => fun field => if field = "name" then trimText (fields "name") else fields field
  | .otelExportConfig => fun field =>
    if field = "organization_id" then ownerOf organizationOf (fields "project_id") (fields "organization_id")
    else fields field
  | _ => fields

/-- What an update leaves in a record, from the copy that it read and the fields that the record has now. -/
def UpdateOperation.written (organizationOf : String → String) (operation : UpdateOperation) (read fields : Fields) :
    Fields :=
  match operation with
  | .updateCodexOauthConnectionStatus (.string "unauthenticated") =>
    patched [("status", .string "unauthenticated"), ("upstream_credential_id", .null)] fields
  | .updateNotificationSink _ | .updateOtelExportConfig _ => fun field =>
    if field ∈ copiedFields operation.kind then
      normalized organizationOf operation.kind (patched operation.named read) field
    else patched operation.named fields field
  | _ => patched operation.named fields

/-- A call of an update; `checked` is what its checks of the request answer. -/
structure UpdateCall where
  operation : UpdateOperation
  id : String
  expectedResourceVersion : Int
  checked : Result Unit
  now : DateTime

def UpdateCall.key (call : UpdateCall) : ResourceKind × String := (call.operation.kind, call.id)

/-- A successful update with the record before and after it. -/
structure Updated where
  call : UpdateCall
  before : VersionedRecord
  after : VersionedRecord

/-- The records, the two-lock updates between their locks with the copy that they read, and the successful updates,
the newest first. -/
structure UpdateRuntime where
  records : AList (fun _ : ResourceKind × String => VersionedRecord)
  reading : List (UpdateCall × Fields)
  updated : List Updated

def UpdateRuntime.start : UpdateRuntime := ⟨∅, [], []⟩

inductive UpdateAction
  | create (key : ResourceKind × String) (fields : Fields) (now : DateTime)
  | update (call : UpdateCall)
  | read (call : UpdateCall)
  | write (index : Nat)

/-- Whether the record's own status lets the update through. -/
def UpdateOperation.admits (operation : UpdateOperation) (fields : Fields) : Bool :=
  match operation, fields "status" with
  | .revokeOrganizationInvitation, .string status => status == "pending"
  | .revokeOrganizationInvitation, _ => false
  | .rotateSecretRef _ _ _, .string status => status != "deleted"
  | _, _ => true

/-- Disabling a Codex connection also disables its upstream credential. -/
def disableUpstreamCredentialIfCurrent (records : AList (fun _ : ResourceKind × String => VersionedRecord))
    (call : UpdateCall) (fields : Fields) : AList (fun _ : ResourceKind × String => VersionedRecord) :=
  match call.operation, fields "upstream_credential_id" with
  | .updateCodexOauthConnectionStatus (.string "disabled"), .string upstreamCredentialId =>
    match records.lookup (.upstreamCredential, upstreamCredentialId) with
    | none => records
    | some credential => records.insert (.upstreamCredential, upstreamCredentialId)
        ⟨patched [("status", .string "disabled")] credential.fields, credential.resourceVersion + 1, call.now⟩
  | _, _ => records

def UpdateRuntime.commit (organizationOf : String → String) (s : UpdateRuntime) (call : UpdateCall) (read : Fields)
    (record : VersionedRecord) : UpdateRuntime :=
  let after : VersionedRecord :=
    ⟨call.operation.written organizationOf read record.fields, record.resourceVersion + 1, call.now⟩
  { s with
    records := (disableUpstreamCredentialIfCurrent s.records call record.fields).insert call.key after
    updated := ⟨call, record, after⟩ :: s.updated }

def updateStep (organizationOf : String → String) (s : UpdateRuntime) : UpdateAction → Option UpdateRuntime
  | .create key fields now =>
    match s.records.lookup key with
    | some _ => none
    | none => some { s with records := s.records.insert key ⟨normalized organizationOf key.1 fields, 1, now⟩ }
  | .update call =>
    if call.operation.locksTwice then none
    else match call.checked with
    | .error _ => some s
    | .ok () =>
      match s.records.lookup call.key with
      | none => some s
      | some record =>
        if record.resourceVersion ≠ call.expectedResourceVersion then some s
        else if call.operation.admits record.fields then some (s.commit organizationOf call record.fields record)
        else some s
  | .read call =>
    if call.operation.locksTwice then
      match s.records.lookup call.key with
      | none => some s
      | some record =>
        if record.resourceVersion ≠ call.expectedResourceVersion then some s
        else match call.checked with
        | .error _ => some s
        | .ok () => some { s with reading := (call, record.fields) :: s.reading }
    else none
  | .write index =>
    match s.reading[index]? with
    | none => none
    | some (call, read) =>
      let s := { s with reading := s.reading.eraseIdx index }
      match s.records.lookup call.key with
      | none => some s
      | some record => some (s.commit organizationOf call read record)

/-- What an update may change: the fields that it names, the credential of a Codex connection that loses its login, and
the organization of an export config that moves to another project. -/
def UpdateOperation.changes (operation : UpdateOperation) : List String :=
  operation.named.map Prod.fst ++
  match operation with
  | .updateCodexOauthConnectionStatus (.string "unauthenticated") => ["upstream_credential_id"]
  | .updateOtelExportConfig patch => if patch.projectId.isSome then ["organization_id"] else []
  | _ => []

structure Updated.Within (updated : Updated) (allowed : List String) : Prop where
  version : updated.after.resourceVersion = updated.before.resourceVersion + 1
  updatedAt : updated.after.updatedAt = updated.call.now
  fields : ∀ field, field ∉ allowed → updated.after.fields field = updated.before.fields field

/-- Of the updates of one record with one expected version at most one has succeeded. -/
def UpdateRuntime.OnePerVersion (s : UpdateRuntime) : Prop :=
  s.updated.Pairwise fun later earlier =>
    later.call.key = earlier.call.key → later.call.expectedResourceVersion ≠ earlier.call.expectedResourceVersion

/-- A two-lock update writes while the record still has the version that it compared. -/
def StillCompared (s : UpdateRuntime) : UpdateAction → Prop
  | .write index => ∀ call read record, s.reading[index]? = some (call, read) →
      s.records.lookup call.key = some record → record.resourceVersion = call.expectedResourceVersion
  | _ => True

section Normalization

variable {organizationOf : String → String} {kind : ResourceKind} {fields : Fields}

theorem lookup_none_of_notMem {patch : List (String × Json)} {field : String} (h : field ∉ patch.map Prod.fst) :
    patch.lookup field = none := by
  rw [List.lookup_eq_none_iff]
  intro entry hentry
  rw [bne_iff_ne]
  exact fun heq => h (heq ▸ List.mem_map_of_mem hentry)

theorem patched_of_notMem {patch : List (String × Json)} {field : String} (h : field ∉ patch.map Prod.fst)
    (fields : Fields) : patched patch fields field = fields field := by
  rw [patched, lookup_none_of_notMem h, Option.getD_none]

theorem trimText_trimText (value : Json) : trimText (trimText value) = trimText value := by
  cases value <;> simp [trimText, trim_trim]

theorem ownerOf_ownerOf (projectId organizationId : Json) :
    ownerOf organizationOf projectId (ownerOf organizationOf projectId organizationId) =
      ownerOf organizationOf projectId organizationId := by
  cases projectId <;> rfl

theorem normalized_normalized (kind : ResourceKind) (fields : Fields) :
    normalized organizationOf kind (normalized organizationOf kind fields) = normalized organizationOf kind fields := by
  funext field
  cases kind with
  | notificationSink =>
    by_cases hname : field = "name"
    · simp [normalized, hname, trimText_trimText]
    · simp [normalized, hname]
  | otelExportConfig =>
    by_cases horganization : field = "organization_id"
    · simp [normalized, horganization, ownerOf_ownerOf]
    · simp [normalized, horganization]
  | _ => rfl

/-- A change that names neither what is normalized nor the project leaves it as it was. -/
theorem normalized_patched {patch : List (String × Json)} {field : String} (hfield : field ∉ patch.map Prod.fst)
    (hproject : field = "organization_id" → "project_id" ∉ patch.map Prod.fst)
    (h : normalized organizationOf kind fields = fields) :
    normalized organizationOf kind (patched patch fields) field = fields field := by
  have hold := congrFun h field
  cases kind with
  | notificationSink =>
    by_cases heq : field = "name"
    · subst heq
      simpa [normalized, patched_of_notMem hfield] using hold
    · simpa [normalized, heq] using patched_of_notMem hfield fields
  | otelExportConfig =>
    by_cases heq : field = "organization_id"
    · subst heq
      simpa [normalized, patched_of_notMem hfield, patched_of_notMem (hproject rfl)] using hold
    · simpa [normalized, heq] using patched_of_notMem hfield fields
  | _ => exact patched_of_notMem hfield fields

theorem normalized_of_ne {field : String} (hname : field ≠ "name") (horganization : field ≠ "organization_id")
    (kind : ResourceKind) (fields : Fields) : normalized organizationOf kind fields field = fields field := by
  cases kind <;> simp [normalized, hname, horganization]

theorem normalized_status (status : Json) (h : normalized organizationOf kind fields = fields) :
    normalized organizationOf kind (patched [("status", status)] fields) = patched [("status", status)] fields := by
  funext field
  by_cases hfield : field = "status"
  · subst hfield
    exact normalized_of_ne (by decide) (by decide) _ _
  · have hnamed : field ∉ [("status", status)].map Prod.fst := by simpa using hfield
    rw [normalized_patched hnamed (fun _ => by simp) h, patched_of_notMem hnamed]

variable {operation : UpdateOperation}

/-- A two-lock update that read the fields of now writes the merged fields. -/
theorem UpdateOperation.written_locksTwice (h : operation.locksTwice) (fields : Fields) :
    operation.written organizationOf fields fields =
      normalized organizationOf operation.kind (patched operation.named fields) := by
  funext field
  cases operation with
  | updateNotificationSink patch =>
    simp only [written, kind, normalized]
    by_cases hname : field = "name" <;> simp [hname, copiedFields]
  | updateOtelExportConfig patch =>
    simp only [written, kind, normalized]
    by_cases horganization : field = "organization_id" <;> simp [horganization, copiedFields]
  | _ => cases h

theorem UpdateOperation.written_locksOnce (h : ¬ operation.locksTwice) (read fields : Fields) {field : String}
    (hfield : field ∉ operation.changes) : operation.written organizationOf read fields field = fields field := by
  have hnamed : field ∉ operation.named.map Prod.fst := fun hmem => hfield (List.mem_append_left _ hmem)
  unfold written
  split
  · simp only [changes, named, List.map_cons, List.map_nil, List.cons_append, List.nil_append] at hfield
    exact patched_of_notMem hfield fields
  · exact absurd rfl h
  · exact absurd rfl h
  · exact patched_of_notMem hnamed fields

theorem UpdateOperation.written_unchanged (h : normalized organizationOf operation.kind fields = fields) {field : String}
    (hfield : field ∉ operation.changes) : operation.written organizationOf fields fields field = fields field := by
  by_cases htwice : operation.locksTwice
  · have hnamed : field ∉ operation.named.map Prod.fst := fun hmem => hfield (List.mem_append_left _ hmem)
    rw [written_locksTwice htwice]
    refine normalized_patched hnamed (fun heq => ?_) h
    subst heq
    cases operation with
    | updateNotificationSink patch => simp [named]
    | updateOtelExportConfig patch =>
      have hproject : patch.projectId = none := by
        by_contra hsome
        exact hfield (List.mem_append_right _ (by simp [Option.isSome_iff_ne_none.mpr hsome]))
      simp [named, hproject]
    | _ => cases htwice
  · exact written_locksOnce htwice fields fields hfield

theorem UpdateOperation.written_normalized (h : normalized organizationOf operation.kind fields = fields) :
    normalized organizationOf operation.kind (operation.written organizationOf fields fields) =
      operation.written organizationOf fields fields := by
  cases operation with
  | updateStatus kind status => exact normalized_status status h
  | updateNotificationSink patch =>
    rw [written_locksTwice rfl]
    exact normalized_normalized _ _
  | updateOtelExportConfig patch =>
    rw [written_locksTwice rfl]
    exact normalized_normalized _ _
  | _ => rfl

end Normalization

section Versions

variable {records next later : AList (fun _ : ResourceKind × String => VersionedRecord)}

/-- Every record is still there, as it was or with a larger version. -/
def Raised (records next : AList (fun _ : ResourceKind × String => VersionedRecord)) : Prop :=
  ∀ key record, records.lookup key = some record →
    ∃ now, next.lookup key = some now ∧ (now = record ∨ record.resourceVersion < now.resourceVersion)

theorem Raised.refl (records : AList (fun _ : ResourceKind × String => VersionedRecord)) : Raised records records :=
  fun _ record hrecord => ⟨record, hrecord, .inl rfl⟩

theorem Raised.trans (h : Raised records next) (h' : Raised next later) : Raised records later := by
  intro key record hrecord
  obtain ⟨mid, hmid, hraised⟩ := h key record hrecord
  obtain ⟨now, hnow, hraised'⟩ := h' key mid hmid
  refine ⟨now, hnow, ?_⟩
  rcases hraised with rfl | hlt
  · exact hraised'
  · rcases hraised' with rfl | hlt'
    · exact .inr hlt
    · exact .inr (lt_trans hlt hlt')

theorem raised_insert {key : ResourceKind × String} {value : VersionedRecord}
    (h : ∀ record, records.lookup key = some record → record.resourceVersion < value.resourceVersion) :
    Raised records (records.insert key value) := by
  intro other record hrecord
  by_cases heq : other = key
  · subst heq
    exact ⟨value, AList.lookup_insert _, .inr (h record hrecord)⟩
  · exact ⟨record, by rwa [AList.lookup_insert_ne heq], .inl rfl⟩

/-- Disabling the credential writes one record, and keeps it normalized. -/
theorem disableUpstreamCredential_cases (records : AList (fun _ : ResourceKind × String => VersionedRecord))
    (call : UpdateCall) (fields : Fields) :
    disableUpstreamCredentialIfCurrent records call fields = records ∨
      ∃ id credential, records.lookup (.upstreamCredential, id) = some credential ∧
        call.operation.kind = .codexOauthConnection ∧
        disableUpstreamCredentialIfCurrent records call fields = records.insert (.upstreamCredential, id)
          ⟨patched [("status", .string "disabled")] credential.fields, credential.resourceVersion + 1, call.now⟩ := by
  unfold disableUpstreamCredentialIfCurrent
  split
  · rename_i id hoperation hfield
    cases hlookup : records.lookup (.upstreamCredential, id) with
    | none => exact .inl rfl
    | some credential => exact .inr ⟨id, credential, hlookup, by rw [hoperation]; rfl, rfl⟩
  · exact .inl rfl

end Versions

section Runs

variable {organizationOf : String → String} {s next : UpdateRuntime}

/-- Everything that a step of the updates can do. -/
inductive UpdateStepped (organizationOf : String → String) (s : UpdateRuntime) : UpdateAction → UpdateRuntime → Prop
  | refused {action : UpdateAction} : UpdateStepped organizationOf s action s
  | created {key : ResourceKind × String} {fields : Fields} {now : DateTime} (hnone : s.records.lookup key = none) :
    UpdateStepped organizationOf s (.create key fields now)
      { s with records := s.records.insert key ⟨normalized organizationOf key.1 fields, 1, now⟩ }
  | updated {call : UpdateCall} {record : VersionedRecord} (hrecord : s.records.lookup call.key = some record)
    (hversion : record.resourceVersion = call.expectedResourceVersion) :
    UpdateStepped organizationOf s (.update call) (s.commit organizationOf call record.fields record)
  | read {call : UpdateCall} {record : VersionedRecord} (hrecord : s.records.lookup call.key = some record)
    (hversion : record.resourceVersion = call.expectedResourceVersion) :
    UpdateStepped organizationOf s (.read call) { s with reading := (call, record.fields) :: s.reading }
  | dropped {index : Nat} : UpdateStepped organizationOf s (.write index) { s with reading := s.reading.eraseIdx index }
  | wrote {index : Nat} {call : UpdateCall} {copy : Fields} {record : VersionedRecord}
    (hreading : s.reading[index]? = some (call, copy)) (hrecord : s.records.lookup call.key = some record) :
    UpdateStepped organizationOf s (.write index)
      ({ s with reading := s.reading.eraseIdx index }.commit organizationOf call copy record)

theorem updateStep_stepped {action : UpdateAction} (h : updateStep organizationOf s action = some next) :
    UpdateStepped organizationOf s action next := by
  cases action with
  | create key fields now =>
    simp only [updateStep] at h
    split at h
    · cases h
    · rename_i hnone
      cases h
      exact .created hnone
  | update call =>
    simp only [updateStep] at h
    split at h
    · cases h
    · split at h
      · cases h
        exact .refused
      · split at h
        · cases h
          exact .refused
        · rename_i record hrecord
          split at h
          · cases h
            exact .refused
          · rename_i hversion
            split at h
            · cases h
              exact .updated hrecord (not_not.mp hversion)
            · cases h
              exact .refused
  | read call =>
    simp only [updateStep] at h
    split at h
    · split at h
      · cases h
        exact .refused
      · rename_i record hrecord
        split at h
        · cases h
          exact .refused
        · rename_i hversion
          split at h
          · cases h
            exact .refused
          · cases h
            exact .read hrecord (not_not.mp hversion)
    · cases h
  | write index =>
    simp only [updateStep] at h
    split at h
    · cases h
    · rename_i call copy hreading
      split at h
      · cases h
        exact .dropped
      · rename_i record hrecord
        cases h
        exact .wrote hreading hrecord

/-- No update has been lost so far. -/
structure NoneLost (organizationOf : String → String) (s : UpdateRuntime) : Prop where
  stored : ∀ key record, s.records.lookup key = some record → normalized organizationOf key.1 record.fields = record.fields
  reading : ∀ entry ∈ s.reading, ∃ record, s.records.lookup entry.1.key = some record ∧
    entry.1.expectedResourceVersion ≤ record.resourceVersion ∧
      (record.resourceVersion = entry.1.expectedResourceVersion → record.fields = entry.2)
  spent : ∀ updated ∈ s.updated, ∃ record, s.records.lookup updated.call.key = some record ∧
    updated.call.expectedResourceVersion < record.resourceVersion
  apart : s.OnePerVersion
  within : ∀ updated ∈ s.updated, updated.Within updated.call.operation.changes

theorem NoneLost.raise (h : NoneLost organizationOf s)
    {records : AList (fun _ : ResourceKind × String => VersionedRecord)} (hraised : Raised s.records records)
    (hstored : ∀ key record, records.lookup key = some record →
      normalized organizationOf key.1 record.fields = record.fields) :
    NoneLost organizationOf { s with records := records } := by
  refine ⟨hstored, fun entry hentry => ?_, fun updated hupdated => ?_, h.apart, h.within⟩
  · obtain ⟨record, hrecord, hle, hread⟩ := h.reading entry hentry
    obtain ⟨now, hnow, rfl | hlt⟩ := hraised _ record hrecord
    · exact ⟨now, hnow, hle, hread⟩
    · exact ⟨now, hnow, by omega, by omega⟩
  · obtain ⟨record, hrecord, hlt⟩ := h.spent updated hupdated
    obtain ⟨now, hnow, rfl | hlater⟩ := hraised _ record hrecord
    · exact ⟨now, hnow, hlt⟩
    · exact ⟨now, hnow, by omega⟩

theorem NoneLost.commit (h : NoneLost organizationOf s) {call : UpdateCall} {record : VersionedRecord}
    (hrecord : s.records.lookup call.key = some record)
    (hversion : record.resourceVersion = call.expectedResourceVersion) :
    NoneLost organizationOf (s.commit organizationOf call record.fields record) := by
  have hnormal : normalized organizationOf call.operation.kind record.fields = record.fields := h.stored _ record hrecord
  let after : VersionedRecord :=
    ⟨call.operation.written organizationOf record.fields record.fields, record.resourceVersion + 1, call.now⟩
  let disabled := disableUpstreamCredentialIfCurrent s.records call record.fields
  have hdisabled : Raised s.records disabled ∧ (∀ key record, disabled.lookup key = some record →
      normalized organizationOf key.1 record.fields = record.fields) ∧ disabled.lookup call.key = some record := by
    rcases disableUpstreamCredential_cases s.records call record.fields with heq | ⟨id, credential, hcredential, hkind, heq⟩
    · show Raised s.records (disableUpstreamCredentialIfCurrent _ _ _) ∧ _
      rw [show disabled = s.records from heq, heq]
      exact ⟨.refl _, h.stored, hrecord⟩
    · rw [show disabled = _ from heq]
      refine ⟨raised_insert fun old hold => ?_, fun key other hother => ?_, ?_⟩
      · cases hcredential.symm.trans hold
        exact Int.lt_succ _
      · rcases insert_some hother with ⟨rfl, rfl⟩ | ⟨-, hold⟩
        · exact normalized_status _ (h.stored _ credential hcredential)
        · exact h.stored key other hold
      · rw [AList.lookup_insert_ne (fun hkey => by simp [UpdateCall.key, hkind] at hkey)]
        exact hrecord
  obtain ⟨hraised, hstored, hstill⟩ := hdisabled
  have hcommitted : NoneLost organizationOf { s with records := disabled.insert call.key after } := by
    refine h.raise (hraised.trans (raised_insert fun old hold => ?_)) fun key other hother => ?_
    · cases hstill.symm.trans hold
      exact Int.lt_succ _
    · rcases insert_some hother with ⟨rfl, rfl⟩ | ⟨-, hold⟩
      · exact UpdateOperation.written_normalized hnormal
      · exact hstored key other hold
  refine ⟨hcommitted.stored, hcommitted.reading, List.forall_mem_cons.mpr ⟨⟨after, AList.lookup_insert _, ?_⟩,
    hcommitted.spent⟩, List.pairwise_cons.mpr ⟨fun earlier hearlier hkey => ?_, h.apart⟩,
    List.forall_mem_cons.mpr ⟨⟨rfl, rfl, fun field hfield => UpdateOperation.written_unchanged hnormal hfield⟩, h.within⟩⟩
  · show call.expectedResourceVersion < record.resourceVersion + 1
    omega
  · obtain ⟨old, hold, hlt⟩ := h.spent earlier hearlier
    rw [← hkey] at hold
    cases hrecord.symm.trans hold
    show call.expectedResourceVersion ≠ _
    omega

theorem NoneLost.step (h : NoneLost organizationOf s) {action : UpdateAction} (hcompared : StillCompared s action)
    (hstep : UpdateStepped organizationOf s action next) : NoneLost organizationOf next := by
  cases hstep with
  | refused => exact h
  | created hnone =>
    refine h.raise (raised_insert fun old hold => ?_) fun key record hrecord => ?_
    · rw [hnone] at hold
      cases hold
    · rcases insert_some hrecord with ⟨rfl, rfl⟩ | ⟨-, hold⟩
      · exact normalized_normalized _ _
      · exact h.stored key record hold
  | updated hrecord hversion => exact h.commit hrecord hversion
  | @read call record hrecord hversion =>
    exact ⟨h.stored, List.forall_mem_cons.mpr ⟨⟨record, hrecord, hversion.ge, fun _ => rfl⟩, h.reading⟩, h.spent, h.apart,
      h.within⟩
  | dropped =>
    exact ⟨h.stored, fun entry hentry => h.reading entry (List.mem_of_mem_eraseIdx hentry), h.spent, h.apart, h.within⟩
  | @wrote index call copy record hreading hrecord =>
    have hversion := hcompared call copy record hreading hrecord
    obtain ⟨now, hnow, -, hcopy⟩ := h.reading (call, copy) (List.mem_of_getElem? hreading)
    cases hrecord.symm.trans hnow
    have hfields : copy = record.fields := (hcopy hversion).symm
    rw [hfields]
    have hdropped : NoneLost organizationOf { s with reading := s.reading.eraseIdx index } :=
      ⟨h.stored, fun entry hentry => h.reading entry (List.mem_of_mem_eraseIdx hentry), h.spent, h.apart, h.within⟩
    exact hdropped.commit hrecord hversion

end Runs

/-- In a run whose two-lock updates write over the version that they compared, no update is lost. -/
theorem updates_onePerVersion (organizationOf : String → String) {actions : List UpdateAction} {final : UpdateRuntime}
    (hcompared : Meets (updateStep organizationOf) StillCompared .start actions)
    (hrun : run (updateStep organizationOf) .start actions = some final) :
    final.OnePerVersion ∧ ∀ updated ∈ final.updated, updated.Within updated.call.operation.changes := by
  have hstep (s : UpdateRuntime) (action : UpdateAction) (next : UpdateRuntime) (h : NoneLost organizationOf s)
      (hstill : StillCompared s action) (hnext : updateStep organizationOf s action = some next) :
      NoneLost organizationOf next := h.step hstill (updateStep_stepped hnext)
  have hstart : NoneLost organizationOf .start :=
    ⟨fun _ _ hrecord => (Option.some_ne_none _ hrecord.symm).elim, by simp [UpdateRuntime.start],
      by simp [UpdateRuntime.start], List.Pairwise.nil, by simp [UpdateRuntime.start]⟩
  have hfinal := run_invariant hstep hstart hcompared hrun
  exact ⟨hfinal.apart, hfinal.within⟩

def renamedSink (name : String) (expectedResourceVersion : Int) : UpdateCall :=
  ⟨.updateNotificationSink ⟨some (.string name), none, none, none⟩, "ns_1", expectedResourceVersion, .ok (), ⟨0⟩⟩

def pausedSink (expectedResourceVersion : Int) : UpdateCall :=
  ⟨.updateNotificationSink ⟨none, none, none, some (.string "paused")⟩, "ns_1", expectedResourceVersion, .ok (), ⟨0⟩⟩

def loggedOut : UpdateCall :=
  ⟨.updateCodexOauthConnectionStatus (.string "unauthenticated"), "coc_1", 1, .ok (), ⟨0⟩⟩

def movedToProject : UpdateCall :=
  ⟨.updateOtelExportConfig ⟨none, some (.string "prj_1"), none, none, none, none, none, none, none, none⟩, "otel_1", 1,
    .ok (), ⟨0⟩⟩

/-- Two updates of one sink one after the other, and a Codex connection that loses its login. -/
def updatesInTurn : List UpdateAction :=
  [.create (.notificationSink, "ns_1") (fun _ => .string "a") ⟨0⟩, .read (renamedSink "b" 1), .write 0,
    .read (pausedSink 2), .write 0, .create (.codexOauthConnection, "coc_1") (fun _ => .string "upc_1") ⟨0⟩,
    .update loggedOut]

theorem updatesInTurn_compared : Meets (updateStep id) StillCompared .start updatesInTurn := by
  refine Meets.cons rfl trivial ?_
  refine Meets.cons rfl trivial ?_
  refine Meets.cons rfl ?_ ?_
  · rintro call read record ⟨⟩ ⟨⟩
    rfl
  refine Meets.cons rfl trivial ?_
  refine Meets.cons rfl ?_ ?_
  · rintro call read record ⟨⟩ ⟨⟩
    rfl
  refine Meets.cons rfl trivial ?_
  exact Meets.cons rfl trivial trivial

theorem updatesInTurn_onePerVersion :
    ∃ final, run (updateStep id) .start updatesInTurn = some final ∧
      final.updated.map (·.call.expectedResourceVersion) = [1, 2, 1] ∧
      final.OnePerVersion ∧ ∀ updated ∈ final.updated, updated.Within updated.call.operation.changes := by
  obtain ⟨final, hrun, hversions⟩ : ∃ final, run (updateStep id) .start updatesInTurn = some final ∧
      final.updated.map (·.call.expectedResourceVersion) = [1, 2, 1] := ⟨_, rfl, rfl⟩
  exact ⟨final, hrun, hversions, updates_onePerVersion id updatesInTurn_compared hrun⟩

/-- Two updates of one sink pass the comparison before either writes: both succeed, and the second puts the old name
back. A Codex connection that loses its login loses its credential, and an export config that moves to a project gets its
organization, though neither is named. -/
theorem updatesTogether_lost :
    (∃ final, run (updateStep id) .start [.create (.notificationSink, "ns_1") (fun _ => .string "a") ⟨0⟩,
        .read (renamedSink "b" 1), .read (pausedSink 1), .write 1, .write 0] = some final ∧ ¬ final.OnePerVersion ∧
        ∃ updated ∈ final.updated, ¬ updated.Within (updated.call.operation.named.map Prod.fst)) ∧
    (∃ final, run (updateStep id) .start [.create (.codexOauthConnection, "coc_1") (fun _ => .string "upc_1") ⟨0⟩,
        .update loggedOut] = some final ∧
        ∃ updated ∈ final.updated, ¬ updated.Within (updated.call.operation.named.map Prod.fst)) ∧
    ∃ final, run (updateStep fun _ => "org_1") .start [.create (.otelExportConfig, "otel_1") (fun _ => .null) ⟨0⟩,
        .read movedToProject, .write 0] = some final ∧
        ∃ updated ∈ final.updated, ¬ updated.Within (updated.call.operation.named.map Prod.fst) := by
  refine ⟨⟨_, rfl, fun h => ?_, _, List.mem_cons_self, fun h => ?_⟩, ⟨_, rfl, _, List.mem_cons_self, fun h => ?_⟩,
    ⟨_, rfl, _, List.mem_cons_self, fun h => ?_⟩⟩
  · exact List.rel_of_pairwise_cons h (List.mem_singleton_self _) rfl rfl
  · have hname := h.fields "name" (by decide)
    exact absurd (congrArg Json.asStr hname) (by decide)
  · have hcredential := h.fields "upstream_credential_id" (by decide)
    exact absurd (congrArg Json.asStr hcredential) (by decide)
  · have horganization := h.fields "organization_id" (by decide)
    exact absurd (congrArg Json.asStr horganization) (by decide)

end Starweaver.Gateway
