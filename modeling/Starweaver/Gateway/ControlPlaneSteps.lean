import Starweaver.Library.Checks
import Starweaver.Gateway.ControlPlane

namespace Starweaver.Gateway

open Library.Calendar Library.Checks Library.Machine

section Emergency

variable {env : GatewayEnv} {operationKind : EmergencyOperationKind} {targetResourceKind : EmergencyTargetKind}
  {change : GatewayState → Result GatewayState} {call : EmergencyCall} {s final : GatewayState}
  {operation : EmergencyOperationRecord}

def SameBut (s t : GatewayState) : Prop :=
  ∃ records operations,
    t = { s with store := { s.store with idempotencyRecords := records, emergencyOperations := operations } }

theorem idempotencyResponse_sameBut (s : GatewayState) (tenantId scopeKey requestHash : String) (now : DateTime) :
    SameBut s { s with store := (s.store.idempotencyResponse tenantId scopeKey requestHash now).2 } := by
  unfold GatewayStore.idempotencyResponse
  split
  · exact ⟨_, _, rfl⟩
  · split
    · exact ⟨_, _, rfl⟩
    · split <;> exact ⟨_, _, rfl⟩

def EmergencyCall.replayed (env : GatewayEnv) (operationKind : EmergencyOperationKind) (call : EmergencyCall)
    (s : GatewayState) : Bool :=
  (s.store.idempotencyRecords.lookup (call.actor.tenantId,
    emergencyIdempotencyScopeKey operationKind call.targetResourceId call.request.idempotencyKey)).any fun record =>
      !decide (record.expiresAt ≤ call.now) && record.requestHash == env.requestHash call.targetResourceId call.request

theorem replayed_of_idempotencyResponse {response : EmergencyOperationRecord}
    (h : (s.store.idempotencyResponse call.actor.tenantId
      (emergencyIdempotencyScopeKey operationKind call.targetResourceId call.request.idempotencyKey)
      (env.requestHash call.targetResourceId call.request) call.now).1 = .ok (some response)) :
    call.replayed env operationKind s = true := by
  unfold GatewayStore.idempotencyResponse at h
  unfold EmergencyCall.replayed
  split at h
  · cases h
  · rename_i record hlookup
    split at h
    · cases h
    · rename_i hlive
      split at h
      · cases h
      · rename_i hsame
        rw [ne_eq, not_not] at hsame
        simp [hlookup, hlive, hsame]

/-- An emergency handler makes its change, or it leaves everything but its bookkeeping as it was and then does not
succeed except by replaying a response. -/
theorem emergencyOperation_cases :
    (SameBut s (emergencyOperation env operationKind targetResourceKind change call s).2 ∧
      ((emergencyOperation env operationKind targetResourceKind change call s).1.isOk = true →
        call.replayed env operationKind s = true)) ∨
    ∃ before changed, SameBut s before ∧ change before = .ok changed ∧
      SameBut changed (emergencyOperation env operationKind targetResourceKind change call s).2 := by
  unfold emergencyOperation
  split
  · exact .inl ⟨⟨_, _, rfl⟩, by simp [Except.isOk, Except.toBool]⟩
  simp only
  have hbefore := idempotencyResponse_sameBut s call.actor.tenantId
    (emergencyIdempotencyScopeKey operationKind call.targetResourceId call.request.idempotencyKey)
    (env.requestHash call.targetResourceId call.request) call.now
  cases hlooked : s.store.idempotencyResponse call.actor.tenantId
    (emergencyIdempotencyScopeKey operationKind call.targetResourceId call.request.idempotencyKey)
    (env.requestHash call.targetResourceId call.request) call.now with
  | mk response store =>
    rw [hlooked] at hbefore
    match response with
    | .error error => exact .inl ⟨hbefore, by simp [Except.isOk, Except.toBool]⟩
    | .ok (some response) => exact .inl ⟨hbefore, fun _ => replayed_of_idempotencyResponse (congrArg Prod.fst hlooked)⟩
    | .ok none =>
      simp only
      cases hchange : change { s with store } with
      | error error => exact .inl ⟨hbefore, by simp [Except.isOk, Except.toBool]⟩
      | ok changed =>
        refine .inr ⟨_, changed, hbefore, hchange, ?_⟩
        simp only [GatewayStore.createEmergencyOperation]
        split
        · exact ⟨_, _, rfl⟩
        · rename_i store' hcreated
          split at hcreated
          · cases hcreated
          · split at hcreated
            · cases hcreated
            · cases hcreated
              exact ⟨_, _, rfl⟩

theorem emergencyOperation_ok
    (hok : emergencyOperation env operationKind targetResourceKind change call s = (.ok operation, final))
    (hfresh : call.replayed env operationKind s = false) :
    ∃ before changed, SameBut s before ∧ change before = .ok changed ∧ SameBut changed final := by
  rcases @emergencyOperation_cases env operationKind targetResourceKind change call s with ⟨-, hreplayed⟩ | hchanged
  · rw [hok, hfresh] at hreplayed
    exact absurd (hreplayed rfl) (by simp)
  · rwa [hok] at hchanged

end Emergency

/-- A write of the store by one operation that succeeds, and under which action it can be made. -/
inductive StoreWrite (env : GatewayEnv) (action : GatewayAction) (store : GatewayStore) : GatewayStore → Prop
  | createSecretRef {request : CreateSecretRefRequest} {id : String} {store' : GatewayStore}
      (hfresh : store.secretRefs.lookup id = none) (h : Gateway.createSecretRef store request id = .ok store') :
      StoreWrite env action store store'
  | updateSecretRefStatus {id : String} {version : Int} {status : SecretRefStatus}
      {result : SecretRefRecord × GatewayStore}
      (h : Gateway.updateSecretRefStatus store id version status = .ok result) : StoreWrite env action store result.2
  | rotateSecretRef {id secretValue : String} {version : Int} {fileWrite : Result String} {store' : GatewayStore}
      (h : Gateway.rotateSecretRef store id version secretValue fileWrite = .ok store') :
      StoreWrite env action store store'
  | createProviderEndpoint {tenantId id : String} {organizationId : Option String} {store' : GatewayStore}
      (h : Gateway.createProviderEndpoint store tenantId organizationId id = .ok store') :
      StoreWrite env action store store'
  | updateProviderEndpointStatus {id : String} {version : Int} {status : ResourceStatus}
      {result : ProviderEndpointRecord × GatewayStore}
      (h : Gateway.updateProviderEndpointStatus store id version status = .ok result) :
      StoreWrite env action store result.2
  | createUpstreamCredential {request : CreateUpstreamCredentialRequest} {id : String} {store' : GatewayStore}
      (hfresh : store.upstreamCredentials.lookup id = none)
      (h : Gateway.createUpstreamCredential store request id = .ok store') : StoreWrite env action store store'
  | updateUpstreamCredentialStatus {id : String} {version : Int} {status : UpstreamCredentialStatus}
      {result : UpstreamCredentialRecord × GatewayStore}
      (hstatus : status = .disabled ∨ ∃ version status, action = .updateUpstreamCredentialStatus id version status)
      (h : Gateway.updateUpstreamCredentialStatus store id version status = .ok result) :
      StoreWrite env action store result.2
  | createRoutingGroup {tenantId name id : String} {organizationId : Option String} {store' : GatewayStore}
      (hfresh : store.routingGroups.lookup id = none)
      (h : Gateway.createRoutingGroup store tenantId organizationId name id = .ok store') :
      StoreWrite env action store store'
  | updateRoutingGroupStatus {id : String} {version : Int} {status : ResourceStatus}
      {result : RoutingGroupRecord × GatewayStore}
      (hstatus : status = .draining ∨ ∃ version status, action = .updateRoutingGroupStatus id version status)
      (h : Gateway.updateRoutingGroupStatus store id version status = .ok result) :
      StoreWrite env action store result.2
  | publishConfigSnapshot {tenantId snapshotId : String} {payload : ConfigPayload}
      {result : PublishedConfigSnapshot × GatewayStore}
      (h : Gateway.publishConfigSnapshot store env tenantId payload snapshotId = .ok result) :
      StoreWrite env action store result.2
  | rollbackConfigSnapshot {tenantId sourceSnapshotId snapshotId : String}
      {result : PublishedConfigSnapshot × GatewayStore}
      (h : Gateway.rollbackConfigSnapshot store tenantId sourceSnapshotId snapshotId = .ok result) :
      StoreWrite env action store result.2

/-- What a step does to the store: nothing but bookkeeping, or one write with bookkeeping around it. -/
inductive StoreStep (env : GatewayEnv) (action : GatewayAction) (s next : GatewayState) : Prop
  | kept {t : GatewayState} (hsame : SameBut s t) (hstore : next.store = t.store)
  | written {before changed : GatewayState} (hbefore : SameBut s before)
      (hwrite : StoreWrite env action before.store changed.store) (hafter : SameBut changed next)

section Steps

variable {env : GatewayEnv} {action : GatewayAction} {s next : GatewayState} {call : EmergencyCall}

theorem SameBut.refl (s : GatewayState) : SameBut s s := ⟨_, _, rfl⟩

theorem tryStore_step {α : Type} {stored : α → GatewayStore} {result : Result α}
    (h : ∀ value, result = .ok value → StoreWrite env action s.store (stored value)) :
    StoreStep env action s (s.tryStore stored result) := by
  cases result with
  | error error => exact .kept (.refl s) rfl
  | ok value => exact .written (.refl s) (h value rfl) (.refl _)

/-- An emergency handler writes what its change writes. -/
theorem emergencyOperation_step {operationKind : EmergencyOperationKind} {targetResourceKind : EmergencyTargetKind}
    {change : GatewayState → Result GatewayState}
    (hchange : ∀ before changed, change before = .ok changed → StoreWrite env action before.store changed.store) :
    StoreStep env action s (emergencyOperation env operationKind targetResourceKind change call s).2 := by
  rcases @emergencyOperation_cases env operationKind targetResourceKind change call s with
    ⟨hsame, -⟩ | ⟨before, changed, hbefore, hok, hafter⟩
  · exact .kept hsame rfl
  · exact .written hbefore (hchange before changed hok) hafter

theorem setEndpointEmergencyDrain_store (s : GatewayState) (endpoint : ProviderEndpointRecord) (reason : String)
    (expiresAt now : DateTime) : (setEndpointEmergencyDrain s endpoint reason expiresAt now).store = s.store := by
  unfold setEndpointEmergencyDrain
  split <;> rfl

theorem disableProviderEndpoint_write {before changed : GatewayState}
    (h : disableProviderEndpoint call before = .ok changed) : StoreWrite env action before.store changed.store := by
  obtain ⟨_, -, h⟩ := bind_ok.mp h
  obtain ⟨_, -, h⟩ := bind_ok.mp h
  obtain ⟨⟨updated, store⟩, hupdate, h⟩ := bind_ok.mp h
  cases h
  rw [setEndpointEmergencyDrain_store]
  exact .updateProviderEndpointStatus hupdate

theorem disableUpstreamCredential_write {before changed : GatewayState}
    (h : disableUpstreamCredential call before = .ok changed) : StoreWrite env action before.store changed.store := by
  obtain ⟨_, -, h⟩ := bind_ok.mp h
  obtain ⟨_, -, h⟩ := bind_ok.mp h
  obtain ⟨⟨updated, store⟩, hupdate, h⟩ := bind_ok.mp h
  cases h
  exact .updateUpstreamCredentialStatus (.inl rfl) hupdate

theorem drainRoutingGroup_write {before changed : GatewayState} (h : drainRoutingGroup call before = .ok changed) :
    StoreWrite env action before.store changed.store := by
  obtain ⟨_, -, h⟩ := bind_ok.mp h
  obtain ⟨_, -, h⟩ := bind_ok.mp h
  obtain ⟨⟨updated, store⟩, hupdate, h⟩ := bind_ok.mp h
  cases h
  exact .updateRoutingGroupStatus (.inl rfl) hupdate

theorem rollbackToSnapshot_write {snapshotId : String} {before changed : GatewayState}
    (h : rollbackToSnapshot snapshotId call before = .ok changed) :
    StoreWrite env action before.store changed.store := by
  obtain ⟨⟨snapshot, store⟩, hrollback, h⟩ := bind_ok.mp h
  cases h
  exact .rollbackConfigSnapshot hrollback

theorem step_of_fresh {taken : Bool} (h : (if taken = true then none else some s) = some next) :
    taken = false ∧ next = s := by
  cases taken with
  | true => cases h
  | false => exact ⟨rfl, (Option.some.inj h).symm⟩

theorem lookup_none_of_isSome {α : Type} {records : Index α} {id : String}
    (h : (records.lookup id).isSome = false) : records.lookup id = none := by
  simpa using h

theorem gatewayStep_store (hstep : gatewayStep env s action = some next) : StoreStep env action s next := by
  cases action with
  | createSecretRef request secretRefId =>
    obtain ⟨hfresh, hnext⟩ := step_of_fresh hstep
    rw [hnext]
    exact tryStore_step fun _ h => .createSecretRef (lookup_none_of_isSome hfresh) h
  | updateSecretRefStatus secretRefId expectedVersion status =>
    rw [← Option.some.inj hstep]
    exact tryStore_step fun _ h => .updateSecretRefStatus h
  | rotateSecretRef secretRefId expectedVersion secretValue fileWrite =>
    rw [← Option.some.inj hstep]
    exact tryStore_step fun _ h => .rotateSecretRef h
  | createProviderEndpoint tenantId organizationId providerEndpointId =>
    rw [(step_of_fresh hstep).2]
    exact tryStore_step fun _ h => .createProviderEndpoint h
  | updateProviderEndpointStatus providerEndpointId expectedVersion status =>
    rw [← Option.some.inj hstep]
    exact tryStore_step fun _ h => .updateProviderEndpointStatus h
  | createUpstreamCredential request upstreamCredentialId =>
    obtain ⟨hfresh, hnext⟩ := step_of_fresh hstep
    rw [hnext]
    exact tryStore_step fun _ h => .createUpstreamCredential (lookup_none_of_isSome hfresh) h
  | updateUpstreamCredentialStatus upstreamCredentialId expectedVersion status =>
    rw [← Option.some.inj hstep]
    exact tryStore_step fun _ h => .updateUpstreamCredentialStatus (.inr ⟨_, _, rfl⟩) h
  | createRoutingGroup tenantId organizationId name routingGroupId =>
    obtain ⟨hfresh, hnext⟩ := step_of_fresh hstep
    rw [hnext]
    exact tryStore_step fun _ h => .createRoutingGroup (lookup_none_of_isSome hfresh) h
  | updateRoutingGroupStatus routingGroupId expectedVersion status =>
    rw [← Option.some.inj hstep]
    exact tryStore_step fun _ h => .updateRoutingGroupStatus (.inr ⟨_, _, rfl⟩) h
  | publishConfigSnapshot tenantId payload snapshotId =>
    rw [(step_of_fresh hstep).2]
    exact tryStore_step fun _ h => .publishConfigSnapshot h
  | rollbackConfigSnapshot tenantId sourceSnapshotId snapshotId =>
    rw [(step_of_fresh hstep).2]
    exact tryStore_step fun _ h => .rollbackConfigSnapshot h
  | emergencyRollbackConfigSnapshot call snapshotId =>
    rw [(step_of_fresh hstep).2]
    exact emergencyOperation_step fun _ _ h => rollbackToSnapshot_write h
  | emergencyDisableProviderEndpoint call =>
    rw [← Option.some.inj hstep]
    exact emergencyOperation_step fun _ _ h => disableProviderEndpoint_write h
  | emergencyDisableUpstreamCredential call =>
    rw [← Option.some.inj hstep]
    exact emergencyOperation_step fun _ _ h => disableUpstreamCredential_write h
  | emergencyDrainRoutingGroup call =>
    rw [← Option.some.inj hstep]
    exact emergencyOperation_step fun _ _ h => drainRoutingGroup_write h
  | routeRequest request =>
    rw [← Option.some.inj hstep]
    exact .kept (.refl s) rfl

end Steps

/-- The maps that carry what a secret, a credential and a group are. -/
structure Resources where
  secretRefs : Index SecretRefRecord
  upstreamCredentials : Index UpstreamCredentialRecord
  routingGroups : Index RoutingGroupRecord

def GatewayStore.resources (store : GatewayStore) : Resources :=
  ⟨store.secretRefs, store.upstreamCredentials, store.routingGroups⟩

/-- Everything that one step can do to secrets, credentials and groups. -/
inductive ResourceStep (action : GatewayAction) (r : Resources) : Resources → Prop
  | unchanged : ResourceStep action r r
  | secretRefCreated (id : String) (record : SecretRefRecord) (hfresh : r.secretRefs.lookup id = none) :
      ResourceStep action r { r with secretRefs := r.secretRefs.insert id record }
  | secretRefUpdated (id : String) (record record' : SecretRefRecord) (hlookup : r.secretRefs.lookup id = some record)
      (htenant : record'.tenantId = record.tenantId) :
      ResourceStep action r { r with secretRefs := r.secretRefs.insert id record' }
  | credentialCreated (id : String) (record : UpstreamCredentialRecord) (ref : SecretRefRecord)
      (hfresh : r.upstreamCredentials.lookup id = none)
      (href : r.secretRefs.lookup record.secretRefId = some ref) (htenant : ref.tenantId = record.tenantId) :
      ResourceStep action r { r with upstreamCredentials := r.upstreamCredentials.insert id record }
  | credentialUpdated (id : String) (record record' : UpstreamCredentialRecord)
      (hlookup : r.upstreamCredentials.lookup id = some record) (htenant : record'.tenantId = record.tenantId)
      (hsecret : record'.secretRefId = record.secretRefId)
      (hstatus : record'.status = .disabled ∨
        ∃ version status, action = .updateUpstreamCredentialStatus id version status) :
      ResourceStep action r { r with upstreamCredentials := r.upstreamCredentials.insert id record' }
  | groupCreated (id : String) (record : RoutingGroupRecord) (hfresh : r.routingGroups.lookup id = none) :
      ResourceStep action r { r with routingGroups := r.routingGroups.insert id record }
  | groupUpdated (id : String) (record' : RoutingGroupRecord)
      (hstatus : record'.status = .draining ∨ ∃ version status, action = .updateRoutingGroupStatus id version status) :
      ResourceStep action r { r with routingGroups := r.routingGroups.insert id record' }

section Resources

variable {env : GatewayEnv} {action : GatewayAction} {store store' : GatewayStore} {id : String}

theorem storeSecretValue_eq {record : SecretRefRecord} {secretValue : String}
    (h : store.storeSecretValue record secretValue = store') :
    ∃ values files, store' = { store with secretValues := values, secretFiles := files } := by
  rw [← h]
  unfold GatewayStore.storeSecretValue
  cases record.backendKind <;> exact ⟨_, _, rfl⟩

theorem createSecretRef_ok {request : CreateSecretRefRequest} (h : createSecretRef store request id = .ok store') :
    ∃ record values files, store' =
      { store with
        secretRefs := store.secretRefs.insert id record, secretValues := values, secretFiles := files } := by
  unfold createSecretRef at h
  split at h
  · cases h
  split at h
  · cases h
  obtain ⟨⟨organizationId, projectId⟩, -, h⟩ := bind_ok.mp h
  obtain ⟨backendLocator, -, h⟩ := bind_ok.mp h
  obtain ⟨values, files, hstored⟩ := storeSecretValue_eq (Except.ok.inj h)
  exact ⟨_, values, files, hstored⟩

theorem rotateSecretRef_ok {expectedVersion : Int} {secretValue : String} {fileWrite : Result String}
    (h : rotateSecretRef store id expectedVersion secretValue fileWrite = .ok store') :
    ∃ record record' values files, store.secretRefs.lookup id = some record ∧ record'.tenantId = record.tenantId ∧
      store' =
        { store with
          secretRefs := store.secretRefs.insert id record', secretValues := values, secretFiles := files } := by
  unfold rotateSecretRef at h
  split at h
  · cases h
  split at h
  · cases h
  rename_i record hlookup
  split at h
  · cases h
  split at h
  · cases h
  obtain ⟨backendLocator, -, h⟩ := bind_ok.mp h
  obtain ⟨values, files, hstored⟩ := storeSecretValue_eq (Except.ok.inj h)
  refine ⟨record, _, values, files, hlookup, ?_, hstored⟩
  rfl

theorem createSecretRef_resources {request : CreateSecretRefRequest} (hfresh : store.secretRefs.lookup id = none)
    (h : createSecretRef store request id = .ok store') : ResourceStep action store.resources store'.resources := by
  obtain ⟨record, values, files, rfl⟩ := createSecretRef_ok h
  exact .secretRefCreated id record hfresh

theorem rotateSecretRef_resources {expectedVersion : Int} {secretValue : String} {fileWrite : Result String}
    (h : rotateSecretRef store id expectedVersion secretValue fileWrite = .ok store') :
    ResourceStep action store.resources store'.resources := by
  obtain ⟨record, record', values, files, hlookup, htenant, rfl⟩ := rotateSecretRef_ok h
  exact .secretRefUpdated id record record' hlookup htenant

theorem updateSecretRefStatus_resources {expectedVersion : Int} {status : SecretRefStatus} {updated : SecretRefRecord}
    (h : updateSecretRefStatus store id expectedVersion status = .ok (updated, store')) :
    ResourceStep action store.resources store'.resources := by
  obtain ⟨record, hlookup, rfl, rfl⟩ := updateResource_ok h
  exact .secretRefUpdated id record _ hlookup rfl

theorem ensureSecretRefUsable_tenant {tenantId secretRefId label : String} {organizationId projectId : Option String}
    (h : ensureSecretRefUsable store tenantId organizationId projectId secretRefId label = .ok ()) :
    ∃ ref, store.secretRefs.lookup secretRefId = some ref ∧ ref.tenantId = tenantId := by
  unfold ensureSecretRefUsable at h
  split at h
  · cases h
  split at h
  · cases h
  rename_i ref hlookup
  split at h
  · cases h
  · rename_i htenant
    exact ⟨ref, hlookup, by simpa using htenant⟩

theorem createUpstreamCredential_resources {request : CreateUpstreamCredentialRequest}
    (hfresh : store.upstreamCredentials.lookup id = none)
    (h : createUpstreamCredential store request id = .ok store') :
    ResourceStep action store.resources store'.resources := by
  obtain ⟨_, hvalid, h⟩ := bind_ok.mp h
  cases h
  obtain ⟨_, -, hvalid⟩ := bind_ok.mp hvalid
  split at hvalid
  · cases hvalid
  split at hvalid
  · cases hvalid
  split at hvalid
  · cases hvalid
  obtain ⟨ref, hlookup, htenant⟩ := ensureSecretRefUsable_tenant hvalid
  exact .credentialCreated id _ ref hfresh hlookup htenant

theorem updateUpstreamCredentialStatus_resources {expectedVersion : Int} {status : UpstreamCredentialStatus}
    {updated : UpstreamCredentialRecord}
    (hstatus : status = .disabled ∨ ∃ version status, action = .updateUpstreamCredentialStatus id version status)
    (h : updateUpstreamCredentialStatus store id expectedVersion status = .ok (updated, store')) :
    ResourceStep action store.resources store'.resources := by
  obtain ⟨record, hlookup, rfl, rfl⟩ := updateResource_ok h
  exact .credentialUpdated id record _ hlookup rfl rfl hstatus

theorem createRoutingGroup_ok {tenantId name : String} {organizationId : Option String}
    (h : createRoutingGroup store tenantId organizationId name id = .ok store') :
    ∃ record, store' = { store with routingGroups := store.routingGroups.insert id record } := by
  obtain ⟨_, -, h⟩ := bind_ok.mp h
  split at h
  · cases h
  split at h
  · cases h
  · cases h
    exact ⟨_, rfl⟩

theorem createRoutingGroup_resources {tenantId name : String} {organizationId : Option String}
    (hfresh : store.routingGroups.lookup id = none)
    (h : createRoutingGroup store tenantId organizationId name id = .ok store') :
    ResourceStep action store.resources store'.resources := by
  obtain ⟨record, rfl⟩ := createRoutingGroup_ok h
  exact .groupCreated id record hfresh

theorem updateRoutingGroupStatus_resources {expectedVersion : Int} {status : ResourceStatus}
    {updated : RoutingGroupRecord}
    (hstatus : status = .draining ∨ ∃ version status, action = .updateRoutingGroupStatus id version status)
    (h : updateRoutingGroupStatus store id expectedVersion status = .ok (updated, store')) :
    ResourceStep action store.resources store'.resources := by
  obtain ⟨record, hlookup, rfl, rfl⟩ := updateResource_ok h
  exact .groupUpdated id _ hstatus

theorem updateProviderEndpointStatus_resources {expectedVersion : Int} {status : ResourceStatus}
    {updated : ProviderEndpointRecord}
    (h : updateProviderEndpointStatus store id expectedVersion status = .ok (updated, store')) :
    store'.resources = store.resources := by
  obtain ⟨record, hlookup, rfl, rfl⟩ := updateResource_ok h
  rfl

theorem rollbackConfigSnapshot_ok {tenantId sourceSnapshotId snapshotId : String}
    {snapshot : PublishedConfigSnapshot}
    (h : rollbackConfigSnapshot store tenantId sourceSnapshotId snapshotId = .ok (snapshot, store')) :
    ∃ payload rollbackOf, store' = (publishDocument store tenantId payload rollbackOf snapshotId).2 := by
  unfold rollbackConfigSnapshot at h
  split at h
  · cases h
  split at h
  · cases h
  · cases h
    exact ⟨_, _, rfl⟩

theorem rollbackConfigSnapshot_resources {tenantId sourceSnapshotId snapshotId : String}
    {snapshot : PublishedConfigSnapshot}
    (h : rollbackConfigSnapshot store tenantId sourceSnapshotId snapshotId = .ok (snapshot, store')) :
    store'.resources = store.resources := by
  obtain ⟨payload, rollbackOf, rfl⟩ := rollbackConfigSnapshot_ok h
  rfl

theorem SameBut.resources {s t : GatewayState} (h : SameBut s t) : t.store.resources = s.store.resources := by
  obtain ⟨records, operations, rfl⟩ := h
  rfl

theorem StoreWrite.resources (hwrite : StoreWrite env action store store') :
    ResourceStep action store.resources store'.resources := by
  cases hwrite with
  | createSecretRef hfresh h => exact createSecretRef_resources hfresh h
  | updateSecretRefStatus h => exact updateSecretRefStatus_resources h
  | rotateSecretRef h => exact rotateSecretRef_resources h
  | createProviderEndpoint h =>
    obtain ⟨_, -, h⟩ := bind_ok.mp h
    cases h
    exact .unchanged
  | updateProviderEndpointStatus h =>
    rw [updateProviderEndpointStatus_resources h]
    exact .unchanged
  | createUpstreamCredential hfresh h => exact createUpstreamCredential_resources hfresh h
  | updateUpstreamCredentialStatus hstatus h => exact updateUpstreamCredentialStatus_resources hstatus h
  | createRoutingGroup hfresh h => exact createRoutingGroup_resources hfresh h
  | updateRoutingGroupStatus hstatus h => exact updateRoutingGroupStatus_resources hstatus h
  | publishConfigSnapshot h =>
    obtain ⟨_, -, h⟩ := bind_ok.mp h
    cases h
    exact .unchanged
  | rollbackConfigSnapshot h =>
    rw [rollbackConfigSnapshot_resources h]
    exact .unchanged

theorem gatewayStep_resources {s next : GatewayState} (hstep : gatewayStep env s action = some next) :
    ResourceStep action s.store.resources next.store.resources := by
  cases gatewayStep_store hstep with
  | kept hsame hstore =>
    rw [hstore, hsame.resources]
    exact .unchanged
  | written hbefore hwrite hafter =>
    rw [hafter.resources, ← hbefore.resources]
    exact hwrite.resources

end Resources

end Starweaver.Gateway
