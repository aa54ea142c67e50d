import Starweaver.Library.Json
import Starweaver.Gateway.Idempotency

namespace Starweaver.Gateway

open Library Library.AssocMap Library.Calendar Library.Machine

/-- The admin handlers that answer a repeated request from a stored response. -/
inductive AdminHandler
  | createCatalogImport
  | createExportJob
  | emergencyDisableUpstreamCredential
  | emergencyDisableProviderEndpoint
  | emergencyDrainRoutingGroup
  | emergencyFreezeConfig
  | emergencyRollbackConfigSnapshot
  | emergencyForceBudgetBlock
  | createMaintenanceWindow
  | publishConfigSnapshot
  | rollbackConfigSnapshot
  | createProjectMember
  | createServiceAccount
  | createApiKeyAdmin
  | rotateApiKeyAdmin
  | disableApiKeyAdmin
  | createProviderEndpoint
  | createUpstreamCredential
  | createSecretRef
  | rotateSecretRef
  | createCodexOauthConnection
  | startCodexOauthSession
  | createModelTarget
  | createModelAlias
  | createPricingSku
  | createBudgetPolicy
  | createQuotaPolicy
  | createOtelExportConfig
  | createNotificationSink
  | createNotificationSubscription
  | replayNotificationOutboxEvent
  | createLoginProvider
  | createOrganizationInvitation
  | createRoutePolicy
  | createProviderGrant
  | createRoutingGroup
  | createRoutingGroupTarget
deriving DecidableEq, Repr

def bytes (text : String) : List UInt8 := text.toByteArray.data.toList

theorem bytes_append (text more : String) : bytes (text ++ more) = bytes text ++ bytes more := by
  simp [bytes, String.toByteArray_append]

namespace AdminHandler

/-- What the operation in a handler's scope key starts with, up to the id of the resource where it has one. -/
def head : AdminHandler → String
  | createCatalogImport => "catalog_imports:create"
  | createExportJob => "exports:create"
  | emergencyDisableUpstreamCredential => "emergency:disable_upstream_credential:"
  | emergencyDisableProviderEndpoint => "emergency:disable_provider_endpoint:"
  | emergencyDrainRoutingGroup => "emergency:drain_routing_group:"
  | emergencyFreezeConfig => "emergency:freeze_config:"
  | emergencyRollbackConfigSnapshot => "emergency:rollback_config_snapshot:"
  | emergencyForceBudgetBlock => "emergency:force_budget_block:"
  | createMaintenanceWindow => "maintenance_windows:create"
  | publishConfigSnapshot => "config_snapshots:publish"
  | rollbackConfigSnapshot => "config_snapshots:rollback"
  | createProjectMember => "project_members:create:"
  | createServiceAccount => "service_accounts:create"
  | createApiKeyAdmin => "api_keys:create"
  | rotateApiKeyAdmin => "api_keys:rotate"
  | disableApiKeyAdmin => "api_keys:disable"
  | createProviderEndpoint => "provider_endpoints:create"
  | createUpstreamCredential => "upstream_credentials:create"
  | createSecretRef => "secret_refs:create"
  | rotateSecretRef => "secret_refs:rotate:"
  | createCodexOauthConnection => "codex_oauth_connections:create"
  | startCodexOauthSession => "codex_oauth_sessions:start:"
  | createModelTarget => "model_targets:create"
  | createModelAlias => "model_aliases:create"
  | createPricingSku => "pricing_skus:create"
  | createBudgetPolicy => "budget_policies:create"
  | createQuotaPolicy => "quota_policies:create"
  | createOtelExportConfig => "otel_export_configs:create"
  | createNotificationSink => "notification_sinks:create"
  | createNotificationSubscription => "notification_subscriptions:create:"
  | replayNotificationOutboxEvent => "notification_outbox:replay:"
  | createLoginProvider => "identity_providers:create"
  | createOrganizationInvitation => "organization_invitations:create:"
  | createRoutePolicy => "route_policies:create"
  | createProviderGrant => "provider_grants:create"
  | createRoutingGroup => "routing_groups:create"
  | createRoutingGroupTarget => "routing_group_targets:"

/-- The handlers that write the id of the resource into the scope key. -/
def scopesResource : AdminHandler → Bool
  | emergencyDisableUpstreamCredential | emergencyDisableProviderEndpoint | emergencyDrainRoutingGroup
  | emergencyFreezeConfig | emergencyRollbackConfigSnapshot | emergencyForceBudgetBlock | createProjectMember
  | rotateSecretRef | startCodexOauthSession | createNotificationSubscription | replayNotificationOutboxEvent
  | createOrganizationInvitation | createRoutingGroupTarget => true
  | _ => false

def foot (handler : AdminHandler) : String := if handler = createRoutingGroupTarget then ":create" else ""

def operation (handler : AdminHandler) (resourceId : String) : String :=
  if handler.scopesResource then handler.head ++ resourceId ++ handler.foot else handler.head

example : rotateSecretRef.operation "sec_1" = "secret_refs:rotate:sec_1" := by decide

example : createRoutingGroupTarget.operation "rg_1" = "routing_group_targets:rg_1:create" := by decide

/-- The handlers of members, service accounts and API keys take any idempotency key. -/
def validatesKey : AdminHandler → Bool
  | createProjectMember | createServiceAccount | createApiKeyAdmin | rotateApiKeyAdmin | disableApiKeyAdmin => false
  | _ => true

def all : List AdminHandler :=
  [createCatalogImport, createExportJob, emergencyDisableUpstreamCredential, emergencyDisableProviderEndpoint,
    emergencyDrainRoutingGroup, emergencyFreezeConfig, emergencyRollbackConfigSnapshot, emergencyForceBudgetBlock,
    createMaintenanceWindow, publishConfigSnapshot, rollbackConfigSnapshot, createProjectMember, createServiceAccount,
    createApiKeyAdmin, rotateApiKeyAdmin, disableApiKeyAdmin, createProviderEndpoint, createUpstreamCredential,
    createSecretRef, rotateSecretRef, createCodexOauthConnection, startCodexOauthSession, createModelTarget,
    createModelAlias, createPricingSku, createBudgetPolicy, createQuotaPolicy, createOtelExportConfig,
    createNotificationSink, createNotificationSubscription, replayNotificationOutboxEvent, createLoginProvider,
    createOrganizationInvitation, createRoutePolicy, createProviderGrant, createRoutingGroup, createRoutingGroupTarget]

theorem mem_all (handler : AdminHandler) : handler ∈ all := by
  cases handler <;> decide

/-- No head starts another one. -/
theorem heads_apart {handler other : AdminHandler}
    (h : (bytes handler.head).isPrefixOf (bytes other.head)) : handler = other := by
  have hall : all.all fun first => all.all fun second =>
      !(bytes first.head).isPrefixOf (bytes second.head) || first == second := by
    decide +kernel
  have hpair := List.all_eq_true.mp (List.all_eq_true.mp hall handler (mem_all handler)) other (mem_all other)
  simpa [h] using hpair

def rest (handler : AdminHandler) (resourceId : String) : String :=
  if handler.scopesResource then resourceId ++ handler.foot else ""

theorem operation_eq (handler : AdminHandler) (resourceId : String) :
    handler.operation resourceId = handler.head ++ handler.rest resourceId := by
  unfold operation rest
  split
  · rw [String.append_assoc]
  · rw [String.append_empty]

theorem operation_inj {handler other : AdminHandler} {resourceId otherId : String}
    (h : handler.operation resourceId = other.operation otherId) :
    handler = other ∧ (handler.scopesResource → resourceId = otherId) := by
  rw [operation_eq, operation_eq] at h
  have hbytes := congrArg bytes h
  rw [bytes_append, bytes_append] at hbytes
  have heq : handler = other := by
    rcases List.prefix_or_prefix_of_prefix (List.prefix_append _ _) (hbytes ▸ List.prefix_append _ _) with hle | hle
    · exact (heads_apart (List.isPrefixOf_iff_prefix.mpr hle)).symm
    · exact heads_apart (List.isPrefixOf_iff_prefix.mpr hle)
  subst heq
  refine ⟨rfl, fun hscopes => ?_⟩
  have hrest := (String.append_right_inj handler.head).mp h
  unfold rest at hrest
  rw [if_pos hscopes, if_pos hscopes] at hrest
  exact (String.append_left_inj handler.foot).mp hrest

end AdminHandler

/-- The body of a request: its idempotency key and its other fields. -/
structure AdminBody where
  idempotencyKey : String
  fields : List (String × Json)

/-- What a handler hashes: the body, or the body with the target of an emergency operation. -/
inductive HashedDocument
  | body (body : AdminBody)
  | emergency (targetResourceId : String) (body : AdminBody)

/-- One call of an idempotent handler; the id in its path, where it has one. -/
structure IdempotentCall where
  tenantId : String
  handler : AdminHandler
  pathId : String
  body : AdminBody
  now : DateTime

namespace IdempotentCall

def isEmergency (call : IdempotentCall) : Bool :=
  match call.handler with
  | .emergencyDisableUpstreamCredential | .emergencyDisableProviderEndpoint | .emergencyDrainRoutingGroup
  | .emergencyFreezeConfig | .emergencyRollbackConfigSnapshot | .emergencyForceBudgetBlock => true
  | _ => false

/-- A freeze is of the whole tenant; every other handler takes the id from its path. -/
def resourceId (call : IdempotentCall) : String :=
  match call.handler with
  | .emergencyFreezeConfig => call.tenantId
  | _ => call.pathId

def scopeKey (call : IdempotentCall) : String :=
  idempotencyScopeKey (call.handler.operation call.resourceId) call.body.idempotencyKey

def document (call : IdempotentCall) : HashedDocument :=
  if call.isEmergency then .emergency call.resourceId call.body else .body call.body

/-- The resource that a call is about: none where it creates one, the snapshot that the body names for a rollback. -/
def target (call : IdempotentCall) : Option Json :=
  match call.handler with
  | .rollbackConfigSnapshot => call.body.fields.lookup "source_snapshot_id"
  | .rotateApiKeyAdmin | .disableApiKeyAdmin => some (.string call.pathId)
  | handler => if handler.scopesResource then some (.string call.resourceId) else none

end IdempotentCall

/-- Both calls are of one operation on one resource. -/
def SameTarget (first second : IdempotentCall) : Prop := first.handler = second.handler ∧ first.target = second.target

/-- Both calls rotate, or both disable, but different API keys. -/
def OtherApiKey (first second : IdempotentCall) : Prop :=
  first.handler = second.handler ∧ first.handler ∈ [.rotateApiKeyAdmin, .disableApiKeyAdmin] ∧
    first.pathId ≠ second.pathId

/-- A stored response is named by the call that recorded it. -/
structure ReplayRuntime where
  records : StoredResponses IdempotentCall
  calls : List IdempotentCall
  replays : List (IdempotentCall × IdempotentCall)

def ReplayRuntime.start : ReplayRuntime := ⟨∅, [], []⟩

inductive ReplayAction
  | lookUp (call : IdempotentCall)
  | finish (index : Nat) (succeeded : Bool)

def replayStep (stableRequestHash : HashedDocument → String) (s : ReplayRuntime) : ReplayAction → Option ReplayRuntime
  | .lookUp call =>
    match if call.handler.validatesKey then validateIdempotencyKey call.body.idempotencyKey else .ok () with
    | .error _ => some s
    | .ok () =>
      let (response, records) :=
        s.records.idempotencyResponse call.tenantId call.scopeKey (stableRequestHash call.document) call.now
      let s := { s with records }
      match response with
      | .error _ => some s
      | .ok (some first) => some { s with replays := (first, call) :: s.replays }
      | .ok none => some { s with calls := call :: s.calls }
  | .finish index succeeded =>
    match s.calls[index]? with
    | none => none
    | some call =>
      let s := { s with calls := s.calls.eraseIdx index }
      if succeeded then
        some { s with
          records := s.records.recordIdempotencyResponse call.tenantId call.scopeKey (stableRequestHash call.document)
            call call.now }
      else some s

section Replays

variable {stableRequestHash : HashedDocument → String} {sent : IdempotentCall → Prop} {s next : ReplayRuntime}

/-- Every stored response stands under the scope key and the hash of the call that recorded it. -/
structure StoredUnder (stableRequestHash : HashedDocument → String) (sent : IdempotentCall → Prop) (s : ReplayRuntime) :
    Prop where
  records : ∀ tenantId scopeKey record, s.records.lookup (tenantId, scopeKey) = some record →
    sent record.responseRecord ∧ record.responseRecord.scopeKey = scopeKey ∧
      record.requestHash = stableRequestHash record.responseRecord.document
  calls : ∀ call ∈ s.calls, sent call
  replays : ∀ replay ∈ s.replays, sent replay.1 ∧ sent replay.2 ∧ replay.1.scopeKey = replay.2.scopeKey ∧
    stableRequestHash replay.1.document = stableRequestHash replay.2.document

/-- Everything that a lookup can answer and leave. -/
theorem idempotencyResponse_cases {ρ : Type} (records : StoredResponses ρ) (tenantId scopeKey requestHash : String)
    (now : DateTime) :
    (∃ error, records.idempotencyResponse tenantId scopeKey requestHash now = (.error error, records)) ∨
    records.idempotencyResponse tenantId scopeKey requestHash now = (.ok none, records) ∨
    records.idempotencyResponse tenantId scopeKey requestHash now = (.ok none, records.erase (tenantId, scopeKey)) ∨
    ∃ record, records.lookup (tenantId, scopeKey) = some record ∧ record.requestHash = requestHash ∧
      records.idempotencyResponse tenantId scopeKey requestHash now = (.ok (some record.responseRecord), records) := by
  unfold StoredResponses.idempotencyResponse
  cases hlookup : records.lookup (tenantId, scopeKey) with
  | none => exact .inr (.inl rfl)
  | some record =>
    by_cases hexpired : record.expiresAt ≤ now
    · exact .inr (.inr (.inl (by simp [hexpired])))
    · by_cases hhash : record.requestHash = requestHash
      · exact .inr (.inr (.inr ⟨record, rfl, hhash, by simp [hexpired, hhash]⟩))
      · exact .inl ⟨.badRequest "idempotency_key_conflict", by simp [hexpired, hhash]⟩

theorem StoredUnder.lookUp (h : StoredUnder stableRequestHash sent s) {call : IdempotentCall} (hsent : sent call)
    (hnext : replayStep stableRequestHash s (.lookUp call) = some next) : StoredUnder stableRequestHash sent next := by
  simp only [replayStep] at hnext
  split at hnext
  · cases hnext
    exact h
  · rcases idempotencyResponse_cases s.records call.tenantId call.scopeKey (stableRequestHash call.document) call.now with
      ⟨error, heq⟩ | heq | heq | ⟨record, hrecord, hhash, heq⟩
    · rw [heq] at hnext
      cases hnext
      exact h
    · rw [heq] at hnext
      cases hnext
      exact ⟨h.records, List.forall_mem_cons.mpr ⟨hsent, h.calls⟩, h.replays⟩
    · rw [heq] at hnext
      cases hnext
      refine ⟨?_, List.forall_mem_cons.mpr ⟨hsent, h.calls⟩, h.replays⟩
      intro tenantId scopeKey record hrecord
      exact h.records tenantId scopeKey record (erase_some hrecord)
    · rw [heq] at hnext
      cases hnext
      obtain ⟨hfirst, hscope, hstored⟩ := h.records call.tenantId call.scopeKey record hrecord
      exact ⟨h.records, h.calls, List.forall_mem_cons.mpr ⟨⟨hfirst, hsent, hscope, hstored.symm.trans hhash⟩, h.replays⟩⟩

theorem StoredUnder.finish (h : StoredUnder stableRequestHash sent s) {index : Nat} {succeeded : Bool}
    (hnext : replayStep stableRequestHash s (.finish index succeeded) = some next) :
    StoredUnder stableRequestHash sent next := by
  simp only [replayStep] at hnext
  split at hnext
  · cases hnext
  · rename_i call hcall
    have hsent : sent call := h.calls call (List.mem_of_getElem? hcall)
    have hcalls (other : IdempotentCall) (hother : other ∈ s.calls.eraseIdx index) : sent other :=
      h.calls other (List.mem_of_mem_eraseIdx hother)
    split at hnext
    · cases hnext
      refine ⟨?_, hcalls, h.replays⟩
      intro tenantId scopeKey record hrecord
      rcases insert_some hrecord with ⟨hkey, rfl⟩ | ⟨-, hold⟩
      · cases hkey
        exact ⟨hsent, rfl, rfl⟩
      · exact h.records tenantId scopeKey record hold
    · cases hnext
      exact ⟨h.records, hcalls, h.replays⟩

def HashedDocument.content : HashedDocument → AdminBody
  | .body sent => sent
  | .emergency _ sent => sent

theorem IdempotentCall.document_content (call : IdempotentCall) : call.document.content = call.body := by
  unfold IdempotentCall.document
  split <;> rfl

/-- The body that both calls hash has one idempotency key, so their scope keys name one operation. -/
theorem sameOperation {first second : IdempotentCall} (hscope : first.scopeKey = second.scopeKey)
    (hbody : first.body = second.body) :
    first.handler = second.handler ∧ (first.handler.scopesResource → first.resourceId = second.resourceId) := by
  unfold IdempotentCall.scopeKey idempotencyScopeKey at hscope
  rw [hbody] at hscope
  exact AdminHandler.operation_inj (by simpa [toString] using hscope)

theorem sameTarget_iff {first second : IdempotentCall} (hscope : first.scopeKey = second.scopeKey)
    (hdocument : first.document = second.document) : SameTarget first second ↔ ¬ OtherApiKey first second := by
  have hbody : first.body = second.body := by
    rw [← first.document_content, ← second.document_content, hdocument]
  obtain ⟨hhandler, hresource⟩ := sameOperation hscope hbody
  constructor
  · rintro ⟨-, htarget⟩ ⟨-, hkey, hpath⟩
    simp only [List.mem_cons, List.not_mem_nil, or_false] at hkey
    unfold IdempotentCall.target at htarget
    rw [← hhandler] at htarget
    rcases hkey with heq | heq <;> simp [heq, hpath] at htarget
  · intro hother
    refine ⟨hhandler, ?_⟩
    unfold IdempotentCall.target
    rw [← hhandler]
    split
    · rw [hbody]
    · rename_i hrotate
      have hpath : first.pathId = second.pathId := by
        by_contra hne
        exact hother ⟨hhandler, by simp [hrotate], hne⟩
      rw [hpath]
    · rename_i hdisable
      have hpath : first.pathId = second.pathId := by
        by_contra hne
        exact hother ⟨hhandler, by simp [hdisable], hne⟩
      rw [hpath]
    · split
      · rename_i hscopes
        rw [hresource hscopes]
      · rfl

end Replays

/-- In every run, exactly the replays that cross from one API key to another have another target. -/
theorem replay_sameTarget_iff (stableRequestHash : HashedDocument → String) {actions : List ReplayAction}
    {final : ReplayRuntime}
    (hcollisions : Set.InjOn stableRequestHash {document | ∃ call, .lookUp call ∈ actions ∧ call.document = document})
    (hrun : run (replayStep stableRequestHash) .start actions = some final) :
    ∀ replay ∈ final.replays, SameTarget replay.1 replay.2 ↔ ¬ OtherApiKey replay.1 replay.2 := by
  let sent (call : IdempotentCall) : Prop := .lookUp call ∈ actions
  have hstep (s : ReplayRuntime) (action : ReplayAction) (next : ReplayRuntime)
      (h : StoredUnder stableRequestHash sent s) (hmem : action ∈ actions)
      (hnext : replayStep stableRequestHash s action = some next) : StoredUnder stableRequestHash sent next := by
    cases action with
    | lookUp call => exact h.lookUp hmem hnext
    | finish index succeeded => exact h.finish hnext
  have hstart : StoredUnder stableRequestHash sent .start :=
    ⟨fun _ _ _ hrecord => (Option.some_ne_none _ hrecord.symm).elim, by simp [ReplayRuntime.start],
      by simp [ReplayRuntime.start]⟩
  have hstored := run_invariant hstep hstart (meets_of_mem fun _ => id) hrun
  intro replay hreplay
  obtain ⟨hfirst, hsecond, hscope, hhash⟩ := hstored.replays replay hreplay
  exact sameTarget_iff hscope (hcollisions ⟨replay.1, hfirst, rfl⟩ ⟨replay.2, hsecond, rfl⟩ hhash)

/-- A call on one API key, under the idempotency key `key-1` and without a reason. -/
def apiKeyCall (handler : AdminHandler) (apiKeyId : String) (seconds : Int) : IdempotentCall :=
  ⟨"tenant_1", handler, apiKeyId, ⟨"key-1", [("reason", .null)]⟩, DateTime.addSeconds ⟨0⟩ seconds⟩

def idempotencyKeyOf (document : HashedDocument) : String := document.content.idempotencyKey

def rotatedTwice (first second : String) : List ReplayAction :=
  [.lookUp (apiKeyCall .rotateApiKeyAdmin first 0), .finish 0 true, .lookUp (apiKeyCall .rotateApiKeyAdmin second 60)]

theorem rotatedTwice_documents (first second : String) :
    {document | ∃ call, .lookUp call ∈ rotatedTwice first second ∧ call.document = document} =
      {.body ⟨"key-1", [("reason", .null)]⟩} := by
  ext document
  constructor
  · rintro ⟨call, hmem, rfl⟩
    simp only [rotatedTwice, List.mem_cons, ReplayAction.lookUp.injEq, reduceCtorEq, List.not_mem_nil, or_false,
      false_or] at hmem
    rcases hmem with rfl | rfl <;> rfl
  · rintro rfl
    exact ⟨_, List.mem_cons_self, rfl⟩

/-- The second rotation of one key is answered from the first. -/
theorem rotatedAgain_sameTarget :
    ∃ final, run (replayStep idempotencyKeyOf) .start (rotatedTwice "key_a" "key_a") = some final ∧
      final.replays = [(apiKeyCall .rotateApiKeyAdmin "key_a" 0, apiKeyCall .rotateApiKeyAdmin "key_a" 60)] ∧
      ∀ replay ∈ final.replays, SameTarget replay.1 replay.2 ↔ ¬ OtherApiKey replay.1 replay.2 := by
  obtain ⟨final, hrun, hreplays⟩ :
      ∃ final, run (replayStep idempotencyKeyOf) .start (rotatedTwice "key_a" "key_a") = some final ∧
        final.replays = [(apiKeyCall .rotateApiKeyAdmin "key_a" 0, apiKeyCall .rotateApiKeyAdmin "key_a" 60)] :=
    ⟨_, rfl, rfl⟩
  refine ⟨final, hrun, hreplays, replay_sameTarget_iff idempotencyKeyOf ?_ hrun⟩
  rw [rotatedTwice_documents]
  exact Set.injOn_singleton _ _

/-- The rotation of another key under the same idempotency key is answered from the first, and not made. -/
theorem rotatedOther_replayed :
    ∃ final, run (replayStep idempotencyKeyOf) .start (rotatedTwice "key_a" "key_b") = some final ∧
      final.calls = [] ∧
      final.replays = [(apiKeyCall .rotateApiKeyAdmin "key_a" 0, apiKeyCall .rotateApiKeyAdmin "key_b" 60)] ∧
      ∃ replay ∈ final.replays, ¬ SameTarget replay.1 replay.2 := by
  obtain ⟨final, hrun, hcalls, hreplays⟩ :
      ∃ final, run (replayStep idempotencyKeyOf) .start (rotatedTwice "key_a" "key_b") = some final ∧
        final.calls = [] ∧
        final.replays = [(apiKeyCall .rotateApiKeyAdmin "key_a" 0, apiKeyCall .rotateApiKeyAdmin "key_b" 60)] :=
    ⟨_, rfl, rfl, rfl⟩
  refine ⟨final, hrun, hcalls, hreplays, _, hreplays ▸ List.mem_singleton_self _, fun h => ?_⟩
  have htarget := h.2
  simp [IdempotentCall.target, apiKeyCall] at htarget

end Starweaver.Gateway
