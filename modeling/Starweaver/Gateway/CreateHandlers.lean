import Starweaver.Library.Checks
import Starweaver.Gateway.RouteEligibility
import Starweaver.Gateway.Idempotency

namespace Starweaver.Gateway

open Library.Calendar Library.Checks Library.Machine Library.Text

structure ModelAliasRecord where
  modelAliasId : String
  tenantId : String
  organizationId : Option String
  protocolFamily : ProtocolFamily
deriving DecidableEq, Repr

/-- A routing group with the protocol family that a route policy is checked against. -/
structure FamilyRoutingGroup extends RoutingGroupRecord where
  protocolFamily : ProtocolFamily
deriving DecidableEq, Repr

structure RoutePolicyRecord where
  routePolicyId : String
  tenantId : String
  organizationId : Option String
  name : String
  protocolFamily : ProtocolFamily
  modelAliasId : String
  routingGroupId : String
  status : ResourceStatus
  resourceVersion : Int
  createdBy : String
deriving DecidableEq, Repr

structure ProviderGrantRecord where
  providerGrantId : String
  tenantId : String
  scopeKind : String
  scopeId : String
  organizationId : Option String
  projectId : Option String
  resourceKind : String
  resourceId : String
  effect : String
  closureMode : String
  status : ResourceStatus
  resourceVersion : Int
  createdBy : String
deriving DecidableEq, Repr

/-- The maps that the create handlers read and write; model targets and pricing SKUs are listed with their tenant. -/
structure AdminStore where
  config : GatewayStore
  modelAliases : Index ModelAliasRecord
  routingGroups : Index FamilyRoutingGroup
  modelTargets : Index String
  pricingSkus : Index String
  routePolicies : Index RoutePolicyRecord
  providerGrants : Index ProviderGrantRecord

structure AdminCreateRoutePolicyRequest where
  idempotencyKey : String
  name : String
  modelAliasId : String
  routingGroupId : String
deriving DecidableEq, Repr

structure AdminCreateProviderGrantRequest where
  idempotencyKey : String
  scopeKind : String
  scopeId : String
  resourceKind : String
  resourceId : String
  effect : String
  closureMode : String
deriving DecidableEq, Repr

structure AdminPublishConfigSnapshotRequest where
  idempotencyKey : String
  payload : ConfigPayload
deriving DecidableEq

/-- A validation error: the field and its code. -/
abbrev ValidationError := String × String

def rejectValidationErrors (errors : List ValidationError) : Result Unit :=
  if errors = [] then .ok () else .error (.badRequest "validation_failed")

def createdBy (actor : AuthenticatedActor) : String := actor.principalId.getD actor.actorId

section RoutePolicies

variable (store : AdminStore)

def AdminStore.routePolicyTaken (tenantId : String) (organizationId : Option String) (name : String) : Bool :=
  store.routePolicies.entries.any fun entry => entry.2.tenantId == tenantId &&
    entry.2.organizationId == organizationId && entry.2.name == trim name && entry.2.status != .deleted

def routePolicyValidationErrors (tenantId : String) (request : AdminCreateRoutePolicyRequest) : List ValidationError :=
  let modelAlias := (store.modelAliases.lookup request.modelAliasId).filter (·.tenantId == tenantId)
  let group := (store.routingGroups.lookup request.routingGroupId).filter (·.tenantId == tenantId)
  (if trim request.name = "" then [("name", "required")] else []) ++
  (if modelAlias.isNone then [("model_alias_id", "unknown_model_alias")] else []) ++
  (if group.isNone then [("routing_group_id", "unknown_routing_group")] else []) ++
  match modelAlias, group with
  | some modelAlias, some group =>
    (if modelAlias.protocolFamily ≠ group.protocolFamily then [("routing_group_id", "protocol_family_mismatch")]
      else []) ++
    (if modelAlias.organizationId.isSome ∧ group.organizationId.isSome ∧
        modelAlias.organizationId ≠ group.organizationId then [("routing_group_id", "organization_mismatch")] else []) ++
    (if store.routePolicyTaken tenantId (modelAlias.organizationId.or group.organizationId) request.name then
      [("name", "duplicate_name")] else [])
  | _, _ => []

def validateRoutePolicyRequest (tenantId : String) (request : AdminCreateRoutePolicyRequest) :
    Result (ModelAliasRecord × FamilyRoutingGroup × Option String) :=
  if trim request.name = "" then .error (.badRequest "route_policy_name_required")
  else match store.modelAliases.lookup request.modelAliasId with
  | none => .error (.notFound s!"model alias {request.modelAliasId}")
  | some modelAlias =>
    if modelAlias.tenantId ≠ tenantId then .error (.authorization "model_alias_tenant_mismatch")
    else match store.routingGroups.lookup request.routingGroupId with
    | none => .error (.notFound s!"routing group {request.routingGroupId}")
    | some group =>
      if group.tenantId ≠ tenantId then .error (.authorization "routing_group_tenant_mismatch")
      else if modelAlias.protocolFamily ≠ group.protocolFamily then
        .error (.badRequest "route_policy_protocol_mismatch")
      else if modelAlias.organizationId.isSome ∧ group.organizationId.isSome ∧
          modelAlias.organizationId ≠ group.organizationId then .error (.badRequest "route_policy_organization_mismatch")
      else
        let organizationId := modelAlias.organizationId.or group.organizationId
        if store.routePolicyTaken tenantId organizationId request.name then
          .error (.badRequest "route_policy_name_conflict")
        else .ok (modelAlias, group, organizationId)

def createRoutePolicy (request : AdminCreateRoutePolicyRequest) (caller : CreateCaller) :
    Result (RoutePolicyRecord × AdminStore) := do
  let tenantId := caller.actor.tenantId
  rejectValidationErrors (routePolicyValidationErrors store tenantId request)
  let (modelAlias, group, organizationId) ← validateRoutePolicyRequest store tenantId request
  let record : RoutePolicyRecord :=
    ⟨caller.resourceId, tenantId, organizationId, trim request.name, modelAlias.protocolFamily, modelAlias.modelAliasId,
      group.routingGroupId, .active, 1, createdBy caller.actor⟩
  .ok (record, { store with routePolicies := store.routePolicies.insert caller.resourceId record })

end RoutePolicies

section ProviderGrants

variable (store : AdminStore) (tenantId : String) (request : AdminCreateProviderGrantRequest)

def AdminStore.providerGrantTaken : Bool :=
  store.providerGrants.entries.any fun entry => entry.2.tenantId == tenantId &&
    entry.2.scopeKind == request.scopeKind && entry.2.scopeId == request.scopeId &&
    entry.2.resourceKind == request.resourceKind && entry.2.resourceId == request.resourceId &&
    entry.2.effect == request.effect && entry.2.status != .deleted

/-- Whether the resource of a grant is one of the tenant, or nothing for an unknown kind. -/
def AdminStore.grantResourceFound : Option Bool :=
  if request.resourceKind = "model_alias" then
    some ((store.modelAliases.lookup request.resourceId).any (·.tenantId == tenantId))
  else if request.resourceKind = "route_policy" then
    some ((store.routePolicies.lookup request.resourceId).any (·.tenantId == tenantId))
  else if request.resourceKind = "routing_group" then
    some ((store.routingGroups.lookup request.resourceId).any (·.tenantId == tenantId))
  else if request.resourceKind = "model_target" then
    some ((store.modelTargets.lookup request.resourceId).any (· == tenantId))
  else if request.resourceKind = "provider_endpoint" then
    some ((store.config.providerEndpoints.lookup request.resourceId).any (·.tenantId == tenantId))
  else if request.resourceKind = "pricing_sku" then
    some ((store.pricingSkus.lookup request.resourceId).any (· == tenantId))
  else none

def validateProviderGrantScopeFields : List ValidationError :=
  if request.scopeKind = "organization" then
    if (store.config.organizations.lookup request.scopeId).any (· == tenantId) then []
    else [("scope_id", "unknown_organization")]
  else if request.scopeKind = "project" then
    if (store.config.projects.lookup request.scopeId).any (·.tenantId == tenantId) then []
    else [("scope_id", "unknown_project")]
  else [("scope_kind", "invalid_scope_kind")]

def validateProviderGrantResourceFields : List ValidationError :=
  match store.grantResourceFound tenantId request with
  | none => [("resource_kind", "invalid_resource_kind")]
  | some true => []
  | some false => [("resource_id", "unknown_resource")]

def validateProviderGrantEffectFields : List ValidationError :=
  (if request.effect ∈ ["allow", "deny"] then [] else [("effect", "invalid_effect")]) ++
  (if request.closureMode ∈ ["self_only", "include_descendants", "deny_descendants"] then []
    else [("closure_mode", "invalid_closure_mode")]) ++
  (if request.effect = "allow" ∧ request.closureMode = "deny_descendants" then
    [("closure_mode", "allow_deny_descendants")] else []) ++
  (if request.effect = "deny" ∧ request.closureMode = "include_descendants" then
    [("closure_mode", "deny_include_descendants")] else [])

def providerGrantValidationErrors : List ValidationError :=
  validateProviderGrantScopeFields store tenantId request ++ validateProviderGrantResourceFields store tenantId request ++
    validateProviderGrantEffectFields request ++
    if store.providerGrantTaken tenantId request then [("resource_id", "duplicate_grant")] else []

def validateProviderGrantScope : Result (Option String × Option String) :=
  if request.scopeKind = "organization" then
    match store.config.organizations.lookup request.scopeId with
    | none => .error (.notFound s!"organization {request.scopeId}")
    | some owner =>
      if owner ≠ tenantId then .error (.authorization "provider_grant_scope_tenant_mismatch")
      else .ok (some request.scopeId, none)
  else if request.scopeKind = "project" then
    match store.config.projects.lookup request.scopeId with
    | none => .error (.notFound s!"project {request.scopeId}")
    | some project =>
      if project.tenantId ≠ tenantId then .error (.authorization "provider_grant_scope_tenant_mismatch")
      else .ok (some project.organizationId, some request.scopeId)
  else .error (.badRequest "provider_grant_scope_kind_invalid")

def validateProviderGrantResource : Result Unit :=
  match store.grantResourceFound tenantId request with
  | none => .error (.badRequest "provider_grant_resource_kind_invalid")
  | some true => .ok ()
  | some false =>
    let kind := request.resourceKind.map fun c => if c = '_' then ' ' else c
    .error (.notFound s!"{kind} {request.resourceId}")

def validateProviderGrantEffect : Result Unit :=
  if request.effect ∉ ["allow", "deny"] then .error (.badRequest "provider_grant_effect_invalid")
  else if request.closureMode ∉ ["self_only", "include_descendants", "deny_descendants"] then
    .error (.badRequest "provider_grant_closure_mode_invalid")
  else if request.effect = "allow" ∧ request.closureMode = "deny_descendants" then
    .error (.badRequest "provider_grant_allow_deny_descendants_invalid")
  else if request.effect = "deny" ∧ request.closureMode = "include_descendants" then
    .error (.badRequest "provider_grant_deny_include_descendants_invalid")
  else .ok ()

def validateProviderGrantRequest : Result (Option String × Option String) := do
  let scope ← validateProviderGrantScope store tenantId request
  validateProviderGrantResource store tenantId request
  validateProviderGrantEffect request
  if store.providerGrantTaken tenantId request then .error (.badRequest "provider_grant_conflict") else .ok scope

def createProviderGrant (caller : CreateCaller) : Result (ProviderGrantRecord × AdminStore) := do
  let tenantId := caller.actor.tenantId
  rejectValidationErrors (providerGrantValidationErrors store tenantId request)
  let (organizationId, projectId) ← validateProviderGrantRequest store tenantId request
  let record : ProviderGrantRecord :=
    ⟨caller.resourceId, tenantId, request.scopeKind, request.scopeId, organizationId, projectId, request.resourceKind,
      request.resourceId, request.effect, request.closureMode, .active, 1, createdBy caller.actor⟩
  .ok (record, { store with providerGrants := store.providerGrants.insert caller.resourceId record })

end ProviderGrants

inductive CreatedResource
  | routePolicy (record : RoutePolicyRecord)
  | providerGrant (record : ProviderGrantRecord)
  | configSnapshot (snapshot : PublishedConfigSnapshot)
deriving DecidableEq

inductive CreateRequest
  | routePolicy (request : AdminCreateRoutePolicyRequest)
  | providerGrant (request : AdminCreateProviderGrantRequest)
  | publishConfigSnapshot (request : AdminPublishConfigSnapshotRequest)
deriving DecidableEq

namespace CreateRequest

def scopeKey : CreateRequest → String
  | .routePolicy request => idempotencyScopeKey "route_policies:create" request.idempotencyKey
  | .providerGrant request => idempotencyScopeKey "provider_grants:create" request.idempotencyKey
  | .publishConfigSnapshot request => idempotencyScopeKey "config_snapshots:publish" request.idempotencyKey

def mutation (env : GatewayEnv) (request : CreateRequest) (caller : CreateCaller) (store : AdminStore) :
    Result (CreatedResource × AdminStore) :=
  match request with
  | .routePolicy request => do
    let (record, store) ← createRoutePolicy store request caller
    .ok (.routePolicy record, store)
  | .providerGrant request => do
    let (record, store) ← createProviderGrant store request caller
    .ok (.providerGrant record, store)
  | .publishConfigSnapshot request => do
    let (snapshot, config) ←
      Gateway.publishConfigSnapshot store.config env caller.actor.tenantId request.payload caller.resourceId
    .ok (.configSnapshot snapshot, { store with config := config })

/-- The identical requests of one tenant, with the hash of their body. -/
def family (env : GatewayEnv) (stableRequestHash : CreateRequest → String) (tenantId : String)
    (request : CreateRequest) : CreateFamily AdminStore CreatedResource :=
  ⟨tenantId, request.scopeKey, stableRequestHash request, request.mutation env⟩

end CreateRequest

section Refused

variable {store changed : AdminStore} {caller : CreateCaller}

theorem validateRoutePolicyRequest_ok {tenantId : String} {request : AdminCreateRoutePolicyRequest}
    {modelAlias : ModelAliasRecord} {group : FamilyRoutingGroup} {organizationId : Option String}
    (h : validateRoutePolicyRequest store tenantId request = .ok (modelAlias, group, organizationId)) :
    store.modelAliases.lookup request.modelAliasId = some modelAlias ∧
      store.routingGroups.lookup request.routingGroupId = some group ∧
      organizationId = modelAlias.organizationId.or group.organizationId ∧
      store.routePolicyTaken tenantId organizationId request.name = false := by
  unfold validateRoutePolicyRequest at h
  split at h
  · cases h
  · split at h
    · cases h
    · rename_i found halias
      split at h
      · cases h
      · split at h
        · cases h
        · rename_i foundGroup hgroup
          simp only at h
          split at h
          · cases h
          · split at h
            · cases h
            · split at h
              · cases h
              · split at h
                · cases h
                · rename_i htaken
                  cases h
                  exact ⟨halias, hgroup, rfl, by simpa using htaken⟩

theorem createRoutePolicy_ok {request : AdminCreateRoutePolicyRequest} {record : RoutePolicyRecord}
    (h : createRoutePolicy store request caller = .ok (record, changed)) :
    ∃ modelAlias group, store.modelAliases.lookup request.modelAliasId = some modelAlias ∧
      store.routingGroups.lookup request.routingGroupId = some group ∧
      store.routePolicyTaken caller.actor.tenantId (modelAlias.organizationId.or group.organizationId)
        request.name = false ∧
      record.tenantId = caller.actor.tenantId ∧
      record.organizationId = modelAlias.organizationId.or group.organizationId ∧
      record.name = trim request.name ∧ record.status = .active ∧
      changed = { store with routePolicies := store.routePolicies.insert caller.resourceId record } := by
  obtain ⟨_, -, h⟩ := bind_ok.mp h
  obtain ⟨⟨modelAlias, group, organizationId⟩, hvalid, h⟩ := bind_ok.mp h
  obtain ⟨halias, hgroup, rfl, htaken⟩ := validateRoutePolicyRequest_ok hvalid
  cases h
  exact ⟨modelAlias, group, halias, hgroup, htaken, rfl, rfl, rfl, rfl, rfl⟩

/-- The name of a created route policy is taken in its organization. -/
theorem createRoutePolicy_twice {request : AdminCreateRoutePolicyRequest} {record again : RoutePolicyRecord}
    {other : CreateCaller} {final : AdminStore} (htenant : other.actor.tenantId = caller.actor.tenantId)
    (h : createRoutePolicy store request caller = .ok (record, changed)) :
    createRoutePolicy changed request other ≠ .ok (again, final) := by
  intro hagain
  obtain ⟨modelAlias, group, halias, hgroup, -, howner, horganization, hname, hstatus, rfl⟩ := createRoutePolicy_ok h
  obtain ⟨modelAlias', group', halias', hgroup', htaken, -⟩ := createRoutePolicy_ok hagain
  cases halias.symm.trans halias'
  cases hgroup.symm.trans hgroup'
  simp [AdminStore.routePolicyTaken, htenant, howner, horganization, hname, hstatus] at htaken

theorem createProviderGrant_ok {request : AdminCreateProviderGrantRequest} {record : ProviderGrantRecord}
    (h : createProviderGrant store request caller = .ok (record, changed)) :
    store.providerGrantTaken caller.actor.tenantId request = false ∧
      record.tenantId = caller.actor.tenantId ∧ record.scopeKind = request.scopeKind ∧
      record.scopeId = request.scopeId ∧ record.resourceKind = request.resourceKind ∧
      record.resourceId = request.resourceId ∧ record.effect = request.effect ∧ record.status = .active ∧
      changed = { store with providerGrants := store.providerGrants.insert caller.resourceId record } := by
  obtain ⟨_, -, h⟩ := bind_ok.mp h
  obtain ⟨⟨organizationId, projectId⟩, hvalid, h⟩ := bind_ok.mp h
  obtain ⟨scope, -, hvalid⟩ := bind_ok.mp hvalid
  obtain ⟨_, -, hvalid⟩ := bind_ok.mp hvalid
  obtain ⟨_, -, hvalid⟩ := bind_ok.mp hvalid
  split at hvalid
  · cases hvalid
  · rename_i htaken
    cases h
    exact ⟨by simpa using htaken, rfl, rfl, rfl, rfl, rfl, rfl, rfl, rfl⟩

theorem createProviderGrant_twice {request : AdminCreateProviderGrantRequest} {record again : ProviderGrantRecord}
    {other : CreateCaller} {final : AdminStore} (htenant : other.actor.tenantId = caller.actor.tenantId)
    (h : createProviderGrant store request caller = .ok (record, changed)) :
    createProviderGrant changed request other ≠ .ok (again, final) := by
  intro hagain
  obtain ⟨-, howner, hscopeKind, hscopeId, hkind, hid, heffect, hstatus, rfl⟩ := createProviderGrant_ok h
  obtain ⟨htaken, -⟩ := createProviderGrant_ok hagain
  simp [AdminStore.providerGrantTaken, htenant, howner, hscopeKind, hscopeId, hkind, hid, heffect, hstatus] at htaken

end Refused

section Families

variable (env : GatewayEnv) (stableRequestHash : CreateRequest → String) (tenantId : String)

/-- No caller of the tenant can perform the request on the store. -/
def CreateRequest.Refused (request : CreateRequest) (store : AdminStore) : Prop :=
  ∀ caller resource changed, caller.actor.tenantId = tenantId →
    request.mutation env caller store ≠ .ok (resource, changed)

theorem routePolicy_refusesSecond (request : AdminCreateRoutePolicyRequest) :
    RefusesSecond ((CreateRequest.routePolicy request).family env stableRequestHash tenantId)
      (CreateRequest.Refused env tenantId (.routePolicy request)) := by
  refine ⟨?_, fun caller store resource changed htenant hrefused => hrefused caller resource changed htenant⟩
  intro caller store resource changed htenant hmutation other again final hother hagain
  obtain ⟨⟨record, _⟩, hcreate, heq⟩ := bind_ok.mp hmutation
  obtain ⟨⟨second, _⟩, hsecond, heq'⟩ := bind_ok.mp hagain
  cases heq
  exact createRoutePolicy_twice (hother.trans htenant.symm) hcreate hsecond

theorem providerGrant_refusesSecond (request : AdminCreateProviderGrantRequest) :
    RefusesSecond ((CreateRequest.providerGrant request).family env stableRequestHash tenantId)
      (CreateRequest.Refused env tenantId (.providerGrant request)) := by
  refine ⟨?_, fun caller store resource changed htenant hrefused => hrefused caller resource changed htenant⟩
  intro caller store resource changed htenant hmutation other again final hother hagain
  obtain ⟨⟨record, _⟩, hcreate, heq⟩ := bind_ok.mp hmutation
  obtain ⟨⟨second, _⟩, hsecond, heq'⟩ := bind_ok.mp hagain
  cases heq
  exact createProviderGrant_twice (hother.trans htenant.symm) hcreate hsecond

end Families

/-- A publication is only looked up while no identical one is in progress. -/
def CreatedApart (request : CreateRequest) (s : CreateRuntime AdminStore CreatedResource)
    (action : CreateAction CreatedResource) : Prop :=
  match request with
  | .publishConfigSnapshot _ => LookedUpApart s action
  | .routePolicy _ | .providerGrant _ => True

theorem identicalCreates_executedOnce (env : GatewayEnv) (stableRequestHash : CreateRequest → String)
    (tenantId : String) (request : CreateRequest) {start final : CreateRuntime AdminStore CreatedResource}
    {actions : List (CreateAction CreatedResource)}
    (hstart : CreateStart (request.family env stableRequestHash tenantId) start)
    (hmeets : Meets (createStep (request.family env stableRequestHash tenantId)) (CreatedApart request) start actions)
    (hrun : run (createStep (request.family env stableRequestHash tenantId)) start actions = some final) :
    ExecutedOnce final := by
  cases request with
  | routePolicy request =>
    exact executedOnce_of_refusing (routePolicy_refusesSecond env stableRequestHash tenantId request) hstart hrun
  | providerGrant request =>
    exact executedOnce_of_refusing (providerGrant_refusesSecond env stableRequestHash tenantId request) hstart hrun
  | publishConfigSnapshot request => exact executedOnce_of_apart hstart hmeets hrun

def emptyPublication : CreateRequest := .publishConfigSnapshot ⟨"key-1", ⟨none, none⟩⟩

def publicationFamily : CreateFamily AdminStore CreatedResource :=
  emptyPublication.family ⟨httpUri, fun _ => .ok (), fun key _ => key⟩ (fun _ => "hash") "tenant_1"

def nothingCreated : CreateRuntime AdminStore CreatedResource :=
  ⟨⟨.empty, ∅, ∅, ∅, ∅, ∅, ∅⟩, ∅, [], ⟨0⟩, [], []⟩

def publisher (snapshotId : String) (seconds : Int) : CreateCaller :=
  ⟨tenantActor, DateTime.addSeconds ⟨0⟩ seconds, snapshotId⟩

def publishedAs (snapshotId : String) (version : Int) : CreatedResource :=
  .configSnapshot ⟨snapshotId, "tenant_1", version, ⟨none, none⟩, none⟩

theorem nothingCreated_start : CreateStart publicationFamily nothingCreated :=
  ⟨fun _ hrecord => (Option.some_ne_none _ hrecord.symm).elim, rfl, rfl, rfl⟩

def publishedInTurn : List (CreateAction CreatedResource) :=
  [.lookUp (publisher "cfg_1" 0), .perform (publisher "cfg_1" 0),
    .record (publisher "cfg_1" 0) (publishedAs "cfg_1" 1), .lookUp (publisher "cfg_2" 60)]

theorem publishedInTurn_apart :
    Meets (createStep publicationFamily) (CreatedApart emptyPublication) nothingCreated publishedInTurn := by
  refine Meets.cons rfl ⟨rfl, by decide⟩ ?_
  refine Meets.cons rfl trivial ?_
  refine Meets.cons rfl trivial ?_
  exact Meets.cons rfl ⟨rfl, by decide⟩ trivial

/-- The second caller looks up after the first has recorded, and gets the first's snapshot. -/
theorem publishedInTurn_executedOnce :
    ∃ final, run (createStep publicationFamily) nothingCreated publishedInTurn = some final ∧
      final.answered.map Prod.snd = [publishedAs "cfg_1" 1, publishedAs "cfg_1" 1] ∧ ExecutedOnce final := by
  obtain ⟨final, hrun, hanswered⟩ :
      ∃ final, run (createStep publicationFamily) nothingCreated publishedInTurn = some final ∧
        final.answered.map Prod.snd = [publishedAs "cfg_1" 1, publishedAs "cfg_1" 1] := ⟨_, rfl, rfl⟩
  refine ⟨final, hrun, hanswered, ?_⟩
  exact identicalCreates_executedOnce ⟨httpUri, fun _ => .ok (), fun key _ => key⟩ (fun _ => "hash") "tenant_1"
    emptyPublication nothingCreated_start publishedInTurn_apart hrun

/-- Two callers look up before either of them records, and each of them publishes. -/
theorem publishedTogether_executesTwice :
    CreateStart publicationFamily nothingCreated ∧ ∃ final, run (createStep publicationFamily) nothingCreated
      [.lookUp (publisher "cfg_1" 0), .lookUp (publisher "cfg_2" 0), .perform (publisher "cfg_1" 0),
        .perform (publisher "cfg_2" 0), .record (publisher "cfg_1" 0) (publishedAs "cfg_1" 1),
        .record (publisher "cfg_2" 0) (publishedAs "cfg_2" 2)] = some final ∧
      final.executed = [(⟨0⟩, publishedAs "cfg_2" 2), (⟨0⟩, publishedAs "cfg_1" 1)] ∧
      final.answered = [(⟨0⟩, publishedAs "cfg_2" 2), (⟨0⟩, publishedAs "cfg_1" 1)] ∧ ¬ ExecutedOnce final := by
  refine ⟨nothingCreated_start, _, rfl, rfl, rfl, fun h => ?_⟩
  have htogether := List.rel_of_pairwise_cons h.apart (List.mem_singleton_self _)
  revert htogether
  unfold TtlApart
  decide

end Starweaver.Gateway
