import Starweaver.Library.Naming
import Starweaver.Gateway.CreateHandlers
import Starweaver.Gateway.Pricing

namespace Starweaver.Gateway

open Library Library.Calendar Library.Checks Library.Machine Library.Naming Library.SortBy Library.Text

structure NamedModelAlias extends ModelAliasRecord where
  projectId : Option String
  aliasName : String
  routePolicyId : Option String
  status : ResourceStatus
  resourceVersion : Int
deriving DecidableEq, Repr

structure VersionedPricingSku extends PricingSkuRecord where
  isPreset : Bool
  resourceVersion : Int

structure CreateModelAliasRequest where
  tenantId : String
  organizationId : Option String
  projectId : Option String
  aliasName : String
  protocolFamily : ProtocolFamily
  routePolicyId : Option String
deriving DecidableEq, Repr

structure CreatePricingSkuRequest where
  tenantId : String
  organizationId : Option String
  name : String
  currency : String
  unit : String
  modelIdPatterns : List String
  providerEndpointPatterns : List String
  pricingDocument : Json
  effectiveFrom : DateTime
  effectiveUntil : Option DateTime
  isPreset : Bool

/-- The organizations and projects with the four maps of named resources. -/
structure NamedStore where
  config : GatewayStore
  modelAliases : Index NamedModelAlias
  routingGroups : Index FamilyRoutingGroup
  routePolicies : Index RoutePolicyRecord
  pricingSkus : Index VersionedPricingSku

def validateOptionalProjectScope (store : GatewayStore) (tenantId : String) (organizationId projectId : Option String) :
    Result Unit := do
  validateOptionalOrganizationScope store tenantId organizationId
  match projectId with
  | none => .ok ()
  | some projectId =>
    match store.projects.lookup projectId with
    | none => .error (.notFound s!"project {projectId}")
    | some project =>
      if project.tenantId ≠ tenantId then .error (.authorization "project_tenant_mismatch")
      else if organizationId.any fun id => project.organizationId != id then
        .error (.badRequest "project_organization_mismatch")
      else .ok ()

def validCurrencyCode (value : String) : Bool :=
  value.utf8ByteSize == 3 && value.toList.all Char.isUpper

def validatePricingDocument (document : Json) (currency unit : String) : Result Unit :=
  match document with
  | .object _ =>
    if (document.get "schema").bind Json.asStr ≠ some "gateway.pricing.v1" then
      .error (.badRequest "pricing_document_schema_invalid")
    else if (document.get "currency").bind Json.asStr ≠ some currency then
      .error (.badRequest "pricing_document_currency_mismatch")
    else if (document.get "unit").bind Json.asStr ≠ some unit then
      .error (.badRequest "pricing_document_unit_mismatch")
    else if (document.get "tokens").isNone ∧ (document.get "flat_request_cost").isNone then
      .error (.badRequest "pricing_document_missing_price_components")
    else .ok ()
  | _ => .error (.badRequest "pricing_document_invalid")

namespace NamedStore

variable (store : NamedStore)

def modelAliasTaken (tenantId : String) (organizationId projectId : Option String) (aliasName : String) : Bool :=
  store.modelAliases.entries.any fun entry => entry.2.tenantId == tenantId &&
    entry.2.organizationId == organizationId && entry.2.projectId == projectId &&
    entry.2.aliasName == trim aliasName && entry.2.status != .deleted

def validateModelAliasRequest (request : CreateModelAliasRequest) : Result Unit := do
  validateOptionalProjectScope store.config request.tenantId request.organizationId request.projectId
  if trim request.aliasName = "" then .error (.badRequest "model_alias_name_required")
  else if request.routePolicyId.isSome then .error (.badRequest "model_alias_route_policy_must_bind_after_create")
  else if store.modelAliasTaken request.tenantId request.organizationId request.projectId request.aliasName then
    .error (.badRequest "model_alias_name_conflict")
  else .ok ()

def createModelAlias (request : CreateModelAliasRequest) (modelAliasId : String) : Result NamedStore := do
  store.validateModelAliasRequest request
  .ok { store with
    modelAliases := store.modelAliases.insert modelAliasId
      { modelAliasId, tenantId := request.tenantId, organizationId := request.organizationId,
        projectId := request.projectId, aliasName := trim request.aliasName,
        protocolFamily := request.protocolFamily, routePolicyId := request.routePolicyId, status := .active,
        resourceVersion := 1 } }

def routingGroupTaken (tenantId : String) (organizationId : Option String) (name : String) : Bool :=
  store.routingGroups.entries.any fun entry => entry.2.tenantId == tenantId &&
    entry.2.organizationId == organizationId && entry.2.name == trim name && entry.2.status != .deleted

def validateRoutingGroupRequest (tenantId : String) (organizationId : Option String) (name : String) :
    Result Unit := do
  validateOptionalOrganizationScope store.config tenantId organizationId
  if trim name = "" then .error (.badRequest "routing_group_name_required")
  else if store.routingGroupTaken tenantId organizationId name then .error (.badRequest "routing_group_name_conflict")
  else .ok ()

def createRoutingGroup (tenantId : String) (organizationId : Option String) (name : String)
    (protocolFamily : ProtocolFamily) (routingGroupId : String) : Result NamedStore := do
  store.validateRoutingGroupRequest tenantId organizationId name
  .ok { store with
    routingGroups := store.routingGroups.insert routingGroupId
      { routingGroupId, tenantId, organizationId, name := trim name, status := .active, resourceVersion := 1,
        protocolFamily } }

/-- The maps that a route policy is checked against. -/
def adminStore : AdminStore where
  config := store.config
  modelAliases := (store.modelAliases.entries.map fun entry => ⟨entry.1, entry.2.toModelAliasRecord⟩).toAList
  routingGroups := store.routingGroups
  modelTargets := ∅
  pricingSkus := ∅
  routePolicies := store.routePolicies
  providerGrants := ∅

def createRoutePolicy (tenantId : String) (request : AdminCreateRoutePolicyRequest) (createdBy routePolicyId : String) :
    Result NamedStore := do
  let (modelAlias, group, organizationId) ← validateRoutePolicyRequest store.adminStore tenantId request
  .ok { store with
    routePolicies := store.routePolicies.insert routePolicyId
      ⟨routePolicyId, tenantId, organizationId, trim request.name, modelAlias.protocolFamily, modelAlias.modelAliasId,
        group.routingGroupId, .active, 1, createdBy⟩ }

def pricingSkuTaken (tenantId : String) (organizationId : Option String) (name : String) : Bool :=
  store.pricingSkus.entries.any fun entry => entry.2.tenantId == tenantId &&
    entry.2.organizationId == organizationId && entry.2.name == trim name && entry.2.status != .deleted

def validatePricingSkuRequest (request : CreatePricingSkuRequest) : Result Unit := do
  validateOptionalOrganizationScope store.config request.tenantId request.organizationId
  if trim request.name = "" then .error (.badRequest "pricing_sku_name_required")
  else if !validCurrencyCode request.currency then .error (.badRequest "pricing_sku_currency_invalid")
  else if request.unit ≠ "micro_usd" then .error (.badRequest "pricing_sku_unit_invalid")
  else if request.modelIdPatterns = [] ∨ request.modelIdPatterns.any (trim · = "") then
    .error (.badRequest "pricing_sku_model_patterns_required")
  else if request.providerEndpointPatterns.any (trim · = "") then
    .error (.badRequest "pricing_sku_provider_patterns_invalid")
  else if request.effectiveUntil.any fun effectiveUntil => effectiveUntil ≤ request.effectiveFrom then
    .error (.badRequest "pricing_sku_effective_window_invalid")
  else do
    validatePricingDocument request.pricingDocument request.currency request.unit
    if store.pricingSkuTaken request.tenantId request.organizationId request.name then
      .error (.badRequest "pricing_sku_name_conflict")
    else .ok ()

def createPricingSku (request : CreatePricingSkuRequest) (pricingSkuId : String) : Result NamedStore := do
  store.validatePricingSkuRequest request
  .ok { store with
    pricingSkus := store.pricingSkus.insert pricingSkuId
      { pricingSkuId, tenantId := request.tenantId, organizationId := request.organizationId,
        name := trim request.name, currency := request.currency, unit := request.unit,
        modelIdPatterns := request.modelIdPatterns, providerEndpointPatterns := request.providerEndpointPatterns,
        pricingDocument := request.pricingDocument, pricingVersion := 1, effectiveFrom := request.effectiveFrom,
        effectiveUntil := request.effectiveUntil, status := .active, isPreset := request.isPreset,
        resourceVersion := 1 } }

end NamedStore

/-- An update under the expected version, in the map of one kind. -/
def updateVersioned {α : Type} (version : α → Int) (update : α → α) (label : String) (records : Index α) (id : String)
    (expectedVersion : Int) : Result (Index α) :=
  match records.lookup id with
  | none => .error (.notFound s!"{label} {id}")
  | some record =>
    if version record ≠ expectedVersion then .error (.badRequest "stale_resource_version")
    else .ok (records.insert id (update record))

namespace NamedStore

variable (store : NamedStore)

def validateModelAliasRoutePolicyBinding (modelAliasId routePolicyId : String) : Result Unit :=
  match store.modelAliases.lookup modelAliasId with
  | none => .error (.notFound s!"model alias {modelAliasId}")
  | some modelAlias =>
    match store.routePolicies.lookup routePolicyId with
    | none => .error (.notFound s!"route policy {routePolicyId}")
    | some policy =>
      if policy.tenantId ≠ modelAlias.tenantId then .error (.authorization "route_policy_tenant_mismatch")
      else if policy.modelAliasId ≠ modelAlias.modelAliasId then
        .error (.badRequest "route_policy_model_alias_mismatch")
      else if policy.protocolFamily ≠ modelAlias.protocolFamily then
        .error (.badRequest "route_policy_protocol_mismatch")
      else .ok ()

def checkRoutePolicyBinding (modelAliasId : String) : Option String → Result Unit
  | none => .ok ()
  | some routePolicyId => store.validateModelAliasRoutePolicyBinding modelAliasId routePolicyId

def updateModelAlias (modelAliasId : String) (expectedVersion : Int) (status : Option ResourceStatus)
    (routePolicyId : Option String) : Result NamedStore := do
  if status.isNone ∧ routePolicyId.isNone then .error (.badRequest "model_alias_update_empty")
  else do
    store.checkRoutePolicyBinding modelAliasId routePolicyId
    let modelAliases ← updateVersioned (·.resourceVersion)
      (fun record => { record with
        status := status.getD record.status
        routePolicyId := routePolicyId.or record.routePolicyId
        resourceVersion := record.resourceVersion + 1 })
      "model alias" store.modelAliases modelAliasId expectedVersion
    .ok { store with modelAliases }

def updateRoutingGroupStatus (routingGroupId : String) (expectedVersion : Int) (status : ResourceStatus) :
    Result NamedStore := do
  let routingGroups ← updateVersioned (·.resourceVersion)
    (fun record => { record with status, resourceVersion := record.resourceVersion + 1 })
    "routing group" store.routingGroups routingGroupId expectedVersion
  .ok { store with routingGroups }

def updateRoutePolicyStatus (routePolicyId : String) (expectedVersion : Int) (status : ResourceStatus) :
    Result NamedStore := do
  let routePolicies ← updateVersioned (·.resourceVersion)
    (fun record => { record with status, resourceVersion := record.resourceVersion + 1 })
    "route policy" store.routePolicies routePolicyId expectedVersion
  .ok { store with routePolicies }

def updatePricingSkuStatus (pricingSkuId : String) (expectedVersion : Int) (status : ResourceStatus) :
    Result NamedStore := do
  let pricingSkus ← updateVersioned (·.resourceVersion)
    (fun record => { record with status, resourceVersion := record.resourceVersion + 1 })
    "pricing SKU" store.pricingSkus pricingSkuId expectedVersion
  .ok { store with pricingSkus }

end NamedStore

inductive NamingCall
  | createModelAlias (request : CreateModelAliasRequest) (modelAliasId : String)
  | createRoutingGroup (tenantId : String) (organizationId : Option String) (name : String)
    (protocolFamily : ProtocolFamily) (routingGroupId : String)
  | createRoutePolicy (tenantId : String) (request : AdminCreateRoutePolicyRequest) (createdBy routePolicyId : String)
  | createPricingSku (request : CreatePricingSkuRequest) (pricingSkuId : String)
  | updateModelAlias (modelAliasId : String) (expectedVersion : Int) (status : Option ResourceStatus)
    (routePolicyId : Option String)
  | updateRoutingGroupStatus (routingGroupId : String) (expectedVersion : Int) (status : ResourceStatus)
  | updateRoutePolicyStatus (routePolicyId : String) (expectedVersion : Int) (status : ResourceStatus)
  | updatePricingSkuStatus (pricingSkuId : String) (expectedVersion : Int) (status : ResourceStatus)

namespace NamedStore

def perform (store : NamedStore) : NamingCall → Result NamedStore
  | .createModelAlias request modelAliasId => store.createModelAlias request modelAliasId
  | .createRoutingGroup tenantId organizationId name protocolFamily routingGroupId =>
    store.createRoutingGroup tenantId organizationId name protocolFamily routingGroupId
  | .createRoutePolicy tenantId request createdBy routePolicyId =>
    store.createRoutePolicy tenantId request createdBy routePolicyId
  | .createPricingSku request pricingSkuId => store.createPricingSku request pricingSkuId
  | .updateModelAlias modelAliasId expectedVersion status routePolicyId =>
    store.updateModelAlias modelAliasId expectedVersion status routePolicyId
  | .updateRoutingGroupStatus routingGroupId expectedVersion status =>
    store.updateRoutingGroupStatus routingGroupId expectedVersion status
  | .updateRoutePolicyStatus routePolicyId expectedVersion status =>
    store.updateRoutePolicyStatus routePolicyId expectedVersion status
  | .updatePricingSkuStatus pricingSkuId expectedVersion status =>
    store.updatePricingSkuStatus pricingSkuId expectedVersion status

/-- A call that fails leaves the store as it is. -/
def call (store : NamedStore) (request : NamingCall) : NamedStore :=
  match store.perform request with
  | .ok changed => changed
  | .error _ => store

end NamedStore

def isLive (status : ResourceStatus) : Bool := status != .deleted

/-- The kind's scope of a name, with the name. -/
def NamedModelAlias.scopedName (record : NamedModelAlias) : String × Option String × Option String × String :=
  (record.tenantId, record.organizationId, record.projectId, record.aliasName)

def FamilyRoutingGroup.scopedName (record : FamilyRoutingGroup) : String × Option String × String :=
  (record.tenantId, record.organizationId, record.name)

def RoutePolicyRecord.scopedName (record : RoutePolicyRecord) : String × Option String × String :=
  (record.tenantId, record.organizationId, record.name)

def VersionedPricingSku.scopedName (record : VersionedPricingSku) : String × Option String × String :=
  (record.tenantId, record.organizationId, record.name)

structure NamesUnique (store : NamedStore) : Prop where
  modelAliases : UniqueNames (isLive ·.status) NamedModelAlias.scopedName store.modelAliases
  routingGroups : UniqueNames (isLive ·.status) FamilyRoutingGroup.scopedName store.routingGroups
  routePolicies : UniqueNames (isLive ·.status) RoutePolicyRecord.scopedName store.routePolicies
  pricingSkus : UniqueNames (isLive ·.status) VersionedPricingSku.scopedName store.pricingSkus

def aliasConfig (record : NamedModelAlias) : ModelAliasConfig where
  modelAliasId := record.modelAliasId
  tenantId := record.tenantId
  organizationId := record.organizationId
  projectId := record.projectId
  aliasName := record.aliasName
  protocolFamily := record.protocolFamily
  routePolicyId := record.routePolicyId.getD ""
  status := record.status

def NamedStore.liveAliases (store : NamedStore) : List NamedModelAlias :=
  (store.modelAliases.entries.filter fun entry => isLive entry.2.status).map (·.2)

/-- A catalog whose aliases are live aliases of the store, in any order. -/
def BuiltFromLive (store : NamedStore) (catalog : GatewayCatalogSnapshot) : Prop :=
  catalog.modelAliases.Subperm (store.liveAliases.map aliasConfig)

/-- Names of live resources are unique, and no name of a catalog of live aliases is ambiguous. -/
def NamesResolve (store : NamedStore) : Prop :=
  NamesUnique store ∧ ∀ catalog, BuiltFromLive store catalog → ∀ actor aliasName message,
    catalog.resolveAlias actor aliasName ≠ .error (.badRequest message)

/-- The update finds no live bearer of the name that its record would be live under. -/
def LeavesNamesFree {α μ : Type} (version : α → Int) (status : α → ResourceStatus) (name : α → μ) (records : Index α)
    (id : String) (expectedVersion : Int) : Prop :=
  ∀ record, records.lookup id = some record → version record = expectedVersion →
    ¬ NameTaken (isLive <| status ·) name records id (name record)

def NameStaysFree (store : NamedStore) : NamingCall → Prop
  | .updateModelAlias modelAliasId expectedVersion (some status) routePolicyId =>
    status ≠ .deleted → store.checkRoutePolicyBinding modelAliasId routePolicyId = .ok () →
      LeavesNamesFree (·.resourceVersion) (·.status) NamedModelAlias.scopedName store.modelAliases modelAliasId
        expectedVersion
  | .updateRoutingGroupStatus routingGroupId expectedVersion status =>
    status ≠ .deleted → LeavesNamesFree (·.resourceVersion) (·.status) FamilyRoutingGroup.scopedName
      store.routingGroups routingGroupId expectedVersion
  | .updateRoutePolicyStatus routePolicyId expectedVersion status =>
    status ≠ .deleted → LeavesNamesFree (·.resourceVersion) (·.status) RoutePolicyRecord.scopedName
      store.routePolicies routePolicyId expectedVersion
  | .updatePricingSkuStatus pricingSkuId expectedVersion status =>
    status ≠ .deleted → LeavesNamesFree (·.resourceVersion) (·.status) VersionedPricingSku.scopedName
      store.pricingSkus pricingSkuId expectedVersion
  | _ => True

section Resolution

/-- For one actor, the score of an alias tells its scope. -/
theorem aliasScopeScore_scope {actor : AuthenticatedActor} {left right : ModelAliasConfig} {score : UInt8}
    (hleft : aliasScopeScore left actor = some score) (hright : aliasScopeScore right actor = some score) :
    left.organizationId = right.organizationId ∧ left.projectId = right.projectId := by
  unfold aliasScopeScore at hleft hright
  split at hleft
  · rename_i hscope
    cases hleft
    split at hright
    · rename_i hscope'
      exact ⟨hscope.2.1.trans hscope'.2.1.symm, hscope.1.trans hscope'.1.symm⟩
    · split_ifs at hright <;> cases hright
  split at hleft
  · rename_i hscope
    cases hleft
    split_ifs at hright with hthree htwo hone
    · cases hright
    · exact ⟨hscope.2.1.trans htwo.2.1.symm, (Option.isNone_iff_eq_none.mp hscope.1).trans
        (Option.isNone_iff_eq_none.mp htwo.1).symm⟩
    · cases hright
  split at hleft
  · rename_i hscope
    cases hleft
    split_ifs at hright with hthree htwo hone
    · cases hright
    · cases hright
    · exact ⟨(Option.isNone_iff_eq_none.mp hscope.2).trans (Option.isNone_iff_eq_none.mp hone.2).symm,
        (Option.isNone_iff_eq_none.mp hscope.1).trans (Option.isNone_iff_eq_none.mp hone.1).symm⟩
  · cases hleft

def SameScopedName (left right : ModelAliasConfig) : Prop :=
  left.tenantId = right.tenantId ∧ left.organizationId = right.organizationId ∧ left.projectId = right.projectId ∧
    left.aliasName = right.aliasName

theorem resolveAlias_unambiguous {catalog : GatewayCatalogSnapshot}
    (hunique : catalog.modelAliases.Pairwise fun left right => ¬ SameScopedName left right)
    (actor : AuthenticatedActor) (aliasName message : String) :
    catalog.resolveAlias actor aliasName ≠ .error (.badRequest message) := by
  set named := catalog.modelAliases.filter fun modelAlias =>
    modelAlias.tenantId == actor.tenantId && modelAlias.aliasName == aliasName with hnamed
  have hscopes : named.Pairwise fun left right =>
      ∀ score, aliasScopeScore left actor = some score → aliasScopeScore right actor ≠ some score := by
    refine List.Pairwise.imp_of_mem ?_ (hunique.sublist List.filter_sublist)
    intro left right hleft hright hdiffer score hscore hscore'
    simp only [hnamed, List.mem_filter, Bool.and_eq_true, beq_iff_eq] at hleft hright
    obtain ⟨horganization, hproject⟩ := aliasScopeScore_scope hscore hscore'
    exact hdiffer ⟨hleft.2.1.trans hright.2.1.symm, horganization, hproject, hleft.2.2.trans hright.2.2.symm⟩
  have hscores : (named.filterMap fun modelAlias =>
      (aliasScopeScore modelAlias actor).map fun score => (score, modelAlias)).Pairwise
        fun left right => left.1 ≠ right.1 := by
    refine hscopes.filterMap _ ?_
    rintro left right hdiffer ⟨score, _⟩ hleft ⟨score', _⟩ hright rfl
    obtain ⟨_, hscore, heq⟩ := Option.map_eq_some_iff.mp hleft
    obtain ⟨_, hscore', heq'⟩ := Option.map_eq_some_iff.mp hright
    cases heq
    cases heq'
    exact hdiffer _ hscore hscore'
  unfold GatewayCatalogSnapshot.resolveAlias
  simp only
  split
  · simp
  · rename_i bestScore bestAlias rest hsorted
    have hbest := (sortBy_perm (fun left right => compare right.1 left.1) _).pairwise_iff
      (fun {_ _} h => Ne.symm h) |>.mpr hscores
    rw [hsorted, List.pairwise_cons] at hbest
    have hnone : rest.any (fun entry => entry.1 == bestScore) = false := by
      rw [List.any_eq_false]
      intro entry hentry
      simpa using (hbest.1 entry hentry).symm
    rw [hnone]
    simp

theorem NamesUnique.resolve {store : NamedStore} (h : NamesUnique store) : NamesResolve store := by
  refine ⟨h, fun catalog hbuilt actor aliasName message => resolveAlias_unambiguous ?_ actor aliasName message⟩
  have hlive : (store.liveAliases.map aliasConfig).Pairwise fun left right => ¬ SameScopedName left right := by
    rw [NamedStore.liveAliases, List.map_map, List.pairwise_map]
    refine h.modelAliases.pairwise.imp fun {left right} hdiffer hsame => hdiffer ?_
    obtain ⟨htenant, horganization, hproject, hname⟩ := hsame
    exact Prod.ext htenant (Prod.ext horganization (Prod.ext hproject hname))
  obtain ⟨aliases, hperm, hsublist⟩ := hbuilt
  have hsymm {left right : ModelAliasConfig} (hdiffer : ¬ SameScopedName left right) : ¬ SameScopedName right left :=
    fun ⟨htenant, horganization, hproject, hname⟩ =>
      hdiffer ⟨htenant.symm, horganization.symm, hproject.symm, hname.symm⟩
  exact (hperm.pairwise_iff hsymm).mp (hlive.sublist hsublist)

end Resolution

section Steps

theorem updateVersioned_ok {α : Type} {version : α → Int} {update : α → α} {label id : String}
    {records changed : Index α} {expectedVersion : Int} :
    updateVersioned version update label records id expectedVersion = .ok changed ↔
      ∃ record, records.lookup id = some record ∧ version record = expectedVersion ∧
        changed = records.insert id (update record) := by
  unfold updateVersioned
  cases hlookup : records.lookup id with
  | none => simp
  | some record =>
    simp only [Option.some.injEq, exists_eq_left']
    split
    · simp_all
    · simp_all [eq_comm]

theorem isLive_iff {status : ResourceStatus} : isLive status = true ↔ status ≠ .deleted := by simp [isLive]

/-- An update that keeps the name keeps names unique just when the record would not be live under a taken name. -/
theorem uniqueNames_update_iff {α μ : Type} {version : α → Int} {status : α → ResourceStatus} {name : α → μ}
    {update : α → α} {label id : String} {records changed : Index α} {expectedVersion : Int}
    (hunique : UniqueNames (isLive <| status ·) name records)
    (hchanged : updateVersioned version update label records id expectedVersion = .ok changed)
    (hname : ∀ record, name (update record) = name record) :
    UniqueNames (isLive <| status ·) name changed ↔
      ∀ record, records.lookup id = some record → version record = expectedVersion →
        isLive (status (update record)) = true → ¬ NameTaken (isLive <| status ·) name records id (name record) := by
  obtain ⟨record, hrecord, hversion, rfl⟩ := updateVersioned_ok.mp hchanged
  rw [hunique.insert_iff, hname]
  constructor
  · intro hfree other hother _
    cases hrecord.symm.trans hother
    exact hfree
  · intro hfree
    exact hfree record hrecord hversion

theorem uniqueNames_status_iff {α μ : Type} {version : α → Int} {status : α → ResourceStatus} {name : α → μ}
    {update : α → α} {label id : String} {records changed : Index α} {expectedVersion : Int} {wanted : ResourceStatus}
    (hunique : UniqueNames (isLive <| status ·) name records)
    (hchanged : updateVersioned version update label records id expectedVersion = .ok changed)
    (hname : ∀ record, name (update record) = name record) (hstatus : ∀ record, status (update record) = wanted) :
    UniqueNames (isLive <| status ·) name changed ↔
      (wanted ≠ .deleted → LeavesNamesFree version status name records id expectedVersion) := by
  rw [uniqueNames_update_iff hunique hchanged hname]
  simp only [hstatus, isLive_iff]
  exact ⟨fun hfree hlive record hrecord hversion => hfree record hrecord hversion hlive,
    fun hfree record hrecord hversion hlive => hfree hlive record hrecord hversion⟩

theorem updateVersioned_error {α μ : Type} {version : α → Int} {update : α → α} {label id : String}
    {records : Index α} {expectedVersion : Int} {error : GatewayError}
    (herror : updateVersioned version update label records id expectedVersion = .error error)
    (status : α → ResourceStatus) (name : α → μ) :
    LeavesNamesFree version status name records id expectedVersion := by
  intro record hrecord hversion
  have hok : updateVersioned version update label records id expectedVersion =
      .ok (records.insert id (update record)) := updateVersioned_ok.mpr ⟨record, hrecord, hversion, rfl⟩
  rw [herror] at hok
  cases hok

variable {store changed : NamedStore}

theorem createModelAlias_unique {request : CreateModelAliasRequest} {modelAliasId : String} (h : NamesUnique store)
    (hok : store.createModelAlias request modelAliasId = .ok changed) : NamesUnique changed := by
  obtain ⟨hvalid, heq⟩ := bind_unit_ok.mp hok
  cases heq
  obtain ⟨-, hchecks⟩ := bind_unit_ok.mp hvalid
  simp only [refuses_ok] at hchecks
  obtain ⟨-, -, htaken, -⟩ := hchecks
  refine { h with modelAliases := h.modelAliases.insert_unused fun entry hentry hlive hname => ?_ }
  simp only [NamedModelAlias.scopedName, Prod.mk.injEq] at hname
  exact List.any_eq_false.mp (Bool.not_eq_true _ ▸ htaken) entry hentry (by simp [hname, isLive_iff.mp hlive])

theorem createRoutingGroup_unique {tenantId name routingGroupId : String} {organizationId : Option String}
    {protocolFamily : ProtocolFamily} (h : NamesUnique store)
    (hok : store.createRoutingGroup tenantId organizationId name protocolFamily routingGroupId = .ok changed) :
    NamesUnique changed := by
  obtain ⟨hvalid, heq⟩ := bind_unit_ok.mp hok
  cases heq
  obtain ⟨-, hchecks⟩ := bind_unit_ok.mp hvalid
  simp only [refuses_ok] at hchecks
  obtain ⟨-, htaken, -⟩ := hchecks
  refine { h with routingGroups := h.routingGroups.insert_unused fun entry hentry hlive hname => ?_ }
  simp only [FamilyRoutingGroup.scopedName, Prod.mk.injEq] at hname
  exact List.any_eq_false.mp (Bool.not_eq_true _ ▸ htaken) entry hentry (by simp [hname, isLive_iff.mp hlive])

theorem createRoutePolicy_unique {tenantId : String} {request : AdminCreateRoutePolicyRequest}
    {createdBy routePolicyId : String} (h : NamesUnique store)
    (hok : store.createRoutePolicy tenantId request createdBy routePolicyId = .ok changed) : NamesUnique changed := by
  obtain ⟨⟨modelAlias, group, organizationId⟩, hvalid, heq⟩ := bind_ok.mp hok
  cases heq
  obtain ⟨-, -, -, htaken⟩ := validateRoutePolicyRequest_ok hvalid
  refine { h with routePolicies := h.routePolicies.insert_unused fun entry hentry hlive hname => ?_ }
  simp only [RoutePolicyRecord.scopedName, Prod.mk.injEq] at hname
  exact List.any_eq_false.mp htaken entry hentry (by simp [hname, isLive_iff.mp hlive])

theorem createPricingSku_unique {request : CreatePricingSkuRequest} {pricingSkuId : String} (h : NamesUnique store)
    (hok : store.createPricingSku request pricingSkuId = .ok changed) : NamesUnique changed := by
  obtain ⟨hvalid, heq⟩ := bind_unit_ok.mp hok
  cases heq
  obtain ⟨-, hchecks⟩ := bind_unit_ok.mp hvalid
  simp only [refuses_ok] at hchecks
  obtain ⟨-, -, -, -, -, -, hchecks⟩ := hchecks
  obtain ⟨-, hchecks⟩ := bind_unit_ok.mp hchecks
  simp only [refuses_ok] at hchecks
  refine { h with pricingSkus := h.pricingSkus.insert_unused fun entry hentry hlive hname => ?_ }
  simp only [VersionedPricingSku.scopedName, Prod.mk.injEq] at hname
  exact List.any_eq_false.mp (Bool.not_eq_true _ ▸ hchecks.1) entry hentry (by simp [hname, isLive_iff.mp hlive])

theorem updateModelAlias_unique_iff {modelAliasId : String} {expectedVersion : Int} {status : Option ResourceStatus}
    {routePolicyId : Option String} (h : NamesUnique store)
    (hok : store.updateModelAlias modelAliasId expectedVersion status routePolicyId = .ok changed) :
    NamesUnique changed ↔ NameStaysFree store (.updateModelAlias modelAliasId expectedVersion status routePolicyId) := by
  unfold NamedStore.updateModelAlias at hok
  split at hok
  · cases hok
  obtain ⟨hbinding, hok⟩ := bind_unit_ok.mp hok
  obtain ⟨aliases, haliases, heq⟩ := bind_ok.mp hok
  cases heq
  have hiff := uniqueNames_update_iff h.modelAliases haliases fun _ => rfl
  have hothers : NamesUnique { store with modelAliases := aliases } ↔
      UniqueNames (isLive ·.status) NamedModelAlias.scopedName aliases :=
    ⟨(·.modelAliases), fun haliases => { h with modelAliases := haliases }⟩
  rw [hothers, hiff]
  cases status with
  | none =>
    refine iff_of_true (fun record hrecord _ hlive => ?_) trivial
    exact h.modelAliases.not_taken hrecord hlive
  | some status =>
    simp only [NameStaysFree, LeavesNamesFree, Option.getD_some, isLive_iff, hbinding, forall_const]
    exact ⟨fun hfree hstatus record hrecord hversion => hfree record hrecord hversion hstatus,
      fun hfree record hrecord hversion hstatus => hfree hstatus record hrecord hversion⟩

theorem updateRoutingGroupStatus_unique_iff {routingGroupId : String} {expectedVersion : Int} {status : ResourceStatus}
    (h : NamesUnique store) (hok : store.updateRoutingGroupStatus routingGroupId expectedVersion status = .ok changed) :
    NamesUnique changed ↔ NameStaysFree store (.updateRoutingGroupStatus routingGroupId expectedVersion status) := by
  obtain ⟨groups, hgroups, heq⟩ := bind_ok.mp hok
  cases heq
  have hothers : NamesUnique { store with routingGroups := groups } ↔
      UniqueNames (isLive ·.status) FamilyRoutingGroup.scopedName groups :=
    ⟨(·.routingGroups), fun hunique => { h with routingGroups := hunique }⟩
  exact hothers.trans (uniqueNames_status_iff h.routingGroups hgroups (fun _ => rfl) fun _ => rfl)

theorem updateRoutePolicyStatus_unique_iff {routePolicyId : String} {expectedVersion : Int} {status : ResourceStatus}
    (h : NamesUnique store) (hok : store.updateRoutePolicyStatus routePolicyId expectedVersion status = .ok changed) :
    NamesUnique changed ↔ NameStaysFree store (.updateRoutePolicyStatus routePolicyId expectedVersion status) := by
  obtain ⟨policies, hpolicies, heq⟩ := bind_ok.mp hok
  cases heq
  have hothers : NamesUnique { store with routePolicies := policies } ↔
      UniqueNames (isLive ·.status) RoutePolicyRecord.scopedName policies :=
    ⟨(·.routePolicies), fun hunique => { h with routePolicies := hunique }⟩
  exact hothers.trans (uniqueNames_status_iff h.routePolicies hpolicies (fun _ => rfl) fun _ => rfl)

theorem updatePricingSkuStatus_unique_iff {pricingSkuId : String} {expectedVersion : Int} {status : ResourceStatus}
    (h : NamesUnique store) (hok : store.updatePricingSkuStatus pricingSkuId expectedVersion status = .ok changed) :
    NamesUnique changed ↔ NameStaysFree store (.updatePricingSkuStatus pricingSkuId expectedVersion status) := by
  obtain ⟨skus, hskus, heq⟩ := bind_ok.mp hok
  cases heq
  have hothers : NamesUnique { store with pricingSkus := skus } ↔
      UniqueNames (isLive ·.status) VersionedPricingSku.scopedName skus :=
    ⟨(·.pricingSkus), fun hunique => { h with pricingSkus := hunique }⟩
  exact hothers.trans (uniqueNames_status_iff h.pricingSkus hskus (fun _ => rfl) fun _ => rfl)

theorem put_error {α : Type} {result : Result α} {put : α → NamedStore} {error : GatewayError}
    (herror : (do let records ← result; .ok (put records)) = Except.error error) : result = .error error := by
  cases result with
  | error other => exact congrArg Except.error (Except.error.inj herror)
  | ok records => cases herror

theorem perform_error {call : NamingCall} {error : GatewayError} (herror : store.perform call = .error error) :
    NameStaysFree store call := by
  cases call with
  | createModelAlias | createRoutingGroup | createRoutePolicy | createPricingSku => trivial
  | updateModelAlias modelAliasId expectedVersion status routePolicyId =>
    cases status with
    | none => trivial
    | some status =>
      intro _ hbinding
      simp only [NamedStore.perform, NamedStore.updateModelAlias, hbinding, Option.isNone_some, Bool.false_eq_true,
        false_and, if_false] at herror
      exact updateVersioned_error (put_error herror) _ _
  | updateRoutingGroupStatus => exact fun _ => updateVersioned_error (put_error herror) _ _
  | updateRoutePolicyStatus => exact fun _ => updateVersioned_error (put_error herror) _ _
  | updatePricingSkuStatus => exact fun _ => updateVersioned_error (put_error herror) _ _

theorem call_unique_iff (store : NamedStore) (request : NamingCall) (h : NamesUnique store) :
    NamesUnique (store.call request) ↔ NameStaysFree store request := by
  unfold NamedStore.call
  cases hperform : store.perform request with
  | error error => exact iff_of_true h (perform_error hperform)
  | ok changed =>
    cases request with
    | createModelAlias => exact iff_of_true (createModelAlias_unique h hperform) trivial
    | createRoutingGroup => exact iff_of_true (createRoutingGroup_unique h hperform) trivial
    | createRoutePolicy => exact iff_of_true (createRoutePolicy_unique h hperform) trivial
    | createPricingSku => exact iff_of_true (createPricingSku_unique h hperform) trivial
    | updateModelAlias => exact updateModelAlias_unique_iff h hperform
    | updateRoutingGroupStatus => exact updateRoutingGroupStatus_unique_iff h hperform
    | updateRoutePolicyStatus => exact updateRoutePolicyStatus_unique_iff h hperform
    | updatePricingSkuStatus => exact updatePricingSkuStatus_unique_iff h hperform

end Steps

/-- Names stay unique, and aliases resolvable, in every state of a run just when no status update of the run takes a
record back under a name that another live record has meanwhile. -/
theorem names_resolve_iff (start : NamedStore) (hstart : NamesUnique start) (calls : List NamingCall) :
    (∀ prior, prior <+: calls → NamesResolve (prior.foldl NamedStore.call start)) ↔
      Meets (fun store request => some (store.call request)) NameStaysFree start calls := by
  have hnames (store : NamedStore) : NamesResolve store ↔ NamesUnique store := ⟨And.left, NamesUnique.resolve⟩
  simp only [hnames]
  have hbase (store : NamedStore) (request : NamingCall) (_ : True) : True := trivial
  have hstep (store : NamedStore) (request : NamingCall) (_ : True) (h : NamesUnique store) :
      NamesUnique (store.call request) ↔ NameStaysFree store request := call_unique_iff store request h
  exact (meets_iff_always hbase hstep trivial hstart calls).symm

def NamedStore.empty : NamedStore := ⟨.empty, ∅, ∅, ∅, ∅⟩

theorem namesUnique_empty : NamesUnique NamedStore.empty :=
  ⟨uniqueNames_empty, uniqueNames_empty, uniqueNames_empty, uniqueNames_empty⟩

def chatAlias : CreateModelAliasRequest := ⟨"tenant_1", none, none, "chat", .openAiResponses, none⟩

/-- The alias is deleted and its name given to a second alias. -/
def renamedCalls : List NamingCall :=
  [.createModelAlias chatAlias "ma_1", .updateModelAlias "ma_1" 1 (some .deleted) none,
    .createModelAlias chatAlias "ma_2"]

theorem renamedCalls_resolve : NamesResolve (renamedCalls.foldl NamedStore.call .empty) := by
  refine (names_resolve_iff NamedStore.empty namesUnique_empty renamedCalls).mpr ?_ renamedCalls List.prefix_rfl
  refine .cons rfl trivial (.cons rfl ?_ (.cons rfl trivial trivial))
  intro hdeleted
  exact (hdeleted rfl).elim

/-- The calls of `renamedCalls`, and then the first alias is made active again. -/
def restoredCalls : List NamingCall := renamedCalls ++ [.updateModelAlias "ma_1" 2 (some .active) none]

theorem restoredAlias_ambiguous :
    NamesUnique .empty ∧ ∃ store catalog,
      restoredCalls.foldl NamedStore.call .empty = store ∧
      BuiltFromLive store catalog ∧
      catalog.resolveAlias tenantActor "chat" = .error (.badRequest "ambiguous model alias chat") ∧
      ¬ NamesResolve store := by
  have hbuilt : BuiltFromLive (restoredCalls.foldl NamedStore.call .empty)
      { twoEndpointCatalog with modelAliases := [
        ⟨"ma_1", "tenant_1", none, none, "chat", .openAiResponses, "", .active⟩,
        ⟨"ma_2", "tenant_1", none, none, "chat", .openAiResponses, "", .active⟩] } := (List.Perm.refl _).subperm
  refine ⟨namesUnique_empty, _, _, rfl, hbuilt, rfl, ?_⟩
  rintro ⟨-, hresolve⟩
  exact hresolve _ hbuilt tenantActor "chat" _ rfl

end Starweaver.Gateway
