import Starweaver.Library.Checks
import Starweaver.Library.OrderedMap
import Starweaver.Platform.Domain

namespace Starweaver.Platform

open Library.AssocMap Library.Checks Library.OrderedMap

inductive PlatformRoleBindingStatus
  | active
  | disabled
  | deleted
deriving DecidableEq, Repr

def PlatformRoleBindingStatus.fromId (value : String) : Option PlatformRoleBindingStatus :=
  if value = "active" then some .active
  else if value = "disabled" then some .disabled
  else if value = "deleted" then some .deleted
  else none

structure PlatformRoleBindingRecord where
  roleBindingId : String
  tenantId : String
  organizationId : Option String
  projectId : Option String
  principalId : String
  roleId : String
  status : PlatformRoleBindingStatus
  resourceVersion : Int
deriving DecidableEq, Repr

def PlatformRoleBindingRecord.builtInRole (record : PlatformRoleBindingRecord) : Option BuiltInRole :=
  BuiltInRole.fromId record.roleId

inductive PlatformRoleBindingError
  | invalidRoleBindingId
  | invalidTenantId
  | invalidOrganizationId
  | invalidProjectId
  | invalidPrincipalId
  | invalidRoleId
  | invalidScope
  | invalidStatus
  | staleResourceVersion
deriving DecidableEq, Repr

def PlatformRoleBindingError.asStr : PlatformRoleBindingError → String
  | .invalidRoleBindingId => "role_binding_id_invalid"
  | .invalidTenantId => "tenant_id_invalid"
  | .invalidOrganizationId => "organization_id_invalid"
  | .invalidProjectId => "project_id_invalid"
  | .invalidPrincipalId => "principal_id_invalid"
  | .invalidRoleId => "role_id_invalid"
  | .invalidScope => "role_binding_scope_invalid"
  | .invalidStatus => "role_binding_status_invalid"
  | .staleResourceVersion => "stale_resource_version"

def roleBindingErrorToService (error : PlatformRoleBindingError) : ServiceError := .badRequest error.asStr

section Validation

def validatePrefixed {ε : Type} (value start : String) (error : ε) : Except ε Unit :=
  if startsWith value start ∧ start.utf8ByteSize < value.utf8ByteSize then .ok () else .error error

def validateOptional {ε : Type} (value : Option String) (start : String) (error : ε) : Except ε Unit :=
  match value with
  | none => .ok ()
  | some value => validatePrefixed value start error

def validateScopeShape (role : BuiltInRole) (organizationId projectId : Option String) :
    Except PlatformRoleBindingError Unit :=
  match role.scopeKind, organizationId, projectId with
  | .tenant, none, none => .ok ()
  | .organization, some _, none => .ok ()
  | .project, some _, some _ => .ok ()
  | .any, none, some _ => .error .invalidScope
  | .any, _, _ => .ok ()
  | _, _, _ => .error .invalidScope

def validateRoleBinding (record : PlatformRoleBindingRecord) : Except PlatformRoleBindingError Unit := do
  validatePrefixed record.roleBindingId "rb_" .invalidRoleBindingId
  validatePrefixed record.tenantId "ten_" .invalidTenantId
  if !startsWith record.principalId "usr_" && !startsWith record.principalId "svc_" then .error .invalidPrincipalId
  else do
    validateOptional record.organizationId "org_" .invalidOrganizationId
    validateOptional record.projectId "prj_" .invalidProjectId
    match record.builtInRole with
    | none => .error .invalidRoleId
    | some role => do
      validateScopeShape role record.organizationId record.projectId
      if record.resourceVersion ≤ 0 then .error .staleResourceVersion else .ok ()

end Validation

structure PlatformRoleBindingUpsert where
  roleBindingId : String
  tenantId : String
  organizationId : Option String
  projectId : Option String
  principalId : String
  roleId : String
deriving DecidableEq, Repr

section Store

variable (records : Index PlatformRoleBindingRecord)

def recordRoleBinding (record : PlatformRoleBindingRecord) :
    Except PlatformRoleBindingError (Index PlatformRoleBindingRecord) := do
  validateRoleBinding record
  .ok (records.insert record.roleBindingId record)

def roleBindingsForTenant (tenantId : String) : List PlatformRoleBindingRecord :=
  (orderedValues records).filter fun record => record.tenantId == tenantId && record.status != .deleted

def activeRoleBindingsForPrincipal (tenantId principalId : String) : List PlatformRoleBindingRecord :=
  (orderedValues records).filter fun record => record.tenantId == tenantId && record.principalId == principalId &&
    record.status == .active

def PlatformRoleBindingUpsert.equivalent (request : PlatformRoleBindingUpsert) (record : PlatformRoleBindingRecord) :
    Bool :=
  record.tenantId == request.tenantId && record.organizationId == request.organizationId &&
    record.projectId == request.projectId && record.principalId == request.principalId &&
    record.roleId == request.roleId

def PlatformRoleBindingUpsert.newRecord (request : PlatformRoleBindingUpsert) : PlatformRoleBindingRecord :=
  ⟨request.roleBindingId, request.tenantId, request.organizationId, request.projectId, request.principalId,
    request.roleId, .active, 1⟩

def reactivated (record : PlatformRoleBindingRecord) : PlatformRoleBindingRecord :=
  if record.status ≠ .active then { record with status := .active, resourceVersion := record.resourceVersion + 1 }
  else record

/-- The map after the call and its answer: an equivalent record is written before it is checked. -/
def upsertRoleBinding (request : PlatformRoleBindingUpsert) :
    Index PlatformRoleBindingRecord × Except PlatformRoleBindingError PlatformRoleBindingRecord :=
  match findOrdered request.equivalent records with
  | some (_, found) =>
    match records.lookup found.roleBindingId with
    | none => (records, .error .invalidRoleBindingId)
    | some record =>
      (records.insert found.roleBindingId (reactivated record), do
        validateRoleBinding (reactivated record)
        .ok (reactivated record))
  | none =>
    match validateRoleBinding request.newRecord with
    | .error error => (records, .error error)
    | .ok () => (records.insert request.roleBindingId request.newRecord, .ok request.newRecord)

def updateRoleBindingStatus (roleBindingId : String) (expectedVersion : Int) (status : PlatformRoleBindingStatus) :
    Index PlatformRoleBindingRecord × Except PlatformRoleBindingError PlatformRoleBindingRecord :=
  match records.lookup roleBindingId with
  | none => (records, .error .invalidRoleBindingId)
  | some record =>
    if record.resourceVersion ≠ expectedVersion then (records, .error .staleResourceVersion)
    else
      let updated := { record with status, resourceVersion := record.resourceVersion + 1 }
      (records.insert roleBindingId updated, do
        validateRoleBinding updated
        .ok updated)

/-- The active records that pass the test become deleted. -/
def deleteRoleBindings (test : PlatformRoleBindingRecord → Bool) : Index PlatformRoleBindingRecord :=
  mapValues (fun record =>
    if test record && record.status == .active then
      { record with status := .deleted, resourceVersion := record.resourceVersion + 1 }
    else record) records

def deleteRoleBindingsForOrganizationPrincipal (tenantId organizationId principalId : String) :
    Index PlatformRoleBindingRecord :=
  deleteRoleBindings records fun record => record.tenantId == tenantId &&
    record.organizationId == some organizationId && record.principalId == principalId

def deleteRoleBindingsForProjectPrincipal (tenantId projectId principalId : String) :
    Index PlatformRoleBindingRecord :=
  deleteRoleBindings records fun record => record.tenantId == tenantId &&
    record.projectId == some projectId && record.principalId == principalId

end Store

section Valid

theorem validatePrefixed_ok {ε : Type} {value start : String} {error : ε}
    (h : validatePrefixed value start error = .ok ()) : startsWith value start = true := by
  unfold validatePrefixed at h
  split at h
  · rename_i hstart
    exact hstart.1
  · cases h

theorem validateOptional_ok {ε : Type} {value : Option String} {start : String} {error : ε}
    (h : validateOptional value start error = .ok ()) {id : String} (hid : value = some id) :
    startsWith id start = true := by
  subst hid
  exact validatePrefixed_ok h

/-- What a valid binding says of the starts of its ids and of the scope of its role. -/
structure ValidBinding (record : PlatformRoleBindingRecord) : Prop where
  tenant : startsWith record.tenantId "ten_" = true
  organization : ∀ id, record.organizationId = some id → startsWith id "org_" = true
  project : ∀ id, record.projectId = some id → startsWith id "prj_" = true
  shape : ∃ role, record.builtInRole = some role ∧
    validateScopeShape role record.organizationId record.projectId = .ok ()

theorem validateRoleBinding_ok {record : PlatformRoleBindingRecord} (h : validateRoleBinding record = .ok ()) :
    ValidBinding record := by
  obtain ⟨-, h⟩ := bind_unit_ok.mp h
  obtain ⟨htenant, h⟩ := bind_unit_ok.mp h
  split at h
  · cases h
  obtain ⟨horganization, h⟩ := bind_unit_ok.mp h
  obtain ⟨hproject, h⟩ := bind_unit_ok.mp h
  split at h
  · cases h
  · rename_i role hrole
    obtain ⟨hshape, -⟩ := bind_unit_ok.mp h
    exact ⟨validatePrefixed_ok htenant, fun id hid => validateOptional_ok horganization hid,
      fun id hid => validateOptional_ok hproject hid, role, hrole, hshape⟩

theorem ValidBinding.role_shape {record : PlatformRoleBindingRecord} {role : BuiltInRole} (h : ValidBinding record)
    (hrole : record.builtInRole = some role) :
    validateScopeShape role record.organizationId record.projectId = .ok () := by
  obtain ⟨other, hother, hshape⟩ := h.shape
  cases hrole.symm.trans hother
  exact hshape

end Valid

section Changes

variable {records : Index PlatformRoleBindingRecord}

theorem PlatformRoleBindingUpsert.equivalent_iff {request : PlatformRoleBindingUpsert}
    {record : PlatformRoleBindingRecord} :
    request.equivalent record = true ↔ record.tenantId = request.tenantId ∧
      record.organizationId = request.organizationId ∧ record.projectId = request.projectId ∧
      record.principalId = request.principalId ∧ record.roleId = request.roleId := by
  simp [equivalent, and_assoc]

/-- An upsert writes at most one record: an equivalent one that is there, or a new one that passes its check. -/
theorem upsertRoleBinding_cases (hkeyed : Keyed (·.roleBindingId) records) (request : PlatformRoleBindingUpsert) :
    (∃ record, records.lookup record.roleBindingId = some record ∧ request.equivalent record = true ∧
      (upsertRoleBinding records request).1 = records.insert record.roleBindingId (reactivated record)) ∨
    (∀ id record, records.lookup id = some record → request.equivalent record = false) ∧
      ((upsertRoleBinding records request).1 = records ∨ validateRoleBinding request.newRecord = .ok () ∧
        (upsertRoleBinding records request).1 = records.insert request.roleBindingId request.newRecord) := by
  unfold upsertRoleBinding
  cases hfound : findOrdered request.equivalent records with
  | some entry =>
    obtain ⟨hlookup, htest⟩ := hkeyed.findOrdered hfound
    refine .inl ⟨entry.2, hlookup, htest, ?_⟩
    simp only [hlookup]
  | none =>
    refine .inr ⟨fun id record hrecord => findOrdered_none hfound hrecord, ?_⟩
    simp only
    cases hvalid : validateRoleBinding request.newRecord with
    | error error => exact .inl rfl
    | ok => exact .inr ⟨rfl, rfl⟩

theorem updateRoleBindingStatus_cases (records : Index PlatformRoleBindingRecord) (roleBindingId : String)
    (expectedVersion : Int) (status : PlatformRoleBindingStatus) :
    (updateRoleBindingStatus records roleBindingId expectedVersion status).1 = records ∨
    ∃ record, records.lookup roleBindingId = some record ∧ record.resourceVersion = expectedVersion ∧
      (updateRoleBindingStatus records roleBindingId expectedVersion status).1 = records.insert roleBindingId
        { record with status, resourceVersion := record.resourceVersion + 1 } := by
  unfold updateRoleBindingStatus
  cases hlookup : records.lookup roleBindingId with
  | none => exact .inl rfl
  | some record =>
    simp only
    split
    · exact .inl rfl
    · rename_i hversion
      exact .inr ⟨record, rfl, not_not.mp hversion, rfl⟩

theorem deleteRoleBindings_some {test : PlatformRoleBindingRecord → Bool} {id : String}
    {record : PlatformRoleBindingRecord} (h : (deleteRoleBindings records test).lookup id = some record) :
    ∃ old, records.lookup id = some old ∧ (record = old ∨
      record = { old with status := .deleted, resourceVersion := old.resourceVersion + 1 }) := by
  rw [deleteRoleBindings, lookup_mapValues] at h
  obtain ⟨old, hold, rfl⟩ := Option.map_eq_some_iff.mp h
  refine ⟨old, hold, ?_⟩
  split
  · exact .inr rfl
  · exact .inl rfl

end Changes

end Starweaver.Platform
