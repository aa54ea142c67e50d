import Starweaver.Platform.RoleBindings

namespace Starweaver.Platform

open Library.AssocMap Library.OrderedMap

inductive PlatformMembershipStatus
  | active
  | suspended
  | removed
deriving DecidableEq, Repr

namespace PlatformMembershipStatus

def fromId (value : String) : Option PlatformMembershipStatus :=
  if value = "active" then some .active
  else if value = "suspended" then some .suspended
  else if value = "removed" then some .removed
  else none

def acceptsAccess : PlatformMembershipStatus → Bool
  | .active => true
  | .suspended | .removed => false

end PlatformMembershipStatus

structure PlatformOrganizationMembershipRecord where
  organizationMemberId : String
  tenantId : String
  organizationId : String
  principalId : String
  membershipKind : String
  status : PlatformMembershipStatus
  resourceVersion : Int
deriving DecidableEq, Repr

structure PlatformProjectMembershipRecord where
  projectMemberId : String
  tenantId : String
  organizationId : String
  projectId : String
  principalId : String
  organizationMemberId : Option String
  membershipKind : String
  status : PlatformMembershipStatus
  resourceVersion : Int
deriving DecidableEq, Repr

inductive PlatformMembershipError
  | invalidMembershipId
  | invalidTenantId
  | invalidOrganizationId
  | invalidProjectId
  | invalidPrincipalId
  | invalidMembershipKind
  | invalidStatus
  | staleResourceVersion
deriving DecidableEq, Repr

def PlatformMembershipError.asStr : PlatformMembershipError → String
  | .invalidMembershipId => "membership_id_invalid"
  | .invalidTenantId => "tenant_id_invalid"
  | .invalidOrganizationId => "organization_id_invalid"
  | .invalidProjectId => "project_id_invalid"
  | .invalidPrincipalId => "principal_id_invalid"
  | .invalidMembershipKind => "membership_kind_invalid"
  | .invalidStatus => "membership_status_invalid"
  | .staleResourceVersion => "stale_resource_version"

def membershipErrorToService : PlatformMembershipError → ServiceError
  | .invalidMembershipId => .resourceNotFound
  | error => .badRequest error.asStr

section Validation

def requireStart {ε : Type} (value start : String) (error : ε) : Except ε Unit :=
  if startsWith value start then .ok () else .error error

def validateMember (memberId memberStart tenantId organizationId principalId membershipKind : String)
    (resourceVersion : Int) (others : Except PlatformMembershipError Unit)
    (parent : Except PlatformMembershipError Unit) : Except PlatformMembershipError Unit := do
  requireStart memberId memberStart .invalidMembershipId
  requireStart tenantId "ten_" .invalidTenantId
  requireStart organizationId "org_" .invalidOrganizationId
  others
  if !startsWith principalId "usr_" && !startsWith principalId "svc_" then .error .invalidPrincipalId
  else do
    parent
    if membershipKind ≠ "user" ∧ membershipKind ≠ "service_account" then .error .invalidMembershipKind
    else if resourceVersion ≤ 0 then .error .staleResourceVersion
    else .ok ()

def validateOrganizationMember (record : PlatformOrganizationMembershipRecord) : Except PlatformMembershipError Unit :=
  validateMember record.organizationMemberId "om_" record.tenantId record.organizationId record.principalId
    record.membershipKind record.resourceVersion (.ok ()) (.ok ())

def validateProjectMember (record : PlatformProjectMembershipRecord) : Except PlatformMembershipError Unit :=
  validateMember record.projectMemberId "pm_" record.tenantId record.organizationId record.principalId
    record.membershipKind record.resourceVersion (requireStart record.projectId "prj_" .invalidProjectId)
    (match record.organizationMemberId with
      | none => .ok ()
      | some id => requireStart id "om_" .invalidMembershipId)

end Validation

structure PlatformOrganizationMembershipUpsert where
  organizationMemberId : String
  tenantId : String
  organizationId : String
  principalId : String
  membershipKind : String
deriving DecidableEq, Repr

structure PlatformProjectMembershipUpsert where
  projectMemberId : String
  tenantId : String
  organizationId : String
  projectId : String
  principalId : String
  organizationMemberId : String
  membershipKind : String
deriving DecidableEq, Repr

structure MembershipStore where
  organizationMembers : Index PlatformOrganizationMembershipRecord
  projectMembers : Index PlatformProjectMembershipRecord

section Store

variable (store : MembershipStore)

def recordOrganizationMember (record : PlatformOrganizationMembershipRecord) :
    Except PlatformMembershipError MembershipStore := do
  validateOrganizationMember record
  .ok { store with organizationMembers := store.organizationMembers.insert record.organizationMemberId record }

def recordProjectMember (record : PlatformProjectMembershipRecord) :
    Except PlatformMembershipError MembershipStore := do
  validateProjectMember record
  .ok { store with projectMembers := store.projectMembers.insert record.projectMemberId record }

def organizationMembersForOrganization (organizationId : String) : List PlatformOrganizationMembershipRecord :=
  (orderedValues store.organizationMembers).filter fun record => record.organizationId == organizationId

def projectMembersForProject (projectId : String) : List PlatformProjectMembershipRecord :=
  (orderedValues store.projectMembers).filter fun record => record.projectId == projectId

def updateOrganizationMemberStatus (organizationMemberId : String) (expectedVersion : Int)
    (status : PlatformMembershipStatus) :
    Except PlatformMembershipError (PlatformOrganizationMembershipRecord × MembershipStore) :=
  match store.organizationMembers.lookup organizationMemberId with
  | none => .error .invalidMembershipId
  | some record =>
    if record.resourceVersion ≠ expectedVersion then .error .staleResourceVersion
    else
      let updated := { record with status, resourceVersion := record.resourceVersion + 1 }
      .ok (updated,
        { store with organizationMembers := store.organizationMembers.insert organizationMemberId updated })

def updateProjectMemberStatus (projectMemberId : String) (expectedVersion : Int)
    (status : PlatformMembershipStatus) :
    Except PlatformMembershipError (PlatformProjectMembershipRecord × MembershipStore) :=
  match store.projectMembers.lookup projectMemberId with
  | none => .error .invalidMembershipId
  | some record =>
    if record.resourceVersion ≠ expectedVersion then .error .staleResourceVersion
    else
      let updated := { record with status, resourceVersion := record.resourceVersion + 1 }
      .ok (updated, { store with projectMembers := store.projectMembers.insert projectMemberId updated })

def PlatformOrganizationMembershipUpsert.sameMember (request : PlatformOrganizationMembershipUpsert)
    (record : PlatformOrganizationMembershipRecord) : Bool :=
  record.tenantId == request.tenantId && record.organizationId == request.organizationId &&
    record.principalId == request.principalId

def PlatformOrganizationMembershipUpsert.newRecord (request : PlatformOrganizationMembershipUpsert) :
    PlatformOrganizationMembershipRecord :=
  ⟨request.organizationMemberId, request.tenantId, request.organizationId, request.principalId,
    request.membershipKind, .active, 1⟩

def PlatformOrganizationMembershipUpsert.rejoined (request : PlatformOrganizationMembershipUpsert)
    (record : PlatformOrganizationMembershipRecord) : PlatformOrganizationMembershipRecord :=
  if record.status ≠ .active ∨ record.membershipKind ≠ request.membershipKind then
    { record with
      status := .active
      membershipKind := request.membershipKind
      resourceVersion := record.resourceVersion + 1 }
  else record

/-- The store after the call and its answer: an existing record is written before it is checked. -/
def upsertOrganizationMember (request : PlatformOrganizationMembershipUpsert) :
    MembershipStore × Except PlatformMembershipError PlatformOrganizationMembershipRecord :=
  match findOrdered request.sameMember store.organizationMembers with
  | some (_, found) =>
    match store.organizationMembers.lookup found.organizationMemberId with
    | none => (store, .error .invalidMembershipId)
    | some record =>
      ({ store with
          organizationMembers :=
            store.organizationMembers.insert found.organizationMemberId (request.rejoined record) }, do
        validateOrganizationMember (request.rejoined record)
        .ok (request.rejoined record))
  | none =>
    match validateOrganizationMember request.newRecord with
    | .error error => (store, .error error)
    | .ok () =>
      ({ store with
          organizationMembers := store.organizationMembers.insert request.organizationMemberId request.newRecord },
        .ok request.newRecord)

/-- A project membership is found by its project and principal alone. -/
def PlatformProjectMembershipUpsert.sameMember (request : PlatformProjectMembershipUpsert)
    (record : PlatformProjectMembershipRecord) : Bool :=
  record.projectId == request.projectId && record.principalId == request.principalId

def PlatformProjectMembershipUpsert.newRecord (request : PlatformProjectMembershipUpsert) :
    PlatformProjectMembershipRecord :=
  ⟨request.projectMemberId, request.tenantId, request.organizationId, request.projectId, request.principalId,
    some request.organizationMemberId, request.membershipKind, .active, 1⟩

def PlatformProjectMembershipUpsert.rejoined (request : PlatformProjectMembershipUpsert)
    (record : PlatformProjectMembershipRecord) : PlatformProjectMembershipRecord :=
  let changed := record.status ≠ .active ∨ record.membershipKind ≠ request.membershipKind ∨
    record.organizationMemberId ≠ some request.organizationMemberId
  { record with
    status := .active
    membershipKind := request.membershipKind
    organizationMemberId := some request.organizationMemberId
    resourceVersion := if changed then record.resourceVersion + 1 else record.resourceVersion }

def upsertProjectMember (request : PlatformProjectMembershipUpsert) :
    MembershipStore × Except PlatformMembershipError PlatformProjectMembershipRecord :=
  match findOrdered request.sameMember store.projectMembers with
  | some (_, found) =>
    match store.projectMembers.lookup found.projectMemberId with
    | none => (store, .error .invalidMembershipId)
    | some record =>
      ({ store with projectMembers := store.projectMembers.insert found.projectMemberId (request.rejoined record) }, do
        validateProjectMember (request.rejoined record)
        .ok (request.rejoined record))
  | none =>
    match validateProjectMember request.newRecord with
    | .error error => (store, .error error)
    | .ok () =>
      ({ store with projectMembers := store.projectMembers.insert request.projectMemberId request.newRecord },
        .ok request.newRecord)

def cascadeTo (status current : PlatformMembershipStatus) : Bool :=
  match status with
  | .active => false
  | .suspended => current == .active
  | .removed => current != .removed

def cascadeProjectMembershipsForOrganizationMember (member : PlatformOrganizationMembershipRecord)
    (status : PlatformMembershipStatus) : MembershipStore :=
  { store with
    projectMembers := mapValues (fun record =>
      if record.tenantId == member.tenantId && record.organizationId == member.organizationId &&
          record.principalId == member.principalId && cascadeTo status record.status then
        { record with status, resourceVersion := record.resourceVersion + 1 }
      else record) store.projectMembers }

end Store

section Changes

variable {store : MembershipStore}

theorem upsertOrganizationMember_eq (hkeyed : Keyed (·.organizationMemberId) store.organizationMembers)
    (request : PlatformOrganizationMembershipUpsert) :
    (∃ record, store.organizationMembers.lookup record.organizationMemberId = some record ∧
      request.sameMember record = true ∧ upsertOrganizationMember store request =
        ({ store with
            organizationMembers := store.organizationMembers.insert record.organizationMemberId (request.rejoined record) },
          validateOrganizationMember (request.rejoined record) >>= fun _ => .ok (request.rejoined record))) ∨
    (∀ id record, store.organizationMembers.lookup id = some record → request.sameMember record = false) ∧
      ((∃ error, validateOrganizationMember request.newRecord = .error error ∧
        upsertOrganizationMember store request = (store, .error error)) ∨
      validateOrganizationMember request.newRecord = .ok () ∧ upsertOrganizationMember store request =
        ({ store with
            organizationMembers := store.organizationMembers.insert request.organizationMemberId request.newRecord },
          .ok request.newRecord)) := by
  unfold upsertOrganizationMember
  cases hfound : findOrdered request.sameMember store.organizationMembers with
  | some entry =>
    obtain ⟨hlookup, hsame⟩ := hkeyed.findOrdered hfound
    refine .inl ⟨entry.2, hlookup, hsame, ?_⟩
    simp only [hlookup]
  | none =>
    refine .inr ⟨fun id record hrecord => findOrdered_none hfound hrecord, ?_⟩
    simp only
    cases hvalid : validateOrganizationMember request.newRecord with
    | error error => exact .inl ⟨error, rfl, rfl⟩
    | ok => exact .inr ⟨rfl, rfl⟩

theorem upsertOrganizationMember_cases (hkeyed : Keyed (·.organizationMemberId) store.organizationMembers)
    (request : PlatformOrganizationMembershipUpsert) :
    (∃ record, store.organizationMembers.lookup record.organizationMemberId = some record ∧
      request.sameMember record = true ∧ (upsertOrganizationMember store request).1 =
        { store with
          organizationMembers :=
            store.organizationMembers.insert record.organizationMemberId (request.rejoined record) }) ∨
    (∀ id record, store.organizationMembers.lookup id = some record → request.sameMember record = false) ∧
      ((upsertOrganizationMember store request).1 = store ∨ validateOrganizationMember request.newRecord = .ok () ∧
        (upsertOrganizationMember store request).1 =
          { store with
            organizationMembers := store.organizationMembers.insert request.organizationMemberId request.newRecord }) := by
  rcases upsertOrganizationMember_eq hkeyed request with
    ⟨record, hlookup, hsame, hanswer⟩ | ⟨hnone, ⟨error, -, hanswer⟩ | ⟨hvalid, hanswer⟩⟩
  · exact .inl ⟨record, hlookup, hsame, by rw [hanswer]⟩
  · exact .inr ⟨hnone, .inl (by rw [hanswer])⟩
  · exact .inr ⟨hnone, .inr ⟨hvalid, by rw [hanswer]⟩⟩

theorem upsertProjectMember_eq (hkeyed : Keyed (·.projectMemberId) store.projectMembers)
    (request : PlatformProjectMembershipUpsert) :
    (∃ record, store.projectMembers.lookup record.projectMemberId = some record ∧
      request.sameMember record = true ∧ upsertProjectMember store request =
        ({ store with
            projectMembers := store.projectMembers.insert record.projectMemberId (request.rejoined record) },
          validateProjectMember (request.rejoined record) >>= fun _ => .ok (request.rejoined record))) ∨
    (∀ id record, store.projectMembers.lookup id = some record → request.sameMember record = false) ∧
      ((∃ error, validateProjectMember request.newRecord = .error error ∧
        upsertProjectMember store request = (store, .error error)) ∨
      validateProjectMember request.newRecord = .ok () ∧ upsertProjectMember store request =
        ({ store with
            projectMembers := store.projectMembers.insert request.projectMemberId request.newRecord },
          .ok request.newRecord)) := by
  unfold upsertProjectMember
  cases hfound : findOrdered request.sameMember store.projectMembers with
  | some entry =>
    obtain ⟨hlookup, hsame⟩ := hkeyed.findOrdered hfound
    refine .inl ⟨entry.2, hlookup, hsame, ?_⟩
    simp only [hlookup]
  | none =>
    refine .inr ⟨fun id record hrecord => findOrdered_none hfound hrecord, ?_⟩
    simp only
    cases hvalid : validateProjectMember request.newRecord with
    | error error => exact .inl ⟨error, rfl, rfl⟩
    | ok => exact .inr ⟨rfl, rfl⟩

theorem upsertProjectMember_cases (hkeyed : Keyed (·.projectMemberId) store.projectMembers)
    (request : PlatformProjectMembershipUpsert) :
    (∃ record, store.projectMembers.lookup record.projectMemberId = some record ∧
      request.sameMember record = true ∧ (upsertProjectMember store request).1 =
        { store with projectMembers := store.projectMembers.insert record.projectMemberId (request.rejoined record) }) ∨
    (∀ id record, store.projectMembers.lookup id = some record → request.sameMember record = false) ∧
      ((upsertProjectMember store request).1 = store ∨ validateProjectMember request.newRecord = .ok () ∧
        (upsertProjectMember store request).1 =
          { store with projectMembers := store.projectMembers.insert request.projectMemberId request.newRecord }) := by
  rcases upsertProjectMember_eq hkeyed request with
    ⟨record, hlookup, hsame, hanswer⟩ | ⟨hnone, ⟨error, -, hanswer⟩ | ⟨hvalid, hanswer⟩⟩
  · exact .inl ⟨record, hlookup, hsame, by rw [hanswer]⟩
  · exact .inr ⟨hnone, .inl (by rw [hanswer])⟩
  · exact .inr ⟨hnone, .inr ⟨hvalid, by rw [hanswer]⟩⟩

theorem updateOrganizationMemberStatus_ok {organizationMemberId : String} {expectedVersion : Int}
    {status : PlatformMembershipStatus} {updated : PlatformOrganizationMembershipRecord} {changed : MembershipStore}
    (h : updateOrganizationMemberStatus store organizationMemberId expectedVersion status = .ok (updated, changed)) :
    ∃ record, store.organizationMembers.lookup organizationMemberId = some record ∧
      record.resourceVersion = expectedVersion ∧
      updated = { record with status, resourceVersion := record.resourceVersion + 1 } ∧
      changed = { store with
        organizationMembers := store.organizationMembers.insert organizationMemberId updated } := by
  unfold updateOrganizationMemberStatus at h
  split at h
  · cases h
  · rename_i record hrecord
    split at h
    · cases h
    · rename_i hversion
      cases h
      exact ⟨record, hrecord, not_not.mp hversion, rfl, rfl⟩

theorem updateProjectMemberStatus_ok {projectMemberId : String} {expectedVersion : Int}
    {status : PlatformMembershipStatus} {updated : PlatformProjectMembershipRecord} {changed : MembershipStore}
    (h : updateProjectMemberStatus store projectMemberId expectedVersion status = .ok (updated, changed)) :
    ∃ record, store.projectMembers.lookup projectMemberId = some record ∧ record.resourceVersion = expectedVersion ∧
      updated = { record with status, resourceVersion := record.resourceVersion + 1 } ∧
      changed = { store with projectMembers := store.projectMembers.insert projectMemberId updated } := by
  unfold updateProjectMemberStatus at h
  split at h
  · cases h
  · rename_i record hrecord
    split at h
    · cases h
    · rename_i hversion
      cases h
      exact ⟨record, hrecord, not_not.mp hversion, rfl, rfl⟩

/-- A cascade leaves a record as it is, or gives it the status that is no access. -/
theorem cascade_some {member : PlatformOrganizationMembershipRecord} {status : PlatformMembershipStatus} {id : String}
    {record : PlatformProjectMembershipRecord}
    (h : (cascadeProjectMembershipsForOrganizationMember store member status).projectMembers.lookup id = some record) :
    ∃ old, store.projectMembers.lookup id = some old ∧ (record = old ∨
      status ≠ .active ∧ record = { old with status, resourceVersion := old.resourceVersion + 1 }) := by
  simp only [cascadeProjectMembershipsForOrganizationMember, lookup_mapValues] at h
  obtain ⟨old, hold, rfl⟩ := Option.map_eq_some_iff.mp h
  refine ⟨old, hold, ?_⟩
  split
  · rename_i hcascade
    refine .inr ⟨?_, rfl⟩
    rintro rfl
    simp [cascadeTo] at hcascade
  · exact .inl rfl

end Changes

end Starweaver.Platform
