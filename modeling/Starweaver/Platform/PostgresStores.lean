import Starweaver.Platform.AccessSteps

namespace Starweaver.Platform

open Library.AssocMap Library.OrderedMap

/-- The rows of other tables that memberships and role bindings refer to. -/
structure ReferencedRows where
  tenants : String → Bool
  organizations : String → Bool
  projects : String → Bool
  principals : String → Bool

inductive PlatformRepositoryError
  | membership (error : PlatformMembershipError)
  | roleBinding (error : PlatformRoleBindingError)
  | database
deriving DecidableEq, Repr

def dataRepositoryError : PlatformRepositoryError → ServiceError
  | .membership error => membershipErrorToService error
  | .roleBinding error => roleBindingErrorToService error
  | .database => .internal "database_error"

namespace Postgres

variable (rows : ReferencedRows)

section RoleBindings

variable (table : Index PlatformRoleBindingRecord)

def admitsRoleBinding (request : PlatformRoleBindingUpsert) : Bool :=
  rows.tenants request.tenantId && request.organizationId.all rows.organizations &&
    request.projectId.all rows.projects && rows.principals request.principalId

/-- A conflict on the primary key replaces the row. -/
def upsertRoleBinding (request : PlatformRoleBindingUpsert) :
    Except PlatformRepositoryError (PlatformRoleBindingRecord × Index PlatformRoleBindingRecord) := do
  (validateRoleBinding request.newRecord).mapError .roleBinding
  if !admitsRoleBinding rows request then .error .database
  else
    let row : PlatformRoleBindingRecord := match table.lookup request.roleBindingId with
      | none => request.newRecord
      | some row => { request.newRecord with resourceVersion := row.resourceVersion + 1 }
    .ok (row, table.insert request.roleBindingId row)

def updateRoleBindingStatus (roleBindingId : String) (expectedVersion : Int) (status : PlatformRoleBindingStatus) :
    Except PlatformRepositoryError (PlatformRoleBindingRecord × Index PlatformRoleBindingRecord) :=
  match (table.lookup roleBindingId).filter (·.resourceVersion == expectedVersion) with
  | none => .error (.roleBinding .staleResourceVersion)
  | some row =>
    let updated := { row with status, resourceVersion := row.resourceVersion + 1 }
    .ok (updated, table.insert roleBindingId updated)

def deleteRoleBindings (test : PlatformRoleBindingRecord → Bool) : Index PlatformRoleBindingRecord :=
  mapValues (fun row =>
    if test row && row.status != .deleted then
      { row with status := .deleted, resourceVersion := row.resourceVersion + 1 }
    else row) table

def deleteRoleBindingsForOrganizationPrincipal (tenantId organizationId principalId : String) :
    Index PlatformRoleBindingRecord :=
  deleteRoleBindings table fun row => row.tenantId == tenantId && row.organizationId == some organizationId &&
    row.principalId == principalId

def deleteRoleBindingsForProjectPrincipal (tenantId projectId principalId : String) :
    Index PlatformRoleBindingRecord :=
  deleteRoleBindings table fun row => row.tenantId == tenantId && row.projectId == some projectId &&
    row.principalId == principalId

end RoleBindings

section Memberships

variable (store : MembershipStore)

def admitsOrganizationMember (request : PlatformOrganizationMembershipUpsert) : Bool :=
  rows.tenants request.tenantId && rows.organizations request.organizationId && rows.principals request.principalId

/-- The row of the conflict target. -/
def samePair (request : PlatformOrganizationMembershipUpsert) (row : PlatformOrganizationMembershipRecord) : Bool :=
  row.organizationId == request.organizationId && row.principalId == request.principalId

def upsertOrganizationMember (request : PlatformOrganizationMembershipUpsert) :
    Except PlatformRepositoryError (PlatformOrganizationMembershipRecord × MembershipStore) := do
  (validateOrganizationMember request.newRecord).mapError .membership
  if !admitsOrganizationMember rows request then .error .database
  else match findOrdered (samePair request) store.organizationMembers with
  | some (id, row) =>
    let updated :=
      { row with
        tenantId := request.tenantId
        membershipKind := request.membershipKind
        status := .active
        resourceVersion := row.resourceVersion + 1 }
    .ok (updated, { store with organizationMembers := store.organizationMembers.insert id updated })
  | none =>
    -- The primary key is no conflict target: a row that has it fails the statement.
    if (store.organizationMembers.lookup request.organizationMemberId).isSome then .error .database
    else .ok (request.newRecord,
      { store with
        organizationMembers := store.organizationMembers.insert request.organizationMemberId request.newRecord })

def updateOrganizationMemberStatus (organizationMemberId : String) (expectedVersion : Int)
    (status : PlatformMembershipStatus) :
    Except PlatformRepositoryError (PlatformOrganizationMembershipRecord × MembershipStore) :=
  match (store.organizationMembers.lookup organizationMemberId).filter (·.resourceVersion == expectedVersion) with
  | none => .error (.membership .staleResourceVersion)
  | some row =>
    let updated := { row with status, resourceVersion := row.resourceVersion + 1 }
    .ok (updated, { store with organizationMembers := store.organizationMembers.insert organizationMemberId updated })

def admitsProjectMember (request : PlatformProjectMembershipUpsert) : Bool :=
  rows.tenants request.tenantId && rows.organizations request.organizationId && rows.projects request.projectId &&
    rows.principals request.principalId && (store.organizationMembers.lookup request.organizationMemberId).isSome

def upsertProjectMember (request : PlatformProjectMembershipUpsert) :
    Except PlatformRepositoryError (PlatformProjectMembershipRecord × MembershipStore) := do
  (validateProjectMember request.newRecord).mapError .membership
  if !admitsProjectMember rows store request then .error .database
  else match findOrdered request.sameMember store.projectMembers with
  | some (id, row) =>
    let updated :=
      { row with
        tenantId := request.tenantId
        organizationId := request.organizationId
        organizationMemberId := some request.organizationMemberId
        membershipKind := request.membershipKind
        status := .active
        resourceVersion := row.resourceVersion + 1 }
    .ok (updated, { store with projectMembers := store.projectMembers.insert id updated })
  | none =>
    if (store.projectMembers.lookup request.projectMemberId).isSome then .error .database
    else .ok (request.newRecord,
      { store with projectMembers := store.projectMembers.insert request.projectMemberId request.newRecord })

def updateProjectMemberStatus (projectMemberId : String) (expectedVersion : Int) (status : PlatformMembershipStatus) :
    Except PlatformRepositoryError (PlatformProjectMembershipRecord × MembershipStore) :=
  match (store.projectMembers.lookup projectMemberId).filter (·.resourceVersion == expectedVersion) with
  | none => .error (.membership .staleResourceVersion)
  | some row =>
    let updated := { row with status, resourceVersion := row.resourceVersion + 1 }
    .ok (updated, { store with projectMembers := store.projectMembers.insert projectMemberId updated })

def cascadeProjectMembershipsForOrganizationMember (member : PlatformOrganizationMembershipRecord)
    (status : PlatformMembershipStatus) : MembershipStore :=
  if status = .active then store
  else
    { store with
      projectMembers := mapValues (fun row =>
        if row.tenantId == member.tenantId && row.organizationId == member.organizationId &&
            row.principalId == member.principalId &&
            (status == .suspended && row.status == .active || status == .removed && row.status != .removed) then
          { row with status, resourceVersion := row.resourceVersion + 1 }
        else row) store.projectMembers }

end Memberships

section Handlers

-- The tables are read by the queries of the in-memory stores: rows come in the order of their primary key.
variable (env : PlatformEnv) (store : AccessStore) (actor : AuthenticatedActor)

def createRoleBinding (request : CreateRoleBindingRequest) (newId : String) : Result AccessStore := do
  let candidate ← roleBindingCandidate env store actor request newId
  let (_, roleBindings) ← (upsertRoleBinding rows store.roleBindings
    ((equivalentRoleBinding store candidate).getD candidate).toUpsert).mapError dataRepositoryError
  .ok { store with roleBindings }

def updateRoleBinding (roleBindingId : String) (request : UpdateStatusRequest) : Result AccessStore := do
  let status ← roleBindingStatusChange env store actor roleBindingId request
  let (_, roleBindings) ← (updateRoleBindingStatus store.roleBindings roleBindingId request.expectedVersion
    status).mapError dataRepositoryError
  .ok { store with roleBindings }

def createOrganizationMember (organizationId : String) (request : CreateOrganizationMemberRequest) (newId : String) :
    Result AccessStore := do
  let upsert ← organizationMemberUpsert env store actor organizationId request newId
  let (_, memberships) ← (upsertOrganizationMember rows store.memberships upsert).mapError dataRepositoryError
  .ok { store with memberships }

def setOrganizationMemberStatus (organizationMemberId : String) (expectedVersion : Int)
    (status : PlatformMembershipStatus) : Result (PlatformOrganizationMembershipRecord × MembershipStore) :=
  (updateOrganizationMemberStatus store.memberships organizationMemberId expectedVersion status).mapError
    dataRepositoryError

def cascadeOrganizationMember (updated : PlatformOrganizationMembershipRecord) (memberships : MembershipStore)
    (status : PlatformMembershipStatus) : AccessStore :=
  { store with
    memberships := cascadeProjectMembershipsForOrganizationMember memberships updated status
    roleBindings :=
      if status = .removed then
        deleteRoleBindingsForOrganizationPrincipal store.roleBindings updated.tenantId updated.organizationId
          updated.principalId
      else store.roleBindings }

def updateOrganizationMember (organizationId organizationMemberId : String) (request : UpdateStatusRequest) :
    Result AccessStore := do
  let before ← organizationMemberForActor store actor organizationId organizationMemberId
  authorizeServiceAction store env.grants actor .organizationMemberWrite (organizationMemberResource before)
  let status ← membershipStatusFromRequest request.status
  let (updated, memberships) ← setOrganizationMemberStatus store organizationMemberId request.expectedVersion status
  .ok (cascadeOrganizationMember store updated memberships status)

def removeOrganizationMember (organizationId organizationMemberId : String) (expectedVersion : Int) :
    Result AccessStore := do
  let before ← organizationMemberForActor store actor organizationId organizationMemberId
  authorizeServiceAction store env.grants actor .organizationMemberWrite (organizationMemberResource before)
  let (updated, memberships) ← setOrganizationMemberStatus store organizationMemberId expectedVersion .removed
  .ok (cascadeOrganizationMember store updated memberships .removed)

def createProjectMember (projectId : String) (request : CreateProjectMemberRequest) (newId : String) :
    Result AccessStore := do
  let upsert ← projectMemberUpsert env store actor projectId request newId
  let (_, memberships) ← (upsertProjectMember rows store.memberships upsert).mapError dataRepositoryError
  .ok { store with memberships }

def updateProjectMember (projectId projectMemberId : String) (request : UpdateStatusRequest) :
    Result AccessStore := do
  let before ← projectMemberForActor store actor projectId projectMemberId
  authorizeServiceAction store env.grants actor .projectMemberWrite (projectMemberResource before)
  let status ← membershipStatusFromRequest request.status
  let (updated, memberships) ← (updateProjectMemberStatus store.memberships projectMemberId request.expectedVersion
    status).mapError dataRepositoryError
  .ok { store with
    memberships
    roleBindings :=
      if status = .removed then
        deleteRoleBindingsForProjectPrincipal store.roleBindings updated.tenantId updated.projectId updated.principalId
      else store.roleBindings }

end Handlers

end Postgres

/-- The requests whose records both backends hold. -/
inductive RepositoryCall
  | createRoleBinding (request : CreateRoleBindingRequest) (newId : String)
  | updateRoleBindingStatus (roleBindingId : String) (request : UpdateStatusRequest)
  | createOrganizationMember (organizationId : String) (request : CreateOrganizationMemberRequest) (newId : String)
  | updateOrganizationMemberStatus (organizationId organizationMemberId : String) (request : UpdateStatusRequest)
  | removeOrganizationMember (organizationId organizationMemberId : String) (expectedVersion : Int)
  | createProjectMember (projectId : String) (request : CreateProjectMemberRequest) (newId : String)
  | updateProjectMemberStatus (projectId projectMemberId : String) (request : UpdateStatusRequest)
deriving DecidableEq, Repr

def RepositoryCall.toAccessCall : RepositoryCall → AccessCall
  | .createRoleBinding request newId => .createRoleBinding request newId
  | .updateRoleBindingStatus roleBindingId request => .updateRoleBindingStatus roleBindingId request
  | .createOrganizationMember organizationId request newId => .createOrganizationMember organizationId request newId
  | .updateOrganizationMemberStatus organizationId organizationMemberId request =>
    .updateOrganizationMemberStatus organizationId organizationMemberId request
  | .removeOrganizationMember organizationId organizationMemberId expectedVersion =>
    .removeOrganizationMember organizationId organizationMemberId expectedVersion
  | .createProjectMember projectId request newId => .createProjectMember projectId request newId
  | .updateProjectMemberStatus projectId projectMemberId request =>
    .updateProjectMemberStatus projectId projectMemberId request

def AccessStore.memoryStep (env : PlatformEnv) (store : AccessStore) (step : AuthenticatedActor × RepositoryCall) :
    AccessStore :=
  store.call env step.1 step.2.toAccessCall

def AccessStore.postgresStep (env : PlatformEnv) (rows : ReferencedRows) (store : AccessStore)
    (step : AuthenticatedActor × RepositoryCall) : AccessStore :=
  let (actor, call) := step
  store.orUnchanged <| match call with
    | .createRoleBinding request newId => Postgres.createRoleBinding rows env store actor request newId
    | .updateRoleBindingStatus roleBindingId request => Postgres.updateRoleBinding env store actor roleBindingId request
    | .createOrganizationMember organizationId request newId =>
      Postgres.createOrganizationMember rows env store actor organizationId request newId
    | .updateOrganizationMemberStatus organizationId organizationMemberId request =>
      Postgres.updateOrganizationMember env store actor organizationId organizationMemberId request
    | .removeOrganizationMember organizationId organizationMemberId expectedVersion =>
      Postgres.removeOrganizationMember env store actor organizationId organizationMemberId expectedVersion
    | .createProjectMember projectId request newId =>
      Postgres.createProjectMember rows env store actor projectId request newId
    | .updateProjectMemberStatus projectId projectMemberId request =>
      Postgres.updateProjectMember env store actor projectId projectMemberId request

end Starweaver.Platform
