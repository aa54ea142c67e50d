import Starweaver.Platform.Memberships

namespace Starweaver.Platform

open Library.AssocMap Library.Checks Library.Text

inductive PlatformUserStatus
  | active
  | disabled
  | deleted
deriving DecidableEq, Repr

namespace PlatformUserStatus

def fromId (value : String) : Option PlatformUserStatus :=
  if value = "active" then some .active
  else if value = "disabled" then some .disabled
  else if value = "deleted" then some .deleted
  else none

def acceptsAccess : PlatformUserStatus → Bool
  | .active => true
  | .disabled | .deleted => false

end PlatformUserStatus

inductive PlatformUserError
  | invalidUserId
  | invalidTenantId
  | invalidOrganizationId
  | invalidProjectId
  | invalidEmail
  | invalidDisplayName
  | invalidStatus
  | invalidResourceVersion
  | staleResourceVersion
  | unknownUser
deriving DecidableEq, Repr

def PlatformUserError.asStr : PlatformUserError → String
  | .invalidUserId => "user_id_invalid"
  | .invalidTenantId => "tenant_id_invalid"
  | .invalidOrganizationId => "organization_id_invalid"
  | .invalidProjectId => "project_id_invalid"
  | .invalidEmail => "user_email_invalid"
  | .invalidDisplayName => "user_display_name_invalid"
  | .invalidStatus => "user_status_invalid"
  | .invalidResourceVersion => "resource_version_invalid"
  | .staleResourceVersion => "stale_resource_version"
  | .unknownUser => "user_not_found"

def userErrorToService : PlatformUserError → ServiceError
  | .unknownUser => .resourceNotFound
  | error => .badRequest error.asStr

structure PlatformUserRecord where
  userId : String
  tenantId : String
  defaultOrganizationId : Option String
  defaultProjectId : Option String
  primaryEmail : Option String
  displayName : String
  status : PlatformUserStatus
  resourceVersion : Int
deriving DecidableEq, Repr

section Validation

/-- The id is trimmed before it is looked at. -/
def validatePrefixedId {ε : Type} (value start : String) (error : ε) : Except ε Unit :=
  if (trim value).utf8ByteSize ≤ start.utf8ByteSize ∨ !startsWith (trim value) start then .error error else .ok ()

def validateOptionalId {ε : Type} (value : Option String) (start : String) (error : ε) : Except ε Unit :=
  match value with
  | none => .ok ()
  | some value => validatePrefixedId value start error

def validEmail (value : String) : Bool :=
  let email := (trim value).toList
  email.contains '@' && email.head? != some '@' && email.getLast? != some '@'

def validatePlatformUserRecord (record : PlatformUserRecord) : Except PlatformUserError Unit := do
  validatePrefixedId record.userId "usr_" .invalidUserId
  validatePrefixedId record.tenantId "ten_" .invalidTenantId
  validateOptionalId record.defaultOrganizationId "org_" .invalidOrganizationId
  validateOptionalId record.defaultProjectId "prj_" .invalidProjectId
  if record.primaryEmail.any fun email => !validEmail email then .error .invalidEmail
  else if trim record.displayName = "" then .error .invalidDisplayName
  else if record.resourceVersion < 1 then .error .invalidResourceVersion
  else .ok ()

end Validation

section Users

variable (users : Index PlatformUserRecord)

def recordUser (record : PlatformUserRecord) : Except PlatformUserError (Index PlatformUserRecord) := do
  validatePlatformUserRecord record
  .ok (users.insert record.userId record)

/-- A user whose status is deleted is not shown. -/
def userById (userId : String) : Option PlatformUserRecord :=
  (users.lookup userId).filter (·.status != .deleted)

/-- The map after the call and its answer: the user is written before it is checked. -/
def updateUserStatus (userId : String) (expectedVersion : Int) (status : PlatformUserStatus) :
    Index PlatformUserRecord × Except PlatformUserError PlatformUserRecord :=
  if expectedVersion < 1 then (users, .error .invalidResourceVersion)
  else match users.lookup userId with
  | none => (users, .error .unknownUser)
  | some user =>
    if user.status = .deleted then (users, .error .unknownUser)
    else if user.resourceVersion ≠ expectedVersion then (users, .error .staleResourceVersion)
    else
      let updated := { user with status, resourceVersion := user.resourceVersion + 1 }
      (users.insert userId updated, do
        validatePlatformUserRecord updated
        .ok updated)

def ensureUserCanLogin (userId : String) : Result Unit :=
  match users.lookup userId with
  | none => .ok ()
  | some user => if user.status.acceptsAccess then .ok () else .error (.authenticationFailed "principal_disabled")

end Users

inductive PlatformAuthSessionStatus
  | active
  | revoked
  | expired
  | principalDisabled
deriving DecidableEq, Repr

structure PlatformAuthSessionRecord where
  sessionId : String
  tokenHash : String
  actor : AuthenticatedActor
  status : PlatformAuthSessionStatus
deriving DecidableEq, Repr

inductive AuthError
  | emptySessionId
  | emptyTokenHash
  | emptyBearerToken
  | sessionNotFound
  | sessionRevoked
  | sessionExpired
  | principalDisabled
deriving DecidableEq, Repr

def AuthError.asStr : AuthError → String
  | .emptySessionId => "session_id_empty"
  | .emptyTokenHash => "session_token_hash_empty"
  | .emptyBearerToken => "bearer_token_empty"
  | .sessionNotFound => "auth_session_not_found"
  | .sessionRevoked => "auth_session_revoked"
  | .sessionExpired => "auth_session_expired"
  | .principalDisabled => "principal_disabled"

section Sessions

variable (sessions : Index PlatformAuthSessionRecord)

def validateSessionRecord (record : PlatformAuthSessionRecord) : Except AuthError Unit :=
  if trim record.sessionId = "" then .error .emptySessionId
  else if trim record.tokenHash = "" then .error .emptyTokenHash
  else .ok ()

def recordAuthSession (record : PlatformAuthSessionRecord) : Except AuthError (Index PlatformAuthSessionRecord) := do
  validateSessionRecord record
  .ok (sessions.insert record.tokenHash record)

def activeSessionRecord (record : PlatformAuthSessionRecord) : Except AuthError PlatformAuthSessionRecord :=
  match record.status with
  | .active => .ok record
  | .revoked => .error .sessionRevoked
  | .expired => .error .sessionExpired
  | .principalDisabled => .error .principalDisabled

def authSessionForBearer (hashSessionToken : String → String) (rawBearer : String) :
    Except AuthError PlatformAuthSessionRecord :=
  if trim rawBearer = "" then .error .emptyBearerToken
  else match sessions.lookup (hashSessionToken (trim rawBearer)) with
  | none => .error .sessionNotFound
  | some record => activeSessionRecord record

def disableAuthSessionsForPrincipal (tenantId principalId : String) : Index PlatformAuthSessionRecord :=
  mapValues (fun record =>
    if record.actor.tenantId == tenantId && record.actor.principalId == principalId && record.status == .active then
      { record with status := .principalDisabled }
    else record) sessions

def bearerToken (authorization : String) : Option String :=
  let value := trim authorization
  if startsWith value "Bearer " then
    let token := trim (String.ofList (value.toList.drop 7))
    if token = "" then none else some token
  else none

/-- The actor of an `Authorization` header; a token that is no session's may be a credential's. -/
def authenticatedActorFromHeaders (hashSessionToken : String → String)
    (credential : String → Result AuthenticatedActor) (authorization : String) : Result AuthenticatedActor :=
  match bearerToken authorization with
  | none => .error (.authenticationFailed "invalid_bearer_authorization")
  | some rawToken =>
    match authSessionForBearer sessions hashSessionToken rawToken with
    | .ok record => .ok record.actor
    | .error .sessionNotFound => credential rawToken
    | .error error => .error (.authenticationFailed error.asStr)

end Sessions

section Changes

variable {users : Index PlatformUserRecord} {sessions : Index PlatformAuthSessionRecord}

/-- A status update leaves the users as they are, or gives one user the status and the next version. -/
theorem updateUserStatus_cases (users : Index PlatformUserRecord) (userId : String) (expectedVersion : Int)
    (status : PlatformUserStatus) :
    (updateUserStatus users userId expectedVersion status).1 = users ∧
      (∃ error, (updateUserStatus users userId expectedVersion status).2 = .error error) ∨
    ∃ user, users.lookup userId = some user ∧ user.status ≠ .deleted ∧ user.resourceVersion = expectedVersion ∧
      (updateUserStatus users userId expectedVersion status).1 = users.insert userId
        { user with status, resourceVersion := user.resourceVersion + 1 } ∧
      ∀ updated, (updateUserStatus users userId expectedVersion status).2 = .ok updated →
        updated = { user with status, resourceVersion := user.resourceVersion + 1 } := by
  unfold updateUserStatus
  split
  · exact .inl ⟨rfl, _, rfl⟩
  split
  · exact .inl ⟨rfl, _, rfl⟩
  rename_i user huser
  split
  · exact .inl ⟨rfl, _, rfl⟩
  split
  · exact .inl ⟨rfl, _, rfl⟩
  rename_i hdeleted hversion
  refine .inr ⟨user, huser, hdeleted, not_not.mp hversion, rfl, fun updated hupdated => ?_⟩
  obtain ⟨-, hupdated⟩ := bind_unit_ok.mp hupdated
  cases hupdated
  rfl

theorem disabled_some {tenantId principalId id : String} {record : PlatformAuthSessionRecord}
    (h : (disableAuthSessionsForPrincipal sessions tenantId principalId).lookup id = some record) :
    ∃ old, sessions.lookup id = some old ∧ record.actor = old.actor ∧ (record.status = .active →
      record = old ∧ ¬ (old.actor.tenantId = tenantId ∧ old.actor.principalId = principalId)) := by
  simp only [disableAuthSessionsForPrincipal, lookup_mapValues] at h
  obtain ⟨old, hold, rfl⟩ := Option.map_eq_some_iff.mp h
  refine ⟨old, hold, ?_⟩
  split
  · exact ⟨rfl, fun hactive => by cases hactive⟩
  · rename_i hother
    refine ⟨rfl, fun hactive => ⟨rfl, fun hsame => hother ?_⟩⟩
    simp [hsame.1, hsame.2, hactive]

theorem ensureUserCanLogin_ok {userId : String} {user : PlatformUserRecord}
    (h : ensureUserCanLogin users userId = .ok ()) (huser : users.lookup userId = some user) :
    user.status = .active := by
  simp only [ensureUserCanLogin, huser] at h
  cases hstatus : user.status with
  | active => rfl
  | disabled => simp [hstatus, PlatformUserStatus.acceptsAccess] at h
  | deleted => simp [hstatus, PlatformUserStatus.acceptsAccess] at h

end Changes

end Starweaver.Platform
