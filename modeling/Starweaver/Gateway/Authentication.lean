import Starweaver.Library.Text
import Starweaver.Gateway.Tenancy

namespace Starweaver.Gateway.Tenancy

open Library.AssocMap Library.Calendar Library.Text

/-- The cryptographic code that authentication calls: a digest, and the check of a secret against its stored hash. -/
structure AuthEnv where
  sha256Hex : String → String
  verifySecret : String → String → Result Bool

/-- The first value of each header, if there is one, and its text, if it has one. -/
abbrev HeaderMap := String → Option (Option String)

section Headers

def startsWith (text start : String) : Bool := start.toList.isPrefixOf text.toList

def isAscii (text : String) : Bool := text.toList.all fun c => decide (c.toNat < 128)

def eqIgnoreAsciiCase (a b : String) : Bool := a.toList.map Char.toLower == b.toList.map Char.toLower

def splitOnce (separator : Char) (text : String) : Option (String × String) :=
  match text.toList.dropWhile (· != separator) with
  | [] => none
  | _ :: rest => some (String.ofList (text.toList.takeWhile (· != separator)), String.ofList rest)

def bearerToken (headers : HeaderMap) : Result String :=
  match headers "authorization" with
  | some (some value) =>
    match splitOnce ' ' value with
    | none => .error .authentication
    | some (scheme, rest) =>
      let token := trim rest
      if !eqIgnoreAsciiCase scheme "Bearer" ∨ token = "" then .error .authentication else .ok token
  | _ => .error .authentication

def optionalHeader (headers : HeaderMap) (name : String) : Result (Option String) :=
  match headers name with
  | none => .ok none
  | some none => .error (.badRequest s!"invalid header {name}")
  | some (some value) => .ok (if trim value = "" then none else some (trim value))

def projectIdHeader : String := "x-gateway-project-id"

def csrfTokenHeader : String := "x-gateway-csrf-token"

def sessionTokenPrefix : String := "sws_"

end Headers

structure CredentialedActor extends AuthenticatedActor where
  expiresAt : Option DateTime
  apiKeyAllowedActions : List String
  apiKeyAllowedResources : List String
deriving DecidableEq, Repr

def CredentialedActor.forApiKey (record : ApiKeyRecord) (requestId traceId : String) : CredentialedActor where
  actorId := record.apiKeyId
  actorKind := .apiKey
  tenantId := record.tenantId
  organizationId := record.organizationId
  projectId := record.projectId
  principalId := some record.ownerPrincipalId
  apiKeyId := some record.apiKeyId
  requestId := requestId
  traceId := traceId
  expiresAt := record.expiresAt
  apiKeyAllowedActions := record.allowedActions
  apiKeyAllowedResources := record.allowedResources

def CredentialedActor.forUserSession (membership : ProjectMembershipRecord) (session : AuthSessionRecord)
    (requestId traceId : String) : CredentialedActor where
  actorId := session.authSessionId
  actorKind := .user
  tenantId := membership.tenantId
  organizationId := some membership.organizationId
  projectId := some membership.projectId
  principalId := some session.principalId
  apiKeyId := none
  requestId := requestId
  traceId := traceId
  expiresAt := some session.expiresAt
  apiKeyAllowedActions := []
  apiKeyAllowedResources := []

section Sessions

variable (env : AuthEnv) (store : TenancyStore)

def AuthEnv.sessionTokenHash (rawToken : String) : String := env.sha256Hex rawToken

def verifySessionToken (presentedToken : String) (now : DateTime) : Result AuthSessionRecord :=
  if !isAscii presentedToken || !startsWith presentedToken "sws_" then .error .authentication
  else
    let presentedHash := env.sessionTokenHash presentedToken
    match store.authSessions.lookup presentedHash with
    | none => .error .authentication
    | some session =>
      if session.sessionHash ≠ presentedHash ∨ !session.canAuthenticateAt now then .error .authentication
      else .ok session

def activeProjectMembership (principalId projectId missingReason : String) : Result ProjectMembershipRecord :=
  match store.projectMemberships.lookup (principalId, projectId) with
  | none => .error (.authorization missingReason)
  | some membership =>
    if !membership.status.acceptsAccess then .error (.authorization "project_membership_inactive")
    else .ok membership

def resolveUserSessionActor (session : AuthSessionRecord) (projectId requestId traceId : String) :
    Result CredentialedActor := do
  let membership ←
    activeProjectMembership store session.principalId projectId "user_project_membership_required"
  .ok (.forUserSession membership session requestId traceId)

/-- The project that a session request is about: the one of its header, else the active one of the session. -/
def sessionProjectId (headers : HeaderMap) (session : AuthSessionRecord) : Result String := do
  match (← optionalHeader headers projectIdHeader).or session.activeProjectId with
  | none => .error .authentication
  | some projectId => .ok projectId

def verifyAuthSessionFromHeaders (headers : HeaderMap) (now : DateTime) : Result AuthSessionRecord := do
  let presentedToken ← bearerToken headers
  if !startsWith presentedToken sessionTokenPrefix then .error .authentication
  else
    let session ← verifySessionToken env store presentedToken now
    match store.users.lookup session.principalId with
    | none => .error .authentication
    | some user => if user.status ≠ .active then .error .authentication else .ok session

def AuthEnv.authSessionCsrfToken (session : AuthSessionRecord) : String :=
  env.sha256Hex s!"gateway-csrf-v1:{session.authSessionId}:{session.sessionHash}"

def verifyMutatingAuthSessionFromHeaders (headers : HeaderMap) (now : DateTime) : Result AuthSessionRecord := do
  let session ← verifyAuthSessionFromHeaders env store headers now
  match headers csrfTokenHeader with
  | some (some presented) =>
    if presented = env.authSessionCsrfToken session then .ok session else .error .authentication
  | _ => .error .authentication

def activeOrganizationForSession (session : AuthSessionRecord) (organizationId : String) :
    Result OrganizationRecord :=
  match (store.organizations.lookup organizationId).filter (·.tenantId == session.tenantId) with
  | none => .error (.notFound s!"organization {organizationId}")
  | some organization =>
    if !organization.status.acceptsAccess then .error (.authorization "organization_inactive")
    else if !(store.organizationMembershipsForPrincipal session.principalId).any fun membership =>
        membership.tenantId == session.tenantId && membership.organizationId == organizationId &&
          membership.status.acceptsAccess then
      .error (.authorization "organization_membership_required")
    else .ok organization

def activeProjectForSession (session : AuthSessionRecord) (projectId : String)
    (requiredOrganizationId : Option String) : Result ProjectRecord :=
  match (store.projects.lookup projectId).filter (·.tenantId == session.tenantId) with
  | none => .error (.notFound s!"project {projectId}")
  | some project =>
    if requiredOrganizationId.any fun organizationId => organizationId != project.organizationId then
      .error (.authorization "project_organization_mismatch")
    else if !project.status.acceptsAccess then .error (.authorization "project_inactive")
    else do
      let _ ← activeOrganizationForSession store session project.organizationId
      match store.projectMemberships.lookup (session.principalId, projectId) with
      | none => .error (.authorization "project_membership_required")
      | some membership =>
        if !membership.status.acceptsAccess then .error (.authorization "project_membership_inactive")
        else .ok project

end Sessions

section ApiKeys

variable (env : AuthEnv) (store : TenancyStore)

def apiKeyPrefixLen : Nat := 12

def keyPrefix (rawKey : String) : Result String :=
  let prefixLen := "swg_".toList.length + apiKeyPrefixLen
  if !isAscii rawKey || !startsWith rawKey "swg_" || decide (rawKey.toList.length < prefixLen) then .error .authentication
  else .ok (String.ofList (rawKey.toList.take prefixLen))

def apiKeyFailedAuthWindowSeconds : Int := 60

def apiKeyFailedAuthMaxAttempts : Nat := 8

def apiKeyCandidateLimit : Nat := 8

def retainFreshFailedAuth (attempts : List DateTime) (now : DateTime) : List DateTime :=
  attempts.filter fun attempt => decide (now.addSeconds (-apiKeyFailedAuthWindowSeconds) < attempt)

def TenancyStore.failedApiKeyAuth (throttleKey : String) (now : DateTime) : List DateTime × TenancyStore :=
  let attempts := retainFreshFailedAuth ((store.apiKeyFailedAuth.lookup throttleKey).getD []) now
  (attempts, { store with apiKeyFailedAuth := store.apiKeyFailedAuth.insert throttleKey attempts })

def TenancyStore.recordApiKeyFailedAuth (throttleKey : String) (now : DateTime) : TenancyStore :=
  let (attempts, store) := store.failedApiKeyAuth throttleKey now
  { store with apiKeyFailedAuth := store.apiKeyFailedAuth.insert throttleKey (attempts ++ [now]) }

def TenancyStore.recordApiKeyLastUsed (throttleKey : String) : TenancyStore :=
  { store with apiKeyFailedAuth := store.apiKeyFailedAuth.erase throttleKey }

def TenancyStore.candidatesByPrefix (start : String) : List ApiKeyRecord :=
  ((store.apiKeys.lookup start).getD []).take apiKeyCandidateLimit

def findApiKey (presentedKey start : String) (now : DateTime) : List ApiKeyRecord → Result (Option ApiKeyRecord)
  | [] => .ok none
  | candidate :: candidates =>
    if candidate.keyPrefix ≠ start ∨ !candidate.canAuthenticateAt now then findApiKey presentedKey start now candidates
    else do
      if ← env.verifySecret presentedKey candidate.secretHash then .ok (some candidate)
      else findApiKey presentedKey start now candidates

def verifyApiKey (presentedKey requestId traceId : String) (now : DateTime) :
    Result CredentialedActor × TenancyStore :=
  match keyPrefix presentedKey with
  | .error error => (.error error, store)
  | .ok start =>
    let (attempts, store) := store.failedApiKeyAuth start now
    if apiKeyFailedAuthMaxAttempts ≤ attempts.length then (.error .authentication, store)
    else if store.candidatesByPrefix start = [] then (.error .authentication, store.recordApiKeyFailedAuth start now)
    else match findApiKey env presentedKey start now (store.candidatesByPrefix start) with
      | .error error => (.error error, store)
      | .ok none => (.error .authentication, store.recordApiKeyFailedAuth start now)
      | .ok (some candidate) => (.ok (.forApiKey candidate requestId traceId), store.recordApiKeyLastUsed start)

def authenticateRequest (headers : HeaderMap) (requestId traceId : String) (now : DateTime) :
    Result CredentialedActor × TenancyStore :=
  match bearerToken headers with
  | .error error => (.error error, store)
  | .ok presentedKey =>
    if startsWith presentedKey sessionTokenPrefix then
      ((do
        let session ← verifySessionToken env store presentedKey now
        let projectId ← sessionProjectId headers session
        resolveUserSessionActor store session projectId requestId traceId : Result CredentialedActor), store)
    else verifyApiKey env store presentedKey requestId traceId now

end ApiKeys

end Starweaver.Gateway.Tenancy
