import Starweaver.Platform.AdminHandlers
import Starweaver.Platform.Identities

namespace Starweaver.Platform

open Library.AssocMap Library.OrderedMap Library.Text

/-- The in-memory stores that a login reads and writes. -/
structure LoginStores where
  users : Index PlatformUserRecord
  externalIdentities : Index PlatformExternalIdentityRecord
  providers : Index OidcLoginProviderRecord
  attempts : Index OidcLoginAttemptRecord
  sessions : Index PlatformAuthSessionRecord
  access : AccessStore

structure OidcLoginCompletionRecord where
  loginAttemptId : String
  tenantId : String
  organizationId : String
  projectId : String
  userId : String
  identityProviderId : String
  externalIdentityId : String
  organizationMemberId : String
  projectMemberId : String
  organizationRoleBindingId : String
  providerSubject : String
  email : Option String
  emailVerified : Bool
  userDisplayName : String
  session : PlatformAuthSessionRecord
  consumedAtUnix : Int
deriving DecidableEq, Repr

/-- The hashes of the service: of session tokens, of the three secrets of a login attempt, and of a subject. -/
structure LoginHashes where
  sessionToken : String → String
  loginState : String → String
  loginNonce : String → String
  pkceVerifier : String → String
  stableOidcSubjectSuffix : String → String → String → String

section Completion

variable (hashes : LoginHashes)

def sessionTokenStart : String := "swp_sess_"

def sessionIdPart (sessionToken : String) : String :=
  String.ofList ((sessionToken.toList.drop sessionTokenStart.length).take 16)

def oidcLoginCompletionRecord (provider : OidcLoginProviderRecord) (attempt : OidcLoginAttemptRecord)
    (claims : OidcVerifiedClaims) (sessionToken : String) (nowUnix : Int) : OidcLoginCompletionRecord :=
  let suffix := hashes.stableOidcSubjectSuffix provider.tenantId provider.identityProviderId (trim claims.subject)
  let organizationId := "org_oidc_" ++ suffix
  let projectId := "prj_oidc_" ++ suffix
  let userId := "usr_oidc_" ++ suffix
  { loginAttemptId := attempt.loginAttemptId
    tenantId := provider.tenantId
    organizationId
    projectId
    userId
    identityProviderId := provider.identityProviderId
    externalIdentityId := "xid_oidc_" ++ suffix
    organizationMemberId := "om_oidc_" ++ suffix
    projectMemberId := "pm_oidc_" ++ suffix
    organizationRoleBindingId := "rb_oidc_org_admin_" ++ suffix
    providerSubject := claims.subject
    email := claims.email
    emailVerified := claims.emailVerified
    userDisplayName := (((claims.displayName.map trim).filter (· != "")).or claims.email).getD claims.subject
    session :=
      ⟨"sess_oidc_" ++ sessionIdPart sessionToken, hashes.sessionToken sessionToken,
        ⟨provider.tenantId, some organizationId, some projectId, userId, .user⟩, .active⟩
    consumedAtUnix := nowUnix }

end Completion

namespace OidcLoginCompletionRecord

variable (completion : OidcLoginCompletionRecord)

def user (existing : Option PlatformUserRecord) : PlatformUserRecord where
  userId := completion.userId
  tenantId := completion.tenantId
  defaultOrganizationId := some completion.organizationId
  defaultProjectId := some completion.projectId
  primaryEmail := completion.email
  displayName := completion.userDisplayName
  status := (existing.map (·.status)).getD .active
  resourceVersion := (existing.map (·.resourceVersion + 1)).getD 1

def externalIdentity : PlatformExternalIdentityRecord :=
  ⟨completion.externalIdentityId, completion.tenantId, completion.userId, completion.identityProviderId, "oidc",
    completion.providerSubject, completion.email, completion.emailVerified, .active⟩

def organizationMember : PlatformOrganizationMembershipRecord :=
  ⟨completion.organizationMemberId, completion.tenantId, completion.organizationId, completion.userId, "user",
    .active, 1⟩

def projectMember : PlatformProjectMembershipRecord :=
  ⟨completion.projectMemberId, completion.tenantId, completion.organizationId, completion.projectId,
    completion.userId, some completion.organizationMemberId, "user", .active, 1⟩

def roleBinding : PlatformRoleBindingRecord :=
  ⟨completion.organizationRoleBindingId, completion.tenantId, some completion.organizationId, none,
    completion.userId, "organization_admin", .active, 1⟩

/-- The attempt is the one that the completion names. -/
def names (attempt : OidcLoginAttemptRecord) : Bool :=
  attempt.loginAttemptId == completion.loginAttemptId && attempt.tenantId == completion.tenantId &&
    attempt.identityProviderId == completion.identityProviderId

end OidcLoginCompletionRecord

section Attempts

variable (attempts : Index OidcLoginAttemptRecord) (completion : OidcLoginCompletionRecord)

def attemptUnavailable : ServiceError := .authenticationFailed "oidc_login_attempt_unavailable"

/-- The first part of the consumption, under the read lock: the key of the attempt. -/
def findAttempt : Result String :=
  match findOrdered completion.names attempts with
  | none => .error attemptUnavailable
  | some (stateHash, _) => .ok stateHash

/-- The second part, under the write lock: the attempt is checked again before it is marked. -/
def consumeAttempt (stateHash : String) : Result (Index OidcLoginAttemptRecord) :=
  match attempts.lookup stateHash with
  | none => .error attemptUnavailable
  | some attempt =>
    if attempt.status ≠ .active ∨ attempt.expiresAtUnix ≤ completion.consumedAtUnix ∨ !completion.names attempt then
      .error attemptUnavailable
    else .ok (attempts.insert stateHash (attempt.consumed completion.consumedAtUnix))

end Attempts

/-- The accesses of a login completion to the stores, each under a lock of its own. -/
inductive LoginStage
  | readUser
  | recordUser
  | linkIdentity
  | findAttempt
  | consumeAttempt
  | recordSession
  | recordOrganizationMember
  | recordProjectMember
  | recordRoleBinding
deriving DecidableEq, Repr

def completionStages : List LoginStage :=
  [.readUser, .recordUser, .linkIdentity, .findAttempt, .consumeAttempt, .recordSession, .recordOrganizationMember,
    .recordProjectMember, .recordRoleBinding]

/-- What a completion has read so far. -/
structure LoginProgress where
  existingUser : Option PlatformUserRecord
  stateHash : Option String
deriving DecidableEq, Repr

def LoginProgress.start : LoginProgress := ⟨none, none⟩

/-- The stores after an access, with the error of the service. -/
def wrote {ε α : Type} (stores : LoginStores) (progress : LoginProgress) (toService : ε → ServiceError)
    (write : α → LoginStores) : Except ε α → LoginStores × Result LoginProgress
  | .ok value => (write value, .ok progress)
  | .error error => (stores, .error (toService error))

def LoginStage.run (completion : OidcLoginCompletionRecord) (progress : LoginProgress) (stores : LoginStores) :
    LoginStage → LoginStores × Result LoginProgress
  | .readUser => (stores, .ok { progress with existingUser := stores.users.lookup completion.userId })
  | .recordUser =>
    wrote stores progress userErrorToService (fun users => { stores with users })
      (Platform.recordUser stores.users (completion.user progress.existingUser))
  | .linkIdentity =>
    let (externalIdentities, answer) := upsertExternalIdentity stores.externalIdentities completion.externalIdentity
    ({ stores with externalIdentities }, (answer.map fun _ => progress).mapError externalIdentityErrorToService)
  | .findAttempt =>
    (stores, (Platform.findAttempt stores.attempts completion).map
      fun stateHash => { progress with stateHash := some stateHash })
  | .consumeAttempt =>
    match progress.stateHash with
    | none => (stores, .error attemptUnavailable)
    | some stateHash =>
      wrote stores progress id (fun attempts => { stores with attempts })
        (Platform.consumeAttempt stores.attempts completion stateHash)
  | .recordSession =>
    wrote stores progress (fun error => .authenticationFailed error.asStr) (fun sessions => { stores with sessions })
      (recordAuthSession stores.sessions completion.session)
  | .recordOrganizationMember =>
    wrote stores progress membershipErrorToService
      (fun memberships => { stores with access := { stores.access with memberships } })
      (Platform.recordOrganizationMember stores.access.memberships completion.organizationMember)
  | .recordProjectMember =>
    wrote stores progress membershipErrorToService
      (fun memberships => { stores with access := { stores.access with memberships } })
      (Platform.recordProjectMember stores.access.memberships completion.projectMember)
  | .recordRoleBinding =>
    wrote stores progress roleBindingErrorToService
      (fun roleBindings => { stores with access := { stores.access with roleBindings } })
      (Platform.recordRoleBinding stores.access.roleBindings completion.roleBinding)

/-- The stages in order; the first error ends the call, and what was written stays. -/
def runStages (completion : OidcLoginCompletionRecord) :
    List LoginStage → LoginProgress → LoginStores → LoginStores × Result Unit
  | [], _, stores => (stores, .ok ())
  | stage :: stages, progress, stores =>
    match stage.run completion progress stores with
    | (stores, .ok progress) => runStages completion stages progress stores
    | (stores, .error error) => (stores, .error error)

theorem wrote_keeps {ε α β : Type} (field : LoginStores → β) {stores : LoginStores} {progress : LoginProgress}
    {toService : ε → ServiceError} {write : α → LoginStores} (hwrite : ∀ value, field (write value) = field stores)
    (result : Except ε α) : field (wrote stores progress toService write result).1 = field stores := by
  cases result with
  | ok value => exact hwrite value
  | error error => rfl

theorem wrote_cases {ε α : Type} (progress : LoginProgress) (stores : LoginStores) (toService : ε → ServiceError) (write : α → LoginStores)
    (result : Except ε α) :
    (∃ value, result = .ok value ∧ wrote stores progress toService write result = (write value, .ok progress)) ∨
      ∃ error, wrote stores progress toService write result = (stores, .error error) := by
  cases result with
  | ok value => exact .inl ⟨value, rfl, rfl⟩
  | error error => exact .inr ⟨_, rfl⟩

theorem wrote_progress {ε α : Type} (progress : LoginProgress) (stores : LoginStores) {toService : ε → ServiceError} {write : α → LoginStores}
    {result : Except ε α} {next : LoginProgress} (h : (wrote stores progress toService write result).2 = .ok next) : next = progress := by
  cases result with
  | ok value =>
    cases h
    rfl
  | error error => cases h

def completeOidcLogin (stores : LoginStores) (completion : OidcLoginCompletionRecord) : LoginStores × Result Unit :=
  runStages completion completionStages .start stores

end Starweaver.Platform
