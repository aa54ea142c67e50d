import Starweaver.Library.Machine
import Starweaver.Platform.Logins

namespace Starweaver.Platform

open Library.AssocMap Library.Machine Library.Text

structure OidcLoginCallbackRequest where
  state : String
  code : String
  nonce : String
  codeVerifier : String
deriving DecidableEq, Repr

structure UpdatePlatformUserStatusRequest where
  expectedVersion : Int
  status : String
  strongAuthConfirmation : Option String
deriving DecidableEq, Repr

structure PlatformSingleUserConfig where
  username : String
  password : String
  userDisplayName : String
  userPrimaryEmail : Option String
deriving DecidableEq, Repr

/-- The service besides its stores, as a login sees it. -/
structure LoginEnv (κ : Type) where
  grants : List ActionGrant
  hashes : LoginHashes
  library : TokenLibrary κ
  credential : String → Result AuthenticatedActor
  singleUserAuth : Option PlatformSingleUserConfig

section Callback

variable {κ : Type} (env : LoginEnv κ)

def validateOidcCallbackRequest (request : OidcLoginCallbackRequest) : Result Unit :=
  if trim request.state = "" then .error (.authenticationFailed "oidc_state_empty")
  else if trim request.code = "" then .error (.authenticationFailed "oidc_authorization_code_empty")
  else if trim request.nonce = "" then .error (.authenticationFailed "oidc_nonce_empty")
  else if trim request.codeVerifier = "" then .error (.authenticationFailed "oidc_pkce_verifier_empty")
  else .ok ()

def validateOidcCallbackAttempt (hashes : LoginHashes) (provider : OidcLoginProviderRecord)
    (attempt : OidcLoginAttemptRecord) (request : OidcLoginCallbackRequest) (nowUnix : Int) : Result Unit :=
  if provider.status ≠ .active then .error (.authenticationFailed "oidc_provider_inactive")
  else if attempt.tenantId ≠ provider.tenantId ∨ attempt.identityProviderId ≠ provider.identityProviderId ∨
      attempt.status ≠ .active ∨ attempt.expiresAtUnix ≤ nowUnix then .error attemptUnavailable
  else if attempt.stateHash ≠ hashes.loginState (trim request.state) then .error attemptUnavailable
  else if attempt.nonceHash ≠ hashes.loginNonce (trim request.nonce) then
    .error (.authenticationFailed "oidc_nonce_mismatch")
  else if attempt.pkceVerifierHash ≠ hashes.pkceVerifier (trim request.codeVerifier) then
    .error (.authenticationFailed "oidc_pkce_verifier_mismatch")
  else .ok ()

def oidcMetadataNeedsDiscovery (provider : OidcLoginProviderRecord) : Bool :=
  trim provider.authorizationEndpoint == "" || trim provider.tokenEndpoint == "" || trim provider.jwksUri == ""

/-- A call of the handler, with the time at which it came. -/
structure CallbackCall where
  identityProviderId : String
  request : OidcLoginCallbackRequest
  nowUnix : Int
deriving DecidableEq, Repr

/-- What the provider answers over the network, and the token that the service draws for the session. -/
structure ProviderAnswers (κ : Type) where
  discovery : OidcDiscoveryDocument
  idToken : String
  jwks : List (Jwk κ)
  sessionToken : String

/-- The locals of the handler once the ID token is verified. -/
structure VerifiedLogin (κ : Type) where
  call : CallbackCall
  provider : OidcLoginProviderRecord
  attempt : OidcLoginAttemptRecord
  metadata : OidcResolvedProviderMetadata
  jwks : List (Jwk κ)
  idToken : String
  claims : OidcVerifiedClaims
  sessionToken : String
deriving DecidableEq

def VerifiedLogin.completion (hashes : LoginHashes) (login : VerifiedLogin κ) : OidcLoginCompletionRecord :=
  oidcLoginCompletionRecord hashes login.provider login.attempt login.claims login.sessionToken login.call.nowUnix

def oidcValidationErrorToService (error : OidcValidationError) : ServiceError := .authenticationFailed error.asStr

/-- The handler between its reads of the provider and the attempt and its look at the user. -/
def verifyLogin (call : CallbackCall) (provider : OidcLoginProviderRecord) (attempt : OidcLoginAttemptRecord)
    (answers : ProviderAnswers κ) : Result (VerifiedLogin κ) := do
  let discovery := if oidcMetadataNeedsDiscovery provider then some answers.discovery else none
  let metadata ← (resolveOidcProviderMetadata provider discovery).mapError oidcValidationErrorToService
  if trim answers.idToken = "" then .error (.authenticationFailed "oidc_id_token_missing")
  else do
    let claims ← (validateOidcIdToken env.library metadata answers.jwks answers.idToken call.request.nonce
      call.nowUnix).mapError oidcValidationErrorToService
    .ok ⟨call, provider, attempt, metadata, answers.jwks, answers.idToken, claims, answers.sessionToken⟩

end Callback

section SingleUser

def singleUserTenantId : String := "ten_single_user"

def singleUserOrganizationId : String := "org_single_user"

def singleUserProjectId : String := "prj_single_user"

def singleUserId : String := "usr_single_user"

def singleUserActor : AuthenticatedActor :=
  ⟨singleUserTenantId, some singleUserOrganizationId, some singleUserProjectId, singleUserId, .user⟩

def PlatformSingleUserConfig.credentialsMatch (config : PlatformSingleUserConfig) (username password : String) : Bool :=
  config.username == username && config.password == password

def singleUserSession (hashes : LoginHashes) (sessionToken : String) : PlatformAuthSessionRecord :=
  ⟨"sess_single_user_" ++ sessionIdPart sessionToken, hashes.sessionToken sessionToken, singleUserActor, .active⟩

def singleUserRecord (config : PlatformSingleUserConfig) : PlatformUserRecord :=
  ⟨singleUserId, singleUserTenantId, some singleUserOrganizationId, some singleUserProjectId,
    config.userPrimaryEmail, config.userDisplayName, .active, 1⟩

/-- The writes of a single-user login, each under a lock of its own. -/
inductive SingleUserStage
  | recordSession
  | recordUser
  | recordExternalIdentity
  | recordOrganizationMember
  | recordProjectMember
  | recordRoleBinding
deriving DecidableEq, Repr

def singleUserStages : List SingleUserStage :=
  [.recordSession, .recordUser, .recordExternalIdentity, .recordOrganizationMember, .recordProjectMember,
    .recordRoleBinding]

def SingleUserStage.run (config : PlatformSingleUserConfig) (session : PlatformAuthSessionRecord)
    (stores : LoginStores) : SingleUserStage → LoginStores × Result LoginProgress
  | .recordSession =>
    wrote stores .start (fun error => .authenticationFailed error.asStr) (fun sessions => { stores with sessions })
      (recordAuthSession stores.sessions session)
  | .recordUser =>
    wrote stores .start userErrorToService (fun users => { stores with users })
      (Platform.recordUser stores.users (singleUserRecord config))
  | .recordExternalIdentity =>
    wrote stores .start externalIdentityErrorToService (fun externalIdentities => { stores with externalIdentities })
      (Platform.recordExternalIdentity stores.externalIdentities
        ⟨"xid_single_user", singleUserTenantId, singleUserId, "idp_single_user", "single_user", config.username,
          config.userPrimaryEmail, false, .active⟩)
  | .recordOrganizationMember =>
    wrote stores .start membershipErrorToService
      (fun memberships => { stores with access := { stores.access with memberships } })
      (Platform.recordOrganizationMember stores.access.memberships
        ⟨"om_single_user", singleUserTenantId, singleUserOrganizationId, singleUserId, "user", .active, 1⟩)
  | .recordProjectMember =>
    wrote stores .start membershipErrorToService
      (fun memberships => { stores with access := { stores.access with memberships } })
      (Platform.recordProjectMember stores.access.memberships
        ⟨"pm_single_user", singleUserTenantId, singleUserOrganizationId, singleUserProjectId, singleUserId,
          some "om_single_user", "user", .active, 1⟩)
  | .recordRoleBinding =>
    wrote stores .start roleBindingErrorToService
      (fun roleBindings => { stores with access := { stores.access with roleBindings } })
      (Platform.recordRoleBinding stores.access.roleBindings
        ⟨"rb_single_user_tenant_owner", singleUserTenantId, none, none, singleUserId, "tenant_owner", .active, 1⟩)

end SingleUser

section UserStatus

def validateUserId (userId : String) : Result Unit :=
  if startsWith userId "usr_" then .ok () else .error (.badRequest "user_id_invalid")

def ensureActorTenant (actor : AuthenticatedActor) (tenantId : String) : Result Unit :=
  if actor.tenantId = tenantId then .ok () else .error (.forbidden "tenant_mismatch")

def platformUserResource (user : PlatformUserRecord) : ResourceRef := .tenant "User" user.tenantId user.userId

def requireStrongAuthConfirmation (value : Option String) : Result Unit :=
  if value.any fun value => trim value == "confirm" then .ok ()
  else .error (.forbidden "strong_auth_confirmation_required")

def platformUserStatusFromRequest (value : String) : Result PlatformUserStatus :=
  match PlatformUserStatus.fromId (trim value) with
  | none => .error (.badRequest "user_status_invalid")
  | some status => .ok status

/-- The checks of the update handler once it has the actor and the user. -/
def authorizeStatusUpdate (stores : LoginStores) (grants : List ActionGrant) (actor : AuthenticatedActor)
    (before : PlatformUserRecord) (request : UpdatePlatformUserStatusRequest) : Result PlatformUserStatus := do
  ensureActorTenant actor before.tenantId
  authorizeServiceAction stores.access grants actor .userWrite (platformUserResource before)
  requireStrongAuthConfirmation request.strongAuthConfirmation
  platformUserStatusFromRequest request.status

end UserStatus

/-- How far a call has come, with its locals. A step of a call is one access to a store. -/
inductive CallPhase (κ : Type)
  | readProvider (call : CallbackCall)
  | readAttempt (call : CallbackCall) (provider : OidcLoginProviderRecord)
  | exchange (call : CallbackCall) (provider : OidcLoginProviderRecord) (attempt : OidcLoginAttemptRecord)
  | checkUser (login : VerifiedLogin κ)
  | completing (login : VerifiedLogin κ) (progress : LoginProgress) (remaining : List LoginStage)
  | checkSingleUser (config : PlatformSingleUserConfig) (sessionToken : String)
  | recordingSingleUser (config : PlatformSingleUserConfig) (sessionToken : String)
    (remaining : List SingleUserStage)
  | authenticate (authorization userId : String) (request : UpdatePlatformUserStatusRequest)
  | readUser (actor : AuthenticatedActor) (userId : String) (request : UpdatePlatformUserStatusRequest)
  | authorizeUpdate (actor : AuthenticatedActor) (before : PlatformUserRecord) (userId : String)
    (request : UpdatePlatformUserStatusRequest)
  | writeStatus (userId : String) (expectedVersion : Int) (status : PlatformUserStatus)
  | disableSessions (updated : PlatformUserRecord)
  | audit (updated : PlatformUserRecord)
  | returned (answer : Result Unit)

/-- What a step did, for the history of a run. -/
inductive LoginEvent (κ : Type)
  | attemptConsumed (login : VerifiedLogin κ) (attempt : OidcLoginAttemptRecord)
  | sessionRecorded (login : VerifiedLogin κ)
  | statusWritten (user : PlatformUserRecord)
  | statusUpdated (user : PlatformUserRecord)
deriving DecidableEq

/-- The stores, the phase of the call and the event after a step. -/
abbrev Moved (κ : Type) := LoginStores × CallPhase κ × Option (LoginEvent κ)

section Advance

variable {κ : Type} (env : LoginEnv κ) (stores : LoginStores)

def LoginStage.event (login : VerifiedLogin κ) (progress : LoginProgress) : LoginStage → Option (LoginEvent κ)
  | .consumeAttempt => (progress.stateHash.bind stores.attempts.lookup).map (.attemptConsumed login)
  | .recordSession => some (.sessionRecorded login)
  | _ => none

/-- The next phase once an answer is there; an error ends the call. -/
def onAnswer {α : Type} (answer : Result α) (next : α → CallPhase κ) : CallPhase κ :=
  match answer with
  | .ok value => next value
  | .error error => .returned (.error error)

/-- The write of a status shows in the stored user, also when the answer is an error. -/
def statusWrite (userId : String) (expectedVersion : Int) (status : PlatformUserStatus) : Moved κ :=
  let (users, answer) := updateUserStatus stores.users userId expectedVersion status
  ({ stores with users },
    onAnswer (answer.mapError userErrorToService) fun updated =>
      if updated.status.acceptsAccess then .audit updated else .disableSessions updated,
    if users.lookup userId = stores.users.lookup userId then none else (users.lookup userId).map .statusWritten)

def CallPhase.advance : CallPhase κ → Moved κ
  | .readProvider call =>
    match stores.providers.lookup call.identityProviderId with
    | none => (stores, .returned (.error .resourceNotFound), none)
    | some provider => (stores, .readAttempt call provider, none)
  | .readAttempt call provider =>
    match stores.attempts.lookup (env.hashes.loginState (trim call.request.state)) with
    | none => (stores, .returned (.error attemptUnavailable), none)
    | some attempt =>
      (stores, onAnswer (validateOidcCallbackAttempt env.hashes provider attempt call.request call.nowUnix)
        fun _ => .exchange call provider attempt, none)
  | .exchange call provider attempt => (stores, .exchange call provider attempt, none)
  | .checkUser login =>
    (stores, onAnswer (ensureUserCanLogin stores.users (login.completion env.hashes).userId)
      fun _ => .completing login .start completionStages, none)
  | .completing _ _ [] => (stores, .returned (.ok ()), none)
  | .completing login progress (stage :: remaining) =>
    match stage.run (login.completion env.hashes) progress stores with
    | (changed, .error error) => (changed, .returned (.error error), none)
    | (changed, .ok next) => (changed, .completing login next remaining, stage.event stores login progress)
  | .checkSingleUser config sessionToken =>
    (stores, onAnswer (ensureUserCanLogin stores.users singleUserId)
      fun _ => .recordingSingleUser config sessionToken singleUserStages, none)
  | .recordingSingleUser _ _ [] => (stores, .returned (.ok ()), none)
  | .recordingSingleUser config sessionToken (stage :: remaining) =>
    let (changed, answer) := stage.run config (singleUserSession env.hashes sessionToken) stores
    (changed, onAnswer answer fun _ => .recordingSingleUser config sessionToken remaining, none)
  | .authenticate authorization userId request =>
    (stores, onAnswer (authenticatedActorFromHeaders stores.sessions env.hashes.sessionToken env.credential authorization)
      fun actor => .readUser actor userId request, none)
  | .readUser actor userId request =>
    match userById stores.users userId with
    | none => (stores, .returned (.error .resourceNotFound), none)
    | some before => (stores, .authorizeUpdate actor before userId request, none)
  | .authorizeUpdate actor before userId request =>
    (stores, onAnswer (authorizeStatusUpdate stores env.grants actor before request)
      fun status => .writeStatus userId request.expectedVersion status, none)
  | .writeStatus userId expectedVersion status => statusWrite stores userId expectedVersion status
  | .disableSessions updated =>
    ({ stores with sessions := disableAuthSessionsForPrincipal stores.sessions updated.tenantId updated.userId },
      .audit updated, none)
  | .audit updated => (stores, .returned (.ok ()), some (.statusUpdated updated))
  | .returned answer => (stores, .returned answer, none)

end Advance

/-- The stores, the calls that have come in, and the history of the run with its last event first. -/
structure LoginMachine (κ : Type) where
  stores : LoginStores
  calls : AList fun _ : Nat => CallPhase κ
  history : List (Nat × LoginEvent κ)

inductive LoginStep (κ : Type)
  | callback (id : Nat) (call : CallbackCall)
  | singleUserLogin (id : Nat) (username password sessionToken : String)
  | updateUserStatus (id : Nat) (authorization userId : String) (request : UpdatePlatformUserStatusRequest)
  | advance (id : Nat)
  | exchange (id : Nat) (answers : ProviderAnswers κ)
  | interrupt (id : Nat) (error : ServiceError)

namespace LoginMachine

variable {κ : Type} (env : LoginEnv κ) (machine : LoginMachine κ)

def start (stores : LoginStores) : LoginMachine κ := ⟨stores, ∅, []⟩

def begins (id : Nat) (phase : CallPhase κ) : Option (LoginMachine κ) :=
  match machine.calls.lookup id with
  | none => some { machine with calls := machine.calls.insert id phase }
  | some _ => none

def moves (id : Nat) (moved : Moved κ) : LoginMachine κ where
  stores := moved.1
  calls := machine.calls.insert id moved.2.1
  history := moved.2.2.toList.map (fun event => (id, event)) ++ machine.history

/-- The network and the audit log are outside: they answer a call, or end it with an error. -/
def step : LoginStep κ → Option (LoginMachine κ)
  | .callback id call =>
    machine.begins id (onAnswer (validateOidcCallbackRequest call.request) fun _ => .readProvider call)
  | .singleUserLogin id username password sessionToken =>
    env.singleUserAuth.bind fun config =>
      machine.begins id
        (if config.credentialsMatch username password then .checkSingleUser config sessionToken
        else .returned (.error (.authenticationFailed "single_user_credentials_invalid")))
  | .updateUserStatus id authorization userId request =>
    machine.begins id (onAnswer (validateUserId userId) fun _ => .authenticate authorization userId request)
  | .advance id => (machine.calls.lookup id).map fun phase => machine.moves id (phase.advance env machine.stores)
  | .exchange id answers =>
    match machine.calls.lookup id with
    | some (.exchange call provider attempt) =>
      some (machine.moves id (machine.stores, onAnswer (verifyLogin env call provider attempt answers) .checkUser, none))
    | _ => none
  | .interrupt id error =>
    match machine.calls.lookup id with
    | some (.exchange _ _ _) | some (.audit _) =>
      some (machine.moves id (machine.stores, .returned (.error error), none))
    | _ => none

end LoginMachine

section Moves

variable {κ : Type} {env : LoginEnv κ} {machine next : LoginMachine κ}

/-- The phases with which calls come in. -/
inductive CallPhase.Arrives : CallPhase κ → Prop
  | readProvider (call : CallbackCall) (hvalid : validateOidcCallbackRequest call.request = .ok ()) :
    Arrives (.readProvider call)
  | checkSingleUser (config : PlatformSingleUserConfig) (sessionToken : String) :
    Arrives (.checkSingleUser config sessionToken)
  | authenticate (authorization userId : String) (request : UpdatePlatformUserStatusRequest) :
    Arrives (.authenticate authorization userId request)
  | returned (answer : Result Unit) : Arrives (.returned answer)

/-- What a call does in one step. -/
inductive CallPhase.Moves (env : LoginEnv κ) (stores : LoginStores) : CallPhase κ → Moved κ → Prop
  | advance (phase : CallPhase κ) : Moves env stores phase (phase.advance env stores)
  | exchange (call : CallbackCall) (provider : OidcLoginProviderRecord) (attempt : OidcLoginAttemptRecord)
    (answers : ProviderAnswers κ) :
    Moves env stores (.exchange call provider attempt)
      (stores, onAnswer (verifyLogin env call provider attempt answers) .checkUser, none)
  | interrupt (phase : CallPhase κ) (error : ServiceError) : Moves env stores phase (stores, .returned (.error error), none)

theorem LoginStage.event_cases {stores : LoginStores} {stage : LoginStage} {login : VerifiedLogin κ}
    {progress : LoginProgress} {event : LoginEvent κ} (h : stage.event stores login progress = some event) :
    (∃ attempt, stage = .consumeAttempt ∧ progress.stateHash.bind stores.attempts.lookup = some attempt ∧
      event = .attemptConsumed login attempt) ∨ stage = .recordSession ∧ event = .sessionRecorded login := by
  cases stage <;> simp only [LoginStage.event, reduceCtorEq] at h
  · obtain ⟨attempt, hattempt, rfl⟩ := Option.map_eq_some_iff.mp h
    exact .inl ⟨attempt, rfl, hattempt, rfl⟩
  · cases h
    exact .inr ⟨rfl, rfl⟩

/-- The phases in which a call waits for the network or the audit log. -/
def CallPhase.AwaitsOutside : CallPhase κ → Prop
  | .exchange _ _ _ | .audit _ => True
  | _ => False

theorem begins_some {id : Nat} {phase : CallPhase κ} (h : machine.begins id phase = some next) :
    machine.calls.lookup id = none ∧ next = { machine with calls := machine.calls.insert id phase } := by
  unfold LoginMachine.begins at h
  split at h
  · rename_i hnone
    cases h
    exact ⟨hnone, rfl⟩
  · cases h

/-- A step lets a call come in, or moves one that is there. -/
theorem LoginMachine.step_cases {action : LoginStep κ} (h : machine.step env action = some next) :
    (∃ id phase, machine.calls.lookup id = none ∧ phase.Arrives ∧
      next = { machine with calls := machine.calls.insert id phase }) ∨
    ∃ id phase moved, machine.calls.lookup id = some phase ∧ phase.Moves env machine.stores moved ∧
      (action = .advance id ∨ phase.AwaitsOutside) ∧ next = machine.moves id moved := by
  cases action with
  | callback id call =>
    obtain ⟨hnone, rfl⟩ := begins_some h
    refine .inl ⟨id, _, hnone, ?_, rfl⟩
    cases hvalid : validateOidcCallbackRequest call.request with
    | ok => exact .readProvider call hvalid
    | error error => exact .returned _
  | singleUserLogin id username password sessionToken =>
    obtain ⟨config, -, hbegins⟩ := Option.bind_eq_some_iff.mp h
    obtain ⟨hnone, rfl⟩ := begins_some hbegins
    refine .inl ⟨id, _, hnone, ?_, rfl⟩
    split
    · exact .checkSingleUser config sessionToken
    · exact .returned _
  | updateUserStatus id authorization userId request =>
    obtain ⟨hnone, rfl⟩ := begins_some h
    refine .inl ⟨id, _, hnone, ?_, rfl⟩
    cases validateUserId userId with
    | ok => exact .authenticate authorization userId request
    | error error => exact .returned _
  | advance id =>
    obtain ⟨phase, hphase, rfl⟩ := Option.map_eq_some_iff.mp h
    exact .inr ⟨id, phase, _, hphase, .advance phase, .inl rfl, rfl⟩
  | exchange id answers =>
    simp only [step] at h
    split at h
    · rename_i call provider attempt hphase
      cases h
      exact .inr ⟨id, _, _, hphase, .exchange call provider attempt answers, .inr trivial, rfl⟩
    · cases h
  | interrupt id error =>
    simp only [step] at h
    split at h
    · rename_i hphase
      cases h
      exact .inr ⟨id, _, _, hphase, .interrupt _ error, .inr trivial, rfl⟩
    · rename_i hphase
      cases h
      exact .inr ⟨id, _, _, hphase, .interrupt _ error, .inr trivial, rfl⟩
    · cases h

end Moves

end Starweaver.Platform
