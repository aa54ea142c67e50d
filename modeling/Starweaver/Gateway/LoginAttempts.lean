import Starweaver.Library.Json
import Starweaver.Library.Interleaving
import Starweaver.Gateway.ExternalLogins

namespace Starweaver.Gateway.Tenancy

open Library Library.AssocMap Library.Calendar Library.Text

structure LoginProviderRecord where
  loginProviderId : String
  tenantId : String
  providerKind : String
  configDocument : Json
  status : ResourceStatus

inductive LoginAttemptStatus
  | pending
  | consumed
deriving DecidableEq, Repr

structure LoginAttemptRecord where
  tenantId : String
  loginProviderId : String
  providerKind : String
  stateHash : String
  nonceHash : Option String
  codeVerifierHash : String
  redirectUri : String
  status : LoginAttemptStatus
  expiresAt : DateTime
deriving DecidableEq, Repr

structure ConsumedLoginAttempt where
  record : LoginAttemptRecord
  codeVerifier : String
deriving DecidableEq, Repr

structure ExternalLoginVerifiedClaims where
  subject : String
  email : Option String
  emailVerified : Bool
  displayName : Option String
  nonce : Option String
  issuer : Option String
  audience : Option String
  expiresAt : Option DateTime
deriving DecidableEq, Repr

structure ExternalLoginCallbackRequest where
  state : String
  code : String
  verifiedClaims : Option ExternalLoginVerifiedClaims

/-- The claims of an id token whose signature, issuer, audience and expiry the token library has accepted. -/
structure OidcIdTokenClaims where
  iss : String
  sub : String
  aud : List String
  exp : Int
  nonce : Option String
  email : Option String
  emailVerified : Bool
  name : Option String
  preferredUsername : Option String
deriving DecidableEq, Repr

/-- Of the metadata of a provider what the exchange of a code and the check of a token need. -/
structure OidcProviderMetadata where
  issuer : String
  tokenEndpoint : String
  jwksUri : String
  supportedAlgs : List String
deriving DecidableEq, Repr

/-- A request to the token endpoint: the fields of its form, and the name and password of basic authentication. -/
structure OidcTokenRequest where
  tokenEndpoint : String
  form : List (String × String)
  basicAuth : Option (String × String)
deriving DecidableEq, Repr

/-- What a callback gets from outside: the resolved metadata, the stored secrets, the id token in the answer to a token
request, and the claims of a token that the token library accepts for a client. -/
structure OidcServices where
  metadata : Result OidcProviderMetadata
  secretValue : String → Option String
  idToken : OidcTokenRequest → Option String
  decode : OidcProviderMetadata → String → String → Option OidcIdTokenClaims

section Claims

variable (env : AuthEnv) (provider : LoginProviderRecord)

def AuthEnv.loginSecretHash (rawValue : String) : String := "sha256:" ++ env.sha256Hex rawValue

def loginConfigString (config : Json) (field : String) : Option String := (config.get field).bind Json.asStr

def requiredLoginConfigString (field : String) : Result String :=
  match loginConfigString provider.configDocument field with
  | some value =>
    if trim value = "" then .error (.badRequest s!"login_provider_{field}_missing") else .ok value
  | none => .error (.badRequest s!"login_provider_{field}_missing")

def usesLocalVerifiedClaims : Bool :=
  loginConfigString provider.configDocument "callback_mode" == some "local_verified_claims"

def allowsLocalCallbackAdapter (environment : String) : Bool := environment ∈ ["local", "test"]

def validateExternalLoginCallbackRequestShape (request : ExternalLoginCallbackRequest) : Result Unit :=
  if !startsWith request.state "gwst_" ∨ trim request.code = "" then .error .authentication else .ok ()

def ensureExternalLoginCallbackAdapterAvailable (environment : String) (request : ExternalLoginCallbackRequest) :
    Result Unit :=
  if usesLocalVerifiedClaims provider then
    if allowsLocalCallbackAdapter environment then .ok ()
    else .error (.badRequest "local_verified_claims_callback_requires_local_or_test_profile")
  else if provider.providerKind = "oidc" then
    if request.verifiedClaims.isSome then .error (.badRequest "verified_claims_not_accepted_for_oidc_callback")
    else .ok ()
  else .error (.badRequest "login_provider_callback_adapter_unavailable")

def validateOidcVerifiedClaims (claims : ExternalLoginVerifiedClaims) (now : DateTime) : Result Unit :=
  if claims.issuer ≠ loginConfigString provider.configDocument "issuer" then .error .authentication
  else if claims.audience ≠ loginConfigString provider.configDocument "client_id" then .error .authentication
  else if claims.expiresAt.all fun expiresAt => decide (expiresAt ≤ now) then .error .authentication
  else if claims.nonce.all fun nonce => !startsWith nonce "gwnc_" then .error .authentication
  else .ok ()

def validateExternalLoginClaims (claims : ExternalLoginVerifiedClaims) (now : DateTime) : Result Unit :=
  if trim claims.subject = "" then .error .authentication
  else if claims.email.any fun email => (normalizedEmail email).isNone || !claims.emailVerified then
    .error .authentication
  else if provider.providerKind = "oidc" then validateOidcVerifiedClaims provider claims now
  else .ok ()

/-- The token request for the code of a callback, with the verifier of the attempt that the callback has consumed. -/
def oidcTokenRequest (services : OidcServices) (consumed : ConsumedLoginAttempt) (request : ExternalLoginCallbackRequest)
    (metadata : OidcProviderMetadata) : Result OidcTokenRequest := do
  let clientId ← requiredLoginConfigString provider "client_id"
  let clientSecretRef ← requiredLoginConfigString provider "client_secret_ref"
  match services.secretValue clientSecretRef with
  | none => .error .authentication
  | some clientSecret =>
    let authMethod :=
      (loginConfigString provider.configDocument "token_endpoint_auth_method").getD "client_secret_basic"
    let form := [("grant_type", "authorization_code"), ("code", trim request.code),
      ("redirect_uri", consumed.record.redirectUri), ("code_verifier", consumed.codeVerifier)]
    if authMethod = "client_secret_basic" then .ok ⟨metadata.tokenEndpoint, form, some (clientId, clientSecret)⟩
    else if authMethod = "client_secret_post" then
      .ok ⟨metadata.tokenEndpoint, form ++ [("client_id", clientId), ("client_secret", clientSecret)], none⟩
    else .error .authentication

def exchangeOidcAuthorizationCode (services : OidcServices) (consumed : ConsumedLoginAttempt)
    (request : ExternalLoginCallbackRequest) (metadata : OidcProviderMetadata) : Result String := do
  let tokenRequest ← oidcTokenRequest provider services consumed request metadata
  match services.idToken tokenRequest with
  | none => .error .authentication
  | some idToken => if trim idToken = "" then .error .authentication else .ok idToken

def validateOidcIdToken (services : OidcServices) (consumed : ConsumedLoginAttempt) (metadata : OidcProviderMetadata)
    (idToken : String) : Result ExternalLoginVerifiedClaims := do
  let clientId ← requiredLoginConfigString provider "client_id"
  match services.decode metadata clientId idToken with
  | none => .error .authentication
  | some token =>
    if clientId ∉ token.aud then .error .authentication
    else match token.nonce with
      | none => .error .authentication
      | some nonce =>
        if consumed.record.nonceHash ≠ some (env.loginSecretHash nonce) then .error .authentication
        else match DateTime.fromTimestamp token.exp with
          | none => .error .authentication
          | some expiresAt =>
            .ok
              { subject := token.sub
                email := token.email
                emailVerified := token.emailVerified
                displayName := token.name.or token.preferredUsername
                nonce := some nonce
                issuer := some token.iss
                audience := some clientId
                expiresAt := some expiresAt }

def resolveOidcCallbackClaims (services : OidcServices) (consumed : ConsumedLoginAttempt)
    (request : ExternalLoginCallbackRequest) (now : DateTime) : Result ExternalLoginVerifiedClaims := do
  let metadata ← services.metadata
  let idToken ← exchangeOidcAuthorizationCode provider services consumed request metadata
  let claims ← validateOidcIdToken env provider services consumed metadata idToken
  validateExternalLoginClaims provider claims now
  .ok claims

/-- The claims of the callback: its own ones for a local provider, else those of the id token that the provider gave
in exchange for the code. -/
def externalLoginCallbackClaims (services : OidcServices) (consumed : ConsumedLoginAttempt)
    (request : ExternalLoginCallbackRequest) (now : DateTime) : Result ExternalLoginVerifiedClaims :=
  if usesLocalVerifiedClaims provider then
    match request.verifiedClaims with
    | none => .error .authentication
    | some claims => do
      validateExternalLoginClaims provider claims now
      .ok claims
  else if provider.providerKind = "oidc" then resolveOidcCallbackClaims env provider services consumed request now
  else .error (.badRequest "login_provider_callback_adapter_unavailable")

def validateExternalLoginClaimsAgainstAttempt (attempt : LoginAttemptRecord) (claims : ExternalLoginVerifiedClaims) :
    Result Unit :=
  if attempt.tenantId ≠ provider.tenantId ∨ attempt.loginProviderId ≠ provider.loginProviderId ∨
      attempt.providerKind ≠ provider.providerKind then .error .authentication
  else if provider.providerKind = "oidc" ∧ attempt.nonceHash ≠ claims.nonce.map env.loginSecretHash then
    .error .authentication
  else .ok ()

def externalLoginDisplayName (claims : ExternalLoginVerifiedClaims) : String :=
  (((claims.displayName.map trim).filter (· ≠ "")).or claims.email).getD claims.subject

def externalLoginIdentityRequest (claims : ExternalLoginVerifiedClaims) : UpsertExternalLoginIdentityRequest where
  tenantId := provider.tenantId
  loginProviderId := provider.loginProviderId
  providerKind := provider.providerKind
  providerSubject := trim claims.subject
  email := claims.email.bind normalizedEmail
  emailVerified := claims.emailVerified
  displayName := externalLoginDisplayName claims

end Claims

/-- What a start draws. -/
structure DrawnLogin where
  state : String
  nonce : String
  codeVerifier : String
deriving DecidableEq, Repr

/-- An attempt as the start that made it knows it: the provider and the raw values behind the hashes. -/
structure IssuedLogin where
  provider : LoginProviderRecord
  drawn : DrawnLogin
  now : DateTime

def IssuedLogin.nonce (issued : IssuedLogin) : Option String :=
  if issued.provider.providerKind = "oidc" then some issued.drawn.nonce else none

def IssuedLogin.record (env : AuthEnv) (issued : IssuedLogin) (redirectUri : String) : LoginAttemptRecord where
  tenantId := issued.provider.tenantId
  loginProviderId := issued.provider.loginProviderId
  providerKind := issued.provider.providerKind
  stateHash := env.loginSecretHash issued.drawn.state
  nonceHash := issued.nonce.map env.loginSecretHash
  codeVerifierHash := env.loginSecretHash issued.drawn.codeVerifier
  redirectUri := redirectUri
  status := .pending
  expiresAt := issued.now.addSeconds 600

/-- A callback between its reads and writes. -/
structure LoginCallback where
  provider : LoginProviderRecord
  request : ExternalLoginCallbackRequest
  now : DateTime

/-- Where a handler stands that has given up its lock. -/
inductive LoginTask
  | storing (stateHash codeVerifier : String)
  | taking (callback : LoginCallback) (record : LoginAttemptRecord)
  | verifying (callback : LoginCallback) (consumed : ConsumedLoginAttempt)
  | persisting (callback : LoginCallback) (consumed : ConsumedLoginAttempt) (services : OidcServices)
      (claims : ExternalLoginVerifiedClaims) (session : AuthSessionRecord)

/-- A session with the callback, the attempt, the services and the claims it was opened for. -/
structure OpenedSession where
  callback : LoginCallback
  consumed : ConsumedLoginAttempt
  services : OidcServices
  claims : ExternalLoginVerifiedClaims
  session : AuthSessionRecord

/-- The stores of the external logins, the handlers in progress, the attempts that were issued and the sessions that
were opened. -/
structure LoginSystem where
  loginProviders : Index LoginProviderRecord
  loginAttempts : Index LoginAttemptRecord
  loginAttemptCodeVerifiers : Index String
  directory : DirectoryStore
  inProgress : List LoginTask
  issued : List IssuedLogin
  opened : List OpenedSession

def LoginSystem.start (loginProviders : Index LoginProviderRecord) (directory : DirectoryStore) : LoginSystem :=
  ⟨loginProviders, ∅, ∅, directory, [], [], []⟩

inductive LoginAction
  | startAuthLoginProvider (singleUserAuth : Bool) (loginProviderId : String) (authorizationEndpoint : Result String)
      (drawn : DrawnLogin) (now : DateTime)
  | completeAuthLoginProviderCallback (loginProviderId : String) (request : ExternalLoginCallbackRequest)
      (environment : String) (now : DateTime)
  | resume (task : Nat) (services : OidcServices) (userId externalIdentityId authSessionId rawToken : String)
      (insertAuthSession : Result Unit)
  | elsewhere (loginProviders : Index LoginProviderRecord) (directory : DirectoryStore)

section Handlers

variable (env : AuthEnv) (s : LoginSystem)

def activeLoginProvider (loginProviderId : String) : Result LoginProviderRecord :=
  match s.loginProviders.lookup loginProviderId with
  | none => .error (.notFound s!"login provider {loginProviderId}")
  | some provider =>
    if provider.status ≠ .active then .error (.notFound s!"login provider {loginProviderId}") else .ok provider

/-- The first write of a start; the verifier follows under a lock of its own. -/
def createLoginAttempt (issued : IssuedLogin) (redirectUri : String) : Result LoginSystem :=
  let record := issued.record env redirectUri
  if (s.loginAttempts.lookup record.stateHash).isSome then .error (.badRequest "login_attempt_state_conflict")
  else
    .ok { s with
      loginAttempts := s.loginAttempts.insert record.stateHash record
      inProgress := .storing record.stateHash issued.drawn.codeVerifier :: s.inProgress
      issued := issued :: s.issued }

/-- The endpoint of the configuration, else the one that the discovery of an OIDC provider answers with. -/
def loginProviderAuthorizationEndpoint (provider : LoginProviderRecord) (discovered : Result String) : Result String :=
  match loginConfigString provider.configDocument "authorization_url" with
  | some endpoint => .ok endpoint
  | none =>
    if provider.providerKind = "oidc" then discovered
    else .error (.badRequest "login_provider_authorization_url_missing")

def singleUserProviderId : String := "local_single_user"

def startAuthLoginProvider (singleUserAuth : Bool) (loginProviderId : String) (authorizationEndpoint : Result String)
    (drawn : DrawnLogin) (now : DateTime) : Result LoginSystem :=
  if loginProviderId = singleUserProviderId then
    if singleUserAuth then .error (.badRequest "single_user_provider_uses_password_login")
    else .error (.notFound s!"login provider {singleUserProviderId}")
  else do
    let provider ← activeLoginProvider s loginProviderId
    let _ ← loginProviderAuthorizationEndpoint provider authorizationEndpoint
    match loginConfigString provider.configDocument "client_id" with
    | none => .error (.badRequest "login_provider_client_id_missing")
    | some _ =>
      match loginConfigString provider.configDocument "redirect_uri" with
      | none => .error (.badRequest "login_provider_redirect_uri_missing")
      | some redirectUri => createLoginAttempt env s ⟨provider, drawn, now⟩ redirectUri

/-- The first lock of `consume_login_attempt`: the attempt is marked before its verifier is taken. -/
def consumeLoginAttempt (callback : LoginCallback) (loginProviderId : String) : Result LoginSystem :=
  let stateHash := env.loginSecretHash callback.request.state
  match s.loginAttempts.lookup stateHash with
  | none => .error .authentication
  | some attempt =>
    if attempt.loginProviderId ≠ loginProviderId ∨ attempt.status ≠ .pending ∨ attempt.expiresAt ≤ callback.now then
      .error .authentication
    else
      let consumed := { attempt with status := .consumed }
      .ok { s with
        loginAttempts := s.loginAttempts.insert stateHash consumed
        inProgress := .taking callback consumed :: s.inProgress }

def completeAuthLoginProviderCallback (loginProviderId : String) (request : ExternalLoginCallbackRequest)
    (environment : String) (now : DateTime) : Result LoginSystem := do
  let provider ← activeLoginProvider s loginProviderId
  validateExternalLoginCallbackRequestShape request
  ensureExternalLoginCallbackAdapterAvailable provider environment request
  consumeLoginAttempt env s ⟨provider, request, now⟩ loginProviderId

def defaultAuthSessionTtlSeconds : Int := 12 * 60 * 60

def createAuthSession (user : UserRecord) (authSessionId rawToken : String) (now : DateTime) : AuthSessionRecord where
  authSessionId := authSessionId
  tenantId := user.tenantId
  principalId := user.userId
  activeOrganizationId := user.defaultOrganizationId
  activeProjectId := user.defaultProjectId
  sessionHash := env.sessionTokenHash rawToken
  status := .active
  expiresAt := now.addSeconds defaultAuthSessionTtlSeconds

/-- From the answer of the provider to the session that is to be stored. -/
def verifyExternalLogin (callback : LoginCallback) (consumed : ConsumedLoginAttempt) (services : OidcServices)
    (userId externalIdentityId authSessionId rawToken : String) : Result LoginSystem := do
  let claims ← externalLoginCallbackClaims env callback.provider services consumed callback.request callback.now
  validateExternalLoginClaimsAgainstAttempt env callback.provider consumed.record claims
  let (user, _, _, directory) ← upsertExternalLoginIdentity s.directory
    (externalLoginIdentityRequest callback.provider claims) userId externalIdentityId
  let s := { s with directory := directory }
  if user.status ≠ .active then .ok s
  else
    let session := createAuthSession env user authSessionId rawToken callback.now
    .ok { s with inProgress := .persisting callback consumed services claims session :: s.inProgress }

def resumeTask (task : LoginTask) (services : OidcServices)
    (userId externalIdentityId authSessionId rawToken : String) (insertAuthSession : Result Unit) : LoginSystem :=
  match task with
  | .storing stateHash codeVerifier =>
    { s with loginAttemptCodeVerifiers := s.loginAttemptCodeVerifiers.insert stateHash codeVerifier }
  | .taking callback record =>
    match s.loginAttemptCodeVerifiers.lookup record.stateHash with
    | none => s
    | some codeVerifier =>
      { s with
        loginAttemptCodeVerifiers := s.loginAttemptCodeVerifiers.erase record.stateHash
        inProgress := .verifying callback ⟨record, codeVerifier⟩ :: s.inProgress }
  | .verifying callback consumed =>
    match verifyExternalLogin env s callback consumed services userId externalIdentityId authSessionId rawToken with
    | .error _ => s
    | .ok next => next
  | .persisting callback consumed services claims session =>
    match insertAuthSession with
    | .error _ => s
    | .ok () =>
      { s with
        directory := { s.directory with
          authSessions := s.directory.authSessions.insert session.sessionHash session }
        opened := ⟨callback, consumed, services, claims, session⟩ :: s.opened }

def loginStep : LoginAction → Option LoginSystem
  | .startAuthLoginProvider singleUserAuth loginProviderId authorizationEndpoint drawn now =>
    match startAuthLoginProvider env s singleUserAuth loginProviderId authorizationEndpoint drawn now with
    | .error _ => some s
    | .ok next => some next
  | .completeAuthLoginProviderCallback loginProviderId request environment now =>
    match completeAuthLoginProviderCallback env s loginProviderId request environment now with
    | .error _ => some s
    | .ok next => some next
  | .resume task services userId externalIdentityId authSessionId rawToken insertAuthSession =>
    match s.inProgress[task]? with
    | none => none
    | some found =>
      some (resumeTask env { s with inProgress := s.inProgress.eraseIdx task } found services userId externalIdentityId
        authSessionId rawToken insertAuthSession)
  | .elsewhere loginProviders directory => some { s with loginProviders := loginProviders, directory := directory }

end Handlers

end Starweaver.Gateway.Tenancy
