import Starweaver.Platform.Invitations
import Starweaver.Platform.Users

namespace Starweaver.Platform

open Library.AssocMap Library.Checks Library.OrderedMap Library.Text

inductive OidcLoginProviderStatus
  | active
  | disabled
  | deleted
deriving DecidableEq, Repr

inductive OidcLoginAttemptStatus
  | active
  | consumed
  | expired
  | abandoned
deriving DecidableEq, Repr

inductive OidcTokenEndpointAuthMethod
  | none
  | clientSecretBasic
  | clientSecretPost
deriving DecidableEq, Repr

namespace OidcTokenEndpointAuthMethod

def fromId (value : String) : Option OidcTokenEndpointAuthMethod :=
  if value = "none" then some .none
  else if value = "client_secret_basic" then some .clientSecretBasic
  else if value = "client_secret_post" then some .clientSecretPost
  else Option.none

def requiresClientSecret : OidcTokenEndpointAuthMethod → Bool
  | .none => false
  | .clientSecretBasic | .clientSecretPost => true

end OidcTokenEndpointAuthMethod

structure OidcLoginProviderRecord where
  identityProviderId : String
  tenantId : String
  displayName : String
  issuerUrl : String
  authorizationEndpoint : String
  tokenEndpoint : String
  jwksUri : String
  clientId : String
  clientSecretRef : Option String
  tokenEndpointAuthMethod : OidcTokenEndpointAuthMethod
  redirectUri : String
  requestedScopes : List String
  acceptedAudiences : List String
  status : OidcLoginProviderStatus
deriving DecidableEq, Repr

structure OidcDiscoveryDocument where
  issuer : String
  authorizationEndpoint : String
  tokenEndpoint : String
  jwksUri : String
  idTokenSigningAlgValuesSupported : List String
deriving DecidableEq, Repr

structure OidcResolvedProviderMetadata where
  identityProviderId : String
  tenantId : String
  issuerUrl : String
  authorizationEndpoint : String
  tokenEndpoint : String
  jwksUri : String
  clientId : String
  clientSecretRef : Option String
  tokenEndpointAuthMethod : OidcTokenEndpointAuthMethod
  redirectUri : String
  acceptedAudiences : List String
  supportedIdTokenAlgorithms : List String
deriving DecidableEq, Repr

structure OidcLoginAttemptRecord where
  loginAttemptId : String
  tenantId : String
  identityProviderId : String
  stateHash : String
  nonceHash : String
  pkceVerifierHash : String
  redirectUri : String
  status : OidcLoginAttemptStatus
  expiresAtUnix : Int
  consumedAtUnix : Option Int
deriving DecidableEq, Repr

def OidcLoginAttemptRecord.consumed (attempt : OidcLoginAttemptRecord) (consumedAtUnix : Int) :
    OidcLoginAttemptRecord :=
  { attempt with status := .consumed, consumedAtUnix := some consumedAtUnix }

structure OidcVerifiedClaims where
  issuer : String
  subject : String
  audiences : List String
  nonce : String
  expiresAtUnix : Int
  email : Option String
  emailVerified : Bool
  displayName : Option String
deriving DecidableEq, Repr

inductive OidcValidationError
  | invalidProviderId
  | invalidTenantId
  | displayNameRequired
  | invalidIssuerUrl
  | invalidAuthorizationEndpoint
  | invalidTokenEndpoint
  | invalidJwksUri
  | discoveryIssuerMismatch
  | unsupportedSigningAlgorithm
  | signingKeyNotFound
  | invalidIdToken
  | clientIdRequired
  | invalidClientSecretRef
  | invalidTokenEndpointAuthMethod
  | invalidRedirectUri
  | openIdScopeRequired
  | audienceRequired
  | issuerMismatch
  | subjectRequired
  | audienceMismatch
  | nonceMismatch
  | tokenExpired
deriving DecidableEq, Repr

def OidcValidationError.asStr : OidcValidationError → String
  | .invalidProviderId => "oidc_provider_id_invalid"
  | .invalidTenantId => "oidc_tenant_id_invalid"
  | .displayNameRequired => "oidc_display_name_required"
  | .invalidIssuerUrl => "oidc_issuer_url_invalid"
  | .invalidAuthorizationEndpoint => "oidc_authorization_endpoint_invalid"
  | .invalidTokenEndpoint => "oidc_token_endpoint_invalid"
  | .invalidJwksUri => "oidc_jwks_uri_invalid"
  | .discoveryIssuerMismatch => "oidc_discovery_issuer_mismatch"
  | .unsupportedSigningAlgorithm => "oidc_signing_algorithm_unsupported"
  | .signingKeyNotFound => "oidc_signing_key_not_found"
  | .invalidIdToken => "oidc_id_token_invalid"
  | .clientIdRequired => "oidc_client_id_required"
  | .invalidClientSecretRef => "oidc_client_secret_ref_invalid"
  | .invalidTokenEndpointAuthMethod => "oidc_token_endpoint_auth_method_invalid"
  | .invalidRedirectUri => "oidc_redirect_uri_invalid"
  | .openIdScopeRequired => "oidc_openid_scope_required"
  | .audienceRequired => "oidc_audience_required"
  | .issuerMismatch => "oidc_issuer_mismatch"
  | .subjectRequired => "oidc_subject_required"
  | .audienceMismatch => "oidc_audience_mismatch"
  | .nonceMismatch => "oidc_nonce_mismatch"
  | .tokenExpired => "oidc_token_expired"

section Provider

def validateHttpsUrl (value : String) (error : OidcValidationError) : Except OidcValidationError Unit :=
  if startsWith (trim value) "https://" ∧ "https://".utf8ByteSize < (trim value).utf8ByteSize then .ok ()
  else .error error

def validateOptionalClientSecretRef (clientSecretRef : Option String) : Except OidcValidationError Unit :=
  match clientSecretRef with
  | none => .ok ()
  | some value =>
    if trim value = "" ∨ !startsWith (trim value) "sec_" then .error .invalidClientSecretRef else .ok ()

def validateTokenEndpointAuthMethod (provider : OidcLoginProviderRecord) : Except OidcValidationError Unit :=
  if provider.tokenEndpointAuthMethod.requiresClientSecret ∧ provider.clientSecretRef.isNone then
    .error .invalidTokenEndpointAuthMethod
  else if ¬ provider.tokenEndpointAuthMethod.requiresClientSecret ∧ provider.clientSecretRef.isSome then
    .error .invalidTokenEndpointAuthMethod
  else .ok ()

def validateOidcLoginProviderBase (provider : OidcLoginProviderRecord) : Except OidcValidationError Unit := do
  requireStart provider.identityProviderId "idp_" .invalidProviderId
  requireStart provider.tenantId "ten_" .invalidTenantId
  if trim provider.displayName = "" then .error .displayNameRequired
  else do
    validateHttpsUrl provider.issuerUrl .invalidIssuerUrl
    if trim provider.clientId = "" then .error .clientIdRequired
    else do
      validateOptionalClientSecretRef provider.clientSecretRef
      validateTokenEndpointAuthMethod provider
      validateHttpsUrl provider.redirectUri .invalidRedirectUri
      if !provider.requestedScopes.contains "openid" then .error .openIdScopeRequired
      else if provider.acceptedAudiences.all fun audience => trim audience == "" then .error .audienceRequired
      else .ok ()

end Provider

/-- The signing algorithms of JSON web tokens, the symmetric ones among them. -/
inductive Algorithm
  | hs256
  | hs384
  | hs512
  | es256
  | es384
  | rs256
  | rs384
  | rs512
  | ps256
  | ps384
  | ps512
  | edDSA
deriving DecidableEq, Repr

section Algorithms

def oidcAlgorithmFromStr (value : String) : Option Algorithm :=
  if value = "RS256" then some .rs256
  else if value = "RS384" then some .rs384
  else if value = "RS512" then some .rs512
  else if value = "PS256" then some .ps256
  else if value = "PS384" then some .ps384
  else if value = "PS512" then some .ps512
  else if value = "ES256" then some .es256
  else if value = "ES384" then some .es384
  else if value = "EdDSA" then some .edDSA
  else none

def oidcAlgorithmIsAsymmetric : Algorithm → Bool
  | .rs256 | .rs384 | .rs512 | .ps256 | .ps384 | .ps512 | .es256 | .es384 | .edDSA => true
  | .hs256 | .hs384 | .hs512 => false

def usableAlgorithm (value : String) : Bool := (oidcAlgorithmFromStr value).any oidcAlgorithmIsAsymmetric

def supportedOidcAlgorithms (discovery : Option OidcDiscoveryDocument) : Except OidcValidationError (List String) :=
  match discovery with
  | none => .ok ["RS256"]
  | some discovery =>
    if discovery.idTokenSigningAlgValuesSupported = [] then .ok ["RS256"]
    else
      let algorithms := discovery.idTokenSigningAlgValuesSupported.foldl
        (fun algorithms value =>
          if usableAlgorithm value && !algorithms.contains value then algorithms ++ [value] else algorithms) []
      if algorithms = [] then .error .unsupportedSigningAlgorithm else .ok algorithms

end Algorithms

section Metadata

def resolvedMetadataField (configured : String) (discovered : Option String) (error : OidcValidationError) :
    Except OidcValidationError String :=
  if trim configured ≠ "" then .ok (trim configured)
  else match (discovered.map trim).filter (· != "") with
  | none => .error error
  | some value => .ok value

def resolveOidcProviderMetadata (provider : OidcLoginProviderRecord) (discovery : Option OidcDiscoveryDocument) :
    Except OidcValidationError OidcResolvedProviderMetadata := do
  validateOidcLoginProviderBase provider
  if discovery.any fun document => document.issuer != provider.issuerUrl then .error .discoveryIssuerMismatch
  else do
    let authorizationEndpoint ← resolvedMetadataField provider.authorizationEndpoint
      (discovery.map (·.authorizationEndpoint)) .invalidAuthorizationEndpoint
    let tokenEndpoint ← resolvedMetadataField provider.tokenEndpoint (discovery.map (·.tokenEndpoint))
      .invalidTokenEndpoint
    let jwksUri ← resolvedMetadataField provider.jwksUri (discovery.map (·.jwksUri)) .invalidJwksUri
    validateHttpsUrl authorizationEndpoint .invalidAuthorizationEndpoint
    validateHttpsUrl tokenEndpoint .invalidTokenEndpoint
    validateHttpsUrl jwksUri .invalidJwksUri
    let supportedIdTokenAlgorithms ← supportedOidcAlgorithms discovery
    .ok
      { identityProviderId := provider.identityProviderId
        tenantId := provider.tenantId
        issuerUrl := provider.issuerUrl
        authorizationEndpoint
        tokenEndpoint
        jwksUri
        clientId := provider.clientId
        clientSecretRef := provider.clientSecretRef
        tokenEndpointAuthMethod := provider.tokenEndpointAuthMethod
        redirectUri := provider.redirectUri
        acceptedAudiences := provider.acceptedAudiences
        supportedIdTokenAlgorithms }

end Metadata

inductive PublicKeyUse
  | signature
  | encryption
  | other (value : String)
deriving DecidableEq, Repr

/-- The parts of a key of a key set that its selection reads; the key itself is `material`. -/
structure Jwk (κ : Type) where
  publicKeyUse : Option PublicKeyUse
  keyAlgorithm : Option String
  keyId : Option String
  material : κ
deriving DecidableEq

section Keys

variable {κ : Type}

def oidcJwkIsUsable (jwk : Jwk κ) (kid : Option String) (algorithm : Algorithm) : Bool :=
  if jwk.publicKeyUse.any fun keyUse => keyUse != .signature then false
  else if kid.isSome && jwk.keyId != kid then false
  else jwk.keyAlgorithm.all fun keyAlgorithm => oidcAlgorithmFromStr keyAlgorithm == some algorithm

def selectOidcJwk (jwks : List (Jwk κ)) (kid : Option String) (algorithm : Algorithm) :
    Except OidcValidationError (Jwk κ) :=
  let candidates := jwks.filter fun jwk => oidcJwkIsUsable jwk kid algorithm
  match kid, candidates with
  | some kid, candidates =>
    match candidates.find? fun jwk => jwk.keyId == some kid with
    | none => .error .signingKeyNotFound
    | some jwk => .ok jwk
  | none, [jwk] => .ok jwk
  | none, _ => .error .signingKeyNotFound

end Keys

structure OidcIdTokenClaims where
  iss : String
  sub : String
  aud : List String
  exp : Int
  nonce : String
  email : Option String
  emailVerified : Bool
  name : Option String
  preferredUsername : Option String
deriving DecidableEq, Repr

structure TokenHeader where
  alg : Algorithm
  kid : Option String
deriving DecidableEq, Repr

/-- The token library: the header of a token, and its claims when the signature, issuer and audience check out
under a key. -/
structure TokenLibrary (κ : Type) where
  decodeHeader : String → Option TokenHeader
  decode : String → κ → Algorithm → String → List String → Option OidcIdTokenClaims

section IdToken

variable {κ : Type}

def validateOidcClaimsAgainstMetadata (metadata : OidcResolvedProviderMetadata) (claims : OidcVerifiedClaims)
    (expectedNonce : String) (nowUnix : Int) : Except OidcValidationError Unit :=
  if claims.issuer ≠ metadata.issuerUrl then .error .issuerMismatch
  else if trim claims.subject = "" then .error .subjectRequired
  else if !claims.audiences.any fun audience => metadata.acceptedAudiences.contains audience then
    .error .audienceMismatch
  else if claims.nonce ≠ expectedNonce then .error .nonceMismatch
  else if claims.expiresAtUnix ≤ nowUnix then .error .tokenExpired
  else .ok ()

def validateOidcIdToken (library : TokenLibrary κ) (metadata : OidcResolvedProviderMetadata) (jwks : List (Jwk κ))
    (idToken expectedNonce : String) (nowUnix : Int) : Except OidcValidationError OidcVerifiedClaims :=
  match library.decodeHeader idToken with
  | none => .error .invalidIdToken
  | some header =>
    let supportsAlgorithm :=
      (metadata.supportedIdTokenAlgorithms.filterMap oidcAlgorithmFromStr).any (· == header.alg)
    if !supportsAlgorithm || !oidcAlgorithmIsAsymmetric header.alg then .error .unsupportedSigningAlgorithm
    else do
      let jwk ← selectOidcJwk jwks header.kid header.alg
      match library.decode idToken jwk.material header.alg metadata.issuerUrl metadata.acceptedAudiences with
      | none => .error .invalidIdToken
      | some token =>
        let claims : OidcVerifiedClaims :=
          ⟨token.iss, token.sub, token.aud, token.nonce, token.exp, token.email, token.emailVerified,
            token.name.or token.preferredUsername⟩
        validateOidcClaimsAgainstMetadata metadata claims expectedNonce nowUnix
        .ok claims

end IdToken

inductive PlatformExternalIdentityStatus
  | active
  | disabled
  | deleted
deriving DecidableEq, Repr

structure PlatformExternalIdentityRecord where
  externalIdentityId : String
  tenantId : String
  principalId : String
  identityProviderId : String
  providerKind : String
  providerSubject : String
  email : Option String
  emailVerified : Bool
  status : PlatformExternalIdentityStatus
deriving DecidableEq, Repr

inductive PlatformExternalIdentityError
  | invalidExternalIdentityId
  | invalidTenantId
  | invalidPrincipalId
  | invalidProviderId
  | invalidProviderKind
  | subjectRequired
  | invalidEmail
  | invalidStatus
  | principalMismatch
deriving DecidableEq, Repr

def PlatformExternalIdentityError.asStr : PlatformExternalIdentityError → String
  | .invalidExternalIdentityId => "external_identity_id_invalid"
  | .invalidTenantId => "tenant_id_invalid"
  | .invalidPrincipalId => "principal_id_invalid"
  | .invalidProviderId => "identity_provider_id_invalid"
  | .invalidProviderKind => "provider_kind_invalid"
  | .subjectRequired => "provider_subject_required"
  | .invalidEmail => "email_invalid"
  | .invalidStatus => "external_identity_status_invalid"
  | .principalMismatch => "external_identity_principal_mismatch"

def externalIdentityErrorToService : PlatformExternalIdentityError → ServiceError
  | .invalidExternalIdentityId => .resourceNotFound
  | .principalMismatch => .forbidden "external_identity_principal_mismatch"
  | error => .badRequest error.asStr

section ExternalIdentities

variable (identities : Index PlatformExternalIdentityRecord)

def validateExternalIdentity (record : PlatformExternalIdentityRecord) :
    Except PlatformExternalIdentityError Unit := do
  validatePrefixed record.externalIdentityId "xid_" .invalidExternalIdentityId
  validatePrefixed record.tenantId "ten_" .invalidTenantId
  validatePrefixed record.principalId "usr_" .invalidPrincipalId
  validatePrefixed record.identityProviderId "idp_" .invalidProviderId
  if record.providerKind ≠ "oidc" ∧ record.providerKind ≠ "single_user" then .error .invalidProviderKind
  else if trim record.providerSubject = "" then .error .subjectRequired
  else if record.email.any fun email => !validEmail email then .error .invalidEmail
  else .ok ()

def recordExternalIdentity (record : PlatformExternalIdentityRecord) :
    Except PlatformExternalIdentityError (Index PlatformExternalIdentityRecord) := do
  validateExternalIdentity record
  .ok (identities.insert record.externalIdentityId record)

def PlatformExternalIdentityRecord.sameSubject (record existing : PlatformExternalIdentityRecord) : Bool :=
  existing.tenantId == record.tenantId && existing.identityProviderId == record.identityProviderId &&
    existing.providerSubject == record.providerSubject

/-- The map after the call and its answer: the linked record is written before it is checked again. -/
def upsertExternalIdentity (record : PlatformExternalIdentityRecord) :
    Index PlatformExternalIdentityRecord × Except PlatformExternalIdentityError PlatformExternalIdentityRecord :=
  match validateExternalIdentity record with
  | .error error => (identities, .error error)
  | .ok () =>
    match findOrdered record.sameSubject identities with
    | none =>
      (identities.insert record.externalIdentityId record, do
        validateExternalIdentity record
        .ok record)
    | some (_, found) =>
      match identities.lookup found.externalIdentityId with
      | none => (identities, .error .invalidExternalIdentityId)
      | some existing =>
        if existing.principalId ≠ record.principalId then (identities, .error .principalMismatch)
        else
          let linked :=
            { existing with
              providerKind := record.providerKind
              email := record.email
              emailVerified := record.emailVerified
              status := .active }
          (identities.insert found.externalIdentityId linked, do
            validateExternalIdentity linked
            .ok linked)

end ExternalIdentities

end Starweaver.Platform
