import Starweaver.Platform.AdminHandlers
import Starweaver.Platform.Identities

namespace Starweaver.Platform

open Library.Checks Library.Text

structure ResourceOwnerRecord where
  resourceKind : String
  resourceId : String
  tenantId : String
  organizationId : Option String
  projectId : Option String
deriving DecidableEq, Repr

def ResourceOwnerRecord.tenant (resourceKind resourceId tenantId : String) : ResourceOwnerRecord :=
  ⟨resourceKind, resourceId, tenantId, none, none⟩

inductive StoreError
  | emptyResourceKind
  | emptyResourceId
  | emptyTenantId
  | projectWithoutOrganization
deriving DecidableEq, Repr

def StoreError.asStr : StoreError → String
  | .emptyResourceKind => "resource_kind_empty"
  | .emptyResourceId => "resource_id_empty"
  | .emptyTenantId => "tenant_id_empty"
  | .projectWithoutOrganization => "project_without_organization"

abbrev OwnerIndex := AList fun _ : String × String => ResourceOwnerRecord

def validateOwnerRecord (record : ResourceOwnerRecord) : Except StoreError Unit :=
  if trim record.resourceKind = "" then .error .emptyResourceKind
  else if trim record.resourceId = "" then .error .emptyResourceId
  else if trim record.tenantId = "" then .error .emptyTenantId
  else if record.projectId.isSome ∧ record.organizationId.isNone then .error .projectWithoutOrganization
  else .ok ()

def recordResourceOwner (owners : OwnerIndex) (record : ResourceOwnerRecord) : Except StoreError OwnerIndex := do
  validateOwnerRecord record
  .ok (owners.insert (record.resourceKind, record.resourceId) record)

inductive PlatformSecretRefStatus
  | active
  | rotating
  | disabled
  | deleted
deriving DecidableEq, Repr

structure PlatformSecretRefRecord where
  secretRefId : String
  tenantId : String
  organizationId : Option String
  projectId : Option String
  purpose : String
  backendKind : String
  backendLocator : String
  displayMask : String
  fingerprint : String
  status : PlatformSecretRefStatus
deriving DecidableEq, Repr

structure CreatePlatformSecretRefRequest where
  secretRefId : String
  tenantId : String
  organizationId : Option String
  projectId : Option String
  purpose : String
  backendKind : String
  backendLocator : String
  inMemorySecretValue : Option String
  createdBy : String
deriving DecidableEq, Repr

structure InMemorySecretEntry where
  record : PlatformSecretRefRecord
  value : String
deriving DecidableEq, Repr

inductive PlatformSecretError
  | emptySecretRefId
  | invalidSecretRefId
  | emptyTenantId
  | invalidTenantId
  | emptyPurpose
  | emptyBackendKind
  | unsupportedBackendKind
  | emptyBackendLocator
  | invalidEnvironmentVariable
  | emptySecretValue
  | unknownSecretRef
  | secretRefInactive
  | environmentSecretMissing
  | secretFingerprintMismatch
deriving DecidableEq, Repr

def PlatformSecretError.asStr : PlatformSecretError → String
  | .emptySecretRefId => "secret_ref_id_empty"
  | .invalidSecretRefId => "secret_ref_id_invalid"
  | .emptyTenantId => "tenant_id_empty"
  | .invalidTenantId => "tenant_id_invalid"
  | .emptyPurpose => "secret_purpose_empty"
  | .emptyBackendKind => "secret_backend_kind_empty"
  | .unsupportedBackendKind => "secret_backend_kind_unsupported"
  | .emptyBackendLocator => "secret_backend_locator_empty"
  | .invalidEnvironmentVariable => "secret_environment_variable_invalid"
  | .emptySecretValue => "secret_value_empty"
  | .unknownSecretRef => "secret_ref_unknown"
  | .secretRefInactive => "secret_ref_inactive"
  | .environmentSecretMissing => "secret_environment_value_missing"
  | .secretFingerprintMismatch => "secret_fingerprint_mismatch"

def secretErrorToService (error : PlatformSecretError) : ServiceError :=
  match error with
  | .unknownSecretRef => .resourceNotFound
  | .secretRefInactive | .environmentSecretMissing | .secretFingerprintMismatch => .authenticationFailed error.asStr
  | _ => .badRequest error.asStr

/-- The process around the service: its variables and the digest of a secret. -/
structure SecretEnv where
  variable_ : String → Option String
  sha256Hex : String → String

section Secrets

variable (env : SecretEnv) (secrets : Index InMemorySecretEntry)

def environmentSecretBackend : String := "environment"

def inMemorySecretBackend : String := "in_memory"

theorem trim_environmentSecretBackend : trim environmentSecretBackend = environmentSecretBackend := by decide

theorem inMemory_ne_environment : inMemorySecretBackend ≠ environmentSecretBackend := by decide

def validateSecretRefId (secretRefId : String) : Except PlatformSecretError Unit :=
  if trim secretRefId = "" then .error .emptySecretRefId
  else if !startsWith (trim secretRefId) "sec_" then .error .invalidSecretRefId
  else .ok ()

def validateSecretTenantId (tenantId : String) : Except PlatformSecretError Unit :=
  if trim tenantId = "" then .error .emptyTenantId
  else if !startsWith (trim tenantId) "ten_" then .error .invalidTenantId
  else .ok ()

def isAsciiAlphabetic (c : Char) : Bool := ('a' ≤ c && c ≤ 'z') || ('A' ≤ c && c ≤ 'Z')

def validateEnvironmentVariableName (value : String) : Except PlatformSecretError Unit :=
  match (trim value).toList with
  | [] => .error .emptyBackendLocator
  | first :: rest =>
    if !(first == '_' || isAsciiAlphabetic first) then .error .invalidEnvironmentVariable
    else if rest.any fun c => !(c == '_' || isAsciiAlphabetic c || c.isDigit) then .error .invalidEnvironmentVariable
    else .ok ()

def validateSecretBackend (backendKind backendLocator : String) : Except PlatformSecretError Unit :=
  if trim backendKind = "" then .error .emptyBackendKind
  else if trim backendLocator = "" then .error .emptyBackendLocator
  else if backendKind = environmentSecretBackend then validateEnvironmentVariableName backendLocator
  else if backendKind = inMemorySecretBackend then .ok ()
  else .error .unsupportedBackendKind

def validateCreateSecretRefRequest (request : CreatePlatformSecretRefRequest) (expectedBackend : String) :
    Except PlatformSecretError Unit := do
  validateSecretRefId request.secretRefId
  validateSecretTenantId request.tenantId
  if request.projectId.isSome ∧ request.organizationId.isNone then .error .invalidSecretRefId
  else if trim request.purpose = "" then .error .emptyPurpose
  else do
    validateSecretBackend request.backendKind request.backendLocator
    if request.backendKind ≠ expectedBackend then .error .unsupportedBackendKind
    else if trim request.createdBy = "" then .error .emptyTenantId
    else .ok ()

def secretDisplayMask (value : String) : String :=
  let text := (trim value).toList
  "***" ++ String.ofList (text.drop (text.length - 4))

def secretFingerprint (value : String) : String := "sha256:" ++ env.sha256Hex (trim value)

def secretRefRecordFromValue (request : CreatePlatformSecretRefRequest) (value : String) : PlatformSecretRefRecord where
  secretRefId := trim request.secretRefId
  tenantId := trim request.tenantId
  organizationId := request.organizationId.map trim
  projectId := request.projectId.map trim
  purpose := trim request.purpose
  backendKind := trim request.backendKind
  backendLocator := trim request.backendLocator
  displayMask := secretDisplayMask value
  fingerprint := secretFingerprint env value
  status := .active

def environmentSecretRefRecord (request : CreatePlatformSecretRefRequest) :
    Except PlatformSecretError PlatformSecretRefRecord := do
  validateCreateSecretRefRequest request environmentSecretBackend
  match env.variable_ (trim request.backendLocator) with
  | none => .error .environmentSecretMissing
  | some value => if trim value = "" then .error .emptySecretValue else .ok (secretRefRecordFromValue env request value)

def inMemorySecretRefRecord (request : CreatePlatformSecretRefRequest) :
    Except PlatformSecretError (PlatformSecretRefRecord × String) := do
  validateCreateSecretRefRequest request inMemorySecretBackend
  match request.inMemorySecretValue with
  | none => .error .emptySecretValue
  | some value =>
    if trim value = "" then .error .emptySecretValue else .ok (secretRefRecordFromValue env request value, value)

/-- The entry that a request writes: an environment secret is kept without its value. -/
def secretEntry (request : CreatePlatformSecretRefRequest) : Result InMemorySecretEntry :=
  if request.backendKind = inMemorySecretBackend then
    (inMemorySecretRefRecord env request |>.map fun entry => ⟨entry.1, entry.2⟩).mapError secretErrorToService
  else if request.backendKind = environmentSecretBackend then
    (environmentSecretRefRecord env request |>.map fun record => ⟨record, ""⟩).mapError secretErrorToService
  else .error (.badRequest "secret_backend_kind_unsupported")

end Secrets

structure CreateSecretRefHttpRequest where
  secretRefId : Option String
  tenantId : Option String
  purpose : String
  backendKind : Option String
  backendLocator : Option String
  environmentVariable : Option String
  secretValue : Option String
deriving DecidableEq, Repr

structure CreateOidcIdentityProviderRequest where
  identityProviderId : Option String
  tenantId : Option String
  displayName : String
  issuerUrl : String
  authorizationEndpoint : Option String
  tokenEndpoint : Option String
  jwksUri : Option String
  clientId : String
  clientSecretRef : Option String
  clientSecret : Option String
  tokenEndpointAuthMethod : Option String
  redirectUri : String
  requestedScopes : List String
  acceptedAudiences : List String
  status : Option String
deriving DecidableEq, Repr

/-- The in-memory stores of the records that the create handlers write. -/
structure RecordStores where
  access : AccessStore
  providers : Index OidcLoginProviderRecord
  secrets : Index InMemorySecretEntry
  owners : OwnerIndex

section Handlers

variable (env : PlatformEnv) (secretEnv : SecretEnv) (stores : RecordStores) (actor : AuthenticatedActor)

def createSecretRefRequest (request : CreateSecretRefHttpRequest) (tenantId newId : String) :
    Result CreatePlatformSecretRefRequest :=
  match normalizedOptionalString (request.backendLocator.or request.environmentVariable) with
  | none => .error (.badRequest "secret_backend_locator_empty")
  | some backendLocator =>
    .ok
      { secretRefId := (normalizedOptionalString request.secretRefId).getD newId
        tenantId
        organizationId := actor.organizationId
        projectId := actor.projectId
        purpose := trim request.purpose
        backendKind := (normalizedOptionalString request.backendKind).getD environmentSecretBackend
        backendLocator
        inMemorySecretValue := request.secretValue
        createdBy := actor.principalId }

/-- The checks of the handler, up to its write. -/
def secretRefCandidate (request : CreateSecretRefHttpRequest) (newId : String) : Result InMemorySecretEntry := do
  let tenantId ← tenantFromRequestOrActor request.tenantId actor
  authorizeServiceAction stores.access env.grants actor .secretRefWrite (.tenant "SecretRef" tenantId tenantId)
  let create ← createSecretRefRequest actor request tenantId newId
  secretEntry secretEnv create

def ownerWrite (owners : OwnerIndex) (record : ResourceOwnerRecord) : OwnerIndex × Result Unit :=
  match recordResourceOwner owners record with
  | .error error => (owners, .error (.internal error.asStr))
  | .ok owners => (owners, .ok ())

/-- The secret is written before the record of its owner. -/
def createPlatformSecretRef (request : CreateSecretRefHttpRequest) (newId : String) : RecordStores × Result Unit :=
  match secretRefCandidate env secretEnv stores actor request newId with
  | .error error => (stores, .error error)
  | .ok entry =>
    let (owners, answer) := ownerWrite stores.owners
      (.tenant "SecretRef" entry.record.secretRefId entry.record.tenantId)
    ({ stores with secrets := stores.secrets.insert entry.record.secretRefId entry, owners }, answer)

def tokenEndpointAuthMethodFromRequest (requested : Option String) (hasSecretRef : Bool) :
    Result OidcTokenEndpointAuthMethod :=
  match normalizedOptionalString requested with
  | none => .ok (if hasSecretRef then .clientSecretBasic else .none)
  | some value =>
    match OidcTokenEndpointAuthMethod.fromId value with
    | none => .error (.badRequest "oidc_token_endpoint_auth_method_invalid")
    | some method => .ok method

def oidcProviderStatusFromRequest (status : Option String) : Result OidcLoginProviderStatus :=
  let value := (status.map trim).getD "active"
  if value = "active" then .ok .active
  else if value = "disabled" then .ok .disabled
  else if value = "deleted" then .ok .deleted
  else .error (.badRequest "oidc_provider_status_invalid")

def normalizedStringVec (values : List String) : List String := (values.map trim).filter (· != "")

def oidcProviderRecordFromCreateRequest (request : CreateOidcIdentityProviderRequest) (tenantId newId : String) :
    Result OidcLoginProviderRecord := do
  let clientSecretRef := normalizedOptionalString request.clientSecretRef
  let tokenEndpointAuthMethod ←
    tokenEndpointAuthMethodFromRequest request.tokenEndpointAuthMethod clientSecretRef.isSome
  let status ← oidcProviderStatusFromRequest request.status
  let record : OidcLoginProviderRecord :=
    { identityProviderId := (normalizedOptionalString request.identityProviderId).getD newId
      tenantId
      displayName := trim request.displayName
      issuerUrl := trim request.issuerUrl
      authorizationEndpoint := (request.authorizationEndpoint.map trim).getD ""
      tokenEndpoint := (request.tokenEndpoint.map trim).getD ""
      jwksUri := (request.jwksUri.map trim).getD ""
      clientId := trim request.clientId
      clientSecretRef
      tokenEndpointAuthMethod
      redirectUri := trim request.redirectUri
      requestedScopes := normalizedStringVec request.requestedScopes
      acceptedAudiences := normalizedStringVec request.acceptedAudiences
      status }
  (validateOidcLoginProviderBase record).mapError fun error => .badRequest error.asStr
  .ok record

/-- The secret that a provider names is one of its tenant. -/
def ensureProviderSecret (provider : OidcLoginProviderRecord) : Result Unit :=
  match provider.clientSecretRef with
  | none => .ok ()
  | some secretRefId =>
    match stores.secrets.lookup secretRefId with
    | none => .error .resourceNotFound
    | some entry =>
      if entry.record.tenantId ≠ provider.tenantId then .error (.forbidden "tenant_mismatch") else .ok ()

def oidcProviderCandidate (request : CreateOidcIdentityProviderRequest) (newId : String) :
    Result OidcLoginProviderRecord :=
  if request.clientSecret.isSome then .error (.badRequest "oidc_client_secret_raw_unsupported")
  else do
    let tenantId ← tenantFromRequestOrActor request.tenantId actor
    authorizeServiceAction stores.access env.grants actor .identityProviderWrite
      (.tenant "IdentityProvider" tenantId tenantId)
    let provider ← oidcProviderRecordFromCreateRequest request tenantId newId
    ensureProviderSecret stores provider
    .ok provider

def createOidcIdentityProvider (request : CreateOidcIdentityProviderRequest) (newId : String) :
    RecordStores × Result Unit :=
  match oidcProviderCandidate env stores actor request newId with
  | .error error => (stores, .error error)
  | .ok provider =>
    let (owners, answer) := ownerWrite stores.owners
      (.tenant "IdentityProvider" provider.identityProviderId provider.tenantId)
    ({ stores with providers := stores.providers.insert provider.identityProviderId provider, owners }, answer)

end Handlers

end Starweaver.Platform
