import Mathlib.Logic.Relation
import Starweaver.Gateway.ApiKeys
import Starweaver.Gateway.SessionAgreement

namespace Starweaver.Gateway.Tenancy

open Library.Calendar Library.Checks

section Chains

def createApiKeyCall (authorization : AdminAuthorization) (actor : CredentialedActor) (now : DateTime) : AdminCall :=
  ⟨actor.toAuthenticatedActor, authorizeAdminRoute authorization apiKeyCreateRoute actor "*", now⟩

def CreatedWith (env : AuthEnv) (first second : ApiKeyRecord) : Prop :=
  ∃ (store next created : TenancyStore) (headers : HeaderMap) (requestId traceId : String) (now : DateTime)
    (authorization : AdminAuthorization) (request : AdminCreateApiKeyRequest) (requestHash : String)
    (drawn : DrawnApiKey),
    authenticateRequest env store headers requestId traceId now =
        (.ok (.forApiKey first requestId traceId), next) ∧
      createApiKeyAdmin next (createApiKeyCall authorization (.forApiKey first requestId traceId) now) request
        requestHash drawn = (.ok (some second), created)

abbrev KeyChain (env : AuthEnv) := Relation.ReflTransGen (CreatedWith env)

/-- The actor of another key, put into the scope of this one. -/
def CredentialedActor.inScopeOf (actor : CredentialedActor) (key : ApiKeyRecord) : CredentialedActor :=
  { actor with organizationId := key.organizationId, projectId := key.projectId }

variable {env : AuthEnv} {first second : ApiKeyRecord}

theorem authorizeAdminRoute_forApiKey (authorization : AdminAuthorization) (key : ApiKeyRecord)
    (requestId traceId resourceId : String) :
    ∃ error, authorizeAdminRoute authorization apiKeyCreateRoute (.forApiKey key requestId traceId) resourceId =
      .error error := by
  cases hroute :
      authorizeAdminRoute authorization apiKeyCreateRoute (.forApiKey key requestId traceId) resourceId with
  | error error => exact ⟨error, rfl⟩
  | ok value =>
    obtain ⟨_, -, hroute⟩ := bind_ok.mp hroute
    obtain ⟨engine, -, hroute⟩ := bind_ok.mp hroute
    cases hroute

theorem createApiKeyAdmin_forApiKey (store : TenancyStore) (authorization : AdminAuthorization) (key : ApiKeyRecord)
    (requestId traceId : String) (now : DateTime) (request : AdminCreateApiKeyRequest) (requestHash : String)
    (drawn : DrawnApiKey) :
    ∃ error, createApiKeyAdmin store (createApiKeyCall authorization (.forApiKey key requestId traceId) now) request
      requestHash drawn = (.error error, store) := by
  obtain ⟨error, hroute⟩ := authorizeAdminRoute_forApiKey authorization key requestId traceId "*"
  refine ⟨error, ?_⟩
  unfold createApiKeyAdmin createApiKeyCall
  rw [hroute]

theorem not_createdWith (env : AuthEnv) (first second : ApiKeyRecord) : ¬ CreatedWith env first second := by
  rintro ⟨store, next, created, headers, requestId, traceId, now, authorization, request, requestHash, drawn, -, h⟩
  obtain ⟨error, hrefused⟩ :=
    createApiKeyAdmin_forApiKey next authorization first requestId traceId now request requestHash drawn
  rw [hrefused] at h
  cases h

theorem keyChain_eq (h : KeyChain env first second) : second = first := by
  induction h with
  | refl => rfl
  | tail _ hlink _ => exact absurd hlink (not_createdWith _ _ _)

theorem inScopeOf_self (key : ApiKeyRecord) (requestId traceId : String) :
    (CredentialedActor.forApiKey key requestId traceId).inScopeOf key = .forApiKey key requestId traceId := rfl

/-- No chain of keys gets more from the engine than its first key has, in its own scope or in the one of the last. -/
theorem keyChain_not_widened (env : AuthEnv) (grants : List ActionGrant) (h : KeyChain env first second)
    (requestId traceId : String) (action : GatewayAction) (resource : ResourceRef)
    (hallowed : (foundationAuthorizationEngine grants
      ⟨.forApiKey second requestId traceId, action, resource⟩).allowed = true) :
    (foundationAuthorizationEngine grants ⟨.forApiKey first requestId traceId, action, resource⟩).allowed = true ∧
      (foundationAuthorizationEngine grants
        ⟨(CredentialedActor.forApiKey first requestId traceId).inScopeOf second, action, resource⟩).allowed = true := by
  obtain rfl := keyChain_eq h
  rw [inScopeOf_self]
  exact ⟨hallowed, hallowed⟩

end Chains

def invokingKey : ApiKeyRecord :=
  ⟨"ak_1", "ten_1", some "org_1", some "prj_1", "usr_1", "automation", "swg_0123456789ab", "argon2", .active,
    ["gateway.model.invoke"], ["ModelAlias:*"], none⟩

def invokeGrants : List ActionGrant :=
  [⟨"ten_1", some "org_1", some "prj_1", "usr_1", .modelInvoke, "ModelAlias", "*"⟩]

theorem keyChain_not_widened_invoking :
    KeyChain sampleAuthEnv invokingKey invokingKey ∧
      (foundationAuthorizationEngine invokeGrants
        ⟨.forApiKey invokingKey "req_1" "tr_1", .modelInvoke, ⟨"ModelAlias", "alias_1"⟩⟩).allowed = true ∧
      (foundationAuthorizationEngine invokeGrants
        ⟨(CredentialedActor.forApiKey invokingKey "req_1" "tr_1").inScopeOf invokingKey, .modelInvoke,
          ⟨"ModelAlias", "alias_1"⟩⟩).allowed = true :=
  ⟨.refl, keyChain_not_widened sampleAuthEnv invokeGrants .refl "req_1" "tr_1" .modelInvoke
    ⟨"ModelAlias", "alias_1"⟩ rfl⟩

-- the route is open to a session of a user with the grant
example : authorizeAdminRoute ⟨.ok (), .ok (foundationAuthorizationEngine
      [⟨"ten_1", none, none, "usr_1", .apiKeyCreate, "ApiKey", "*"⟩])⟩ apiKeyCreateRoute
    ⟨⟨"sess_1", .user, "ten_1", some "org_1", some "prj_1", some "usr_1", none, "req_1", "tr_1"⟩, none, [], []⟩ "*" =
      .ok () := rfl

end Starweaver.Gateway.Tenancy
