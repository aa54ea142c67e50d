import Starweaver.Gateway.ControlPlaneSteps
import Starweaver.Gateway.RoutedTargets

namespace Starweaver.Gateway

open Library.Checks Library.Machine

/-- The secret of every stored credential belongs to the tenant of the credential. -/
def SecretsOwned (r : Resources) : Prop :=
  ∀ id credential, r.upstreamCredentials.lookup id = some credential →
    ∃ ref, r.secretRefs.lookup credential.secretRefId = some ref ∧ ref.tenantId = credential.tenantId

theorem SecretsOwned.step {action : GatewayAction} {r r' : Resources} (h : SecretsOwned r)
    (hstep : ResourceStep action r r') : SecretsOwned r' := by
  intro id credential hlookup
  cases hstep with
  | unchanged => exact h id credential hlookup
  | secretRefCreated secretRefId record hfresh =>
    obtain ⟨ref, href, htenant⟩ := h id credential hlookup
    have hne : credential.secretRefId ≠ secretRefId := by
      intro heq
      rw [heq, hfresh] at href
      cases href
    exact ⟨ref, by rw [AList.lookup_insert_ne hne, href], htenant⟩
  | secretRefUpdated secretRefId record record' hfound htenant' =>
    obtain ⟨ref, href, htenant⟩ := h id credential hlookup
    by_cases heq : credential.secretRefId = secretRefId
    · rw [heq, hfound, Option.some.injEq] at href
      subst href
      exact ⟨record', by rw [heq, AList.lookup_insert], htenant'.trans htenant⟩
    · exact ⟨ref, by rw [AList.lookup_insert_ne heq, href], htenant⟩
  | credentialCreated upstreamCredentialId record ref hfresh href htenant =>
    by_cases heq : id = upstreamCredentialId
    · subst heq
      rw [AList.lookup_insert, Option.some.injEq] at hlookup
      subst hlookup
      exact ⟨ref, href, htenant⟩
    · rw [AList.lookup_insert_ne heq] at hlookup
      exact h id credential hlookup
  | credentialUpdated upstreamCredentialId record record' hfound htenant hsecret hstatus =>
    by_cases heq : id = upstreamCredentialId
    · subst heq
      rw [AList.lookup_insert, Option.some.injEq] at hlookup
      subst hlookup
      obtain ⟨ref, href, howner⟩ := h id record hfound
      exact ⟨ref, by rw [hsecret, href], howner.trans htenant.symm⟩
    · rw [AList.lookup_insert_ne heq] at hlookup
      exact h id credential hlookup
  | groupCreated routingGroupId record hfresh => exact h id credential hlookup
  | groupUpdated routingGroupId record' hstatus => exact h id credential hlookup

/-- The store keeps every secret with the tenant of its credential, whatever the order of the operations. -/
theorem secretsOwned_run {env : GatewayEnv} {start s : GatewayState} {actions : List GatewayAction}
    (hstart : start.store.upstreamCredentials = ∅) (hrun : run (gatewayStep env) start actions = some s) :
    SecretsOwned s.store.resources := by
  have hinitial : SecretsOwned start.store.resources := by
    intro id credential hlookup
    rw [show start.store.resources.upstreamCredentials = ∅ from hstart] at hlookup
    cases hlookup
  have hstep : ∀ s a next, SecretsOwned s.store.resources → gatewayStep env s a = some next →
      SecretsOwned next.store.resources := fun _ _ _ h hnext => h.step (gatewayStep_resources hnext)
  exact run_invariant_always hstep hinitial hrun

def readableCredential (store : GatewayStore) (id : String) : Option UpstreamCredentialRecord :=
  (store.upstreamCredentials.lookup id).filter fun credential => (store.secretValue credential.secretRefId).isSome

def usedSecretRef (store : GatewayStore) (target : RuntimeRouteTarget) : Option String :=
  target.upstreamCredentialId.bind fun id =>
    match readableCredential store id with
    | some credential => some credential.secretRefId
    | none => target.upstreamCredentialSnapshot.map (·.secretRefId)

def CarriesSecretOf (store : GatewayStore) (target : RuntimeRouteTarget) (credential : ProviderAdapterCredential)
    (tenantId : String) : Prop :=
  ∃ ref record, usedSecretRef store target = some ref ∧ store.secretValue ref = some credential.secretValue ∧
    store.secretRefs.lookup ref = some record ∧ record.tenantId = tenantId

/-- The stored credential belongs to the tenant; without a readable one, the secret reference that the catalog writes
down for the credential does. -/
def OwnsCredential (store : GatewayStore) (catalog : GatewayCatalogSnapshot) (tenantId id : String) : Prop :=
  match readableCredential store id with
  | some credential => credential.tenantId = tenantId
  | none => ∀ entry ∈ catalog.upstreamCredentials, entry.upstreamCredentialId = id →
      ∀ ref, store.secretRefs.lookup entry.secretRefId = some ref → ref.tenantId = tenantId

section Tenancy

variable {store : GatewayStore} {target : RuntimeRouteTarget} {credential : ProviderAdapterCredential} {id : String}

theorem secretValue_lookup {ref value : String} (h : store.secretValue ref = some value) :
    ∃ record, store.secretRefs.lookup ref = some record := by
  unfold GatewayStore.secretValue at h
  split at h
  · cases h
  · rename_i record hlookup
    exact ⟨record, hlookup⟩

theorem readableCredential_some {stored : UpstreamCredentialRecord} (h : readableCredential store id = some stored) :
    store.upstreamCredentials.lookup id = some stored ∧
      ∃ value, store.secretValue stored.secretRefId = some value := by
  unfold readableCredential at h
  rw [Option.filter_eq_some_iff] at h
  exact ⟨h.1, Option.isSome_iff_exists.mp h.2⟩

theorem adapterCredential_stored {stored : UpstreamCredentialRecord} (hid : target.upstreamCredentialId = some id)
    (hreadable : readableCredential store id = some stored)
    (hcredential : runtimeProviderAdapterCredential store target = some credential) :
    store.secretValue stored.secretRefId = some credential.secretValue := by
  obtain ⟨hlookup, value, hvalue⟩ := readableCredential_some hreadable
  unfold runtimeProviderAdapterCredential at hcredential
  simp only [hid, Option.bind_some, hlookup, hvalue, Option.map_some, Option.some.injEq] at hcredential
  rw [hvalue, ← hcredential]

theorem adapterCredential_fallback (hid : target.upstreamCredentialId = some id)
    (hreadable : readableCredential store id = none)
    (hcredential : runtimeProviderAdapterCredential store target = some credential) :
    ∃ snapshot, target.upstreamCredentialSnapshot = some snapshot ∧
      store.secretValue snapshot.secretRefId = some credential.secretValue := by
  have hnone : ((target.upstreamCredentialId.bind store.upstreamCredentials.lookup).bind fun credential =>
      (store.secretValue credential.secretRefId).map fun secretValue =>
        (⟨credential.upstreamCredentialId, credential.credentialKind, secretValue⟩ : ProviderAdapterCredential)) =
      none := by
    unfold readableCredential at hreadable
    rw [hid, Option.bind_some]
    cases hlookup : store.upstreamCredentials.lookup id with
    | none => rfl
    | some stored =>
      rw [hlookup] at hreadable
      simpa using hreadable
  unfold runtimeProviderAdapterCredential at hcredential
  simp only [hnone] at hcredential
  rw [hid, Option.bind_some] at hcredential
  obtain ⟨snapshot, hsnapshot, hcredential⟩ := Option.bind_eq_some_iff.mp hcredential
  obtain ⟨value, hvalue, rfl⟩ := Option.map_eq_some_iff.mp hcredential
  exact ⟨snapshot, hsnapshot, hvalue⟩

theorem carriesSecretOf_stored {stored : UpstreamCredentialRecord} {tenantId : String}
    (howned : SecretsOwned store.resources) (hid : target.upstreamCredentialId = some id)
    (hreadable : readableCredential store id = some stored)
    (hcredential : runtimeProviderAdapterCredential store target = some credential) :
    CarriesSecretOf store target credential tenantId ↔ stored.tenantId = tenantId := by
  have hused : usedSecretRef store target = some stored.secretRefId := by simp [usedSecretRef, hid, hreadable]
  obtain ⟨ref, href, htenant⟩ := howned id stored (readableCredential_some hreadable).1
  constructor
  · rintro ⟨ref', record, hused', -, hrecord, hrecord'⟩
    rw [hused, Option.some.injEq] at hused'
    subst hused'
    rw [show store.secretRefs.lookup stored.secretRefId = some ref from href, Option.some.injEq] at hrecord
    rw [← htenant, hrecord, hrecord']
  · intro hown
    exact ⟨_, ref, hused, adapterCredential_stored hid hreadable hcredential, href, htenant.trans hown⟩

theorem carriesSecretOf_fallback {snapshot : RuntimeCredentialSnapshot} {tenantId : String}
    (hid : target.upstreamCredentialId = some id) (hreadable : readableCredential store id = none)
    (hsnapshot : target.upstreamCredentialSnapshot = some snapshot)
    (hvalue : store.secretValue snapshot.secretRefId = some credential.secretValue) :
    CarriesSecretOf store target credential tenantId ↔
      ∀ ref, store.secretRefs.lookup snapshot.secretRefId = some ref → ref.tenantId = tenantId := by
  have hused : usedSecretRef store target = some snapshot.secretRefId := by
    simp [usedSecretRef, hid, hreadable, hsnapshot]
  obtain ⟨record, hrecord⟩ := secretValue_lookup hvalue
  constructor
  · rintro ⟨ref', record', hused', -, hrecord', htenant⟩ ref href
    rw [hused, Option.some.injEq] at hused'
    subst hused'
    rw [href, Option.some.injEq] at hrecord'
    rw [hrecord', htenant]
  · intro hown
    exact ⟨_, record, hused, hvalue, hrecord, hown record hrecord⟩

/-- The secret that a request sends upstream is its own tenant's exactly when the credential named by the selected
target is. -/
theorem runtimeProviderAdapterCredential_tenant_iff {env : GatewayEnv} {start s next : GatewayState}
    {actions : List GatewayAction} {request : RuntimeRouteRequest} (hstart : start.store.upstreamCredentials = ∅)
    (hrun : run (gatewayStep env) start actions = some s) (hroute : routeRequest env request s = (.ok target, next))
    (hcredential : runtimeProviderAdapterCredential next.store target = some credential) :
    ∃ loaded id, latestCatalogForActor s.store env request.actor = .ok (some loaded) ∧
      target.upstreamCredentialId = some id ∧
      (CarriesSecretOf next.store target credential request.actor.tenantId ↔
        OwnsCredential s.store loaded.catalog request.actor.tenantId id) := by
  have howned := secretsOwned_run hstart hrun
  obtain ⟨hstore, rfl | ⟨loaded, selection, hselects, hid, hsnapshot, -⟩⟩ := routeRequest_ok hroute
  · cases hcredential
  rw [hstore] at hcredential ⊢
  cases hselected : selection.upstreamCredentialId with
  | none =>
    rw [hselected] at hid
    simp [runtimeProviderAdapterCredential, hid] at hcredential
  | some id =>
    rw [hselected] at hid
    refine ⟨loaded, id, hselects.1, hid, ?_⟩
    unfold OwnsCredential
    cases hreadable : readableCredential s.store id with
    | some stored => exact carriesSecretOf_stored howned hid hreadable hcredential
    | none =>
      obtain ⟨snapshot, hsnapshot', hvalue⟩ := adapterCredential_fallback hid hreadable hcredential
      rw [carriesSecretOf_fallback hid hreadable hsnapshot' hvalue]
      rw [hsnapshot'] at hsnapshot
      unfold runtimeCredentialSnapshot at hsnapshot
      rw [hselected, Option.bind_some] at hsnapshot
      obtain ⟨entry, hentry, rfl⟩ := Option.map_eq_some_iff.mp hsnapshot.symm
      have hlisted := List.mem_of_find?_eq_some hentry
      have hnamed : entry.upstreamCredentialId = id := by simpa using List.find?_some hentry
      obtain ⟨indexes⟩ := GatewayCatalogSnapshot.validate_indexes (latestCatalogForActor_valid hselects.1)
      constructor
      · intro hown other hother hname
        rw [indexBy_unique indexes.credentials_ok hother hlisted (hname.trans hnamed.symm)]
        exact hown
      · exact fun hown => hown entry hlisted hnamed

end Tenancy

def sampleEnv : GatewayEnv :=
  ⟨httpUri, fun _ => .ok (), fun targetResourceId request => targetResourceId ++ ":" ++ request.idempotencyKey⟩

def catalogNaming (upstreamCredentialId : String) : GatewayCatalogSnapshot :=
  { twoEndpointCatalog with
    upstreamCredentials := [⟨upstreamCredentialId, "tenant_1", "ep_a", "api_key", "sec_a", .active⟩]
    modelTargets := [⟨"target_a", "tenant_1", "ep_a", some upstreamCredentialId, .openAiResponses, "model-a", none,
        .active, true⟩,
      ⟨"target_b", "tenant_1", "ep_b", none, .openAiResponses, "model-b", none, .active, true⟩] }

def namedByFirstTenant (tenantId : String) : List GatewayAction :=
  [.createProviderEndpoint tenantId none "pep_1",
    .createSecretRef ⟨tenantId, none, none, "upstream key", .memory, "upstream-key", .ok ""⟩ "sec_1",
    .createUpstreamCredential ⟨tenantId, none, "pep_1", "api_key", "sec_1"⟩ "upc_1",
    .publishConfigSnapshot "tenant_1" ⟨none, some (.ok (catalogNaming "upc_1"))⟩ "cfg_1"]

def chatRequest : RuntimeRouteRequest where
  actor := tenantActor
  replayCase := ⟨.openAiResponses, true⟩
  requestedModel := "chat"
  routeAffinityHash := none
  plannedAt := ⟨0⟩
  recordedAt := ⟨0⟩
  routeDecisionId := "rd_1"
  postgresStore := none

theorem adapterCredential_of_other_tenant :
    ∃ s target next credential, run (gatewayStep sampleEnv) .empty (namedByFirstTenant "tenant_2") = some s ∧
      routeRequest sampleEnv chatRequest s = (.ok target, next) ∧
      runtimeProviderAdapterCredential next.store target = some credential ∧
      CarriesSecretOf next.store target credential "tenant_2" ∧
      ¬ CarriesSecretOf next.store target credential chatRequest.actor.tenantId := by
  obtain ⟨s, hrun⟩ : ∃ s, run (gatewayStep sampleEnv) .empty (namedByFirstTenant "tenant_2") = some s := ⟨_, rfl⟩
  obtain ⟨target, next, hroute⟩ : ∃ target next, routeRequest sampleEnv chatRequest s = (.ok target, next) := by
    cases hrun
    exact ⟨_, _, rfl⟩
  obtain ⟨credential, hcredential⟩ : ∃ credential,
      runtimeProviderAdapterCredential next.store target = some credential := by
    cases hrun
    cases hroute
    exact ⟨_, rfl⟩
  have hcarries : CarriesSecretOf next.store target credential "tenant_2" := by
    cases hrun
    cases hroute
    cases hcredential
    exact ⟨"sec_1", _, rfl, rfl, rfl, rfl⟩
  refine ⟨s, target, next, credential, hrun, hroute, hcredential, hcarries, ?_⟩
  rintro ⟨ref, record, href, -, hrecord, htenant⟩
  obtain ⟨ref', record', href', -, hrecord', htenant'⟩ := hcarries
  rw [href, Option.some.injEq] at href'
  rw [← href', hrecord, Option.some.injEq] at hrecord'
  rw [← hrecord', htenant] at htenant'
  exact absurd htenant' (by decide)

theorem adapterCredential_of_own_tenant :
    ∃ s target next credential, run (gatewayStep sampleEnv) .empty (namedByFirstTenant "tenant_1") = some s ∧
      routeRequest sampleEnv chatRequest s = (.ok target, next) ∧
      runtimeProviderAdapterCredential next.store target = some credential ∧
      CarriesSecretOf next.store target credential chatRequest.actor.tenantId := by
  obtain ⟨s, hrun⟩ : ∃ s, run (gatewayStep sampleEnv) .empty (namedByFirstTenant "tenant_1") = some s := ⟨_, rfl⟩
  obtain ⟨target, next, hroute⟩ : ∃ target next, routeRequest sampleEnv chatRequest s = (.ok target, next) := by
    cases hrun
    exact ⟨_, _, rfl⟩
  obtain ⟨credential, hcredential⟩ : ∃ credential,
      runtimeProviderAdapterCredential next.store target = some credential := by
    cases hrun
    cases hroute
    exact ⟨_, rfl⟩
  refine ⟨s, target, next, credential, hrun, hroute, hcredential, ?_⟩
  obtain ⟨loaded, id, -, hid, hiff⟩ := runtimeProviderAdapterCredential_tenant_iff rfl hrun hroute hcredential
  apply hiff.mpr
  cases hrun
  cases hroute
  cases hid
  rfl

end Starweaver.Gateway
