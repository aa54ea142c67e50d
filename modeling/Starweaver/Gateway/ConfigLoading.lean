import Starweaver.Library.Json
import Starweaver.Gateway.CatalogValidity
import Starweaver.Gateway.GatewayStore
import Starweaver.Gateway.RouteEligibility

namespace Starweaver.Gateway

open Library Library.Checks

def catalogKeys : List String :=
  ["provider_endpoints", "upstream_credentials", "model_targets", "model_aliases", "routing_groups",
    "routing_group_targets", "route_policies", "provider_grants"]

def payloadHasCatalog (payload : Json) : Bool := catalogKeys.any fun key => (payload.get key).isSome

/-- The payload as its readers see it, with the decoder of catalogs given. -/
def configPayload (decode : Json → Except String GatewayCatalogSnapshot) (payload : Json) : ConfigPayload where
  cedarPolicyBundle := (payload.get "cedar_policy_bundle").map Json.asStr
  catalog := if payloadHasCatalog payload then some (decode payload) else none

/-- There is no catalog, or there is one that decodes and is well formed. -/
def Loadable (env : GatewayEnv) (decode : Json → Except String GatewayCatalogSnapshot) (payload : Json) : Prop :=
  payloadHasCatalog payload = false ∨
    ∃ catalog, decode payload = .ok catalog ∧ WellFormedCatalog env.parseUri catalog

section Loading

variable {env : GatewayEnv} {decode : Json → Except String GatewayCatalogSnapshot} {payload : Json}

theorem fromPayload_ok_iff :
    (∃ catalog, GatewayCatalogSnapshot.fromPayload env (configPayload decode payload) = .ok catalog) ↔
      Loadable env decode payload := by
  unfold GatewayCatalogSnapshot.fromPayload configPayload Loadable
  cases payloadHasCatalog payload with
  | false => simp
  | true =>
    cases decode payload with
    | error error => simp
    | ok catalog =>
      simp only [if_true, bind_unit_ok, GatewayCatalogSnapshot.validate_iff]
      simp

theorem latestCatalogForActor_published {store : GatewayStore} {tenantId snapshotId : String}
    {document : ConfigPayload} {rollbackOf : Option String} {actor : AuthenticatedActor}
    (hfresh : ∀ snapshot ∈ store.configSnapshots, snapshot.snapshotId ≠ snapshotId)
    (hactor : actor.tenantId = tenantId) :
    (∃ loaded, latestCatalogForActor (publishDocument store tenantId document rollbackOf snapshotId).2 env actor =
        .ok loaded) ↔
      ∃ catalog, GatewayCatalogSnapshot.fromPayload env document = .ok catalog := by
  obtain ⟨snapshot, hsnapshot, hid, hpayload⟩ : ∃ snapshot : PublishedConfigSnapshot,
      (publishDocument store tenantId document rollbackOf snapshotId).1 = snapshot ∧
        snapshot.snapshotId = snapshotId ∧ snapshot.payload = document := ⟨_, rfl, rfl, rfl⟩
  have hfound : (publishDocument store tenantId document rollbackOf snapshotId).2.configSnapshot snapshotId =
      some snapshot := by
    rw [← hsnapshot]
    unfold GatewayStore.configSnapshot publishDocument GatewayStore.insertConfigSnapshot
    simp only
    rw [List.find?_append, List.find?_eq_none.mpr (by simpa using hfresh)]
    simp
  have hpointer : (publishDocument store tenantId document rollbackOf snapshotId).2.latestPublishedSnapshotForTenant
      actor.tenantId = some snapshot := by
    have hlookup : (publishDocument store tenantId document rollbackOf snapshotId).2.configPublications.lookup tenantId =
        some ⟨snapshotId, (publishDocument store tenantId document rollbackOf snapshotId).1.version⟩ :=
      AList.lookup_insert _
    unfold GatewayStore.latestPublishedSnapshotForTenant
    rw [hactor, hlookup]
    exact hfound
  have hlatest : latestSnapshotForActorInMemory (publishDocument store tenantId document rollbackOf snapshotId).2
      actor = .ok (some snapshot) := by
    unfold latestSnapshotForActorInMemory
    rw [hpointer]
    simp only [hid, hfound]
  unfold latestCatalogForActor
  rw [hlatest]
  simp only [bind, Except.bind]
  rw [hpayload]
  cases GatewayCatalogSnapshot.fromPayload env document with
  | error error => simp
  | ok catalog => simp

/-- What may be published can be loaded exactly when its catalog is well formed, and only then do the next requests of
the tenant get past the catalog. -/
theorem publishable_loadable_iff (env : GatewayEnv) (decode : Json → Except String GatewayCatalogSnapshot)
    (payload : Json) (haccepted : validateConfigSnapshotPayload env (configPayload decode payload) = .ok ()) :
    ((∃ catalog, GatewayCatalogSnapshot.fromPayload env (configPayload decode payload) = .ok catalog) ↔
      Loadable env decode payload) ∧
    ∀ store tenantId snapshotId, (∀ snapshot ∈ GatewayStore.configSnapshots store, snapshot.snapshotId ≠ snapshotId) →
      ∃ snapshot next,
        publishConfigSnapshot store env tenantId (configPayload decode payload) snapshotId = .ok (snapshot, next) ∧
        ∀ actor : AuthenticatedActor, actor.tenantId = tenantId →
          ((∃ loaded, latestCatalogForActor next env actor = .ok loaded) ↔ Loadable env decode payload) := by
  refine ⟨fromPayload_ok_iff, fun store tenantId snapshotId hfresh => ?_⟩
  refine ⟨_, _, bind_unit_ok.mpr ⟨haccepted, rfl⟩, fun actor hactor => ?_⟩
  rw [← fromPayload_ok_iff]
  exact latestCatalogForActor_published hfresh hactor

end Loading

def loadingEnv : GatewayEnv := ⟨httpUri, fun _ => .ok (), fun key _ => key⟩

def emptyCatalog : GatewayCatalogSnapshot := ⟨[], [], [], [], [], [], [], []⟩

def danglingPayload : Json :=
  .object [("route_policies", .array [.object [("route_policy_id", .string "policy_1"), ("tenant_id", .string "tenant_1"),
    ("model_alias_id", .string "alias_1"), ("routing_group_id", .string "group_1"), ("status", .string "active")]])]

def decodeDangling : Json → Except String GatewayCatalogSnapshot := fun _ =>
  .ok { emptyCatalog with routePolicies := [⟨"policy_1", "tenant_1", "alias_1", "group_1", .active, none⟩] }

theorem published_not_loadable :
    validateConfigSnapshotPayload loadingEnv (configPayload decodeDangling danglingPayload) = .ok () ∧
      GatewayCatalogSnapshot.fromPayload loadingEnv (configPayload decodeDangling danglingPayload) =
        .error (.badRequest "route policy policy_1 references missing routing group group_1") ∧
      ∃ snapshot next, publishConfigSnapshot .empty loadingEnv "tenant_1" (configPayload decodeDangling danglingPayload)
          "cfg_1" = .ok (snapshot, next) ∧
        ∀ actor : AuthenticatedActor, actor.tenantId = "tenant_1" → latestCatalogForActor next loadingEnv actor =
          .error (.badRequest "route policy policy_1 references missing routing group group_1") := by
  refine ⟨rfl, rfl, _, _, rfl, ?_⟩
  rintro ⟨_, _, _, _, _, _, _, _, _⟩ ⟨⟩
  rfl

def groupPayload : Json :=
  .object [("routing_groups", .array [.object [("routing_group_id", .string "group_1"),
    ("tenant_id", .string "tenant_1"), ("status", .string "active")]])]

def decodeGroup : Json → Except String GatewayCatalogSnapshot := fun _ =>
  .ok { emptyCatalog with routingGroups := [⟨"group_1", "tenant_1", .active⟩] }

theorem publishable_loadable_group :
    ∃ catalog, GatewayCatalogSnapshot.fromPayload loadingEnv (configPayload decodeGroup groupPayload) = .ok catalog := by
  refine (publishable_loadable_iff loadingEnv decodeGroup groupPayload rfl).1.mpr (.inr ⟨_, rfl, ?_⟩)
  exact (GatewayCatalogSnapshot.validate_iff _ _).mp rfl

end Starweaver.Gateway
