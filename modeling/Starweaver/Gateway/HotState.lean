import Mathlib.Data.List.AList
import Starweaver.Gateway.Domain

namespace Starweaver.Gateway

open Library.Calendar

inductive EndpointHealthState
  | unknown
  | healthy
  | warmup
  | degraded
  | unhealthy
  | blocked
deriving DecidableEq, Repr

/-- A hot record applies only to the config version that wrote it and only before its expiry. -/
def isFreshFor (recordVersion : Int) (expiresAt : DateTime) (configVersion : Option Int) (now : DateTime) : Bool :=
  configVersion == some recordVersion && decide (now < expiresAt)

structure EndpointHealthRecord where
  tenantId : String
  providerEndpointId : String
  configVersion : Int
  state : EndpointHealthState
  observedAt : DateTime
  expiresAt : DateTime
deriving DecidableEq, Repr

def EndpointHealthRecord.isFreshFor (record : EndpointHealthRecord) (configVersion : Option Int)
    (now : DateTime) : Bool :=
  Gateway.isFreshFor record.configVersion record.expiresAt configVersion now

structure EndpointDrainRecord where
  tenantId : String
  providerEndpointId : String
  configVersion : Int
  reason : String
  createdAt : DateTime
  expiresAt : DateTime
deriving DecidableEq, Repr

def EndpointDrainRecord.isFreshFor (record : EndpointDrainRecord) (configVersion : Option Int)
    (now : DateTime) : Bool :=
  Gateway.isFreshFor record.configVersion record.expiresAt configVersion now

structure StickyRouteRecord where
  tenantId : String
  projectId : Option String
  modelAliasId : String
  affinityHash : String
  routingGroupId : String
  modelTargetId : String
  providerEndpointId : String
  configVersion : Int
  createdAt : DateTime
  expiresAt : DateTime
deriving DecidableEq, Repr

def StickyRouteRecord.isFreshFor (record : StickyRouteRecord) (configVersion : Option Int)
    (now : DateTime) : Bool :=
  Gateway.isFreshFor record.configVersion record.expiresAt configVersion now

/-- What route planning reads: the query side of the `RouteHotState` trait. -/
structure RouteHotState where
  endpointHealthState : String → String → Option Int → DateTime → EndpointHealthState
  endpointIsDrained : String → String → Option Int → DateTime → Bool
  stickyRoute : String → Option String → String → String → Option Int → DateTime → Option StickyRouteRecord

def nullRouteHotState : RouteHotState where
  endpointHealthState _ _ _ _ := .unknown
  endpointIsDrained _ _ _ _ := false
  stickyRoute _ _ _ _ _ _ := none

structure InMemoryHotState where
  endpointHealth : AList (fun _ : String × String => EndpointHealthRecord)
  endpointDrains : AList (fun _ : String × String => EndpointDrainRecord)
  stickyRoutes : AList (fun _ : String × Option String × String × String => StickyRouteRecord)

namespace InMemoryHotState

def empty : InMemoryHotState := ⟨∅, ∅, ∅⟩

def endpointHealthState (store : InMemoryHotState) (tenantId providerEndpointId : String)
    (configVersion : Option Int) (now : DateTime) : EndpointHealthState :=
  match (store.endpointHealth.lookup (tenantId, providerEndpointId)).filter
      (fun record => record.isFreshFor configVersion now) with
  | some record => record.state
  | none => .unknown

def endpointIsDrained (store : InMemoryHotState) (tenantId providerEndpointId : String)
    (configVersion : Option Int) (now : DateTime) : Bool :=
  (store.endpointDrains.lookup (tenantId, providerEndpointId)).any
    (fun record => record.isFreshFor configVersion now)

def stickyRoute (store : InMemoryHotState) (tenantId : String) (projectId : Option String)
    (modelAliasId affinityHash : String) (configVersion : Option Int) (now : DateTime) : Option StickyRouteRecord :=
  (store.stickyRoutes.lookup (tenantId, projectId, modelAliasId, affinityHash)).filter
    (fun record => record.isFreshFor configVersion now)

def setEndpointHealth (store : InMemoryHotState) (record : EndpointHealthRecord) : InMemoryHotState :=
  { store with endpointHealth := store.endpointHealth.insert (record.tenantId, record.providerEndpointId) record }

def setEndpointDrain (store : InMemoryHotState) (record : EndpointDrainRecord) : InMemoryHotState :=
  { store with endpointDrains := store.endpointDrains.insert (record.tenantId, record.providerEndpointId) record }

def setStickyRoute (store : InMemoryHotState) (record : StickyRouteRecord) : InMemoryHotState :=
  { store with
    stickyRoutes := store.stickyRoutes.insert
      (record.tenantId, record.projectId, record.modelAliasId, record.affinityHash) record }

def asRouteHotState (store : InMemoryHotState) : RouteHotState where
  endpointHealthState := store.endpointHealthState
  endpointIsDrained := store.endpointIsDrained
  stickyRoute := store.stickyRoute

@[simp] theorem setStickyRoute_endpointIsDrained (store : InMemoryHotState) (record : StickyRouteRecord) :
    (store.setStickyRoute record).endpointIsDrained = store.endpointIsDrained := rfl

end InMemoryHotState

end Starweaver.Gateway
