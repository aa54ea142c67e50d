import Starweaver.Library.Expiring
import Starweaver.Library.Machine
import Starweaver.Gateway.HotState

namespace Starweaver.Gateway

open Library.Calendar Library.Expiring Library.Machine

def endpointHealthKey (ids : String × String) : String := "gateway:endpoint_health:" ++ ids.1 ++ ":" ++ ids.2

def endpointDrainKey (ids : String × String) : String := "gateway:drain:" ++ ids.1 ++ ":" ++ ids.2

def stickyRouteKey (ids : String × Option String × String × String) : String :=
  "gateway:sticky:" ++ ids.1 ++ ":" ++ ids.2.1.getD "_" ++ ":" ++ ids.2.2.1 ++ ":" ++ ids.2.2.2

/-- The texts that the three kinds of records are encoded to; a text of one kind does not decode to another. -/
inductive HotPayload
  | endpointHealth (record : EndpointHealthRecord)
  | endpointDrain (record : EndpointDrainRecord)
  | stickyRoute (record : StickyRouteRecord)
deriving DecidableEq, Repr

def endpointHealthCodec : Codec (String × String) EndpointHealthRecord HotPayload where
  key := endpointHealthKey
  ids record := (record.tenantId, record.providerEndpointId)
  expiresAt record := record.expiresAt.nanos
  encode := .endpointHealth
  decode
    | .endpointHealth record => some record
    | _ => none
  decode_encode _ := rfl

def endpointDrainCodec : Codec (String × String) EndpointDrainRecord HotPayload where
  key := endpointDrainKey
  ids record := (record.tenantId, record.providerEndpointId)
  expiresAt record := record.expiresAt.nanos
  encode := .endpointDrain
  decode
    | .endpointDrain record => some record
    | _ => none
  decode_encode _ := rfl

def stickyRouteCodec : Codec (String × Option String × String × String) StickyRouteRecord HotPayload where
  key := stickyRouteKey
  ids record := (record.tenantId, record.projectId, record.modelAliasId, record.affinityHash)
  expiresAt record := record.expiresAt.nanos
  encode := .stickyRoute
  decode
    | .stickyRoute record => some record
    | _ => none
  decode_encode _ := rfl

structure RedisRouteHotState where
  space : Keyspace HotPayload

namespace RedisRouteHotState

def empty : RedisRouteHotState := ⟨∅⟩

variable (redis : RedisRouteHotState)

def endpointHealthState (tenantId providerEndpointId : String) (configVersion : Option Int) (now : DateTime) :
    EndpointHealthState :=
  match (endpointHealthCodec.read redis.space (tenantId, providerEndpointId) now.nanos).filter
      (fun record => record.isFreshFor configVersion now) with
  | some record => record.state
  | none => .unknown

def endpointIsDrained (tenantId providerEndpointId : String) (configVersion : Option Int) (now : DateTime) : Bool :=
  (endpointDrainCodec.read redis.space (tenantId, providerEndpointId) now.nanos).any
    (fun record => record.isFreshFor configVersion now)

def stickyRoute (tenantId : String) (projectId : Option String) (modelAliasId affinityHash : String)
    (configVersion : Option Int) (now : DateTime) : Option StickyRouteRecord :=
  (stickyRouteCodec.read redis.space (tenantId, projectId, modelAliasId, affinityHash) now.nanos).filter
    (fun record => record.isFreshFor configVersion now)

def setEndpointHealth (record : EndpointHealthRecord) (now : DateTime) : RedisRouteHotState :=
  ⟨endpointHealthCodec.write redis.space record now.nanos⟩

def setEndpointDrain (record : EndpointDrainRecord) (now : DateTime) : RedisRouteHotState :=
  ⟨endpointDrainCodec.write redis.space record now.nanos⟩

def setStickyRoute (record : StickyRouteRecord) (now : DateTime) : RedisRouteHotState :=
  ⟨stickyRouteCodec.write redis.space record now.nanos⟩

end RedisRouteHotState

/-- The two backends, side by side. -/
structure HotBackends where
  memory : InMemoryHotState
  redis : RedisRouteHotState
  clock : DateTime

inductive HotAction
  | setEndpointHealth (record : EndpointHealthRecord)
  | setEndpointDrain (record : EndpointDrainRecord)
  | setStickyRoute (record : StickyRouteRecord)
  | endpointHealthState (tenantId providerEndpointId : String) (configVersion : Option Int)
  | endpointIsDrained (tenantId providerEndpointId : String) (configVersion : Option Int)
  | stickyRoute (tenantId : String) (projectId : Option String) (modelAliasId affinityHash : String)
    (configVersion : Option Int)

/-- One call of the trait on both backends, at a time not before the last one. -/
def hotStep (s : HotBackends) : HotAction × DateTime → Option HotBackends
  | (action, now) =>
    if now < s.clock then none
    else match action with
      | .setEndpointHealth record =>
        some ⟨s.memory.setEndpointHealth record, s.redis.setEndpointHealth record now, now⟩
      | .setEndpointDrain record => some ⟨s.memory.setEndpointDrain record, s.redis.setEndpointDrain record now, now⟩
      | .setStickyRoute record => some ⟨s.memory.setStickyRoute record, s.redis.setStickyRoute record now, now⟩
      | _ => some { s with clock := now }

/-- A query has one answer on both backends. -/
def SameAnswer (s : HotBackends) : HotAction × DateTime → Prop
  | (action, now) => s.clock ≤ now → match action with
    | .endpointHealthState tenantId providerEndpointId configVersion =>
      s.memory.endpointHealthState tenantId providerEndpointId configVersion now =
        s.redis.endpointHealthState tenantId providerEndpointId configVersion now
    | .endpointIsDrained tenantId providerEndpointId configVersion =>
      s.memory.endpointIsDrained tenantId providerEndpointId configVersion now =
        s.redis.endpointIsDrained tenantId providerEndpointId configVersion now
    | .stickyRoute tenantId projectId modelAliasId affinityHash configVersion =>
      s.memory.stickyRoute tenantId projectId modelAliasId affinityHash configVersion now =
        s.redis.stickyRoute tenantId projectId modelAliasId affinityHash configVersion now
    | _ => True

/-- A write keeps to its own key and to whole seconds, and a query meets no record of other ids. -/
def KeepsOwnKey (s : HotBackends) : HotAction × DateTime → Prop
  | (.setEndpointHealth record, now) => WritesOwn endpointHealthCodec s.redis.space record now.nanos
  | (.setEndpointDrain record, now) => WritesOwn endpointDrainCodec s.redis.space record now.nanos
  | (.setStickyRoute record, now) => WritesOwn stickyRouteCodec s.redis.space record now.nanos
  | (.endpointHealthState tenantId providerEndpointId _, now) =>
    ReadsOwn endpointHealthCodec s.redis.space (tenantId, providerEndpointId) now.nanos
  | (.endpointIsDrained tenantId providerEndpointId _, now) =>
    ReadsOwn endpointDrainCodec s.redis.space (tenantId, providerEndpointId) now.nanos
  | (.stickyRoute tenantId projectId modelAliasId affinityHash _, now) =>
    ReadsOwn stickyRouteCodec s.redis.space (tenantId, projectId, modelAliasId, affinityHash) now.nanos

structure BackendsMirror (s : HotBackends) : Prop where
  health : Mirrors endpointHealthCodec s.memory.endpointHealth s.redis.space s.clock.nanos
  drains : Mirrors endpointDrainCodec s.memory.endpointDrains s.redis.space s.clock.nanos
  sticky : Mirrors stickyRouteCodec s.memory.stickyRoutes s.redis.space s.clock.nanos

section Keys

/-- The letter after `gateway:` tells the kind of a key. -/
def kindLetter (key : String) : Option Char := key.toList[8]?

theorem kindLetter_append {front : String} (h : 8 < front.toList.length) (rest : String) :
    kindLetter (front ++ rest) = kindLetter front := by
  unfold kindLetter
  rw [String.toList_append, List.getElem?_append_left h]

theorem kindLetter_health (ids : String × String) : kindLetter (endpointHealthKey ids) = some 'e' := by
  unfold endpointHealthKey
  rw [String.append_assoc, String.append_assoc, kindLetter_append (by decide)]
  decide

theorem kindLetter_drain (ids : String × String) : kindLetter (endpointDrainKey ids) = some 'd' := by
  unfold endpointDrainKey
  rw [String.append_assoc, String.append_assoc, kindLetter_append (by decide)]
  decide

theorem kindLetter_sticky (ids : String × Option String × String × String) :
    kindLetter (stickyRouteKey ids) = some 's' := by
  unfold stickyRouteKey
  simp only [String.append_assoc]
  rw [kindLetter_append (by decide)]
  decide

theorem keys_ne {key other : String} {a b : Char} (hkey : kindLetter key = some a) (hother : kindLetter other = some b)
    (hne : a ≠ b) : key ≠ other := by
  rintro rfl
  rw [hkey, Option.some.injEq] at hother
  exact hne hother

end Keys

section Steps

variable {s next : HotBackends}

theorem hotStep_mirror (h : BackendsMirror s) {action : HotAction × DateTime} (hkeeps : KeepsOwnKey s action)
    (hstep : hotStep s action = some next) : BackendsMirror next := by
  obtain ⟨action, now⟩ := action
  simp only [hotStep] at hstep
  split at hstep
  · cases hstep
  rename_i hclock
  have hle : s.clock.nanos ≤ now.nanos := Int.not_lt.mp hclock
  cases action with
  | setEndpointHealth record =>
    cases hstep
    exact ⟨h.health.write hle hkeeps,
      h.drains.other hle _ record fun ids => keys_ne (kindLetter_drain ids) (kindLetter_health _) (by decide),
      h.sticky.other hle _ record fun ids => keys_ne (kindLetter_sticky ids) (kindLetter_health _) (by decide)⟩
  | setEndpointDrain record =>
    cases hstep
    exact ⟨h.health.other hle _ record fun ids => keys_ne (kindLetter_health ids) (kindLetter_drain _) (by decide),
      h.drains.write hle hkeeps,
      h.sticky.other hle _ record fun ids => keys_ne (kindLetter_sticky ids) (kindLetter_drain _) (by decide)⟩
  | setStickyRoute record =>
    cases hstep
    exact ⟨h.health.other hle _ record fun ids => keys_ne (kindLetter_health ids) (kindLetter_sticky _) (by decide),
      h.drains.other hle _ record fun ids => keys_ne (kindLetter_drain ids) (kindLetter_sticky _) (by decide),
      h.sticky.write hle hkeeps⟩
  | endpointHealthState tenantId providerEndpointId configVersion =>
    cases hstep
    exact ⟨h.health.later hle, h.drains.later hle, h.sticky.later hle⟩
  | endpointIsDrained tenantId providerEndpointId configVersion =>
    cases hstep
    exact ⟨h.health.later hle, h.drains.later hle, h.sticky.later hle⟩
  | stickyRoute tenantId projectId modelAliasId affinityHash configVersion =>
    cases hstep
    exact ⟨h.health.later hle, h.drains.later hle, h.sticky.later hle⟩

theorem live_of_isFreshFor {recordVersion : Int} {expiresAt : DateTime} {configVersion : Option Int} {now : DateTime}
    (h : isFreshFor recordVersion expiresAt configVersion now = true) : decide (now.nanos < expiresAt.nanos) = true := by
  unfold isFreshFor at h
  exact (Bool.and_eq_true_iff.mp h).2

theorem hotStep_same (h : BackendsMirror s) {action : HotAction × DateTime} (hkeeps : KeepsOwnKey s action) :
    SameAnswer s action := by
  obtain ⟨action, now⟩ := action
  intro hle
  cases action with
  | setEndpointHealth record => trivial
  | setEndpointDrain record => trivial
  | setStickyRoute record => trivial
  | endpointHealthState tenantId providerEndpointId configVersion =>
    have hread := h.health.fresh hle hkeeps fun (record : EndpointHealthRecord)
      (hfresh : record.isFreshFor configVersion now = true) => live_of_isFreshFor hfresh
    show s.memory.endpointHealthState _ _ _ _ = s.redis.endpointHealthState _ _ _ _
    exact congrArg (fun found : Option EndpointHealthRecord => match found with
      | some record => record.state
      | none => .unknown) hread
  | endpointIsDrained tenantId providerEndpointId configVersion =>
    have hread := h.drains.fresh hle hkeeps fun (record : EndpointDrainRecord)
      (hfresh : record.isFreshFor configVersion now = true) => live_of_isFreshFor hfresh
    have hany (found : Option EndpointDrainRecord) (p : EndpointDrainRecord → Bool) :
        found.any p = (found.filter p).isSome := by
      cases found with
      | none => rfl
      | some record => cases hp : p record <;> simp [Option.filter_some, hp]
    show s.memory.endpointIsDrained _ _ _ _ = s.redis.endpointIsDrained _ _ _ _
    unfold InMemoryHotState.endpointIsDrained RedisRouteHotState.endpointIsDrained
    rw [hany, hany, hread]
  | stickyRoute tenantId projectId modelAliasId affinityHash configVersion =>
    exact h.sticky.fresh hle hkeeps fun (record : StickyRouteRecord)
      (hfresh : record.isFreshFor configVersion now = true) => live_of_isFreshFor hfresh

end Steps

def HotBackends.start (clock : DateTime) : HotBackends := ⟨.empty, .empty, clock⟩

theorem start_mirror (clock : DateTime) : BackendsMirror (.start clock) :=
  ⟨Mirrors.empty _ _, Mirrors.empty _ _, Mirrors.empty _ _⟩

/-- The backends answer every query of a run alike when each of its calls keeps to its own key. -/
theorem hotBackends_same {clock : DateTime} {actions : List (HotAction × DateTime)}
    (hkeeps : Meets hotStep KeepsOwnKey (.start clock) actions) : Meets hotStep SameAnswer (.start clock) actions :=
  hkeeps.imp_of_invariant (fun _ _ _ h hkeeps hstep => hotStep_mirror h hkeeps hstep)
    (fun _ _ h hkeeps => hotStep_same h hkeeps) (start_mirror clock)

def healthRecord (state : EndpointHealthState) (observedAt expiresAt : Int) : EndpointHealthRecord :=
  ⟨"tenant_1", "ep_a", 1, state, ⟨observedAt⟩, ⟨expiresAt⟩⟩

def stickyRecord (projectId : Option String) : StickyRouteRecord :=
  ⟨"tenant_1", projectId, "alias_1", "hash", "group_1", "target_a", "ep_a", 1, ⟨0⟩, ⟨60000000000⟩⟩

def healthQuery : HotAction := .endpointHealthState "tenant_1" "ep_a" (some 1)

/-- A record of one and a half seconds is read after 1.2 seconds. -/
def halfSecond : List (HotAction × DateTime) :=
  [(.setEndpointHealth (healthRecord .blocked 0 1500000000), ⟨0⟩), (healthQuery, ⟨1200000000⟩)]

/-- A live record is replaced by one with half a second to live, and read after that. -/
def skippedWrite : List (HotAction × DateTime) :=
  [(.setEndpointHealth (healthRecord .healthy 0 60000000000), ⟨0⟩),
    (.setEndpointHealth (healthRecord .blocked 1000000000 1500000000), ⟨1000000000⟩), (healthQuery, ⟨2000000000⟩)]

/-- A route without a project is asked for under the project `_`. -/
def noProject : List (HotAction × DateTime) :=
  [(.setStickyRoute (stickyRecord none), ⟨0⟩),
    (.stickyRoute "tenant_1" (some "_") "alias_1" "hash" (some 1), ⟨1000000000⟩)]

theorem hotBackends_differ :
    ¬ Meets hotStep SameAnswer (.start ⟨0⟩) halfSecond ∧ ¬ Meets hotStep SameAnswer (.start ⟨0⟩) skippedWrite ∧
      ¬ Meets hotStep SameAnswer (.start ⟨0⟩) noProject := by
  refine ⟨fun h => ?_, fun h => ?_, fun h => ?_⟩
  · have hquery : EndpointHealthState.blocked = .unknown := (h.2 _ rfl).1 (by decide)
    cases hquery
  · have hquery : EndpointHealthState.unknown = .healthy := ((h.2 _ rfl).2 _ rfl).1 (by decide)
    cases hquery
  · have hquery : none = some (stickyRecord none) := (h.2 _ rfl).1 (by decide)
    cases hquery

/-- A record is replaced within its minute, and read within the minute of the new one. -/
def wholeSeconds : List (HotAction × DateTime) :=
  [(.setEndpointHealth (healthRecord .healthy 0 60000000000), ⟨0⟩),
    (.setEndpointHealth (healthRecord .blocked 500000000 60500000000), ⟨500000000⟩), (healthQuery, ⟨60400000000⟩)]

theorem wholeSeconds_same : Meets hotStep SameAnswer (.start ⟨0⟩) wholeSeconds := by
  apply hotBackends_same
  refine Meets.cons rfl (.inl ⟨by decide, by decide, ?_⟩)
    (Meets.cons rfl (.inl ⟨by decide, by decide, ?_⟩) (Meets.cons rfl ?_ trivial))
  · intro record hread
    cases hread
  · intro record hread _
    cases hread
    rfl
  · intro record hread _
    cases hread
    rfl

end Starweaver.Gateway
