import Starweaver.Library.Machine
import Starweaver.Gateway.LedgerCount
import Starweaver.Gateway.TerminalUsage

namespace Starweaver.Gateway

open Library Library.Calendar Library.Machine Library.MachineInt

structure RequestHeaders where
  requestId : Option String
deriving DecidableEq, Repr

def isSafeRequestId (value : String) : Bool :=
  value != "" && decide (value.utf8ByteSize ≤ 128) &&
    value.toList.all fun c => c.isAlphanum || c == '_' || c == '-' || c == '.'

def requestIdFromHeaders (headers : RequestHeaders) (generated : String) : String :=
  (headers.requestId.filter isSafeRequestId).getD generated

def requestIdMiddleware (headers : RequestHeaders) (generated : String) : RequestHeaders :=
  ⟨some (requestIdFromHeaders headers generated)⟩

/-- A request or turn is listed with the actor and the terminal input of the provider response it ends in. -/
inductive Traffic
  | request (headers : RequestHeaders) (actor : AuthenticatedActor) (input : TerminalUsageInput)
  | connect (headers : RequestHeaders)
  | turn (session : Nat) (actor : AuthenticatedActor) (input : TerminalUsageInput)

structure TrafficState where
  sessions : List RequestHeaders
  generated : Nat
  store : UsageStore
  responses : List UsageEventRecord

def TrafficState.empty : TrafficState := ⟨[], 0, .empty, []⟩

/-- The response is handed to the terminal accounting under the request id that its headers give. -/
def TrafficState.finish (ids : Nat → String) (s : TrafficState) (headers : RequestHeaders)
    (actor : AuthenticatedActor) (input : TerminalUsageInput) : TrafficState :=
  let actor := { actor with requestId := requestIdFromHeaders headers (ids s.generated) }
  { s with
    generated := s.generated + 1
    store := recordTerminalUsageEvent s.store actor input
    responses := s.responses ++ [terminalUsageEvent actor input] }

/-- A WebSocket keeps the headers of its handshake, as the middleware left them, and reads them again for every
turn. The stream `ids` gives the request ids that the gateway generates. -/
def trafficStep (ids : Nat → String) (s : TrafficState) : Traffic → Option TrafficState
  | .request headers actor input =>
    some (TrafficState.finish ids { s with generated := s.generated + 1 }
      (requestIdMiddleware headers (ids s.generated)) actor input)
  | .connect headers =>
    some { s with
      generated := s.generated + 1
      sessions := s.sessions ++ [requestIdMiddleware headers (ids s.generated)] }
  | .turn session actor input => (s.sessions[session]?).map fun headers => s.finish ids headers actor input

def Traffic.event? : Traffic → Option (AuthenticatedActor × TerminalUsageInput)
  | .request _ actor input | .turn _ actor input => some (actor, input)
  | .connect _ => none

def trafficRequestIds (ids : Nat → String) : List RequestHeaders → Nat → List Traffic → List String
  | _, _, [] => []
  | sessions, generated, .request headers _ _ :: traffic =>
    requestIdFromHeaders (requestIdMiddleware headers (ids generated)) (ids (generated + 1)) ::
      trafficRequestIds ids sessions (generated + 2) traffic
  | sessions, generated, .connect headers :: traffic =>
    trafficRequestIds ids (sessions ++ [requestIdMiddleware headers (ids generated)]) (generated + 1) traffic
  | sessions, generated, .turn session _ _ :: traffic =>
    ((sessions[session]?).map fun headers => requestIdFromHeaders headers (ids generated)).toList ++
      trafficRequestIds ids sessions (generated + 1) traffic

/-- One usage event for every response, and totals of the tenant's ledger, in every kind of bucket, that are the sums
over the responses. The totals are 64-bit sums, as the ledger computes them. -/
structure Billed (tenantId : String) (s : TrafficState) : Prop where
  count : (s.store.usageEvents.filter fun event => event.tenantId == tenantId).length = s.responses.length
  totals : ∀ kind, (countersIn ((s.store.ledgerBucketsForTenant tenantId).filter
    fun bucket => bucket.bucketKind == kind)).map wrap = (countersOf s.responses).map wrap

section Billing

variable {ids : Nat → String} {tenantId : String} {s next : TrafficState} {traffic : List Traffic}

theorem length_acceptedFrom_le (accepted records : List UsageEventRecord) :
    (acceptedFrom accepted records).length ≤ accepted.length + records.length := by
  induction records generalizing accepted with
  | nil => exact le_refl _
  | cons record records ih =>
    simp only [acceptedFrom, List.foldl_cons, List.length_cons]
    split
    · have := ih accepted
      unfold acceptedFrom at this
      omega
    · have := ih (accepted ++ [record])
      unfold acceptedFrom at this
      rw [List.length_append, List.length_singleton] at this
      omega

theorem pairwise_of_length_acceptedFrom {accepted records : List UsageEventRecord} (h : accepted.Pairwise Distinct)
    (hlength : (acceptedFrom accepted records).length = accepted.length + records.length) :
    (accepted ++ records).Pairwise Distinct := by
  induction records generalizing accepted with
  | nil => simpa using h
  | cons record records ih =>
    simp only [acceptedFrom, List.foldl_cons, List.length_cons] at hlength
    split at hlength
    · have hle := length_acceptedFrom_le accepted records
      unfold acceptedFrom at hle
      omega
    · rename_i hdup
      have hfresh := (isDuplicate_eq_false accepted record).mp (by simpa using hdup)
      rw [List.append_cons]
      apply ih (pairwise_append_singleton.mpr ⟨h, hfresh⟩)
      rw [List.length_append, List.length_singleton]
      unfold acceptedFrom
      omega

theorem pairwise_distinct_iff {events : List UsageEventRecord} (htenant : ∀ event ∈ events, event.tenantId = tenantId)
    (hids : (events.map (·.usageEventId)).Nodup) :
    events.Pairwise Distinct ↔ (events.map (·.requestId)).Nodup := by
  rw [List.nodup_iff_pairwise_ne, List.pairwise_map] at hids ⊢
  constructor
  · intro hdistinct
    refine hdistinct.imp_of_mem ?_
    intro event other hevent hother hpair heq
    exact hpair.2 ⟨(htenant event hevent).trans (htenant other hother).symm, heq⟩
  · intro hrequests
    refine (hids.and hrequests).imp ?_
    exact fun hpair => ⟨hpair.1, fun hsame => hpair.2 hsame.2⟩

theorem trafficStep_store {action : Traffic} (h : s.store = UsageStore.empty.recordAll s.responses)
    (hstep : trafficStep ids s action = some next) : next.store = UsageStore.empty.recordAll next.responses := by
  have hfinish : ∀ (t : TrafficState) (headers : RequestHeaders) (actor : AuthenticatedActor)
      (input : TerminalUsageInput), t.store = UsageStore.empty.recordAll t.responses →
      (t.finish ids headers actor input).store =
        UsageStore.empty.recordAll (t.finish ids headers actor input).responses := by
    intro t headers actor input ht
    unfold TrafficState.finish recordTerminalUsageEvent UsageStore.recordAll
    rw [List.foldl_append, List.foldl_cons, List.foldl_nil, ht]
    rfl
  cases action with
  | request headers actor input =>
    cases hstep
    exact hfinish _ _ actor input h
  | connect headers =>
    cases hstep
    exact h
  | turn session actor input =>
    obtain ⟨headers, -, rfl⟩ := Option.map_eq_some_iff.mp hstep
    exact hfinish s headers actor input h

theorem run_responses {final : TrafficState} (hrun : run (trafficStep ids) s traffic = some final) :
    final.responses.map (·.requestId) =
        s.responses.map (·.requestId) ++ trafficRequestIds ids s.sessions s.generated traffic ∧
      final.responses.map (·.usageEventId) =
        s.responses.map (·.usageEventId) ++ (traffic.filterMap Traffic.event?).map (·.2.usageEventId) ∧
      final.responses.map (·.tenantId) =
        s.responses.map (·.tenantId) ++ (traffic.filterMap Traffic.event?).map (·.1.tenantId) := by
  induction traffic generalizing s with
  | nil =>
    cases hrun
    simp [trafficRequestIds]
  | cons action traffic ih =>
    obtain ⟨next, hstep, hrest⟩ := run_cons hrun
    obtain ⟨hrequests, hevents, htenants⟩ := ih hrest
    rw [hrequests, hevents, htenants]
    cases action with
    | request headers actor input =>
      cases hstep
      simp [TrafficState.finish, trafficRequestIds, terminalUsageEvent, Traffic.event?]
    | connect headers =>
      cases hstep
      simp [trafficRequestIds, Traffic.event?, List.filterMap_cons]
    | turn session actor input =>
      obtain ⟨headers, hsession, rfl⟩ := Option.map_eq_some_iff.mp hstep
      simp [TrafficState.finish, trafficRequestIds, terminalUsageEvent, Traffic.event?, hsession]

theorem acceptedFrom_nil_of_pairwise {records : List UsageEventRecord} (h : records.Pairwise Distinct) :
    acceptedFrom [] records = records := by
  have hnil : ([] ++ records).Pairwise Distinct := h
  exact acceptedFrom_of_pairwise records hnil

theorem totals_of_pairwise {responses : List UsageEventRecord} (htenant : ∀ event ∈ responses, event.tenantId = tenantId)
    (hpairwise : responses.Pairwise Distinct) (kind : BucketKind) :
    (countersIn (((UsageStore.empty.recordAll responses).ledgerBucketsForTenant tenantId).filter
      fun bucket => bucket.bucketKind == kind)).map wrap = (countersOf responses).map wrap := by
  have hreflects := (recordAll_empty responses).2
  rw [acceptedFrom_nil_of_pairwise hpairwise] at hreflects
  unfold UsageStore.ledgerBucketsForTenant
  rw [List.filter_filter, hreflects.wrap_sum kind]
  · congr 2
    rw [List.filter_eq_self]
    intro event hevent
    obtain ⟨bucket, hlookup, hkind⟩ := hreflects.exists_bucket hevent kind
    obtain ⟨first, hfirst, -, hcounted, -⟩ := hreflects.bucket hlookup
    have htenants : bucket.tenantId = tenantId := by
      rw [hcounted.1]
      exact htenant first hfirst
    rw [hlookup]
    simp [hkind, htenants]
  · intro bucket hp
    simp only [Bool.and_eq_true, beq_iff_eq] at hp
    exact hp.1

/-- Every response is billed exactly when the request ids of the responses are pairwise distinct. -/
theorem billed_iff {final : TrafficState}
    (htenant : ∀ call ∈ traffic.filterMap Traffic.event?, call.1.tenantId = tenantId)
    (hevents : ((traffic.filterMap Traffic.event?).map (·.2.usageEventId)).Nodup)
    (hrun : run (trafficStep ids) .empty traffic = some final) :
    Billed tenantId final ↔ (trafficRequestIds ids [] 0 traffic).Nodup := by
  have hstore : final.store = UsageStore.empty.recordAll final.responses :=
    run_invariant_always (fun _ _ _ hs hnext => trafficStep_store hs hnext) rfl hrun
  obtain ⟨hrequests, hids, htenants⟩ := run_responses hrun
  simp only [TrafficState.empty, List.map_nil, List.nil_append] at hrequests hids htenants
  have hresponses : ∀ event ∈ final.responses, event.tenantId = tenantId := by
    intro event hevent
    have hmem : event.tenantId ∈ final.responses.map (·.tenantId) := List.mem_map_of_mem hevent
    rw [htenants] at hmem
    obtain ⟨call, hcall, heq⟩ := List.mem_map.mp hmem
    rw [← heq]
    exact htenant call hcall
  have haccepted : final.store.usageEvents = acceptedFrom [] final.responses := by
    rw [hstore]
    exact (recordAll_empty final.responses).1
  have hkept : final.store.usageEvents.filter (fun event => event.tenantId == tenantId) = final.store.usageEvents := by
    rw [List.filter_eq_self, haccepted]
    intro event hevent
    have hmem := (mem_of_mem_acceptedFrom hevent).resolve_left (by simp)
    simpa using hresponses event hmem
  rw [← hrequests, ← pairwise_distinct_iff hresponses (hids ▸ hevents)]
  constructor
  · intro hbilled
    have hcount := hbilled.count
    rw [hkept, haccepted] at hcount
    have hpairwise := pairwise_of_length_acceptedFrom List.Pairwise.nil (hcount.trans (Nat.zero_add _).symm)
    simpa using hpairwise
  · intro hpairwise
    refine ⟨?_, fun kind => ?_⟩
    · rw [hkept, haccepted, acceptedFrom_nil_of_pairwise hpairwise]
    · rw [hstore]
      exact totals_of_pairwise hresponses hpairwise kind

end Billing

def sampleRequestIds (n : Nat) : String := "req_" ++ toString n

def sampleTerminalInput (usageEventId : String) : TerminalUsageInput where
  replayCase := ⟨.openAiResponses, true⟩
  selected := ⟨"alias_1", "policy_1", "group_1", "target_a", "ep_a", none⟩
  upstreamModelId := "model"
  pricingSkuId := none
  responseProtocolFamily := .openAiResponses
  responseBody := .object [("usage", .object [("input_tokens", .number 7), ("output_tokens", .number 5)])]
  startedAt := ⟨0⟩
  endedAt := ⟨0⟩
  usageEventId := usageEventId
  projectMemberships := fun _ _ => none
  pricingSkus := []

def twoTurns : List Traffic :=
  [.connect ⟨none⟩, .turn 0 tenantActor (sampleTerminalInput "use_1"), .turn 0 tenantActor (sampleTerminalInput "use_2")]

theorem twoTurns_not_billed :
    ∃ final, run (trafficStep sampleRequestIds) .empty twoTurns = some final ∧ final.responses.length = 2 ∧
      final.store.usageEvents.length = 1 ∧ ¬ Billed "tenant_1" final := by
  obtain ⟨final, hrun⟩ : ∃ final, run (trafficStep sampleRequestIds) .empty twoTurns = some final := ⟨_, rfl⟩
  have hresponses : final.responses.length = 2 := by
    cases hrun
    rfl
  have hevents : final.store.usageEvents.length = 1 := by
    cases hrun
    rfl
  refine ⟨final, hrun, hresponses, hevents, fun hbilled => ?_⟩
  have hle := List.length_filter_le (fun event : UsageEventRecord => event.tenantId == "tenant_1")
    final.store.usageEvents
  have hcount := hbilled.count
  omega

def distinctTraffic : List Traffic :=
  [.request ⟨some "a-1"⟩ tenantActor (sampleTerminalInput "use_1"), .connect ⟨none⟩,
    .request ⟨some "not safe"⟩ tenantActor (sampleTerminalInput "use_2"),
    .turn 0 tenantActor (sampleTerminalInput "use_3")]

theorem distinctTraffic_billed :
    ∃ final, run (trafficStep sampleRequestIds) .empty distinctTraffic = some final ∧ Billed "tenant_1" final := by
  obtain ⟨final, hrun⟩ : ∃ final, run (trafficStep sampleRequestIds) .empty distinctTraffic = some final := ⟨_, rfl⟩
  refine ⟨final, hrun, (billed_iff ?_ ?_ hrun).mpr ?_⟩
  · simp [distinctTraffic, Traffic.event?, List.filterMap_cons, tenantActor]
  · simp [distinctTraffic, Traffic.event?, List.filterMap_cons, sampleTerminalInput]
  · have hids : trafficRequestIds sampleRequestIds [] 0 distinctTraffic = ["a-1", "req_3", "req_2"] := by rfl
    rw [hids]
    decide

end Starweaver.Gateway
