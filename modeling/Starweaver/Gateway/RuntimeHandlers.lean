import Starweaver.Gateway.PreflightRelease
import Starweaver.Gateway.RuntimeRoute

namespace Starweaver.Gateway

open Library Library.Calendar

inductive RouteAttemptStatus
  | started
  | completed
  | failed
  | clientDisconnected
deriving DecidableEq, Repr

structure RouteAttemptRecord where
  routeDecisionId : String
  attemptIndex : Nat
  routingGroupId : String
  modelTargetId : String
  providerEndpointId : String
  status : RouteAttemptStatus
  startedAt : DateTime
  endedAt : Option DateTime
deriving DecidableEq, Repr

structure RuntimeIngressResponse where
  protocolFamily : ProtocolFamily
  body : Json
  streaming : Bool

/-- The part of the gateway that one request moves, with the releases made so far. -/
structure RuntimeState where
  policies : RuntimePolicyStore
  usage : UsageStore
  routeAttempts : List RouteAttemptRecord
  released : List RuntimePolicyPreflight

def RuntimeState.empty : RuntimeState := ⟨.empty, .empty, [], []⟩

def RuntimeState.release (s : RuntimeState) (preflight : RuntimePolicyPreflight) : RuntimeState :=
  { s with
    policies := releaseRuntimePolicyReservations s.policies preflight
    released := s.released ++ [preflight] }

/-- An authorized request with its route, the clock readings and ids of the run, and the durable store. -/
structure RuntimeRequest where
  policyInput : PreflightInput
  routeTarget : RuntimeRouteTarget
  attemptStartedAt : DateTime
  attemptEndedAt : DateTime
  usageEventId : String
  projectMemberships : String → String → Option String
  pricingSkus : List PricingSkuRecord
  postgresStore : Option DurableStore

def RuntimeRequest.preflightInput (request : RuntimeRequest) : PreflightInput :=
  { request.policyInput with selected := request.routeTarget.selectedRoute }

def routeAttempt (routeDecisionId : String) (selected : SelectedRouteEvidence) (status : RouteAttemptStatus)
    (startedAt endedAt : DateTime) : RouteAttemptRecord where
  routeDecisionId := routeDecisionId
  attemptIndex := 0
  routingGroupId := selected.routingGroupId
  modelTargetId := selected.modelTargetId
  providerEndpointId := selected.providerEndpointId
  status := status
  startedAt := startedAt
  endedAt := some endedAt

def recordRouteAttemptEvidence (request : RuntimeRequest) (record : RouteAttemptRecord) (s : RuntimeState) :
    Result Unit × RuntimeState :=
  (recordDurably request.postgresStore (·.insertRouteAttempt), { s with routeAttempts := s.routeAttempts ++ [record] })

def recordRouteAttemptForTarget (status : RouteAttemptStatus) (request : RuntimeRequest) (s : RuntimeState) :
    Result Unit × RuntimeState :=
  match request.routeTarget.routeDecisionId, request.routeTarget.selectedRoute with
  | some routeDecisionId, some selected =>
    recordRouteAttemptEvidence request
      (routeAttempt routeDecisionId selected status request.attemptStartedAt request.attemptEndedAt) s
  | _, _ => (.ok (), s)

def recordFailedRouteAttemptForTarget := recordRouteAttemptForTarget .failed

def recordClientDisconnectedRouteAttemptForTarget := recordRouteAttemptForTarget .clientDisconnected

def RuntimeRequest.terminalUsageInput (request : RuntimeRequest) (selected : SelectedRouteEvidence)
    (response : RuntimeIngressResponse) : TerminalUsageInput where
  replayCase := request.policyInput.replayCase
  selected := selected
  upstreamModelId := request.routeTarget.upstreamModelId
  pricingSkuId := request.routeTarget.pricingSkuId
  responseProtocolFamily := response.protocolFamily
  responseBody := response.body
  startedAt := request.attemptStartedAt
  endedAt := request.attemptEndedAt
  usageEventId := request.usageEventId
  projectMemberships := request.projectMemberships
  pricingSkus := request.pricingSkus

/-- The event is kept in memory before the durable insert; only a durable insert that succeeds is followed by the
terminal accounting. -/
def RuntimeState.recordTerminalUsageEvent (s : RuntimeState) (request : RuntimeRequest) (input : TerminalUsageInput) :
    Result Unit × RuntimeState :=
  let actor := request.policyInput.actor
  let recorded := { s with usage := Gateway.recordTerminalUsageEvent s.usage actor input }
  match recordDurably request.postgresStore (·.insertUsageEvent) with
  | .error error => (.error error, recorded)
  | .ok () =>
    (.ok (), { recorded with
      policies := finalizeRuntimeQuotaTerminal request.policyInput.quotaPolicies actor input
        (normalizedUsagePayload input.responseProtocolFamily input.responseBody).1 recorded.policies })

def recordSuccessfulRuntimeAttempt (request : RuntimeRequest) (response : RuntimeIngressResponse) (s : RuntimeState) :
    Result Unit × RuntimeState :=
  match request.routeTarget.routeDecisionId, request.routeTarget.selectedRoute with
  | some routeDecisionId, some selected =>
    match recordRouteAttemptEvidence request
      (routeAttempt routeDecisionId selected .completed request.attemptStartedAt request.attemptEndedAt) s with
    | (.error error, s) => (.error error, s)
    | (.ok (), s) => s.recordTerminalUsageEvent request (request.terminalUsageInput selected response)
  | _, _ => (.ok (), s)

def executeRuntimeProviderOrRecordFailure (request : RuntimeRequest) (provider : Result RuntimeIngressResponse)
    (s : RuntimeState) : Result RuntimeIngressResponse × RuntimeState :=
  match provider with
  | .ok response => (.ok response, s)
  | .error error =>
    match recordFailedRouteAttemptForTarget request s with
    | (.error recordError, s) => (.error recordError, s)
    | (.ok (), s) => (.error error, s)

def recordRuntimePolicyBlockDecision (request : RuntimeRequest) (error : GatewayError) : Result Unit :=
  match error with
  | .budgetExceeded _ | .quotaExceeded _ => recordDurably request.postgresStore (·.insertRouteDecision)
  | _ => .ok ()

/-- The ingress from the policy preflight on, with the provider's answer given. -/
def modelIngress (request : RuntimeRequest) (provider : Result RuntimeIngressResponse) (s : RuntimeState) :
    Result RuntimeIngressResponse × RuntimeState :=
  match enforceRuntimePolicyPreflight request.preflightInput s.policies with
  | (.error error, store) =>
    match recordRuntimePolicyBlockDecision request error with
    | .error recordError => (.error recordError, { s with policies := store })
    | .ok () => (.error error, { s with policies := store })
  | (.ok preflight, store) =>
    match executeRuntimeProviderOrRecordFailure request provider { s with policies := store } with
    | (.error error, s) => (.error error, s.release preflight)
    | (.ok response, s) =>
      match recordSuccessfulRuntimeAttempt request response s with
      | (.error error, s) => (.error error, s)
      | (.ok (), s) => (.ok response, s.release preflight)

inductive ProviderTransportMode
  | fake
  | http
deriving DecidableEq, Repr

structure ResponsesWebSocketTurnOutcome where
  response : Option RuntimeIngressResponse
  success : Bool
  clientDisconnected : Bool
  closeConnection : Bool

def ResponsesWebSocketTurnOutcome.continueWithoutAccounting : ResponsesWebSocketTurnOutcome :=
  ⟨none, false, false, false⟩

/-- What one turn of a WebSocket meets: the session it belongs to and the answers of the two peers. -/
structure WebSocketTurn where
  pinned : Bool
  transport : ProviderTransportMode
  connect : Result Unit
  outcome : Result ResponsesWebSocketTurnOutcome
  sendError : Result Unit

def recordTurn (request : RuntimeRequest) (outcome : Result ResponsesWebSocketTurnOutcome) (s : RuntimeState) :
    Result Unit × RuntimeState :=
  match outcome with
  | .ok turn =>
    if turn.success then
      match turn.response with
      | some response => recordSuccessfulRuntimeAttempt request response s
      | none => (.ok (), s)
    else if turn.clientDisconnected then recordClientDisconnectedRouteAttemptForTarget request s
    else recordFailedRouteAttemptForTarget request s
  | .error _ => recordFailedRouteAttemptForTarget request s

/-- The handler of a `response.create` frame from the policy preflight on. -/
def handleResponseCreate (request : RuntimeRequest) (turn : WebSocketTurn) (s : RuntimeState) :
    Result ResponsesWebSocketTurnOutcome × RuntimeState :=
  match enforceRuntimePolicyPreflight request.preflightInput s.policies with
  | (.error error, store) =>
    (do
      recordRuntimePolicyBlockDecision request error
      turn.sendError
      .ok .continueWithoutAccounting, { s with policies := store })
  | (.ok preflight, store) =>
    if turn.pinned || turn.transport = .fake then finishTurn preflight { s with policies := store }
    else match turn.connect with
      | .ok () => finishTurn preflight { s with policies := store }
      | .error _ =>
        match recordFailedRouteAttemptForTarget request { s with policies := store } with
        | (.error recordError, s) => (.error recordError, s)
        | (.ok (), s) =>
          (do
            turn.sendError
            .ok .continueWithoutAccounting, s.release preflight)
where
  finishTurn (preflight : RuntimePolicyPreflight) (s : RuntimeState) :
      Result ResponsesWebSocketTurnOutcome × RuntimeState :=
    match recordTurn request turn.outcome s with
    | (.error error, s) => (.error error, s)
    | (.ok (), s) => (turn.outcome, s.release preflight)

/-- The reservations of the preflight are released by one call, and nothing of them is left. -/
structure ReleasedOnce (input : PreflightInput) (preflight : RuntimePolicyPreflight) (start final : RuntimeState) :
    Prop where
  once : final.released = start.released ++ [preflight]
  restored : Restored input start.policies final.policies

def RuntimeRequest.hasEvidence (request : RuntimeRequest) : Bool :=
  request.routeTarget.routeDecisionId.isSome && request.routeTarget.selectedRoute.isSome

/-- The durable store takes the route attempt of the run, when there is one to take. -/
def RuntimeRequest.AttemptStored (request : RuntimeRequest) : Prop :=
  request.hasEvidence = true → recordDurably request.postgresStore (·.insertRouteAttempt) = .ok ()

def RuntimeRequest.UsageStored (request : RuntimeRequest) : Prop :=
  request.hasEvidence = true → recordDurably request.postgresStore (·.insertUsageEvent) = .ok ()

/-- What the durable store has to take before the end of a turn releases its reservations. -/
def RuntimeRequest.OutcomeStored (request : RuntimeRequest) : Result ResponsesWebSocketTurnOutcome → Prop
  | .ok turn =>
    if turn.success then turn.response.isSome = true → request.AttemptStored ∧ request.UsageStored
    else request.AttemptStored
  | .error _ => request.AttemptStored

def RuntimeRequest.TurnStored (request : RuntimeRequest) (turn : WebSocketTurn) : Prop :=
  if turn.pinned = true ∨ turn.transport = .fake ∨ turn.connect = .ok () then request.OutcomeStored turn.outcome
  else request.AttemptStored

section Release

variable {request : RuntimeRequest} {preflight : RuntimePolicyPreflight} {start s : RuntimeState}

/-- Between the preflight and the release: everything reserved is still held, and no release has been made. -/
structure Unreleased (request : RuntimeRequest) (preflight : RuntimePolicyPreflight) (start s : RuntimeState) :
    Prop where
  released : s.released = start.released
  held : PreflightHeld request.preflightInput start.policies s.policies preflight

theorem Unreleased.release (h : Unreleased request preflight start s)
    (hready : PreflightReady request.preflightInput start.policies) :
    ReleasedOnce request.preflightInput preflight start (s.release preflight) :=
  ⟨congrArg (· ++ [preflight]) h.released, h.held.release hready⟩

theorem Unreleased.not_releasedOnce (h : Unreleased request preflight start s) :
    ¬ ReleasedOnce request.preflightInput preflight start s := by
  intro hreleased
  have hlength := congrArg List.length (h.released.symm.trans hreleased.once)
  rw [List.length_append, List.length_singleton] at hlength
  omega

theorem recordRouteAttemptForTarget_spec (status : RouteAttemptStatus) (h : Unreleased request preflight start s) :
    Unreleased request preflight start (recordRouteAttemptForTarget status request s).2 ∧
      ((recordRouteAttemptForTarget status request s).1 = .ok () ↔ request.AttemptStored) := by
  unfold recordRouteAttemptForTarget RuntimeRequest.AttemptStored RuntimeRequest.hasEvidence
  cases hdecision : request.routeTarget.routeDecisionId with
  | none => exact ⟨h, by simp⟩
  | some routeDecisionId =>
    cases hselected : request.routeTarget.selectedRoute with
    | none => exact ⟨h, by simp⟩
    | some selected => exact ⟨⟨h.released, h.held⟩, by simp [recordRouteAttemptEvidence]⟩

theorem recordTerminalUsageEvent_spec (h : Unreleased request preflight start s)
    (hready : PreflightReady request.preflightInput start.policies) (input : TerminalUsageInput) :
    Unreleased request preflight start (s.recordTerminalUsageEvent request input).2 ∧
      ((s.recordTerminalUsageEvent request input).1 = .ok () ↔
        recordDurably request.postgresStore (·.insertUsageEvent) = .ok ()) := by
  unfold RuntimeState.recordTerminalUsageEvent
  cases hinsert : recordDurably request.postgresStore (·.insertUsageEvent) with
  | error error => exact ⟨⟨h.released, h.held⟩, by simp⟩
  | ok _ => exact ⟨⟨h.released, h.held.terminal hready _ _ _⟩, by simp⟩

theorem recordSuccessfulRuntimeAttempt_spec (h : Unreleased request preflight start s)
    (hready : PreflightReady request.preflightInput start.policies) (response : RuntimeIngressResponse) :
    Unreleased request preflight start (recordSuccessfulRuntimeAttempt request response s).2 ∧
      ((recordSuccessfulRuntimeAttempt request response s).1 = .ok () ↔
        request.AttemptStored ∧ request.UsageStored) := by
  unfold recordSuccessfulRuntimeAttempt RuntimeRequest.AttemptStored RuntimeRequest.UsageStored
    RuntimeRequest.hasEvidence recordRouteAttemptEvidence
  cases hdecision : request.routeTarget.routeDecisionId with
  | none => exact ⟨h, by simp⟩
  | some routeDecisionId =>
    cases hselected : request.routeTarget.selectedRoute with
    | none => exact ⟨h, by simp⟩
    | some selected =>
      cases hinsert : recordDurably request.postgresStore (·.insertRouteAttempt) with
      | error error => exact ⟨⟨h.released, h.held⟩, by simp⟩
      | ok _ =>
        have hattempt : Unreleased request preflight start { s with routeAttempts := s.routeAttempts ++
            [routeAttempt routeDecisionId selected .completed request.attemptStartedAt request.attemptEndedAt] } :=
          ⟨h.released, h.held⟩
        obtain ⟨hkept, hstored⟩ := recordTerminalUsageEvent_spec hattempt hready
          (request.terminalUsageInput selected response)
        exact ⟨hkept, by simpa using hstored⟩

theorem recordTurn_spec (h : Unreleased request preflight start s)
    (hready : PreflightReady request.preflightInput start.policies)
    (outcome : Result ResponsesWebSocketTurnOutcome) :
    Unreleased request preflight start (recordTurn request outcome s).2 ∧
      ((recordTurn request outcome s).1 = .ok () ↔ request.OutcomeStored outcome) := by
  match outcome with
  | .error error => exact recordRouteAttemptForTarget_spec .failed h
  | .ok ⟨some response, true, _, _⟩ =>
    simpa [recordTurn, RuntimeRequest.OutcomeStored] using recordSuccessfulRuntimeAttempt_spec h hready response
  | .ok ⟨none, true, _, _⟩ => exact ⟨h, by simp [recordTurn, RuntimeRequest.OutcomeStored]⟩
  | .ok ⟨_, false, true, _⟩ => exact recordRouteAttemptForTarget_spec .clientDisconnected h
  | .ok ⟨_, false, false, _⟩ => exact recordRouteAttemptForTarget_spec .failed h

theorem Unreleased.initial (hready : PreflightReady request.preflightInput start.policies)
    {store : RuntimePolicyStore}
    (hok : enforceRuntimePolicyPreflight request.preflightInput start.policies = (.ok preflight, store)) :
    Unreleased request preflight start { start with policies := store } :=
  ⟨rfl, enforceRuntimePolicyPreflight_held hready hok⟩

theorem modelIngress_releasedOnce_iff (hready : PreflightReady request.preflightInput start.policies)
    {store : RuntimePolicyStore}
    (hok : enforceRuntimePolicyPreflight request.preflightInput start.policies = (.ok preflight, store))
    (provider : Result RuntimeIngressResponse) :
    ReleasedOnce request.preflightInput preflight start (modelIngress request provider start).2 ↔
      ((∃ error, provider = .error error) ∨ request.AttemptStored ∧ request.UsageStored) := by
  have hinitial := Unreleased.initial hready hok
  unfold modelIngress
  rw [hok]
  cases provider with
  | error error =>
    obtain ⟨hkept, -⟩ := recordRouteAttemptForTarget_spec .failed hinitial
    simp only [executeRuntimeProviderOrRecordFailure, recordFailedRouteAttemptForTarget]
    generalize recordRouteAttemptForTarget .failed request { start with policies := store } = recorded at hkept
    obtain ⟨result, next⟩ := recorded
    -- the reservations are released whether or not the failed attempt could be recorded
    cases result <;> simpa using hkept.release hready
  | ok response =>
    obtain ⟨hkept, hstored⟩ := recordSuccessfulRuntimeAttempt_spec hinitial hready response
    rw [← hstored]
    simp only [executeRuntimeProviderOrRecordFailure, reduceCtorEq, exists_false, false_or]
    generalize recordSuccessfulRuntimeAttempt request response { start with policies := store } = recorded at hkept
    obtain ⟨result, next⟩ := recorded
    cases result with
    | error error => simpa using hkept.not_releasedOnce
    | ok _ => simpa using hkept.release hready

theorem finishTurn_releasedOnce_iff (hready : PreflightReady request.preflightInput start.policies)
    (h : Unreleased request preflight start s) (turn : WebSocketTurn) :
    ReleasedOnce request.preflightInput preflight start
        (handleResponseCreate.finishTurn request turn preflight s).2 ↔ request.OutcomeStored turn.outcome := by
  obtain ⟨hkept, hstored⟩ := recordTurn_spec h hready turn.outcome
  unfold handleResponseCreate.finishTurn
  rw [← hstored]
  generalize recordTurn request turn.outcome s = recorded at hkept
  obtain ⟨result, next⟩ := recorded
  cases result with
  | error error => simpa using hkept.not_releasedOnce
  | ok _ => simpa using hkept.release hready

theorem handleResponseCreate_releasedOnce_iff (hready : PreflightReady request.preflightInput start.policies)
    {store : RuntimePolicyStore}
    (hok : enforceRuntimePolicyPreflight request.preflightInput start.policies = (.ok preflight, store))
    (turn : WebSocketTurn) :
    ReleasedOnce request.preflightInput preflight start (handleResponseCreate request turn start).2 ↔
      request.TurnStored turn := by
  have hinitial := Unreleased.initial hready hok
  unfold handleResponseCreate RuntimeRequest.TurnStored
  rw [hok]
  by_cases hdirect : turn.pinned = true ∨ turn.transport = .fake
  · rw [if_pos (by tauto)]
    simp only [Bool.or_eq_true, decide_eq_true_eq, if_pos hdirect]
    exact finishTurn_releasedOnce_iff hready hinitial turn
  simp only [Bool.or_eq_true, decide_eq_true_eq, if_neg hdirect]
  cases hconnect : turn.connect with
  | ok _ =>
    rw [if_pos (by simp)]
    exact finishTurn_releasedOnce_iff hready hinitial turn
  | error error =>
    rw [if_neg (by simpa using hdirect)]
    obtain ⟨hkept, hstored⟩ := recordRouteAttemptForTarget_spec .failed hinitial
    rw [← hstored]
    simp only [recordFailedRouteAttemptForTarget]
    generalize recordRouteAttemptForTarget .failed request { start with policies := store } = recorded at hkept
    obtain ⟨result, next⟩ := recorded
    cases result with
    | error recordError => simpa using hkept.not_releasedOnce
    | ok _ => simpa using hkept.release hready

/-- An admitted request gives back its reservations by one call exactly when no insert that stands before the
release is refused by the durable store. -/
theorem runtimeHandlers_releasedOnce_iff (hready : PreflightReady request.preflightInput start.policies)
    {store : RuntimePolicyStore}
    (hok : enforceRuntimePolicyPreflight request.preflightInput start.policies = (.ok preflight, store)) :
    (∀ provider, ReleasedOnce request.preflightInput preflight start (modelIngress request provider start).2 ↔
      ((∃ error, provider = .error error) ∨ request.AttemptStored ∧ request.UsageStored)) ∧
    ∀ turn, ReleasedOnce request.preflightInput preflight start (handleResponseCreate request turn start).2 ↔
      request.TurnStored turn :=
  ⟨modelIngress_releasedOnce_iff hready hok, handleResponseCreate_releasedOnce_iff hready hok⟩

end Release

def sampleRoute : SelectedRouteEvidence := ⟨"alias_1", "policy_1", "group_1", "target_a", "ep_a", none⟩

def admittedInput : PreflightInput :=
  { twoBudgetInput with
    budgetPolicies := [requestBudget "bud_a" 5], quotaPolicies := [concurrentRequestQuota], selected := some sampleRoute }

def admittedRequest (postgresStore : Option DurableStore) : RuntimeRequest where
  policyInput := admittedInput
  routeTarget := { unroutedTarget "model" with routeDecisionId := some "rd_1", selectedRoute := some sampleRoute }
  attemptStartedAt := ⟨0⟩
  attemptEndedAt := ⟨0⟩
  usageEventId := "use_1"
  projectMemberships := fun _ _ => none
  pricingSkus := []
  postgresStore := postgresStore

theorem admittedInput_ready : PreflightReady admittedInput RuntimePolicyStore.empty := by
  refine ⟨by decide, by decide, by decide, by decide, by decide, sampleLeaseIds_injective, fun n => rfl,
    by decide, by decide, by decide⟩

def admittedPreflight : RuntimePolicyPreflight where
  budgetReservations := [⟨sampleLeaseIds 0, runtimeBudgetReservationKey (requestBudget "bud_a" 5) ⟨0⟩, 1⟩]
  quotaReservations := [⟨runtimeQuotaCounterKey concurrentRequestQuota ⟨0⟩, 1, .hotState⟩]

theorem admittedInput_admitted :
    (enforceRuntimePolicyPreflight admittedInput RuntimePolicyStore.empty).1 = .ok admittedPreflight := by
  decide

def usageTableDown : DurableStore := ⟨.ok (), .ok (), .error (.internal "insert usage event")⟩

def sampleResponse : RuntimeIngressResponse := ⟨.openAiResponses, .object [], false⟩

theorem modelIngress_not_releasedOnce :
    (modelIngress (admittedRequest (some usageTableDown)) (.ok sampleResponse) .empty).2.released = [] ∧
      RuntimeState.empty.policies.runtimePolicyCounter (runtimeQuotaCounterKey concurrentRequestQuota ⟨0⟩) = 0 ∧
      (modelIngress (admittedRequest (some usageTableDown)) (.ok sampleResponse) .empty).2.policies.runtimePolicyCounter
        (runtimeQuotaCounterKey concurrentRequestQuota ⟨0⟩) = 1 ∧
      ¬ ReleasedOnce (admittedRequest (some usageTableDown)).preflightInput admittedPreflight .empty
        (modelIngress (admittedRequest (some usageTableDown)) (.ok sampleResponse) .empty).2 := by
  have hreleased : (modelIngress (admittedRequest (some usageTableDown)) (.ok sampleResponse) .empty).2.released =
      [] := rfl
  refine ⟨hreleased, by decide, by rfl, fun h => ?_⟩
  exact absurd (hreleased.symm.trans h.once) (by simp)

def durableStoreUp : DurableStore := ⟨.ok (), .ok (), .ok ()⟩

def completedTurn : WebSocketTurn where
  pinned := false
  transport := .http
  connect := .ok ()
  outcome := .ok ⟨some sampleResponse, true, false, false⟩
  sendError := .ok ()

theorem runtimeHandlers_releasedOnce_stored :
    ReleasedOnce (admittedRequest (some durableStoreUp)).preflightInput admittedPreflight .empty
        (modelIngress (admittedRequest (some durableStoreUp)) (.ok sampleResponse) .empty).2 ∧
      ReleasedOnce (admittedRequest (some durableStoreUp)).preflightInput admittedPreflight .empty
        (handleResponseCreate (admittedRequest (some durableStoreUp)) completedTurn .empty).2 := by
  have hstored : (admittedRequest (some durableStoreUp)).AttemptStored ∧
      (admittedRequest (some durableStoreUp)).UsageStored := ⟨fun _ => rfl, fun _ => rfl⟩
  obtain ⟨hingress, hturn⟩ := @runtimeHandlers_releasedOnce_iff (admittedRequest (some durableStoreUp))
    admittedPreflight .empty admittedInput_ready _ (Prod.ext admittedInput_admitted rfl)
  refine ⟨(hingress _).mpr (.inr hstored), (hturn completedTurn).mpr ?_⟩
  simp [RuntimeRequest.TurnStored, RuntimeRequest.OutcomeStored, completedTurn, hstored]

end Starweaver.Gateway
