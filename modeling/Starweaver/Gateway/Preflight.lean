import Starweaver.Gateway.RuntimePolicies
import Starweaver.Gateway.RuntimePolicyStore
import Starweaver.Gateway.UsageLedger

namespace Starweaver.Gateway

open Library.Calendar Library.Checks Library.Counters Library.MachineInt

structure RuntimeBudgetReservation where
  leaseId : String
  counterKey : String
  amount : Int
deriving DecidableEq, Repr

inductive RuntimePolicyCounterBackend
  | hotState
  | lossAllowance
deriving DecidableEq, Repr

structure RuntimeQuotaReservation where
  counterKey : String
  amount : Int
  counterBackend : RuntimePolicyCounterBackend
deriving DecidableEq, Repr

structure RuntimePolicyPreflight where
  budgetReservations : List RuntimeBudgetReservation
  quotaReservations : List RuntimeQuotaReservation
deriving DecidableEq, Repr

/-- What the preflight reads of the gateway store, and what it is called with. The stream `leaseIds` gives the ids
that `new_prefixed_id` draws during the call. -/
structure PreflightInput where
  budgetPolicies : List BudgetPolicyRecord
  quotaPolicies : List QuotaPolicyRecord
  emergencyOperations : List EmergencyOperationRecord
  ledgerBuckets : List LedgerBucketRecord
  actor : AuthenticatedActor
  replayCase : GatewayReplayCase
  selected : Option SelectedRouteEvidence
  requestBodyBytes : Nat
  now : DateTime
  leaseIds : Nat → String

def runtimeBudgetLeaseTtlSeconds : Int := 300

def usizeToI64 (n : Nat) : Int := if (n : Int) ≤ i64Max then n else i64Max

def activeForceBudgetBlockPolicy (input : PreflightInput) : Option BudgetPolicyRecord :=
  (input.emergencyOperations.filter fun operation => operation.tenantId == input.actor.tenantId &&
    operation.operationKind == .forceBudgetBlock && operation.targetResourceKind == .budgetPolicy &&
      decide (input.now < operation.expiresAt)).findSome? fun operation =>
    (input.budgetPolicies.find? fun policy => policy.budgetPolicyId == operation.targetResourceId).filter fun policy =>
      policy.tenantId == input.actor.tenantId && policy.status != .deleted &&
        runtimeBudgetPolicyMatchesRequest policy input.actor input.selected

def runtimeBudgetPeriodMatches (policy : BudgetPolicyRecord) (bucketStart now : DateTime) : Bool :=
  match policy.period with
  | .calendarDay => bucketStart.dateNaive == now.dateNaive
  | .calendarMonth => bucketStart.year == now.year && bucketStart.month == now.month
  | _ => true

def runtimeBudgetBucketScopeMatches (policy : BudgetPolicyRecord) (bucket : LedgerBucketRecord) : Bool :=
  match policy.scopeKind with
  | .tenant => bucket.tenantId == policy.scopeId
  | .organization => bucket.organizationId == some policy.scopeId
  | .project => bucket.projectId == some policy.scopeId
  | .credential => bucket.upstreamCredentialId == some policy.scopeId
  | .modelAlias => bucket.modelAliasId == some policy.scopeId
  | .group => bucket.routingGroupId == some policy.scopeId
  | .endpoint => bucket.providerEndpointId == some policy.scopeId
  | .target => bucket.modelTargetId == some policy.scopeId

def runtimeBudgetBucketCurrencyMatches (policy : BudgetPolicyRecord) (bucket : LedgerBucketRecord) : Bool :=
  policy.currency.all fun currency => currency == bucket.currencyCode

def runtimeBudgetBucketMatches (policy : BudgetPolicyRecord) (bucket : LedgerBucketRecord) (now : DateTime) : Bool :=
  bucket.bucketKind == .event && runtimeBudgetPeriodMatches policy bucket.bucketStart now &&
    runtimeBudgetBucketScopeMatches policy bucket && runtimeBudgetBucketCurrencyMatches policy bucket

def runtimeBudgetBucketValue (policy : BudgetPolicyRecord) (bucket : LedgerBucketRecord) : Int :=
  match policy.limitKind with
  | .requests => bucket.counters.requestCount
  | .tokens =>
    saturatingAdd (saturatingAdd bucket.counters.inputTokens bucket.counters.outputTokens)
      bucket.counters.reasoningTokens
  | .cost => bucket.counters.estimatedCostMicros
  | _ => 0

def runtimeBudgetCurrent (policy : BudgetPolicyRecord) (buckets : List LedgerBucketRecord) (now : DateTime) : Int :=
  wrapSum ((buckets.filter fun bucket => runtimeBudgetBucketMatches policy bucket now).map
    (runtimeBudgetBucketValue policy))

def runtimeBudgetExceeded (policy : BudgetPolicyRecord) (current limit : Int) : Bool :=
  match policy.limitKind with
  | .requests => decide (limit < saturatingAdd current 1)
  | .tokens | .cost => decide (limit ≤ current)
  | _ => false

def releaseRuntimeBudgetReservations (store : RuntimePolicyStore) (reservations : List RuntimeBudgetReservation) :
    RuntimePolicyStore :=
  reservations.foldl (fun store reservation =>
    match store.releaseRuntimeBudgetLease reservation.leaseId with
    | (store, some _) => (store.adjustRuntimePolicyCounter reservation.counterKey (-reservation.amount)).1
    | (store, none) => store) store

def releaseRuntimeQuotaReservations (store : RuntimePolicyStore) (reservations : List RuntimeQuotaReservation) :
    RuntimePolicyStore :=
  reservations.foldl (fun store reservation =>
    match reservation.counterBackend with
    | .hotState => (store.adjustRuntimePolicyCounter reservation.counterKey (-reservation.amount)).1
    | .lossAllowance =>
      (store.adjustRuntimePolicyLossAllowanceCounter reservation.counterKey (-reservation.amount)).1) store

def releaseRuntimePolicyReservations (store : RuntimePolicyStore) (preflight : RuntimePolicyPreflight) :
    RuntimePolicyStore :=
  releaseRuntimeQuotaReservations (releaseRuntimeBudgetReservations store preflight.budgetReservations)
    preflight.quotaReservations

def budgetLease (policy : BudgetPolicyRecord) (requestId : String) (now : DateTime) (leaseId : String) :
    RuntimeBudgetLeaseRecord where
  leaseId := leaseId
  tenantId := policy.tenantId
  budgetPolicyId := policy.budgetPolicyId
  counterKey := runtimeBudgetReservationKey policy now
  requestId := requestId
  amount := 1
  status := .reserved
  expiresAt := now.addSeconds runtimeBudgetLeaseTtlSeconds

def requestBudgetLease (input : PreflightInput) (policy : BudgetPolicyRecord) (leaseId : String) :
    RuntimeBudgetLeaseRecord :=
  budgetLease policy input.actor.requestId input.now leaseId

def reserveRuntimeRequestBudget (input : PreflightInput) (policy : BudgetPolicyRecord)
    (currentLedgerValue limit : Int) (leaseId : String) (store : RuntimePolicyStore) :
    Result RuntimeBudgetReservation × RuntimePolicyStore :=
  if !store.runtimePolicyHotStateAvailable then (.error (.budgetExceeded "budget_hot_state_unavailable"), store)
  else
    let counterKey := runtimeBudgetReservationKey policy input.now
    let (reserved, reservedAfterIncrement) := store.adjustRuntimePolicyCounter counterKey 1
    if limit < saturatingAdd currentLedgerValue reservedAfterIncrement then
      (.error (.budgetExceeded "hard_limit_reserved"), (reserved.adjustRuntimePolicyCounter counterKey (-1)).1)
    else
      (.ok ⟨leaseId, counterKey, 1⟩, reserved.recordRuntimeBudgetLease (requestBudgetLease input policy leaseId))

/-- The loop over the budget policies; a reservation that succeeds has drawn exactly one lease id. -/
def reserveBudgetPolicies (input : PreflightInput) :
    List BudgetPolicyRecord → List RuntimeBudgetReservation → RuntimePolicyStore →
      Result (List RuntimeBudgetReservation) × RuntimePolicyStore
  | [], reservations, store => (.ok reservations, store)
  | policy :: policies, reservations, store =>
    match policy.hardLimit with
    | none => reserveBudgetPolicies input policies reservations store
    | some limit =>
      if !runtimeBudgetPolicyIsPreflightEnforced policy ||
          !runtimeBudgetPolicyMatchesRequest policy input.actor input.selected then
        reserveBudgetPolicies input policies reservations store
      else
        let current := runtimeBudgetCurrent policy input.ledgerBuckets input.now
        if runtimeBudgetExceeded policy current limit then
          (.error (.budgetExceeded "hard_limit_reached"), releaseRuntimeBudgetReservations store reservations)
        else if policy.limitKind = .requests then
          match reserveRuntimeRequestBudget input policy current limit (input.leaseIds reservations.length) store with
          | (.error error, store) => (.error error, store)
          | (.ok reservation, store) => reserveBudgetPolicies input policies (reservations ++ [reservation]) store
        else reserveBudgetPolicies input policies reservations store

def enforceRuntimeBudgetPreflight (input : PreflightInput) (store : RuntimePolicyStore) :
    Result (List RuntimeBudgetReservation) × RuntimePolicyStore :=
  if (activeForceBudgetBlockPolicy input).isSome then
    (.error (.budgetExceeded "emergency_force_budget_block"), store)
  else reserveBudgetPolicies input (budgetPoliciesForTenant input.budgetPolicies input.actor.tenantId) [] store

def runtimeQuotaPolicyRequiresStream (policy : QuotaPolicyRecord) : Bool :=
  match policy.counterKind with
  | .concurrentStream | .streamDuration => true
  | _ => false

def runtimeQuotaPolicySkipsRequest (policy : QuotaPolicyRecord) (replayCase : GatewayReplayCase) : Bool :=
  runtimeQuotaPolicyRequiresStream policy && !replayCase.streaming

def runtimeQuotaPolicyNeedsHotState (policy : QuotaPolicyRecord) : Bool :=
  match policy.counterKind, policy.incrementSource with
  | .requestRate, .acceptedPreflightRequest => true
  | .concurrentRequest, .preflightAcquire => true
  | .concurrentStream, .streamStart => true
  | .streamDuration, .streamStart => true
  | .tokenActualRate, .terminalUsageEvent => true
  | _, _ => false

def enforceRuntimeQuotaBodyLimit (policy : QuotaPolicyRecord) (requestBodyBytes : Nat) : Result Unit :=
  match policy.counterKind, policy.incrementSource with
  | .requestBodyBytes, .requestBodyBytes =>
    if policy.limit < usizeToI64 requestBodyBytes then .error (.quotaExceeded "request_body_size_limit_reached")
    else .ok ()
  | _, _ => .ok ()

def runtimeQuotaCurrentValue (policy : QuotaPolicyRecord) (now : DateTime) (store : RuntimePolicyStore) : Int :=
  store.runtimePolicyCounter (runtimeQuotaCounterKey policy now)

def enforceRuntimeQuotaCurrentLimit (policy : QuotaPolicyRecord) (now : DateTime) (store : RuntimePolicyStore) :
    Result Unit :=
  match policy.counterKind, policy.incrementSource with
  | .tokenActualRate, .terminalUsageEvent =>
    if policy.limit ≤ runtimeQuotaCurrentValue policy now store then
      .error (.quotaExceeded "token_actual_rate_limit_reached")
    else .ok ()
  | .streamDuration, .streamStart =>
    if policy.limit ≤ runtimeQuotaCurrentValue policy now store then
      .error (.quotaExceeded "stream_duration_limit_reached")
    else .ok ()
  | _, _ => .ok ()

def enforceRuntimeQuotaPreflightLimits (input : PreflightInput) (store : RuntimePolicyStore)
    (hotStateAvailable : Bool) (policies : List QuotaPolicyRecord) : Result Unit :=
  checkAll (fun policy =>
    if runtimeQuotaPolicySkipsRequest policy input.replayCase then .ok ()
    else do
      enforceRuntimeQuotaBodyLimit policy input.requestBodyBytes
      if hotStateAvailable then enforceRuntimeQuotaCurrentLimit policy input.now store else .ok ()) policies

def reserveRuntimeQuotaLossAllowance (policy : QuotaPolicyRecord) (now : DateTime) (store : RuntimePolicyStore) :
    Result (Option RuntimeQuotaReservation) × RuntimePolicyStore :=
  let limit := policy.burstLimit.getD 0
  if limit ≤ 0 then (.error (.quotaExceeded "fail_limited_allowance_unconfigured"), store)
  else
    let counterKey := runtimeQuotaLossAllowanceKey policy now
    let (taken, decision) := store.incrementRuntimePolicyLossAllowanceCounter counterKey 1 limit
    if !decision.allowed then (.error (.quotaExceeded "fail_limited_allowance_exhausted"), taken)
    else match policy.counterKind, policy.incrementSource with
      | .concurrentRequest, .preflightAcquire => (.ok (some ⟨counterKey, 1, .lossAllowance⟩), taken)
      | .concurrentStream, .streamStart => (.ok (some ⟨counterKey, 1, .lossAllowance⟩), taken)
      | _, _ => (.ok none, taken)

def handleRuntimeQuotaHotStateLoss (policy : QuotaPolicyRecord) (now : DateTime) (store : RuntimePolicyStore) :
    Result (Option RuntimeQuotaReservation) × RuntimePolicyStore :=
  match policy.lossBehavior with
  | .failOpen => (.ok none, store)
  | .failLimited => reserveRuntimeQuotaLossAllowance policy now store
  | .failClosed => (.error (.quotaExceeded "hot_state_unavailable"), store)

def reserveRuntimeQuotaCounter (policy : QuotaPolicyRecord) (amount : Int) (reason : String) (now : DateTime)
    (store : RuntimePolicyStore) : Result RuntimeQuotaReservation × RuntimePolicyStore :=
  let counterKey := runtimeQuotaCounterKey policy now
  let (taken, current) := store.adjustRuntimePolicyCounter counterKey amount
  if policy.limit < current then
    (.error (.quotaExceeded reason), (taken.adjustRuntimePolicyCounter counterKey (-amount)).1)
  else (.ok ⟨counterKey, amount, .hotState⟩, taken)

def reserveQuotaPolicy (input : PreflightInput) (hotStateAvailable : Bool) (policy : QuotaPolicyRecord)
    (reservations : List RuntimeQuotaReservation) (store : RuntimePolicyStore) :
    Result (Option RuntimeQuotaReservation) × RuntimePolicyStore :=
  if runtimeQuotaPolicyNeedsHotState policy && !hotStateAvailable then
    handleRuntimeQuotaHotStateLoss policy input.now store
  else match policy.counterKind, policy.incrementSource with
    | .requestRate, .acceptedPreflightRequest =>
      let (counted, decision) :=
        store.incrementRuntimeQuotaCounter (runtimeQuotaCounterKey policy input.now) 1 policy.limit
      if !decision.allowed then
        (.error (.quotaExceeded "request_rate_limit_reached"), releaseRuntimeQuotaReservations counted reservations)
      else (.ok none, counted)
    | .concurrentRequest, .preflightAcquire => acquire "concurrent_request_limit_reached"
    | .concurrentStream, .streamStart => acquire "concurrent_stream_limit_reached"
    | _, _ => (.ok none, store)
where
  acquire (reason : String) : Result (Option RuntimeQuotaReservation) × RuntimePolicyStore :=
    match reserveRuntimeQuotaCounter policy 1 reason input.now store with
    | (.ok reservation, store) => (.ok (some reservation), store)
    | (.error error, store) => (.error error, releaseRuntimeQuotaReservations store reservations)

def reserveRuntimeQuotaPreflight (input : PreflightInput) (hotStateAvailable : Bool) :
    List QuotaPolicyRecord → List RuntimeQuotaReservation → RuntimePolicyStore →
      Result (List RuntimeQuotaReservation) × RuntimePolicyStore
  | [], reservations, store => (.ok reservations, store)
  | policy :: policies, reservations, store =>
    if runtimeQuotaPolicySkipsRequest policy input.replayCase then
      reserveRuntimeQuotaPreflight input hotStateAvailable policies reservations store
    else match reserveQuotaPolicy input hotStateAvailable policy reservations store with
      | (.error error, store) => (.error error, store)
      | (.ok reservation, store) =>
        reserveRuntimeQuotaPreflight input hotStateAvailable policies (reservations ++ reservation.toList) store

def matchingQuotaPolicies (input : PreflightInput) : List QuotaPolicyRecord :=
  (quotaPoliciesForTenant input.quotaPolicies input.actor.tenantId).filter fun policy =>
    policy.status == .active &&
      runtimeQuotaPolicyMatchesRequest policy input.actor input.replayCase input.selected

def enforceRuntimeQuotaPreflight (input : PreflightInput) (store : RuntimePolicyStore) :
    Result (List RuntimeQuotaReservation) × RuntimePolicyStore :=
  let hotStateAvailable := store.runtimePolicyHotStateAvailable
  match enforceRuntimeQuotaPreflightLimits input store hotStateAvailable (matchingQuotaPolicies input) with
  | .error error => (.error error, store)
  | .ok () => reserveRuntimeQuotaPreflight input hotStateAvailable (matchingQuotaPolicies input) [] store

def enforceRuntimePolicyPreflight (input : PreflightInput) (store : RuntimePolicyStore) :
    Result RuntimePolicyPreflight × RuntimePolicyStore :=
  match enforceRuntimeBudgetPreflight input store with
  | (.error error, store) => (.error error, store)
  | (.ok budgetReservations, store) =>
    match enforceRuntimeQuotaPreflight input store with
    | (.ok quotaReservations, store) => (.ok ⟨budgetReservations, quotaReservations⟩, store)
    | (.error error, store) => (.error error, releaseRuntimeBudgetReservations store budgetReservations)

end Starweaver.Gateway
