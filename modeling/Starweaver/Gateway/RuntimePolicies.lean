import Starweaver.Library.Checks
import Starweaver.Library.Separated
import Starweaver.Library.SortBy
import Starweaver.Gateway.Domain

namespace Starweaver.Gateway

open Library.Calendar Library.Separated Library.SortBy

inductive BudgetScopeKind
  | tenant
  | organization
  | project
  | credential
  | modelAlias
  | group
  | endpoint
  | target
deriving DecidableEq, Repr

def BudgetScopeKind.asStr : BudgetScopeKind → String
  | .tenant => "tenant"
  | .organization => "organization"
  | .project => "project"
  | .credential => "credential"
  | .modelAlias => "alias"
  | .group => "group"
  | .endpoint => "endpoint"
  | .target => "target"

inductive BudgetPeriod
  | rolling
  | calendarDay
  | calendarMonth
  | lifetime
  | customWindow
deriving DecidableEq, Repr

def BudgetPeriod.asStr : BudgetPeriod → String
  | .rolling => "rolling"
  | .calendarDay => "calendar_day"
  | .calendarMonth => "calendar_month"
  | .lifetime => "lifetime"
  | .customWindow => "custom_window"

inductive BudgetLimitKind
  | cost
  | tokens
  | requests
  | concurrency
  | streamSeconds
deriving DecidableEq, Repr

def BudgetLimitKind.asStr : BudgetLimitKind → String
  | .cost => "cost"
  | .tokens => "tokens"
  | .requests => "requests"
  | .concurrency => "concurrency"
  | .streamSeconds => "stream_seconds"

inductive BudgetOverageMode
  | notifyOnly
  | blockNewRequests
  | preferLowCostRoute
  | fallbackLowCostRoute
  | requireExactUsage
deriving DecidableEq, Repr

structure BudgetPolicyRecord where
  budgetPolicyId : String
  tenantId : String
  scopeKind : BudgetScopeKind
  scopeId : String
  currency : Option String
  period : BudgetPeriod
  limitKind : BudgetLimitKind
  hardLimit : Option Int
  overageMode : BudgetOverageMode
  status : ResourceStatus
deriving DecidableEq, Repr

def requestBudget (id : String) (limit : Int) : BudgetPolicyRecord :=
  ⟨id, "tenant_1", .tenant, "tenant_1", none, .lifetime, .requests, some limit, .blockNewRequests, .active⟩

inductive QuotaScopeKind
  | tenant
  | organization
  | project
  | credential
  | modelAlias
  | endpoint
  | protocolFamily
deriving DecidableEq, Repr

def QuotaScopeKind.asStr : QuotaScopeKind → String
  | .tenant => "tenant"
  | .organization => "organization"
  | .project => "project"
  | .credential => "credential"
  | .modelAlias => "alias"
  | .endpoint => "endpoint"
  | .protocolFamily => "protocol_family"

inductive QuotaCounterKind
  | requestRate
  | tokenEstimateRate
  | tokenActualRate
  | concurrentRequest
  | concurrentStream
  | streamDuration
  | requestBodyBytes
deriving DecidableEq, Repr

def QuotaCounterKind.asStr : QuotaCounterKind → String
  | .requestRate => "request_rate"
  | .tokenEstimateRate => "token_estimate_rate"
  | .tokenActualRate => "token_actual_rate"
  | .concurrentRequest => "concurrent_request"
  | .concurrentStream => "concurrent_stream"
  | .streamDuration => "stream_duration"
  | .requestBodyBytes => "request_body_bytes"

inductive QuotaWindow
  | fixed
  | sliding
  | ledgerBucket
  | requestLifetime
  | streamLifetime
deriving DecidableEq, Repr

def QuotaWindow.asStr : QuotaWindow → String
  | .fixed => "fixed"
  | .sliding => "sliding"
  | .ledgerBucket => "ledger_bucket"
  | .requestLifetime => "request_lifetime"
  | .streamLifetime => "stream_lifetime"

inductive QuotaIncrementSource
  | acceptedPreflightRequest
  | requestEstimate
  | terminalUsageEvent
  | preflightAcquire
  | streamStart
  | requestBodyBytes
deriving DecidableEq, Repr

inductive QuotaLossBehavior
  | failOpen
  | failLimited
  | failClosed
deriving DecidableEq, Repr

structure QuotaPolicyRecord where
  quotaPolicyId : String
  tenantId : String
  scopeKind : QuotaScopeKind
  scopeId : String
  counterKind : QuotaCounterKind
  limit : Int
  burstLimit : Option Int
  window : QuotaWindow
  incrementSource : QuotaIncrementSource
  lossBehavior : QuotaLossBehavior
  status : ResourceStatus
deriving DecidableEq, Repr

def concurrentRequestQuota : QuotaPolicyRecord where
  quotaPolicyId := "qta_1"
  tenantId := "tenant_1"
  scopeKind := .tenant
  scopeId := "tenant_1"
  counterKind := .concurrentRequest
  limit := 1
  burstLimit := none
  window := .requestLifetime
  incrementSource := .preflightAcquire
  lossBehavior := .failClosed
  status := .active

def quotaCounterScopeSupported : QuotaCounterKind → QuotaScopeKind → Bool
  | .requestRate, scope | .tokenEstimateRate, scope | .tokenActualRate, scope =>
    [.tenant, .organization, .project, .credential, .modelAlias].contains scope
  | .concurrentRequest, scope | .concurrentStream, scope =>
    [.tenant, .organization, .project, .credential].contains scope
  | .streamDuration, scope => [.credential, .modelAlias, .endpoint].contains scope
  | .requestBodyBytes, scope => [.credential, .modelAlias, .protocolFamily].contains scope

def quotaCounterWindowSupported : QuotaCounterKind → QuotaWindow → Bool
  | .requestRate, window | .tokenEstimateRate, window | .requestBodyBytes, window =>
    [.fixed, .sliding].contains window
  | .tokenActualRate, window => [.fixed, .ledgerBucket].contains window
  | .concurrentRequest, window => window == .requestLifetime
  | .concurrentStream, window => window == .streamLifetime
  | .streamDuration, window => [.fixed, .sliding, .streamLifetime].contains window

def quotaCounterIncrementSourceSupported : QuotaCounterKind → QuotaIncrementSource → Bool
  | .requestRate, source => source == .acceptedPreflightRequest
  | .tokenEstimateRate, source => source == .requestEstimate
  | .tokenActualRate, source => source == .terminalUsageEvent
  | .concurrentRequest, source => source == .preflightAcquire
  | .concurrentStream, source | .streamDuration, source => source == .streamStart
  | .requestBodyBytes, source => source == .requestBodyBytes

/-- The checks of `validate_quota_policy_shape` that the enumeration types do not already make. -/
def validateQuotaPolicyShape (policy : QuotaPolicyRecord) : Result Unit :=
  if policy.limit ≤ 0 then .error (.badRequest "quota_policy_limit_positive_required")
  else if policy.burstLimit.any (fun limit => decide (limit ≤ 0)) then
    .error (.badRequest "quota_policy_burst_limit_positive_required")
  else if policy.lossBehavior = .failLimited ∧ policy.burstLimit.isNone then
    .error (.badRequest "quota_policy_fail_limited_burst_required")
  else if !quotaCounterScopeSupported policy.counterKind policy.scopeKind then
    .error (.badRequest "quota_policy_counter_scope_invalid")
  else if !quotaCounterWindowSupported policy.counterKind policy.window then
    .error (.badRequest "quota_policy_window_invalid")
  else if !quotaCounterIncrementSourceSupported policy.counterKind policy.incrementSource then
    .error (.badRequest "quota_policy_increment_source_invalid")
  else .ok ()

structure QuotaPolicyShape (policy : QuotaPolicyRecord) : Prop where
  limit_pos : 0 < policy.limit
  window_supported : quotaCounterWindowSupported policy.counterKind policy.window = true
  source_supported : quotaCounterIncrementSourceSupported policy.counterKind policy.incrementSource = true

theorem validateQuotaPolicyShape_shape {policy : QuotaPolicyRecord} (h : validateQuotaPolicyShape policy = .ok ()) :
    QuotaPolicyShape policy := by
  unfold validateQuotaPolicyShape at h
  split at h
  · cases h
  rename_i hlimit
  split at h
  · cases h
  split at h
  · cases h
  split at h
  · cases h
  split at h
  · cases h
  rename_i hwindow
  split at h
  · cases h
  rename_i hsource
  exact ⟨by omega, by simpa using hwindow, by simpa using hsource⟩

def budgetPoliciesForTenant (policies : List BudgetPolicyRecord) (tenantId : String) : List BudgetPolicyRecord :=
  sortBy (fun left right => (compare left.scopeKind.asStr right.scopeKind.asStr).then
      ((compare left.scopeId right.scopeId).then ((compare left.limitKind.asStr right.limitKind.asStr).then
        (compare left.budgetPolicyId right.budgetPolicyId))))
    (policies.filter fun policy => policy.tenantId == tenantId)

def quotaPoliciesForTenant (policies : List QuotaPolicyRecord) (tenantId : String) : List QuotaPolicyRecord :=
  sortBy (fun left right => (compare left.scopeKind.asStr right.scopeKind.asStr).then
      ((compare left.scopeId right.scopeId).then ((compare left.counterKind.asStr right.counterKind.asStr).then
        (compare left.quotaPolicyId right.quotaPolicyId))))
    (policies.filter fun policy => policy.tenantId == tenantId)

structure SelectedRouteEvidence where
  modelAliasId : String
  routePolicyId : String
  routingGroupId : String
  modelTargetId : String
  providerEndpointId : String
  upstreamCredentialId : Option String
deriving DecidableEq, Repr

structure GatewayReplayCase where
  protocolFamily : ProtocolFamily
  streaming : Bool
deriving DecidableEq, Repr

def runtimeBudgetPolicyIsPreflightEnforced (policy : BudgetPolicyRecord) : Bool :=
  policy.status == .active && policy.overageMode == .blockNewRequests &&
    [.requests, .tokens, .cost].contains policy.limitKind

def runtimeBudgetPolicyMatchesRequest (policy : BudgetPolicyRecord) (actor : AuthenticatedActor)
    (selected : Option SelectedRouteEvidence) : Bool :=
  match policy.scopeKind with
  | .tenant => policy.scopeId == actor.tenantId
  | .organization => actor.organizationId == some policy.scopeId
  | .project => actor.projectId == some policy.scopeId
  | .credential => (selected.bind (·.upstreamCredentialId)) == some policy.scopeId
  | .modelAlias => selected.any (fun route => route.modelAliasId == policy.scopeId)
  | .group => selected.any (fun route => route.routingGroupId == policy.scopeId)
  | .endpoint => selected.any (fun route => route.providerEndpointId == policy.scopeId)
  | .target => selected.any (fun route => route.modelTargetId == policy.scopeId)

def runtimeQuotaPolicyMatchesRequest (policy : QuotaPolicyRecord) (actor : AuthenticatedActor)
    (replayCase : GatewayReplayCase) (selected : Option SelectedRouteEvidence) : Bool :=
  match policy.scopeKind with
  | .tenant => policy.scopeId == actor.tenantId
  | .organization => actor.organizationId == some policy.scopeId
  | .project => actor.projectId == some policy.scopeId
  | .credential => (selected.bind (·.upstreamCredentialId)) == some policy.scopeId
  | .modelAlias => selected.any (fun route => route.modelAliasId == policy.scopeId)
  | .endpoint => selected.any (fun route => route.providerEndpointId == policy.scopeId)
  | .protocolFamily => replayCase.protocolFamily.asStr == policy.scopeId

def padLeft (width : Nat) (text : String) : String :=
  String.ofList (List.replicate (width - text.length) '0') ++ text

/-- A year as `%Y` prints it: four digits, with a sign outside the range from 0 to 9999. -/
def formatYear (year : Int) : String :=
  if 0 ≤ year ∧ year ≤ 9999 then padLeft 4 (toString year)
  else if 0 ≤ year then "+" ++ toString year
  else "-" ++ padLeft 4 (toString (-year))

def runtimeBudgetReservationPeriodKey (policy : BudgetPolicyRecord) (now : DateTime) : String :=
  match policy.period with
  | .calendarDay =>
    formatYear now.civil.year ++ "-" ++ padLeft 2 (toString now.civil.month) ++ "-" ++
      padLeft 2 (toString now.civil.day)
  | .calendarMonth => toString now.civil.year ++ "-" ++ padLeft 2 (toString now.civil.month)
  | _ => "all_time"

def runtimeBudgetReservationKey (policy : BudgetPolicyRecord) (now : DateTime) : String :=
  joined [policy.tenantId, policy.budgetPolicyId, policy.scopeKind.asStr, policy.scopeId, policy.limitKind.asStr,
    policy.period.asStr, runtimeBudgetReservationPeriodKey policy now]

def runtimeQuotaWindowSlot (policy : QuotaPolicyRecord) (now : DateTime) : String :=
  match policy.window with
  | .fixed | .sliding => toString (now.timestamp / 60)
  | .requestLifetime | .streamLifetime => "active"
  | .ledgerBucket => "ledger_bucket"

def runtimeQuotaCounterKey (policy : QuotaPolicyRecord) (now : DateTime) : String :=
  joined [policy.tenantId, policy.quotaPolicyId, policy.scopeKind.asStr, policy.scopeId, policy.counterKind.asStr,
    policy.window.asStr, runtimeQuotaWindowSlot policy now]

def runtimeQuotaLossAllowanceKey (policy : QuotaPolicyRecord) (now : DateTime) : String :=
  "loss|" ++ runtimeQuotaCounterKey policy now

theorem runtimeBudgetReservationKey_inj {policy other : BudgetPolicyRecord} (htenant : BarFree policy.tenantId)
    (htenant' : BarFree other.tenantId) (hfree : BarFree policy.budgetPolicyId)
    (hfree' : BarFree other.budgetPolicyId) {now later : DateTime}
    (h : runtimeBudgetReservationKey policy now = runtimeBudgetReservationKey other later) :
    policy.budgetPolicyId = other.budgetPolicyId :=
  (joined_heads_inj htenant htenant' hfree hfree' h).2

theorem runtimeQuotaCounterKey_inj {policy other : QuotaPolicyRecord} (htenant : BarFree policy.tenantId)
    (htenant' : BarFree other.tenantId) (hfree : BarFree policy.quotaPolicyId) (hfree' : BarFree other.quotaPolicyId)
    {now later : DateTime} (h : runtimeQuotaCounterKey policy now = runtimeQuotaCounterKey other later) :
    policy.quotaPolicyId = other.quotaPolicyId :=
  (joined_heads_inj htenant htenant' hfree hfree' h).2

theorem budgetKey_ne_quotaKey {policy : BudgetPolicyRecord} {quota : QuotaPolicyRecord}
    (htenant : BarFree policy.tenantId) (htenant' : BarFree quota.tenantId) (hfree : BarFree policy.budgetPolicyId)
    (hfree' : BarFree quota.quotaPolicyId) (hne : policy.budgetPolicyId ≠ quota.quotaPolicyId)
    (now later : DateTime) : runtimeBudgetReservationKey policy now ≠ runtimeQuotaCounterKey quota later :=
  fun h => hne (joined_heads_inj htenant htenant' hfree hfree' h).2

theorem runtimeQuotaLossAllowanceKey_inj {policy other : QuotaPolicyRecord} {now later : DateTime}
    (h : runtimeQuotaLossAllowanceKey policy now = runtimeQuotaLossAllowanceKey other later) :
    runtimeQuotaCounterKey policy now = runtimeQuotaCounterKey other later :=
  (String.append_right_inj _).mp h

end Starweaver.Gateway
