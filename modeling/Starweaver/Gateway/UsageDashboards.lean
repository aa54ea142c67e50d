import Starweaver.Library.Grouping
import Starweaver.Gateway.ExportPaging
import Starweaver.Gateway.LedgerCount
import Starweaver.Gateway.Reconciler

/-! The usage dashboards: what the summary, the timeseries and the breakdowns show of the usage that was recorded. -/

namespace Starweaver.Gateway

open Library Library.AssocMap Library.Calendar Library.Grouping Library.MachineInt Library.SortBy

structure UsageMeasures where
  requestCount : Int
  successCount : Int
  errorCount : Int
  inputTokens : Int
  outputTokens : Int
  reasoningTokens : Int
  mediaUnits : Int
  estimatedCostMicros : Int
  usageMissingCount : Int
  usageEstimatedCount : Int
deriving DecidableEq, Repr

structure DashboardUsageRollup extends UsageMeasures where
  p50LatencyMs : Option Int
  p95LatencyMs : Option Int
  p99LatencyMs : Option Int
  p50TtftMs : Option Int
  latestSourceAt : Option DateTime

def DashboardUsageRollup.default : DashboardUsageRollup :=
  ⟨⟨0, 0, 0, 0, 0, 0, 0, 0, 0, 0⟩, none, none, none, none, none⟩

def dashboardBucketMatchesScope (bucket : LedgerBucketRecord) (scope : DashboardScopeInput) : Bool :=
  bucket.tenantId == scope.tenantId &&
    match scope.scopeKind with
    | "tenant" => bucket.tenantId == scope.scopeId
    | "organization" => bucket.organizationId == scope.organizationId
    | "project" => bucket.projectId == scope.projectId
    | "project_member" => bucket.projectMemberId == scope.projectMemberId
    | "api_key" => bucket.apiKeyId == some scope.scopeId
    | "service_account" => bucket.serviceAccountId == some scope.scopeId
    | "model_alias" => bucket.modelAliasId == some scope.scopeId
    | "model_target" => bucket.modelTargetId == some scope.scopeId
    | "provider_endpoint" => bucket.providerEndpointId == some scope.scopeId
    | "route_policy" => bucket.routePolicyId == some scope.scopeId
    | "routing_group" => bucket.routingGroupId == some scope.scopeId
    | "protocol_family" => bucket.protocolFamily.asStr == scope.scopeId
    | _ => false

def accumulateUsageBucket (rollup : DashboardUsageRollup) (bucket : LedgerBucketRecord) : DashboardUsageRollup :=
  { rollup with
    requestCount := wrap (rollup.requestCount + bucket.counters.requestCount)
    successCount := wrap (rollup.successCount + bucket.counters.successCount)
    errorCount := wrap (rollup.errorCount + bucket.counters.errorCount)
    inputTokens := wrap (rollup.inputTokens + bucket.counters.inputTokens)
    outputTokens := wrap (rollup.outputTokens + bucket.counters.outputTokens)
    reasoningTokens := wrap (rollup.reasoningTokens + bucket.counters.reasoningTokens)
    mediaUnits := wrap (rollup.mediaUnits + bucket.counters.mediaUnits)
    estimatedCostMicros := wrap (rollup.estimatedCostMicros + bucket.counters.estimatedCostMicros)
    usageMissingCount := wrap (rollup.usageMissingCount + bucket.counters.usageMissingCount)
    usageEstimatedCount := wrap (rollup.usageEstimatedCount + bucket.counters.usageEstimatedCount)
    latestSourceAt := some (rollup.latestSourceAt.elim bucket.updatedAt fun latest => latest.max bucket.updatedAt) }

/-- The value at the rank, rounded up, of the sorted values. -/
def percentileI64 (values : List Int) (percentile : Nat) : Option Int :=
  if values = [] then none
  else (sortBy compare values)[((values.length - 1) * percentile + 99) / 100]?

section Views

variable (ledgerBuckets : List LedgerBucketRecord) (scope : DashboardScopeInput)

def bucketsInScope (bucketKind : BucketKind) : List LedgerBucketRecord :=
  (ledgerBuckets.filter fun bucket => bucket.bucketKind == bucketKind).filter fun bucket =>
    dashboardBucketMatchesScope bucket scope

def dashboardUsageRollupFromRecords (usageEvents : List MeasuredUsageEvent) : DashboardUsageRollup :=
  let scopedUsageEvents := usageEvents.filter fun event =>
    dashboardUsageEventMatchesScope event.toUsageEventRecord scope
  let latencies := scopedUsageEvents.filterMap (·.latencyMs)
  let ttfts := scopedUsageEvents.filterMap (·.timeToFirstTokenMs)
  { (bucketsInScope ledgerBuckets scope .event).foldl accumulateUsageBucket .default with
    p50LatencyMs := percentileI64 latencies 50
    p95LatencyMs := percentileI64 latencies 95
    p99LatencyMs := percentileI64 latencies 99
    p50TtftMs := percentileI64 ttfts 50 }

def compareStarts (left right : (_ : DateTime) × DashboardUsageRollup) : Ordering :=
  compare left.1.nanos right.1.nanos

def usageTimeseriesPointsFromBuckets (bucketKind : BucketKind) : List (DateTime × DashboardUsageRollup) :=
  let points := group (fun bucket : LedgerBucketRecord => some bucket.bucketStart) (fun _ => .default)
    accumulateUsageBucket (bucketsInScope ledgerBuckets scope bucketKind)
  (sortBy compareStarts points.entries).map fun entry => (entry.1, entry.2)

inductive UsageBreakdownDimension
  | project
  | projectMember
  | model
  | providerEndpoint
deriving DecidableEq, Repr

def usageBreakdownGroup (record : UsageDimensions) : UsageBreakdownDimension → Option (String × String)
  | .project => record.projectId.map fun id => ("project", id)
  | .projectMember => record.projectMemberId.map fun id => ("project_member", id)
  | .model => (record.modelAliasId.map fun id => ("model_alias", id)).or
      (record.modelTargetId.map fun id => ("model_target", id))
  | .providerEndpoint => record.providerEndpointId.map fun id => ("provider_endpoint", id)

structure BreakdownRow where
  groupKind : String
  groupId : String
  rollup : DashboardUsageRollup

/-- Most requests first, then by the id of the group. -/
def compareRows (left right : BreakdownRow) : Ordering :=
  (compare right.rollup.requestCount left.rollup.requestCount).then (compare left.groupId right.groupId)

/-- The rows before they are cut into pages. -/
def usageBreakdownRows (dimension : UsageBreakdownDimension) : List BreakdownRow :=
  let groups := group
    (fun bucket : LedgerBucketRecord =>
      (usageBreakdownGroup bucket.toUsageDimensions dimension).map fun (groupKind, groupId) => s!"{groupKind}:{groupId}")
    (fun bucket =>
      let (groupKind, groupId) := (usageBreakdownGroup bucket.toUsageDimensions dimension).getD ("", "")
      (⟨groupKind, groupId, .default⟩ : BreakdownRow))
    (fun row bucket => { row with rollup := accumulateUsageBucket row.rollup bucket })
    (bucketsInScope ledgerBuckets scope .event)
  sortBy compareRows (groups.entries.map (·.2))

end Views

end Starweaver.Gateway
