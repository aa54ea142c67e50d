import Mathlib.Data.List.AList
import Starweaver.Library.Json
import Starweaver.Library.Separated
import Starweaver.Gateway.Domain

namespace Starweaver.Gateway

open Library Library.Calendar Library.MachineInt Library.Separated

inductive UsageStatus
  | success
  | error
  | partialResponse
  | canceled
  | blocked
deriving DecidableEq, Repr

def UsageStatus.asStr : UsageStatus → String
  | .success => "success"
  | .error => "error"
  | .partialResponse => "partial"
  | .canceled => "canceled"
  | .blocked => "blocked"

inductive UsageConfidence
  | exact
  | partialUsage
  | estimated
  | missing
deriving DecidableEq, Repr

def UsageConfidence.asStr : UsageConfidence → String
  | .exact => "exact"
  | .partialUsage => "partial"
  | .estimated => "estimated"
  | .missing => "missing"

inductive BucketKind
  | event
  | minute
  | hour
  | day
  | month
deriving DecidableEq, Repr

def BucketKind.asStr : BucketKind → String
  | .event => "event"
  | .minute => "minute"
  | .hour => "hour"
  | .day => "day"
  | .month => "month"

def bucketKinds : List BucketKind := [.event, .minute, .hour, .day, .month]

structure UsageDimensions where
  tenantId : String
  organizationId : Option String
  projectId : Option String
  principalId : Option String
  projectMemberId : Option String
  serviceAccountId : Option String
  apiKeyId : Option String
  modelAliasId : Option String
  modelTargetId : Option String
  providerEndpointId : Option String
  upstreamCredentialId : Option String
  routePolicyId : Option String
  routingGroupId : Option String
  protocolFamily : ProtocolFamily
  status : UsageStatus
  usageConfidence : UsageConfidence
deriving DecidableEq, Repr

structure UsageEventRecord extends UsageDimensions where
  usageEventId : String
  requestId : String
  usagePayload : Json
  costPayload : Json
  occurredAt : DateTime

@[ext] structure UsageCounters where
  inputTokens : Int
  outputTokens : Int
  reasoningTokens : Int
  mediaUnits : Int
  requestCount : Int
  successCount : Int
  errorCount : Int
  blockedCount : Int
  usageMissingCount : Int
  usageEstimatedCount : Int
  estimatedCostMicros : Int
deriving DecidableEq, Repr

namespace UsageCounters

def zero : UsageCounters := ⟨0, 0, 0, 0, 0, 0, 0, 0, 0, 0, 0⟩

def map (f : Int → Int) (a : UsageCounters) : UsageCounters :=
  ⟨f a.inputTokens, f a.outputTokens, f a.reasoningTokens, f a.mediaUnits, f a.requestCount, f a.successCount,
    f a.errorCount, f a.blockedCount, f a.usageMissingCount, f a.usageEstimatedCount, f a.estimatedCostMicros⟩

def add (a b : UsageCounters) : UsageCounters :=
  ⟨a.inputTokens + b.inputTokens, a.outputTokens + b.outputTokens, a.reasoningTokens + b.reasoningTokens,
    a.mediaUnits + b.mediaUnits, a.requestCount + b.requestCount, a.successCount + b.successCount,
    a.errorCount + b.errorCount, a.blockedCount + b.blockedCount, a.usageMissingCount + b.usageMissingCount,
    a.usageEstimatedCount + b.usageEstimatedCount, a.estimatedCostMicros + b.estimatedCostMicros⟩

def toList (a : UsageCounters) : List Int :=
  [a.inputTokens, a.outputTokens, a.reasoningTokens, a.mediaUnits, a.requestCount, a.successCount, a.errorCount,
    a.blockedCount, a.usageMissingCount, a.usageEstimatedCount, a.estimatedCostMicros]

instance : Zero UsageCounters := ⟨zero⟩
instance : Add UsageCounters := ⟨add⟩

theorem add_def (a b : UsageCounters) : a + b = a.add b := rfl

theorem zero_def : (0 : UsageCounters) = zero := rfl

instance : AddCommMonoid UsageCounters where
  add_assoc a b c := by simp only [add_def, add, Int.add_assoc]
  zero_add a := by simp only [add_def, zero_def, add, zero, Int.zero_add]
  add_zero a := by simp only [add_def, zero_def, add, zero, Int.add_zero]
  add_comm a b := by simp only [add_def, add, Int.add_comm]
  nsmul := nsmulRec

theorem map_wrap_add (a b : UsageCounters) : (a.map wrap + b).map wrap = (a + b).map wrap := by
  simp only [add_def, add, map, wrap_wrap_add]

theorem sum_map_wrap (list : List UsageCounters) : ((list.map (map wrap)).sum).map wrap = list.sum.map wrap := by
  induction list with
  | nil => rfl
  | cons a list ih =>
    rw [List.map_cons, List.sum_cons, List.sum_cons, map_wrap_add, add_comm, ← map_wrap_add, ih, map_wrap_add, add_comm]

end UsageCounters

structure LedgerBucketRecord extends UsageDimensions where
  bucketKind : BucketKind
  bucketStart : DateTime
  currencyCode : String
  counters : UsageCounters
  pricingVersion : String
  updatedAt : DateTime
deriving DecidableEq, Repr

def usageBucketStart (bucketKind : BucketKind) (occurredAt : DateTime) : DateTime :=
  let seconds := occurredAt.timestamp
  match bucketKind with
  | .minute => (DateTime.fromTimestamp (seconds - seconds % 60)).getD occurredAt
  | .hour => (DateTime.fromTimestamp (seconds - seconds % 3600)).getD occurredAt
  | .day => (DateTime.fromTimestamp (seconds - seconds % 86400)).getD occurredAt
  | .month => DateTime.midnight ⟨occurredAt.year, occurredAt.month, 1⟩
  | .event => occurredAt

/-- The optional ids of the dimensions, in the order of the bucket key. -/
def UsageDimensions.ids (d : UsageDimensions) : List (Option String) :=
  [d.organizationId, d.projectId, d.principalId, d.projectMemberId, d.serviceAccountId, d.apiKeyId,
    d.modelAliasId, d.modelTargetId, d.providerEndpointId, d.upstreamCredentialId, d.routePolicyId, d.routingGroupId]

def UsageDimensions.keyParts (d : UsageDimensions) : List String :=
  d.tenantId :: d.ids.map (·.getD "") ++ [d.protocolFamily.asStr, d.status.asStr, d.usageConfidence.asStr]

def usageBucketKey (record : UsageDimensions) (bucketKind : BucketKind) (bucketStart : DateTime) : String :=
  joined (record.keyParts ++ [bucketKind.asStr]) ++ "|" ++ toString bucketStart.timestamp

def usagePayloadI64 (payload : Json) (key : String) : Int := ((payload.get key).bind Json.asI64).getD 0

def UsageEventRecord.counters (record : UsageEventRecord) : UsageCounters where
  inputTokens := usagePayloadI64 record.usagePayload "input_tokens"
  outputTokens := usagePayloadI64 record.usagePayload "output_tokens"
  reasoningTokens := usagePayloadI64 record.usagePayload "reasoning_tokens"
  mediaUnits := usagePayloadI64 record.usagePayload "image_input_units" +
    usagePayloadI64 record.usagePayload "image_output_units" +
    usagePayloadI64 record.usagePayload "audio_input_units" +
    usagePayloadI64 record.usagePayload "audio_output_units" + usagePayloadI64 record.usagePayload "request_units"
  requestCount := 1
  successCount := if record.status = .success then 1 else 0
  errorCount := if record.status = .error ∨ record.status = .partialResponse ∨ record.status = .canceled then 1 else 0
  blockedCount := if record.status = .blocked then 1 else 0
  usageMissingCount := if record.usageConfidence = .missing then 1 else 0
  usageEstimatedCount := if record.usageConfidence = .estimated then 1 else 0
  estimatedCostMicros := usagePayloadI64 record.costPayload "total_cost"

/-- The empty bucket that the first event of a key creates. -/
def LedgerBucketRecord.opened (record : UsageEventRecord) (bucketKind : BucketKind) : LedgerBucketRecord where
  toUsageDimensions := record.toUsageDimensions
  bucketKind := bucketKind
  bucketStart := usageBucketStart bucketKind record.occurredAt
  currencyCode := ((record.costPayload.get "currency").bind Json.asStr).getD "USD"
  counters := 0
  pricingVersion := ((record.costPayload.get "pricing_version").bind Json.asStr).getD "unpriced"
  updatedAt := record.occurredAt

def LedgerBucketRecord.add (bucket : LedgerBucketRecord) (record : UsageEventRecord) : LedgerBucketRecord :=
  { bucket with
    counters := (bucket.counters + record.counters).map wrap
    updatedAt := bucket.updatedAt.max record.occurredAt }

abbrev LedgerBuckets := AList (fun _ : String => LedgerBucketRecord)

def UsageEventRecord.bucketKey (record : UsageEventRecord) (bucketKind : BucketKind) : String :=
  usageBucketKey record.toUsageDimensions bucketKind (usageBucketStart bucketKind record.occurredAt)

def foldUsageEventIntoBucket (buckets : LedgerBuckets) (record : UsageEventRecord) (bucketKind : BucketKind) :
    LedgerBuckets :=
  let key := record.bucketKey bucketKind
  buckets.insert key (((buckets.lookup key).getD (.opened record bucketKind)).add record)

structure UsageStore where
  usageEvents : List UsageEventRecord
  ledgerBuckets : LedgerBuckets

namespace UsageStore

def empty : UsageStore := ⟨[], ∅⟩

def isDuplicate (events : List UsageEventRecord) (record : UsageEventRecord) : Bool :=
  events.any fun existing => existing.usageEventId == record.usageEventId ||
    (existing.tenantId == record.tenantId && existing.requestId == record.requestId)

def recordUsageEvent (store : UsageStore) (record : UsageEventRecord) : UsageStore :=
  if isDuplicate store.usageEvents record then store
  else ⟨store.usageEvents ++ [record],
    bucketKinds.foldl (fun buckets kind => foldUsageEventIntoBucket buckets record kind) store.ledgerBuckets⟩

def recordAll (store : UsageStore) (records : List UsageEventRecord) : UsageStore := records.foldl recordUsageEvent store

def ledgerBucketsForTenant (store : UsageStore) (tenantId : String) : List LedgerBucketRecord :=
  (store.ledgerBuckets.entries.map Sigma.snd).filter fun bucket => bucket.tenantId == tenantId

end UsageStore

end Starweaver.Gateway
